/-
The types of datasets. The type decides which workflow the versions of a dataset follow, which
generator makes their downloads, and whether an import instance stands behind them.
-/

import ReleaseCatalog.Json.Basic

namespace ReleaseCatalog

/-- A type of dataset. -/
inductive DatasetType where
  | filterable
  | cantabularTable
  | cantabularBlob
  | cantabularFlexibleTable
  | cantabularMultivariateTable
  | nomis
  | static
  deriving DecidableEq, Repr, Inhabited

namespace DatasetType

/-- All types. -/
def all : List DatasetType :=
  [filterable, cantabularTable, cantabularBlob, cantabularFlexibleTable,
    cantabularMultivariateTable, nomis, static]

/-- The name of a type. -/
def name : DatasetType → String
  | filterable => "filterable"
  | cantabularTable => "cantabular_table"
  | cantabularBlob => "cantabular_blob"
  | cantabularFlexibleTable => "cantabular_flexible_table"
  | cantabularMultivariateTable => "cantabular_multivariate_table"
  | nomis => "nomis"
  | static => "static"

/-- The type that a stored text names. The oldest documents have no type or the type `v4`; both
mean filterable. -/
def resolve? (text : String) : Option DatasetType :=
  if text = "" ∨ text = "v4" then some filterable
  else all.find? fun type => type.name == text

/-- Static datasets have no import behind them. -/
def isStatic : DatasetType → Bool
  | static => true
  | _ => false

/-- Whether the dataset comes from Cantabular. -/
def isCantabular : DatasetType → Bool
  | cantabularTable | cantabularBlob | cantabularFlexibleTable | cantabularMultivariateTable => true
  | _ => false

theorem mem_all (type : DatasetType) : type ∈ all := by
  cases type <;> decide

/-- A type is found by its own name. -/
theorem resolve?_name (type : DatasetType) : resolve? type.name = some type := by
  cases type <;> decide

/-- Types are written by name. -/
def toJson (type : DatasetType) : Json :=
  .string type.name

/-- A type is read from any text that names it. -/
def ofJson? : Json → Option DatasetType
  | .string text => resolve? text
  | _ => none

end DatasetType

end ReleaseCatalog
