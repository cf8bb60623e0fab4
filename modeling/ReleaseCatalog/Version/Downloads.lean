/-
The files in which the data of a version can be downloaded, at most one for each format.
-/

import ReleaseCatalog.Json.Record

namespace ReleaseCatalog

/-- One downloadable file. -/
structure Download where
  href : String := ""
  size : String := ""
  /-- Where the file is public; empty until it has been made so. -/
  publicUrl : String := ""
  privateUrl : String := ""
  deriving DecidableEq, Repr, Inhabited

/-- The formats of downloads. -/
inductive Format where
  | csv | csvw | xls | xlsx | txt
  deriving DecidableEq, Repr

namespace Format

/-- All formats, in the order in which they are listed. -/
def all : List Format := [csv, csvw, xls, xlsx, txt]

/-- The name of a format. -/
def name : Format → String
  | csv => "csv"
  | csvw => "csvw"
  | xls => "xls"
  | xlsx => "xlsx"
  | txt => "txt"

end Format

/-- The downloads of a version by format. -/
structure Downloads where
  csv : Option Download := none
  csvw : Option Download := none
  xls : Option Download := none
  xlsx : Option Download := none
  txt : Option Download := none
  deriving DecidableEq, Repr, Inhabited

namespace Download

/-- The fields of a download, in the order in which they are written. -/
def keys : List String := ["href", "size", "public", "private"]

/-- Empty fields are left out. -/
def toJson (download : Download) : Json :=
  .object (Json.unlessEmpty "href" download.href ++ Json.unlessEmpty "size" download.size ++
    Json.unlessEmpty "public" download.publicUrl ++ Json.unlessEmpty "private" download.privateUrl)

/-- Reads a download; every field may be missing. -/
def ofJson? (value : Json) : Option Download := do
  let fields ← Json.Fields.read? keys value
  some {
    href := ← fields.text "href"
    size := ← fields.text "size"
    publicUrl := ← fields.text "public"
    privateUrl := ← fields.text "private" }

end Download

namespace Downloads

/-- The download in a format. -/
def get? (downloads : Downloads) : Format → Option Download
  | .csv => downloads.csv
  | .csvw => downloads.csvw
  | .xls => downloads.xls
  | .xlsx => downloads.xlsx
  | .txt => downloads.txt

/-- The formats with their downloads, in the order in which they are listed. -/
def listed (downloads : Downloads) : List (Format × Option Download) :=
  Format.all.map fun format => (format, downloads.get? format)

/-- These downloads, and those of the fallback in every format that is missing here. -/
def fillMissingFrom (downloads fallback : Downloads) : Downloads where
  csv := downloads.csv <|> fallback.csv
  csvw := downloads.csvw <|> fallback.csvw
  xls := downloads.xls <|> fallback.xls
  xlsx := downloads.xlsx <|> fallback.xlsx
  txt := downloads.txt <|> fallback.txt

/-- Whether the CSV file is public already. -/
def hasPublicCsv (downloads : Downloads) : Bool :=
  match downloads.csv with
  | some csv => !csv.publicUrl.isEmpty
  | none => false

/-- Filling takes each format from the one that has it, and from the first if both do. -/
theorem get?_fillMissingFrom (downloads fallback : Downloads) (format : Format) :
    (downloads.fillMissingFrom fallback).get? format =
      (downloads.get? format <|> fallback.get? format) := by
  cases format <;> rfl

/-- The fields of a list of downloads, in the order in which they are written. -/
def keys : List String := ["csv", "csvw", "xls", "xlsx", "txt"]

/-- Missing formats are left out. -/
def toJson (downloads : Downloads) : Json :=
  .object (Json.optional "csv" Download.toJson downloads.csv ++
    Json.optional "csvw" Download.toJson downloads.csvw ++
    Json.optional "xls" Download.toJson downloads.xls ++
    Json.optional "xlsx" Download.toJson downloads.xlsx ++
    Json.optional "txt" Download.toJson downloads.txt)

/-- Reads a list of downloads; every format may be missing. -/
def ofJson? (value : Json) : Option Downloads := do
  let fields ← Json.Fields.read? keys value
  some {
    csv := ← fields.optional "csv" Download.ofJson?
    csvw := ← fields.optional "csvw" Download.ofJson?
    xls := ← fields.optional "xls" Download.ofJson?
    xlsx := ← fields.optional "xlsx" Download.ofJson?
    txt := ← fields.optional "txt" Download.ofJson? }

end Downloads

end ReleaseCatalog
