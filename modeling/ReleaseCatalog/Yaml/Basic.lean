/-
YAML documents as trees. A scalar keeps its text, whether it was written plainly or in quotes, and
its tag, because what a plain text means is for its reader to decide.
-/

namespace ReleaseCatalog

/-- How a scalar was written. -/
inductive ScalarStyle where
  | plain
  | quoted
  deriving DecidableEq, Repr

/-- A YAML node. -/
inductive Yaml where
  | scalar (style : ScalarStyle) (tag : Option String) (text : String)
  | sequence (items : List Yaml)
  | mapping (entries : List (Yaml × Yaml))
  deriving Inhabited

namespace Yaml

/-- The node that stands where nothing was written. -/
def empty : Yaml :=
  .scalar .plain none ""

/-- The text of a scalar, however it was written. -/
def text? : Yaml → Option String
  | .scalar _ _ text => some text
  | _ => none

/-- Whether the node stands where nothing was written. -/
def isEmpty : Yaml → Bool
  | .scalar .plain _ text => text.isEmpty
  | _ => false

/-- The tag of scalars that stand for no value. -/
def nullTag : String := "tag:yaml.org,2002:null"

/-- Whether a plain scalar spells out that there is no value. -/
def isNull : Yaml → Bool
  | .scalar .plain none text => ["", "~", "null", "Null", "NULL"].contains text
  | .scalar .plain (some tag) text =>
    tag == nullTag && ["~", "null", "Null", "NULL"].contains text
  | _ => false

end Yaml

end ReleaseCatalog
