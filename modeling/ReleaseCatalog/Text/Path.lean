/-
Paths of files. Different spellings of a path name the same file: empty parts and single dots do
not count, and two dots take the part before them back.
-/

namespace ReleaseCatalog.Path

/-- The parts of a path, the last one first, after those of `before`. -/
def step (before : List String) (part : String) : List String :=
  if part == "" || part == "." then before
  else if part == ".." then
    match before with
    | [] => [part]
    | ".." :: _ => part :: before
    | _ :: rest => rest
  else part :: before

/-- The parts of a path that count, the last one first. -/
def parts (path : String) : List String :=
  (path.splitOn "/").foldl step []

/-- Whether a path starts at the root. -/
def isAbsolute (path : String) : Bool :=
  path.startsWith "/"

/-- The one spelling of a path that stands for all. -/
def normal (path : String) : String :=
  (if isAbsolute path then "/" else "") ++ "/".intercalate (parts path).reverse

/-- The directories that a file with this path is in, the innermost first. -/
def directories (path : String) : List String :=
  let root := if isAbsolute path then "/" else ""
  let rec outer : List String → List String
    | [] => []
    | _ :: rest => (root ++ "/".intercalate rest.reverse) :: outer rest
  (outer (parts path)).filter (!·.isEmpty)

end ReleaseCatalog.Path
