/-
How a scalar runs over several lines. The lines are folded: one line end becomes a blank, and each
further one stays. Blanks at the end of a line do not count.
-/

import ReleaseCatalog.Yaml.Cursor

namespace ReleaseCatalog.Yaml.Scalar

/-- The text that lines fold into, given in reverse how it begins and how many line ends follow. -/
def fold (text : List Char) (breaks : Nat) (next : List Char) : List Char :=
  if breaks ≤ 1 then text ++ ' ' :: next
  else text ++ List.replicate (breaks - 1) '\n' ++ next

/-- The text without the blanks at its end. -/
def trimmed (text : List Char) : List Char :=
  (text.reverse.dropWhile isBlank).reverse

/-- At the first character of the next line that is not empty, with the number of line ends on the
way. -/
def overBreaks : Nat → Cursor → Nat → Nat × Cursor
  | 0, cursor, breaks => (breaks, cursor)
  | fuel + 1, cursor, breaks =>
    let ahead := cursor.skipBlanks
    match ahead.rest with
    | '\n' :: rest => overBreaks fuel ⟨rest, 0⟩ (breaks + 1)
    | _ => (breaks, ahead)

end ReleaseCatalog.Yaml.Scalar
