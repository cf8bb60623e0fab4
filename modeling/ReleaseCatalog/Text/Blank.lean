/-
White space as the Unicode property `White_Space` has it, and the trimming of texts by it.
Identifiers and times are read with this notion of a blank, which is wider than the one of ASCII.
-/

namespace ReleaseCatalog.Text

/-- The characters with the Unicode property `White_Space`. -/
def isBlank (char : Char) : Bool :=
  let code := char.toNat
  (0x09 ≤ code && code ≤ 0x0D) || code == 0x20 || code == 0x85 || code == 0xA0 ||
  code == 0x1680 || (0x2000 ≤ code && code ≤ 0x200A) || code == 0x2028 || code == 0x2029 ||
  code == 0x202F || code == 0x205F || code == 0x3000

/-- The text without the blanks at its start. -/
def trimStart (text : List Char) : List Char :=
  text.dropWhile isBlank

/-- The text without the blanks at its end. -/
def trimEnd (text : List Char) : List Char :=
  (text.reverse.dropWhile isBlank).reverse

/-- The text without the blanks at either end. -/
def trim (text : List Char) : List Char :=
  trimEnd (trimStart text)

/-- A text without blanks is not changed by trimming its start. -/
theorem trimStart_of_not_blank (char : Char) (rest : List Char) (visible : isBlank char = false) :
    trimStart (char :: rest) = char :: rest := by
  simp [trimStart, visible]

end ReleaseCatalog.Text
