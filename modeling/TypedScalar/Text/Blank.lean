import TypedScalar.Text.CodeRange

/-! White space in the sense of Unicode, with the four information separators U+001C to U+001F counted
in, and the removal of white space from both ends of a text. -/

namespace TypedScalar.Text

def blanks : List (Nat × Nat) := [
  (0x9, 0xd), (0x1c, 0x20), (0x85, 0x85), (0xa0, 0xa0), (0x1680, 0x1680), (0x2000, 0x200a),
  (0x2028, 0x2029), (0x202f, 0x202f), (0x205f, 0x205f), (0x3000, 0x3000)]

def isBlank (c : Char) : Bool := within blanks c

/-- Drops what satisfies `p` from both ends. -/
def trimBoth (p : Char → Bool) (s : List Char) : List Char :=
  ((s.dropWhile p).reverse.dropWhile p).reverse

/-- The text without white space at either end. -/
def strip (s : List Char) : List Char := trimBoth isBlank s

end TypedScalar.Text
