/-! Blank characters of Unicode, and texts with the blanks around them removed. -/

namespace Countersign.Text

/-- The ranges of characters with the Unicode property `White_Space`, first and last included. -/
def blankRanges : List (Nat × Nat) :=
  -- Controls and the space, then the wider spaces and the two separators.
  [(0x09, 0x0D), (0x20, 0x20), (0x85, 0x85), (0xA0, 0xA0), (0x1680, 0x1680), (0x2000, 0x200A),
    (0x2028, 0x2029), (0x202F, 0x202F), (0x205F, 0x205F), (0x3000, 0x3000)]

/-- Whether a character has the Unicode property `White_Space`. -/
def isBlank (char : Char) : Bool :=
  -- A character is blank when some range holds its code point.
  blankRanges.any fun range => range.1 ≤ char.toNat && char.toNat ≤ range.2

/-- A character sequence without the blanks at either end. -/
def trim (chars : List Char) : List Char :=
  -- The tail is trimmed as the head of the reversed sequence.
  ((chars.dropWhile isBlank).reverse.dropWhile isBlank).reverse

end Countersign.Text
