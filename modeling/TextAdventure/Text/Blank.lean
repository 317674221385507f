import TextAdventure.Text.Basic

/-! Blank characters, and text without the blanks at its ends. -/

namespace TextAdventure

/-- Unicode's white space together with the four separator controls U+001C to U+001F. The zero
width characters U+200B and U+FEFF are not blank. -/
def CodePoint.isBlank (c : CodePoint) : Bool :=
  (9 ≤ c.val && c.val ≤ 13) || (28 ≤ c.val && c.val ≤ 32) || c.val == 0x85 || c.val == 0xA0 ||
  c.val == 0x1680 || (0x2000 ≤ c.val && c.val ≤ 0x200A) || c.val == 0x2028 || c.val == 0x2029 ||
  c.val == 0x202F || c.val == 0x205F || c.val == 0x3000

namespace Text

/-- The text from its first character that is not blank. -/
def stripLeft (t : Text) : Text := t.dropWhile CodePoint.isBlank

/-- The text without the blanks at either end. -/
def strip (t : Text) : Text := (stripLeft (stripLeft t).reverse).reverse

end Text

end TextAdventure
