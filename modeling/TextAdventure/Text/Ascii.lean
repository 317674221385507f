import TextAdventure.Text.Basic

/-! Digits of ASCII. -/

namespace TextAdventure.CodePoint

def isAsciiDigit (c : CodePoint) : Bool := 48 ≤ c.val && c.val ≤ 57

/-- The value of a hexadecimal digit in either case. -/
def hexValue? (c : CodePoint) : Option Nat :=
  if 48 ≤ c.val && c.val ≤ 57 then some (c.val - 48)
  else if 97 ≤ c.val && c.val ≤ 102 then some (c.val - 87)
  else if 65 ≤ c.val && c.val ≤ 70 then some (c.val - 55)
  else none

end TextAdventure.CodePoint

/-- The number that a run of ASCII digits spells. -/
def TextAdventure.Text.digitsValue (digits : Text) : Nat :=
  digits.foldl (fun n c => 10 * n + (c.val - 48)) 0
