import TextAdventure.Text.Ascii
import TextAdventure.Text.Blank

/-! Integers in paths and queries: ASCII digits with an optional sign. Blanks around them, zeros in
front, single underscores and a fraction of zeros are tolerated. -/

namespace TextAdventure.Http

inductive IntegerFault where
  | malformed
  | tooLong
deriving DecidableEq

/-- White space alone, without the separator controls. -/
def isSpace (c : CodePoint) : Bool := c.isBlank && !(28 ≤ c.val && c.val ≤ 31)

def trim (t : Text) : Text := ((t.dropWhile isSpace).reverse.dropWhile isSpace).reverse

/-- The most digits that an integer can have. -/
def mostDigits : Nat := 4300

/-- The integer that digits spell, with a minus sign in front of them or not. A zero stands alone.
That there are too many digits is noticed before what follows them. -/
def plain (t : Text) : Except IntegerFault Int :=
  let negative := t.head? = some (CodePoint.ofChar '-')
  let spelled := if negative then t.drop 1 else t
  let digits : Text := spelled.takeWhile CodePoint.isAsciiDigit
  if digits.head? = some (CodePoint.ofChar '0') then
    if spelled.length = 1 then .ok 0 else .error .malformed
  else if mostDigits < digits.length then .error .tooLong
  else if digits = [] ∨ digits.length ≠ spelled.length then .error .malformed
  else .ok (if negative then -(digits.digitsValue : Int) else digits.digitsValue)

/-- Drops zeros and underscores in front of a digit or a minus sign. When there is nothing else, the
last of them stays. -/
def dropZeros : Text → Option Text
  | [] => none
  | [c] => some [c]
  | c :: d :: rest =>
    if c = '0' ∨ c = '_' then if d = '.' then some (c :: d :: rest) else dropZeros (d :: rest)
    else if c.isAsciiDigit ∨ c = '-' then some (c :: d :: rest)
    else none

/-- A text that starts with a digit, without needless zeros in front. -/
def withoutZeros (t : Text) : Option Text :=
  match t with
  | [] => none
  | c :: rest =>
    if c = '0' then dropZeros (c :: rest)
    else if c.isAsciiDigit then some (c :: rest)
    else none

/-- A text without a fraction that consists of zeros. -/
def withoutFraction (t : Text) : Text :=
  let point := CodePoint.ofChar '.'
  let places := (t.dropWhile (· ≠ point)).drop 1
  if places ≠ [] ∧ places.all (· = CodePoint.ofChar '0') then t.takeWhile (· ≠ point) else t

/-- A text without its underscores, provided that each stands alone and none at an end. -/
def withoutUnderscores (t : Text) : Text :=
  let mark := CodePoint.ofChar '_'
  if t.head? = some mark ∨ t.getLast? = some mark ∨ Text.has [mark, mark] t then t
  else t.filter (· ≠ mark)

/-- A text without all that is tolerated after the sign. -/
def withoutExcess (t : Text) : Option Text :=
  (withoutZeros t).map fun t => withoutUnderscores (withoutFraction t)

/-- A text without all that is tolerated. -/
def cleaned (t : Text) : Option Text :=
  match trim t with
  | [] => none
  | c :: rest =>
    if c = '-' then (withoutExcess rest).map (c :: ·)
    else if c = '+' then withoutExcess rest
    else withoutExcess (c :: rest)

/-- The integer that a text spells, as it is or after it has been cleaned. -/
def integer (t : Text) : Except IntegerFault Int :=
  match plain t with
  | .ok n => .ok n
  | .error .tooLong => .error .tooLong
  | .error .malformed =>
    match cleaned t with
    | some t => plain t
    | none => .error .malformed

end TextAdventure.Http
