import TextAdventure.Text.Blank
import TextAdventure.Text.Digit
import TextAdventure.Decimal.Float

/-! Numerals as settings and stored games spell them: blanks at the ends, a sign, digits of any
script, and single underscores between digits. -/

namespace TextAdventure.Numeral

/-- The characters of a numeral: digits of any script as numbers, all else as it is. -/
inductive Mark where
  | digit (n : Nat)
  | other (c : CodePoint)
deriving DecidableEq

def Mark.of (c : CodePoint) : Mark :=
  match c.decimalValue? with
  | some n => .digit n
  | none => .other c

def Mark.isDigit : Mark → Bool
  | .digit _ => true
  | .other _ => false

def underscore : Mark := .other '_'

/-- Drops the underscores that stand between two digits; no other may occur. `afterDigit` says
whether a digit comes before. -/
def dropUnderscores? : Bool → List Mark → Option (List Mark)
  | _, [] => some []
  | afterDigit, m :: rest =>
    if m = underscore then
      if afterDigit && (rest.head?.map Mark.isDigit).getD false then dropUnderscores? false rest
      else none
    else (dropUnderscores? m.isDigit rest).map (m :: ·)

/-- The marks of a text between its blanks, after a sign. -/
def signed (t : Text) : Bool × List Mark :=
  match t.strip with
  | [] => (false, [])
  | c :: rest =>
    if c = '-' then (true, rest.map Mark.of)
    else if c = '+' then (false, rest.map Mark.of)
    else (false, (c :: rest).map Mark.of)

/-- The number that a run of digits spells. -/
def value (digits : List Mark) : Nat :=
  digits.foldl (fun n m => match m with | .digit d => 10 * n + d | .other _ => n) 0

/-- A run of digits of any script that is not empty. -/
def natural? (marks : List Mark) : Option Nat :=
  if marks ≠ [] ∧ marks.all Mark.isDigit then some (value marks) else none

/-- Integers are neither read nor written with more digits than this. -/
def mostDigits : Nat := 4300

def tooManyDigits (count : Nat) : Text :=
  "Exceeds the limit (4300 digits) for integer string conversion: value has " ++
    Text.ofNat count ++ " digits; use sys.set_int_max_str_digits() to increase the limit"

/-- Why a text is not read as an integer. -/
inductive IntFault where
  | malformed
  | tooManyDigits (count : Nat)
deriving DecidableEq

/-- The integer that a text spells. Digits beyond the limit are noticed before anything that follows
them. -/
def int (t : Text) : Except IntFault Int :=
  let (negative, marks) := signed t
  let run := marks.takeWhile fun m => m.isDigit || m = underscore
  match dropUnderscores? false run with
  | none => .error .malformed
  | some digits =>
    if mostDigits < digits.length then .error (.tooManyDigits digits.length)
    else
      match if run.length = marks.length then natural? digits else none with
      | some n => .ok (if negative then -(n : Int) else n)
      | none => .error .malformed

/-- Whether the marks are `word`, in either case. -/
def isWord (word : String) (marks : List Mark) : Bool :=
  marks.map (fun m => match m with
    | .other c => if 65 ≤ c.val ∧ c.val ≤ 90 then c.val + 32 else c.val
    | .digit n => n + 48) == word.toList.map Char.toNat

/-- The power of ten after the letter of an exponent. -/
def exponent? : List Mark → Option Int
  | [] => none
  | m :: rest =>
    if m = .other '-' then (natural? rest).map fun n => -(n : Int)
    else if m = .other '+' then (natural? rest).map fun n => (n : Int)
    else (natural? (m :: rest)).map fun n => (n : Int)

/-- A decimal number: digits with a point among them, and perhaps an exponent. -/
def decimal? (negative : Bool) (marks : List Mark) : Option Float :=
  let whole := marks.takeWhile Mark.isDigit
  let rest := marks.dropWhile Mark.isDigit
  let (places, rest) : List Mark × List Mark :=
    match rest with
    | m :: after =>
      if m = .other '.' then (after.takeWhile Mark.isDigit, after.dropWhile Mark.isDigit)
      else ([], rest)
    | [] => ([], [])
  if whole ++ places = [] then none
  else
    let power? : Option Int :=
      match rest with
      | [] => some 0
      | m :: after => if m = .other 'e' ∨ m = .other 'E' then exponent? after else none
    power?.map fun power =>
      Decimal.toFloat negative (value (whole ++ places)) (power - places.length)

/-- The floating point number that a text spells, infinities and NaN by name. -/
def float? (t : Text) : Option Float :=
  let (negative, marks) := signed t
  (dropUnderscores? false marks).bind fun marks =>
    if isWord "nan" marks then some (0.0 / 0.0)
    else if isWord "inf" marks || isWord "infinity" marks then
      some (if negative then -1.0 / 0.0 else 1.0 / 0.0)
    else decimal? negative marks

end TextAdventure.Numeral
