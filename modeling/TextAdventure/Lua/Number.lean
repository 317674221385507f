import TextAdventure.Decimal.Float
import TextAdventure.Text.Ascii
import TextAdventure.Text.Utf8

/-! The numbers of Lua: integers of 64 bits, which wrap around, and floating point numbers, among
which NaN has a sign. Two integers give an integer, except where they are divided or raised to a
power. Integers and floating point numbers are compared by their exact values. -/

namespace TextAdventure.Lua

open Decimal (Shape Double)

/-- A number; `float` holds no NaN. -/
inductive Number where
  | int (n : Int64)
  | float (x : Float)
  | nan (negative : Bool)
deriving DecidableEq

/-- The operators on two numbers. -/
inductive Arithmetic where
  | add | sub | mul | div | floorDiv | mod | pow
deriving DecidableEq

namespace Number

def toFloat : Number → Float
  | int n => Float.ofInt n.toInt
  | float x => x
  | nan _ => 0.0 / 0.0

/-- A floating point number; a NaN gets the sign given. -/
def ofFloat (x : Float) (negative : Bool) : Number := if x == x then float x else nan negative

/-- A number as a floating point number. -/
def asFloat : Number → Number
  | int n => float (Float.ofInt n.toInt)
  | n => n

/-- The integer of the same value, of any size. -/
def whole? (x : Float) : Option Int :=
  match Shape.ofFloat x with
  | .nan | .infinite _ => none
  | .zero _ => some 0
  | .finite negative value =>
    let r := value.ratio
    if r.1 % r.2 = 0 then some (if negative then -r.floor else r.floor) else none

/-- The integer at or next below a number that is finite. -/
def floor? (x : Float) : Option Int :=
  match Shape.ofFloat x with
  | .nan | .infinite _ => none
  | .zero _ => some 0
  | .finite negative value =>
    let r := value.ratio
    some (if negative then -((r.1 + r.2 - 1) / r.2 : Nat) else r.floor)

/-- An integer that fits into 64 bits. -/
def fit? (n : Int) : Option Int64 :=
  if Int64.minValue.toInt ≤ n ∧ n ≤ Int64.maxValue.toInt then some (Int64.ofInt n) else none

/-- The integer of the same value, if it fits into 64 bits. -/
def toInt? : Number → Option Int64
  | int n => some n
  | float x => (whole? x).bind fit?
  | nan _ => none

/-- How an integer compares with a floating point number; not at all with NaN. -/
def compare? (n : Int) (x : Float) : Option Ordering :=
  match Shape.ofFloat x with
  | .nan => none
  | .infinite negative => some (if negative then .gt else .lt)
  | .zero _ => some (compare n 0)
  | .finite negative value =>
    let r := value.ratio
    some (compare (n * r.2) (if negative then -(r.1 : Int) else r.1))

/-- Whether two numbers have the same value. -/
def same : Number → Number → Bool
  | int a, int b => a == b
  | int a, float y => compare? a.toInt y == some .eq
  | float x, int b => compare? b.toInt x == some .eq
  | float x, float y => x == y
  | nan _, _ | _, nan _ => false

def less : Number → Number → Bool
  | int a, int b => a < b
  | int a, float y => compare? a.toInt y == some .lt
  | float x, int b => compare? b.toInt x == some .gt
  | float x, float y => x < y
  | nan _, _ | _, nan _ => false

def lessEqual (a b : Number) : Bool := a.less b || a.same b

def neg : Number → Number
  | int n => int (-n)
  | float x => float (-x)
  | nan negative => nan !negative

/-- What is left of `a` when `b` is taken away from it as often as possible; it has the sign of
`a`. -/
def remainder (a b : Float) : Float :=
  match Shape.ofFloat a, Shape.ofFloat b with
  | .nan, _ | _, .nan | .infinite _, _ | _, .zero _ => 0.0 / 0.0
  | _, .infinite _ | .zero _, _ => a
  | .finite negative p, .finite _ q =>
    let low := min p.exponent q.exponent
    let digits (d : Double) : Nat := d.mantissa * Nat.pow 2 (d.exponent - low).toNat
    let r := (Float.ofNat (digits p % digits q)).scaleB low
    if negative then -r else r

/-- The remainder with the sign of `b`. -/
def modulo (a b : Float) : Float :=
  let r := remainder a b
  if (0.0 < r && b < 0.0) || (r < 0.0 && 0.0 < b) then r + b else r

/-- The value of a function of two floating point numbers. An operand that is NaN passes its sign
on, the first one before the second; any other NaN is negative. -/
def lift (f : Float → Float → Float) (a b : Number) : Number :=
  ofFloat (f a.toFloat b.toFloat) <|
    match a, b with
    | nan negative, _ | _, nan negative => negative
    | _, _ => true

/-- The value of an operator; none where an integer is divided by zero. -/
def compute? : Arithmetic → Number → Number → Option Number
  | .add, int a, int b => some (int (a + b))
  | .sub, int a, int b => some (int (a - b))
  | .mul, int a, int b => some (int (a * b))
  | .floorDiv, int a, int b =>
    if b = 0 then none else some (int (Int64.ofInt (a.toInt.fdiv b.toInt)))
  | .mod, int a, int b =>
    if b = 0 then none else some (int (Int64.ofInt (a.toInt.fmod b.toInt)))
  | .add, a, b => some (lift (· + ·) a b)
  | .sub, a, b => some (lift (· - ·) a b)
  | .mul, a, b => some (lift (· * ·) a b)
  | .div, a, b => some (lift (· / ·) a b)
  | .floorDiv, a, b => some (lift (fun x y => (x / y).floor) a b)
  | .mod, a, b => some (lift modulo a b)
  | .pow, a, b => some (lift Float.pow a b)

/-- Floating point numbers are written with this many digits. -/
def format (digits : Nat) : Decimal.Layout :=
  { lastPoint := digits, infinity := "inf", nan := "nan" }

/-- Fifteen digits, or seventeen where fifteen do not read back as the number. -/
def precision (x : Float) : Nat :=
  match Shape.ofFloat x with
  | .finite _ value => if value.readsBack (value.rounded 15) then 15 else 17
  | _ => 15

def text : Number → Bytes
  | int n => .ofAscii (Text.ofInt n.toInt)
  | float x => .ofAscii ((format (precision x)).float (·.rounded (precision x)) x)
  | nan negative => if negative then "-nan" else "nan"

/-! ## Numerals -/

def isSpace (b : UInt8) : Bool := b == 32 || (9 ≤ b && b ≤ 13)

def isDigit (b : UInt8) : Bool := 48 ≤ b && b ≤ 57

/-- The value of a hexadecimal digit. -/
def hexValue? (b : UInt8) : Option Nat := (CodePoint.ofNat b.toNat).hexValue?

def isHexDigit (b : UInt8) : Bool := (hexValue? b).isSome

/-- The number that digits spell in a base. -/
def digitsValue (base : Nat) (digits : Bytes) : Nat :=
  digits.foldl (fun n b => base * n + (hexValue? b).getD 0) 0

/-- The power of ten in an exponent; the empty text is no exponent. -/
def exponent? : Bytes → Option Int
  | [] => some 0
  | e :: rest =>
    let (negative, digits) : Bool × Bytes :=
      match rest with
      | 45 :: digits => (true, digits)
      | 43 :: digits => (false, digits)
      | digits => (false, digits)
    if (e == 101 || e == 69) && digits ≠ [] && digits.all isDigit then
      let n : Int := digitsValue 10 digits
      some (if negative then -n else n)
    else none

/-- A numeral without a sign in front: decimal, perhaps with a point and an exponent, or a
hexadecimal integer. Decimal integers that need more than 64 bits are floating point numbers,
hexadecimal ones wrap around. -/
def unsigned? (negative : Bool) (numeral : Bytes) : Option Number :=
  let hex? : Option Bytes :=
    match numeral with
    | 48 :: 120 :: digits | 48 :: 88 :: digits => some digits
    | _ => none
  match hex? with
  | some digits =>
    if digits ≠ [] && digits.all isHexDigit then
      let n := int (Int64.ofInt (digitsValue 16 digits))
      some (if negative then n.neg else n)
    else none
  | none =>
    let whole := numeral.takeWhile isDigit
    let rest := numeral.dropWhile isDigit
    let (places, rest) : Bytes × Bytes :=
      match rest with
      | 46 :: after => (after.takeWhile isDigit, after.dropWhile isDigit)
      | rest => ([], rest)
    if whole ++ places = [] then none
    else
      let digits : Int := digitsValue 10 whole
      match if whole = numeral then fit? (if negative then -digits else digits) else none with
      | some n => some (int n)
      | none =>
        (exponent? rest).map fun power =>
          float (Decimal.toFloat negative (digitsValue 10 (whole ++ places))
            (power - places.length))

/-- The number that a string spells, between its blanks and after a sign. -/
def read? (bytes : Bytes) : Option Number :=
  let trimmed := ((bytes.dropWhile isSpace).reverse.dropWhile isSpace).reverse
  match trimmed with
  | 45 :: rest => unsigned? true rest
  | 43 :: rest => unsigned? false rest
  | rest => unsigned? false rest

end Number

end TextAdventure.Lua
