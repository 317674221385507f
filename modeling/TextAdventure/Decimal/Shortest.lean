/-! Decimal digits of binary numbers, in exact arithmetic. `shortest` gives the fewest digits that
still name one double and no other, and of those the nearest to it; `rounded` gives a fixed number
of digits. -/

namespace TextAdventure.Decimal

/-- A positive double: `mantissa * 2 ^ exponent`. At the foot of a binade the double below is half
as far away as the one above. -/
structure Double where
  mantissa : Nat
  exponent : Int
  atFoot : Bool
deriving DecidableEq

/-- What the bits of a double stand for. -/
inductive Shape where
  | nan
  | infinite (negative : Bool)
  | zero (negative : Bool)
  | finite (negative : Bool) (value : Double)
deriving DecidableEq

/-- Above 52 bits of the fraction there are 11 of the exponent, and one of the sign. -/
def Shape.ofBits (bits : Nat) : Shape :=
  let hidden : Nat := 0x10000000000000
  let negative := bits / hidden / 2048 % 2 == 1
  let power : Nat := bits / hidden % 2048
  let fraction : Nat := bits % hidden
  if power == 2047 then
    if fraction == 0 then .infinite negative else .nan
  else if power == 0 then
    if fraction == 0 then .zero negative
    else .finite negative { mantissa := fraction, exponent := -1074, atFoot := false }
  else
    .finite negative
      { mantissa := hidden + fraction, exponent := (power : Int) - 1075,
        atFoot := fraction == 0 && 1 < power }

def Shape.ofFloat (x : Float) : Shape := .ofBits x.toBits.toNat

/-- A quotient of natural numbers, the second of them positive. -/
abbrev Ratio := Nat × Nat

namespace Ratio

/-- The ratio times `base ^ power`. -/
def scale (r : Ratio) (base : Nat) (power : Int) : Ratio :=
  if 0 ≤ power then (r.1 * base.pow power.toNat, r.2) else (r.1, r.2 * base.pow (-power).toNat)

/-- The integer at or below the ratio. -/
def floor (r : Ratio) : Nat := r.1 / r.2

/-- The number of places, up to `fuel`, by which a ratio below one tenth has to be moved left to
reach one tenth. -/
def leadingZeros : Nat → Ratio → Nat
  | 0, _ => 0
  | fuel + 1, r => if r.1 * 10 < r.2 then leadingZeros fuel (r.1 * 10, r.2) + 1 else 0

/-- Where the decimal point stands: the power of ten just above the ratio. -/
def point (r : Ratio) : Int :=
  if r.2 ≤ r.1 then (Nat.toDigits 10 r.floor).length else -(leadingZeros 400 r : Int)

end Ratio

/-- A positive decimal number `0.d₁d₂… * 10 ^ point`, its digits read as one number. -/
structure Digits where
  digits : Nat
  point : Int
deriving DecidableEq

/-- Drops trailing zeros of `n`, at most `fuel` of them. -/
def dropZeros : Nat → Nat → Nat
  | 0, n => n
  | fuel + 1, n => if n % 10 == 0 then dropZeros fuel (n / 10) else n

/-- `count` digits, of which the caller found `n`; `n` has one digit more when it was rounded up to
a power of ten. -/
def Digits.ofGrid (count n : Nat) (point : Int) : Digits :=
  if n == Nat.pow 10 count then ⟨1, point + 1⟩ else ⟨dropZeros count n, point⟩

namespace Double

def ratio (x : Double) : Ratio := Ratio.scale (x.mantissa, 1) 2 x.exponent

/-- The least and the greatest number that no other double is nearer to. -/
def lower (x : Double) : Ratio :=
  Ratio.scale (4 * x.mantissa - (if x.atFoot then 1 else 2), 1) 2 (x.exponent - 2)

@[inherit_doc lower]
def upper (x : Double) : Ratio := Ratio.scale (4 * x.mantissa + 2, 1) 2 (x.exponent - 2)

/-- Whether `n * 10 ^ -power` reads back as `x`. The two bounds do so when the mantissa is even. -/
def names (x : Double) (power : Int) (n : Nat) : Bool :=
  let low := x.lower.scale 10 power
  let high := x.upper.scale 10 power
  if x.mantissa % 2 == 0 then low.1 ≤ n * low.2 && n * high.2 ≤ high.1
  else low.1 < n * low.2 && n * high.2 < high.1

/-- The integer nearest to the ratio; halfway between two, the even one. -/
def nearest (r : Ratio) : Nat :=
  let n := r.floor
  let twice := 2 * (r.1 - n * r.2)
  if twice < r.2 then n
  else if r.2 < twice then n + 1
  else if n % 2 == 0 then n else n + 1

/-- The nearer of the two neighbours of `x` on the grid of `count` digits, if one of them names
`x`. -/
def onGrid? (x : Double) (count : Nat) : Option Digits :=
  let point := x.ratio.point
  let power := (count : Int) - point
  let r := x.ratio.scale 10 power
  let close := nearest r
  let far := if close == r.floor then close + 1 else r.floor
  if x.names power close then some (.ofGrid count close point)
  else if x.names power far then some (.ofGrid count far point)
  else none

/-- The digits of `x` rounded to `count` places. -/
def rounded (x : Double) (count : Nat) : Digits :=
  let point := x.ratio.point
  .ofGrid count (nearest (x.ratio.scale 10 ((count : Int) - point))) point

/-- Whether digits name `x`. -/
def readsBack (x : Double) (d : Digits) : Bool :=
  x.names ((Nat.toDigits 10 d.digits).length - d.point) d.digits

/-- The fewest digits that name `x`; seventeen always do. -/
def shortest (x : Double) : Digits :=
  ((List.range 17).findSome? fun n => x.onGrid? (n + 1)).getD (x.rounded 17)

end Double

end TextAdventure.Decimal
