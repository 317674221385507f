import TextAdventure.Decimal.Layout

/-! The texts of floating point numbers, and reading them back. -/

namespace TextAdventure.Decimal

/-- Numbers from 10 ^ -4 up to 10 ^ 16 are written with a point and without an exponent. -/
def plain : Layout := { lastPoint := 16, infinity := "inf", nan := "nan" }

/-- The text of a number, with the fewest digits that read back as it. -/
def text (x : Float) : Text := plain.float Double.shortest x

/-- The double nearest to `± mantissa * 10 ^ power`. Beyond the range of doubles it is infinite or
zero. -/
def toFloat (negative : Bool) (mantissa : Nat) (power : Int) : Float :=
  let size := (Nat.toDigits 10 mantissa).length
  let magnitude : Float :=
    if mantissa == 0 then 0.0
    else if 310 < power + size then 1.0 / 0.0
    else if power + size < -330 then 0.0
    else Float.ofScientific mantissa (decide (power < 0)) power.natAbs
  if negative then -magnitude else magnitude

/-- The integer at or next below the double's size, with its sign; none for NaN and infinities. -/
def truncate? (x : Float) : Option Int :=
  match Shape.ofFloat x with
  | .nan | .infinite _ => none
  | .zero _ => some 0
  | .finite negative value =>
    let n := value.ratio.floor
    some (if negative then -n else n)

end TextAdventure.Decimal
