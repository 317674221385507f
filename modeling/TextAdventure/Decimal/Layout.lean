import TextAdventure.Text.Basic
import TextAdventure.Decimal.Shortest

/-! How the digits of a number are laid out: with a point among them, or with an exponent. -/

namespace TextAdventure.Decimal

/-- The choices of a number format. Numbers whose point falls behind the third leading zero, or
past digit `lastPoint`, are written with an exponent of at least two digits. -/
structure Layout where
  lastPoint : Int
  infinity : String
  nan : String

/-- Digits without a point, of a number written with an exponent `power`. -/
def scientific (digits : Text) (power : Int) : Text :=
  let mantissa : Text :=
    match digits with
    | d :: e :: rest => d :: "." ++ e :: rest
    | ds => ds
  let size := Text.ofNat power.natAbs
  mantissa ++ "e" ++ (if power < 0 then "-" else "+" : Text) ++
    (if size.length < 2 then "0" ++ size else size)

/-- Digits with the point in its place; a whole number is closed with `.0`. -/
def positional (digits : Text) (point : Int) : Text :=
  let zeros (n : Nat) : Text := List.replicate n (CodePoint.ofChar '0')
  if point ≤ 0 then "0." ++ zeros (-point).toNat ++ digits
  else if digits.length ≤ point.toNat then digits ++ zeros (point.toNat - digits.length) ++ ".0"
  else digits.take point.toNat ++ "." ++ digits.drop point.toNat

def Layout.number (layout : Layout) (d : Digits) : Text :=
  let digits := Text.ofNat d.digits
  if -4 < d.point && d.point ≤ layout.lastPoint then positional digits d.point
  else scientific digits (d.point - 1)

/-- The text of a double, `digits` choosing how many of its digits are shown. -/
def Layout.float (layout : Layout) (digits : Double → Digits) (x : Float) : Text :=
  let signed (negative : Bool) (t : Text) : Text := if negative then "-" ++ t else t
  match Shape.ofFloat x with
  | .nan => layout.nan
  | .infinite negative => signed negative layout.infinity
  | .zero negative => signed negative "0.0"
  | .finite negative value => signed negative (layout.number (digits value))

end TextAdventure.Decimal
