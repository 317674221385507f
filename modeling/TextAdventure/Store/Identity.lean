import TextAdventure.Error

/-! Numbers for stored records. A store counts upwards and never hands out a number at or below one
that it has seen. -/

namespace TextAdventure

/-- The identity that a record brings to its store: none, a number, or something else. -/
inductive Claim where
  | unset
  | number (n : Int)
  | malformed
deriving DecidableEq

/-- The identity that a value claims. -/
def Claim.ofJson : Json → Claim
  | .null => .unset
  | .int n => .number n
  | .bool b => .number (if b then 1 else 0)
  | _ => .malformed

/-- The claim of a record that has a number or has none. -/
def Claim.ofId? : Option Int → Claim
  | none => .unset
  | some n => .number n

/-- The next number that a store hands out. -/
structure IdSequence where
  next : Int := 1
deriving DecidableEq

namespace IdSequence

/-- The sequence after it has seen `n`. -/
def advancePast (s : IdSequence) (n : Int) : IdSequence := ⟨max s.next (n + 1)⟩

/-- The number of a record that enters the store, and the sequence from then on. -/
def assign (s : IdSequence) : Claim → Except Error (Int × IdSequence)
  | .unset => .ok (s.next, ⟨s.next + 1⟩)
  | .number n => .ok (n, s.advancePast n)
  | .malformed => .error .malformedIdentity

end IdSequence

end TextAdventure
