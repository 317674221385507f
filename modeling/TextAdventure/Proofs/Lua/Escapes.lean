import TextAdventure.Proofs.Lua.Limit
import TextAdventure.Proofs.Lua.Preparing
import TextAdventure.Proofs.Script.Refusing

/-! How scripts in Lua end. One that can begin returns a text or nothing, or it fails, or one of a
few errors escapes it: of all errors that it meets, only those about what it has handed over count as
failures of its own. -/

namespace TextAdventure

/-- A script returns a text or nothing, or it fails, or it raises an error that `E` knows. -/
def Ending.Told (E : Error → Prop) : Ending → Prop
  | .result v => v = .null ∨ ∃ t, v = .text t
  | .failed .. => True
  | .raised e => E e

namespace Lua

/-- The errors that escape scripts. -/
def Escapes : Error → Prop
  | .accessDenied _ | .integerTooLarge | .missingKey _ | .outOfRange _ => True
  | _ => False

/-- What programs come to by themselves is about what they have handed over, or escapes. -/
theorem Arises.known {e : Error} (h : Arises e) : e.isArgument = true ∨ Escapes e := by
  cases e <;> first | exact h.elim | exact .inl rfl | exact .inr trivial

/-- Whether a script can begin, or else the error that it ends by: its limit and what it can know of
its game have to fit, and the limit has to let the table `game` be made. -/
def ready (limit : Option Int) (b : Bearings) : Except Error Unit := do
  let limit ← budget limit
  let _ ← bearingValues b
  if limit.any (· < preparation) then throw (.foreign .lua Machine.exhausted)

variable {σ : Type} {place : Place σ} (host : Json → Stage σ → Json × Stage σ) {s : Stage σ}
  {values : List Value}

end Lua

end TextAdventure
