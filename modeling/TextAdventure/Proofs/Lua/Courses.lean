import TextAdventure.Proofs.Lua.Preparing
import TextAdventure.Proofs.Lua.Racing

/-! Scripts with and without a limit. The table `game` is made before a script begins, and counts
towards its limit, too. -/

namespace TextAdventure.Lua

variable {σ : Type} (place : Place σ) (host : Json → Stage σ → Json × Stage σ)

/-- A reading of the meter that a script can end with. -/
structure Meter.Leads (k k' : Meter) : Prop where
  spent : k.spent ≤ k'.spent
  begun : k'.begun = k.begun ∨ k.begun = none ∧ ∃ ready, k'.begun = some ready ∧ k.spent ≤ ready

theorem Meter.Later.leads {k k' : Meter} (h : k.Later k') : k.Leads k' := ⟨h.spent, .inl h.begun⟩

def Course.within (c : Course) (n : Nat) : Course := { c with meter := c.meter.within n }

/-- What a script comes to that would end with such a meter, but is not let to: it is stopped, unless
its limit does not even let it begin. -/
def stopped (n : Nat) (k : Meter) : Conclusion :=
  if k.begun.any (· ≤ n) then .broken Machine.exhausted
  else .raised (.foreign .lua Machine.exhausted)

/-- However the script goes, its meter ends with such a reading. -/
def Ends (k : Meter) (p : Play Course) : Prop :=
  ∀ s : Stage σ, k.Leads (p.run place host s).1.meter

section Performing

variable {k : Meter} {m : Machine} {n : Nat} {f : Value} {arguments : List Value}
  {failed : Machine → Value → Conclusion} {next : Meter → Machine → List Value → Play Course}

variable (ends : ∀ k' m' values, k.Later k' → Ends place host k' (next k' m' values))
include ends

variable (free : k.limit = none)
include free

end Performing

/-! ### Scripts -/

section Script

variable {k : Meter} {n : Nat} (free : k.limit = none)
include free

variable {ready : Nat} (begun : k.begun = some ready) (le : k.spent ≤ n) (inside : ready ≤ n)
  (small : n + Machine.deepest ≤ endless)
include begun le inside small

end Script

/-! ### From the start -/

end TextAdventure.Lua
