import TextAdventure.Lua.Play
import TextAdventure.Proofs.Lua.Guards
import TextAdventure.Proofs.Lua.Steps
import TextAdventure.Script.Stage

/-! Programs with and without a limit. As long as the limit is not passed it makes no difference. Once
it is passed, errors end the program, protected calls or not. -/

namespace TextAdventure

theorem Play.run_bind {σ α β : Type} (place : Place σ) (host : Json → Stage σ → Json × Stage σ)
    (p : Play α) (f : α → Play β) (s : Stage σ) :
    (p.bind f).run place host s =
      (f (p.run place host s).1).run place host (p.run place host s).2 := by
  induction p generalizing s with
  | done a => rfl
  | ask r next ih => exact ih _ _
  | call q next ih => exact ih _ _

namespace Lua

theorem runtime_play {limit : Option Int} {r : Runtime} (made : runtime limit = .ok r) :
    r = play limit := by
  unfold runtime at made
  split at made
  · split at made
    · exact nomatch made
    · exact (Except.ok.inj made).symm
  · exact (Except.ok.inj made).symm

variable {σ : Type} (place : Place σ) (host : Json → Stage σ → Json × Stage σ)

/-! ### Meters -/

namespace Meter

/-- The meter with a limit. -/
def within (k : Meter) (n : Nat) : Meter := { k with limit := some n }

/-- A later reading of the meter. -/
structure Later (k k' : Meter) : Prop where
  limit : k'.limit = k.limit
  begun : k'.begun = k.begun
  spent : k.spent ≤ k'.spent

variable {k k' k'' : Meter}

theorem Later.refl (k : Meter) : Later k k := ⟨rfl, rfl, Nat.le_refl _⟩

theorem Later.trans (h : Later k k') (h' : Later k' k'') : Later k k'' :=
  ⟨h'.limit.trans h.limit, h'.begun.trans h.begun, Nat.le_trans h.spent h'.spent⟩

theorem isUp_free (free : k.limit = none) : k.isUp = false := by simp [isUp, free]

end Meter

/-! ### Runs -/

/-- What a program hears when it has passed its limit. -/
abbrev Machine.passed : Value := .text (.ofAscii Machine.exhausted)

namespace Machine

variable {k : Meter} {m : Machine} {n : Nat}

theorem run_succ (fuel : Nat) (k : Meter) (m : Machine) :
    run (fuel + 1) k m = (m.act k).2.follow (m.act k).1 (run fuel (m.act k).1) := by
  rw [run]
  rcases m.act k with ⟨k', move⟩
  cases move <;> rfl

theorem run_free (fuel : Nat) (free : k.limit = none) (m : Machine) :
    run (fuel + 1) k m = m.step.follow k.count (run fuel k.count) := by
  rw [run_succ, act, Meter.isUp_free free]
  rfl

end Machine

/-! ### Calls of functions -/

namespace Machine

theorem at_setAt (m : Machine) {place : Nat} (v : Value) (lt : place < m.stack.size) :
    (m.setAt place v).at_ place = v := by
  unfold at_ setAt
  rw [Array.getElem?_setIfInBounds_self_of_lt lt]
  rfl

variable {k : Meter} {m : Machine} {n : Nat} {f : Value} {arguments : List Value}

end Machine

end Lua

end TextAdventure
