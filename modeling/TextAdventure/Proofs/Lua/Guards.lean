import TextAdventure.Lua.Meter
import TextAdventure.Proofs.Lua.Frames

/-! Protected calls. Each of them is counted among those that have something else than code under them,
there is a function under each of them, and there are never too many. -/

namespace TextAdventure.Lua

/-- How many protected calls are among the frames. -/
def guards : List Frame → Nat
  | [] => 0
  | .running _ :: rest => guards rest
  | .guard .. :: rest => guards rest + 1

/-- Something waits for each of the protected calls. -/
def Grounded : List Frame → Prop
  | [] => True
  | .running _ :: rest => Grounded rest
  | .guard .. :: rest => rest ≠ [] ∧ Grounded rest

namespace Machine

/-- The frames are those that the machine counts on. -/
structure Rests (m : Machine) (frames : List Frame) : Prop where
  nesting : m.nesting = guards frames + 1
  shallow : m.nesting < deepest
  grounded : Grounded frames

/-- The machine rests on what waits for the function in progress. -/
abbrev Sound (m : Machine) : Prop := m.Rests m.callers

variable {m m' : Machine} {frames : List Frame}

theorem Rests.released {place : Nat} {wanted : Option Nat}
    (h : m.Rests (.guard place wanted :: frames)) :
    Rests { m with nesting := m.nesting - 1 } frames := by
  have counted : m.nesting = guards frames + 1 + 1 := h.nesting
  exact ⟨by simp [counted], Nat.lt_of_le_of_lt (Nat.sub_le _ _) h.shallow, h.grounded.2⟩

end Machine

end TextAdventure.Lua
