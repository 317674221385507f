import TextAdventure.Proofs.Lua.Courses

/-! Scripts that are reported to have exceeded their limit. -/

namespace TextAdventure.Lua

variable {σ : Type} (place : Place σ) (host : Json → Stage σ → Json × Stage σ)

theorem run_play {limit : Option Int} {b : Option Nat} (allows : budget limit = .ok b)
    (source : Text) (s : Stage σ) : ((play limit source).run place host s).1 =
      ((course { limit := b } source).run place host s).1.conclusion.ending := by
  unfold play
  rw [allows]
  exact congrArg Prod.fst (Play.run_bind place host (course { limit := b } source) _ s)

end TextAdventure.Lua
