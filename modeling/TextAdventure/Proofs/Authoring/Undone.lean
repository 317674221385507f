import TextAdventure.Proofs.Authoring.Removal
import TextAdventure.Proofs.Engine.Idle
import TextAdventure.Proofs.Engine.Reading

/-! Removals that fail. The games that go with a record are dropped one after another, each while it
is held. Removals hold games in a registry of their own, where all games are free when a removal
begins, so that none stops halfway: what can fail in a removal comes before the first change. In a
registry that others use too, a removal would stop at the first game that is held there. -/

namespace TextAdventure.Authoring

open Op

variable {w w' : World} {timeout : Float} {registry : Locks} {ids before rest : List Int} {m : Int}

/-! ### Games that are dropped while they are held -/

/-- Drops games one after another, each while it is held in a registry. -/
def dropHeld (timeout : Float) (registry : Locks) : List Int → Op Unit
  | [] => return ()
  | id :: rest => do
    let held ← Op.ofExcept (registry.hold timeout id)
    modify (dropGame · id)
    dropHeld timeout (held.release id) rest

/-- A removal that drops its games while it holds them in a registry. `clear` takes the record
itself out of the world. -/
def removalHeld {α : Type} (timeout : Float) (registry : Locks) (kind : Kind) (found : Op α)
    (asked : Identifier) (force : Bool) (belongs : Int → Game → Bool)
    (clear : Int → World → World) : Op Unit := do
  let _ ← found
  let id ← Op.number kind asked
  let games ← Op.ofExcept ((← get).games.select (belongs id))
  dropHeld timeout registry (← gamesToRemove kind id force games)
  modify (clear id)

section

variable (waits : ¬(0.0 < timeout ∧ Locks.isTooLong timeout))
include waits

/-- A game that is free in the registry is dropped, and the registry is as before. -/
theorem run_dropHeld_cons (free : registry.isBusy m = false) (rest : List Int) (w : World) :
    (dropHeld timeout registry (m :: rest)).run w =
      (dropHeld timeout registry rest).run (dropGame w m) := by
  have hold : registry.hold timeout m = .ok ⟨registry.held ++ [(m, .operation)]⟩ := by
    unfold Locks.hold
    rw [if_neg waits, if_neg (by simp [free])]
  rw [dropHeld, hold, run_bind_ok (run_ofExcept _ w), run_bind_ok (run_modify _ w),
    Locks.release_hold hold]

theorem run_dropHeld (free : ∀ id ∈ ids, registry.isBusy id = false) (w : World) :
    (dropHeld timeout registry ids).run w = (.ok (), ids.foldl dropGame w) := by
  induction ids generalizing w with
  | nil => rfl
  | cons id rest ih =>
    rw [run_dropHeld_cons waits (free id List.mem_cons_self), List.foldl_cons]
    exact ih (fun other h => free other (List.mem_cons_of_mem _ h)) _

/-- The first game that is held in the registry stops the walk, when those before it are gone. -/
theorem run_dropHeld_busy (free : ∀ id ∈ before, registry.isBusy id = false)
    (busy : registry.isBusy m = true) (rest : List Int) (w : World) :
    (dropHeld timeout registry (before ++ m :: rest)).run w =
      (.error (.gameBusy m), before.foldl dropGame w) := by
  induction before generalizing w with
  | nil =>
    have hold : registry.hold timeout m = .error (.gameBusy m) := by
      unfold Locks.hold
      rw [if_neg waits, if_pos busy]
    rw [List.nil_append, dropHeld, hold]
    rfl
  | cons id more ih =>
    rw [List.cons_append, run_dropHeld_cons waits (free id List.mem_cons_self), List.foldl_cons]
    exact ih (fun other h => free other (List.mem_cons_of_mem _ h)) _

end

/-! ### Removals and their registry -/

section Registry

variable {α : Type} {kind : Kind} {found : Op α} {asked : Identifier} {force : Bool}
  {belongs : Int → Game → Bool} {clear : Int → World → World}

theorem waits_at_once : ¬((0.0 : Float) < 0.0 ∧ Locks.isTooLong 0.0) := by decide +kernel

/-- In a registry of its own a removal takes everything out of the world at once. -/
theorem removal_eq_removalHeld {cut : Int → List Int → World → World}
    (clears : ∀ id ids w, cut id ids w = clear id (ids.foldl dropGame w)) :
    removal kind found asked force belongs cut =
      removalHeld 0.0 {} kind found asked force belongs clear := by
  refine bind_congr fun _ => bind_congr fun id => bind_congr fun w => bind_congr fun games =>
    bind_congr fun ids => Op.ext fun w => ?_
  rw [run_bind_ok (run_dropHeld waits_at_once (fun _ _ => rfl) w), run_modify, run_modify, clears]

theorem removeLocation_eq_removalHeld (asked : Identifier) (force : Bool) :
    removeLocation asked force = removalHeld 0.0 {} .location (World.location asked) asked force
      (fun id g => g.location = id) (fun id => withoutLocation id []) :=
  removal_eq_removalHeld fun _ _ _ => rfl

theorem removeAdventure_eq_removalHeld (asked : Identifier) (force : Bool) :
    removeAdventure asked force = removalHeld 0.0 {} .adventure (World.adventure asked) asked force
      (fun id g => g.adventure = id) (fun id => withoutAdventure id []) :=
  removal_eq_removalHeld fun _ _ _ => rfl

/-- In a registry that others share a forced removal stops at the first of its games that is held
there. The games before it are gone then, and the record stays. -/
theorem run_removalHeld_busy {value : α} {id : Int} {games : List Game}
    (waits : ¬(0.0 < timeout ∧ Locks.isTooLong timeout)) (stored : found.run w = (.ok value, w))
    (number : (Op.number kind asked).run w = (.ok id, w))
    (selected : w.games.select (belongs id) = .ok games)
    (order : numbers games = before ++ m :: rest)
    (free : ∀ id ∈ before, registry.isBusy id = false) (busy : registry.isBusy m = true) :
    (removalHeld timeout registry kind found asked true belongs clear).run w =
      (.error (.gameBusy m), before.foldl dropGame w) := by
  have remove : (gamesToRemove kind id true games).run w = (.ok (before ++ m :: rest), w) := by
    rw [← order]
    simp [gamesToRemove, numbers]
  unfold removalHeld
  rw [run_bind_ok stored, run_bind_ok number, run_bind_ok (run_get w), run_bind, run_ofExcept,
    selected]
  dsimp only
  rw [run_bind_ok remove, run_bind_error (run_dropHeld_busy waits free busy rest w)]

end Registry

/-! ### Failures -/

end TextAdventure.Authoring
