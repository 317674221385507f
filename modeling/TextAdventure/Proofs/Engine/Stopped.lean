import TextAdventure.Proofs.Engine.Failing
import TextAdventure.Proofs.Engine.Idle

/-! Games in need of recovery. Until such a game is recovered no route is taken and no script is run
for it, and its end asks for no script. An operation that it refuses leaves the world as it was. -/

namespace TextAdventure

open Op
open Table (HeldAt)

variable {engine : Engine} {w : World} {n : Int} {game : Identifier} {g : Game} {locks : Locks}

/-- The game under a number is stored, and in need of recovery. -/
def Games.Flagged (n : Int) (s : Games) : Prop :=
  ∃ g, s.get? n = .ok (some g) ∧ g.needsRecovery = true

theorem Games.clear_or (s : Games) (n : Int) : s.Clear n ∨ s.Flagged n := by
  by_cases flagged : s.Flagged n
  · exact .inr flagged
  · exact .inl fun g found => Bool.eq_false_iff.2 fun h => flagged ⟨g, found, h⟩

/-- What is done with game `n` while it is held, in a world in which it can be held. -/
theorem Op.run_held {α : Type} {op : Op α} {timeout : Float} {r : Except Error α} {v : World}
    (hold : w.locks.hold timeout n = .ok locks) (run : op.run { w with locks } = (r, v)) :
    (World.holding timeout n op).run w = (r, { v with locks := v.locks.release n }) := by
  rw [World.holding_eq, hold]
  dsimp only
  rw [run]

theorem World.run_heldGame_locked (number : (World.gameNumber game).run w = (.ok n, w))
    (found : w.games.get? n = .ok (some g)) (locks : Locks) :
    ∃ held, (World.heldGame game).run { w with locks } = (.ok held, { w with locks }) ∧
      held.value = g ∧ HeldAt n held := by
  have hnumber := (World.gameNumber_locked game w locks).trans (congrArg Prod.fst number)
  obtain ⟨grip, grips, hrun⟩ := World.heldGame_eq hnumber
  dsimp only at hrun
  rw [found] at hrun
  exact ⟨grip g, hrun, grips g⟩

namespace Engine

/-- A script of game `n` has ended an action, which answers and leaves what the script has ended
with. -/
def BrokenBy (engine : Engine) (n : Int) (w : World) (a : Action) (ending : Ending) : Prop :=
  ∃ e v, engine.Breaks n w ending e v ∧ engine.answer w a = .error e ∧
    engine.after w a = { v with locks := v.locks.release n }

section

variable (number : (World.gameNumber game).run w = (.ok n, w))
include number

/-- An operation on a game that cannot be held is refused. -/
theorem run_refused {α : Type} {e : Error}
    (hold : w.locks.hold engine.settings.busyTimeout n = .error e) (f : Int → Op α) :
    (World.gameNumber game >>= fun m => engine.holding m (f m)).run w = (.error e, w) := by
  rw [run_bind_ok number, holding, World.holding_eq, hold]

variable (found : w.games.get? n = .ok (some g)) (flagged : g.needsRecovery = true)
  (hold : w.locks.hold engine.settings.busyTimeout n = .ok locks)
include found flagged hold

theorem run_takeRoute_flagged (route : Identifier) :
    (engine.takeRoute game route).run w = (.error (.recoveryRequired (some n)), w) := by
  obtain ⟨held, hheld, rfl, -⟩ := World.run_heldGame_locked number found locks
  have inside : (World.heldGame game >>= engine.depart n route).run { w with locks } =
      (.error (.recoveryRequired (some n)), { w with locks }) := by
    rw [run_bind_ok hheld, depart, if_pos flagged]
    rfl
  have run := run_held hold inside
  rw [Locks.release_hold hold] at run
  exact (run_bind_ok number).trans run

theorem run_executeScript_flagged (script : Identifier) :
    ∃ e, (engine.executeScript game script).run w = (.error e, w) ∧
      ∀ s, (World.script script).run w = (.ok s, w) → e = .recoveryRequired g.id := by
  obtain ⟨held, hheld, rfl, -⟩ := World.run_heldGame_locked number found locks
  have story := (OfStory.script script).run_eq (v := { w with locks }) (w := w) rfl
  have inside : ∃ e, (World.heldGame game >>= fun held =>
        engine.executeStored held script >>= fun r => pure r.1).run { w with locks } =
          (.error e, { w with locks }) ∧
      ∀ s, (World.script script).run w = (.ok s, w) → e = .recoveryRequired held.value.id := by
    rw [run_bind_ok hheld]
    unfold executeStored
    cases hscript : ((World.script script).run w).1 with
    | error e =>
      rw [hscript] at story
      refine ⟨e, run_bind_error (run_bind_error story), fun s hs => ?_⟩
      rw [hs] at hscript
      exact nomatch hscript
    | ok s =>
      rw [hscript] at story
      obtain ⟨k, hk, -⟩ := World.run_found (f := fun v n => v.scripts.get? n) story
      refine ⟨.recoveryRequired held.value.id, run_bind_error ?_, fun _ _ => rfl⟩
      rw [run_bind_ok story, run_bind_ok hk, execute_some, if_pos flagged]
      rfl
  obtain ⟨e, inside, refused⟩ := inside
  have run := run_held hold inside
  rw [Locks.release_hold hold] at run
  exact ⟨e, (run_bind_ok number).trans run, refused⟩

/-- The game ends as it is, whatever the runtime, and shows nothing more. -/
theorem run_endGame_flagged (runtime : Option Runtime) :
    ({ engine with runtime }.endGame game).run w = (.ok { game := g }, Authoring.dropGame w n) := by
  obtain ⟨held, hheld, rfl, -⟩ := World.run_heldGame_locked number found locks
  have hook : (finalHook held.value).run { w with locks } = (.ok none, { w with locks }) := by
    unfold finalHook
    rw [run_bind_ok (run_get _)]
    simp [flagged]
  have inside : ({ engine with runtime }.depose game n).run { w with locks } =
      (.ok { game := held.value }, Authoring.dropGame { w with locks } n) := by
    unfold depose farewell
    rw [bind_assoc, run_bind_ok hheld, bind_assoc, run_bind_ok hook]
    rfl
  have run := run_held hold inside
  rw [endGame_eq, run_bind_ok number]
  refine run.trans (Prod.ext rfl ?_)
  show ({ Authoring.dropGame w n with locks := locks.release n } : World) = Authoring.dropGame w n
  rw [Locks.release_hold hold]
  rfl

end

end Engine

end TextAdventure
