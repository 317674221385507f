import TextAdventure.Proofs.Op
import TextAdventure.Proofs.Store.Journal

/-! Logging, holding a game and running a script as equations. What a game logs goes to the next
position of its log. A script is checked, then it plays out, then its game is stored and its outcome
reported. -/

namespace TextAdventure

theorem World.run_log_none {game : Game} (h : game.id = none) (body : Body) (w : World) :
    (World.log game body).run w = (.error .logWithoutIdentity, w) := by
  unfold World.log
  rw [Op.run_of, h]

theorem World.run_log_some {game : Game} {id : Int} (h : game.id = some id) (body : Body)
    (w : World) : (World.log game body).run w =
      (.ok (w.journal.nextEntry id body), { w with journal := w.journal.appended id body }) := by
  unfold World.log
  rw [Op.run_of, h]
  dsimp only
  rw [Journal.add_next]

/-- Holding a game is refused, or the operation runs with the game held, and lets go of it. -/
theorem World.holding_eq {α : Type} (timeout : Float) (game : Int) (op : Op α) (w : World) :
    (World.holding timeout game op).run w =
      match w.locks.hold timeout game with
      | .error e => (.error e, w)
      | .ok locks => ((op.run { w with locks }).1, { (op.run { w with locks }).2 with
          locks := (op.run { w with locks }).2.locks.release game }) := by
  unfold World.holding
  rw [Op.run_bind_ok (Op.run_get w), Op.run_bind, Op.run_ofExcept]
  cases w.locks.hold timeout game <;> rfl

namespace Engine

/-- How a script plays out for a game in a world: how it ends, and the stage that it leaves. -/
def outcome (engine : Engine) (held : Held Game) (id : Int) (script : Script) (runtime : Runtime)
    (w : World) : Ending × Stage World :=
  let includes := (resolveIncludes w.scripts w.includes id).scripts
  (runtime (scriptBody (List.map (·.2) includes) script)).run engine.place (engine.consult held)
    { game := held.value, around := w }

/-- What follows once a script has played out. -/
def settle (engine : Engine) (held : Held Game) (id : Int) (included : Rows Script)
    (ending : Ending) (s : Stage World) : Op (ScriptRun × Held Game) := do
  let held ← storeAgain { held with value := afterwards s.game ending }
  engine.report id included s.emitted held ending

theorem run_play (engine : Engine) (held : Held Game) (id : Int) (script : Script)
    (runtime : Runtime) (w : World) :
    (engine.play held id script runtime).run w =
      (engine.settle held id (resolveIncludes w.scripts w.includes id).scripts
        (engine.outcome held id script runtime w).1
        (engine.outcome held id script runtime w).2).run
      (engine.outcome held id script runtime w).2.around := by
  unfold play
  rw [Op.run_bind_ok (Op.run_get w)]
  exact Op.run_bind_ok (Op.run_set _ _)

/-- The error that a script of another adventure is refused with. -/
def strayScript (id : Int) (script : Script) (game : Game) : Error :=
  .scriptFailed id ("script belongs to adventure " ++ Text.ofInt script.adventure ++ ", not " ++
    Text.ofInt game.adventure)

theorem execute_none (engine : Engine) (held : Held Game) (script : Script) :
    engine.execute held none script =
      if held.value.needsRecovery then throw (.recoveryRequired held.value.id)
      else throw Error.scriptWithoutIdentity := by
  unfold execute
  dsimp only
  split <;> rfl

theorem execute_some (engine : Engine) (held : Held Game) (id : Int) (script : Script) :
    engine.execute held (some id) script =
      if held.value.needsRecovery then throw (.recoveryRequired held.value.id)
      else if script.adventure ≠ held.value.adventure then
        throw (strayScript id script held.value)
      else engine.runtimeFor id script.type >>= engine.play held id script := by
  unfold execute
  dsimp only
  split
  · rfl
  · split <;> rfl

/-- Scripts in Lua run through the runtime of the engine, and no others do. -/
theorem runtime_of_runtimeFor {engine : Engine} {id : Int} {type : ScriptType} {runtime : Runtime}
    {w w' : World} (h : (engine.runtimeFor id type).run w = (.ok runtime, w')) :
    engine.runtime = some runtime := by
  unfold runtimeFor at h
  split at h
  · rename_i found hfound
    obtain rfl : found = runtime := Except.ok.inj (Prod.mk.inj h).1
    split at hfound
    · exact hfound
    · exact nomatch hfound
  · exact nomatch (Prod.mk.inj h).1
  · exact nomatch (Prod.mk.inj h).1

end Engine

end TextAdventure
