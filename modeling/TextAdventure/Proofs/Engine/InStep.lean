import TextAdventure.Proofs.Engine.Twin

/-! Engines that keep games in memory and in files answer alike. Every operation stores what it has
made of a game, also where it fails, so that a game in a file is never behind. -/

namespace TextAdventure

open Op

variable {engine : Engine} {id : Int} {w w' : World} {h h' : Held Game} {p p' : Progress}

/-- A script runs the same way wherever games are kept, if it leaves the host alone. -/
theorem Stage.run_elsewhere (engine : Engine) (host host' : Json → Stage World → Json × Stage World)
    {α : Type} {play : Play α} (quiet : play.Quiet) (s : Stage World) (games : Games) :
    play.run engine.place host' { s with around := { s.around with games } } =
      ((play.run engine.place host s).1,
        { (play.run engine.place host s).2 with
          around := { (play.run engine.place host s).2.around with games } }) := by
  have displayed (body : Body) (s : Stage World) :
      Stage.display engine.place body { s with around := { s.around with games } } =
        ((s.display engine.place body).1, { (s.display engine.place body).2 with
          around := { (s.display engine.place body).2.around with games } }) := by
    have hlog : engine.place.log s.game body { s.around with games } =
        ((engine.place.log s.game body s.around).1,
          { (engine.place.log s.game body s.around).2 with games }) :=
      Apart.log s.game body s.around games
    unfold Stage.display
    dsimp only
    rw [hlog]
    rcases engine.place.log s.game body s.around with ⟨e | entry, around⟩ <;> rfl
  have answered (request : Request) (s : Stage World) :
      Stage.answer engine.place { s with around := { s.around with games } } request =
        ((s.answer engine.place request).1, { (s.answer engine.place request).2 with
          around := { (s.answer engine.place request).2.around with games } }) := by
    cases request with
    | emit text =>
      cases text with
      | text t => exact displayed (.literal t) s
      | _ => rfl
    | emitCopy key =>
      cases key with
      | text k =>
        simp only [Stage.answer, Stage.emitCopy]
        split
        · rfl
        · exact displayed (.copy k.strip) s
      | _ => rfl
    | setState key value =>
      simp only [Stage.answer, Stage.setState]
      split
      · rfl
      · split
        · rfl
        · split <;> rfl
      · rfl
    | _ => rfl
  induction play generalizing s with
  | done value => rfl
  | ask request next ih =>
    rw [Play.run, Play.run, answered]
    exact ih _ (quiet _) _
  | call request next ih => exact quiet.elim

/-- The same run, and the same game held after it. -/
structure SameRun (id : Int) (r r' : ScriptRun × Held Game) : Prop where
  run : r'.1 = r.1
  held : SameHeld id r.2 r'.2

/-- Operations are equally far. -/
structure SameProgress (id : Int) (p p' : Progress) : Prop where
  entries : p'.entries = p.entries
  held : SameHeld id p.held p'.held

/-- A game lasts however a script of it ends. -/
theorem Game.Lasting.afterwards {g : Game} (lasting : g.Lasting) (ending : Ending) :
    (Engine.afterwards g ending).Lasting := by
  unfold Engine.afterwards
  split
  · exact ⟨lasting.language, lasting.scalar, lasting.state⟩
  · exact lasting

namespace Agree

/-! ### Scripts -/

theorem storeAgain (twin : Twin id w w') (held : SameHeld id h h') :
    Agree (Twin id) (SameHeld id) (Engine.storeAgain h) w (Engine.storeAgain h') w' := by
  unfold Engine.storeAgain
  rw [if_pos (by simp [held.number]), if_pos (by simp [held.value, held.number])]
  exact updateGame twin held

theorem report (twin : Twin id w w') (held : SameHeld id h h') (number : Int)
    (included : Rows Script) (emitted : List Content) (ending : Ending) :
    Agree (Twin id) (SameRun id) (engine.report number included emitted h ending) w
      (engine.report number included emitted h' ending) w' := by
  unfold Engine.report
  rw [held.value]
  split
  · exact .throw twin _
  · exact .throw twin _
  · exact .throw twin _
  · exact .read twin.toAlike twin (.texts _ _ _) (.texts _ _ _) fun texts _ => .pure twin ⟨rfl, held⟩

theorem play (quiet : engine.Quiet) (lasting : engine.Lasting) (twin : Twin id w w')
    (held : SameHeld id h h') (number : Int) {script : Script} (content : script.content.Scalar)
    {runtime : Runtime} (hruntime : engine.runtime = some runtime) :
    Agree (Twin id) (SameRun id) (engine.play h number script runtime) w
      (engine.play h' number script runtime) w' := by
  have scripts : w'.scripts = w.scripts := (congrArg World.scripts twin.same :)
  have includes : w'.includes = w.includes := (congrArg World.includes twin.same :)
  have source := twin.scalar.source number content
  obtain ⟨added, moves⟩ := Engine.moves_outcome quiet hruntime held.number number script w
  have lasts : (engine.outcome h number script runtime w).2.game.Lasting :=
    Stage.lasting_run lasting _ (quiet runtime hruntime _)
      (lasting.runtime runtime hruntime _ source) held.number twin.scalar held.lasting
  have elsewhere : engine.outcome h' number script runtime w' =
      ((engine.outcome h number script runtime w).1,
        { (engine.outcome h number script runtime w).2 with
          around :=
            { (engine.outcome h number script runtime w).2.around with games := w'.games } }) := by
    have hrun := Stage.run_elsewhere engine (engine.consult h) (engine.consult h')
      (quiet runtime hruntime (scriptBody
        (List.map (·.2) (resolveIncludes w.scripts w.includes number).scripts) script))
      { game := h.value, around := w } w'.games
    have hworld : ({ w with games := w'.games } : World) = w' := twin.same.symm
    unfold Engine.outcome
    rw [scripts, includes, held.value]
    rw [hworld] at hrun
    exact hrun
  rw [Agree, Engine.run_play, Engine.run_play, elsewhere, scripts, includes]
  generalize engine.outcome h number script runtime w = outcome at moves lasts
  obtain ⟨ending, s⟩ := outcome
  have story : s.around.story = w.story := by
    rw [moves.around]
    rfl
  have own : s.around.games = w.games := by rw [moves.around]
  have next : Twin id s.around { s.around with games := w'.games } :=
    ⟨⟨rfl, own ▸ twin.games, twin.scalar.story story⟩, own ▸ twin.stored⟩
  have number' : (Engine.afterwards s.game ending).id = some id :=
    (Plays.sameBearings_afterwards s.game ending).id.trans (moves.sameGame.trans held.number)
  have kept : SameHeld id { h with value := Engine.afterwards s.game ending }
      { h' with value := Engine.afterwards s.game ending } :=
    ⟨rfl, number', held.place, held.otherPlace, lasts.afterwards ending⟩
  exact (storeAgain next kept).bind fun k k' v v' after again =>
    report after again number _ s.emitted ending

section Running

variable (quiet : engine.Quiet) (lasting : engine.Lasting)
include quiet lasting

theorem execute (twin : Twin id w w') (held : SameHeld id h h') (number : Option Int)
    {script : Script} (content : script.content.Scalar) :
    Agree (Twin id) (SameRun id) (engine.execute h number script) w
      (engine.execute h' number script) w' := by
  cases number with
  | none =>
    rw [Engine.execute_none, Engine.execute_none, held.value]
    split <;> exact .throw twin _
  | some number =>
    rw [Engine.execute_some, Engine.execute_some, held.value]
    split
    · exact .throw twin _
    split
    · exact .throw twin _
    exact .read twin.toAlike twin (.runtimeFor _ _ _) (.runtimeFor _ _ _) fun runtime hruntime =>
      play quiet lasting twin held number content (Engine.runtime_of_runtimeFor hruntime)

theorem executeStored (twin : Twin id w w') (held : SameHeld id h h') (script : Identifier) :
    Agree (Twin id) (SameRun id) (engine.executeStored h script) w
      (engine.executeStored h' script) w' := by
  refine .read twin.toAlike twin (.script _) (.script _) fun found hfound =>
    .read twin.toAlike twin (.number _ _) (.number _ _) fun number _ =>
      execute quiet lasting twin held _ ?_
  obtain ⟨n, -, hget⟩ := World.run_found (f := fun v n => v.scripts.get? n) hfound
  exact twin.scalar.scripts _ (Rows.mem_of_get? hget)

/-! ### Progress -/

theorem runHook (twin : Twin id w w') (same : SameProgress id p p') (script : Option Int) :
    Agree (Twin id) (SameProgress id) (engine.runHook script p) w (engine.runHook script p') w' := by
  cases script with
  | none => exact .pure twin same
  | some script =>
    refine (executeStored quiet lasting twin same.held script).bind fun r r' v v' after run => ?_
    refine .pure after ⟨?_, run.held⟩
    rw [same.entries, run.run]

omit quiet lasting in
theorem showCopy (twin : Twin id w w') (same : SameProgress id p p') (key : Option Text) :
    Agree (Twin id) (SameProgress id) (Engine.showCopy key p) w (Engine.showCopy key p') w' := by
  cases key with
  | none => exact .pure twin same
  | some key =>
    refine (log twin same.held (.copy key)).bind fun entry entry' v v' after shown => ?_
    obtain rfl := shown
    exact .pure after ⟨by rw [same.entries], same.held⟩

omit quiet lasting in
theorem move (twin : Twin id w w') (same : SameProgress id p p') (number : Int)
    (destination : Location) :
    Agree (Twin id) (SameProgress id) (Engine.move number destination p) w
      (Engine.move number destination p') w' := by
  refine .tick twin.toAlike fun time clock => ?_
  have after : Twin id { w with clock } { w' with clock } := ⟨twin.toAlike.clocked clock, twin.stored⟩
  have game : p'.game = p.game := same.held.value
  have moved : SameHeld id
      { p.held with value := { p.game with
          location := destination.idAt number
          locationTimestamp := time
          completed := p.game.completed || destination.final } }
      { p'.held with value := { p'.game with
          location := destination.idAt number
          locationTimestamp := time
          completed := p'.game.completed || destination.final } } := by
    refine ⟨by rw [game], same.held.number, same.held.place, same.held.otherPlace, ?_⟩
    exact ⟨same.held.lasting.language, same.held.lasting.scalar, same.held.lasting.state⟩
  refine (updateGame after moved).bind fun h h' v v' twin held => ?_
  exact .pure twin ⟨same.entries, held⟩

theorem terminate (twin : Twin id w w') (same : SameProgress id p p') :
    Agree (Twin id) (SameProgress id) (engine.terminate p) w (engine.terminate p') w' := by
  have adventures : w'.adventures = w.adventures := (congrArg World.adventures twin.same :)
  have game : p'.game = p.game := same.held.value
  unfold Engine.terminate
  rw [Agree, run_bind_ok (run_get w), run_bind_ok (run_get w'), adventures, game]
  split
  · exact pure twin same
  · exact runHook quiet lasting twin same _

theorem travel (twin : Twin id w w') (same : SameProgress id p p') (route : Route)
    (origin destination : Held Location) :
    Agree (Twin id) (SameProgress id) (engine.travel route origin destination p) w
      (engine.travel route origin destination p') w' := by
  refine (showCopy twin same _).bind fun p₁ q₁ v₁ u₁ twin same => ?_
  refine (runHook quiet lasting twin same _).bind fun p₂ q₂ v₂ u₂ twin same => ?_
  refine .read twin.toAlike twin (.locationNow _) (.locationNow _) fun here _ => ?_
  refine (runHook quiet lasting twin same _).bind fun p₃ q₃ v₃ u₃ twin same => ?_
  refine .read twin.toAlike twin (.locationNow _) (.locationNow _) fun there _ => ?_
  refine (move twin same _ _).bind fun p₄ q₄ v₄ u₄ twin same => ?_
  refine (showCopy twin same _).bind fun p₅ q₅ v₅ u₅ twin same => ?_
  refine (runHook quiet lasting twin same _).bind fun p₆ q₆ v₆ u₆ twin same => ?_
  refine .read twin.toAlike twin (.locationNow _) (.locationNow _) fun last _ => ?_
  split
  · exact terminate quiet lasting twin same
  · exact .pure twin same

theorem opening (twin : Twin id w w') (same : SameProgress id p p') (adventure : Held Adventure)
    (location : Held Location) :
    Agree (Twin id) (SameProgress id) (engine.opening adventure location p) w
      (engine.opening adventure location p') w' := by
  refine (runHook quiet lasting twin same _).bind fun p₁ q₁ v₁ u₁ twin same => ?_
  refine .read twin.toAlike twin (.adventureNow _) (.adventureNow _) fun adventureNow _ => ?_
  refine (showCopy twin same _).bind fun p₂ q₂ v₂ u₂ twin same => ?_
  refine .read twin.toAlike twin (.locationNow _) (.locationNow _) fun place _ => ?_
  refine (showCopy twin same _).bind fun p₃ q₃ v₃ u₃ twin same => ?_
  refine (runHook quiet lasting twin same _).bind fun p₄ q₄ v₄ u₄ twin same => ?_
  refine .read twin.toAlike twin (.locationNow _) (.locationNow _) fun last _ => ?_
  split
  · refine .read twin.toAlike twin (.adventureNow _) (.adventureNow _) fun adventureNow _ => ?_
    exact runHook quiet lasting twin same _
  · exact .pure twin same

omit quiet lasting in
theorem transcribe (twin : Twin id w w') (same : SameProgress id p p') :
    Agree (Twin id) (· = ·) (engine.transcribe p) w (engine.transcribe p') w' := by
  have game : p'.game = p.game := same.held.value
  unfold Engine.transcribe
  rw [game, same.entries]
  exact .read twin.toAlike twin (.texts _ _ _) (.texts _ _ _) fun texts _ => .pure twin rfl

end Running

end Agree

end TextAdventure
