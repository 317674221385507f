import TextAdventure.Proofs.Engine.Execution

/-! Scripts that leave the host alone. Such a script changes the state of its game, and what it emits
goes to the end of the game's log; nothing else changes. -/

namespace TextAdventure

/-- No script asks anything of the host. -/
def Engine.Quiet (engine : Engine) : Prop :=
  ∀ runtime, engine.runtime = some runtime → ∀ source, (runtime source).Quiet

namespace Stage

/-- From one stage to another, the game with number `id` has changed its state alone, and the entries
that it has emitted are those that were added to its log. -/
structure Moves (id : Int) (added : List Content) (s s' : Stage World) : Prop where
  game : s'.game = { s.game with state := s'.game.state }
  emitted : s'.emitted = s.emitted ++ added
  around : s'.around = { s.around with journal := s'.around.journal }
  journal : Journal.Extends id added s.around.journal s'.around.journal

variable {id : Int} {added more : List Content} {s s' s'' : Stage World}

theorem Moves.refl (id : Int) (s : Stage World) : Moves id [] s s :=
  ⟨rfl, by simp, rfl, .refl id _⟩

theorem Moves.trans (h : Moves id added s s') (h' : Moves id more s' s'') :
    Moves id (added ++ more) s s'' := by
  refine ⟨?_, ?_, ?_, h.journal.trans h'.journal⟩
  · rw [h'.game, h.game]
  · rw [h'.emitted, h.emitted, List.append_assoc]
  · rw [h'.around, h.around]

theorem Moves.sameGame (h : Moves id added s s') : s'.game.id = s.game.id := by rw [h.game]

/-- What is shown goes to the end of the game's log, and is never refused. -/
theorem display_eq (engine : Engine) (hid : s.game.id = some id) (body : Body) :
    s.display engine.place body = (.ok (),
      { s with
        emitted := s.emitted ++ [s.around.journal.nextEntry id body]
        around := { s.around with journal := s.around.journal.appended id body } }) := by
  have hlog : engine.place.log s.game body s.around =
      (.ok (s.around.journal.nextEntry id body),
        { s.around with journal := s.around.journal.appended id body }) :=
    World.run_log_some hid body s.around
  unfold display
  rw [hlog]

theorem moves_display (engine : Engine) (hid : s.game.id = some id) (body : Body) :
    ∃ added, Moves id added s (s.display engine.place body).2 := by
  rw [display_eq engine hid]
  exact ⟨_, rfl, rfl, rfl, Journal.extends_appended _ _ _⟩

theorem moves_setState (id : Int) (key value : Json) (s : Stage World) :
    Moves id [] s (s.setState key value).2 := by
  unfold setState
  split
  · exact .refl id s
  · split
    · exact ⟨rfl, by simp, rfl, .refl id _⟩
    · split
      · exact ⟨rfl, by simp, rfl, .refl id _⟩
      · exact .refl id s
  · exact .refl id s

theorem moves_answer (engine : Engine) (hid : s.game.id = some id) (request : Request) :
    ∃ added, Moves id added s (s.answer engine.place request).2 := by
  cases request with
  | emit text =>
    cases text with
    | text t => exact moves_display engine hid (.literal t)
    | _ => exact ⟨[], .refl id s⟩
  | emitCopy key =>
    cases key with
    | text k =>
      simp only [answer, emitCopy]
      split
      · exact ⟨[], .refl id s⟩
      · exact moves_display engine hid (.copy k.strip)
    | _ => exact ⟨[], .refl id s⟩
  | setState key value => exact ⟨[], moves_setState id key value s⟩
  | replaceState values => exact ⟨[], rfl, by simp [answer, replaceState], rfl, .refl id _⟩
  | getState _ => exact ⟨[], .refl id s⟩
  | lookUp _ => exact ⟨[], .refl id s⟩
  | bearings => exact ⟨[], .refl id s⟩

/-- A script that leaves the host alone does so step by step. -/
theorem moves_run (engine : Engine) (host : Json → Stage World → Json × Stage World) {α : Type}
    {play : Play α} (quiet : play.Quiet) {s : Stage World} (hid : s.game.id = some id) :
    ∃ added, Moves id added s (play.run engine.place host s).2 := by
  induction play generalizing s with
  | done value => exact ⟨[], .refl id s⟩
  | ask request next ih =>
    obtain ⟨added, answered⟩ := moves_answer engine hid request
    obtain ⟨more, ran⟩ := ih _ (quiet _) (answered.sameGame.trans hid)
    exact ⟨added ++ more, answered.trans ran⟩
  | call request next ih => exact quiet.elim

/-! ### Stages on which scripts are told the same -/

/-- A relation between stages that have the same state, the same bearings and the same copy. It is
kept when both stages change their state alike, and when they show the same. -/
structure Congruence (engine : Engine) (R : Stage World → Stage World → Prop) : Prop where
  state : ∀ {s s'}, R s s' → s'.game.state = s.game.state
  bearings : ∀ {s s'}, R s s' → s'.bearings = s.bearings
  copies : ∀ {s s'}, R s s' → s'.around.copies = s.around.copies
  changed : ∀ {s s'} state, R s s' →
    R { s with game := { s.game with state } } { s' with game := { s'.game with state } }
  display : ∀ {s s'} body, R s s' →
    (s'.display engine.place body).1 = (s.display engine.place body).1 ∧
      R (s.display engine.place body).2 (s'.display engine.place body).2

namespace Congruence

variable {engine : Engine} {R : Stage World → Stage World → Prop}

theorem setState (congruence : Congruence engine R) (h : R s s') (key value : Json) :
    (s'.setState key value).1 = (s.setState key value).1 ∧
      R (s.setState key value).2 (s'.setState key value).2 := by
  unfold Stage.setState
  rw [congruence.state h]
  split
  · exact ⟨rfl, h⟩
  · split
    · exact ⟨rfl, congruence.changed _ h⟩
    · split
      · exact ⟨rfl, congruence.changed _ h⟩
      · exact ⟨rfl, h⟩
  · exact ⟨rfl, h⟩

theorem answer (congruence : Congruence engine R) (h : R s s') (request : Request) :
    (s'.answer engine.place request).1 = (s.answer engine.place request).1 ∧
      R (s.answer engine.place request).2 (s'.answer engine.place request).2 := by
  cases request with
  | emit text =>
    cases text with
    | text t => exact congruence.display (.literal t) h
    | _ => exact ⟨rfl, h⟩
  | emitCopy key =>
    cases key with
    | text k =>
      simp only [Stage.answer, emitCopy]
      split
      · exact ⟨rfl, h⟩
      · exact congruence.display (.copy k.strip) h
    | _ => exact ⟨rfl, h⟩
  | getState key =>
    have state : s'.getState key = s.getState key := by
      unfold getState
      rw [congruence.state h]
    exact ⟨state, h⟩
  | setState key value => exact congruence.setState h key value
  | replaceState values =>
    have changed := congruence.changed
      (values.foldl (fun fs f => Fields.set f.1 f.2 fs) s.game.state) h
    simp only [Stage.answer, replaceState, congruence.state h]
    exact ⟨trivial, changed⟩
  | lookUp key =>
    have language : s'.game.language = s.game.language :=
      congrArg Bearings.language (congruence.bearings h)
    refine ⟨?_, h⟩
    show engine.place.lookUp s'.game key s'.around = engine.place.lookUp s.game key s.around
    unfold Engine.place
    dsimp only
    rw [language, congruence.copies h]
  | bearings => exact ⟨congruence.bearings h, h⟩

/-- A script that leaves the host alone ends the same way on both stages, step by step. -/
theorem run (congruence : Congruence engine R) (host host' : Json → Stage World → Json × Stage World)
    {α : Type} {play : Play α} (quiet : play.Quiet) (h : R s s') :
    (play.run engine.place host' s').1 = (play.run engine.place host s).1 ∧
      R (play.run engine.place host s).2 (play.run engine.place host' s').2 := by
  induction play generalizing s s' with
  | done value => exact ⟨rfl, h⟩
  | ask request next ih =>
    obtain ⟨reply, after⟩ := congruence.answer h request
    rw [Play.run, Play.run]
    dsimp only
    rw [reply]
    exact ih _ (quiet _) after
  | call request next ih => exact quiet.elim

end Congruence

end Stage

theorem Engine.moves_outcome {engine : Engine} (quiet : engine.Quiet) {runtime : Runtime}
    (hruntime : engine.runtime = some runtime) {held : Held Game} {game : Int}
    (hid : held.value.id = some game) (id : Int) (script : Script) (w : World) :
    ∃ added, Stage.Moves game added { game := held.value, around := w }
      (engine.outcome held id script runtime w).2 :=
  Stage.moves_run engine _ (quiet runtime hruntime _) hid

/-! ### Engines, and a world for them -/

/-- An engine that recites the sources of scripts. -/
def Engine.reciting : Engine :=
  { runtime := some fun source => .ask (.emit (.text source)) fun _ => .done (.result .null) }

theorem Engine.quiet_reciting : Engine.reciting.Quiet := by
  intro runtime hruntime source
  rw [← Option.some.inj hruntime]
  intro reply
  exact trivial

/-- An engine whose scripts ask their host for something. -/
def Engine.asking : Engine :=
  { runtime := some fun _ => .call .null fun _ => .done (.result .null) }

/-- A path between two places, the second of which is the end of it. A word is said on the way. -/
def World.lane (games : Games) : World :=
  { adventures := { rows := [(1, { name := "Lane" })], ids := ⟨2⟩ }
    locations :=
      { rows := [(1, { adventure := 1, name := "Gate", initial := true }),
          (2, { adventure := 1, name := "Well", final := true })], ids := ⟨3⟩ }
    routes :=
      { rows := [(1, { origin := 1, destination := 2, takenScript := some 1 })], ids := ⟨2⟩ }
    scripts := { rows := [(1, { adventure := 1, name := "Word", content := "Onward." })], ids := ⟨2⟩ }
    languages := { entries := [(1, { name := "en", code := "en" })], ids := ⟨2⟩ }
    games, clock := { reading := fun _ => 0 }, keys := { key := fun _ => [] } }

/-- A game that has come to the well. -/
def Game.arrived : Game :=
  { adventure := 1, location := 2, language := "en", locationTimestamp := 2, completed := true
    id := some 1 }

end TextAdventure
