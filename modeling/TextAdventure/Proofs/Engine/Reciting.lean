import TextAdventure.Proofs.Engine.Effect
import TextAdventure.Proofs.Script.Resolving
import TextAdventure.Proofs.Store.Mirror

/-! What scripts make of the state of a game. A script that hands over lasting values, given replies
of the same kind, leaves a game that can be read from its file as it is, wherever the game is
stored. -/

namespace TextAdventure

open Op

/-- The texts that scripts can come by, and languages as they are made, without surrogates. -/
structure World.Scalar (w : World) : Prop where
  scripts : ∀ s ∈ w.scripts.rows, s.2.content.Scalar
  copies : ∀ c ∈ w.copies.rows, c.2.text.Scalar
  languages : ∀ l ∈ w.languages.entries, l.2.Proper ∧ l.2.code.Scalar

/-- A request that puts none but lasting values into the state. -/
def Request.Lasting : Request → Prop
  | .setState (.text key) value => key.Scalar ∧ value.Lasting
  | .replaceState values => ∀ f ∈ values, f.1.Scalar ∧ f.2.Lasting
  | _ => True

/-- A reply with lasting values. -/
def Request.Gives : (request : Request) → request.Reply → Prop
  | .getState _, reply => ∀ v, reply = .ok v → v.Lasting
  | .lookUp _, reply => ∀ t, reply = .ok t → t.Scalar
  | .bearings, b => b.language.Scalar
  | _, _ => True

/-- A script that makes lasting requests as long as it is given lasting replies. -/
def Play.Lasting {α : Type} : Play α → Prop
  | .done _ => True
  | .ask request next => request.Lasting ∧ ∀ reply, request.Gives reply → (next reply).Lasting
  | .call _ _ => False

/-- An engine that makes such scripts of sources without surrogates. -/
structure Engine.Lasting (engine : Engine) : Prop where
  emptyCopyText : engine.settings.emptyCopyText.Scalar
  runtime : ∀ runtime, engine.runtime = some runtime → ∀ source : Text, source.Scalar →
    (runtime source).Lasting

variable {engine : Engine} {w w' : World}

theorem World.Scalar.story (h : w.Scalar) (same : w'.story = w.story) : w'.Scalar := by
  have scripts : w'.scripts = w.scripts := (congrArg World.scripts same :)
  have copies : w'.copies = w.copies := (congrArg World.copies same :)
  have languages : w'.languages = w.languages := (congrArg World.languages same :)
  exact ⟨scripts ▸ h.scripts, copies ▸ h.copies, languages ▸ h.languages⟩

/-! ### Sources -/

theorem Text.Scalar.join {separator : Text} (hs : separator.Scalar) {parts : List Text}
    (h : ∀ t ∈ parts, t.Scalar) : (Text.join separator parts).Scalar := by
  induction parts with
  | nil => exact nofun
  | cons t rest ih =>
    have first := h t List.mem_cons_self
    cases rest with
    | nil =>
      rw [Text.join, List.intercalate_singleton]
      exact first
    | cons u more =>
      have others := ih fun v hv => h v (List.mem_cons_of_mem _ hv)
      rw [Text.join, List.intercalate_cons_cons]
      intro c hc
      rcases List.mem_append.1 hc with hc | hc
      · rcases List.mem_append.1 hc with hc | hc
        · exact first c hc
        · exact hs c hc
      · exact others c hc

theorem World.Scalar.source (h : w.Scalar) (id : Int) {script : Script}
    (content : script.content.Scalar) :
    (scriptBody (List.map (·.2) (resolveIncludes w.scripts w.includes id).scripts) script).Scalar := by
  rw [resolveIncludes_eq]
  have stored := (Trail.Sound.visit w.scripts w.includes id).1.stored
  refine Text.Scalar.join (by decide) fun t ht => ?_
  rcases List.mem_append.1 ht with ht | ht
  · obtain ⟨s, hs, rfl⟩ := List.mem_map.1 ht
    obtain ⟨r, hr, rfl⟩ := List.mem_map.1 hs
    exact h.scripts _ (Rows.mem_of_get? (stored r hr))
  · rw [List.mem_singleton.1 ht]
    exact content

/-! ### Replies -/

theorem Lookup.scalar_placeholder {l : Lookup} {copies : Copies} (empty : l.emptyCopyText.Scalar)
    (h : ∀ c ∈ copies.rows, c.2.text.Scalar) (language : Option Text) :
    (l.placeholder copies language).Scalar := by
  unfold placeholder
  split
  · rename_i found
    exact h _ (List.mem_of_find?_eq_some found)
  · exact empty

theorem Lookup.scalar_resolve {l : Lookup} {copies : Copies} (empty : l.emptyCopyText.Scalar)
    (h : ∀ c ∈ copies.rows, c.2.text.Scalar) (key : Text) (language : Option Text) :
    (l.resolve copies key language).Scalar := by
  unfold resolve
  split
  · rename_i found
    exact h _ (List.mem_of_find?_eq_some found)
  · exact scalar_placeholder empty h _

namespace Stage

variable {s : Stage World} {id : Int}

theorem lasting_setState {key value : Json} (game : s.game.Lasting)
    (h : Request.Lasting (.setState key value)) : (s.setState key value).2.game.Lasting := by
  unfold setState
  split
  · exact game
  · rename_i k _
    obtain ⟨scalar, lasting⟩ := h
    split
    · exact ⟨game.language, game.scalar, game.state.erase k⟩
    · split
      · exact ⟨game.language, game.scalar, game.state.set scalar lasting⟩
      · exact game
  · exact game

theorem lasting_replaceState {values : Fields} (game : s.game.Lasting)
    (h : ∀ f ∈ values, f.1.Scalar ∧ f.2.Lasting) : (s.replaceState values).game.Lasting := by
  refine ⟨game.language, game.scalar, ?_⟩
  show Json.Lasting (.object (values.foldl (fun fs f => Fields.set f.1 f.2 fs) s.game.state))
  have state := game.state
  generalize s.game.state = fields at state
  induction values generalizing fields with
  | nil => exact state
  | cons f rest ih =>
    obtain ⟨scalar, lasting⟩ := h f List.mem_cons_self
    exact ih (fun g hg => h g (List.mem_cons_of_mem _ hg)) _ (state.set scalar lasting)

/-- A lasting request leaves a lasting game, and is given a lasting reply. -/
theorem lasting_answer (lasting : engine.Lasting) (scalar : s.around.Scalar) (game : s.game.Lasting)
    {request : Request} (h : request.Lasting) :
    request.Gives (s.answer engine.place request).1 ∧
      (s.answer engine.place request).2.game.Lasting := by
  have displayed (body : Body) : (s.display engine.place body).2.game.Lasting := by
    unfold display
    split <;> exact game
  cases request with
  | emit text =>
    refine ⟨trivial, ?_⟩
    cases text with
    | text t => exact displayed (.literal t)
    | _ => exact game
  | emitCopy key =>
    refine ⟨trivial, ?_⟩
    cases key with
    | text k =>
      simp only [answer, emitCopy]
      split
      · exact game
      · exact displayed (.copy k.strip)
    | _ => exact game
  | getState key =>
    refine ⟨fun v hv => ?_, game⟩
    have hstate : s.getState key = .ok v := hv
    unfold getState at hstate
    split at hstate
    · rename_i k
      obtain rfl := Except.ok.inj hstate
      cases hget : s.game.state.get? k with
      | none => exact .null
      | some found => exact game.state.get? hget
    · cases hstate
    · cases hstate
    · obtain rfl := Except.ok.inj hstate
      exact .null
  | setState key value => exact ⟨trivial, lasting_setState game h⟩
  | replaceState values => exact ⟨trivial, lasting_replaceState game h⟩
  | lookUp key =>
    refine ⟨fun t ht => ?_, game⟩
    have hlook : engine.place.lookUp s.game key s.around = .ok t := ht
    unfold Engine.place at hlook
    dsimp only at hlook
    split at hlook
    · rw [← Except.ok.inj hlook]
      exact Lookup.scalar_resolve lasting.emptyCopyText scalar.copies _ _
    · rw [← Except.ok.inj hlook]
      exact Lookup.scalar_placeholder lasting.emptyCopyText scalar.copies _
  | bearings => exact ⟨game.scalar, game⟩

/-- A lasting script leaves a lasting game. -/
theorem lasting_run (lasting : engine.Lasting) (host : Json → Stage World → Json × Stage World)
    {α : Type} {play : Play α} (quiet : play.Quiet) (h : play.Lasting)
    (hid : s.game.id = some id) (scalar : s.around.Scalar) (game : s.game.Lasting) :
    (play.run engine.place host s).2.game.Lasting := by
  induction play generalizing s with
  | done value => exact game
  | ask request next ih =>
    obtain ⟨gives, lasts⟩ := lasting_answer lasting scalar game h.1
    obtain ⟨added, moves⟩ := moves_answer engine hid request
    have around : (s.answer engine.place request).2.around.Scalar := by
      refine scalar.story ?_
      rw [moves.around]
      rfl
    exact ih _ (quiet _) (h.2 _ gives) (moves.sameGame.trans hid) around lasts
  | call request next ih => exact quiet.elim

end Stage

end TextAdventure
