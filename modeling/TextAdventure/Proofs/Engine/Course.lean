import TextAdventure.Proofs.Engine.Advance

/-! The steps that operations on a game are made of, one after another: each of them plays the game
on, and hands it to the next one as it is stored now. -/

namespace TextAdventure

open Op
open Table (HeldAt)

variable {engine : Engine} {id : Int} {P P' : Game → Prop} {added : List Content} {w w' : World}
  {held : Held Game} {p : Progress}

/-- Two games that go by one number, are in one place and speak one language. -/
structure Game.SameBearings (g g' : Game) : Prop where
  id : g'.id = g.id
  adventure : g'.adventure = g.adventure
  location : g'.location = g.location
  language : g'.language = g.language

theorem Game.SameBearings.refl (g : Game) : SameBearings g g := ⟨rfl, rfl, rfl, rfl⟩

theorem Game.SameBearings.trans {g g' g'' : Game} (h : SameBearings g g')
    (h' : SameBearings g' g'') : SameBearings g g'' :=
  ⟨h'.id.trans h.id, h'.adventure.trans h.adventure, h'.location.trans h.location,
    h'.language.trans h.language⟩

/-- What holds of a game by its bearings alone. -/
def OfBearings (P : Game → Prop) : Prop := ∀ g g', Game.SameBearings g g' → P g → P g'

theorem OfBearings.at (h : OfBearings P) (location : Int) :
    OfBearings fun g => P g ∧ g.location = location :=
  fun g g' same hg => ⟨h g g' same hg.1, same.location.trans hg.2⟩

/-- An operation can play a game on: it holds the game of its number, which is stored. -/
structure Playable (id : Int) (P : Game → Prop) (w : World) (held : Held Game) : Prop where
  number : held.value.id = some id
  place : HeldAt id held
  holds : P held.value
  stored : w.games.Has id

theorem Playable.advance (h : Playable id P w held) (advances : Advances id P' added w w') :
    Playable id P w' held := ⟨h.number, h.place, h.holds, (advances.games.has id).2 h.stored⟩

/-- The entries and texts that an operation gives tell what was added to the log, in the language of
the game. -/
structure Shows (engine : Engine) (id : Int) (P : Game → Prop) (copies : Copies)
    (entries : List Content) (texts : List Text) (added : List Content) : Prop where
  entries : entries = added
  texts : ∃ g : Game, g.id = some id ∧ P g ∧
    texts = added.map fun e => e.shownText engine.lookup copies g.language

namespace Plays

theorem log (h : Playable id P w held) (body : Body) :
    Plays id P w (World.log held.value body) fun entry added _ => added = [entry] := by
  rw [Plays, World.run_log_some h.number]
  refine ⟨_, ⟨.refl id P _, Journal.extends_appended _ _ _, rfl, fun _ => h.stored⟩,
    fun entry hentry => ?_⟩
  rw [Except.ok.inj hentry]

theorem tick : Plays id P w World.tick fun _ added _ => added = [] :=
  ⟨[], ⟨.refl id P _, .refl id _, rfl, fun ne => absurd rfl ne⟩, fun _ _ => rfl⟩

theorem updateGame (h : Playable id P w held) :
    Plays id P w (World.updateGame held) fun held' added w' =>
      added = [] ∧ held'.value = held.value ∧ Playable id P w' held' := by
  rcases World.run_updateGame h.number h.place h.stored with
    ⟨held', games, hrun, hvalue, place, puts, ids⟩ | ⟨-, hrun⟩ <;> rw [Plays, hrun]
  · have advances : Advances id P [] w { w with games } :=
      ⟨.of_puts puts h.number h.holds h.stored ids, .refl id _, rfl, fun ne => absurd rfl ne⟩
    refine ⟨[], advances, fun a ha => ?_⟩
    obtain rfl : held' = a := Except.ok.inj ha
    refine ⟨rfl, hvalue, ⟨?_, place, ?_, (puts.has id).2 (.inl rfl)⟩⟩
    · rw [hvalue]
      exact h.number
    · rw [hvalue]
      exact h.holds
  · exact ⟨[], .refl id P w, fun a ha => by cases ha⟩

/-! ### Scripts -/

theorem storeAgain (h : Playable id P w held) :
    Plays id P w (Engine.storeAgain held) fun held' added w' =>
      added = [] ∧ held'.value = held.value ∧ Playable id P w' held' := by
  unfold Engine.storeAgain
  rw [if_pos (by simp [h.number])]
  exact updateGame h

theorem report (h : Playable id P w held) (script : Int) (included : Rows Script)
    (emitted : List Content) (ending : Ending) :
    Plays id P w (engine.report script included emitted held ending) fun r added w' =>
      added = [] ∧ Shows engine id P w.copies r.1.entries r.1.texts emitted ∧
        Playable id P w' r.2 := by
  unfold Engine.report
  split
  · exact .throw _
  · exact .throw _
  · exact .throw _
  · refine .read (.texts _ _ _) fun texts htexts => .pure ⟨rfl, ?_, h⟩
    refine ⟨rfl, held.value, h.number, h.holds, ?_⟩
    exact (Except.ok.inj (Prod.mk.inj htexts).1).symm

/-- A game stays where it is when a script of it ends, however it does. -/
theorem sameBearings_afterwards (game : Game) (ending : Ending) :
    Game.SameBearings game (Engine.afterwards game ending) := by
  unfold Engine.afterwards
  split <;> exact ⟨rfl, rfl, rfl, rfl⟩

/-- A game stays where it is when a script has changed its state and ends. -/
theorem sameBearings_played {g g' : Game} (h : g' = { g with state := g'.state }) (ending : Ending) :
    Game.SameBearings g (Engine.afterwards g' ending) := by
  have changed : Game.SameBearings g g' := by
    rw [h]
    exact ⟨rfl, rfl, rfl, rfl⟩
  exact changed.trans (sameBearings_afterwards g' ending)

theorem play (quiet : engine.Quiet) (lasts : OfBearings P) (h : Playable id P w held) (number : Int)
    (script : Script) {runtime : Runtime} (hruntime : engine.runtime = some runtime) :
    Plays id P w (engine.play held number script runtime) fun r added w' =>
      Shows engine id P w.copies r.1.entries r.1.texts added ∧ Playable id P w' r.2 := by
  obtain ⟨added, moves⟩ := Engine.moves_outcome quiet hruntime h.number number script w
  rw [Plays, Engine.run_play]
  generalize engine.outcome held number script runtime w = outcome at moves
  obtain ⟨ending, s⟩ := outcome
  have ran : Advances id P added w s.around := by
    refine ⟨?_, moves.journal, ?_, fun _ => h.stored⟩ <;> rw [moves.around]
    · exact .refl id P _
    · rfl
  have same : Game.SameBearings held.value (Engine.afterwards s.game ending) :=
    sameBearings_played moves.game ending
  have next : Playable id P s.around { held with value := Engine.afterwards s.game ending } :=
    ⟨same.id.trans h.number, h.place, lasts _ _ same h.holds, (ran.games.has id).2 h.stored⟩
  have settles : Plays id P s.around (engine.settle held number
      (resolveIncludes w.scripts w.includes number).scripts ending s) fun r more w' =>
        more = [] ∧ Shows engine id P w.copies r.1.entries r.1.texts s.emitted ∧
          Playable id P w' r.2 := by
    refine .bind (storeAgain next) fun held' more w' advances hheld => ?_
    obtain ⟨rfl, -, playable⟩ := hheld
    have hcopies : w'.copies = w.copies := (congrArg World.copies (advances.story.trans ran.story) :)
    rw [← hcopies]
    exact report playable _ _ _ _
  obtain ⟨more, advances, result⟩ := settles
  refine ⟨added ++ more, ran.trans advances, fun r hr => ?_⟩
  obtain ⟨rfl, shows, playable⟩ := result r hr
  have emitted : s.emitted = added := by
    have := moves.emitted
    simpa using this
  rw [List.append_nil, ← emitted]
  exact ⟨shows, playable⟩

theorem execute (quiet : engine.Quiet) (lasts : OfBearings P) (h : Playable id P w held)
    (number : Option Int) (script : Script) :
    Plays id P w (engine.execute held number script) fun r added w' =>
      Shows engine id P w.copies r.1.entries r.1.texts added ∧ Playable id P w' r.2 := by
  cases number with
  | none =>
    rw [Engine.execute_none]
    split <;> exact .throw _
  | some number =>
    rw [Engine.execute_some]
    split
    · exact .throw _
    split
    · exact .throw _
    exact .read (.runtimeFor _ _ _) fun runtime hruntime =>
      play quiet lasts h number script (Engine.runtime_of_runtimeFor hruntime)

theorem executeStored (quiet : engine.Quiet) (lasts : OfBearings P) (h : Playable id P w held)
    (script : Identifier) :
    Plays id P w (engine.executeStored held script) fun r added w' =>
      Shows engine id P w.copies r.1.entries r.1.texts added ∧ Playable id P w' r.2 :=
  .read (.script _) fun _ _ => .read (.number _ _) fun _ _ => execute quiet lasts h _ _

end Plays

/-! ### Progress -/

/-- An operation in progress has gone on: it has noted what was added to the log, and holds the game
as it is now. -/
def Onward (id : Int) (P : Game → Prop) (p : Progress) (p' : Progress) (added : List Content)
    (w' : World) : Prop :=
  p'.entries = p.entries ++ added ∧ Playable id P w' p'.held

namespace Plays

/-- A step after another one. -/
theorem onward {x : Op Progress} {f : Progress → Op Progress}
    (hx : Plays id P w x (Onward id P' p))
    (hf : ∀ p' w', w'.story = w.story → Playable id P' w' p'.held →
      Plays id P w' (f p') (Onward id P p')) :
    Plays id P w (x >>= f) (Onward id P p) := by
  refine .bind hx fun p' added w' advances hp' => ?_
  refine (hf p' w' advances.story hp'.2).mono fun p'' more w'' _ hp'' => ?_
  exact ⟨by rw [hp''.1, hp'.1, List.append_assoc], hp''.2⟩

theorem still (h : Playable id P w p.held) : Plays id P w (Pure.pure p) (Onward id P p) :=
  .pure ⟨by simp, h⟩

theorem showCopy (h : Playable id P w p.held) (key : Option Text) :
    Plays id P w (Engine.showCopy key p) (Onward id P p) := by
  cases key with
  | none => exact still h
  | some key =>
    refine .bind (log h _) fun entry added w' advances hadded => ?_
    subst hadded
    exact .pure ⟨rfl, h.advance advances⟩

theorem runHook (quiet : engine.Quiet) (lasts : OfBearings P) (h : Playable id P w p.held)
    (script : Option Int) : Plays id P w (engine.runHook script p) (Onward id P p) := by
  cases script with
  | none => exact still h
  | some script =>
    refine .bind (executeStored quiet lasts h script) fun r added w' advances hr => ?_
    refine .pure ⟨?_, hr.2⟩
    simp [hr.1.entries]

theorem move {number : Int} {destination : Location} (h : Playable id P' w p.held)
    (moved : ∀ g g' : Game, P' g → g'.id = g.id → g'.adventure = g.adventure →
      g'.language = g.language → g'.location = destination.idAt number → P g') :
    Plays id P w (Engine.move number destination p) (Onward id P p) := by
  refine .bind tick fun time added w' advances hadded => ?_
  subst hadded
  have next : Playable id P w' { p.held with value := { p.game with
      location := destination.idAt number
      locationTimestamp := time
      completed := p.game.completed || destination.final } } :=
    ⟨h.number, h.place, moved _ _ h.holds rfl rfl rfl rfl, (advances.games.has id).2 h.stored⟩
  refine .bind (updateGame next) fun held added w'' _ hheld => ?_
  obtain ⟨rfl, -, playable⟩ := hheld
  exact .pure ⟨by simp, playable⟩

theorem terminate (quiet : engine.Quiet) (lasts : OfBearings P) (h : Playable id P w p.held) :
    Plays id P w (engine.terminate p) (Onward id P p) := by
  refine .read .get fun v hv => ?_
  split
  · exact still h
  · exact runHook quiet lasts h _

/-- What is read on the way from a held location is the location as it is stored. -/
theorem locationNow {β : Type} {R : β → List Content → World → Prop} {f : Location → Op β}
    (location : Held Location) (hf : Plays id P w (f (w.locations.current location)) R) :
    Plays id P w (World.locationNow location >>= f) R := by
  refine .read (.locationNow _) fun found hfound => ?_
  obtain rfl : w.locations.current location = found := Except.ok.inj (Prod.mk.inj hfound).1
  exact hf

theorem adventureNow {β : Type} {R : β → List Content → World → Prop} {f : Adventure → Op β}
    (adventure : Held Adventure) (hf : Plays id P w (f (w.adventures.current adventure)) R) :
    Plays id P w (World.adventureNow adventure >>= f) R := by
  refine .read (.adventureNow _) fun found hfound => ?_
  obtain rfl : w.adventures.current adventure = found := Except.ok.inj (Prod.mk.inj hfound).1
  exact hf

/-- `L` holds of a game as it leaves, and `P` once it has arrived. -/
theorem travel {L : Game → Prop} (quiet : engine.Quiet) (leaves : OfBearings L)
    (arrives : OfBearings P) (le : ∀ g, L g → P g) {route : Route}
    {origin destination : Held Location}
    (moved : ∀ g g' : Game, L g → g'.id = g.id → g'.adventure = g.adventure →
      g'.language = g.language →
      g'.location = (w.locations.current destination).idAt route.destination → P g')
    (h : Playable id L w p.held) :
    Plays id P w (engine.travel route origin destination p) (Onward id P p) := by
  refine .onward ((showCopy h _).weaken le) fun p₁ w₁ story₁ h₁ => ?_
  refine .onward ((runHook quiet leaves h₁ _).weaken le) fun p₂ w₂ story₂ h₂ => ?_
  refine .locationNow _ <| .onward ((runHook quiet leaves h₂ _).weaken le)
    fun p₃ w₃ story₃ h₃ => .locationNow _ ?_
  have hlocations : w₃.locations = w.locations :=
    (congrArg World.locations (story₃.trans (story₂.trans story₁)) :)
  rw [hlocations]
  refine .onward (move h₃ moved) fun p₄ w₄ _ h₄ => ?_
  refine .onward (showCopy h₄ _) fun p₅ w₅ _ h₅ => ?_
  refine .onward (runHook quiet arrives h₅ _) fun p₆ w₆ _ h₆ => .locationNow _ ?_
  split
  · exact terminate quiet arrives h₆
  · exact still h₆

theorem opening (quiet : engine.Quiet) (lasts : OfBearings P) (adventure : Held Adventure)
    (location : Held Location) (h : Playable id P w p.held) :
    Plays id P w (engine.opening adventure location p) (Onward id P p) := by
  refine .onward (runHook quiet lasts h _) fun p₁ w₁ _ h₁ => .adventureNow _ ?_
  refine .onward (showCopy h₁ _) fun p₂ w₂ _ h₂ => .locationNow _ ?_
  refine .onward (showCopy h₂ _) fun p₃ w₃ _ h₃ => ?_
  refine .onward (runHook quiet lasts h₃ _) fun p₄ w₄ _ h₄ => .locationNow _ ?_
  split
  · exact .adventureNow _ (runHook quiet lasts h₄ _)
  · exact still h₄

theorem transcribe (h : Playable id P w p.held) :
    Plays id P w (engine.transcribe p) fun t added w' =>
      added = [] ∧ t.entries = p.entries ∧ t.game.id = some id ∧ P t.game ∧
        t.texts = p.entries.map fun e => e.shownText engine.lookup w'.copies t.game.language := by
  refine .read (.texts _ _ _) fun texts htexts => .pure ⟨rfl, rfl, h.number, h.holds, ?_⟩
  exact (Except.ok.inj (Prod.mk.inj htexts).1).symm

end Plays

end TextAdventure
