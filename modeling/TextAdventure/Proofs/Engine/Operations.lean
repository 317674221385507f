import TextAdventure.Proofs.Engine.Course

/-! Whole operations on a game. Taking a route, running a script and recovering play the game on;
ending it does so before it drops the game, and starting it after it has added one. -/

namespace TextAdventure

open Op

variable {engine : Engine} {id : Int} {P : Game → Prop} {w : World} {game : Identifier}

/-- Every stored game goes by its own number, and `P` holds of it. -/
def Games.Hold (P : Game → Prop) (s : Games) : Prop :=
  ∀ n g, s.get? n = .ok (some g) → g.id = some n ∧ P g

/-- Routes lead from where `P` holds to where `P` holds. -/
def Ways (P : Game → Prop) (w : World) : Prop :=
  ∀ n route destination (g g' : Game), w.routes.get? n = some route → route.origin = g.location →
    w.locations.get? route.destination = some destination → P g → g'.id = g.id →
    g'.adventure = g.adventure → g'.language = g.language →
    g'.location = destination.idAt route.destination → P g'

/-- The game of a transcript, and what the transcript tells of its log. -/
structure Told (engine : Engine) (id : Int) (P : Game → Prop) (copies : Copies) (t : Transcript)
    (added : List Content) : Prop where
  number : t.game.id = some id
  holds : P t.game
  entries : t.entries = added
  texts : t.texts = added.map fun e => e.shownText engine.lookup copies t.game.language

theorem Table.current_held {α : Type} {t : Table α} {n : Int} {h : Held α}
    (held : t.held? n = some h) : t.current h = h.value ∧ t.get? n = some h.value := by
  obtain ⟨value, hget, rfl⟩ := Option.map_eq_some_iff.1 held
  refine ⟨?_, hget⟩
  simp [Table.current, Table.hold, Table.keeps, hget]

theorem Table.current_hold {α : Type} {t : Table α} {n : Int} {v : α} (found : t.get? n = some v) :
    t.current (t.hold n v) = v := by
  have held : t.held? n = some (t.hold n v) := by
    rw [Table.held?, found]
    rfl
  exact (Table.current_held held).1

namespace World

theorem run_location {n : Int} {h : Held Location} {w' : World}
    (hrun : (World.location n).run w = (.ok h, w')) :
    w.locations.current h = h.value ∧ w.locations.get? n = some h.value := by
  obtain ⟨m, hm, found⟩ := run_found (f := fun v n => v.locations.held? n) hrun
  obtain rfl : n = m := Except.ok.inj (Prod.mk.inj hm).1
  exact Table.current_held found

end World

namespace Plays

variable {α : Type} {Q : α → List Content → World → Prop}

/-- An operation that asks for a game by an identifier plays the game of that number. -/
theorem numbered {f : Int → Op α} (hid : ∀ n, ((World.gameNumber game).run w).1 = .ok n → n = id)
    (hf : ((World.gameNumber game).run w).1 = .ok id → Plays id P w (f id) Q) :
    Plays id P w (World.gameNumber game >>= f) Q := by
  refine .read (.gameNumber _) fun n hn => ?_
  obtain rfl := hid n (congrArg Prod.fst hn)
  exact hf (congrArg Prod.fst hn)

theorem heldGame {f : Held Game → Op α} {locks : Locks} (hold : w.games.Hold P)
    (hid : ((World.gameNumber game).run w).1 = .ok id)
    (hf : ∀ held, Playable id P w held → Plays id P { w with locks } (f held) Q) :
    Plays id P { w with locks } (World.heldGame game >>= f) Q := by
  refine .read (.heldGame _) fun held hheld => ?_
  obtain ⟨-, n, hn, place, found⟩ := World.run_heldGame hheld
  rw [World.gameNumber_locked, hid] at hn
  obtain rfl : id = n := Except.ok.inj hn
  obtain ⟨number, holds⟩ := hold id held.value found
  exact hf held ⟨number, place, holds, Games.has_of_get? found⟩

theorem told {p : Progress} {x : Op Progress} (empty : p.entries = [])
    (hx : Plays id P w x (Onward id P p)) :
    Plays id P w (x >>= engine.transcribe) fun t added _ => Told engine id P w.copies t added := by
  refine .bind hx fun p' added w' advances hp' => ?_
  obtain ⟨entries, playable⟩ := hp'
  refine (transcribe playable).mono fun t more w'' advances' ht => ?_
  obtain ⟨rfl, hentries, number, holds, texts⟩ := ht
  have hcopies : w''.copies = w.copies :=
    (congrArg World.copies (advances'.story.trans advances.story) :)
  have hadded : p'.entries = added := by rw [entries, empty, List.nil_append]
  rw [List.append_nil]
  exact ⟨number, holds, hentries.trans hadded, by rw [texts, hcopies, hadded]⟩

theorem depart (quiet : engine.Quiet) (lasts : OfBearings P) (ways : Ways P w) {held : Held Game}
    (h : Playable id P w held) (route : Identifier) :
    Plays id P w (engine.depart id route held) fun t added _ =>
      Told engine id P w.copies t added := by
  unfold Engine.depart
  split
  · exact .throw _
  refine .read (.route _) fun way hway => ?_
  split
  · exact .read (.number _ _) fun _ _ => .throw _
  rename_i horigin
  refine .read (.location _) fun origin _ => .read (.location _) fun destination hdestination => ?_
  obtain ⟨n, -, hway⟩ := World.run_found (f := fun v n => v.routes.get? n) hway
  obtain ⟨hcurrent, hfound⟩ := World.run_location hdestination
  have here : way.origin = held.value.location := Decidable.not_not.1 horigin
  refine .told rfl (travel (L := fun g => P g ∧ g.location = way.origin) quiet (lasts.at _) lasts
    (fun _ hg => hg.1) (fun g g' hg hid hadventure hlanguage hlocation => ?_)
    ⟨h.number, h.place, ⟨h.holds, here.symm⟩, h.stored⟩)
  rw [hcurrent] at hlocation
  exact ways n way _ g g' hway hg.2.symm hfound hg.1 hid hadventure hlanguage hlocation

/-! ### Operations on a stored game -/

variable (quiet : engine.Quiet) (lasts : OfBearings P) (hold : w.games.Hold P)
  (hid : ∀ n, ((World.gameNumber game).run w).1 = .ok n → n = id)
include quiet lasts hold hid

theorem takeRoute (ways : Ways P w) (route : Identifier) :
    Plays id P w (engine.takeRoute game route) fun t added _ => Told engine id P w.copies t added :=
  .numbered hid fun hnumber => .holding _ _ fun locks => .heldGame hold hnumber fun _ playable =>
    depart (w := { w with locks }) quiet lasts ways
      ⟨playable.number, playable.place, playable.holds, playable.stored⟩ route

theorem executeScript (script : Identifier) :
    Plays id P w (engine.executeScript game script) fun run added _ =>
      Shows engine id P w.copies run.entries run.texts added := by
  refine .numbered hid fun hnumber => .holding _ _ fun locks =>
    .heldGame hold hnumber fun held playable => ?_
  have next : Playable id P { w with locks } held :=
    ⟨playable.number, playable.place, playable.holds, playable.stored⟩
  refine .bind (executeStored quiet lasts next script) fun r added w' advances hr => .pure ?_
  rw [List.append_nil]
  exact hr.1

omit quiet in
theorem recoverGame :
    Plays id P w (engine.recoverGame game) fun g added _ => added = [] ∧ g.id = some id ∧ P g := by
  refine .numbered hid fun hnumber => .holding _ _ fun locks =>
    .heldGame hold hnumber fun held playable => ?_
  split
  · have next : Playable id P { w with locks }
        { held with value := { held.value with needsRecovery := false } } :=
      ⟨playable.number, playable.place, lasts held.value _ ⟨rfl, rfl, rfl, rfl⟩ playable.holds,
        playable.stored⟩
    refine .bind (updateGame next) fun held' added w' _ hheld => ?_
    obtain ⟨rfl, -, playable'⟩ := hheld
    exact .pure ⟨rfl, playable'.number, playable'.holds⟩
  · exact .pure ⟨rfl, playable.number, playable.holds⟩

end Plays

/-! ### Ending and starting -/

namespace Engine

/-- What an ending game still shows. -/
def farewell (engine : Engine) (game : Identifier) : Op Transcript := do
  let held ← World.heldGame game
  let p ← engine.runHook (← finalHook held.value) { held }
  engine.transcribe p

/-- Removes a game and its log after what it still shows. -/
def depose (engine : Engine) (game : Identifier) (id : Int) : Op Transcript := do
  let transcript ← engine.farewell game
  modify fun w => Authoring.dropGame w id
  return transcript

theorem endGame_eq (engine : Engine) (game : Identifier) :
    engine.endGame game =
      World.gameNumber game >>= fun n => engine.holding n (engine.depose game n) := by
  unfold endGame depose farewell
  simp only [bind_assoc]
  rfl

/-- What comes of ending game `id`: it fails, and the game has been played on, or the game is gone
after it has been played on. -/
inductive Ended (engine : Engine) (id : Int) (P : Game → Prop) (w : World) :
    Except Error Transcript × World → Prop
  | failed {added : List Content} {w' : World} (e : Error) (advances : Advances id P added w w') :
      Ended engine id P w (.error e, w')
  | gone {added : List Content} {w' : World} (t : Transcript) (advances : Advances id P added w w')
      (told : Told engine id P w.copies t added) (has : w.games.Has id) :
      Ended engine id P w (.ok t, Authoring.dropGame w' id)

theorem ended (quiet : engine.Quiet) (lasts : OfBearings P) (hold : w.games.Hold P)
    (hid : ∀ n, ((World.gameNumber game).run w).1 = .ok n → n = id) :
    Ended engine id P w ((engine.endGame game).run w) := by
  have hsame := ReadOnly.gameNumber game w
  rw [endGame_eq, run_bind]
  rcases hnumber : (World.gameNumber game).run w with ⟨e | n, v⟩ <;> rw [hnumber] at hsame
  · obtain rfl : v = w := hsame
    exact .failed e (.refl id P v)
  obtain rfl : v = w := hsame
  obtain rfl := hid n (by rw [hnumber])
  dsimp only
  rcases World.run_holding engine.settings.busyTimeout n (engine.depose game n) v with
    ⟨e, hrun⟩ | ⟨locks, hrun⟩ <;> rw [holding, hrun]
  · exact .failed e (.refl n P v)
  unfold depose
  have plays : Plays n P { v with locks } (engine.farewell game) fun t added _ =>
      Told engine n P v.copies t added ∧ v.games.Has n := by
    refine .heldGame hold (by rw [hnumber]) fun held playable => ?_
    have next : Playable n P { v with locks } held :=
      ⟨playable.number, playable.place, playable.holds, playable.stored⟩
    refine .read (.finalHook _) fun hook _ => ?_
    refine (Plays.told rfl (Plays.runHook quiet lasts (p := { held }) next hook)).mono
      fun t added w' _ told => ⟨told, playable.stored⟩
  obtain ⟨added, advances, result⟩ := plays
  rcases hfarewell : (engine.farewell game).run { v with locks } with ⟨e | t, w'⟩ <;>
    rw [hfarewell] at advances result
  · rw [run_bind_error hfarewell]
    exact .failed e ⟨advances.games, advances.journal, advances.story, advances.stored⟩
  · rw [run_bind_ok hfarewell]
    obtain ⟨told, has⟩ := result t rfl
    have released : Advances n P added v { w' with locks := w'.locks.release n } :=
      ⟨advances.games, advances.journal, advances.story, advances.stored⟩
    exact .gone t released told has

/-- What comes of starting a game: none is added, though a number may have been used up, or one is
added under the next number and played on. -/
inductive Started (engine : Engine) (P : Game → Prop) (w : World) :
    Except Error Transcript × World → Prop
  | refused (e : Error) (clock : Clock) {ids : IdSequence} (le : w.games.ids.next ≤ ids.next) :
      Started engine P w (.error e, { w with clock, games := w.games.withIds ids })
  | added {g : Game} {games : Games} {clock : Clock} {added : List Content}
      {outcome : Except Error Transcript} {w' : World} (number : g.id = some w.games.ids.next)
      (holds : P g) (puts : w.games.Puts w.games.ids.next g games)
      (ids : games.ids.next = w.games.ids.next + 1)
      (advances : Advances w.games.ids.next P added { w with clock, games } w')
      (told : ∀ t, outcome = .ok t → Told engine w.games.ids.next P w.copies t added) :
      Started engine P w (outcome, w')

/-- `P` holds of games as they start: at an initial location of an adventure, in the language asked
for. -/
def Starts (engine : Engine) (language : Json) (P : Game → Prop) (w : World) : Prop :=
  ∀ n adventure m location code (g : Game), w.adventures.get? n = some adventure →
    (m, location) ∈ w.locations.rows → location.adventure = adventure.idAt n →
    ((engine.gameLanguage language).run w).1 = .ok code → g.adventure = adventure.idAt n →
    g.location = location.idAt m → g.language = code → P g

theorem initialLocation_eq {adventure m : Int} {h : Held Location} {w' : World}
    (hrun : (initialLocation adventure).run w = (.ok (m, h), w')) :
    ∃ n location, (n, location) ∈ w.locations.rows ∧ location.adventure = adventure ∧
      m = location.idAt n ∧ h = w.locations.hold n location := by
  unfold initialLocation at hrun
  rw [run_bind_ok (run_get w)] at hrun
  dsimp only at hrun
  split at hrun
  · exact nomatch (Prod.mk.inj hrun).1
  · rename_i n location hfound
    obtain ⟨hm, hh⟩ := Prod.mk.inj (Except.ok.inj (Prod.mk.inj hrun).1)
    have hmem : (n, location) ∈ w.locations.select fun l => l.adventure = adventure ∧ l.initial := by
      rw [hfound]
      exact List.mem_singleton.2 rfl
    obtain ⟨hrow, hselected⟩ := List.mem_filter.1 hmem
    exact ⟨n, location, hrow, (of_decide_eq_true hselected).1, hm.symm, hh.symm⟩
  · exact nomatch (Prod.mk.inj hrun).1

/-- Starting a game is refused, or a game is added at the initial location of the adventure, and it
opens while it is held. -/
theorem startGame_cases (engine : Engine) (adventure : Identifier) (language : Json) (w : World) :
    (∃ e, (engine.startGame adventure language).run w = (.error e, w)) ∨
      ∃ n held code m place, w.adventures.held? n = some held ∧
        ((engine.gameLanguage language).run w).1 = .ok code ∧ (m, place) ∈ w.locations.rows ∧
        place.adventure = held.value.idAt n ∧
        (engine.startGame adventure language).run w = (do
          let added ← addGame
            { adventure := held.value.idAt n, location := place.idAt m, language := code
              locationTimestamp := w.clock.tick.1, completed := place.final }
          engine.holding (added.value.id.getD 0) do
            engine.transcribe (← engine.opening held (w.locations.hold m place) { held := added })
          : Op Transcript).run { w with clock := w.clock.tick.2 } := by
  unfold startGame
  rcases (ReadOnly.adventure adventure).run_bind_cases _ w with ⟨e, hrun⟩ | ⟨held, hheld, hrun⟩ <;>
    rw [hrun]
  · exact .inl ⟨e, rfl⟩
  obtain ⟨n, hn, found⟩ := World.run_found (f := fun v n => v.adventures.held? n) hheld
  rcases (ReadOnly.gameLanguage engine language).run_bind_cases _ w with
    ⟨e, hrun⟩ | ⟨code, hcode, hrun⟩ <;> rw [hrun]
  · exact .inl ⟨e, rfl⟩
  rw [run_bind_ok hn]
  rcases (ReadOnly.initialLocation (held.value.idAt n)).run_bind_cases _ w with
    ⟨e, hrun⟩ | ⟨⟨m, location⟩, hlocation, hrun⟩ <;> rw [hrun]
  · exact .inl ⟨e, rfl⟩
  obtain ⟨k, place, hrow, hadventure, rfl, rfl⟩ := initialLocation_eq hlocation
  have ticked : World.tick.run w = (.ok w.clock.tick.1, { w with clock := w.clock.tick.2 }) := rfl
  dsimp only
  rw [run_bind_ok ticked]
  exact .inr ⟨n, held, code, k, place, found, by rw [hcode], hrow, hadventure, rfl⟩

theorem started (quiet : engine.Quiet) (lasts : OfBearings P) (adventure : Identifier)
    (language : Json) (starts : Starts engine language P w) :
    Started engine P w ((engine.startGame adventure language).run w) := by
  have still (e : Error) : Started engine P w (.error e, w) := by
    have hsame : w.games.withIds w.games.ids = w.games := by cases w.games <;> rfl
    have refused : Started engine P w (.error e, { w with games := w.games.withIds w.games.ids }) :=
      .refused e w.clock (Int.le_refl _)
    rwa [hsame] at refused
  rcases startGame_cases engine adventure language w with
    ⟨e, hrun⟩ | ⟨n, held, code, m, place, found, hcode, hrow, hadventure, hrun⟩ <;> rw [hrun]
  · exact still e
  rw [run_bind, addGame, run_of]
  dsimp only
  have hassign : w.games.ids.assign .unset = .ok (w.games.ids.next, ⟨w.games.ids.next + 1⟩) := rfl
  rcases Games.add_assigned hassign
    { adventure := held.value.idAt n, location := place.idAt m, language := code,
      locationTimestamp := w.clock.tick.1, completed := place.final } with
    ⟨h, games, hadd, hvalue, hplace, puts, hids⟩ | ⟨-, hadd⟩ <;> rw [hadd]
  · have hholds : P h.value := by
      rw [hvalue]
      exact starts n held.value m place code _ (Table.current_held found).2 hrow hadventure hcode
        rfl rfl rfl
    have hnumber : h.value.id = some w.games.ids.next := by rw [hvalue]
    have plays : Plays w.games.ids.next P { w with clock := w.clock.tick.2, games }
        (engine.holding (h.value.id.getD 0) do
          engine.transcribe (← engine.opening held (w.locations.hold m place) { held := h }))
        fun t added _ =>
        Told engine w.games.ids.next P w.copies t added := by
      refine .holding _ _ fun locks => .told rfl (.opening quiet lasts held _ ?_)
      exact ⟨hnumber, hplace, hholds, (puts.has _).2 (.inl rfl)⟩
    obtain ⟨added, advances, told⟩ := plays
    rw [← hvalue] at puts
    exact .added hnumber hholds puts (by rw [hids]) advances told
  · exact .refused _ _ (by show _ ≤ w.games.ids.next + 1; omega)

end Engine

end TextAdventure
