import TextAdventure.Proofs.Authoring.Aside
import TextAdventure.Proofs.Authoring.Removal
import TextAdventure.Proofs.Engine.Operations

/-! What actions do to games and their logs. Each either leaves both alone, or plays one game on,
starts one, ends one or drops some; nothing else happens to them. -/

namespace TextAdventure

open Op

/-- A language as it is made, the code of which does not spell a character as two surrogates. -/
def Language.Proper (l : Language) : Prop :=
  (∃ name code, Language.create name code = .ok l) ∧ l.code.paired = l.code

theorem Language.Proper.lasting {l : Language} (h : l.Proper) : l.code.Lasting := by
  obtain ⟨⟨name, code, hcreate⟩, hpaired⟩ := h
  obtain ⟨name, -, hcreate⟩ := ok_of_bind hcreate
  obtain ⟨code, hcode, hcreate⟩ := ok_of_bind hcreate
  obtain rfl := Except.ok.inj hcreate
  unfold Text.Lasting
  rw [hpaired]
  exact Field.code_again hcode "language"

namespace Games

variable {s : Games} {g g' : Game}

theorem reads_lasting (s : Games) (h : g.language.Lasting) :
    ∃ g', s.reads g = .ok g' ∧ g'.language = g.language := by
  cases s with
  | memory t => exact ⟨g, rfl, rfl⟩
  | files f =>
    have hlanguage : Field.code "language" (.text g.language.paired) = .ok g.language := h
    refine ⟨{ g with state := Json.rereadFields [] g.state }, ?_, rfl⟩
    show g.reread = _
    rw [Game.reread, hlanguage]
    rfl

end Games

/-- The entries that an action tells to have shown. -/
def Answer.shown : Answer → List Content
  | .transcript t => t.entries
  | .scriptRun run => run.entries
  | _ => []

/-- The texts of those entries. -/
def Answer.shownTexts : Answer → List Text
  | .transcript t => t.texts
  | .scriptRun run => run.texts
  | _ => []

/-- The game that an action plays: the one that is asked for, or the one that is started. -/
def Engine.subject (engine : Engine) (w : World) : Action → Option Int
  | .startGame adventure language =>
    match ((engine.startGame adventure language).run w).1 with
    | .ok t => t.game.id
    | .error _ => none
  | .takeRoute game _ | .executeScript game _ | .endGame game | .recoverGame game =>
    ((World.gameNumber game).run w).1.toOption
  | _ => none

/-- What playing goes through: games are changed by operations, and logs by playing alone. -/
def Action.Inside : Action → Prop
  | .append .. | .clearLog .. | .addGame .. => False
  | .addLanguage _ l => l.Proper
  | _ => True

/-- Games and logs as operations keep them: every game can be read and goes by its own number, which
is not given again, and only stored games have logs. -/
structure Kept (w : World) : Prop where
  own : ∀ n g, w.games.get? n = .ok (some g) → g.id = some n ∧ g.language.Lasting
  readable : ∀ n, w.games.Has n → ∃ g, w.games.get? n = .ok (some g)
  fresh : ∀ n, w.games.Has n → n < w.games.ids.next
  logged : ∀ n, w.journal.entries n ≠ [] → w.games.Has n
  numbered : w.journal.Numbered
  languages : ∀ l ∈ w.languages.entries, l.2.code.Lasting

/-- The actions that play a game. -/
def Action.Plays : Action → Prop
  | .startGame .. | .takeRoute .. | .executeScript .. | .endGame .. | .recoverGame .. => True
  | _ => False

/-- What is told of an operation on a game that speaks `language`: the entries are those that were
added to its log, and the texts are theirs. -/
structure Tells (engine : Engine) (language : Text) (copies : Copies) (r : Answer)
    (added : List Content) : Prop where
  entries : r.shown = added
  texts : r.shownTexts = added.map fun e => e.shownText engine.lookup copies language

/-- If a game goes by the number `id`, it speaks the language of the one that is stored there. -/
def Games.Likens (s : Games) (id : Int) (g : Game) : Prop :=
  g.id = some id → ∃ stored, s.get? id = .ok (some stored) ∧ g.language = stored.language

/-- What an action does to games and logs. -/
inductive Effect (engine : Engine) (w : World) (a : Action) : Except Error Answer → World → Prop
  /-- Both stay as they are, though a number may have been used up. -/
  | still {answer : Except Error Answer} {w' : World} {ids : IdSequence}
      (games : w'.games = w.games.withIds ids) (le : w.games.ids.next ≤ ids.next)
      (journal : w'.journal = w.journal) (languages : ∀ l ∈ w'.languages.entries, l.2.code.Lasting)
      (silent : ∀ r, answer = .ok r → ¬a.Plays) (subject : engine.subject w a = none) :
      Effect engine w a answer w'
  /-- A game is played on. -/
  | played {id : Int} {added : List Content} {answer : Except Error Answer} {w' : World}
      (asked : ∀ adventure language, a ≠ .startGame adventure language)
      (subject : engine.subject w a = some id)
      (advances : Advances id (w.games.Likens id) added w w')
      (told : ∀ r, answer = .ok r → (∀ game, a ≠ .endGame game) ∧
        ∃ g, w.games.get? id = .ok (some g) ∧ Tells engine g.language w.copies r added) :
      Effect engine w a answer w'
  /-- A game is added under the next number, and played on. -/
  | started {g : Game} {games : Games} {clock : Clock} {added : List Content}
      {answer : Except Error Answer} {w' : World} (number : g.id = some w.games.ids.next)
      (lasting : g.language.Lasting) (puts : w.games.Puts w.games.ids.next g games)
      (ids : games.ids.next = w.games.ids.next + 1)
      (advances : Advances w.games.ids.next (fun h => h.language = g.language) added
        { w with clock, games } w')
      (subject : ∀ n, engine.subject w a = some n → n = w.games.ids.next)
      (told : ∀ r, answer = .ok r → (∀ game, a ≠ .endGame game) ∧
        engine.subject w a = some w.games.ids.next ∧ Tells engine g.language w.copies r added) :
      Effect engine w a answer w'
  /-- A game is played on and dropped. -/
  | ended {id : Int} {added : List Content} {r : Answer} {w' : World} (game : Identifier)
      (asked : a = .endGame game) (subject : engine.subject w a = some id)
      (advances : Advances id (w.games.Likens id) added w w')
      (told : ∃ g, w.games.get? id = .ok (some g) ∧ Tells engine g.language w.copies r added) :
      Effect engine w a (.ok r) (Authoring.dropGame w' id)
  /-- Games are dropped. -/
  | dropped {ids : List Int} {answer : Except Error Answer} {w' : World} (silent : ¬a.Plays)
      (subject : engine.subject w a = none) (drops : Authoring.Dropped ids w w') :
      Effect engine w a answer w'

/-- An action has one of the effects, whatever it answers. -/
def Engine.Affects (engine : Engine) (w : World) (a : Action) : Prop :=
  Effect engine w a (engine.answer w a) (engine.after w a)

variable {engine : Engine} {w w' : World} {a : Action}

theorem Engine.affects_of {α : Type} {op : Op α} {tell : α → Answer}
    (perform : a.perform engine = tell <$> op)
    (h : Effect engine w a ((op.run w).1.map tell) (op.run w).2) : engine.Affects w a := by
  rw [Affects, answer_of_perform perform, after_of_perform perform]
  exact h

theorem Games.withIds_self (s : Games) : s.withIds s.ids = s := by cases s <;> rfl

/-- An action that plays no game has none. -/
theorem Engine.subject_none (silent : ¬a.Plays) : engine.subject w a = none := by
  cases a <;> first | rfl | exact absurd trivial silent

namespace Effect

/-- An action that leaves games, logs and languages alone. -/
theorem unchanged {answer : Except Error Answer} (kept : Kept w) (games : w'.games = w.games)
    (journal : w'.journal = w.journal) (languages : w'.languages = w.languages)
    (silent : ∀ r, answer = .ok r → ¬a.Plays) (subject : engine.subject w a = none) :
    Effect engine w a answer w' := by
  have hgames : w'.games = w.games.withIds w.games.ids := by rw [games, Games.withIds_self]
  refine .still hgames (Int.le_refl _) journal ?_ silent subject
  rw [languages]
  exact kept.languages

theorem readOnly (kept : Kept w) (h : ReadOnly (a.perform engine)) (silent : ¬a.Plays) :
    engine.Affects w a := by
  have hafter : engine.after w a = w := h w
  rw [Engine.Affects, hafter]
  exact unchanged kept rfl rfl rfl (fun _ _ => silent) (Engine.subject_none silent)

theorem aside (kept : Kept w) (h : a.IsAside) (silent : ¬a.Plays) : engine.Affects w a := by
  have aside : Aside w (engine.after w a) := a.aside h w
  exact unchanged kept aside.games aside.journal aside.languages (fun _ _ => silent)
    (Engine.subject_none silent)

end Effect

theorem Kept.hold (kept : Kept w) (id : Int) : w.games.Hold (w.games.Likens id) := by
  intro n g found
  obtain ⟨number, -⟩ := kept.own n g found
  refine ⟨number, fun hid => ?_⟩
  obtain rfl : n = id := Option.some.inj (number.symm.trans hid)
  exact ⟨g, found, rfl⟩

theorem Games.ofBearings_likens (s : Games) (id : Int) : OfBearings (s.Likens id) := by
  intro g g' same h hid
  rw [same.language]
  exact h (same.id.symm.trans hid)

theorem World.ways_likens (w : World) (id : Int) : Ways (w.games.Likens id) w := by
  intro n route destination g g' _ _ _ h hid _ hlanguage _ hnumber
  rw [hlanguage]
  exact h (hid.symm.trans hnumber)

/-- What a transcript of a stored game tells, in the language of the game. -/
theorem Told.tells {id : Int} {t : Transcript} {added : List Content} {copies : Copies}
    (told : Told engine id (w.games.Likens id) copies t added) :
    ∃ g, w.games.get? id = .ok (some g) ∧ Tells engine g.language copies (.transcript t) added := by
  obtain ⟨g, hg, hlanguage⟩ := told.holds told.number
  exact ⟨g, hg, told.entries, by rw [← hlanguage]; exact told.texts⟩

theorem Shows.tells {id : Int} {run : ScriptRun} {added : List Content} {copies : Copies}
    (shows : Shows engine id (w.games.Likens id) copies run.entries run.texts added) :
    ∃ g, w.games.get? id = .ok (some g) ∧ Tells engine g.language copies (.scriptRun run) added := by
  obtain ⟨h, hid, likens, htexts⟩ := shows.texts
  obtain ⟨g, hg, hlanguage⟩ := likens hid
  exact ⟨g, hg, shows.entries, by rw [← hlanguage]; exact htexts⟩

namespace Effect

/-- An operation on a game that is asked for, whether there is such a number or not. -/
theorem of_number (kept : Kept w) {α : Type} {game : Identifier} {f : Int → Op α}
    {tell : α → Answer}
    (perform : a.perform engine = tell <$> (World.gameNumber game >>= f))
    (subject : engine.subject w a = ((World.gameNumber game).run w).1.toOption)
    (old : ∀ adventure language, a ≠ .startGame adventure language)
    (other : ∀ game, a ≠ .endGame game)
    (plays : ∀ id, (∀ n, ((World.gameNumber game).run w).1 = .ok n → n = id) →
      Plays id (w.games.Likens id) w (World.gameNumber game >>= f) fun r added _ =>
        ∃ g, w.games.get? id = .ok (some g) ∧ Tells engine g.language w.copies (tell r) added) :
    engine.Affects w a := by
  refine Engine.affects_of perform ?_
  have hsame := ReadOnly.gameNumber game w
  rcases hnumber : (World.gameNumber game).run w with ⟨e | id, v⟩ <;> rw [hnumber] at hsame subject
  · obtain rfl : v = w := hsame
    rw [run_bind_error hnumber]
    exact unchanged kept rfl rfl rfl (fun r hr => nomatch hr) subject
  · obtain ⟨added, advances, told⟩ := plays id fun n hn => by
      rw [hnumber] at hn
      exact (Except.ok.inj hn).symm
    refine .played old subject advances fun r hr => ⟨other, ?_⟩
    obtain ⟨result, hresult, rfl⟩ := map_ok hr
    exact told result hresult

end Effect

namespace Engine

variable (quiet : engine.Quiet) (kept : Kept w)
include quiet kept

theorem affects_takeRoute (game route : Identifier) :
    engine.Affects w (.takeRoute game route) := by
  refine .of_number kept rfl rfl nofun nofun fun id hid => ?_
  exact (Plays.takeRoute quiet (Games.ofBearings_likens _ id) (kept.hold id) hid
    (World.ways_likens w id) route).mono fun t added _ _ told => told.tells

theorem affects_executeScript (game script : Identifier) :
    engine.Affects w (.executeScript game script) := by
  refine .of_number kept rfl rfl nofun nofun fun id hid => ?_
  exact (Plays.executeScript quiet (Games.ofBearings_likens _ id) (kept.hold id) hid
    script).mono fun run added _ _ shows => shows.tells

omit quiet in
theorem affects_recoverGame (game : Identifier) : engine.Affects w (.recoverGame game) := by
  refine .of_number kept rfl rfl nofun nofun fun id hid => ?_
  refine (Plays.recoverGame (Games.ofBearings_likens _ id) (kept.hold id) hid).mono
    fun g added _ _ hg => ?_
  obtain ⟨rfl, number, likens⟩ := hg
  obtain ⟨stored, found, -⟩ := likens number
  exact ⟨stored, found, rfl, rfl⟩

theorem affects_endGame (game : Identifier) : engine.Affects w (.endGame game) := by
  refine affects_of rfl ?_
  rcases (ReadOnly.gameNumber game).run_cases w with ⟨e, hnumber⟩ | ⟨id, hnumber⟩
  · have hrun : (engine.endGame game).run w = (.error e, w) := by
      rw [endGame_eq, run_bind_error hnumber]
    rw [hrun]
    refine .unchanged kept rfl rfl rfl (fun r hr => nomatch hr) ?_
    simp [subject, hnumber, Except.toOption]
  · have hsubject : engine.subject w (.endGame game) = some id := by
      simp [subject, hnumber, Except.toOption]
    have ends : Ended engine id (w.games.Likens id) w ((engine.endGame game).run w) := by
      refine ended quiet (Games.ofBearings_likens _ id) (kept.hold id) fun n hn => ?_
      rw [hnumber] at hn
      exact (Except.ok.inj hn).symm
    generalize (engine.endGame game).run w = outcome at ends
    cases ends with
    | failed e advances => exact .played nofun hsubject advances fun r hr => nomatch hr
    | gone t advances told has => exact .ended game rfl hsubject advances told.tells

omit quiet kept in
/-- The language of a new game is a registered one. -/
theorem gameLanguage_registered {language : Json} {code : Text}
    (h : ((engine.gameLanguage language).run w).1 = .ok code) :
    ∃ l ∈ w.languages.entries, l.2.code = code := by
  rw [gameLanguage_eq] at h
  rcases (ReadOnly.askedCode engine language).run_bind_cases registeredCode w with
    ⟨e, hrun⟩ | ⟨asked, -, hrun⟩ <;> rw [hrun] at h
  · cases h
  unfold registeredCode at h
  rw [run_bind_ok (run_get w)] at h
  cases hfound : w.languages.byCode? asked with
  | none =>
    rw [hfound] at h
    cases h
  | some l =>
    rw [hfound] at h
    exact ⟨l, List.mem_of_find?_eq_some hfound, Except.ok.inj h⟩

/-- The game speaks the language that is asked for. -/
def Answers (engine : Engine) (language : Json) (w : World) (g : Game) : Prop :=
  ((engine.gameLanguage language).run w).1 = .ok g.language

omit quiet kept in
theorem ofBearings_answers (language : Json) : OfBearings (engine.Answers language w) := by
  intro g g' same h
  rw [Answers, same.language]
  exact h

omit quiet kept in
theorem starts_answers (language : Json) :
    Starts engine language (engine.Answers language w) w := by
  intro _ _ _ _ code g _ _ _ hcode _ _ hlanguage
  rw [Answers, hlanguage]
  exact hcode

theorem affects_startGame (adventure : Identifier) (language : Json) :
    engine.Affects w (.startGame adventure language) := by
  refine affects_of rfl ?_
  have hsubject : engine.subject w (.startGame adventure language) =
      match ((engine.startGame adventure language).run w).1 with
      | .ok t => t.game.id
      | .error _ => none := rfl
  have starts : Started engine (engine.Answers language w) w
      ((engine.startGame adventure language).run w) :=
    started quiet (ofBearings_answers language) adventure language (starts_answers language)
  generalize (engine.startGame adventure language).run w = outcome at starts hsubject
  cases starts with
  | refused e clock le =>
    exact .still rfl le rfl kept.languages (fun r hr => nomatch hr) hsubject
  | @added g games clock added outcome w' number holds puts ids advances told =>
    have same (h : Game) (hh : engine.Answers language w h) :
        h.language = g.language := Except.ok.inj (hh.symm.trans holds)
    obtain ⟨l, hl, hcode⟩ := gameLanguage_registered holds
    refine .started number ?_ puts ids (advances.weaken same) (fun n hn => ?_) fun r hr => ?_
    · rw [← hcode]
      exact kept.languages l hl
    · cases outcome with
      | error e => exact nomatch hsubject.symm.trans hn
      | ok t =>
        have htold := (told t rfl).number
        exact Option.some.inj (hn.symm.trans (hsubject.trans htold))
    · obtain ⟨t, rfl, rfl⟩ := map_ok hr
      have htold := told t rfl
      refine ⟨nofun, hsubject.trans htold.number, htold.entries, ?_⟩
      rw [← same t.game htold.holds]
      exact htold.texts

omit quiet in
theorem affects_removal {α : Type} {kind : Kind} {found : Op α} {asked : Identifier} {force : Bool}
    {belongs : Int → Game → Bool} {cut : Int → List Int → World → World}
    (perform : a.perform engine =
      (fun _ => .done) <$> Authoring.removal kind found asked force belongs cut)
    (readOnly : ReadOnly found) (silent : ¬a.Plays)
    (drops : ∀ id ids, Authoring.Dropped ids w (cut id ids w)) : engine.Affects w a := by
  refine affects_of perform ?_
  rcases Authoring.run_removal readOnly asked force belongs cut w with
    ⟨e, hrun⟩ | ⟨id, games, -, -, -, -, hrun⟩ <;> rw [hrun]
  · exact .unchanged kept rfl rfl rfl (fun _ _ => silent) (subject_none silent)
  · exact .dropped silent (subject_none silent) (drops id _)

omit quiet in
theorem affects_addLanguage (claim : Claim) {l : Language} (proper : l.Proper) :
    engine.Affects w (.addLanguage claim l) := by
  refine affects_of rfl ?_
  have hadd : (Op.addLanguage claim l).run w =
      match w.languages.add claim l with
      | .ok (id, languages) => (.ok id, { w with languages })
      | .error e => (.error e, w) := by
    unfold Op.addLanguage
    rw [run_bind_ok (run_get w), run_bind, run_ofExcept]
    cases w.languages.add claim l <;> rfl
  rw [hadd]
  cases hlanguages : w.languages.add claim l with
  | error e => exact .unchanged kept rfl rfl rfl (fun _ _ => nofun) rfl
  | ok added =>
    obtain ⟨id, languages⟩ := added
    have hgames : w.games = w.games.withIds w.games.ids := (Games.withIds_self _).symm
    refine .still hgames (Int.le_refl _) rfl (fun k hk => ?_) (fun _ _ => nofun) rfl
    unfold Languages.add at hlanguages
    split at hlanguages
    · exact nomatch hlanguages
    · split at hlanguages
      · exact nomatch hlanguages
      · obtain ⟨-, rfl⟩ := Prod.mk.inj (Except.ok.inj hlanguages)
        rcases List.mem_append.1 hk with hk | hk
        · exact kept.languages k hk
        · obtain rfl := List.mem_singleton.1 hk
          exact proper.lasting

/-- Every action that goes on inside has one of the effects. -/
theorem effect (a : Action) (inside : a.Inside) : engine.Affects w a := by
  cases a with
  | startGame adventure language => exact affects_startGame quiet kept adventure language
  | takeRoute game route => exact affects_takeRoute quiet kept game route
  | executeScript game script => exact affects_executeScript quiet kept game script
  | endGame game => exact affects_endGame quiet kept game
  | recoverGame game => exact affects_recoverGame kept game
  | getGame _ | availableRoutes _ | contents _ _ _ | textAt _ _ | transcript _ =>
    exact .readOnly kept (Action.Looks.readOnly trivial) nofun
  | removeLocation location force =>
    exact affects_removal kept rfl (.location location) nofun fun id ids =>
      Authoring.dropped_withoutLocation id ids w
  | removeAdventure adventure force =>
    exact affects_removal kept rfl (.adventure adventure) nofun fun id ids =>
      Authoring.dropped_withoutAdventure id ids w
  | addLanguage claim l => exact affects_addLanguage kept claim inside
  | append game copyKey text => exact inside.elim
  | clearLog game => exact inside.elim
  | addGame claim g => exact inside.elim
  | _ => exact .aside kept trivial nofun

end Engine

end TextAdventure
