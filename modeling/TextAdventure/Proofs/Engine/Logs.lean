import TextAdventure.Proofs.Engine.Effect

/-! Logs keep what was shown. While a game is stored its log only grows at the end, and what operations
tell of it is exactly what they have added. -/

namespace TextAdventure

open Op

variable {engine : Engine} {w w' w'' : World} {a : Action} {answer : Except Error Answer} {id n : Int}

/-! ### What stays true -/

namespace Kept

/-- Playing a game on keeps games and logs, if the game is stored in languages that last. -/
theorem advance {P : Game → Prop} {added : List Content} (kept : Kept w)
    (h : Advances id P added w w')
    (lasting : ∀ g, g.id = some id → P g → g.language.Lasting) : Kept w' where
  own n g found := by
    rcases h.games.of_get? found with found | ⟨rfl, stored, hid, hp, reads⟩
    · exact kept.own n g found
    · obtain ⟨g', hread, hlanguage⟩ := Games.reads_lasting w.games (lasting stored hid hp)
      obtain rfl : g' = g := Except.ok.inj (hread.symm.trans reads)
      exact ⟨(Games.reads_ok hread).1.trans hid, hlanguage ▸ lasting stored hid hp⟩
  readable n has := by
    obtain ⟨g, found⟩ := kept.readable n ((h.games.has n).1 has)
    by_cases hn : n = id
    · subst hn
      rcases h.games.self with same | ⟨stored, hid, hp, hget⟩
      · exact ⟨g, same.trans found⟩
      · obtain ⟨g', hread, -⟩ := Games.reads_lasting w.games (lasting stored hid hp)
        exact ⟨g', by rw [hget, hread]; rfl⟩
    · exact ⟨g, (h.games.others n hn).trans found⟩
  fresh n has := by
    rw [h.games.ids]
    exact kept.fresh n ((h.games.has n).1 has)
  logged _ logged := h.logged kept.logged logged
  numbered := h.journal.numbered kept.numbered
  languages := by
    have hlanguages : w'.languages = w.languages := (congrArg World.languages h.story :)
    rw [hlanguages]
    exact kept.languages

/-- So does dropping games with their logs. -/
theorem drop {ids : List Int} (kept : Kept w) (h : Authoring.Dropped ids w w') : Kept w' where
  own n g found := kept.own n g (h.get?_eq_some.1 found).2
  readable n has := by
    obtain ⟨hn, has⟩ := (h.has n).1 has
    obtain ⟨g, found⟩ := kept.readable n has
    exact ⟨g, h.get?_eq_some.2 ⟨hn, found⟩⟩
  fresh n has := by
    rw [h.ids]
    exact kept.fresh n ((h.has n).1 has).2
  logged _ logged := h.logged kept.logged logged
  numbered := h.numbered kept.numbered
  languages := by
    rw [h.languages]
    exact kept.languages

/-- So does adding a game under the next number. -/
theorem add {g : Game} {games : Games} {clock : Clock} (kept : Kept w)
    (number : g.id = some w.games.ids.next) (lasting : g.language.Lasting)
    (puts : w.games.Puts w.games.ids.next g games) (ids : games.ids.next = w.games.ids.next + 1) :
    Kept { w with clock, games } := by
  obtain ⟨stored, hread, hlanguage⟩ := Games.reads_lasting w.games lasting
  refine { kept with
    own := fun n h found => ?_
    readable := fun n has => ?_
    fresh := fun n has => ?_
    logged := fun n logged => (puts.has n).2 (.inr (kept.logged n logged)) }
  · rcases puts.get?_eq_some.1 found with ⟨rfl, reads⟩ | ⟨-, found⟩
    · obtain rfl : stored = h := Except.ok.inj (hread.symm.trans reads)
      exact ⟨(Games.reads_ok hread).1.trans number, hlanguage ▸ lasting⟩
    · exact kept.own n h found
  · rw [puts.get?, hread]
    split
    · exact ⟨stored, rfl⟩
    · rename_i hn
      exact kept.readable n (((puts.has n).1 has).resolve_left hn)
  · show n < games.ids.next
    rw [ids]
    rcases (puts.has n).1 has with rfl | has
    · omega
    · have := kept.fresh n has
      omega

end Kept

theorem Kept.likens {g : Game} (kept : Kept w) (hid : g.id = some id) (h : w.games.Likens id g) :
    g.language.Lasting := by
  obtain ⟨stored, found, hlanguage⟩ := h hid
  rw [hlanguage]
  exact (kept.own id stored found).2

/-- Whatever an action does, games and logs are kept. -/
theorem Effect.kept (effect : Effect engine w a answer w') (kept : Kept w) : Kept w' := by
  cases effect with
  | still games le journal languages =>
    refine
      { own := fun n g found => ?_
        readable := fun n has => ?_
        fresh := fun n has => ?_
        logged := fun n logged => ?_
        numbered := journal ▸ kept.numbered
        languages }
    · rw [games, Games.get?_withIds] at found
      exact kept.own n g found
    · rw [games, Games.has_withIds] at has
      rw [games, Games.get?_withIds]
      exact kept.readable n has
    · rw [games, Games.has_withIds] at has
      rw [games, Games.ids_withIds]
      exact Int.lt_of_lt_of_le (kept.fresh n has) le
    · rw [journal] at logged
      rw [games, Games.has_withIds]
      exact kept.logged n logged
  | played old subject advances => exact kept.advance advances fun g hid h => kept.likens hid h
  | started number lasting puts ids advances =>
    refine (kept.add number lasting puts ids).advance advances fun h _ hlanguage => ?_
    rw [hlanguage]
    exact lasting
  | ended game asked subject advances =>
    exact (kept.advance advances fun g hid h => kept.likens hid h).drop
      (Authoring.dropped_dropGame _ _)
  | dropped silent subject drops => exact kept.drop drops

/-! ### What grows -/

theorem Journal.Extends.grows {added : List Content} {j j' : Journal}
    (h : Journal.Extends id added j j') (n : Int) : j.entries n <+: j'.entries n := by
  by_cases hn : n = id
  · subst hn
    rw [h.self]
    exact List.prefix_append _ _
  · simp only [h.others n hn, List.prefix_refl]

/-- A later world: numbers are not given again, and the logs of games that are stored have grown at
the end. -/
structure Later (w w' : World) : Prop where
  next : w.games.ids.next ≤ w'.games.ids.next
  has : ∀ n, w'.games.Has n → w.games.Has n ∨ w.games.ids.next ≤ n
  grows : ∀ n, w'.games.Has n → w.journal.entries n <+: w'.journal.entries n

namespace Later

theorem refl (w : World) : Later w w :=
  ⟨Int.le_refl _, fun _ => .inl, fun _ _ => List.prefix_refl _⟩

/-- A game that was dropped in between does not come back. -/
theorem trans (kept : Kept w) (h : Later w w') (h' : Later w' w'') : Later w w'' := by
  refine ⟨Int.le_trans h.next h'.next, fun n has => ?_, fun n has => ?_⟩
  · rcases h'.has n has with has | le
    · exact h.has n has
    · exact .inr (Int.le_trans h.next le)
  · rcases h'.has n has with between | le
    · exact (h.grows n between).trans (h'.grows n has)
    · have none : w.journal.entries n = [] := by
        by_contra logged
        have := kept.fresh n (kept.logged n logged)
        have := h.next
        omega
      rw [none]
      exact List.nil_prefix

theorem advance {P : Game → Prop} {added : List Content} (h : Advances id P added w w') :
    Later w w' :=
  ⟨Int.le_of_eq (congrArg _ h.games.ids.symm), fun n has => .inl ((h.games.has n).1 has),
    fun n _ => h.journal.grows n⟩

theorem drop {ids : List Int} (h : Authoring.Dropped ids w w') : Later w w' := by
  refine ⟨Int.le_of_eq (congrArg _ h.ids.symm), fun n has => .inl ((h.has n).1 has).2,
    fun n has => ?_⟩
  simp only [h.entries, if_neg ((h.has n).1 has).1, List.prefix_refl]

end Later

theorem Effect.later (effect : Effect engine w a answer w') (kept : Kept w) : Later w w' := by
  cases effect with
  | still games le journal languages =>
    refine ⟨?_, fun n has => .inl ?_, fun n has => ?_⟩
    · rwa [games, Games.ids_withIds]
    · rwa [games, Games.has_withIds] at has
    · simp only [journal, List.prefix_refl]
  | played old subject advances => exact .advance advances
  | @started g games clock added answer w' number lasting puts ids advances =>
    have new : Later w { w with clock, games } := by
      refine ⟨?_, fun n has => ?_, fun n has => List.prefix_refl _⟩
      · show w.games.ids.next ≤ games.ids.next
        omega
      · rcases (puts.has n).1 has with rfl | has
        · exact .inr (Int.le_refl _)
        · exact .inl has
    exact new.trans kept (.advance advances)
  | ended game asked subject advances =>
    exact (Later.advance advances).trans kept (.drop (Authoring.dropped_dropGame _ _))
  | dropped silent subject drops => exact .drop drops

/-! ### What is told -/

/-- What is told of an action: the log of every game goes on from where it was, unless the action ends
a game, and what a successful action on a game tells is what it has added to the log of that game. -/
structure Engine.Relates (engine : Engine) (w : World) (a : Action) : Prop where
  grows : a.Plays → ((∃ game, a = .endGame game) → ∃ e, engine.answer w a = .error e) →
    ∀ n, w.journal.entries n <+: (engine.after w a).journal.entries n
  tells : a.Plays → ∀ r, engine.answer w a = .ok r → ∃ id j, engine.subject w a = some id ∧
    Journal.Extends id r.shown w.journal j ∧
    ((∀ game, a ≠ .endGame game) → (engine.after w a).journal = j) ∧
    ∀ game, a = .endGame game → (engine.after w a).journal = j.clear id

theorem Effect.relates (effect : Effect engine w a (engine.answer w a) (engine.after w a)) :
    engine.Relates w a := by
  generalize hanswer : engine.answer w a = answer at effect
  generalize hafter : engine.after w a = w' at effect
  cases effect with
  | still games le journal languages silent subject =>
    refine ⟨fun _ _ n => ?_, fun plays r hr => ?_⟩
    · simp only [hafter, journal, List.prefix_refl]
    · exact absurd plays (silent r (hanswer ▸ hr))
  | @played id added _ _ old subject advances told =>
    refine ⟨fun _ _ n => ?_, fun plays r hr => ?_⟩
    · rw [hafter]
      exact advances.journal.grows n
    · obtain ⟨other, g, found, tells⟩ := told r (hanswer ▸ hr)
      refine ⟨id, _, subject, tells.entries ▸ advances.journal, fun _ => by rw [hafter],
        fun game asked => absurd asked (other game)⟩
  | started number lasting puts ids advances subject told =>
    refine ⟨fun _ _ n => ?_, fun plays r hr => ?_⟩
    · rw [hafter]
      exact advances.journal.grows n
    · obtain ⟨other, hsubject, tells⟩ := told r (hanswer ▸ hr)
      refine ⟨_, _, hsubject, tells.entries ▸ advances.journal, fun _ => by rw [hafter],
        fun game asked => absurd asked (other game)⟩
  | @ended id added r' w' game asked subject advances told =>
    refine ⟨fun _ fails => ?_, fun plays r hr => ?_⟩
    · obtain ⟨e, he⟩ := fails ⟨game, asked⟩
      rw [hanswer] at he
      exact nomatch he
    · obtain ⟨g, found, tells⟩ := told
      obtain rfl : r' = r := Except.ok.inj (hanswer.symm.trans hr)
      refine ⟨id, _, subject, tells.entries ▸ advances.journal, fun other => absurd asked (other game),
        fun _ _ => by rw [hafter]; rfl⟩
  | dropped silent subject drops =>
    exact ⟨fun plays => absurd plays silent, fun plays => absurd plays silent⟩

/-! ### Since a game was started -/

/-- A game is stored, and it speaks a language. -/
def World.Speaks (w : World) (id : Int) (language : Text) : Prop :=
  ∃ g, w.games.get? id = .ok (some g) ∧ g.language = language

/-- A game that is stored before and after an action speaks the same language. -/
theorem World.Speaks.advance {language : Text} {added : List Content} (kept : Kept w)
    (speaks : w.Speaks n language) (h : Advances id (w.games.Likens id) added w w') :
    w'.Speaks n language := by
  obtain ⟨g, found, hlanguage⟩ := speaks
  by_cases hn : n = id
  · subst hn
    rcases h.games.self with same | ⟨stored, hid, likens, hget⟩
    · exact ⟨g, same.trans found, hlanguage⟩
    · obtain ⟨old, hold, hsame⟩ := likens hid
      obtain ⟨new, hread, hnew⟩ := Games.reads_lasting w.games (kept.likens hid likens)
      rw [found] at hold
      obtain rfl : g = old := Option.some.inj (Except.ok.inj hold)
      exact ⟨new, by rw [hget, hread]; rfl, hnew.trans (hsame.trans hlanguage)⟩
  · exact ⟨g, (h.games.others n hn).trans found, hlanguage⟩

/-- What a successful action on a game tells is in its log from then on, and nothing else is. -/
structure GoesOn (engine : Engine) (id : Int) (language : Text) (w : World) (a : Action)
    (answer : Except Error Answer) (w' : World) : Prop where
  speaks : w'.Speaks id language
  other : engine.subject w a ≠ some id → w'.journal.entries id = w.journal.entries id
  told : engine.subject w a = some id → ∀ r, answer = .ok r →
    w'.journal.entries id = w.journal.entries id ++ r.shown ∧
      r.shownTexts = r.shown.map fun e => e.shownText engine.lookup w.copies language

theorem Effect.goesOn {language : Text} (effect : Effect engine w a answer w') (kept : Kept w)
    (speaks : w.Speaks n language) (stays : w'.games.Has n) :
    GoesOn engine n language w a answer w' := by
  obtain ⟨g, found, hlanguage⟩ := id speaks
  have has := Games.has_of_get? found
  cases effect with
  | still games le journal languages silent subject =>
    refine ⟨⟨g, ?_, hlanguage⟩, fun _ => by rw [journal], fun hn => ?_⟩
    · rw [games, Games.get?_withIds]
      exact found
    · rw [subject] at hn
      exact nomatch hn
  | @played id added _ _ old subject advances told =>
    refine ⟨speaks.advance kept advances, fun hn => ?_, fun hn r hr => ?_⟩
    · exact advances.journal.others n fun h => hn (h ▸ subject)
    · obtain rfl : id = n := Option.some.inj (subject.symm.trans hn)
      obtain ⟨-, h, hfound, tells⟩ := told r hr
      rw [found] at hfound
      obtain rfl : g = h := Option.some.inj (Except.ok.inj hfound)
      refine ⟨?_, ?_⟩
      · rw [tells.entries]
        exact advances.journal.self
      · rw [tells.entries, tells.texts, hlanguage]
  | started number lasting puts ids advances subject told =>
    have hn : n ≠ w.games.ids.next := Int.ne_of_lt (kept.fresh n has)
    refine ⟨⟨g, ?_, hlanguage⟩, fun _ => advances.journal.others n hn,
      fun hsubject => absurd (subject n hsubject) hn⟩
    rw [advances.games.others n hn]
    show Games.get? _ n = _
    rw [puts.get?, if_neg hn]
    exact found
  | @ended id added r w' game asked subject advances told =>
    have gone : n ≠ id := ((Games.has_remove w'.games id n).1 stays).1
    obtain ⟨h, hfound, hspeaks⟩ := speaks.advance kept advances
    refine ⟨⟨h, ?_, hspeaks⟩, fun _ => ?_, fun hn => ?_⟩
    · show (w'.games.remove id).get? n = _
      rw [Games.get?_remove, if_neg gone]
      exact hfound
    · exact (Journal.entries_clear_of_ne gone _).trans (advances.journal.others n gone)
    · exact absurd (Option.some.inj (hn.symm.trans subject)) gone
  | dropped silent subject drops =>
    have gone := ((drops.has n).1 stays).1
    refine ⟨⟨g, drops.get?_eq_some.2 ⟨gone, found⟩, hlanguage⟩, fun _ => ?_, fun hn => ?_⟩
    · rw [drops.entries, if_neg gone]
    · rw [subject] at hn
      exact nomatch hn

namespace Engine

/-- What actions on a game have told, one after another. -/
def told (engine : Engine) (id : Int) : World → List Action → List Answer
  | _, [] => []
  | w, a :: rest =>
    (if engine.subject w a = some id then (engine.answer w a).toOption.toList else []) ++
      told engine id (engine.after w a) rest

/-- A run in which only successful actions play a game, which stays stored. -/
structure Unharmed (engine : Engine) (id : Int) (w : World) (actions : List Action) : Prop where
  stays : ∀ v ∈ engine.worlds w actions, v.games.Has id
  succeeds : engine.Throughout (fun v a => engine.subject v a = some id →
    ∃ r, engine.answer v a = .ok r) w actions

variable (quiet : engine.Quiet)
include quiet

theorem left_kept {actions : List Action} (inside : ∀ a ∈ actions, a.Inside) (kept : Kept w) :
    Kept (engine.left w actions) := by
  induction actions generalizing w with
  | nil => exact kept
  | cons a rest ih =>
    have next := (effect quiet kept a (inside a List.mem_cons_self)).kept kept
    exact ih (fun b hb => inside b (List.mem_cons_of_mem _ hb)) next

/-- The log of a game goes on with what successful actions tell. -/
theorem left_goesOn {language : Text} {actions : List Action} (inside : ∀ a ∈ actions, a.Inside)
    (kept : Kept w) (speaks : w.Speaks n language) (unharmed : engine.Unharmed n w actions) :
    (engine.left w actions).Speaks n language ∧
      (engine.left w actions).journal.entries n =
        w.journal.entries n ++ (engine.told n w actions).flatMap Answer.shown ∧
      ((∀ v ∈ engine.worlds w actions, v.copies = w.copies) →
        (engine.told n w actions).flatMap Answer.shownTexts =
          ((engine.told n w actions).flatMap Answer.shown).map fun e =>
            e.shownText engine.lookup w.copies language) := by
  induction actions generalizing w with
  | nil => exact ⟨speaks, by simp [left, told], fun _ => rfl⟩
  | cons a rest ih =>
    obtain ⟨succeeds, later⟩ := unharmed.succeeds
    have effect := effect quiet kept a (inside a List.mem_cons_self)
    have mem (v : World) (hv : v ∈ engine.worlds (engine.after w a) rest) :
        v ∈ engine.worlds w (a :: rest) := List.mem_cons_of_mem _ hv
    have first : engine.after w a ∈ engine.worlds (engine.after w a) rest := by
      cases rest <;> exact List.mem_cons_self
    have next := effect.goesOn kept speaks (unharmed.stays _ (mem _ first))
    obtain ⟨hspeaks, hentries, htexts⟩ := ih (fun b hb => inside b (List.mem_cons_of_mem _ hb))
      (effect.kept kept) next.speaks ⟨fun v hv => unharmed.stays v (mem v hv), later⟩
    refine ⟨hspeaks, ?_, fun same => ?_⟩
    · have hleft : engine.left w (a :: rest) = engine.left (engine.after w a) rest := rfl
      rw [hleft, hentries, told]
      by_cases hsubject : engine.subject w a = some n
      · obtain ⟨r, hr⟩ := succeeds hsubject
        rw [(next.told hsubject r hr).1]
        simp [hsubject, hr, Except.toOption]
      · rw [next.other hsubject]
        simp [hsubject]
    · have hcopies : (engine.after w a).copies = w.copies := same _ (mem _ first)
      have rest := htexts fun v hv => (same v (mem v hv)).trans hcopies.symm
      rw [hcopies] at rest
      rw [told]
      by_cases hsubject : engine.subject w a = some n
      · obtain ⟨r, hr⟩ := succeeds hsubject
        have hshown := (next.told hsubject r hr).2
        simp [hsubject, hr, Except.toOption, hshown, rest]
      · simpa [hsubject] using rest

omit quiet in
/-- A game that has just been started has shown what the start has told. -/
theorem start_told {adventure : Identifier} {language : Json} {t : Transcript}
    (effect : Effect engine w (.startGame adventure language) (.ok (.transcript t)) w')
    (kept : Kept w) (number : engine.subject w (.startGame adventure language) = some n) :
    ∃ code, w'.Speaks n code ∧ w'.copies = w.copies ∧ w'.journal.entries n = t.entries ∧
      t.texts = t.entries.map fun e => e.shownText engine.lookup w.copies code := by
  generalize hasked : Action.startGame adventure language = a at effect number
  generalize hanswer : Except.ok (Answer.transcript t) = answer at effect
  cases effect with
  | still games le journal languages silent subject =>
    exact absurd (hasked ▸ trivial) (silent _ hanswer.symm)
  | played old => exact absurd hasked.symm (old adventure language)
  | @started g games clock added _ _ hid lasting puts ids advances subject told =>
    obtain ⟨-, -, tells⟩ := told _ hanswer.symm
    obtain rfl := subject n number
    obtain ⟨read, hread, hlanguage⟩ := Games.reads_lasting w.games lasting
    have hentries : t.entries = added := tells.entries
    have blank : w.journal.entries w.games.ids.next = [] := by
      by_contra logged
      exact absurd (kept.fresh _ (kept.logged _ logged)) (Int.lt_irrefl _)
    refine ⟨g.language, ?_, (congrArg World.copies advances.story :), ?_, ?_⟩
    · rcases advances.games.self with same | ⟨stored, -, hstored, hget⟩
      · refine ⟨read, ?_, hlanguage⟩
        rw [same]
        show games.get? _ = _
        rw [puts.get?, if_pos rfl, hread]
        rfl
      · obtain ⟨new, hnew, hsame⟩ := Games.reads_lasting games (hstored ▸ lasting)
        refine ⟨new, ?_, hsame.trans hstored⟩
        rw [hget]
        show (games.reads stored).map some = _
        rw [hnew]
        rfl
    · rw [advances.journal.self]
      show w.journal.entries w.games.ids.next ++ added = _
      rw [blank, List.nil_append, hentries]
    · rw [hentries]
      exact tells.texts
  | ended game asked => exact nomatch hasked.trans asked
  | dropped silent => exact absurd (hasked ▸ trivial) silent

omit quiet in
theorem run_startGame {adventure : Identifier} {language : Json} {t : Transcript}
    (h : engine.answer w (.startGame adventure language) = .ok (.transcript t)) :
    ((engine.startGame adventure language).run w).1 = .ok t := by
  have hanswer : engine.answer w (.startGame adventure language) =
      ((engine.startGame adventure language).run w).1.map .transcript :=
    congrArg Prod.fst (run_map _ _ w)
  obtain ⟨t', ht, htold⟩ := map_ok (hanswer.symm.trans h)
  rw [ht, Answer.transcript.inj htold]

omit quiet in
theorem run_contents {g : Game} (found : w.games.get? n = .ok (some g)) :
    (Engine.contents n).run w = (.ok (w.journal.entries n), w) := by
  obtain ⟨h, hheld, -⟩ := World.heldGame_of_get? found
  have hgame : (World.game n).run w = (.ok h.value, w) := run_bind_ok hheld
  unfold contents
  rw [run_bind_ok hgame, run_bind_ok (run_get w), run_bind_ok (World.run_gameNumber_number n w)]
  have all : (w.journal.entries n).filter (fun c => decide ((0 : Int) ≤ (c.position : Int))) =
      w.journal.entries n := by
    rw [List.filter_eq_self]
    exact fun c _ => decide_eq_true (Int.natCast_nonneg _)
  rw [run_ofExcept]
  show (Except.ok (List.filter _ _), w) = _
  rw [all]

omit quiet in
theorem run_transcript {g : Game} (found : w.games.get? n = .ok (some g)) :
    (engine.transcript n).run w = (.ok ((w.journal.entries n).map fun e =>
      e.shownText engine.lookup w.copies g.language), w) := by
  obtain ⟨h, hheld, hvalue⟩ := World.heldGame_of_get? found
  have hgame : (World.game n).run w = (.ok h.value, w) := run_bind_ok hheld
  unfold transcript
  rw [run_bind_ok hgame, run_bind_ok (World.run_gameNumber_number n w), run_bind_ok (run_get w),
    hvalue]
  rfl

end Engine

/-! ### Runs -/

/-- A world to start from: no games, no logs, and languages that were made properly. -/
structure World.Blank (w : World) : Prop where
  games : ∀ n, ¬w.games.Has n
  logs : w.journal.logs = []
  languages : ∀ l ∈ w.languages.entries, l.2.Proper

theorem World.Blank.kept (blank : w.Blank) : Kept w := by
  have none (n : Int) : w.journal.entries n = [] := by simp [Journal.entries, blank.logs]
  refine ⟨fun n g found => absurd (Games.has_of_get? found) (blank.games n),
    fun n has => absurd has (blank.games n), fun n has => absurd has (blank.games n),
    fun n logged => absurd (none n) logged, ?_, fun l hl => (blank.languages l hl).lasting⟩
  have hjournal : w.journal = { logs := [], ids := w.journal.ids } := by rw [← blank.logs]
  rw [hjournal]
  exact Journal.numbered_empty _

/-- What holds of logs throughout a run. Each action tells what it adds; the logs of stored games only
grow at the end, at positions without gaps; and when a game has been started and only successful
actions have played it since, its log is all that these actions have told. -/
structure Engine.KeepsLogs (engine : Engine) (w : World) (actions : List Action) : Prop where
  relates : engine.Throughout engine.Relates w actions
  grows : (engine.worlds w actions).Pairwise fun v v' =>
    ∀ n, v'.games.Has n → v.journal.entries n <+: v'.journal.entries n
  numbered : ∀ v ∈ engine.worlds w actions, v.journal.Numbered
  since : ∀ before adventure language rest t n,
    actions = before ++ .startGame adventure language :: rest →
    engine.answer (engine.left w before) (.startGame adventure language) = .ok (.transcript t) →
    t.game.id = some n →
    engine.Unharmed n (engine.after (engine.left w before) (.startGame adventure language)) rest →
    let told := engine.told n (engine.left w before) (.startGame adventure language :: rest)
    (Engine.contents n).run (engine.left w actions) =
      (.ok (told.flatMap Answer.shown), engine.left w actions) ∧
    ((∀ v ∈ engine.worlds (engine.after (engine.left w before) (.startGame adventure language)) rest,
        v.copies = (engine.left w before).copies) →
      (engine.transcript n).run (engine.left w actions) =
        (.ok (told.flatMap Answer.shownTexts), engine.left w actions))

namespace Engine

variable (quiet : engine.Quiet) {actions : List Action}
include quiet

theorem worlds_later (inside : ∀ a ∈ actions, a.Inside) (kept : Kept w) :
    ∀ v ∈ engine.worlds w actions, Later w v ∧ Kept v := by
  induction actions generalizing w with
  | nil =>
    intro v hv
    obtain rfl := List.mem_singleton.1 hv
    exact ⟨.refl v, kept⟩
  | cons a rest ih =>
    have effect := effect quiet kept a (inside a List.mem_cons_self)
    intro v hv
    rcases List.mem_cons.1 hv with rfl | hv
    · exact ⟨.refl v, kept⟩
    · obtain ⟨later, hkept⟩ := ih (fun b hb => inside b (List.mem_cons_of_mem _ hb))
        (effect.kept kept) v hv
      exact ⟨(effect.later kept).trans kept later, hkept⟩

theorem worlds_pairwise (inside : ∀ a ∈ actions, a.Inside) (kept : Kept w) :
    (engine.worlds w actions).Pairwise Later := by
  induction actions generalizing w with
  | nil => exact List.pairwise_singleton _ _
  | cons a rest ih =>
    have effect := effect quiet kept a (inside a List.mem_cons_self)
    have insideRest (b : Action) (hb : b ∈ rest) : b.Inside := inside b (List.mem_cons_of_mem _ hb)
    refine List.pairwise_cons.2 ⟨fun v hv => ?_, ih insideRest (effect.kept kept)⟩
    obtain ⟨later, -⟩ := worlds_later quiet insideRest (effect.kept kept) v hv
    exact (effect.later kept).trans kept later

theorem throughout_relates (inside : ∀ a ∈ actions, a.Inside) (kept : Kept w) :
    engine.Throughout engine.Relates w actions := by
  induction actions generalizing w with
  | nil => trivial
  | cons a rest ih =>
    have effect := effect quiet kept a (inside a List.mem_cons_self)
    exact ⟨effect.relates, ih (fun b hb => inside b (List.mem_cons_of_mem _ hb)) (effect.kept kept)⟩

/-- Whatever scripts emit and however operations fail, a run that starts without games keeps logs
true to what has been shown. -/
theorem logs_kept (blank : w.Blank) (inside : ∀ a ∈ actions, a.Inside) :
    engine.KeepsLogs w actions := by
  have kept := blank.kept
  refine ⟨throughout_relates quiet inside kept, ?_, ?_, ?_⟩
  · exact (worlds_pairwise quiet inside kept).imp fun later n has => later.grows n has
  · exact fun v hv => (worlds_later quiet inside kept v hv).2.numbered
  intro before adventure language rest t n hactions hanswer number unharmed
  subst hactions
  have insideBefore (b : Action) (hb : b ∈ before) : b.Inside :=
    inside b (List.mem_append_left _ hb)
  have insideRest (b : Action) (hb : b ∈ rest) : b.Inside :=
    inside b (List.mem_append_right _ (List.mem_cons_of_mem _ hb))
  have hleft : engine.left w (before ++ .startGame adventure language :: rest) =
      engine.left (engine.after (engine.left w before) (.startGame adventure language)) rest := by
    simp [left]
  rw [hleft]
  have keptBefore := left_kept quiet insideBefore kept
  generalize engine.left w before = v at hanswer unharmed keptBefore ⊢
  have effect := effect quiet keptBefore (.startGame adventure language) trivial
  rw [Affects, hanswer] at effect
  have subject : engine.subject v (.startGame adventure language) = some n := by
    rw [Engine.subject, run_startGame hanswer]
    exact number
  obtain ⟨code, speaks, hcopies, hentries, htexts⟩ := start_told effect keptBefore subject
  obtain ⟨⟨g, found, hspeaks⟩, hlog, hshown⟩ :=
    left_goesOn quiet insideRest (effect.kept keptBefore) speaks unharmed
  have htold : engine.told n v (.startGame adventure language :: rest) =
      .transcript t :: engine.told n (engine.after v (.startGame adventure language)) rest := by
    simp [told, subject, hanswer, Except.toOption]
  rw [htold]
  refine ⟨?_, fun same => ?_⟩
  · rw [run_contents found, hlog, hentries]
    rfl
  · have last : (engine.left (engine.after v (.startGame adventure language)) rest).copies =
        v.copies := same _ (left_mem_worlds engine _ rest)
    rw [run_transcript found, hlog, hentries, hspeaks, last, List.map_append, ← htexts, ← hcopies,
      ← hshown fun u hu => (same u hu).trans hcopies.symm]
    rfl

end Engine

theorem World.blank_lane : (World.lane (.files {})).Blank := by
  refine ⟨fun n => ?_, rfl, fun l hl => ?_⟩
  · simp [lane, Games.Has, Directory.get?]
  · obtain rfl := List.mem_singleton.1 hl
    exact ⟨⟨.text "en", .text "en", by decide +kernel⟩, by decide⟩

/-- A walk down the lane. -/
theorem Engine.logs_kept_lane :
    Engine.reciting.KeepsLogs (World.lane (.files {}))
      [.startGame (1 : Int) .null, .takeRoute (1 : Int) (1 : Int), .endGame (1 : Int)] :=
  logs_kept quiet_reciting World.blank_lane (by simp [Action.Inside])

end TextAdventure
