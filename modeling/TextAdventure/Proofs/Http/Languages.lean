import TextAdventure.Proofs.Engine.Outset
import TextAdventure.Proofs.Http.Answering
import TextAdventure.Proofs.Store.Lookups

/-! The language that a game is started in. A request and a call for the same language come to the
same, and copy is looked up in the language that the game has, unless the language asked for
consists of blanks: a request and a lookup take it for none, and a call does not. -/

namespace TextAdventure

open Op

variable {engine : Engine} {w : World}

/-! ### What is asked for -/

namespace Text

theorem lower_eq_nil {t : Text} : t.lower = [] ↔ t = [] := by
  refine ⟨fun h => ?_, ?_⟩
  · by_contra nonempty
    exact lower_ne_nil nonempty h
  · rintro rfl
    rfl

/-- A language of blanks, which is not the same as none. -/
def Hollow (l : Text) : Prop := l ≠ [] ∧ l.strip = []

end Text

namespace Engine

/-- The code that is looked for: that of the language asked for, or of the default one. -/
def wanted (engine : Engine) (l : Text) : Text :=
  if l = [] then engine.settings.defaultLanguage.strip.lower else l.strip.lower

theorem askedCode_text (engine : Engine) (l : Text) :
    engine.askedCode (.text l) = pure (engine.wanted l) := by
  unfold askedCode wanted
  cases l with
  | nil => rfl
  | cons c rest => rfl

theorem askedCode_null (engine : Engine) : engine.askedCode .null = pure (engine.wanted []) := rfl

/-- Copy is looked up under the code that is looked for, unless the language is one of blanks. -/
theorem wanted_eq_code {l : Text} (h : ¬l.Hollow) :
    engine.wanted l = engine.lookup.code (some l) := by
  unfold wanted
  by_cases empty : l = []
  · subst empty
    rfl
  · have visible : l.strip.lower ≠ [] := fun blank => h ⟨empty, Text.lower_eq_nil.1 blank⟩
    rw [if_neg empty, Lookup.code]
    exact (if_neg visible).symm

theorem code_again (engine : Engine) (l : Text) :
    (engine.lookup.code (some l)).strip.lower = engine.lookup.code (some l) :=
  (Lookup.normal_create _ _).code_again _

variable {language language' : Json} {adventure : Identifier} {code : Text}

/-- Calls that look for the same code come to the same. -/
theorem startGame_congr (same : engine.askedCode language = engine.askedCode language') :
    engine.startGame adventure language = engine.startGame adventure language' := by
  unfold startGame
  rw [gameLanguage_eq, gameLanguage_eq, same]

/-! ### What a game speaks -/

/-- The language of a game is the one that is looked for. -/
theorem gameLanguage_ok (asked : engine.askedCode language = pure code)
    (again : code.strip.lower = code) {found : Text} {v : World}
    (h : (engine.gameLanguage language).run w = (.ok found, v)) : found = code := by
  rw [gameLanguage_eq, asked, pure_bind, registeredCode, run_bind_ok (run_get w)] at h
  cases hfound : w.languages.byCode? code with
  | none =>
    rw [hfound] at h
    exact nomatch (Prod.mk.inj h).1
  | some l =>
    rw [hfound] at h
    have same : l.2.code = code.strip.lower := of_decide_eq_true (List.find?_some hfound :)
    rw [← Except.ok.inj (Prod.mk.inj h).1, same, again]

/-- A start that fails before a game is added fails with the same error. -/
theorem startGame_of_enrol (engine : Engine) {e : Error} {v : World}
    (refused : (engine.enrol adventure language).run w = (.error e, v)) :
    (engine.startGame adventure language).run w = (.error e, v) := by
  rw [startGame_eq, run_bind_error refused]

/-- A game that is started speaks a language from when it is added, and still does when its opening
is told, unless scripts have asked their host for something. -/
structure Speaks (engine : Engine) (w : World) (adventure : Identifier) (language : Json)
    (code : Text) : Prop where
  added : ∀ enrolled v, (engine.enrol adventure language).run w = (.ok enrolled, v) →
    enrolled.2.2.value.language = code
  told : engine.Quiet → ∀ t v, (engine.startGame adventure language).run w = (.ok t, v) →
    t.game.language = code

theorem speaks_of_asked (w : World) (adventure : Identifier)
    (asked : engine.askedCode language = pure code) (again : code.strip.lower = code) :
    engine.Speaks w adventure language code := by
  refine ⟨fun enrolled v h => ?_, fun quiet t v h => ?_⟩
  · obtain ⟨held, w₁, hheld, h⟩ := run_bind_eq_ok.1 h
    obtain ⟨found, w₂, hfound, h⟩ := run_bind_eq_ok.1 h
    obtain ⟨number, w₃, -, h⟩ := run_bind_eq_ok.1 h
    obtain ⟨initial, w₄, -, h⟩ := run_bind_eq_ok.1 h
    obtain ⟨time, w₅, -, h⟩ := run_bind_eq_ok.1 h
    obtain ⟨game, w₆, hgame, h⟩ := run_bind_eq_ok.1 h
    obtain rfl : (held, initial.2, game) = enrolled := Except.ok.inj (Prod.mk.inj h).1
    rw [((addGame_yields _).ok hgame).1]
    exact gameLanguage_ok asked again hfound
  · have starts : Starts engine language (fun g => g.language = code) w := by
      intro n a m place found g _ _ _ hfound _ _ speaks
      rw [speaks]
      exact gameLanguage_ok asked again (Prod.ext hfound rfl)
    have lasts : OfBearings fun g => g.language = code := fun g g' same h => same.language.trans h
    have outcome := started quiet lasts adventure language starts
    rw [h] at outcome
    cases outcome with
    | added number holds puts ids advances told => exact (told t rfl).holds

/-- A language of blanks is not registered. -/
theorem enrol_hollow (engine : Engine) {l : Text} (hollow : l.Hollow)
    (named : ∀ e ∈ w.languages.entries, e.2.code ≠ []) (adventure : Identifier) :
    ∃ e, (engine.enrol adventure (.text l)).run w = (.error e, w) ∧
      ((World.adventure adventure).run w = (.error e, w) ∨
        (∃ held, (World.adventure adventure).run w = (.ok held, w)) ∧
          e = .notFound .language (.name [])) := by
  have blank : engine.wanted l = [] := by
    rw [wanted, if_neg hollow.1, hollow.2]
    rfl
  have unregistered : (engine.gameLanguage (.text l)).run w =
      (.error (.notFound .language (.name [])), w) := by
    have missing : w.languages.byCode? [] = none := by
      refine List.find?_eq_none.2 fun e he same => ?_
      exact named e he (of_decide_eq_true same)
    rw [gameLanguage_eq, askedCode_text, blank, pure_bind, registeredCode, run_bind_ok (run_get w),
      missing]
    rfl
  unfold enrol
  rcases (ReadOnly.adventure adventure).run_cases w with ⟨e, failed⟩ | ⟨held, found⟩
  · rw [run_bind_error failed]
    exact ⟨e, rfl, .inl failed⟩
  · rw [run_bind_ok found, run_bind_error unregistered]
    exact ⟨_, rfl, .inr ⟨⟨held, found⟩, rfl⟩⟩

end Engine

namespace Http

/-- The language that a request passes on. -/
def passedOn (l : Text) : Option Text := if l.strip.lower = [] then none else some l.strip.lower

/-- The request asks to start a game of an adventure in a language. -/
structure Request.Posts (r : Request) (adventure : Int) (l : Text) : Prop where
  method : r.method.toString.toUpper = "POST"
  target : ∃ t, Resource.ofTarget? r.target = some (.games t) ∧ integer t = .ok adventure
  body : ∃ fields, r.body = .object fields ∧ Fields.get? "language" fields = some (.text l)

variable {r : Request} {adventure : Int} {l : Text}

theorem Request.Posts.asks (h : r.Posts adventure l) : r.Asks (.start adventure (passedOn l)) := by
  obtain ⟨t, htarget, hinteger⟩ := h.target
  obtain ⟨fields, hbody, hlanguage⟩ := h.body
  refine ⟨.games t, htarget, ?_⟩
  have language : bodyLanguage r.body = .ok (passedOn l) := by
    rw [hbody, bodyLanguage, hlanguage]
    rfl
  have number : pathInteger "adventure_id" t = .ok adventure := by
    rw [pathInteger, checkedInteger, hinteger]
  rw [task?, if_pos h.method, number, language]
  rfl

/-- What is passed on is looked for under the code that copy is looked up under. -/
theorem askedCode_passedOn (engine : Engine) (l : Text) :
    engine.askedCode (optionalText (passedOn l)) = pure (engine.lookup.code (some l)) := by
  unfold passedOn Lookup.code
  dsimp only
  split
  · exact engine.askedCode_null
  · rename_i visible
    rw [optionalText, Engine.askedCode_text, Engine.wanted, if_neg visible, Text.strip_lower_again]

/-- A request to start a game is answered with what comes of a call for the language that it passes
on. That call is the one for the language of the request, unless this is one of blanks: then the
request starts a game in the default language, and the call is refused. A game that is started,
either way, speaks the language that copy is looked up in. -/
theorem serve_start_language (engine : Engine) (w : World)
    (named : ∀ e ∈ w.languages.entries, e.2.code ≠ []) (posts : r.Posts adventure l) :
    ((serve engine r).run w =
      let call := ((Turn.start adventure (passedOn l)).call engine).run w
      (deliver 201 call.1, call.2)) ∧
    (¬l.Hollow → (Turn.start adventure (passedOn l)).call engine =
      (Turn.start adventure (some l)).call engine) ∧
    (l.Hollow → passedOn l = none ∧
      ∃ e, (engine.startGame adventure (.text l)).run w = (.error e, w) ∧
        ((World.adventure adventure).run w = (.error e, w) ∨
          (∃ held, (World.adventure adventure).run w = (.ok held, w)) ∧
            e = .notFound .language (.name []))) ∧
    engine.Speaks w adventure (optionalText (passedOn l)) (engine.lookup.code (some l)) ∧
    engine.Speaks w adventure (.text l) (engine.lookup.code (some l)) := by
  have again := engine.code_again l
  refine ⟨run_serve posts.asks engine w, fun visible => ?_, fun hollow => ⟨?_, ?_⟩, ?_, ?_⟩
  · have same : engine.askedCode (optionalText (passedOn l)) = engine.askedCode (.text l) := by
      rw [askedCode_passedOn, engine.askedCode_text, Engine.wanted_eq_code visible]
    exact congrArg (Told.transcript <$> ·) (Engine.startGame_congr same)
  · rw [passedOn, if_pos (Text.lower_eq_nil.2 hollow.2)]
  · obtain ⟨e, refused, cause⟩ := engine.enrol_hollow hollow named adventure
    exact ⟨e, engine.startGame_of_enrol refused, cause⟩
  · exact Engine.speaks_of_asked w adventure (askedCode_passedOn engine l) again
  · by_cases hollow : l.Hollow
    · -- No game is started that could speak another language.
      obtain ⟨e, refused, -⟩ := engine.enrol_hollow hollow named adventure
      refine ⟨fun enrolled v h => ?_, fun _ t v h => ?_⟩
      · exact nomatch (Prod.mk.inj (refused.symm.trans h)).1
      · exact nomatch (Prod.mk.inj ((engine.startGame_of_enrol refused).symm.trans h)).1
    · refine Engine.speaks_of_asked w adventure ?_ again
      rw [engine.askedCode_text, Engine.wanted_eq_code hollow]

/-- Two blanks: a request starts a game in English, and a call finds no such language. -/
theorem serve_start_language_blanks :
    let w := World.lane (.memory {})
    let r : Request :=
      { method := "POST", target := { path := "/api/adventures/1/games", query := [] }
        body := .object [("language", .text "  ")] }
    let started := ((Turn.start 1 none).call .reciting).run w
    (∀ e ∈ w.languages.entries, e.2.code ≠ []) ∧ r.Posts 1 "  " ∧
      (serve .reciting r).run w = (deliver 201 started.1, started.2) ∧
      started.1.map (·.game.language) = .ok "en" ∧
      (Engine.reciting.startGame (1 : Int) (.text "  ")).run w =
        (.error (.notFound .language (.name [])), w) := by
  intro w r started
  have named : ∀ e ∈ w.languages.entries, e.2.code ≠ [] := by decide +kernel
  have posts : r.Posts 1 "  " :=
    ⟨by decide +kernel, ⟨"1", by decide +kernel, by decide +kernel⟩, ⟨_, rfl, by decide +kernel⟩⟩
  have hollow : Text.Hollow "  " := ⟨by decide +kernel, by decide +kernel⟩
  obtain ⟨served, -, refused, -⟩ := serve_start_language .reciting w named posts
  obtain ⟨none, e, failed, missing | ⟨-, rfl⟩⟩ := refused hollow
  · have found : ((World.adventure (1 : Int)).run w).1.toBool = true := by decide +kernel
    rw [missing] at found
    exact nomatch found
  · rw [none] at served
    exact ⟨named, posts, served, by decide +kernel, failed⟩

end Http

end TextAdventure
