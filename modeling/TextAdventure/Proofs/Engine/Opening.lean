import TextAdventure.Engine.Opening
import TextAdventure.Proofs.Authoring.Copies
import TextAdventure.Proofs.Engine.Busy

/-! Engines that are opened with settings from environment variables. Such settings always open an
engine, but a timeout among them need not be a number, and it may be more than any waiting can last.
Whether an operation can hold a game that is free depends on nothing else. -/

namespace TextAdventure

open Op
open Float.Model (UnpackedFloat)

/-! ### Timeouts -/

namespace Timeout

variable {t : Float}

theorem unpack_zero : (0.0 : Float).toModel.unpack = .zero .positive := rfl

theorem lt_iff {a b : Float} : a < b ↔ a.toModel.unpack.lt b.toModel.unpack = true :=
  decide_eq_true_iff

theorem le_iff {a b : Float} : a ≤ b ↔ a.toModel.unpack.le b.toModel.unpack = true :=
  decide_eq_true_iff

/-- What is not below zero is above it, unless it is zero of either sign or no number at all. -/
theorem cases_of_not_lt (h : ¬t < 0.0) : t.toModel.unpack = .notANumber ∨
    (∃ sign, t.toModel.unpack = .zero sign) ∨ 0.0 < t := by
  rw [lt_iff, unpack_zero] at h
  rw [lt_iff, unpack_zero]
  cases hx : t.toModel.unpack with
  | notANumber => exact .inl rfl
  | zero sign => exact .inr (.inl ⟨sign, rfl⟩)
  | infinity sign =>
    cases sign with
    | positive => exact .inr (.inr rfl)
    | negative => exact absurd (by rw [hx]; rfl) h
  | finite sign mantissa exponent pos =>
    cases sign with
    | positive => exact .inr (.inr rfl)
    | negative => exact absurd (by rw [hx]; rfl) h

theorem le_of_lt {a b : Float} (h : a < b) : a ≤ b := by
  rw [lt_iff, UnpackedFloat.lt, beq_iff_eq] at h
  rw [le_iff, UnpackedFloat.le, h]
  rfl

theorem zero_le_of_not_lt (h : ¬t < 0.0) : t.isNaN = true ∨ 0.0 ≤ t := by
  rcases cases_of_not_lt h with none | ⟨sign, zero⟩ | pos
  · refine .inl ?_
    show t.toModel.unpack.isNaN = true
    rw [none]
    rfl
  · refine .inr (le_iff.2 ?_)
    rw [unpack_zero, zero]
    rfl
  · exact .inr (le_of_lt pos)

theorem isTooLong_eq (t : Float) : Locks.isTooLong t =
    UnpackedFloat.le (9223372036854775808.0 : Float).toModel.unpack
      (Float.Model.pack (UnpackedFloat.mul .binary64 t.toModel.unpack
        (1000000000.0 : Float).toModel.unpack)).unpack :=
  Bool.eq_iff_iff.2 (decide_eq_true_iff.trans le_iff)

/-- Only what is above zero is more than waiting can last. -/
theorem pos_of_isTooLong (h : ¬t < 0.0) (long : Locks.isTooLong t = true) : 0.0 < t := by
  rw [isTooLong_eq] at long
  rcases cases_of_not_lt h with none | ⟨sign, zero⟩ | pos
  · rw [none] at long
    exact absurd long (by decide +kernel)
  · rw [zero] at long
    cases sign
    · exact absurd long (by decide +kernel)
    · exact absurd long (by decide +kernel)
  · exact pos

end Timeout

/-! ### Settings -/

/-- What an engine needs of its settings: a timeout that is not below zero, a limit that is positive
and the code of a language. -/
structure Settings.Sound (s : Settings) : Prop where
  timeout : ¬s.busyTimeout < 0.0
  instructions : ∀ n, s.maxInstructions = some n → ¬n < 1
  language : s.defaultLanguage.Coded

namespace Settings

variable {value : Option Text} {homes : Text → Option Text} {value? : String → Option Text}
  {s : Settings}

theorem strip_of_filled {t : Text} (h : filled value = some t) : t.strip = t ∧ t ≠ [] := by
  unfold filled at h
  cases value with
  | none => exact nomatch h
  | some given =>
    rw [Option.bind_some] at h
    split at h
    · exact nomatch h
    · rename_i ne
      obtain rfl := Option.some.inj h
      exact ⟨(Text.trim_strip given).strip, ne⟩

theorem not_lt_of_readBusyTimeout {t : Float} (h : readBusyTimeout value = .ok t) : ¬t < 0.0 := by
  unfold readBusyTimeout at h
  split at h
  · obtain rfl := Except.ok.inj h
    decide +kernel
  · split at h
    · exact nomatch h
    · split at h
      · exact nomatch h
      · rename_i notNegative
        obtain rfl := Except.ok.inj h
        exact notNegative

theorem not_lt_of_readMaxInstructions {n : Int} (h : readMaxInstructions value = .ok (some n)) :
    ¬n < 1 := by
  unfold readMaxInstructions at h
  split at h
  · exact nomatch Except.ok.inj h
  · split at h
    · exact nomatch h
    · split at h
      · exact nomatch h
      · rename_i positive
        obtain rfl := Option.some.inj (Except.ok.inj h)
        exact positive

/-- The default language that is named, or else the one of a fresh engine, has a code. -/
theorem coded_language (value : Option Text) : ((filled value).getD "en").strip.lower.Coded := by
  cases h : filled value with
  | none => exact ⟨by decide +kernel, by decide +kernel⟩
  | some t =>
    obtain ⟨strip, ne⟩ := strip_of_filled h
    rw [Option.getD_some]
    have code : Field.code "language code" (.text t) = .ok t.strip.lower :=
      Field.code_eq_ok.2 ⟨t, rfl, by rwa [strip], rfl⟩
    exact Text.coded_of_code code

/-- Settings that are read from variables are sound. A directory is among them only if one is
named. -/
theorem sound_ofEnvironment (read : ofEnvironment homes value? = .ok s) :
    s.Sound ∧
      (filled (value? "ADVENTURE_RUNTIME_GAME_STORE_DIR") = none → s.gameStore = none) := by
  unfold ofEnvironment at read
  obtain ⟨timeout, htimeout, read⟩ := ok_of_bind read
  obtain ⟨limit, hlimit, read⟩ := ok_of_bind read
  obtain ⟨store, hstore, read⟩ := ok_of_bind read
  unfold create at read
  obtain ⟨level, -, read⟩ := ok_of_bind read
  obtain rfl := Except.ok.inj read
  refine ⟨⟨not_lt_of_readBusyTimeout htimeout, ?_, coded_language _⟩, fun none => ?_⟩
  · rintro n rfl
    exact not_lt_of_readMaxInstructions hlimit
  · unfold readGameStore at hstore
    rw [none] at hstore
    exact (Except.ok.inj hstore).symm

end Settings

/-! ### Engines -/

/-- How an engine treats games that are free. An operation takes hold of such a game, does its work
and lets go of the game, and the host is granted the game as well. -/
structure Engine.Serves (engine : Engine) : Prop where
  operation : ∀ {α : Type} (op : Op α) {w : World} {n : Int}, w.locks.isBusy n = false →
    let after := op.run { w with locks := ⟨w.locks.held ++ [(n, .operation)]⟩ }
    (engine.holding n op).run w =
      (after.1, { after.2 with locks := after.2.locks.release n })
  host : ∀ {w : World} {n : Int}, w.locks.isBusy n = false →
    engine.answer w (.hold n) = .ok .done ∧
      engine.after w (.hold n) = { w with locks := ⟨w.locks.held ++ [(n, .host)]⟩ }

/-- How an engine treats games when it cannot wait for them. No game is started, and whatever asks
for a game is refused, whether the game is free or not. -/
structure Engine.Jams (engine : Engine) : Prop where
  asked : ∀ {w : World} {n : Int} {a : Action}, a.AsksFor w n →
    engine.answer w a = .error .busyTimeoutTooLong ∧ engine.after w a = w
  host : ∀ (w : World) (n : Int),
    engine.answer w (.hold n) = .error .busyTimeoutTooLong ∧ engine.after w (.hold n) = w
  started : ∀ (w : World) (adventure : Identifier) (language : Json),
    ∃ e, engine.answer w (.startGame adventure language) = .error e

namespace Engine

variable {engine : Engine} {settings : Settings}

theorem serves (short : Locks.isTooLong engine.settings.busyTimeout = false) : engine.Serves := by
  have free {w : World} {n : Int} (h : w.locks.isBusy n = false) (holder : Holder) :
      w.locks.hold engine.settings.busyTimeout n holder =
        .ok ⟨w.locks.held ++ [(n, holder)]⟩ := by
    unfold Locks.hold
    rw [if_neg (by simp [short]), if_neg (by simp [h])]
  refine ⟨fun op w n h => ?_, fun {w n} h => ?_⟩
  · rw [holding, World.holding_eq, free h]
  · have hold : (Op.holdFor engine.settings.busyTimeout n).run w =
        (.ok (), { w with locks := ⟨w.locks.held ++ [(n, .host)]⟩ }) := by
      unfold Op.holdFor
      rw [run_bind_ok (run_get w), run_bind, run_ofExcept, free h]
      rfl
    rw [answer_of_perform rfl, after_of_perform rfl, hold]
    exact ⟨rfl, rfl⟩

theorem jams (positive : 0.0 < engine.settings.busyTimeout)
    (long : Locks.isTooLong engine.settings.busyTimeout = true) : engine.Jams := by
  have refused (locks : Locks) (n : Int) (holder : Holder) :
      locks.hold engine.settings.busyTimeout n holder = .error .busyTimeoutTooLong :=
    if_pos ⟨positive, long⟩
  have holding {α : Type} (op : Op α) (w : World) (n : Int) :
      (engine.holding n op).run w = (.error .busyTimeoutTooLong, w) := by
    rw [holding, World.holding_eq, refused]
  have asked {w : World} {n : Int} {a : Action} {α : Type} {game : Identifier} {f : Int → Op α}
      {tell : α → Answer}
      (perform : a.perform engine =
        tell <$> (World.gameNumber game >>= fun m => engine.holding m (f m)))
      (asks : ((World.gameNumber game).run w).1 = .ok n) :
      engine.answer w a = .error .busyTimeoutTooLong ∧ engine.after w a = w := by
    have number : (World.gameNumber game).run w = (.ok n, w) :=
      Prod.ext asks (ReadOnly.gameNumber game w)
    rw [answer_of_perform perform, after_of_perform perform, run_bind_ok number, holding]
    exact ⟨rfl, rfl⟩
  refine ⟨fun {w n a} asks => ?_, fun w n => ?_, fun w adventure language => ?_⟩
  · cases a with
    | takeRoute game route => exact asked rfl asks
    | executeScript game script => exact asked rfl asks
    | endGame game => exact asked rfl asks
    | recoverGame game => exact asked rfl asks
    | _ => exact asks.elim
  · have hold : (Op.holdFor engine.settings.busyTimeout n).run w =
        (.error .busyTimeoutTooLong, w) := by
      unfold Op.holdFor
      rw [run_bind_ok (run_get w), run_bind, run_ofExcept, refused]
    rw [answer_of_perform rfl, after_of_perform rfl, hold]
    exact ⟨rfl, rfl⟩
  · rw [answer_of_perform rfl]
    rcases hrun : (engine.startGame adventure language).run w with ⟨e | t, v⟩
    · exact ⟨e, rfl⟩
    · unfold startGame at hrun
      obtain ⟨held, u, -, hrun⟩ := run_bind_eq_ok.1 hrun
      obtain ⟨language, u, -, hrun⟩ := run_bind_eq_ok.1 hrun
      obtain ⟨id, u, -, hrun⟩ := run_bind_eq_ok.1 hrun
      obtain ⟨location, u, -, hrun⟩ := run_bind_eq_ok.1 hrun
      obtain ⟨time, u, -, hrun⟩ := run_bind_eq_ok.1 hrun
      obtain ⟨game, u, -, hrun⟩ := run_bind_eq_ok.1 hrun
      rw [holding] at hrun
      cases hrun

/-- The default language of sound settings is a language. -/
theorem defaultLanguage_sound (sound : settings.Sound) :
    defaultLanguage settings =
      .ok ⟨settings.defaultLanguage.strip, settings.defaultLanguage⟩ := by
  obtain ⟨code, ne⟩ := sound.language
  have visible : settings.defaultLanguage.strip ≠ [] := fun blank => by
    rw [blank] at code
    exact ne code.symm
  have named : Field.name "language name" (.text settings.defaultLanguage) =
      .ok settings.defaultLanguage.strip := if_neg visible
  have coded : Field.code "language code" (.text settings.defaultLanguage) =
      .ok settings.defaultLanguage := Field.code_eq_ok.2 ⟨_, rfl, visible, code.symm⟩
  unfold defaultLanguage Language.create
  rw [named, coded]
  rfl

theorem runtime_sound (sound : settings.Sound) :
    ∃ runtime, Lua.runtime settings.maxInstructions = .ok runtime := by
  unfold Lua.runtime
  cases h : settings.maxInstructions with
  | none => exact ⟨_, rfl⟩
  | some n => exact ⟨_, if_neg (sound.instructions n h)⟩

/-- Sound settings open an engine over stores in memory. -/
theorem openWithLua_sound (sound : settings.Sound) (clock : Clock) (keys : Keys) :
    ∃ engine w, Engine.openWithLua settings none none clock keys = .ok (engine, w) ∧
      engine.settings = settings ∧ w.games = .memory {} ∧ w.locks = {} := by
  let language : Language := ⟨settings.defaultLanguage.strip, settings.defaultLanguage⟩
  let registered : Languages := { entries := [(1, language)], ids := ⟨2⟩ }
  let w : World := { languages := registered, clock, keys }
  obtain ⟨runtime, hruntime⟩ := runtime_sound sound
  have hlanguage := defaultLanguage_sound sound
  have hregister : Languages.register {} [(.unset, language)] = .ok registered := rfl
  have htimeout : checkBusyTimeout settings.busyTimeout = .ok () := if_neg sound.timeout
  have coded : ∀ l ∈ registered.list.map (·.2), l.code.Coded := by
    intro l hl
    obtain rfl : l = language := by simpa [registered, Languages.list] using hl
    exact sound.language
  obtain ⟨seeded, copies, hseed, -, -⟩ := run_seedEmptyCopy (w := w)
    settings.emptyCopyText coded Copies.tidy_empty
  refine ⟨{ settings, runtime := some runtime }, { w with copies }, ?_, rfl, rfl, rfl⟩
  unfold openWithLua Engine.open
  rw [hlanguage, hruntime]
  show (do
    let registered ← Languages.register {} [(.unset, language)]
    let runtime ← Except.ok (some runtime)
    checkBusyTimeout settings.busyTimeout
    _) = _
  rw [hregister, htimeout]
  let ran := (Authoring.seedEmptyCopy settings.emptyCopyText (registered.list.map (·.2))).run w
  show (do
    let _ ← ran.1
    return (({ settings, runtime := some runtime } : Engine), ran.2)) = _
  have seeds : ran = (.ok seeded, { w with copies }) := hseed
  rw [seeds]
  rfl

/-- Settings that are read from variables open an engine in memory when no directory is among them.
Their timeout is a number from zero on, or no number at all. Games that are free can be held unless
the timeout is more than any waiting can last: then no operation on a game goes through. -/
theorem openWithLua_ofEnvironment {homes : Text → Option Text} {value? : String → Option Text}
    (read : Settings.ofEnvironment homes value? = .ok settings)
    (memory : Settings.filled (value? "ADVENTURE_RUNTIME_GAME_STORE_DIR") = none) (clock : Clock)
    (keys : Keys) :
    (settings.busyTimeout.isNaN = true ∨ 0.0 ≤ settings.busyTimeout) ∧
    settings.gameStore = none ∧
    ∃ engine w, Engine.openWithLua settings none none clock keys = .ok (engine, w) ∧
      engine.settings = settings ∧ w.games = .memory {} ∧ w.locks = {} ∧
      (Locks.isTooLong settings.busyTimeout = false → engine.Serves) ∧
      (Locks.isTooLong settings.busyTimeout = true → engine.Jams) := by
  obtain ⟨sound, store⟩ := Settings.sound_ofEnvironment read
  obtain ⟨engine, w, opens, rfl, games, locks⟩ := openWithLua_sound sound clock keys
  refine ⟨Timeout.zero_le_of_not_lt sound.timeout, store memory, engine, w, opens, rfl, games,
    locks, serves, fun long => ?_⟩
  exact jams (Timeout.pos_of_isTooLong sound.timeout long) long

/-- Ten thousand million seconds are read and open an engine, and then no game can be held. -/
theorem openWithLua_ofEnvironment_patience :
    let value? (name : String) : Option Text :=
      if name = "ADVENTURE_RUNTIME_BUSY_TIMEOUT" then some "1e10" else none
    let settings : Settings := { busyTimeout := 10000000000.0 }
    Settings.ofEnvironment (fun _ => none) value? = .ok settings ∧
    Settings.filled (value? "ADVENTURE_RUNTIME_GAME_STORE_DIR") = none ∧
    ∃ engine w, Engine.openWithLua settings none none { reading := fun _ => 0 }
      { key := fun _ => [] } = .ok (engine, w) ∧ engine.Jams := by
  intro value? settings
  have read : Settings.ofEnvironment (fun _ => none) value? = .ok settings := by decide +kernel
  have long : Locks.isTooLong settings.busyTimeout = true := by decide +kernel
  obtain ⟨-, -, engine, w, opens, -, -, -, -, jams⟩ := openWithLua_ofEnvironment read
    (by decide +kernel) { reading := fun _ => 0 } { key := fun _ => [] }
  exact ⟨read, by decide +kernel, engine, w, opens, jams long⟩

/-- A timeout that is no number is read too. -/
example : ((Settings.readBusyTimeout (some "nan")).toOption.any Float.isNaN) = true := by
  decide +kernel

end Engine

end TextAdventure
