import TextAdventure.Game.Basic
import TextAdventure.Proofs.Decimal.Special
import TextAdventure.Proofs.Json.Reading

/-! The state of a game as text. What a game keeps is restored from its text, names, order and kinds of
values included, and a text that has been loaded once is written and loaded alike from then on. A text
that is refused leaves the game as it is. -/

namespace TextAdventure

open Decimal (Shape)

namespace Json

/-- The number is finite and not zero: it is written with digits of its own. -/
def Spelled (x : Float) : Prop := ∃ negative value, Shape.ofFloat x = .finite negative value

/-- NaN, infinities and zeros are read as they were written. -/
theorem rereadFloat_of_not_spelled {x : Float} (h : ¬Spelled x) : rereadFloat x = x := by
  cases shape : Shape.ofFloat x with
  | nan =>
    rw [Shape.eq_nan shape]
    decide +kernel
  | infinite negative =>
    rw [Shape.eq_infinity shape]
    cases negative <;> decide +kernel
  | zero negative =>
    rw [Shape.eq_zero shape]
    cases negative <;> decide +kernel
  | finite negative value => exact absurd ⟨negative, value, shape⟩ h

/-- Each number that is spelled in the value is the one that its spelling names. -/
def Exact (v : Json) : Prop := ∀ x ∈ v.floats, Spelled x → rereadFloat x = x

theorem Settled.exact {float : Float → Prop} {v : Json} (h : v.Settled float) (exact : v.Exact) :
    v.Settled fun x => rereadFloat x = x := by
  refine h.of_floats fun x hx => ?_
  by_cases spelled : Spelled x
  · exact exact x hx spelled
  · exact rereadFloat_of_not_spelled spelled

end Json

/-- Faults of JSON text count as errors of value. -/
def Error.IsValue (e : Error) : Prop := e.category = .value ∨ e.category = .json

/-- What scripts may keep: texts, numbers and truth values, each under a name of its own. -/
structure Fields.Flat (state : Fields) : Prop where
  distinct : (state.map (·.1)).Nodup
  names : ∀ f ∈ state, f.1.Unpaired
  scalar : ∀ f ∈ state, f.2.isScalar = true
  texts : ∀ f ∈ state, ∀ t, f.2 = .text t → t.Unpaired

theorem Fields.Flat.settled {state : Fields} (h : state.Flat)
    (short : ∀ f ∈ state, ∀ n, f.2 = .int n → Json.isLong n = false) :
    (Json.object state).Kept := by
  refine .object h.distinct h.names fun f hf => ?_
  have scalar := h.scalar f hf
  have text := h.texts f hf
  have int := short f hf
  cases hv : f.2 with
  | bool b => exact .bool b
  | int n => exact .int (int n hv)
  | float x => exact .float trivial
  | text t => exact .text (text t hv)
  | null | list | object => rw [hv] at scalar; cases scalar

namespace Game

/-- Loads a text into a game, which stays as it is if the text is refused. -/
def load (game : Game) (payload : Option Text) : Except Error Unit × Game :=
  match game.loadState payload with
  | .ok loaded => (.ok (), loaded)
  | .error e => (.error e, game)

theorem load_ok {game : Game} {payload : Option Text} {state : Fields}
    (h : readState payload = .ok state) : game.load payload = (.ok (), { game with state }) := by
  simp [load, loadState, h, Except.map]

theorem load_error {game : Game} {payload : Option Text} {e : Error}
    (h : readState payload = .error e) : game.load payload = (.error e, game) := by
  simp [load, loadState, h, Except.map]

theorem readState_object {t : Text} {state : Fields} (ne : t ≠ [])
    (h : Json.read t = .ok (.object state)) : readState (some t) = .ok state := by
  simp [readState, ne, h]

theorem compact_ne_nil (v : Json) : v.compact ≠ [] := by
  obtain ⟨c, more, hcons, -⟩ := Json.opens_compact v
  simp [hcons]

/-- A settled state is written, and loaded as itself. -/
theorem stateText_settled {game : Game}
    (h : (Json.object game.state).Settled fun x => Json.rereadFloat x = x) :
    ∃ t, game.stateText = .ok t ∧ readState (some t) = .ok game.state := by
  obtain ⟨written, read⟩ := h.read_written
  exact ⟨_, written, readState_object (compact_ne_nil _) read⟩

/-- What a text without surrogates is loaded as is settled. -/
theorem kept_of_readState {t : Text} {state : Fields} (scalar : t.Scalar)
    (h : readState (some t) = .ok state) : (Json.object state).Kept := by
  unfold readState at h
  dsimp only at h
  split at h
  · obtain rfl := Except.ok.inj h
    exact Json.Kept.empty
  · split at h
    · cases h
    · rename_i fields read
      obtain rfl := Except.ok.inj h
      exact Json.read_kept read scalar
    · cases h

theorem isValue_of_readState {payload : Option Text} {e : Error} (h : readState payload = .error e) :
    e.IsValue := by
  unfold readState at h
  split at h
  · cases h
  split at h
  · cases h
  split at h
  · rename_i fault _
    obtain rfl := Except.error.inj h
    obtain ⟨problem, line, column, position⟩ := fault
    cases problem with
    | tooManyDigits count => exact .inl rfl
    | _ => exact .inr rfl
  · cases h
  · obtain rfl := Except.error.inj h
    exact .inl rfl

theorem stateText_tooLong {game : Game} {f : Text × Json} {n : Int} (hf : f ∈ game.state)
    (hn : f.2 = .int n) (long : Json.isLong n = true) :
    game.stateText = .error .tooLongToWrite := by
  have refused : ¬Json.isWritable (.object game.state) = true := by
    rw [Json.isWritable, Json.haveWritable_iff]
    intro each
    have writable := each f hf
    rw [hn, Json.isWritable, long] at writable
    cases writable
  exact if_neg refused

/-- A state of texts, numbers and truth values comes back from its text as it was, whatever its keys
and their order, unless it holds an integer that is too long to be written. A state that was loaded
from a text without surrogates comes back from its own text, and has the same text again. A text that
is refused is so with an error of value, and leaves the game as it was. -/
theorem load_stateText :
    (∀ game : Game, game.state.Flat → (Json.object game.state).Exact →
      (∃ f ∈ game.state, ∃ n, f.2 = .int n ∧ Json.isLong n = true) ∧
          game.stateText = .error .tooLongToWrite ∨
        ∃ t, game.stateText = .ok t ∧
          ∀ other : Game, other.load (some t) = (.ok (), { other with state := game.state })) ∧
    (∀ (game loaded : Game) (t : Text), t.Scalar → game.load (some t) = (.ok (), loaded) →
      (Json.object loaded.state).Exact →
        loaded = { game with state := loaded.state } ∧
        ∃ u, loaded.stateText = .ok u ∧ ∀ other : Game,
          other.load (some u) = (.ok (), { other with state := loaded.state }) ∧
          { other with state := loaded.state }.stateText = .ok u) ∧
    ∀ (game left : Game) (t : Text) (e : Error), game.load (some t) = (.error e, left) →
      e.IsValue ∧ left = game := by
  refine ⟨fun game flat exact => ?_, fun game loaded t scalar h exact => ?_, fun game left t e h => ?_⟩
  · by_cases long : ∃ f ∈ game.state, ∃ n, f.2 = .int n ∧ Json.isLong n = true
    · obtain ⟨f, hf, n, hn, hlong⟩ := long
      exact .inl ⟨⟨f, hf, n, hn, hlong⟩, stateText_tooLong hf hn hlong⟩
    · have short : ∀ f ∈ game.state, ∀ n, f.2 = .int n → Json.isLong n = false :=
        fun f hf n hn => Bool.eq_false_iff.2 fun hlong => long ⟨f, hf, n, hn, hlong⟩
      obtain ⟨t, written, reads⟩ := stateText_settled ((flat.settled short).exact exact)
      exact .inr ⟨t, written, fun other => load_ok reads⟩
  · cases hread : readState (some t) with
    | error e =>
      rw [load_error hread] at h
      cases (Prod.mk.inj h).1
    | ok state =>
      rw [load_ok hread] at h
      obtain ⟨-, rfl⟩ := Prod.mk.inj h
      have settled : (Json.object ({ game with state } : Game).state).Settled
          fun x => Json.rereadFloat x = x := (kept_of_readState scalar hread).exact exact
      obtain ⟨u, written, reads⟩ := stateText_settled settled
      exact ⟨rfl, u, written, fun other => ⟨load_ok reads, written⟩⟩
  · cases hread : readState (some t) with
    | error e' =>
      rw [load_error hread] at h
      obtain ⟨he, rfl⟩ := Prod.mk.inj h
      obtain rfl := Except.error.inj he
      exact ⟨isValue_of_readState hread, rfl⟩
    | ok state =>
      rw [load_ok hread] at h
      cases (Prod.mk.inj h).1

/-- One as an integer and as a number with a point, truth, NaN, the zero below zero, and two halves of
pairs that make no pair. -/
def mixed : Game :=
  { adventure := 1, location := 1, language := "en"
    state := [("one", .int 1), ("real", .float 1.0), ("yes", .bool true), ("none", .float (0.0 / 0.0)),
      ("least", .float (-0.0)), ("halves", .text [.ofNat 0xDC00, .ofNat 0xD800])] }

theorem load_stateText_mixed : mixed.state.Flat ∧ (Json.object mixed.state).Exact ∧
    ∃ t, mixed.stateText = .ok t ∧ mixed.load (some t) = (.ok (), mixed) := by
  have flat : mixed.state.Flat := by
    refine ⟨by decide, by decide, by decide, fun f hf t ht => ?_⟩
    simp only [mixed, List.mem_cons, List.not_mem_nil, or_false] at hf
    rcases hf with rfl | rfl | rfl | rfl | rfl | rfl <;>
      simp only [Json.text.injEq, reduceCtorEq] at ht
    subst ht
    decide
  have exact : (Json.object mixed.state).Exact := by
    intro x hx _
    have numbers : x = 1.0 ∨ x = 0.0 / 0.0 ∨ x = -0.0 := by
      simpa [mixed, Json.floats, Json.fieldFloats] using hx
    rcases numbers with rfl | rfl | rfl <;> decide +kernel
  rcases load_stateText.1 mixed flat exact with ⟨⟨f, hf, n, hn, long⟩, -⟩ | ⟨t, written, loads⟩
  · simp only [mixed, List.mem_cons, List.not_mem_nil, or_false] at hf
    rcases hf with rfl | rfl | rfl | rfl | rfl | rfl <;>
      simp only [Json.int.injEq, reduceCtorEq] at hn
    subst hn
    exact absurd long (by decide +kernel)
  · exact ⟨flat, exact, t, written, loads mixed⟩

end Game

end TextAdventure
