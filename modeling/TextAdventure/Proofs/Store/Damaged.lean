import TextAdventure.Proofs.Decimal.Special
import TextAdventure.Proofs.Store.Folder

/-! Files that hold no game. What such a file is refused with is an error about a value, decoding
errors among them, unless a field that should be a number holds what no integer is made of: null, a
list, an object or an infinity. -/

namespace TextAdventure

/-- Whether the error is about a value. Faults of encoded text are such errors. -/
def Error.isValue (e : Error) : Bool :=
  match e.category with
  | .value | .json | .bytes | .text => true
  | _ => false

theorem Error.isValue_malformedJson (fault : Json.Fault) :
    (Error.malformedJson fault).isValue = true := by
  cases h : fault.problem <;> simp [isValue, category, h]

namespace Payload

variable {v : Json} {e : Error} {object : Fields}

/-! ### Integers -/

/-- What no integer is made of, whatever it contains. -/
inductive Misfit : Json → Error → Prop
  | null : Misfit .null (.noIntegerOf .null)
  | list (items : List Json) : Misfit (.list items) (.noIntegerOf .list)
  | object (fields : Fields) : Misfit (.object fields) (.noIntegerOf .object)
  | infinity (negative : Bool) :
    Misfit (.float (if negative then -1.0 / 0.0 else 1.0 / 0.0)) .integerOfInfinity

theorem Misfit.toInt (h : Misfit v e) : toInt v = .error e := by
  cases h with
  | null => rfl
  | list items => rfl
  | object fields => rfl
  | infinity negative => cases negative <;> decide +kernel

theorem Misfit.not_value (h : Misfit v e) : e.isValue = false := by cases h <;> rfl

/-- A value that is not read as an integer is no misfit only if the error is about the value. -/
theorem misfit_of_toInt (h : toInt v = .error e) : e.isValue = true ∨ Misfit v e := by
  cases v with
  | null => exact .inr (Except.error.inj h ▸ .null)
  | bool b => cases h
  | int n => cases h
  | list items => exact .inr (Except.error.inj h ▸ .list items)
  | object fields => exact .inr (Except.error.inj h ▸ .object fields)
  | text t =>
    refine .inl ?_
    rw [Payload.toInt] at h
    split at h
    · cases h
    · rw [← Except.error.inj h]
      rfl
    · rw [← Except.error.inj h]
      rfl
  | float x =>
    rw [Payload.toInt, Decimal.truncate?] at h
    cases hshape : Decimal.Shape.ofFloat x with
    | zero negative =>
      rw [hshape] at h
      cases h
    | finite negative value =>
      rw [hshape] at h
      cases h
    | nan =>
      have isNaN : (0.0 / 0.0 : Float).isNaN = true := by decide +kernel
      rw [hshape, Decimal.Shape.eq_nan hshape] at h
      simp only [isNaN, if_true] at h
      exact .inl (Except.error.inj h ▸ rfl)
    | infinite negative =>
      have notNaN : (if negative then -1.0 / 0.0 else 1.0 / 0.0 : Float).isNaN = false := by
        cases negative <;> decide +kernel
      rw [hshape, Decimal.Shape.eq_infinity hshape] at h
      rw [Decimal.Shape.eq_infinity hshape]
      simp only [notNaN, Bool.false_eq_true, if_false] at h
      exact .inr (Except.error.inj h ▸ .infinity negative)

/-! ### Fields -/

/-- The fields of a file that hold numbers. -/
inductive NumberField where
  | id | adventure | location | timestamp

namespace NumberField

def name : NumberField → String
  | id => "id"
  | adventure => "adventure_id"
  | location => "location_id"
  | timestamp => "location_update_timestamp"

/-- The fields whose numbers are read before. -/
def before : NumberField → List NumberField
  | id => []
  | adventure => [id]
  | location => [id, adventure]
  | timestamp => [id, adventure, location]

end NumberField

/-- A field is there and is read as a number. -/
def Holds (object : Fields) (field : NumberField) (n : Int) : Prop :=
  ∃ v, object.get? field.name = some v ∧ toInt v = .ok n

/-- Reading comes to a field and finds `v` there: all that is read before is in order. -/
structure Meets (object : Fields) (field : NumberField) (v : Json) : Prop where
  found : object.get? field.name = some v
  before : ∀ earlier ∈ field.before, ∃ n, Holds object earlier n
  language : field = .timestamp → ∃ u, object.get? "language" = some u

theorem required_ok {name : String} (h : required name object = .ok v) :
    object.get? name = some v := by
  rw [required] at h
  split at h
  · rename_i found
    rw [found, Except.ok.inj h]
  · cases h

theorem fails_required (name : String) : FailsWith (·.isValue = true) (required name object) := by
  unfold required
  split
  · exact .ok _
  · exact .error rfl

section

variable {onward : Int → Except Error Game}

theorem Holds.read {field : NumberField} {n : Int} (h : Holds object field n) :
    (do onward (← toInt (← required field.name object))) = onward n := by
  obtain ⟨v, found, number⟩ := h
  rw [required_of found]
  show toInt v >>= onward = onward n
  rw [number]
  rfl

/-- Where reading stops that goes on with the number of a field. -/
theorem number_error (field : NumberField)
    (h : (do onward (← toInt (← required field.name object))) = .error e) :
    e.isValue = true ∨ (∃ v, object.get? field.name = some v ∧ Misfit v e) ∨
      ∃ n, Holds object field n ∧ onward n = .error e := by
  rcases error_of_bind h with missing | ⟨v, there, h⟩
  · exact .inl (fails_required _ _ missing)
  · have found := required_ok there
    rcases error_of_bind h with failed | ⟨n, number, h⟩
    · exact (misfit_of_toInt failed).imp_right fun misfit => .inl ⟨v, found, misfit⟩
    · exact .inr (.inr ⟨n, ⟨v, found, number⟩, h⟩)

end

theorem fails_readState (payload : Option Text) :
    FailsWith (·.isValue = true) (Game.readState payload) := by
  unfold Game.readState
  split
  · exact .ok _
  · split
    · exact .ok _
    · split
      · exact .error (Error.isValue_malformedJson _)
      · exact .ok _
      · exact .error rfl

theorem fails_stateField : FailsWith (·.isValue = true) (stateField object) := by
  unfold stateField
  split
  · exact .ok _
  · exact .ok _
  · exact .ok _
  · exact .error rfl

theorem fails_code (field : String) (t : Text) :
    FailsWith (·.isValue = true) (Field.code field (.text t)) := by
  unfold Field.code Field.name Field.text
  by_cases blank : t.strip = []
  · simp only [blank, if_true]
    exact .error rfl
  · simp only [blank, if_false]
    exact .ok _

/-- An object that is no game is refused with an error about a value, or reading it comes to a
misfit. -/
theorem ofFields_error (h : ofFields object = .error e) :
    e.isValue = true ∨ ∃ field v, Meets object field v ∧ Misfit v e := by
  unfold ofFields at h
  rcases number_error .id h with about | ⟨v, found, misfit⟩ | ⟨id, hid, h⟩
  · exact .inl about
  · exact .inr ⟨.id, v, ⟨found, by simp [NumberField.before], nofun⟩, misfit⟩
  rcases number_error .adventure h with
    about | ⟨v, found, misfit⟩ | ⟨adventure, hadventure, h⟩
  · exact .inl about
  · refine .inr ⟨.adventure, v, ⟨found, ?_, nofun⟩, misfit⟩
    simpa [NumberField.before] using ⟨id, hid⟩
  rcases number_error .location h with
    about | ⟨v, found, misfit⟩ | ⟨location, hlocation, h⟩
  · exact .inl about
  · refine .inr ⟨.location, v, ⟨found, ?_, nofun⟩, misfit⟩
    simpa [NumberField.before] using ⟨⟨id, hid⟩, ⟨adventure, hadventure⟩⟩
  rcases error_of_bind h with missing | ⟨language, hlanguage, h⟩
  · exact .inl (fails_required _ _ missing)
  rcases error_of_bind h with failed | ⟨timestamp, -, h⟩
  · refine (misfit_of_toInt failed).imp_right fun misfit => ?_
    cases found : object.get? "location_update_timestamp" with
    | none =>
      rw [found] at misfit
      exact nomatch misfit
    | some v =>
      rw [found] at misfit
      refine ⟨.timestamp, v, ⟨found, ?_, fun _ => ⟨language, required_ok hlanguage⟩⟩, misfit⟩
      simpa [NumberField.before] using
        ⟨⟨id, hid⟩, ⟨adventure, hadventure⟩, ⟨location, hlocation⟩⟩
  have rest (game : Game) :
      FailsWith (·.isValue = true) (do game.loadState (← stateField object)) :=
    .bind fails_stateField fun payload => (fails_readState payload).map _
  exact .inl (FailsWith.bind (.bind (fails_code _ _) fun _ => .ok _) rest e h)

/-- Reading that comes to a misfit ends there. -/
theorem Meets.ofFields {field : NumberField} (h : Meets object field v) (misfit : Misfit v e) :
    ofFields object = .error e := by
  have failed := misfit.toInt
  have stopped (onward : Int → Except Error Game) :
      (do onward (← Payload.toInt (← required field.name object))) = .error e := by
    rw [required_of h.found]
    show Payload.toInt v >>= onward = .error e
    rw [failed]
    rfl
  unfold Payload.ofFields
  cases field with
  | id => exact stopped _
  | adventure =>
    obtain ⟨id, hid⟩ := h.before .id (by simp [NumberField.before])
    exact hid.read.trans (stopped _)
  | location =>
    obtain ⟨id, hid⟩ := h.before .id (by simp [NumberField.before])
    obtain ⟨adventure, hadventure⟩ := h.before .adventure (by simp [NumberField.before])
    exact hid.read.trans (hadventure.read.trans (stopped _))
  | timestamp =>
    obtain ⟨id, hid⟩ := h.before .id (by simp [NumberField.before])
    obtain ⟨adventure, hadventure⟩ := h.before .adventure (by simp [NumberField.before])
    obtain ⟨location, hlocation⟩ := h.before .location (by simp [NumberField.before])
    obtain ⟨language, found⟩ := h.language rfl
    refine hid.read.trans (hadventure.read.trans (hlocation.read.trans ?_))
    have there : object.get? "location_update_timestamp" = some v := h.found
    rw [required_of found, there]
    show (Payload.toInt v >>= _) = .error e
    rw [failed]
    rfl

/-- A text that is no game is refused with an error about a value, unless it is an object and
reading it comes to a misfit. -/
theorem read_error_iff {t : Text} : read t = .error e ∧ e.isValue = false ↔
    ∃ object field v, Json.read t = .ok (.object object) ∧ Meets object field v ∧ Misfit v e := by
  constructor
  · rintro ⟨h, other⟩
    unfold read at h
    split at h
    · rw [← Except.error.inj h, Error.isValue_malformedJson] at other
      exact nomatch other
    · rename_i object decoded
      rcases ofFields_error h with about | ⟨field, v, meets, misfit⟩
      · exact absurd about (by simp [other])
      · exact ⟨object, field, v, decoded, meets, misfit⟩
    · rw [← Except.error.inj h] at other
      exact nomatch other
  · rintro ⟨object, field, v, decoded, meets, misfit⟩
    refine ⟨?_, misfit.not_value⟩
    rw [read, decoded]
    exact meets.ofFields misfit

end Payload

namespace Folder

/-- Whatever text stands in the file of a game, the game is read or the text is refused. It is
refused with an error about a value, unless it is an object with a misfit among its numbers and all
that is read before is in order. -/
theorem get?_damaged {f : Folder} {id : Int} {t : Text}
    (file : f.directory.get? (fileName id) = some (.file t)) :
    ((∃ g, f.get? id = .ok (some g)) ∨ ∃ e, f.get? id = .error e) ∧
      ∀ e, f.get? id = .error e ∧ e.isValue = false ↔
        ∃ object field v, Json.read (Directory.unixLines t) = .ok (.object object) ∧
          Payload.Meets object field v ∧ Payload.Misfit v e := by
  have reads : f.get? id = (Payload.read (Directory.unixLines t)).map some := by
    unfold get?
    rw [text_eq_some.2 ⟨t, file, rfl⟩]
  refine ⟨?_, fun e => ?_⟩
  · rw [reads]
    cases Payload.read (Directory.unixLines t) with
    | error e => exact .inr ⟨e, rfl⟩
    | ok g => exact .inl ⟨g, rfl⟩
  · rw [← Payload.read_error_iff, reads]
    refine and_congr_left fun _ => ?_
    cases Payload.read (Directory.unixLines t) with
    | error e' => simp [Except.map]
    | ok g => simp [Except.map]

/-- A folder in which the number of one game is null, and that of another one is too large. -/
def misfits : Folder :=
  { directory := [("1.json", .file "\x7b\"id\": null\x7d"),
      ("2.json", .file "\x7b\"id\": 1e400\x7d")] }

theorem get?_damaged_misfits :
    (misfits.get? 1 = .error (.noIntegerOf .null) ∧ (Error.noIntegerOf .null).isValue = false) ∧
      misfits.get? 2 = .error .integerOfInfinity ∧ Error.integerOfInfinity.isValue = false := by
  constructor
  · have file : misfits.directory.get? (fileName 1) = some (.file "\x7b\"id\": null\x7d") := by
      decide +kernel
    have decoded : Json.read (Directory.unixLines "\x7b\"id\": null\x7d") =
        .ok (.object [("id", .null)]) := by decide +kernel
    have meets : Payload.Meets [("id", .null)] .id .null :=
      ⟨rfl, by simp [Payload.NumberField.before], nofun⟩
    exact ((get?_damaged file).2 _).2 ⟨_, _, _, decoded, meets, .null⟩
  · have file : misfits.directory.get? (fileName 2) = some (.file "\x7b\"id\": 1e400\x7d") := by
      decide +kernel
    have decoded : Json.read (Directory.unixLines "\x7b\"id\": 1e400\x7d") =
        .ok (.object [("id", .float (1.0 / 0.0))]) := by decide +kernel
    have meets : Payload.Meets [("id", .float (1.0 / 0.0))] .id (.float (1.0 / 0.0)) :=
      ⟨rfl, by simp [Payload.NumberField.before], nofun⟩
    exact ((get?_damaged file).2 _).2 ⟨_, _, _, decoded, meets, .infinity false⟩

end Folder

end TextAdventure
