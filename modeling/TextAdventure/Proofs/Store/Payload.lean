import TextAdventure.Proofs.Json.OnLines
import TextAdventure.Proofs.Text.Case
import TextAdventure.Store.Folder

/-! A stored game is read as it was written, but for what its texts cannot hold apart. -/

namespace TextAdventure

theorem Json.Plain.scalar {t : Text} (h : Json.Plain t) : t.Scalar := by
  intro c hc
  have := h c hc
  simp only [CodePoint.isSurrogate, Bool.and_eq_false_iff, decide_eq_false_iff_not]
  omega

/-- What a game is read as once it has been written. -/
def Game.reread (g : Game) : Except Error Game :=
  (Field.code "language" (.text g.language.paired)).map fun language =>
    { g with language, state := Json.rereadFields [] g.state }

/-- A language code that stays as it is when it is kept in a file. -/
def Text.Lasting (code : Text) : Prop := Field.code "language" (.text code.paired) = .ok code

namespace Payload

/-- The integers of a game can all be written. -/
def Fits (g : Game) : Prop :=
  Json.isWritable (.object g.state) = true ∧
    Json.haveWritable (fields g (Json.compact (.object g.state))) = true

/-- The number of a game that fits is short enough to be read. -/
theorem Fits.short {g : Game} {n : Int} (fits : Fits g) (hid : g.id = some n) :
    Json.isLong n = false := by
  have writable := fits.2
  simp only [fields, hid, Json.haveWritable, Json.isWritable, Bool.and_eq_true,
    Bool.not_eq_true'] at writable
  exact writable.1

/-- A game is written if its integers fit, and refused if not. -/
theorem write_eq (g : Game) : (Fits g ∧
    write g = .ok (Json.onLines (fields g (Json.compact (.object g.state))))) ∨
      (¬Fits g ∧ write g = .error .tooLongToWrite) := by
  unfold write Game.stateText Json.written Json.writtenOnLines Fits
  by_cases hstate : Json.isWritable (.object g.state) = true
  · by_cases hfields : Json.haveWritable (fields g (Json.compact (.object g.state))) = true
    · exact .inl ⟨⟨hstate, hfields⟩, by simp [hstate, bind, Except.bind, hfields]⟩
    · exact .inr ⟨fun h => hfields h.2, by simp [hstate, bind, Except.bind, hfields]⟩
  · exact .inr ⟨fun h => hstate h.1, by simp [hstate, bind, Except.bind]⟩

theorem write_ok {g : Game} {t : Text} (h : write g = .ok t) :
    Fits g ∧ t = Json.onLines (fields g (Json.compact (.object g.state))) := by
  rcases write_eq g with ⟨fits, hw⟩ | ⟨-, hw⟩
  · rw [hw] at h
    exact ⟨fits, (Except.ok.inj h).symm⟩
  · rw [hw] at h
    exact nomatch h

/-- The fields of a game's file as they are read. -/
theorem reread_fields (g : Game) {state : Text} (h : Json.Plain state) :
    Json.rereadFields [] (fields g state) =
      fields { g with language := g.language.paired } state := by
  have hstate := h.scalar.paired
  unfold fields
  simp only [Json.rereadFields, Json.reread, hstate]
  cases g.id <;> rfl

theorem required_of {name : String} {object : Fields} {v : Json} (h : object.get? name = some v) :
    required name object = .ok v := by
  rw [required, h]

theorem ofFields_fields {g : Game} {n : Int} (hid : g.id = some n) {payload : Text} {state : Fields}
    (hne : payload ≠ []) (hread : Json.read payload = .ok (.object state)) :
    ofFields (fields g payload) =
      (Field.code "language" (.text g.language)).map fun language => { g with language, state } := by
  have number : (fields g payload).get? "id" = some (.int n) := by
    unfold fields
    rw [hid]
    rfl
  have adventure : (fields g payload).get? "adventure_id" = some (.int g.adventure) := rfl
  have location : (fields g payload).get? "location_id" = some (.int g.location) := rfl
  have language : (fields g payload).get? "language" = some (.text g.language) := rfl
  have timestamp : (fields g payload).get? "location_update_timestamp" =
      some (.int g.locationTimestamp) := rfl
  have text : (fields g payload).get? "state" = some (.text payload) := rfl
  have completed : (fields g payload).get? "completed" = some (.bool g.completed) := rfl
  have recovery : (fields g payload).get? "needs_recovery" = some (.bool g.needsRecovery) := rfl
  have loads : Game.readState (some payload) = .ok state := by
    simp [Game.readState, hne, hread]
  unfold ofFields stateField
  rw [required_of number, required_of adventure, required_of location, required_of language,
    timestamp, text, completed, recovery]
  simp only [Option.getD_some, toInt, Json.truthy, Json.display, Game.create, bind, Except.bind,
    pure, Except.pure]
  cases Field.code "language" (.text g.language) with
  | error e => rfl
  | ok code => simp [Game.loadState, loads, Except.map, hid]

/-- A game that was written is read from its file. -/
theorem read_write {g : Game} {n : Int} (hid : g.id = some n) {t : Text} (h : write g = .ok t) :
    read (Directory.unixLines t) = g.reread := by
  obtain ⟨⟨state, writable⟩, rfl⟩ := write_ok h
  have plain := Json.plain_compact (.object g.state)
  have hread : Json.read (Json.onLines (fields g (Json.compact (.object g.state)))) =
      .ok (.object (fields { g with language := g.language.paired }
        (Json.compact (.object g.state)))) := by
    rw [← reread_fields g plain]
    exact Json.read_onLines writable
  have hne : Json.compact (.object g.state) ≠ [] := by
    obtain ⟨c, more, hcons, -⟩ := Json.opens_compact (.object g.state)
    simp [hcons]
  have hstate : Json.read (Json.compact (.object g.state)) =
      .ok (.object (Json.rereadFields [] g.state)) := by
    rw [Json.read_compact state, Json.reread]
  have hlines : Directory.unixLines (Json.onLines (fields g (Json.compact (.object g.state)))) =
      Json.onLines (fields g (Json.compact (.object g.state))) := Json.unixLines_onLines _ _
  rw [hlines, read, hread]
  exact ofFields_fields (g := { g with language := g.language.paired }) hid hne hstate

end Payload

end TextAdventure
