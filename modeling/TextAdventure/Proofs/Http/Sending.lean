import TextAdventure.Http.Service
import TextAdventure.Proofs.Json.Reread

/-! What is sent of a value. A surrogate in any of its texts keeps a value from being sent. Apart from
that only numbers that are not finite make a difference: null is sent in their place. -/

namespace TextAdventure

namespace Json

/-- All texts of a value, names of fields among them, and all its floating point numbers are of a
kind. -/
inductive All (text : Text → Prop) (float : Float → Prop) : Json → Prop
  | null : All text float .null
  | bool (b : Bool) : All text float (.bool b)
  | int (n : Int) : All text float (.int n)
  | float {x : Float} (holds : float x) : All text float (.float x)
  | text {t : Text} (holds : text t) : All text float (.text t)
  | list {items : List Json} (each : ∀ v ∈ items, All text float v) : All text float (.list items)
  | object {fields : List (Text × Json)} (names : ∀ f ∈ fields, text f.1)
      (each : ∀ f ∈ fields, All text float f.2) : All text float (.object fields)

/-- No text of the value holds a surrogate. -/
def Encodable : Json → Prop := All Text.Scalar fun _ => True

/-- All numbers of the value are finite. -/
def Finite : Json → Prop := All (fun _ => True) fun x => x.isFinite = true

mutual

/-- The value with null for every number that is not finite. -/
def nulled : Json → Json
  | float x => if x.isFinite then .float x else .null
  | list items => .list (nulledItems items)
  | object fields => .object (nulledFields fields)
  | v => v

def nulledItems : List Json → List Json
  | [] => []
  | v :: rest => nulled v :: nulledItems rest

def nulledFields : List (Text × Json) → List (Text × Json)
  | [] => []
  | (k, v) :: rest => (k, nulled v) :: nulledFields rest

end

section

variable {text : Text → Prop} {float : Float → Prop}

theorem all_text_iff {t : Text} : All text float (.text t) ↔ text t :=
  ⟨fun h => by cases h; assumption, .text⟩

theorem all_float_iff {x : Float} : All text float (.float x) ↔ float x :=
  ⟨fun h => by cases h; assumption, .float⟩

theorem all_list_iff {items : List Json} :
    All text float (.list items) ↔ ∀ v ∈ items, All text float v :=
  ⟨fun h => by cases h; assumption, .list⟩

theorem all_object_iff {fields : List (Text × Json)} :
    All text float (.object fields) ↔ ∀ f ∈ fields, text f.1 ∧ All text float f.2 := by
  refine ⟨fun h => ?_, fun h => .object (fun f hf => (h f hf).1) fun f hf => (h f hf).2⟩
  cases h with
  | object names each => exact fun f hf => ⟨names f hf, each f hf⟩

end

@[simp] theorem encodable_null : Json.null.Encodable := .null

@[simp] theorem encodable_bool (b : Bool) : (Json.bool b).Encodable := .bool b

@[simp] theorem encodable_int (n : Int) : (Json.int n).Encodable := .int n

@[simp] theorem encodable_text {t : Text} : (Json.text t).Encodable ↔ t.Scalar := all_text_iff

theorem encodable_list {items : List Json} :
    (Json.list items).Encodable ↔ ∀ v ∈ items, v.Encodable := all_list_iff

theorem encodable_object {fields : List (Text × Json)} :
    (Json.object fields).Encodable ↔ ∀ f ∈ fields, f.1.Scalar ∧ f.2.Encodable := all_object_iff

theorem nulledItems_eq (items : List Json) : nulledItems items = items.map nulled := by
  induction items with
  | nil => rfl
  | cons v rest ih => rw [nulledItems, ih, List.map_cons]

theorem nulledFields_eq (fields : List (Text × Json)) :
    nulledFields fields = fields.map fun f => (f.1, nulled f.2) := by
  induction fields with
  | nil => rfl
  | cons f rest ih => rw [nulledFields, ih, List.map_cons]

theorem map_eq_self_iff {α : Type} (f : α → α) (l : List α) : l.map f = l ↔ ∀ a ∈ l, f a = a := by
  have map : l.map f = l.map id ↔ ∀ a ∈ l, f a = a := List.map_inj_left
  rwa [List.map_id] at map

/-- A value stays as it is if and only if its numbers are finite. -/
theorem nulled_eq_iff (v : Json) : v.nulled = v ↔ v.Finite := by
  induction v using Json.induction with
  | null => exact ⟨fun _ => .null, fun _ => rfl⟩
  | bool b => exact ⟨fun _ => .bool b, fun _ => rfl⟩
  | int n => exact ⟨fun _ => .int n, fun _ => rfl⟩
  | float x =>
    rw [Finite, all_float_iff, nulled]
    split
    · rename_i finite
      exact ⟨fun _ => finite, fun _ => rfl⟩
    · rename_i infinite
      exact ⟨nofun, fun h => absurd h infinite⟩
  | text t => exact ⟨fun _ => .text trivial, fun _ => rfl⟩
  | list items each =>
    rw [Finite, all_list_iff, nulled, nulledItems_eq, list.injEq]
    exact (map_eq_self_iff _ _).trans (forall₂_congr each)
  | object fields each =>
    rw [Finite, all_object_iff, nulled, nulledFields_eq, object.injEq]
    refine (map_eq_self_iff _ _).trans (forall₂_congr fun f hf => ?_)
    rw [true_and, Prod.ext_iff]
    exact (and_iff_right rfl).trans (each f hf)

end Json

namespace Http

/-! ### Texts -/

theorem encodeFrom_cases (t : Text) (position : Nat) :
    t.Scalar ∧ (∃ bytes, Utf8.encodeFrom position t = .ok bytes) ∨
      ¬t.Scalar ∧ ∃ fault, Utf8.encodeFrom position t = .error fault := by
  induction t generalizing position with
  | nil => exact .inl ⟨nofun, [], rfl⟩
  | cons c rest ih =>
    rw [Utf8.encodeFrom]
    cases surrogate : c.isSurrogate with
    | true =>
      refine .inr ⟨fun scalar => ?_, _, rfl⟩
      exact Bool.false_ne_true ((scalar c List.mem_cons_self).symm.trans surrogate)
    | false =>
      rcases ih (position + 1) with ⟨scalar, bytes, encoded⟩ | ⟨bad, fault, encoded⟩ <;> rw [encoded]
      · exact .inl ⟨List.forall_mem_cons.2 ⟨surrogate, scalar⟩, _, rfl⟩
      · exact .inr ⟨fun scalar => bad fun d hd => scalar d (List.mem_cons_of_mem _ hd), fault, rfl⟩

/-- A text can be sent if and only if it holds no surrogate. -/
theorem checkText_cases (t : Text) :
    t.Scalar ∧ checkText t = .ok () ∨ ¬t.Scalar ∧ ∃ fault, checkText t = .error fault := by
  unfold checkText Utf8.encode
  rcases encodeFrom_cases t 0 with ⟨scalar, bytes, encoded⟩ | ⟨bad, fault, encoded⟩ <;> rw [encoded]
  · exact .inl ⟨scalar, rfl⟩
  · exact .inr ⟨bad, fault, rfl⟩

/-! ### Values -/

/-- What comes of sending a value: it is sent, with null for numbers that are not finite, if it can be
encoded, and refused otherwise. -/
def Sends (v : Json) (result : Except Utf8.BadText Json) : Prop :=
  v.Encodable ∧ result = .ok v.nulled ∨ ¬v.Encodable ∧ ∃ fault, result = .error fault

theorem sentItems_cases {items : List Json} (each : ∀ v ∈ items, Sends v (sent v)) :
    (∀ v ∈ items, v.Encodable) ∧ sentItems items = .ok (Json.nulledItems items) ∨
      (¬∀ v ∈ items, v.Encodable) ∧ ∃ fault, sentItems items = .error fault := by
  induction items with
  | nil => exact .inl ⟨nofun, rfl⟩
  | cons v rest ih =>
    have ih := ih fun u hu => each u (List.mem_cons_of_mem _ hu)
    rw [sentItems]
    rcases each v List.mem_cons_self with ⟨good, result⟩ | ⟨bad, fault, result⟩ <;> rw [result]
    · rcases ih with ⟨others, result⟩ | ⟨bad, fault, result⟩ <;> rw [result]
      · exact .inl ⟨List.forall_mem_cons.2 ⟨good, others⟩, rfl⟩
      · exact .inr ⟨fun h => bad (List.forall_mem_cons.1 h).2, fault, rfl⟩
    · exact .inr ⟨fun h => bad (h v List.mem_cons_self), fault, rfl⟩

theorem sentFields_cases {fields : List (Text × Json)}
    (each : ∀ f ∈ fields, Sends f.2 (sent f.2)) :
    (∀ f ∈ fields, f.1.Scalar ∧ f.2.Encodable) ∧
        sentFields fields = .ok (Json.nulledFields fields) ∨
      (¬∀ f ∈ fields, f.1.Scalar ∧ f.2.Encodable) ∧ ∃ fault, sentFields fields = .error fault := by
  induction fields with
  | nil => exact .inl ⟨nofun, rfl⟩
  | cons f rest ih =>
    obtain ⟨k, v⟩ := f
    have ih := ih fun f hf => each f (List.mem_cons_of_mem _ hf)
    rw [sentFields]
    rcases checkText_cases k with ⟨scalar, result⟩ | ⟨bad, fault, result⟩ <;> rw [result]
    · rcases each _ List.mem_cons_self with ⟨good, result⟩ | ⟨bad, fault, result⟩ <;> rw [result]
      · rcases ih with ⟨others, result⟩ | ⟨bad, fault, result⟩ <;> rw [result]
        · exact .inl ⟨List.forall_mem_cons.2 ⟨⟨scalar, good⟩, others⟩, rfl⟩
        · exact .inr ⟨fun h => bad (List.forall_mem_cons.1 h).2, fault, rfl⟩
      · exact .inr ⟨fun h => bad (h _ List.mem_cons_self).2, fault, rfl⟩
    · exact .inr ⟨fun h => bad (h _ List.mem_cons_self).1, fault, rfl⟩

/-- Every value is sent or refused as its texts and numbers say. -/
theorem sends (v : Json) : Sends v (sent v) := by
  induction v using Json.induction with
  | null => exact .inl ⟨.null, rfl⟩
  | bool b => exact .inl ⟨.bool b, rfl⟩
  | int n => exact .inl ⟨.int n, rfl⟩
  | float x => exact .inl ⟨.float trivial, rfl⟩
  | text t =>
    rw [sent]
    rcases checkText_cases t with ⟨scalar, checked⟩ | ⟨bad, fault, checked⟩ <;> rw [checked]
    · exact .inl ⟨.text scalar, rfl⟩
    · exact .inr ⟨fun h => bad (Json.encodable_text.1 h), fault, rfl⟩
  | list items each =>
    rw [Sends, Json.encodable_list, sent]
    rcases sentItems_cases each with ⟨good, result⟩ | ⟨bad, fault, result⟩ <;> rw [result]
    · exact .inl ⟨good, rfl⟩
    · exact .inr ⟨bad, fault, rfl⟩
  | object fields each =>
    rw [Sends, Json.encodable_object, sent]
    rcases sentFields_cases each with ⟨good, result⟩ | ⟨bad, fault, result⟩ <;> rw [result]
    · exact .inl ⟨good, rfl⟩
    · exact .inr ⟨bad, fault, rfl⟩

end Http

end TextAdventure
