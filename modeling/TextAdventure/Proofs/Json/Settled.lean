import Mathlib.Data.List.Chain
import TextAdventure.Proofs.Json.Lasting
import TextAdventure.Proofs.Json.OnLines

/-! Values as reading makes them: surrogates that form a pair have become one code point, the fields
of an object have names of their own, and integers are not too long to be written. Such a value can
be written, and is read as itself as far as its floating point numbers are. -/

namespace TextAdventure

/-- No high surrogate stands right before a low one. -/
def Text.Unpaired (t : Text) : Prop := t.IsChain fun c d => ¬(c.isHigh = true ∧ d.isLow = true)

instance (t : Text) : Decidable (Text.Unpaired t) := inferInstanceAs (Decidable (List.IsChain _ t))

theorem Text.Unpaired.paired {t : Text} (h : t.Unpaired) : t.paired = t := by
  fun_induction Text.paired t with
  | case1 => rfl
  | case2 => rfl
  | case3 c d rest hpair ih =>
    rw [Bool.and_eq_true] at hpair
    exact absurd hpair (List.isChain_cons_cons.1 h).1
  | case4 c d rest hpair ih => rw [ih (List.isChain_cons_cons.1 h).2]

/-- A text that grows at its end stays without pairs if none is made there. -/
theorem Text.Unpaired.grow {done : Text} {c : CodePoint} (h : Unpaired done.reverse)
    (apart : ∀ d ∈ done.head?, d.isHigh = true → c.isLow = false) :
    Unpaired (c :: done).reverse := by
  rw [List.reverse_cons, Unpaired, List.isChain_append]
  refine ⟨h, .singleton c, fun d hd e he pair => ?_⟩
  rw [List.getLast?_reverse] at hd
  obtain rfl : c = e := by simpa using he
  exact Bool.false_ne_true ((apart d hd pair.1).symm.trans pair.2)

theorem Text.Scalar.of_suffix {t u : Text} (h : t.Scalar) (suffix : u <:+ t) : u.Scalar :=
  fun c hc => h c (suffix.subset hc)

namespace CodePoint

/-- What is no surrogate is neither a high nor a low one. -/
theorem plain_of_scalar {c : CodePoint} (h : c.isSurrogate = false) :
    c.isHigh = false ∧ c.isLow = false := by
  simp only [isSurrogate, isHigh, isLow, Bool.and_eq_false_iff, decide_eq_false_iff_not] at h ⊢
  omega

theorem isHigh_ofNat {n : Nat} : (ofNat n).isHigh = true ↔ 0xD800 ≤ n ∧ n < 0xDC00 := by
  simp only [isHigh, Bool.and_eq_true, decide_eq_true_eq]
  by_cases h : n < 0x110000
  · rw [val_ofNat h]
  · have hval : (ofNat n).val = 0xFFFD := by simp [ofNat, h]
    omega

theorem isLow_ofNat {n : Nat} : (ofNat n).isLow = true ↔ 0xDC00 ≤ n ∧ n < 0xE000 := by
  simp only [isLow, Bool.and_eq_true, decide_eq_true_eq]
  by_cases h : n < 0x110000
  · rw [val_ofNat h]
  · have hval : (ofNat n).val = 0xFFFD := by simp [ofNat, h]
    omega

end CodePoint

namespace Json

/-- All floating point numbers of the value satisfy `float`. -/
inductive Settled (float : Float → Prop) : Json → Prop
  | null : Settled float .null
  | bool (b : Bool) : Settled float (.bool b)
  | int {n : Int} (short : isLong n = false) : Settled float (.int n)
  | float {x : Float} (holds : float x) : Settled float (.float x)
  | text {t : Text} (unpaired : t.Unpaired) : Settled float (.text t)
  | list {items : List Json} (each : ∀ v ∈ items, Settled float v) : Settled float (.list items)
  | object {fields : List (Text × Json)} (distinct : (fields.map (·.1)).Nodup)
      (unpaired : ∀ f ∈ fields, f.1.Unpaired) (each : ∀ f ∈ fields, Settled float f.2) :
      Settled float (.object fields)

mutual

/-- The floating point numbers in a value. -/
def floats : Json → List Float
  | float x => [x]
  | list items => itemFloats items
  | object fields => fieldFloats fields
  | _ => []

def itemFloats : List Json → List Float
  | [] => []
  | v :: rest => floats v ++ itemFloats rest

def fieldFloats : List (Text × Json) → List Float
  | [] => []
  | (_, v) :: rest => floats v ++ fieldFloats rest

end

theorem mem_itemFloats {x : Float} {items : List Json} :
    x ∈ itemFloats items ↔ ∃ v ∈ items, x ∈ v.floats := by
  induction items with
  | nil => simp [itemFloats]
  | cons v rest ih => simp [itemFloats, ih]

theorem mem_fieldFloats {x : Float} {fields : List (Text × Json)} :
    x ∈ fieldFloats fields ↔ ∃ f ∈ fields, x ∈ f.2.floats := by
  induction fields with
  | nil => simp [fieldFloats]
  | cons f rest ih => simp [fieldFloats, ih]

theorem areWritable_iff {items : List Json} :
    areWritable items = true ↔ ∀ v ∈ items, isWritable v = true := by
  induction items with
  | nil => simp [areWritable]
  | cons v rest ih => rw [areWritable_cons, ih, List.forall_mem_cons]

theorem haveWritable_iff {fields : List (Text × Json)} :
    haveWritable fields = true ↔ ∀ f ∈ fields, isWritable f.2 = true := by
  induction fields with
  | nil => simp [haveWritable]
  | cons f rest ih => rw [haveWritable_cons, ih, List.forall_mem_cons]

namespace Settled

variable {float holds : Float → Prop} {v : Json}

/-- What is known of each floating point number of a settled value is known of the value. -/
theorem of_floats (h : v.Settled float) (each : ∀ x ∈ v.floats, holds x) : v.Settled holds := by
  induction h with
  | null => exact .null
  | bool b => exact .bool b
  | int short => exact .int short
  | float _ => exact .float (each _ (by simp [floats]))
  | text unpaired => exact .text unpaired
  | list _ ih =>
    refine .list fun u hu => ih u hu fun x hx => each x ?_
    rw [floats, mem_itemFloats]
    exact ⟨u, hu, hx⟩
  | object distinct unpaired _ ih =>
    refine .object distinct unpaired fun f hf => ih f hf fun x hx => each x ?_
    rw [floats, mem_fieldFloats]
    exact ⟨f, hf, hx⟩

theorem writable (h : v.Settled float) : v.isWritable = true := by
  induction h with
  | null | bool | float | text => rfl
  | int short => rw [isWritable, short, Bool.not_false]
  | list _ ih =>
    rw [isWritable, areWritable_iff]
    exact ih
  | object _ _ _ ih =>
    rw [isWritable, haveWritable_iff]
    exact ih

theorem reread (h : v.Settled fun x => rereadFloat x = x) : v.reread = v := by
  induction h with
  | null => rfl
  | bool b => rfl
  | int _ => rfl
  | float same => rw [Json.reread, same]
  | text unpaired => rw [Json.reread, unpaired.paired]
  | list each ih => rw [Json.reread, rereadItems_same ih]
  | @object fields distinct unpaired each ih =>
    have same : rereadFields [] fields = [] ++ fields :=
      rereadFields_same (fun f hf => (unpaired f hf).paired) ih distinct
    rw [Json.reread, same, List.nil_append]

/-- A settled value is written, and read as itself. -/
theorem read_written (h : v.Settled fun x => rereadFloat x = x) :
    v.written = .ok v.compact ∧ read v.compact = .ok v := by
  refine ⟨if_pos h.writable, ?_⟩
  rw [read_compact h.writable, h.reread]

end Settled

end Json

end TextAdventure
