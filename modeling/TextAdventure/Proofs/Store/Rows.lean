import TextAdventure.Store.Table

/-! The laws of rows: what stands under a number after each change, and that rows in ascending order
hold exactly the records that are found under their numbers. -/

namespace TextAdventure.Rows

variable {α : Type} {id other : Int} {value : α} {rows : Rows α}

@[simp] theorem get?_nil (id : Int) : get? id ([] : Rows α) = none := rfl

@[simp] theorem get?_insert_self (id : Int) (value : α) (rows : Rows α) :
    get? id (insert id value rows) = some value := by
  induction rows with
  | nil => simp [insert, get?]
  | cons r rest ih =>
    obtain ⟨k, v⟩ := r
    simp only [insert]
    split
    · simp [get?]
    · split
      · simp [get?]
      · rename_i hne
        simp [get?, Ne.symm hne, ih]

theorem get?_insert_of_ne (h : other ≠ id) (value : α) (rows : Rows α) :
    get? other (insert id value rows) = get? other rows := by
  induction rows with
  | nil => simp [insert, get?, Ne.symm h]
  | cons r rest ih =>
    obtain ⟨k, v⟩ := r
    simp only [insert]
    split
    · simp [get?, Ne.symm h]
    · split
      · rename_i heq
        subst heq
        simp [get?, Ne.symm h]
      · simp [get?, ih]

theorem get?_insert (id other : Int) (value : α) (rows : Rows α) :
    get? other (insert id value rows) = if other = id then some value else get? other rows := by
  split
  · rename_i h
    rw [h, get?_insert_self]
  · rename_i h
    exact get?_insert_of_ne h value rows

theorem get?_erase (id other : Int) (rows : Rows α) :
    get? other (erase id rows) = if other = id then none else get? other rows := by
  induction rows with
  | nil => simp [erase]
  | cons r rest ih =>
    obtain ⟨k, v⟩ := r
    by_cases hk : k = id
    · subst hk
      have hskip : erase k ((k, v) :: rest) = erase k rest := by simp [erase]
      rw [hskip, ih]
      by_cases ho : k = other
      · simp [ho]
      · simp [get?, ho, Ne.symm ho]
    · have hkeep : erase id ((k, v) :: rest) = (k, v) :: erase id rest := by simp [erase, hk]
      rw [hkeep]
      simp only [get?, ih]
      by_cases ho : k = other
      · subst ho
        simp [hk]
      · simp [ho]

theorem get?_revise (f : Int → α → α) (id : Int) (rows : Rows α) :
    get? id (revise f rows) = (get? id rows).map (f id) := by
  induction rows with
  | nil => rfl
  | cons r rest ih =>
    obtain ⟨k, v⟩ := r
    have hcons : revise f ((k, v) :: rest) = (k, f k v) :: revise f rest := rfl
    rw [hcons]
    by_cases hk : k = id
    · subst hk
      simp [get?]
    · simp [get?, hk, ih]

/-- Storing a record twice is storing it once. -/
@[simp] theorem insert_insert (id : Int) (old value : α) (rows : Rows α) :
    insert id value (insert id old rows) = insert id value rows := by
  induction rows with
  | nil => simp [insert]
  | cons r rest ih =>
    obtain ⟨k, v⟩ := r
    simp only [insert]
    split
    · simp [insert]
    · split
      · simp [insert]
      · rename_i hlt hne
        simp [insert, hlt, hne, ih]

/-! ### Ascending rows -/

/-- The numbers go up, and none stands twice. -/
def Ascending (rows : Rows α) : Prop := rows.Pairwise fun a b => a.1 < b.1

theorem mem_of_get? (h : get? id rows = some value) : (id, value) ∈ rows := by
  induction rows with
  | nil => simp at h
  | cons r rest ih =>
    obtain ⟨k, v⟩ := r
    simp only [get?] at h
    split at h
    · rename_i hk
      obtain rfl : v = value := by simpa using h
      simp [hk]
    · exact List.mem_cons_of_mem _ (ih h)

theorem Ascending.get?_of_mem (ha : Ascending rows) (h : (id, value) ∈ rows) :
    get? id rows = some value := by
  induction rows with
  | nil => simp at h
  | cons r rest ih =>
    obtain ⟨k, v⟩ := r
    obtain ⟨hfirst, hrest⟩ := List.pairwise_cons.1 ha
    rcases List.mem_cons.1 h with heq | hmem
    · obtain ⟨rfl, rfl⟩ := Prod.mk.inj heq
      simp [get?]
    · have hlt : k < id := hfirst _ hmem
      simp only [get?]
      rw [if_neg (by omega)]
      exact ih hrest hmem

theorem Ascending.mem_iff (ha : Ascending rows) : (id, value) ∈ rows ↔ get? id rows = some value :=
  ⟨ha.get?_of_mem, mem_of_get?⟩

theorem mem_insert {r : Int × α} (h : r ∈ insert id value rows) : r = (id, value) ∨ r ∈ rows := by
  induction rows with
  | nil => simpa [insert] using h
  | cons q rest ih =>
    obtain ⟨k, v⟩ := q
    simp only [insert] at h
    split at h
    · simpa using h
    · split at h
      · rcases List.mem_cons.1 h with h | h
        · exact .inl h
        · exact .inr (List.mem_cons_of_mem _ h)
      · rcases List.mem_cons.1 h with h | h
        · exact .inr (by simp [h])
        · exact (ih h).imp_right (List.mem_cons_of_mem _)

theorem Ascending.insert (ha : Ascending rows) (id : Int) (value : α) :
    Ascending (rows.insert id value) := by
  induction rows with
  | nil => simp [Rows.insert, Ascending]
  | cons r rest ih =>
    obtain ⟨k, v⟩ := r
    obtain ⟨hfirst, hrest⟩ := List.pairwise_cons.1 ha
    simp only [Rows.insert]
    split
    · rename_i hlt
      refine List.pairwise_cons.2 ⟨fun r hr => ?_, ha⟩
      rcases List.mem_cons.1 hr with rfl | hr
      · exact hlt
      · exact Int.lt_trans hlt (hfirst r hr)
    · split
      · rename_i heq
        subst heq
        exact List.pairwise_cons.2 ⟨hfirst, hrest⟩
      · rename_i hlt hne
        refine List.pairwise_cons.2 ⟨fun r hr => ?_, ih hrest⟩
        rcases mem_insert hr with rfl | hr
        · show k < id
          omega
        · exact hfirst r hr

theorem Ascending.erase (ha : Ascending rows) (id : Int) : Ascending (rows.erase id) :=
  List.Pairwise.filter _ ha

theorem Ascending.revise (ha : Ascending rows) (f : Int → α → α) : Ascending (rows.revise f) :=
  List.pairwise_map.2 ha

theorem Ascending.mem_select (ha : Ascending rows) (p : α → Bool) :
    (id, value) ∈ rows.select p ↔ get? id rows = some value ∧ p value = true := by
  rw [select, List.mem_filter, ha.mem_iff]

/-! ### What is selected -/

/-- A record that is not selected may come, or take the place of another that is not. -/
theorem select_insert {p : α → Bool} (new : p value = false)
    (old : ∀ v ∈ get? id rows, p v = false) : (insert id value rows).select p = rows.select p := by
  induction rows with
  | nil => simp [insert, select, new]
  | cons r rest ih =>
    obtain ⟨k, v⟩ := r
    rw [insert]
    split
    · simp [select, new]
    split
    · rename_i same
      have gone : p v = false := old v (if_pos same.symm)
      simp [select, new, gone]
    · rename_i ne
      have rest' := ih fun u hu => old u (by rw [get?, if_neg (Ne.symm ne)]; exact hu)
      simp only [select, List.filter_cons] at rest' ⊢
      rw [rest']

/-- A record that is not selected may go. -/
theorem Ascending.select_erase (ha : Ascending rows) {p : α → Bool}
    (old : ∀ v ∈ get? id rows, p v = false) : (rows.erase id).select p = rows.select p := by
  simp only [select, Rows.erase, List.filter_filter]
  refine List.filter_congr fun r hr => ?_
  by_cases same : r.1 = id
  · have gone : p r.2 = false := old r.2 (same ▸ ha.get?_of_mem hr)
    simp [gone]
  · simp [same]

end TextAdventure.Rows
