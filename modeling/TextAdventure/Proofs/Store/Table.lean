import TextAdventure.Proofs.Store.Rows

/-! The laws of tables: what stands under a number after each operation. A record that is put back by
someone who holds it stands under its number, whatever has become of it in between. -/

namespace TextAdventure

/-! ### Numbers -/

namespace IdSequence

variable {ids ids' : IdSequence} {claim : Claim} {n : Int}

/-- A record's number comes before the next one, and so do the numbers from before it. -/
theorem of_assign (assigned : ids.assign claim = .ok (n, ids')) :
    n < ids'.next ∧ ids.next ≤ ids'.next := by
  cases claim with
  | unset =>
    obtain ⟨rfl, rfl⟩ := Prod.mk.inj (Except.ok.inj assigned)
    show _ < ids.next + 1 ∧ _ ≤ ids.next + 1
    omega
  | number k =>
    obtain ⟨rfl, rfl⟩ := Prod.mk.inj (Except.ok.inj assigned)
    show _ < max ids.next (k + 1) ∧ _ ≤ max ids.next (k + 1)
    omega
  | malformed => exact nomatch assigned

theorem lt_of_assign (assigned : ids.assign claim = .ok (n, ids')) : n < ids'.next :=
  (of_assign assigned).1

theorem next_le_of_assign (assigned : ids.assign claim = .ok (n, ids')) : ids.next ≤ ids'.next :=
  (of_assign assigned).2

end IdSequence

namespace Rows

variable {α : Type} {rows rows' : Rows α}

theorem Ascending.get?_of_lt {k : Int} {v : α} {rest : Rows α} (h : Ascending ((k, v) :: rest))
    {id : Int} (hid : id ≤ k) : get? id rest = none := by
  cases hg : get? id rest with
  | none => rfl
  | some value =>
    have hlt : k < id := (List.pairwise_cons.1 h).1 _ (mem_of_get? hg)
    omega

/-- Ascending rows are given by what stands under each number. -/
theorem Ascending.ext (h : Ascending rows) (h' : Ascending rows')
    (same : ∀ id, get? id rows = get? id rows') : rows = rows' := by
  induction rows generalizing rows' with
  | nil =>
    cases rows' with
    | nil => rfl
    | cons r rest => exact absurd (same r.1) (by simp [get?])
  | cons r rest ih =>
    obtain ⟨k, v⟩ := r
    cases rows' with
    | nil => exact absurd (same k) (by simp [get?])
    | cons r' rest' =>
      obtain ⟨l, u⟩ := r'
      have hk := same k
      have hl := same l
      have hkl : k = l := by
        rcases Int.lt_trichotomy k l with hlt | heq | hgt
        · rw [get?, if_pos rfl, get?, if_neg (by omega), h'.get?_of_lt (by omega)] at hk
          cases hk
        · exact heq
        · rw [get?, if_neg (by omega), h.get?_of_lt (by omega), get?, if_pos rfl] at hl
          cases hl
      subst hkl
      obtain rfl : v = u := by simpa [get?] using hk
      rw [ih (List.pairwise_cons.1 h).2 (List.pairwise_cons.1 h').2 fun id => ?_]
      by_cases hid : id = k
      · rw [h.get?_of_lt (by omega), h'.get?_of_lt (by omega)]
      · have := same id
        rwa [get?, if_neg (Ne.symm hid), get?, if_neg (Ne.symm hid)] at this

end Rows

namespace Table

variable {α : Type} {t : Table α} {id other : Int} {value : α}

@[simp] theorem get?_remove (t : Table α) (id other : Int) :
    (t.remove id).get? other = if other = id then none else t.get? other := by
  cases hid : t.get? id with
  | none =>
    have hsame : t.remove id = t := by simp [remove, hid]
    rw [hsame]
    split
    · rename_i h
      rw [h, hid]
    · rfl
  | some value =>
    have hrows : (t.remove id).rows = t.rows.erase id := by simp [remove, hid]
    unfold get?
    rw [hrows, Rows.get?_erase]

theorem get?_remove_eq_some {found : α} :
    (t.remove id).get? other = some found ↔ other ≠ id ∧ t.get? other = some found := by
  by_cases h : other = id <;> simp [h]

theorem ids_remove (t : Table α) (id : Int) : (t.remove id).ids = t.ids := by
  unfold remove
  split <;> rfl

theorem ascending_remove (h : t.rows.Ascending) (id : Int) : (t.remove id).rows.Ascending := by
  unfold remove
  split
  · exact h
  · exact h.erase id

theorem mem_remove {r : Int × α} (h : r ∈ (t.remove id).rows) : r ∈ t.rows := by
  unfold remove at h
  split at h
  · exact h
  · exact (List.mem_filter.1 h).1

theorem get?_removeAll (t : Table α) (ids : List Int) (other : Int) :
    (t.removeAll ids).get? other = if other ∈ ids then none else t.get? other := by
  induction ids generalizing t with
  | nil => simp [removeAll]
  | cons id rest ih =>
    have hcons : t.removeAll (id :: rest) = (t.remove id).removeAll rest := rfl
    rw [hcons, ih, get?_remove]
    by_cases h : other = id <;> simp [h]

theorem get?_removeAll_eq_some {ids : List Int} {found : α} :
    (t.removeAll ids).get? other = some found ↔ other ∉ ids ∧ t.get? other = some found := by
  by_cases h : other ∈ ids <;> simp [get?_removeAll, h]

theorem ascending_removeAll (h : t.rows.Ascending) (ids : List Int) :
    (t.removeAll ids).rows.Ascending := by
  induction ids generalizing t with
  | nil => exact h
  | cons id rest ih => exact ih (ascending_remove h id)

theorem mem_removeAll {r : Int × α} {ids : List Int} (h : r ∈ (t.removeAll ids).rows) :
    r ∈ t.rows := by
  induction ids generalizing t with
  | nil => exact h
  | cons id rest ih => exact mem_remove (ih h)

@[simp] theorem get?_place (t : Table α) (id : Int) (value : α) (other : Int) :
    (t.place id value).get? other = if other = id then some value else t.get? other := by
  have hplace : (t.place id value).get? other =
      Rows.get? other (Rows.insert id value (t.remove id).rows) := rfl
  rw [hplace, Rows.get?_insert]
  split
  · rfl
  · rename_i h
    exact (get?_remove t id other).trans (if_neg h)

theorem get?_place_eq_some {found : α} : (t.place id value).get? other = some found ↔
    other = id ∧ value = found ∨ other ≠ id ∧ t.get? other = some found := by
  by_cases h : other = id <;> simp [h]

/-- A record that is put under a free number leaves the others as they are. -/
theorem get?_place_of_free {found : α} (free : t.get? id = none)
    (there : t.get? other = some found) : (t.place id value).get? other = some found := by
  refine get?_place_eq_some.2 (.inr ⟨?_, there⟩)
  rintro rfl
  exact nomatch free.symm.trans there

theorem ids_place (t : Table α) (id : Int) (value : α) : (t.place id value).ids = t.ids :=
  ids_remove t id

theorem ascending_place (h : t.rows.Ascending) (id : Int) (value : α) :
    (t.place id value).rows.Ascending := (ascending_remove h id).insert id value

theorem mem_place {r : Int × α} (h : r ∈ (t.place id value).rows) : r = (id, value) ∨ r ∈ t.rows := by
  rcases Rows.mem_insert h with h | h
  · exact .inl h
  · exact .inr (mem_remove h)

@[simp] theorem get?_put (t : Table α) (id : Int) (value : α) (other : Int) :
    (t.put id value).get? other = if other = id then some value else t.get? other :=
  Rows.get?_insert id other value t.rows

theorem get?_put_eq_some {found : α} : (t.put id value).get? other = some found ↔
    other = id ∧ value = found ∨ other ≠ id ∧ t.get? other = some found := by
  by_cases h : other = id <;> simp [h]

theorem get?_revise (t : Table α) (f : Int → α → α) (id : Int) :
    (t.revise f).get? id = (t.get? id).map (f id) := Rows.get?_revise f id t.rows

theorem ascending_revise (h : t.rows.Ascending) (f : Int → α → α) :
    (t.revise f).rows.Ascending := h.revise f

/-- A record that is selected is found among the numbers that `f` gives to what is selected. -/
theorem mem_select_numbers {p : α → Bool} {f : Int × α → Int} (found : t.get? id = some value)
    (hp : p value = true) (number : f (id, value) = id) : id ∈ List.map f (t.select p) := by
  have hmem : (id, value) ∈ t.select p := List.mem_filter.2 ⟨Rows.mem_of_get? found, hp⟩
  exact List.mem_map.2 ⟨_, hmem, number⟩

/-- Where records go by the numbers that they stand under, the numbers that `f` gives to what is
selected are those of the records that satisfy `p`. -/
theorem mem_numbers_select (ascending : t.rows.Ascending) {f : Int × α → Int}
    (number : ∀ n v, t.get? n = some v → f (n, v) = n) (p : α → Bool) :
    id ∈ List.map f (t.select p) ↔ ∃ v, t.get? id = some v ∧ p v = true := by
  constructor
  · intro hid
    obtain ⟨⟨n, v⟩, hmem, rfl⟩ := List.mem_map.1 hid
    obtain ⟨found, hp⟩ := (ascending.mem_select p).1 hmem
    rw [number n v found]
    exact ⟨v, found, hp⟩
  · rintro ⟨v, found, hp⟩
    exact mem_select_numbers found hp (number id v found)

theorem select_put {p : α → Bool} (new : p value = false) (old : ∀ v ∈ t.get? id, p v = false) :
    (t.put id value).select p = t.select p := Rows.select_insert new old

theorem select_remove (ascending : t.rows.Ascending) {p : α → Bool}
    (old : ∀ v ∈ t.get? id, p v = false) : (t.remove id).select p = t.select p := by
  unfold remove
  split
  · rfl
  · exact ascending.select_erase old

theorem select_place (ascending : t.rows.Ascending) {p : α → Bool} (new : p value = false)
    (old : ∀ v ∈ t.get? id, p v = false) : (t.place id value).select p = t.select p := by
  have free : ∀ v ∈ (t.remove id).get? id, p v = false := by simp
  exact (Rows.select_insert new free).trans (select_remove ascending old)

/-- What has left a table has stood in it. -/
theorem mem_departed_remove {d : (Int × Nat) × α} (h : d ∈ (t.remove id).departed) :
    d ∈ t.departed ∨ t.get? id = some d.2 := by
  unfold remove at h
  split at h
  · exact .inl h
  · rename_i found
    rcases List.mem_cons.1 h with rfl | h
    · exact .inr found
    · exact .inl h

theorem mem_departed_removeAll {ids : List Int} {d : (Int × Nat) × α}
    (h : d ∈ (t.removeAll ids).departed) : d ∈ t.departed ∨ ∃ n, t.get? n = some d.2 := by
  induction ids generalizing t with
  | nil => exact .inl h
  | cons id rest ih =>
    rcases ih h with h | ⟨n, found⟩
    · exact (mem_departed_remove h).imp_right fun found => ⟨id, found⟩
    · exact .inr ⟨n, (get?_remove_eq_some.1 found).2⟩

/-- What a record is put under is the number it claims, or a new one. -/
theorem add_ok {claim : Claim} {t' : Table α} (h : t.add claim value = .ok (id, t')) :
    ∃ ids, t.ids.assign claim = .ok (id, ids) ∧ t' = { t.place id value with ids } := by
  unfold add at h
  cases hassign : t.ids.assign claim with
  | error e => simp [hassign] at h
  | ok assigned =>
    obtain ⟨n, ids⟩ := assigned
    simp only [hassign, Except.ok.injEq, Prod.mk.injEq] at h
    obtain ⟨rfl, rfl⟩ := h
    exact ⟨ids, rfl, rfl⟩

/-! ### Held records -/

/-- The record is held as the one under a number, or as a copy of its own. -/
def HeldAt (id : Int) (h : Held α) : Prop := h.place = none ∨ ∃ edition, h.place = some (id, edition)

/-- `t'` is `t` with a record under a number. -/
structure Stored (id : Int) (value : α) (t t' : Table α) : Prop where
  get? : ∀ other, t'.get? other = if other = id then some value else t.get? other
  ids : t'.ids = t.ids
  ascending : t.rows.Ascending → t'.rows.Ascending

theorem Stored.trans {t t' t'' : Table α} (h : Stored id value t t') (h' : Stored id value t' t'') :
    Stored id value t t'' := by
  refine ⟨fun other => ?_, h'.ids.trans h.ids, fun ha => h'.ascending (h.ascending ha)⟩
  rw [h'.get?, h.get?]
  split <;> rfl

theorem stored_put (t : Table α) (id : Int) (value : α) : Stored id value t (t.put id value) :=
  ⟨fun _ => get?_put t id value _, rfl, fun h => h.insert id value⟩

theorem stored_place (t : Table α) (id : Int) (value : α) : Stored id value t (t.place id value) :=
  ⟨fun _ => get?_place t id value _, ids_place t id value, fun h => ascending_place h id value⟩

/-- Sharing a record that is held as the one under a number changes no more than what stands there. -/
theorem share_cases (t : Table α) {h : Held α} (held : HeldAt id h) :
    Stored id h.value t (t.share h) ∨ (t.share h).rows = t.rows ∧ (t.share h).ids = t.ids := by
  unfold share
  rcases held with hnone | ⟨edition, hsome⟩
  · rw [hnone]
    exact .inr ⟨rfl, rfl⟩
  · rw [hsome]
    dsimp only
    split
    · exact .inl (stored_put t id h.value)
    · exact .inr ⟨rfl, rfl⟩

/-- Putting a record back stores it, and whoever does so holds it as the one that is stored. -/
theorem restore_stored (t : Table α) (id : Int) (h : Held α) :
    Stored id h.value t (t.restore id h).2 ∧ (t.restore id h).1.value = h.value ∧
      HeldAt id (t.restore id h).1 := by
  unfold restore
  split
  · rename_i there
    rw [Bool.and_eq_true, decide_eq_true_eq] at there
    exact ⟨stored_put t id h.value, rfl, .inr ⟨_, there.2⟩⟩
  · exact ⟨stored_place t id h.value, rfl, .inr ⟨_, rfl⟩⟩

/-- Sharing a record and putting it back stores it. -/
theorem share_restore (t : Table α) {h : Held α} (held : HeldAt id h) :
    Stored id h.value t ((t.share h).restore id h).2 := by
  have stored := (restore_stored (t.share h) id h).1
  rcases share_cases t held with shared | ⟨rows, ids⟩
  · exact shared.trans stored
  · refine ⟨fun other => ?_, stored.ids.trans ids, fun ha => stored.ascending (rows ▸ ha)⟩
    rw [stored.get?, Table.get?, rows]
    rfl

theorem edition_remove_of_ne (ne : other ≠ id) (t : Table α) :
    (t.remove id).edition other = t.edition other := by
  unfold remove
  split
  · rfl
  · simp [edition, Rows.get?_insert_of_ne ne]

/-- A held record that leaves is still known to whoever holds it. -/
theorem current_remove (t : Table α) (id : Int) (h : Held α) :
    (t.remove id).current h = t.current h := by
  cases found : t.get? id with
  | none => simp [remove, found]
  | some value =>
    have departed : (t.remove id).departed = ((id, t.edition id), value) :: t.departed := by
      simp [remove, found]
    unfold current
    cases h.place with
    | none => rfl
    | some place =>
      obtain ⟨n, e⟩ := place
      by_cases hn : n = id
      · subst hn
        by_cases he : e = t.edition n
        · simp [keeps, departed, found, he]
        · have other : ((n, e) == (n, t.edition n)) = false := by simp [he]
          simp [keeps, departed, found, Ne.symm he, List.lookup_cons, other]
      · have other : ((n, e) == (id, t.edition id)) = false := by simp [hn]
        simp [keeps, departed, hn, edition_remove_of_ne hn, List.lookup_cons, other]

theorem current_removeAll (t : Table α) (ids : List Int) (h : Held α) :
    (t.removeAll ids).current h = t.current h := by
  induction ids generalizing t with
  | nil => rfl
  | cons id rest ih => exact (ih (t.remove id)).trans (current_remove t id h)

end Table

end TextAdventure
