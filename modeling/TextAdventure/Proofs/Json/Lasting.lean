import TextAdventure.Proofs.Json.Reread

/-! Values that JSON text keeps as they are. Their texts hold no surrogates, the fields of an object
have names of their own, and each floating point number is the one that its digits name. -/

namespace TextAdventure

namespace Json

/-- A value that is read back as itself. -/
inductive Lasting : Json → Prop
  | null : Lasting .null
  | bool (b : Bool) : Lasting (.bool b)
  | int (n : Int) : Lasting (.int n)
  | float {x : Float} (same : rereadFloat x = x) : Lasting (.float x)
  | text {t : Text} (scalar : t.Scalar) : Lasting (.text t)
  | list {items : List Json} (each : ∀ v ∈ items, Lasting v) : Lasting (.list items)
  | object {fields : List (Text × Json)} (distinct : (fields.map (·.1)).Nodup)
      (scalar : ∀ f ∈ fields, f.1.Scalar) (each : ∀ f ∈ fields, Lasting f.2) :
      Lasting (.object fields)

end Json

namespace Fields

variable {key : Text} {value : Json} {fields done : Fields}

theorem set_of_not_mem (h : key ∉ fields.map (·.1)) :
    fields.set key value = fields ++ [(key, value)] := by
  induction fields with
  | nil => rfl
  | cons f rest ih =>
    obtain ⟨k, v⟩ := f
    rw [List.map_cons, List.mem_cons, not_or] at h
    rw [set, if_neg (Ne.symm h.1), ih h.2]
    rfl

theorem keys_set (key : Text) (value : Json) (fields : Fields) :
    (fields.set key value).map (·.1) =
      if key ∈ fields.map (·.1) then fields.map (·.1) else fields.map (·.1) ++ [key] := by
  induction fields with
  | nil => simp [set]
  | cons f rest ih =>
    obtain ⟨k, v⟩ := f
    rw [set]
    by_cases hk : k = key
    · simp [hk]
    · rw [if_neg hk, List.map_cons, ih]
      by_cases hm : key ∈ rest.map (·.1) <;> simp [hm, Ne.symm hk]

theorem nodup_set (h : (fields.map (·.1)).Nodup) (key : Text) (value : Json) :
    ((fields.set key value).map (·.1)).Nodup := by
  rw [keys_set]
  split
  · exact h
  · rename_i fresh
    refine List.nodup_append.2 ⟨h, by simp, ?_⟩
    rintro k hk l hl rfl
    rw [List.mem_singleton.1 hl] at hk
    exact fresh hk

theorem mem_set {f : Text × Json} (h : f ∈ fields.set key value) : f = (key, value) ∨ f ∈ fields := by
  induction fields with
  | nil => exact .inl (List.mem_singleton.1 h)
  | cons g rest ih =>
    obtain ⟨k, v⟩ := g
    rw [set] at h
    split at h
    · rename_i hk
      rw [← hk]
      exact (List.mem_cons.1 h).imp_right (List.mem_cons_of_mem _)
    · rcases List.mem_cons.1 h with rfl | h
      · exact .inr List.mem_cons_self
      · exact (ih h).imp_right (List.mem_cons_of_mem _)

theorem mem_of_get? (h : fields.get? key = some value) : (key, value) ∈ fields := by
  induction fields with
  | nil => exact nomatch h
  | cons f rest ih =>
    obtain ⟨k, v⟩ := f
    rw [get?] at h
    split at h
    · rename_i hk
      obtain rfl : v = value := Option.some.inj h
      rw [hk]
      exact List.mem_cons_self
    · exact List.mem_cons_of_mem _ (ih h)

end Fields

namespace Json

theorem rereadItems_same {items : List Json} (h : ∀ v ∈ items, v.reread = v) :
    rereadItems items = items := by
  induction items with
  | nil => rfl
  | cons v rest ih =>
    rw [rereadItems, h v List.mem_cons_self, ih fun u hu => h u (List.mem_cons_of_mem _ hu)]

/-- Fields with names of their own are read one after the other. -/
theorem rereadFields_same {fields done : Fields} (paired : ∀ f ∈ fields, f.1.paired = f.1)
    (each : ∀ f ∈ fields, f.2.reread = f.2) (distinct : ((done ++ fields).map (·.1)).Nodup) :
    rereadFields done fields = done ++ fields := by
  induction fields generalizing done with
  | nil => rw [rereadFields, List.append_nil]
  | cons f rest ih =>
    obtain ⟨k, v⟩ := f
    have hk : Text.paired k = k := paired _ List.mem_cons_self
    have hv : v.reread = v := each _ List.mem_cons_self
    have fresh : k ∉ done.map (·.1) := by
      intro hmem
      rw [List.map_append] at distinct
      exact (List.nodup_append.1 distinct).2.2 k hmem k (by simp) rfl
    have next : done ++ (k, v) :: rest = done ++ [(k, v)] ++ rest := by simp
    rw [rereadFields, hk, hv, Fields.set_of_not_mem fresh, next]
    rw [next] at distinct
    exact ih (fun f hf => paired f (List.mem_cons_of_mem _ hf))
      (fun f hf => each f (List.mem_cons_of_mem _ hf)) distinct

theorem Lasting.reread {v : Json} (h : v.Lasting) : v.reread = v := by
  induction h with
  | null => rfl
  | bool b => rfl
  | int n => rfl
  | float same => rw [Json.reread, same]
  | text scalar => rw [Json.reread, scalar.paired]
  | list each ih => rw [Json.reread, rereadItems_same ih]
  | @object fields distinct scalar each ih =>
    have same : rereadFields [] fields = [] ++ fields :=
      rereadFields_same (fun f hf => (scalar f hf).paired) ih distinct
    rw [Json.reread, same, List.nil_append]

/-! ### Fields of a lasting object -/

variable {fields : Fields} {key : Text} {value : Json}

theorem Lasting.get? (h : Lasting (.object fields)) (found : fields.get? key = some value) :
    value.Lasting := by
  cases h with
  | object distinct scalar each => exact each _ (Fields.mem_of_get? found)

theorem Lasting.set (h : Lasting (.object fields)) (scalarKey : key.Scalar) (hv : value.Lasting) :
    Lasting (.object (fields.set key value)) := by
  cases h with
  | object distinct scalar each =>
    refine .object (Fields.nodup_set distinct key value) (fun f hf => ?_) fun f hf => ?_
    · rcases Fields.mem_set hf with rfl | hf
      · exact scalarKey
      · exact scalar f hf
    · rcases Fields.mem_set hf with rfl | hf
      · exact hv
      · exact each f hf

theorem Lasting.erase (h : Lasting (.object fields)) (key : Text) :
    Lasting (.object (fields.erase key)) := by
  cases h with
  | object distinct scalar each =>
    have sub : List.Sublist (fields.erase key) fields := List.filter_sublist
    exact .object (distinct.sublist (sub.map _)) (fun f hf => scalar f (sub.subset hf))
      fun f hf => each f (sub.subset hf)

end Json

end TextAdventure
