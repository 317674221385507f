import TextAdventure.Error
import Mathlib.Control.Basic

/-! Results that may be errors: what they come from when there is none, and what they can be when there
is one. -/

namespace TextAdventure

theorem ok_of_bind {α β : Type} {x : Except Error α} {f : α → Except Error β} {b : β}
    (h : x >>= f = .ok b) : ∃ a, x = .ok a ∧ f a = .ok b := by
  cases x with
  | error e => exact nomatch h
  | ok a => exact ⟨a, rfl, h⟩

theorem error_of_bind {α β : Type} {x : Except Error α} {f : α → Except Error β} {e : Error}
    (h : x >>= f = .error e) : x = .error e ∨ ∃ a, x = .ok a ∧ f a = .error e := by
  cases x with
  | error e' => exact .inl (congrArg Except.error (Except.error.inj h))
  | ok a => exact .inr ⟨a, rfl, h⟩

theorem map_ok {ε α β : Type} {r : Except ε α} {f : α → β} {b : β} (h : r.map f = .ok b) :
    ∃ a, r = .ok a ∧ f a = b := by
  cases r with
  | error e => exact nomatch h
  | ok a => exact ⟨a, rfl, Except.ok.inj h⟩

theorem map_some_eq_ok {α : Type} {r : Except Error α} {a : α} :
    r.map some = .ok (some a) ↔ r = .ok a := by
  cases r <;> simp [Except.map]

/-- What a list of results that are all there consists of. -/
theorem mapM_ok {α β : Type} {f : α → Except Error β} {l : List α} {r : List β}
    (h : l.mapM f = .ok r) :
    (∀ b ∈ r, ∃ a ∈ l, f a = .ok b) ∧ ∀ a ∈ l, ∃ b ∈ r, f a = .ok b := by
  induction l generalizing r with
  | nil =>
    obtain rfl : [] = r := by simpa [pure, Except.pure] using h
    simp
  | cons a rest ih =>
    rw [List.mapM_cons] at h
    cases ha : f a with
    | error e => simp [ha, bind, Except.bind] at h
    | ok b =>
      cases hrest : rest.mapM f with
      | error e => simp [ha, hrest, bind, Except.bind] at h
      | ok s =>
        obtain rfl : b :: s = r := by
          simpa [ha, hrest, bind, Except.bind, pure, Except.pure] using h
        obtain ⟨back, forth⟩ := ih hrest
        refine ⟨fun c hc => ?_, fun c hc => ?_⟩
        · rcases List.mem_cons.1 hc with rfl | hc
          · exact ⟨a, by simp, ha⟩
          · obtain ⟨d, hd, hfd⟩ := back c hc
            exact ⟨d, List.mem_cons_of_mem _ hd, hfd⟩
        · rcases List.mem_cons.1 hc with rfl | hc
          · exact ⟨b, by simp, ha⟩
          · obtain ⟨d, hd, hfd⟩ := forth c hc
            exact ⟨d, List.mem_cons_of_mem _ hd, hfd⟩

/-- A list of results is all there if each of them is. -/
theorem mapM_ok_iff {α β : Type} {f : α → Except Error β} {l : List α} :
    (∃ r, l.mapM f = .ok r) ↔ ∀ a ∈ l, ∃ b, f a = .ok b := by
  refine ⟨fun ⟨r, h⟩ a ha => ?_, fun h => ?_⟩
  · obtain ⟨b, -, hb⟩ := (mapM_ok h).2 a ha
    exact ⟨b, hb⟩
  · induction l with
    | nil => exact ⟨[], rfl⟩
    | cons a rest ih =>
      obtain ⟨b, hb⟩ := h a List.mem_cons_self
      obtain ⟨s, hs⟩ := ih fun c hc => h c (List.mem_cons_of_mem _ hc)
      rw [List.mapM_cons, hb]
      refine ⟨b :: s, ?_⟩
      show (do pure (b :: (← rest.mapM f))) = _
      rw [hs]
      rfl

/-- What the results of a list are, if it is known what each of them is. -/
theorem mapM_all {α β : Type} {f : α → Except Error β} {g : α → β} {l : List α}
    (h : ∀ a ∈ l, f a = .ok (g a)) : l.mapM f = .ok (l.map g) := by
  induction l with
  | nil => rfl
  | cons a rest ih =>
    rw [List.mapM_cons, h a List.mem_cons_self, ih fun b hb => h b (List.mem_cons_of_mem _ hb)]
    rfl

/-- If this fails, then with an error that `P` knows. -/
def FailsWith {α : Type} (P : Error → Prop) (r : Except Error α) : Prop := ∀ e, r = .error e → P e

namespace FailsWith

variable {α β : Type} {P P' : Error → Prop} {r : Except Error α} {f : α → Except Error β}

theorem ok (a : α) : FailsWith P (.ok a : Except Error α) := fun _ h => nomatch h

theorem error {e : Error} (h : P e) : FailsWith P (.error e : Except Error α) := by
  intro e' same
  rw [← Except.error.inj same]
  exact h

theorem mono (h : FailsWith P r) (le : ∀ e, P e → P' e) : FailsWith P' r :=
  fun e failed => le e (h e failed)

theorem bind (h : FailsWith P r) (hf : ∀ a, FailsWith P (f a)) : FailsWith P (r >>= f) := by
  cases r with
  | error e => exact .error (h e rfl)
  | ok a => exact hf a

theorem map (h : FailsWith P r) (g : α → β) : FailsWith P (r.map g) := by
  cases r with
  | error e => exact .error (h e rfl)
  | ok a => exact .ok _

theorem mapM {l : List α} (hf : ∀ a ∈ l, FailsWith P (f a)) : FailsWith P (l.mapM f) := by
  induction l with
  | nil => exact .ok _
  | cons a rest ih =>
    rw [List.mapM_cons]
    exact .bind (hf a List.mem_cons_self) fun _ =>
      .bind (ih fun b hb => hf b (.tail _ hb)) fun _ => .ok _

theorem filterMapM {l : List α} {f : α → Except Error (Option β)} (hf : ∀ a ∈ l, FailsWith P (f a)) :
    FailsWith P (l.filterMapM f) := by
  induction l with
  | nil => exact .ok _
  | cons a rest ih =>
    have onward := ih fun b hb => hf b (.tail _ hb)
    rw [List.filterMapM_cons]
    refine .bind (hf a List.mem_cons_self) fun found => ?_
    cases found with
    | none => exact onward
    | some b => exact .bind onward fun _ => .ok _

end FailsWith

end TextAdventure
