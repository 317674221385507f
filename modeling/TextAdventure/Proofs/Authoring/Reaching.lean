import Mathlib.Data.Finset.Card
import Mathlib.Data.Finset.Dedup
import Mathlib.Data.Finset.SDiff
import Mathlib.Logic.Relation
import TextAdventure.Authoring.Includes

/-! Where include edges lead. The search for a script finds it exactly when edges lead there, on
every graph: it visits no script twice, and stops when every script that it has seen was visited. -/

namespace TextAdventure.Includes

variable {s : Includes} {a b target : Int} {edges : List Include} {pending seen : List Int}

/-- An edge leads from one script to another. -/
def Joins (s : Includes) (a b : Int) : Prop := ∃ e ∈ s.edges, e.including = a ∧ e.included = b

theorem mem_includesOf {e : Include} : e ∈ s.includesOf a ↔ e ∈ s.edges ∧ e.including = a := by
  simp [includesOf]

/-! ### Finding the ends of edges -/

/-- A script is seen once an edge leads to it. -/
theorem mem_discover_seen : a ∈ (discover edges (pending, seen)).2 ↔
    a ∈ seen ∨ ∃ e ∈ edges, e.included = a := by
  induction edges generalizing pending seen with
  | nil => simp [discover]
  | cons edge rest ih =>
    rw [discover]
    split
    · rename_i known
      have known : edge.included ∈ seen := List.contains_iff_mem.1 known
      rw [ih]
      constructor
      · rintro (h | ⟨e, he, rfl⟩)
        · exact .inl h
        · exact .inr ⟨e, List.mem_cons_of_mem _ he, rfl⟩
      · rintro (h | ⟨e, he, rfl⟩)
        · exact .inl h
        · rcases List.mem_cons.1 he with rfl | he
          · exact .inl known
          · exact .inr ⟨e, he, rfl⟩
    · rw [ih]
      simp only [List.mem_cons, exists_eq_or_imp, eq_comm (a := edge.included)]
      tauto

/-- It is to be visited if it was not seen before. -/
theorem mem_discover_pending : a ∈ (discover edges (pending, seen)).1 ↔
    a ∈ pending ∨ a ∉ seen ∧ ∃ e ∈ edges, e.included = a := by
  induction edges generalizing pending seen with
  | nil => simp [discover]
  | cons edge rest ih =>
    rw [discover]
    split
    · rename_i known
      have known : edge.included ∈ seen := List.contains_iff_mem.1 known
      rw [ih]
      simp only [List.mem_cons, exists_eq_or_imp]
      refine or_congr_right (and_congr_right fun unseen => ?_)
      rw [or_iff_right]
      rintro rfl
      exact unseen known
    · rename_i unknown
      have unknown : edge.included ∉ seen := fun h => unknown (List.contains_iff_mem.2 h)
      rw [ih]
      simp only [List.mem_cons, exists_eq_or_imp]
      by_cases ha : edge.included = a
      · subst ha
        simp [unknown]
      · simp [ha, Ne.symm ha]

/-- What is to be visited grows by as many scripts as are seen for the first time. -/
theorem length_discover {ends : Finset Int} (within : ∀ e ∈ edges, e.included ∈ ends)
    (pending seen : List Int) :
    (discover edges (pending, seen)).1.length +
        (ends \ (discover edges (pending, seen)).2.toFinset).card =
      pending.length + (ends \ seen.toFinset).card := by
  induction edges generalizing pending seen with
  | nil => rfl
  | cons edge rest ih =>
    have later : ∀ e ∈ rest, e.included ∈ ends := fun e he => within e (List.mem_cons_of_mem _ he)
    rw [discover]
    split
    · exact ih later pending seen
    · rename_i unknown
      have first : edge.included ∈ ends \ seen.toFinset := by
        rw [Finset.mem_sdiff, List.mem_toFinset, ← List.contains_iff_mem]
        exact ⟨within edge List.mem_cons_self, unknown⟩
      have fewer : ends \ (edge.included :: seen).toFinset =
          (ends \ seen.toFinset).erase edge.included := by
        rw [List.toFinset_cons, Finset.sdiff_insert]
      rw [ih later, fewer, List.length_cons, ← Finset.card_erase_add_one first]
      omega

/-! ### The search -/

/-- What the search keeps to. A script that has been visited is not the one sought, and all scripts
that it includes have been seen. -/
structure Searching (s : Includes) (target : Int) (pending seen : List Int) : Prop where
  known : ∀ a ∈ pending, a ∈ seen
  visited : ∀ a ∈ seen, a ∉ pending → a ≠ target ∧ ∀ b, s.Joins a b → b ∈ seen

/-- From what has been seen, the target can only be reached by way of what is to be visited. -/
theorem Searching.exists_pending (h : Searching s target pending seen) (ha : a ∈ seen)
    (leads : Relation.ReflTransGen s.Joins a target) :
    ∃ b ∈ pending, Relation.ReflTransGen s.Joins b target := by
  induction leads using Relation.ReflTransGen.head_induction_on with
  | refl =>
    by_contra none
    exact (h.visited target ha fun hp => none ⟨target, hp, .refl⟩).1 rfl
  | @head a b first rest ih =>
    by_cases hp : a ∈ pending
    · exact ⟨a, hp, .head first rest⟩
    · exact ih ((h.visited a ha hp).2 b first)

/-- Visiting a script that is not the one sought. -/
theorem Searching.visit (h : Searching s target (a :: pending) seen) (other : a ≠ target) :
    Searching s target (discover (s.includesOf a) (pending, seen)).1
      (discover (s.includesOf a) (pending, seen)).2 := by
  refine ⟨fun b hb => ?_, fun b hb hp => ?_⟩
  · rw [mem_discover_seen]
    rcases mem_discover_pending.1 hb with hb | hb
    · exact .inl (h.known b (List.mem_cons_of_mem _ hb))
    · exact .inr hb.2
  · rw [mem_discover_pending, not_or] at hp
    have old : b ∈ seen := by
      by_contra new
      exact hp.2 ⟨new, (mem_discover_seen.1 hb).resolve_left new⟩
    by_cases hba : b = a
    · subst hba
      refine ⟨other, fun c ⟨e, he, hincluding, hincluded⟩ => ?_⟩
      exact mem_discover_seen.2 (.inr ⟨e, mem_includesOf.2 ⟨he, hincluding⟩, hincluded⟩)
    · have left : b ∉ a :: pending := fun hmem => (List.mem_cons.1 hmem).elim hba hp.1
      obtain ⟨ne, next⟩ := h.visited b old left
      exact ⟨ne, fun c hc => mem_discover_seen.2 (.inl (next c hc))⟩

/-- The ends of all edges. -/
def ends (s : Includes) : Finset Int := (s.edges.map (·.included)).toFinset

/-- With steps for all that is to be visited and all that is still unseen, the search finds the
target exactly when edges lead there from what is to be visited. -/
theorem search_iff {fuel : Nat} (h : Searching s target pending seen)
    (enough : pending.length + (s.ends \ seen.toFinset).card ≤ fuel) :
    s.search target fuel (pending, seen) = true ↔
      ∃ a ∈ pending, Relation.ReflTransGen s.Joins a target := by
  induction fuel generalizing pending seen with
  | zero =>
    obtain rfl : pending = [] := List.length_eq_zero_iff.1 (by omega)
    simp [search]
  | succ fuel ih =>
    cases pending with
    | nil => simp [search]
    | cons current rest =>
      rw [search, Bool.or_eq_true, decide_eq_true_eq]
      by_cases found : current = target
      · subst found
        exact iff_of_true (.inl rfl) ⟨current, List.mem_cons_self, .refl⟩
      have within : ∀ e ∈ s.includesOf current, e.included ∈ s.ends := fun e he =>
        List.mem_toFinset.2 (List.mem_map.2 ⟨e, (mem_includesOf.1 he).1, rfl⟩)
      have measure := length_discover within rest seen
      rw [List.length_cons] at enough
      -- By `length_discover` a visit uses up one step: what it finds is unseen no longer.
      have next := h.visit found
      rw [or_iff_right found, ih next (by rw [measure]; omega)]
      constructor
      · rintro ⟨a, ha, leads⟩
        rcases mem_discover_pending.1 ha with ha | ⟨-, e, he, rfl⟩
        · exact ⟨a, List.mem_cons_of_mem _ ha, leads⟩
        · obtain ⟨stored, hincluding⟩ := mem_includesOf.1 he
          exact ⟨current, List.mem_cons_self, .head ⟨e, stored, hincluding, rfl⟩ leads⟩
      · rintro ⟨a, ha, leads⟩
        exact next.exists_pending (mem_discover_seen.2 (.inl (h.known a ha))) leads

/-- Edges lead from one script to another exactly when the search says so. -/
theorem reaches_iff : s.reaches a target = true ↔ Relation.ReflTransGen s.Joins a target := by
  have start : Searching s target [a] [a] := ⟨fun b hb => hb, fun b hb hp => absurd hb hp⟩
  have few : (s.ends \ [a].toFinset).card ≤ s.edges.length :=
    calc (s.ends \ [a].toFinset).card ≤ s.ends.card := Finset.card_le_card Finset.sdiff_subset
      _ ≤ (s.edges.map (·.included)).length := List.toFinset_card_le _
      _ = s.edges.length := List.length_map _
  unfold reaches
  rw [search_iff start (by rw [List.length_singleton]; omega)]
  simp

end TextAdventure.Includes
