import Mathlib.Data.List.Pairwise
import TextAdventure.Proofs.Authoring.Including
import TextAdventure.Script.Flatten

/-! Include edges are told by what they are, and not by how they came to be there. Listings put them
into one order, whatever the order in which they were added, replaced and removed; so histories that
end in the same edges give the same listings and the same includes of every script. -/

namespace TextAdventure

namespace Includes

variable {s s' : Includes} {script : Int} {a b : Include}

/-- What changes the edges of a store. -/
inductive Edit where
  | add (edge : Include)
  | remove (including included : Int)
  | removeScript (script : Int)

/-- The store that an edit leaves. -/
def edit (s : Includes) : Edit → Includes
  | .add edge => s.add edge
  | .remove including included => s.remove including included
  | .removeScript script => s.removeScript script

/-- The store that a sequence of edits makes of an empty one. -/
def history (edits : List Edit) : Includes := edits.foldl edit {}

/-! ### Edges as a set -/

theorem Distinct.edit (distinct : s.Distinct) (e : Edit) : (s.edit e).Distinct := by
  cases e with
  | add edge => exact distinct.add edge
  | remove including included => exact distinct.sublist List.filter_sublist
  | removeScript script => exact distinct.sublist List.filter_sublist

theorem distinct_foldl_edit (distinct : s.Distinct) (edits : List Edit) :
    (edits.foldl edit s).Distinct := by
  induction edits generalizing s with
  | nil => exact distinct
  | cons e rest ih => exact ih (distinct.edit e)

theorem distinct_history (edits : List Edit) : (history edits).Distinct :=
  distinct_foldl_edit .nil edits

theorem Distinct.eq_of_sameEnds (distinct : s.Distinct) (ha : a ∈ s.edges) (hb : b ∈ s.edges)
    (same : sameEnds a b = true) : a = b := by
  have : Std.Symm fun a b : Include => sameEnds a b = false := by
    refine ⟨fun a b h => ?_⟩
    rw [Bool.eq_false_iff, ne_eq, sameEnds_iff] at h ⊢
    exact fun back => h ⟨back.1.symm, back.2.symm⟩
  refine Classical.byContradiction fun ne => ?_
  exact Bool.false_ne_true ((List.Pairwise.forall distinct ha hb ne).symm.trans same)

theorem Distinct.nodup (distinct : s.Distinct) : s.edges.Nodup := by
  refine List.Pairwise.imp (fun {a b} h => ?_) distinct
  rintro rfl
  exact Bool.false_ne_true (h.symm.trans (sameEnds_iff.2 ⟨rfl, rfl⟩))

theorem Distinct.perm (distinct : s.Distinct) (distinct' : s'.Distinct)
    (same : ∀ e, e ∈ s.edges ↔ e ∈ s'.edges) : s.edges.Perm s'.edges :=
  (List.perm_ext_iff_of_nodup distinct.nodup distinct'.nodup).2 same

/-! ### Listings -/

/-- The same edges in another order are sorted into one order, if no two of them have the same
rank. -/
theorem mergeSort_eq_of_perm {edges edges' : List Include} {le : Include → Include → Bool}
    (trans : ∀ a b c, le a b = true → le b c = true → le a c = true)
    (total : ∀ a b, (le a b || le b a) = true) (perm : edges.Perm edges')
    (ranked : ∀ a ∈ edges, ∀ b ∈ edges, le a b = true → le b a = true → a = b) :
    edges.mergeSort le = edges'.mergeSort le := by
  have sorted := List.pairwise_mergeSort trans total
  refine List.Perm.eq_of_pairwise (fun a b ha hb => ?_) (sorted edges) (sorted edges') ?_
  · exact ranked a (List.mem_mergeSort.1 ha) b (perm.mem_iff.2 (List.mem_mergeSort.1 hb))
  · exact ((List.mergeSort_perm _ _).trans perm).trans (List.mergeSort_perm _ _).symm

/-- Edges that leave one script rank by their order and by where they lead, which is all that there
is to them. -/
theorem includesOf_eq_of_perm (perm : s.edges.Perm s'.edges) (script : Int) :
    s.includesOf script = s'.includesOf script := by
  refine mergeSort_eq_of_perm (fun a b c => ?_) (fun a b => ?_) (perm.filter _)
    fun a ha b hb hab hba => ?_
  · simp only [decide_eq_true_eq]
    omega
  · simp only [Bool.or_eq_true, decide_eq_true_eq]
    omega
  · simp only [List.mem_filter, decide_eq_true_eq] at ha hb hab hba
    obtain ⟨including, included, order⟩ := a
    obtain ⟨including', included', order'⟩ := b
    simp only [Include.mk.injEq]
    have leaves := ha.2.trans hb.2.symm
    dsimp only at leaves hab hba
    omega

/-- Edges that lead to one script rank by where they come from, and there is one from each script. -/
theorem includedIn_eq_of_perm (distinct : s.Distinct) (perm : s.edges.Perm s'.edges) (script : Int) :
    s.includedIn script = s'.includedIn script := by
  refine mergeSort_eq_of_perm (fun a b c => ?_) (fun a b => ?_) (perm.filter _)
    fun a ha b hb hab hba => ?_
  · simp only [decide_eq_true_eq]
    omega
  · simp only [Bool.or_eq_true, decide_eq_true_eq]
    omega
  · simp only [List.mem_filter, decide_eq_true_eq] at ha hb hab hba
    refine distinct.eq_of_sameEnds ha.1 hb.1 (sameEnds_iff.2 ⟨?_, ha.2.trans hb.2.symm⟩)
    omega

end Includes

/-! ### Walks -/

section Walks

variable {scripts : Table Script} {s s' : Includes}

/-- A walk sees of the edges what their listings show. -/
theorem Walk.step_congr (same : ∀ id, s.includesOf id = s'.includesOf id) (w : Walk) :
    w.step scripts s = w.step scripts s' := by
  simp only [Walk.step, same]

theorem Walk.run_congr (same : ∀ id, s.includesOf id = s'.includesOf id) (fuel : Nat) (w : Walk) :
    w.run scripts s fuel = w.run scripts s' fuel := by
  induction fuel generalizing w with
  | zero => rfl
  | succ fuel ih => rw [Walk.run, Walk.run, step_congr same, ih]

theorem resolveIncludes_eq_of_perm (perm : s.edges.Perm s'.edges) (script : Int) :
    resolveIncludes scripts s script = resolveIncludes scripts s' script := by
  have same (id : Int) := Includes.includesOf_eq_of_perm perm id
  unfold resolveIncludes
  simp only [same, Walk.run_congr same, perm.length_eq]

end Walks

/-- Two histories end in the same edges if and only if all that is read of them is the same: which
edges leave each script and which lead to it, in their order, and what each script includes, whichever
scripts are stored. -/
theorem Includes.history_edges_iff (edits edits' : List Edit) :
    (∀ e, e ∈ (history edits).edges ↔ e ∈ (history edits').edges) ↔
      ∀ script,
        (history edits).includesOf script = (history edits').includesOf script ∧
        (history edits).includedIn script = (history edits').includedIn script ∧
        ∀ scripts, resolveIncludes scripts (history edits) script =
          resolveIncludes scripts (history edits') script := by
  constructor
  · intro same script
    have distinct := distinct_history edits
    have perm := distinct.perm (distinct_history edits') same
    exact ⟨includesOf_eq_of_perm perm script, includedIn_eq_of_perm distinct perm script,
      fun scripts => resolveIncludes_eq_of_perm perm script⟩
  · intro same e
    have listed (s : Includes) : e ∈ s.includesOf e.including ↔ e ∈ s.edges :=
      mem_includesOf.trans (and_iff_left rfl)
    calc e ∈ (history edits).edges
        ↔ e ∈ (history edits).includesOf e.including := (listed _).symm
      _ ↔ e ∈ (history edits').includesOf e.including := by rw [(same e.including).1]
      _ ↔ e ∈ (history edits').edges := listed _

/-- The second edge to the hall takes the place of the first one, and goes ahead of the edge to the
door. -/
example :
    (Includes.history [.add ⟨1, 2, 5⟩, .add ⟨1, 3, 1⟩, .add ⟨1, 2, 0⟩]).includesOf 1 =
      [⟨1, 2, 0⟩, ⟨1, 3, 1⟩] := by
  cbv

end TextAdventure
