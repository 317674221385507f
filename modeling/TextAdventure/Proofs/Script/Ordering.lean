import TextAdventure.Proofs.Authoring.Including
import TextAdventure.Proofs.Script.Resolving

/-! The order in which the includes of a script stand. A script stands before the ones that include
it, unless edges lead from it back to them within the list. Where edges never lead back, the source
that is run has every script behind its includes. -/

namespace TextAdventure

open Relation (TransGen)

variable {scripts : Table Script} {includes : Includes} {root : Int}

/-! ### Parts of a joined text -/

namespace Text

theorem exists_join_of_mem (separator : Text) {part : Text} {parts : List Text} (h : part ∈ parts) :
    ∃ before after, join separator parts = before ++ part ++ after := by
  induction parts with
  | nil => cases h
  | cons first rest ih =>
    cases rest with
    | nil =>
      obtain rfl := List.mem_singleton.1 h
      exact ⟨[], [], by simp [join]⟩
    | cons second more =>
      rw [join, List.intercalate_cons_cons]
      rcases List.mem_cons.1 h with rfl | h
      · exact ⟨[], separator ++ separator.intercalate (second :: more), by simp⟩
      · obtain ⟨before, after, hjoin⟩ := ih h
        refine ⟨first ++ separator ++ before, after, ?_⟩
        rw [← join, hjoin]
        simp only [List.append_assoc]

theorem join_append {separator : Text} {parts others : List Text} (hparts : parts ≠ [])
    (hothers : others ≠ []) :
    join separator (parts ++ others) =
      join separator parts ++ separator ++ join separator others := by
  induction parts with
  | nil => contradiction
  | cons first rest ih =>
    cases rest with
    | nil =>
      obtain ⟨second, more, rfl⟩ := List.exists_cons_of_ne_nil hothers
      simp [join]
    | cons second more =>
      have tail := ih (by simp)
      simp only [join, List.cons_append, List.intercalate_cons_cons, List.append_assoc] at tail ⊢
      rw [tail]

theorem exists_join_of_sublist {separator first second : Text} {parts : List Text}
    (h : [first, second].Sublist parts) : ∃ before between after,
      join separator parts = before ++ first ++ between ++ second ++ after := by
  obtain ⟨front, back, rfl, hfirst, hback⟩ := List.cons_sublist_iff.1 h
  have hsecond := List.singleton_sublist.1 hback
  obtain ⟨before, inner, hfront⟩ := exists_join_of_mem separator hfirst
  obtain ⟨outer, after, hrest⟩ := exists_join_of_mem separator hsecond
  refine ⟨before, inner ++ separator ++ outer, after, ?_⟩
  rw [join_append (List.ne_nil_of_mem hfirst) (List.ne_nil_of_mem hsecond), hfront, hrest]
  simp only [List.append_assoc]

end Text

/-! ### The order -/

variable (scripts includes root) in

theorem visit_ordered {x y : Int} (hx : x ∈ (Trail.visit scripts includes root).ids)
    (hy : y ∈ (Trail.visit scripts includes root).ids) (joins : includes.Joins x y) :
    [y, x].Sublist (Trail.visit scripts includes root).ids ∨
      TransGen (includes.JoinsIn (Trail.visit scripts includes root).ids) y x := by
  obtain ⟨ne, stored, -⟩ := (mem_visit_ids scripts includes root y).1 hy
  exact (Trail.Sound.visit scripts includes root).1.placed x hx y joins stored ne

/-- Where no edges lead back, what is included is among the scripts that are found. -/
theorem mem_visit_of_joins (acyclic : includes.Acyclic) {x y : Int}
    (hx : x = root ∨ x ∈ (Trail.visit scripts includes root).ids) (joins : includes.Joins x y)
    (stored : (scripts.get? y).isSome) : y ∈ (Trail.visit scripts includes root).ids := by
  rw [mem_visit_ids]
  have leads : includes.Leads scripts root y := by
    rcases hx with rfl | hx
    · exact .edge joins
    · obtain ⟨-, hstored, leads⟩ := (mem_visit_ids scripts includes root x).1 hx
      exact .past leads hstored joins
  refine ⟨?_, stored, leads⟩
  rintro rfl
  exact acyclic y leads.transGen

theorem sublist_ordered {x y : Int} {outer inner : Script}
    (before : [y, x].Sublist (Trail.visit scripts includes root).ids)
    (hx : scripts.get? x = some outer) (hy : scripts.get? y = some inner) :
    [(y, inner), (x, outer)].Sublist (Trail.visit scripts includes root).ordered := by
  obtain ⟨rows, hrows, hmap⟩ := List.sublist_map_iff.1 before
  have stored := (Trail.Sound.visit scripts includes root).1.stored
  match rows, hmap with
  | [(_, first), (_, second)], rfl =>
    obtain rfl : inner = first :=
      Option.some.inj (hy.symm.trans (stored _ (hrows.subset List.mem_cons_self)))
    obtain rfl : outer = second :=
      Option.some.inj (hx.symm.trans (stored (x, second) (hrows.subset (by simp))))
    exact hrows

/-- Where no edges lead back, a script stands behind all its includes, the root included. -/
theorem visit_behind (acyclic : includes.Acyclic) {x y : Int} {outer inner script : Script}
    (hx : (x, outer) ∈ (Trail.visit scripts includes root).ordered ++ [(root, script)])
    (joins : includes.Joins x y) (hy : scripts.get? y = some inner) :
    [(y, inner), (x, outer)].Sublist
      ((Trail.visit scripts includes root).ordered ++ [(root, script)]) := by
  have sound := (Trail.Sound.visit scripts includes root).1
  have stored : (scripts.get? y).isSome := by rw [hy]; rfl
  rcases List.mem_append.1 hx with hx | hx
  · have placed : x ∈ (Trail.visit scripts includes root).ids := List.mem_map.2 ⟨_, hx, rfl⟩
    have found := mem_visit_of_joins acyclic (.inr placed) joins stored
    rcases visit_ordered scripts includes root placed found joins with before | back
    · exact (sublist_ordered before (sound.stored _ hx) hy).trans (List.sublist_append_left _ _)
    · have cycle := (TransGen.mono (fun _ _ h => h.1) _ _ back).tail joins
      exact absurd cycle (acyclic y)
  · obtain ⟨rfl, rfl⟩ := Prod.mk.inj (List.mem_singleton.1 hx)
    obtain ⟨⟨y, other⟩, hrow, rfl⟩ :=
      List.mem_map.1 (mem_visit_of_joins acyclic (.inl rfl) joins stored)
    obtain rfl : other = inner := Option.some.inj ((sound.stored _ hrow).symm.trans hy)
    exact (List.singleton_sublist.2 hrow).append (.refl _)

/-- Of two scripts that are found, one that includes the other stands behind it, unless edges lead
from the other back to it within what is found. Where no edges lead back at all, every script stands
behind all its includes that are stored, and its source behind theirs. -/
theorem resolveIncludes_ordered (scripts : Table Script) (includes : Includes) (root : Int) :
    let found := resolveIncludes scripts includes root
    let ids := found.scripts.map (·.1)
    (∀ x ∈ ids, ∀ y ∈ ids, includes.Joins x y →
      [y, x].Sublist ids ∨ TransGen (includes.JoinsIn ids) y x) ∧
    (includes.Acyclic → ∀ script x outer y inner,
      (x, outer) ∈ found.scripts ++ [(root, script)] → includes.Joins x y →
      scripts.get? y = some inner →
        [(y, inner), (x, outer)].Sublist (found.scripts ++ [(root, script)]) ∧
        ∃ before between after, scriptBody (found.scripts.map (·.2)) script =
          before ++ inner.content ++ between ++ outer.content ++ after) := by
  intro found ids
  have hfound : found.scripts = (Trail.visit scripts includes root).ordered :=
    congrArg Resolution.scripts (resolveIncludes_eq scripts includes root)
  have hids : ids = (Trail.visit scripts includes root).ids := congrArg (List.map (·.1)) hfound
  rw [hids, hfound]
  refine ⟨fun x hx y hy joins => visit_ordered scripts includes root hx hy joins, ?_⟩
  intro acyclic script x outer y inner hx joins hy
  have behind := visit_behind acyclic hx joins hy
  refine ⟨behind, ?_⟩
  have sources : scriptBody (List.map (·.2) (Trail.visit scripts includes root).ordered) script =
      Text.join "\n" (((Trail.visit scripts includes root).ordered ++ [(root, script)]).map
        (·.2.content)) := by
    rw [scriptBody, List.map_map, List.map_append]
    rfl
  rw [sources]
  have texts := behind.map fun r : Int × Script => r.2.content
  exact Text.exists_join_of_sublist texts

/-- The tale includes the hall, and the hall and the door include one another: the door stands first
though it includes the hall, since edges lead back to it. Without the door's edge there is no way
back. -/
theorem resolveIncludes_ordered_trio :
    let ring : Includes := ⟨[⟨1, 2, 0⟩, ⟨2, 3, 0⟩, ⟨3, 2, 0⟩]⟩
    let line : Includes := ⟨[⟨1, 2, 0⟩, ⟨2, 3, 0⟩]⟩
    (resolveIncludes .trio ring 1).scripts.map (·.1) = [3, 2] ∧
    ring.Joins 3 2 ∧ TransGen (ring.JoinsIn [3, 2]) 2 3 ∧
    line.Acyclic ∧ ∃ before between after,
      scriptBody ((resolveIncludes .trio line 1).scripts.map (·.2))
          { adventure := 1, name := "Tale", content := "Tale" } =
        before ++ "Door" ++ between ++ "Hall" ++ after := by
  intro ring line
  have ids : (resolveIncludes .trio ring 1).scripts.map (·.1) = [3, 2] := by decide +kernel
  have joins : ring.Joins 3 2 := ⟨⟨3, 2, 0⟩, by decide, rfl, rfl⟩
  refine ⟨ids, joins, ?_, ?_⟩
  · have placed := (resolveIncludes_ordered .trio ring 1).1
    rw [ids] at placed
    exact (placed 3 (by decide) 2 (by decide) joins).resolve_left (by decide)
  · have upwards (a b : Int) (h : line.Joins a b) : a < b := by
      obtain ⟨e, he, rfl, rfl⟩ := h
      revert e
      decide
    have acyclic : line.Acyclic := by
      intro a cycle
      exact Int.lt_irrefl a (Relation.transGen_minimal upwards a a cycle)
    have behind := (resolveIncludes_ordered .trio line 1).2 acyclic
      { adventure := 1, name := "Tale", content := "Tale" } 2
      { adventure := 1, name := "Hall", content := "Hall" } 3
      { adventure := 1, name := "Door", content := "Door" } (by decide +kernel)
      ⟨⟨2, 3, 0⟩, by decide, rfl, rfl⟩ rfl
    exact ⟨acyclic, behind.2⟩

end TextAdventure
