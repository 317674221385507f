import Mathlib.Algebra.BigOperators.Group.Finset.Piecewise
import Mathlib.Algebra.Order.BigOperators.Group.Finset
import Mathlib.Algebra.Ring.Nat
import Mathlib.Data.Finset.Card
import Mathlib.Data.Finset.Dedup
import Mathlib.Data.Finset.SDiff
import Mathlib.Logic.Function.Iterate
import TextAdventure.Proofs.Authoring.Reaching
import TextAdventure.Proofs.Store.Rows
import TextAdventure.Script.Flatten

/-! The order of includes, told by recursion: to visit a script is to go through the edges that
leave it, and to visit each script found there before it takes its place. The walk with a stack
comes to an end on every graph, in the steps that it is given, and finds what the recursion finds. -/

namespace TextAdventure

variable {scripts : Table Script} {includes : Includes}

/-- What has been found so far: all that was visited, the scripts that have taken their places, and
the numbers that no script is stored under. -/
structure Trail where
  visited : List Int
  ordered : Rows Script := []
  missing : List Int := []

namespace Trail

/-- Comes to a script, which takes its place only when it is left. -/
def enter (t : Trail) (id : Int) : Trail := { t with visited := id :: t.visited }

def leave (t : Trail) (id : Int) (script : Script) : Trail :=
  { t with ordered := t.ordered ++ [(id, script)] }

/-- Comes to a number that no script is stored under. -/
def miss (t : Trail) (id : Int) : Trail :=
  { t with visited := id :: t.visited, missing := t.missing ++ [id] }

/-- The numbers of stored scripts that are still to be visited. -/
def ahead (scripts : Table Script) (visited : List Int) : Finset Int :=
  (scripts.rows.map (·.1)).toFinset \ visited.toFinset

theorem ahead_subset (scripts : Table Script) {visited later : List Int} (h : visited ⊆ later) :
    ahead scripts later ⊆ ahead scripts visited := by
  apply Finset.sdiff_subset_sdiff (Finset.Subset.refl _)
  intro a ha
  rw [List.mem_toFinset] at ha ⊢
  exact h ha

theorem mem_ahead {visited : List Int} {id : Int} {script : Script} (new : id ∉ visited)
    (found : scripts.get? id = some script) : id ∈ ahead scripts visited := by
  simp only [ahead, Finset.mem_sdiff, List.mem_toFinset]
  exact ⟨List.mem_map.2 ⟨_, Rows.mem_of_get? found, rfl⟩, new⟩

theorem ahead_cons (visited : List Int) (id : Int) :
    ahead scripts (id :: visited) = (ahead scripts visited).erase id := by
  rw [ahead, List.toFinset_cons, Finset.sdiff_insert]
  rfl

theorem card_ahead_lt {visited later : List Int} {id : Int} {script : Script} (new : id ∉ visited)
    (found : scripts.get? id = some script) (entered : id :: visited ⊆ later) :
    (ahead scripts later).card < (ahead scripts visited).card := by
  have fewer := Finset.card_le_card (ahead_subset scripts entered)
  rw [ahead_cons] at fewer
  have first := Finset.card_erase_add_one (mem_ahead new found)
  omega

/-- Goes through edges in order. A target that was visited before is passed over, one that is not
stored is missing, and any other one is visited in turn and then takes its place. -/
def follow (scripts : Table Script) (includes : Includes) (edges : List Include) (t : Trail) :
    { u : Trail // t.visited ⊆ u.visited } :=
  match edges with
  | [] => ⟨t, fun _ h => h⟩
  | edge :: rest =>
    if edge.included ∈ t.visited then follow scripts includes rest t
    else
      match _found : scripts.get? edge.included with
      | none =>
        let ⟨u, kept⟩ := follow scripts includes rest (t.miss edge.included)
        ⟨u, fun _ h => kept (List.mem_cons_of_mem _ h)⟩
      | some script =>
        let ⟨u, inside⟩ :=
          follow scripts includes (includes.includesOf edge.included) (t.enter edge.included)
        let ⟨v, after⟩ := follow scripts includes rest (u.leave edge.included script)
        ⟨v, fun _ h => after (inside (List.mem_cons_of_mem _ h))⟩
-- Each call has fewer scripts ahead of it, or as many and fewer edges.
termination_by ((ahead scripts t.visited).card, edges.length)
decreasing_by
  · apply Prod.Lex.right
    rw [List.length_cons]
    omega
  · have fewer := Finset.card_le_card
      (ahead_subset scripts (List.subset_cons_self edge.included t.visited))
    rcases fewer.lt_or_eq with less | same
    · exact .left _ _ less
    · have same : (ahead scripts (t.miss edge.included).visited).card =
        (ahead scripts t.visited).card := same
      rw [same]
      apply Prod.Lex.right
      rw [List.length_cons]
      omega
  · rename_i new
    exact .left _ _ (card_ahead_lt new _found (List.Subset.refl _))
  · rename_i new
    exact .left _ _ (card_ahead_lt new _found inside)

/-- Visits a script, before which nothing has been visited. -/
def visit (scripts : Table Script) (includes : Includes) (root : Int) : Trail :=
  (follow scripts includes (includes.includesOf root) { visited := [root] }).1

variable {t : Trail} {edge : Include} {edges : List Include} {script : Script}

theorem follow_nil (t : Trail) : (follow scripts includes [] t).1 = t := by
  rw [follow]

theorem follow_seen (seen : edge.included ∈ t.visited) :
    (follow scripts includes (edge :: edges) t).1 = (follow scripts includes edges t).1 := by
  rw [follow, if_pos seen]

theorem follow_missing (new : edge.included ∉ t.visited)
    (missing : scripts.get? edge.included = none) :
    (follow scripts includes (edge :: edges) t).1 =
      (follow scripts includes edges (t.miss edge.included)).1 := by
  rw [follow, if_neg new]
  split
  · rfl
  · rename_i found
    cases missing.symm.trans found

theorem follow_found (new : edge.included ∉ t.visited)
    (found : scripts.get? edge.included = some script) :
    (follow scripts includes (edge :: edges) t).1 =
      (follow scripts includes edges ((follow scripts includes (includes.includesOf edge.included)
        (t.enter edge.included)).1.leave edge.included script)).1 := by
  rw [follow, if_neg new]
  split
  · rename_i missing
    cases missing.symm.trans found
  · rename_i same
    obtain rfl := Option.some.inj (found.symm.trans same)
    rfl

/-- A walk that has come this far, with scripts on its stack. -/
def walk (t : Trail) (stack : List (Option (Int × Script) × List Include)) : Walk :=
  { stack, visited := t.visited, ordered := t.ordered, missing := t.missing }

end Trail

namespace Walk

open Trail

variable {t : Trail} {edge : Include} {edges : List Include} {id : Int} {script : Script}
  {current : Option (Int × Script)} {w : Walk}
  {rest : List (Option (Int × Script) × List Include)}

/-- The walk from a script, all of whose edges are still to be followed. -/
def start (includes : Includes) (root : Int) : Walk :=
  walk { visited := [root] } [(none, includes.includesOf root)]

/-! ### The steps of a walk -/

theorem step_seen (seen : edge.included ∈ t.visited) :
    (t.walk ((current, edge :: edges) :: rest)).step scripts includes =
      t.walk ((current, edges) :: rest) := by
  have seen : t.visited.contains edge.included = true := List.contains_iff_mem.2 seen
  simp only [step, walk, seen, if_true]

theorem step_missing (new : edge.included ∉ t.visited)
    (missing : scripts.get? edge.included = none) :
    (t.walk ((current, edge :: edges) :: rest)).step scripts includes =
      (t.miss edge.included).walk ((current, edges) :: rest) := by
  have new : ¬t.visited.contains edge.included = true := fun h => new (List.contains_iff_mem.1 h)
  simp only [step, walk, if_neg new, missing, miss]

theorem step_found (new : edge.included ∉ t.visited)
    (found : scripts.get? edge.included = some script) :
    (t.walk ((current, edge :: edges) :: rest)).step scripts includes =
      (t.enter edge.included).walk ((some (edge.included, script),
        includes.includesOf edge.included) :: (current, edges) :: rest) := by
  have new : ¬t.visited.contains edge.included = true := fun h => new (List.contains_iff_mem.1 h)
  simp only [step, walk, if_neg new, found, enter]

theorem step_leave :
    (t.walk ((some (id, script), []) :: rest)).step scripts includes =
      (t.leave id script).walk rest := rfl

/-- The root takes no place of its own. -/
theorem step_root :
    (t.walk [(none, [])]).step scripts includes = t.walk [] := by
  simp [step, walk]

/-- The walk goes through the edges on top of its stack as the recursion does. -/
theorem iterate_follow (scripts : Table Script) (edges : List Include) (t : Trail) :
    ∀ (current : Option (Int × Script)) (rest : List (Option (Int × Script) × List Include)),
      ∃ n, (step scripts includes)^[n] (t.walk ((current, edges) :: rest)) =
        (follow scripts includes edges t).1.walk ((current, []) :: rest) := by
  induction edges, t using follow.induct scripts includes with
  | case1 t =>
    intro current rest
    rw [follow_nil]
    exact ⟨0, rfl⟩
  | case2 t edge edges seen ih =>
    intro current rest
    obtain ⟨n, hn⟩ := ih current rest
    refine ⟨n + 1, ?_⟩
    rw [Function.iterate_succ_apply, step_seen seen, hn, follow_seen seen]
  | case3 t edge edges new missing _ _ _ ih =>
    intro current rest
    obtain ⟨n, hn⟩ := ih current rest
    refine ⟨n + 1, ?_⟩
    rw [Function.iterate_succ_apply, step_missing new missing, hn, follow_missing new missing]
  | case4 t edge edges new script found u inside hinner _ _ _ inner outer =>
    intro current rest
    -- Into the script, up to its last edge, out of it, and on with the edges beside it.
    obtain ⟨n, hn⟩ := inner (some (edge.included, script)) ((current, edges) :: rest)
    obtain ⟨m, hm⟩ := outer current rest
    refine ⟨m + 1 + n + 1, ?_⟩
    rw [Function.iterate_succ_apply, step_found new found, Function.iterate_add_apply, hn,
      Function.iterate_succ_apply, step_leave, follow_found new found, hinner, hm]

theorem iterate_start (scripts : Table Script) (includes : Includes) (root : Int) :
    ∃ n, (step scripts includes)^[n] (start includes root) =
      (visit scripts includes root).walk [] := by
  obtain ⟨n, hn⟩ := iterate_follow scripts (includes.includesOf root)
    { visited := [root] } none []
  refine ⟨n + 1, ?_⟩
  rw [Function.iterate_succ_apply', start, hn, step_root]
  rfl

/-! ### The number of steps -/

/-- A bound on the steps to come: every edge on the stack or ahead is followed once, and every
script there is left once. -/
def due (scripts : Table Script) (includes : Includes) (w : Walk) : Nat :=
  (w.stack.map fun s => s.2.length + 1).sum +
    ∑ id ∈ ahead scripts w.visited, ((includes.includesOf id).length + 1)

theorem due_step (scripts : Table Script) (includes : Includes) (unfinished : w.stack ≠ []) :
    (w.step scripts includes).due scripts includes < w.due scripts includes := by
  obtain ⟨stack, visited, ordered, missing⟩ := w
  unfold step
  split
  · contradiction
  · rename_i current rest hstack
    obtain rfl : stack = (current, []) :: rest := hstack
    simp only [due, List.map_cons, List.sum_cons, List.length_nil]
    omega
  · rename_i current edge edges rest hstack
    obtain rfl : stack = (current, edge :: edges) :: rest := hstack
    dsimp only
    split
    · simp only [due, List.map_cons, List.sum_cons, List.length_cons]
      omega
    · rename_i new
      have new : edge.included ∉ visited := fun h => new (List.contains_iff_mem.2 h)
      split
      · have fewer : ∑ id ∈ ahead scripts (edge.included :: visited),
              ((includes.includesOf id).length + 1) ≤
            ∑ id ∈ ahead scripts visited, ((includes.includesOf id).length + 1) :=
          Finset.sum_le_sum_of_subset (ahead_subset scripts (List.subset_cons_self _ _))
        simp only [due, List.map_cons, List.sum_cons, List.length_cons]
        omega
      · rename_i script found
        -- What is ahead of the walk there goes onto the stack.
        have moved := Finset.add_sum_erase _ (fun id => (includes.includesOf id).length + 1)
          (mem_ahead new found)
        rw [← ahead_cons] at moved
        simp only [due, List.map_cons, List.sum_cons, List.length_cons]
        omega

theorem step_ended (ended : w.stack = []) : w.step scripts includes = w := by
  unfold step
  rw [ended]

theorem iterate_ended (ended : w.stack = []) (n : Nat) : (step scripts includes)^[n] w = w := by
  induction n with
  | zero => rfl
  | succ n ih => rw [Function.iterate_succ_apply, step_ended ended, ih]

theorem run_eq_iterate (fuel : Nat) (w : Walk) :
    w.run scripts includes fuel = (step scripts includes)^[fuel] w := by
  induction fuel generalizing w with
  | zero => rfl
  | succ fuel ih =>
    rw [run]
    split
    · rename_i ended
      exact (iterate_ended ended _).symm
    · rw [ih, Function.iterate_succ_apply]

/-- With as many steps as are due, the walk comes to its end. -/
theorem stack_iterate {n : Nat} (enough : w.due scripts includes ≤ n) :
    ((step scripts includes)^[n] w).stack = [] := by
  induction n generalizing w with
  | zero =>
    cases hstack : w.stack with
    | nil => exact hstack
    | cons s rest =>
      simp only [due, hstack, List.map_cons, List.sum_cons] at enough
      omega
  | succ n ih =>
    rw [Function.iterate_succ_apply]
    by_cases ended : w.stack = []
    · rw [step_ended ended, iterate_ended ended, ended]
    · have less := due_step scripts includes ended
      exact ih (by omega)

/-- A walk has one end, however many steps it is given. -/
theorem iterate_unique {m n : Nat} (hm : ((step scripts includes)^[m] w).stack = [])
    (hn : ((step scripts includes)^[n] w).stack = []) :
    (step scripts includes)^[m] w = (step scripts includes)^[n] w := by
  rcases Nat.le_total m n with le | le
  · rw [← Nat.sub_add_cancel le, Function.iterate_add_apply, iterate_ended hm]
  · rw [← Nat.sub_add_cancel le, Function.iterate_add_apply, iterate_ended hn]

/-- The edges that leave different scripts are different ones. -/
theorem sum_includesOf_le (includes : Includes) (ids : Finset Int) :
    ∑ id ∈ ids, (includes.includesOf id).length ≤ includes.edges.length := by
  have count (id : Int) : (includes.includesOf id).length =
      includes.edges.countP (fun e => e.including = id) := by
    rw [Includes.includesOf, List.length_mergeSort, List.countP_eq_length_filter]
  simp only [count]
  generalize includes.edges = edges
  induction edges with
  | nil => simp
  | cons edge rest ih =>
    have one : ∑ id ∈ ids, (if decide (edge.including = id) = true then 1 else 0) ≤ 1 := by
      simp only [decide_eq_true_eq, Finset.sum_ite_eq]
      split <;> omega
    simp only [List.countP_cons, Finset.sum_add_distrib, List.length_cons]
    omega

theorem due_start (scripts : Table Script) (includes : Includes) (root : Int) :
    (start includes root).due scripts includes ≤
      includes.edges.length + scripts.rows.length + 1 := by
  have apart : root ∉ ahead scripts [root] := by simp [ahead]
  have edges := sum_includesOf_le includes (insert root (ahead scripts [root]))
  rw [Finset.sum_insert apart] at edges
  have stored : (ahead scripts [root]).card ≤ scripts.rows.length :=
    calc (ahead scripts [root]).card ≤ (scripts.rows.map (·.1)).toFinset.card :=
          Finset.card_le_card Finset.sdiff_subset
      _ ≤ (scripts.rows.map (·.1)).length := List.toFinset_card_le _
      _ = scripts.rows.length := List.length_map _
  simp only [due, start, walk, List.map_cons, List.map_nil, List.sum_cons, List.sum_nil,
    Finset.sum_add_distrib, ← Finset.card_eq_sum_ones]
  omega

/-- The steps that a walk is given are enough. -/
theorem run_start (scripts : Table Script) (includes : Includes) (root : Int) :
    (start includes root).run scripts includes
        (includes.edges.length + scripts.rows.length + 1) =
      (visit scripts includes root).walk [] := by
  obtain ⟨n, hn⟩ := iterate_start scripts includes root
  rw [run_eq_iterate, ← hn]
  apply iterate_unique (stack_iterate (due_start scripts includes root))
  rw [hn]
  rfl

end Walk

theorem resolveIncludes_eq (scripts : Table Script) (includes : Includes) (root : Int) :
    resolveIncludes scripts includes root =
      { script := root, scripts := (Trail.visit scripts includes root).ordered,
        missing := (Trail.visit scripts includes root).missing } := by
  have walked : resolveIncludes scripts includes root =
      let walk := (Walk.start includes root).run scripts includes
        (includes.edges.length + scripts.rows.length + 1)
      { script := root, scripts := walk.ordered, missing := walk.missing } := rfl
  rw [walked, Walk.run_start]
  rfl

/-- On every graph, whatever its edges and whichever scripts are stored, the walk from a script
comes to its end, and it has found the same scripts and the same missing numbers as the recursion,
in the same order. -/
theorem resolveIncludes_visits (scripts : Table Script) (includes : Includes) (root : Int) :
    (∃ n, (Walk.step scripts includes)^[n] (Walk.start includes root) =
      (Trail.visit scripts includes root).walk []) ∧
    resolveIncludes scripts includes root =
      { script := root, scripts := (Trail.visit scripts includes root).ordered,
        missing := (Trail.visit scripts includes root).missing } :=
  ⟨Walk.iterate_start scripts includes root, resolveIncludes_eq scripts includes root⟩

end TextAdventure
