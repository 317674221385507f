import TextAdventure.Proofs.Actions
import TextAdventure.Proofs.Authoring.Joined
import TextAdventure.Proofs.Authoring.Reaching
import TextAdventure.Proofs.Engine.Quiet

/-! Include edges stay in order. An edge that would close a cycle is refused, so no edges lead from a
script back to itself, and edges go with the scripts that they join. -/

namespace TextAdventure

open Op
open Relation (ReflTransGen TransGen)

variable {engine : Engine} {w w' : World} {s s' : Includes} {edge e : Include} {x y order : Int}

namespace Includes

/-- No edges lead from a script back to itself. -/
def Acyclic (s : Includes) : Prop := ∀ a, ¬TransGen s.Joins a a

/-- At most one edge leads from one script to another. -/
def Distinct (s : Includes) : Prop := s.edges.Pairwise fun a b => sameEnds a b = false

theorem sameEnds_iff {a b : Include} :
    sameEnds a b = true ↔ a.including = b.including ∧ a.included = b.included := by
  simp [sameEnds]

/-- An edge that is added takes the place of the one between the same scripts. -/
theorem mem_add (distinct : s.Distinct) :
    e ∈ (s.add edge).edges ↔ e = edge ∨ e ∈ s.edges ∧ sameEnds e edge = false := by
  unfold Distinct at distinct
  show e ∈ place edge s.edges ↔ _
  generalize s.edges = edges at distinct ⊢
  induction edges with
  | nil => simp [place]
  | cons first rest ih =>
    obtain ⟨apart, later⟩ := List.pairwise_cons.1 distinct
    rw [place]
    split
    · rename_i same
      -- The new edge stands in for this one, and no other one joins the same scripts.
      obtain ⟨including, included⟩ := sameEnds_iff.1 same
      have others (f : Include) (hf : f ∈ rest) : sameEnds f edge = false := by
        have := apart f hf
        simp only [sameEnds, ← including, ← included, decide_eq_false_iff_not] at this ⊢
        exact fun h => this ⟨h.1.symm, h.2.symm⟩
      simp only [List.mem_cons]
      constructor
      · rintro (rfl | he)
        · exact .inl rfl
        · exact .inr ⟨.inr he, others e he⟩
      · rintro (rfl | ⟨rfl | he, differs⟩)
        · exact .inl rfl
        · rw [same] at differs
          cases differs
        · exact .inr he
    · rename_i differs
      rw [List.mem_cons, List.mem_cons, ih later]
      constructor
      · rintro (rfl | rfl | ⟨he, apart⟩)
        · exact .inr ⟨.inl rfl, Bool.eq_false_iff.2 differs⟩
        · exact .inl rfl
        · exact .inr ⟨.inr he, apart⟩
      · rintro (rfl | ⟨rfl | he, apart⟩)
        · exact .inr (.inl rfl)
        · exact .inl rfl
        · exact .inr (.inr ⟨he, apart⟩)

theorem Distinct.add (distinct : s.Distinct) (edge : Include) : (s.add edge).Distinct := by
  unfold Distinct at distinct ⊢
  show (place edge s.edges).Pairwise _
  generalize s.edges = edges at distinct ⊢
  induction edges with
  | nil => exact List.pairwise_singleton _ _
  | cons first rest ih =>
    obtain ⟨apart, later⟩ := List.pairwise_cons.1 distinct
    rw [place]
    split
    · rename_i same
      obtain ⟨including, included⟩ := sameEnds_iff.1 same
      refine List.pairwise_cons.2 ⟨fun f hf => ?_, later⟩
      have := apart f hf
      simp only [sameEnds, ← including, ← included] at this ⊢
      exact this
    · rename_i differs
      refine List.pairwise_cons.2 ⟨fun f hf => ?_, ih later⟩
      rcases mem_place hf with rfl | hf
      · exact Bool.eq_false_iff.2 differs
      · exact apart f hf

/-- Fewer edges lead to fewer scripts. -/
theorem Acyclic.of_joins (h : s.Acyclic) (fewer : ∀ a b, s'.Joins a b → s.Joins a b) :
    s'.Acyclic := fun a cycle => h a (TransGen.mono fewer _ _ cycle)

theorem joins_add {a b : Int} (h : (s.add edge).Joins a b) :
    s.Joins a b ∨ a = edge.including ∧ b = edge.included := by
  obtain ⟨e, he, rfl, rfl⟩ := h
  rcases mem_place he with rfl | he
  · exact .inr ⟨rfl, rfl⟩
  · exact .inl ⟨e, he, rfl, rfl⟩

/-- Once an edge is added, a way is an old one, or it goes along the edge. -/
theorem leads_add {a b : Int} (h : TransGen (s.add edge).Joins a b) :
    TransGen s.Joins a b ∨
      ReflTransGen s.Joins a edge.including ∧ ReflTransGen s.Joins edge.included b := by
  induction h with
  | single joins =>
    rcases joins_add joins with joins | ⟨rfl, rfl⟩
    · exact .inl (.single joins)
    · exact .inr ⟨.refl, .refl⟩
  | tail _ joins ih =>
    rcases ih with old | ⟨before, behind⟩ <;> rcases joins_add joins with joins | ⟨rfl, rfl⟩
    · exact .inl (old.tail joins)
    · exact .inr ⟨old.to_reflTransGen, .refl⟩
    · exact .inr ⟨before, behind.tail joins⟩
    · exact .inr ⟨before, .refl⟩

/-- An edge is safe when its end does not lead to its start. -/
theorem Acyclic.add (h : s.Acyclic)
    (apart : ¬ReflTransGen s.Joins edge.included edge.including) : (s.add edge).Acyclic := by
  intro a cycle
  rcases leads_add cycle with old | ⟨before, behind⟩
  · exact h a old
  · exact apart (behind.trans before)

end Includes

/-! ### Asking for an edge -/

namespace Authoring

theorem run_script_number (n : Int) (w : World) : (World.script n).run w =
    ((match w.scripts.get? n with
      | some found => .ok found
      | none => .error (.notFound .script n)), w) := by
  show (Op.required .script n (w.scripts.get? n)).run w = _
  cases w.scripts.get? n <;> rfl

/-- Scripts are looked up first. -/
theorem addInclude_missing (h : w.scripts.get? x = none ∨ w.scripts.get? y = none) (order : Int) :
    ∃ n : Int, (addInclude x y order).run w = (.error (.notFound .script n), w) := by
  unfold addInclude
  rw [run_bind, run_script_number]
  cases hx : w.scripts.get? x with
  | none => exact ⟨x, rfl⟩
  | some outer =>
    dsimp only
    rw [run_bind, run_script_number, h.resolve_left (by simp [hx])]
    exact ⟨y, rfl⟩

/-- What may not be included. -/
theorem addInclude_found {outer inner : Script} (houter : w.scripts.get? x = some outer)
    (hinner : w.scripts.get? y = some inner) (order : Int) :
    (x = y ∨ outer.adventure ≠ inner.adventure ∨ ReflTransGen w.includes.Joins y x) ∧
        (∃ fault, (addInclude x y order).run w = (.error (.invalidInclude fault), w)) ∨
      ¬(x = y ∨ outer.adventure ≠ inner.adventure ∨ ReflTransGen w.includes.Joins y x) ∧
        (addInclude x y order).run w = (.ok ⟨x, y, order⟩,
          { w with includes := w.includes.add ⟨x, y, order⟩ }) := by
  have key (n : Int) : (Op.number .script n).run w = (.ok n, w) := rfl
  unfold addInclude
  rw [run_bind, run_script_number, houter]
  dsimp only
  rw [run_bind, run_script_number, hinner]
  dsimp only
  rw [run_bind_ok (key x), run_bind_ok (key y), run_bind_ok (run_get w), ← Includes.reaches_iff]
  -- In the order in which a request is checked.
  by_cases same : x = y
  · rw [if_pos same]
    exact .inl ⟨.inl same, _, rfl⟩
  rw [if_neg same]
  by_cases foreign : outer.adventure = inner.adventure
  · rw [if_neg (not_not.2 foreign)]
    by_cases cycle : w.includes.reaches y x = true
    · rw [if_pos cycle]
      exact .inl ⟨.inr (.inr cycle), _, rfl⟩
    · rw [if_neg cycle]
      exact .inr ⟨by tauto, rfl⟩
  · rw [if_pos foreign]
    exact .inl ⟨.inr (.inl foreign), _, rfl⟩

/-- Scripts are asked for by their numbers, whatever stands for these. -/
theorem run_addInclude (outer inner : Identifier) (order : Int) (w : World) :
    (∃ e, (addInclude outer inner order).run w = (.error e, w)) ∨
      ∃ x y : Int, (addInclude outer inner order).run w = (addInclude x y order).run w := by
  unfold addInclude
  rcases (ReadOnly.script outer).run_bind_cases _ w with ⟨e, hrun⟩ | ⟨outerScript, houter, hrun⟩ <;>
    rw [hrun]
  · exact .inl ⟨e, rfl⟩
  rcases (ReadOnly.script inner).run_bind_cases _ w with ⟨e, hrun⟩ | ⟨innerScript, hinner, hrun⟩ <;>
    rw [hrun]
  · exact .inl ⟨e, rfl⟩
  obtain ⟨x, hx, storedOuter⟩ := World.run_found (f := fun v n => v.scripts.get? n) houter
  obtain ⟨y, hy, storedInner⟩ := World.run_found (f := fun v n => v.scripts.get? n) hinner
  have key (n : Int) : (Op.number .script n).run w = (.ok n, w) := rfl
  have foundOuter : (World.script x).run w = (.ok outerScript, w) := by
    rw [run_script_number, storedOuter]
  have foundInner : (World.script y).run w = (.ok innerScript, w) := by
    rw [run_script_number, storedInner]
  refine .inr ⟨x, y, ?_⟩
  rw [run_bind_ok hx, run_bind_ok hy, run_bind_ok foundOuter, run_bind_ok foundInner,
    run_bind_ok (key x), run_bind_ok (key y)]

end Authoring

/-! ### Keeping edges in order -/

/-- Edges join stored scripts of one adventure, and no edges lead from a script back to itself. -/
structure Ordered (w : World) : Prop where
  ends : ∀ e ∈ w.includes.edges,
    ∃ adventure, w.ScriptOf adventure e.including ∧ w.ScriptOf adventure e.included
  acyclic : w.includes.Acyclic
  distinct : w.includes.Distinct

namespace Ordered

theorem of_empty (h : w.includes = {}) : Ordered w := by
  refine ⟨fun e he => ?_, fun a cycle => ?_, ?_⟩
  · rw [h] at he
    exact nomatch he
  · obtain ⟨b, ⟨e, he, -⟩, -⟩ := TransGen.head'_iff.1 cycle
    rw [h] at he
    exact nomatch he
  · rw [h]
    exact .nil

/-- Scripts may go with all edges that touch them, and others may come. -/
theorem rest (h : Ordered w) (gone : List Int)
    (edges : w'.includes.edges.Sublist w.includes.edges)
    (apart : ∀ e ∈ w'.includes.edges, e.including ∉ gone ∧ e.included ∉ gone)
    (scripts : ∀ n ∉ gone, ∀ k, w.scripts.get? n = some k → w'.scripts.get? n = some k) :
    Ordered w' := by
  refine ⟨fun e he => ?_, h.acyclic.of_joins fun a b ⟨e, he, ends⟩ => ?_, h.distinct.sublist edges⟩
  · obtain ⟨adventure, ⟨k, hk, kAdventure⟩, ⟨l, hl, lAdventure⟩⟩ := h.ends e (edges.subset he)
    exact ⟨adventure, ⟨k, scripts _ (apart e he).1 k hk, kAdventure⟩,
      ⟨l, scripts _ (apart e he).2 l hl, lAdventure⟩⟩
  · exact ⟨e, edges.subset he, ends⟩

theorem addInclude (h : Ordered w) (outer inner : Identifier) (order : Int) :
    Ordered ((Authoring.addInclude outer inner order).run w).2 := by
  rcases Authoring.run_addInclude outer inner order w with ⟨e, hrun⟩ | ⟨x, y, hrun⟩ <;> rw [hrun]
  · exact h
  by_cases missing : w.scripts.get? x = none ∨ w.scripts.get? y = none
  · obtain ⟨n, hrun⟩ := Authoring.addInclude_missing missing order
    rw [hrun]
    exact h
  obtain ⟨hx, hy⟩ := not_or.1 missing
  obtain ⟨outer, houter⟩ := Option.ne_none_iff_exists'.1 hx
  obtain ⟨inner, hinner⟩ := Option.ne_none_iff_exists'.1 hy
  rcases Authoring.addInclude_found houter hinner order with
    ⟨-, fault, hrun⟩ | ⟨safe, hrun⟩ <;> rw [hrun]
  · exact h
  simp only [not_or, not_not] at safe
  obtain ⟨-, same, apart⟩ := safe
  refine ⟨fun e he => ?_, h.acyclic.add apart, h.distinct.add _⟩
  rcases Includes.mem_place he with rfl | he
  · exact ⟨outer.adventure, ⟨outer, houter, rfl⟩, ⟨inner, hinner, same.symm⟩⟩
  · exact h.ends e he

theorem removeScript (h : Ordered w) (script : Identifier) :
    Ordered ((Authoring.removeScript script).run w).2 := by
  rcases Authoring.run_removeScript script w with ⟨e, hrun⟩ | ⟨id, found, -, hrun⟩ <;> rw [hrun]
  · exact h
  refine h.rest [id] List.filter_sublist (fun e he => ?_) fun n hn k hk => ?_
  · simpa using (Includes.mem_removeScript.1 he).2
  · show (w.scripts.remove id).get? n = some k
    rw [Table.get?_remove, if_neg (List.mem_singleton.not.1 hn)]
    exact hk

theorem removeScripts_sublist (scripts : List Int) (s : Includes) :
    (scripts.foldl Includes.removeScript s).edges.Sublist s.edges := by
  induction scripts generalizing s with
  | nil => exact .refl _
  | cons script rest ih => exact (ih _).trans List.filter_sublist

theorem removeAdventure (h : Ordered w) (adventure : Identifier) (force : Bool) :
    Ordered ((Authoring.removeAdventure adventure force).run w).2 := by
  rw [Authoring.removeAdventure_eq]
  rcases Authoring.run_removal (.adventure adventure) adventure force
    (fun id g => g.adventure = id) Authoring.withoutAdventure w with
    ⟨e, hrun⟩ | ⟨id, games, -, -, -, -, hrun⟩ <;> rw [hrun]
  · exact h
  unfold Authoring.withoutAdventure
  rw [Authoring.foldl_dropGame]
  refine h.rest (List.map (fun s => s.2.idAt s.1) (w.scripts.select fun s => s.adventure = id))
    (removeScripts_sublist _ _) (fun e he => (Includes.mem_removeScripts.1 he).2)
    fun n hn k hk => ?_
  show (w.scripts.removeAll _).get? n = some k
  rw [Table.get?_removeAll, if_neg hn]
  exact hk

theorem addScript (h : Ordered w) {claim : Claim} (script : Script)
    (fresh : ∀ id ids, w.scripts.ids.assign claim = .ok (id, ids) → w.scripts.get? id = none) :
    Ordered ((Op.addTo (·.scripts) (fun t w => { w with scripts := t }) claim script).run w).2 := by
  unfold Op.addTo
  rw [run_bind_ok (run_get w), run_bind, run_ofExcept]
  cases hadd : w.scripts.add claim script with
  | error e => exact h
  | ok added =>
    obtain ⟨id, t⟩ := added
    obtain ⟨ids, hassign, rfl⟩ := Table.add_ok hadd
    exact h.rest [] (.refl _) (fun e _ => ⟨List.not_mem_nil, List.not_mem_nil⟩) fun n _ k hk =>
      Table.get?_place_of_free (fresh id ids hassign) hk

end Ordered

/-- The actions of an author who arranges scripts. A script is added where none is stored. -/
def Arranging (w : World) : Action → Prop
  | .addInclude .. | .removeScript .. | .removeAdventure .. => True
  | .addScript claim _ =>
    ∀ id ids, w.scripts.ids.assign claim = .ok (id, ids) → w.scripts.get? id = none
  | _ => False

theorem Ordered.after (h : Ordered w) {a : Action} (arranging : Arranging w a) :
    Ordered (engine.after w a) := by
  cases a with
  | addInclude outer inner order =>
    rw [Engine.after_of_perform rfl]
    exact h.addInclude outer inner order
  | removeScript script =>
    rw [Engine.after_of_perform rfl]
    exact h.removeScript script
  | removeAdventure adventure force =>
    rw [Engine.after_of_perform rfl]
    exact h.removeAdventure adventure force
  | addScript claim script =>
    rw [Engine.after_of_perform rfl]
    exact h.addScript script arranging
  | _ => exact arranging.elim

/-! ### The guard -/

/-- How asking for an edge from `x` to `y` is answered. A script that is not stored is told first. An
edge from a script to itself, to another adventure or against the edges that there are is refused.
Nothing changes then; any other request changes the edge from `x` to `y`, and no other one. -/
structure Guards (w : World) (x y order : Int) : Prop where
  missing : (∃ n : Int, ((Authoring.addInclude x y order).run w).1 = .error (.notFound .script n)) ↔
    w.scripts.get? x = none ∨ w.scripts.get? y = none
  invalid :
    (∃ fault, ((Authoring.addInclude x y order).run w).1 = .error (.invalidInclude fault)) ↔
      ∃ outer inner, w.scripts.get? x = some outer ∧ w.scripts.get? y = some inner ∧
        (x = y ∨ outer.adventure ≠ inner.adventure ∨ ReflTransGen w.includes.Joins y x)
  refused : ∀ e, ((Authoring.addInclude x y order).run w).1 = .error e →
    ((∃ n : Int, e = .notFound .script n) ∨ ∃ fault, e = .invalidInclude fault) ∧
      ((Authoring.addInclude x y order).run w).2 = w
  accepted : ∀ edge, ((Authoring.addInclude x y order).run w).1 = .ok edge →
    edge = ⟨x, y, order⟩ ∧ ∃ includes,
      ((Authoring.addInclude x y order).run w).2 = { w with includes } ∧
        ∀ e, e ∈ includes.edges ↔
          e = ⟨x, y, order⟩ ∨ e ∈ w.includes.edges ∧ ¬(e.including = x ∧ e.included = y)

theorem Ordered.guards (h : Ordered w) (x y order : Int) : Guards w x y order := by
  by_cases missing : w.scripts.get? x = none ∨ w.scripts.get? y = none
  · obtain ⟨n, hrun⟩ := Authoring.addInclude_missing missing order
    constructor <;> rw [hrun]
    · exact iff_of_true ⟨n, rfl⟩ missing
    · refine iff_of_false nofun ?_
      rintro ⟨outer, inner, houter, hinner, -⟩
      simp [houter, hinner] at missing
    · intro e he
      exact ⟨.inl ⟨n, (Except.error.inj he).symm⟩, rfl⟩
    · exact nofun
  obtain ⟨hx, hy⟩ := not_or.1 missing
  obtain ⟨outer, houter⟩ := Option.ne_none_iff_exists'.1 hx
  obtain ⟨inner, hinner⟩ := Option.ne_none_iff_exists'.1 hy
  rcases Authoring.addInclude_found houter hinner order with
    ⟨against, fault, hrun⟩ | ⟨safe, hrun⟩ <;> constructor <;> rw [hrun]
  · exact iff_of_false nofun missing
  · exact iff_of_true ⟨fault, rfl⟩ ⟨outer, inner, houter, hinner, against⟩
  · intro e he
    exact ⟨.inr ⟨fault, (Except.error.inj he).symm⟩, rfl⟩
  · exact nofun
  · exact iff_of_false nofun missing
  · refine iff_of_false nofun ?_
    rintro ⟨a, b, ha, hb, against⟩
    obtain rfl : outer = a := Option.some.inj (houter.symm.trans ha)
    obtain rfl : inner = b := Option.some.inj (hinner.symm.trans hb)
    exact safe against
  · exact nofun
  · intro edge hedge
    obtain rfl : (⟨x, y, order⟩ : Include) = edge := Except.ok.inj hedge
    refine ⟨rfl, _, rfl, fun e => ?_⟩
    rw [Includes.mem_add h.distinct, Bool.eq_false_iff, ne_eq, Includes.sameEnds_iff]

/-- However scripts are added, included and removed: edges join stored scripts of one adventure and
never lead from a script back to itself, at most one leads from one script to another, and every
request for an edge is answered by the rules. -/
theorem Engine.includes_ordered (empty : w.includes = {}) {actions : List Action}
    (arranging : engine.Throughout Arranging w actions) :
    ∀ w' ∈ engine.worlds w actions, w'.includes.Acyclic ∧
      (∀ e ∈ w'.includes.edges, ∃ outer inner, w'.scripts.get? e.including = some outer ∧
        w'.scripts.get? e.included = some inner ∧ outer.adventure = inner.adventure) ∧
      w'.includes.Distinct ∧ ∀ x y order, Guards w' x y order := by
  intro w' hw'
  have ordered : Ordered w' :=
    worlds_keep (fun _ _ h arranging => h.after arranging) (.of_empty empty) arranging w' hw'
  refine ⟨ordered.acyclic, fun e he => ?_, ordered.distinct, ordered.guards⟩
  obtain ⟨adventure, ⟨outer, houter, rfl⟩, inner, hinner, same⟩ := ordered.ends e he
  exact ⟨outer, inner, houter, hinner, same.symm⟩

/-- The word on the lane includes another one, which may then not include it. -/
theorem Engine.includes_ordered_lane :
    (Engine.reciting.answer
      (Engine.reciting.left (World.lane (.memory {}))
        [.addScript .unset { adventure := 1, name := "Echo", content := "On." },
          .addInclude (1 : Int) (2 : Int) 0])
      (.addInclude (2 : Int) (1 : Int) 0) = .error (.invalidInclude (.cycle 2 1))) ∧
    ∀ w ∈ Engine.reciting.worlds (World.lane (.memory {}))
      [.addScript .unset { adventure := 1, name := "Echo", content := "On." },
        .addInclude (1 : Int) (2 : Int) 0, .addInclude (2 : Int) (1 : Int) 0,
        .removeScript (1 : Int)],
      w.includes.Acyclic ∧
        (∀ e ∈ w.includes.edges, ∃ outer inner, w.scripts.get? e.including = some outer ∧
          w.scripts.get? e.included = some inner ∧ outer.adventure = inner.adventure) ∧
        w.includes.Distinct ∧ ∀ x y order, Guards w x y order := by
  refine ⟨by decide +kernel, includes_ordered rfl ⟨?_, trivial, trivial, trivial, trivial⟩⟩
  rintro _ _ ⟨⟩
  rfl

end TextAdventure
