import Mathlib.Data.List.Chain
import Mathlib.Data.List.Nodup
import TextAdventure.Proofs.Authoring.Reaching
import TextAdventure.Proofs.Script.Visiting

/-! What the includes of a script are: the other stored scripts that edges lead to by way of stored
ones. While the edges are followed, `Trail.Sound` holds of what has been found so far. -/

namespace TextAdventure

open Relation (ReflTransGen TransGen)

variable {scripts : Table Script} {includes : Includes} {root id : Int} {script : Script}
  {path : List Int} {edge : Include} {edges : List Include} {t : Trail}

namespace Includes

/-- Edges lead from one script to another, and all scripts in between are stored. -/
inductive Leads (scripts : Table Script) (s : Includes) (a : Int) : Int → Prop
  | edge {b : Int} (joins : s.Joins a b) : Leads scripts s a b
  | past {b c : Int} (leads : Leads scripts s a b) (stored : (scripts.get? b).isSome)
      (joins : s.Joins b c) : Leads scripts s a c

theorem Leads.transGen {s : Includes} {a b : Int} (leads : s.Leads scripts a b) :
    TransGen s.Joins a b := by
  induction leads with
  | edge joins => exact .single joins
  | past _ _ joins ih => exact ih.tail joins

/-- An edge leads from one script to another, and both are among some scripts. -/
def JoinsIn (s : Includes) (among : List Int) (a b : Int) : Prop :=
  s.Joins a b ∧ a ∈ among ∧ b ∈ among

theorem JoinsIn.leads_mono {s : Includes} {few many : List Int} (h : few ⊆ many) {a b : Int}
    (leads : TransGen (s.JoinsIn few) a b) : TransGen (s.JoinsIn many) a b :=
  TransGen.mono (fun _ _ joins => ⟨joins.1, h joins.2.1, h joins.2.2⟩) _ _ leads

end Includes

open Includes (Leads)

/-- The numbers of the scripts that have taken their places. -/
def Trail.ids (t : Trail) : List Int := t.ordered.map (·.1)

/-- What holds of a trail from `root` while the scripts of `path` are being visited, the innermost
one first. -/
structure Trail.Sound (scripts : Table Script) (includes : Includes) (root : Int) (path : List Int)
    (t : Trail) : Prop where
  once : t.visited.Nodup
  parts : t.visited.Perm (root :: (path ++ (t.ids ++ t.missing)))
  chain : path.IsChain fun inner outer => includes.Joins outer inner
  begun : ∀ a ∈ path, (scripts.get? a).isSome
  stored : ∀ r ∈ t.ordered, scripts.get? r.1 = some r.2
  missing : ∀ a ∈ t.missing, scripts.get? a = none
  led : ∀ a ∈ t.visited, a ≠ root → Leads scripts includes root a
  followed : ∀ a ∈ t.ids, ∀ b, includes.Joins a b → b ∈ t.visited
  -- A target that had no place when its includer got one was being visited, and edges lead from it
  -- inwards to the includer.
  placed : ∀ a ∈ t.ids, ∀ b, includes.Joins a b → (scripts.get? b).isSome → b ≠ root →
    [b, a].Sublist t.ids ∨ TransGen (includes.JoinsIn (path ++ t.ids)) b a

namespace Trail.Sound

theorem start (root : Int) : Sound scripts includes root [] { visited := [root] } where
  once := List.nodup_singleton root
  parts := .refl _
  chain := .nil
  begun := nofun
  stored := nofun
  missing := nofun
  led _ ha ne := absurd (List.mem_singleton.1 ha) ne
  followed := nofun
  placed := nofun

theorem mem_visited (h : Sound scripts includes root path t) {a : Int} :
    a ∈ t.visited ↔ a = root ∨ a ∈ path ∨ a ∈ t.ids ∨ a ∈ t.missing := by
  rw [h.parts.mem_iff]
  simp only [List.mem_cons, List.mem_append]

theorem nodup (h : Sound scripts includes root path t) :
    (root :: (path ++ (t.ids ++ t.missing))).Nodup := h.parts.nodup_iff.1 h.once

theorem apart (h : Sound scripts includes root path t) :
    root ∉ t.ids ∧ root ∉ t.missing ∧ t.ids.Nodup ∧ t.missing.Nodup ∧ t.ids.Disjoint t.missing := by
  obtain ⟨rootApart, once⟩ := List.nodup_cons.1 h.nodup
  obtain ⟨-, once, -⟩ := List.nodup_append'.1 once
  obtain ⟨ids, missing, disjoint⟩ := List.nodup_append'.1 once
  refine ⟨fun hroot => rootApart ?_, fun hroot => rootApart ?_, ids, missing, disjoint⟩
  · exact List.mem_append_right _ (List.mem_append_left _ hroot)
  · exact List.mem_append_right _ (List.mem_append_right _ hroot)

theorem leads (h : Sound scripts includes root path t)
    (next : edge ∈ includes.includesOf (path.headD root)) :
    Leads scripts includes root edge.included := by
  obtain ⟨stored, hincluding⟩ := Includes.mem_includesOf.1 next
  have joins : includes.Joins (path.headD root) edge.included := ⟨edge, stored, hincluding, rfl⟩
  cases path with
  | nil => exact .edge joins
  | cons inner outer =>
    have visited : inner ∈ t.visited := h.mem_visited.2 (.inr (.inl List.mem_cons_self))
    have apart : inner ≠ root := by
      rintro rfl
      exact (List.nodup_cons.1 h.nodup).1 (List.mem_cons_self)
    exact .past (h.led inner visited apart) (h.begun inner List.mem_cons_self) joins

/-- What an edge leads to next is led to from the root, as all is that has been visited. -/
theorem led_cons (h : Sound scripts includes root path t)
    (next : edge ∈ includes.includesOf (path.headD root)) {a : Int}
    (ha : a ∈ edge.included :: t.visited) (ne : a ≠ root) : Leads scripts includes root a := by
  rcases List.mem_cons.1 ha with rfl | ha
  · exact h.leads next
  · exact h.led a ha ne

theorem enter (h : Sound scripts includes root path t)
    (next : edge ∈ includes.includesOf (path.headD root)) (new : edge.included ∉ t.visited)
    (found : scripts.get? edge.included = some script) :
    Sound scripts includes root (edge.included :: path) (t.enter edge.included) where
  once := List.nodup_cons.2 ⟨new, h.once⟩
  parts := (h.parts.cons _).trans (.swap _ _ _)
  chain := by
    obtain ⟨stored, hincluding⟩ := Includes.mem_includesOf.1 next
    cases path with
    | nil => exact .singleton _
    | cons inner outer => exact .cons_cons ⟨edge, stored, hincluding, rfl⟩ h.chain
  begun a ha := by
    rcases List.mem_cons.1 ha with rfl | ha
    · rw [found]
      rfl
    · exact h.begun a ha
  stored := h.stored
  missing := h.missing
  led a ha ne := h.led_cons next ha ne
  followed a ha b joins := List.mem_cons_of_mem _ (h.followed a ha b joins)
  placed a ha b joins hb ne := by
    rcases h.placed a ha b joins hb ne with before | back
    · exact .inl before
    · exact .inr (Includes.JoinsIn.leads_mono (List.subset_cons_self _ _) back)

theorem miss (h : Sound scripts includes root path t)
    (next : edge ∈ includes.includesOf (path.headD root)) (new : edge.included ∉ t.visited)
    (missing : scripts.get? edge.included = none) :
    Sound scripts includes root path (t.miss edge.included) where
  once := List.nodup_cons.2 ⟨new, h.once⟩
  parts := by
    have last := List.perm_append_singleton edge.included (root :: (path ++ (t.ids ++ t.missing)))
    show (edge.included :: t.visited).Perm (root :: (path ++ (t.ids ++ (t.missing ++ [_]))))
    have joined := (h.parts.cons edge.included).trans last.symm
    simpa only [List.cons_append, List.append_assoc] using joined
  chain := h.chain
  begun := h.begun
  stored := h.stored
  missing a ha := by
    rcases List.mem_append.1 ha with ha | ha
    · exact h.missing a ha
    · rw [List.mem_singleton.1 ha]
      exact missing
  led a ha ne := h.led_cons next ha ne
  followed a ha b joins := List.mem_cons_of_mem _ (h.followed a ha b joins)
  placed := h.placed

/-- Within the scripts that are being visited, edges lead inwards. -/
theorem leads_inwards (chain : (id :: path).IsChain fun inner outer => includes.Joins outer inner)
    {among : List Int} (within : id :: path ⊆ among) {a : Int} (ha : a ∈ id :: path) :
    ReflTransGen (includes.JoinsIn among) a id := by
  induction path generalizing id with
  | nil =>
    rw [List.mem_singleton.1 ha]
  | cons outer rest ih =>
    rw [List.isChain_cons_cons] at chain
    rcases List.mem_cons.1 ha with rfl | ha
    · exact .refl
    · have inner : includes.JoinsIn among outer id :=
        ⟨chain.1, within (by simp), within (by simp)⟩
      exact .tail (ih chain.2 (fun b hb => within (List.mem_cons_of_mem _ hb)) ha) inner

theorem ids_leave (t : Trail) (id : Int) (script : Script) :
    (t.leave id script).ids = t.ids ++ [id] := by
  simp [Trail.ids, Trail.leave]

theorem path_subset (path : List Int) (t : Trail) (id : Int) :
    id :: path ++ t.ids ⊆ path ++ (t.ids ++ [id]) := by
  intro a ha
  simp only [List.cons_append, List.mem_cons, List.mem_append, List.not_mem_nil, or_false] at ha ⊢
  tauto

/-- A target of the script that takes its place has its own place already, or it is being visited and
edges lead from it back to the script. -/
theorem placed_last (h : Sound scripts includes root (id :: path) t) {b : Int}
    (joins : includes.Joins id b) (visited : b ∈ t.visited) (hb : (scripts.get? b).isSome)
    (ne : b ≠ root) : [b, id].Sublist (t.ids ++ [id]) ∨
      TransGen (includes.JoinsIn (path ++ (t.ids ++ [id]))) b id := by
  rcases h.mem_visited.1 visited with rfl | hpath | hplaced | hmissing
  · exact absurd rfl ne
  · right
    have more := path_subset path t id
    have here : id ∈ path ++ (t.ids ++ [id]) := by simp
    have there : b ∈ path ++ (t.ids ++ [id]) := more (List.mem_append_left _ hpath)
    have inwards := leads_inwards h.chain (fun c hc => more (List.mem_append_left t.ids hc)) hpath
    rcases Relation.reflTransGen_iff_eq_or_transGen.1 inwards with rfl | back
    · exact .single ⟨joins, here, here⟩
    · exact back
  · exact .inl ((List.singleton_sublist.2 hplaced).append (.refl [id]))
  · rw [h.missing b hmissing] at hb
    exact nomatch hb

theorem leave (h : Sound scripts includes root (id :: path) t)
    (found : scripts.get? id = some script) (followed : ∀ b, includes.Joins id b → b ∈ t.visited) :
    Sound scripts includes root path (t.leave id script) where
  once := h.once
  parts := by
    have between : (path ++ t.ids ++ id :: t.missing).Perm (id :: (path ++ t.ids ++ t.missing)) :=
      List.perm_middle
    refine h.parts.trans (.cons _ ?_)
    rw [ids_leave]
    show (id :: (path ++ (t.ids ++ t.missing))).Perm (path ++ (t.ids ++ [id] ++ t.missing))
    simpa only [List.append_assoc, List.singleton_append] using between.symm
  chain := h.chain.tail
  begun a ha := h.begun a (List.mem_cons_of_mem _ ha)
  stored r hr := by
    rcases List.mem_append.1 hr with hr | hr
    · exact h.stored r hr
    · rw [List.mem_singleton.1 hr]
      exact found
  missing := h.missing
  led := h.led
  followed a ha b joins := by
    rw [ids_leave] at ha
    rcases List.mem_append.1 ha with ha | ha
    · exact h.followed a ha b joins
    · obtain rfl := List.mem_singleton.1 ha
      exact followed b joins
  placed a ha b joins hb ne := by
    rw [ids_leave] at ha ⊢
    rcases List.mem_append.1 ha with ha | ha
    · rcases h.placed a ha b joins hb ne with before | back
      · exact .inl (before.trans (List.sublist_append_left _ _))
      · exact .inr (Includes.JoinsIn.leads_mono (path_subset path t id) back)
    · obtain rfl := List.mem_singleton.1 ha
      exact h.placed_last joins (followed b joins) hb ne

/-- Following edges keeps to all of this, and every target is visited then. -/
theorem follow (edges : List Include) (t : Trail) :
    ∀ path, Sound scripts includes root path t →
      (∀ e ∈ edges, e ∈ includes.includesOf (path.headD root)) →
      Sound scripts includes root path (Trail.follow scripts includes edges t).1 ∧
        ∀ e ∈ edges, e.included ∈ (Trail.follow scripts includes edges t).1.visited := by
  induction edges, t using Trail.follow.induct scripts includes with
  | case1 t =>
    intro path h _
    rw [follow_nil]
    exact ⟨h, fun e he => absurd he List.not_mem_nil⟩
  | case2 t edge edges seen ih =>
    intro path h here
    obtain ⟨sound, visited⟩ := ih path h fun e he => here e (List.mem_cons_of_mem _ he)
    have kept := (Trail.follow scripts includes edges t).2
    rw [follow_seen seen]
    refine ⟨sound, fun e he => ?_⟩
    rcases List.mem_cons.1 he with rfl | he
    · exact kept seen
    · exact visited e he
  | case3 t edge edges new missing _ _ _ ih =>
    intro path h here
    obtain ⟨sound, visited⟩ := ih path (h.miss (here edge List.mem_cons_self) new missing)
      fun e he => here e (List.mem_cons_of_mem _ he)
    have kept := (Trail.follow scripts includes edges (t.miss edge.included)).2
    rw [follow_missing new missing]
    refine ⟨sound, fun e he => ?_⟩
    rcases List.mem_cons.1 he with rfl | he
    · exact kept List.mem_cons_self
    · exact visited e he
  | case4 t edge edges new script found u inside hinner _ _ _ inner outer =>
    intro path h here
    -- Inside the script it is the innermost one of the path; behind it, the path is as before.
    obtain ⟨within, all⟩ := inner (edge.included :: path)
      (h.enter (here edge List.mem_cons_self) new found) fun e he => he
    rw [hinner] at within all
    have left : Sound scripts includes root path (u.leave edge.included script) := by
      apply within.leave found
      rintro b ⟨e, he, hincluding, rfl⟩
      exact all e (Includes.mem_includesOf.2 ⟨he, hincluding⟩)
    obtain ⟨sound, visited⟩ := outer path left fun e he => here e (List.mem_cons_of_mem _ he)
    have kept := (Trail.follow scripts includes edges (u.leave edge.included script)).2
    rw [follow_found new found, hinner]
    refine ⟨sound, fun e he => ?_⟩
    rcases List.mem_cons.1 he with rfl | he
    · exact kept (inside List.mem_cons_self)
    · exact visited e he

/-- When the root has been visited, all that its edges lead to has been, too. -/
theorem visit (scripts : Table Script) (includes : Includes) (root : Int) :
    Sound scripts includes root [] (Trail.visit scripts includes root) ∧
      ∀ b, includes.Joins root b → b ∈ (Trail.visit scripts includes root).visited := by
  obtain ⟨sound, visited⟩ := follow (includes.includesOf root) { visited := [root] } []
    (start root) fun e he => he
  refine ⟨sound, ?_⟩
  rintro b ⟨e, he, hincluding, rfl⟩
  exact visited e (Includes.mem_includesOf.2 ⟨he, hincluding⟩)

end Trail.Sound

/-! ### What is found -/

section Found

variable (scripts includes root)

theorem mem_visit_ids (id : Int) : id ∈ (Trail.visit scripts includes root).ids ↔
    id ≠ root ∧ (scripts.get? id).isSome ∧ includes.Leads scripts root id := by
  obtain ⟨sound, first⟩ := Trail.Sound.visit scripts includes root
  have place (a : Int) (ha : a ∈ (Trail.visit scripts includes root).visited) (ne : a ≠ root)
      (stored : (scripts.get? a).isSome) : a ∈ (Trail.visit scripts includes root).ids := by
    rcases sound.mem_visited.1 ha with same | onPath | placed | missing
    · exact absurd same ne
    · cases onPath
    · exact placed
    · rw [sound.missing a missing] at stored
      cases stored
  constructor
  · intro h
    obtain ⟨r, hr, rfl⟩ := List.mem_map.1 h
    have visited := sound.mem_visited.2 (.inr (.inr (.inl h)))
    have ne : r.1 ≠ root := fun same => sound.apart.1 (same ▸ h)
    refine ⟨ne, ?_, sound.led _ visited ne⟩
    rw [sound.stored r hr]
    rfl
  · rintro ⟨ne, stored, leads⟩
    refine place id ?_ ne stored
    -- Along the way every target is visited, since the one before it was.
    clear ne stored
    induction leads with
    | edge joins => exact first _ joins
    | @past a b leads stored joins ih =>
      by_cases same : a = root
      · exact first _ (same ▸ joins)
      · exact sound.followed a (place a ih same stored) b joins

theorem mem_visit_missing (id : Int) : id ∈ (Trail.visit scripts includes root).missing ↔
    id ≠ root ∧ scripts.get? id = none ∧ ∃ e ∈ includes.edges, e.included = id ∧
      (e.including = root ∨ e.including ∈ (Trail.visit scripts includes root).ids) := by
  obtain ⟨sound, first⟩ := Trail.Sound.visit scripts includes root
  constructor
  · intro h
    have visited := sound.mem_visited.2 (.inr (.inr (.inr h)))
    have ne : id ≠ root := fun same => sound.apart.2.1 (same ▸ h)
    refine ⟨ne, sound.missing id h, ?_⟩
    cases sound.led id visited ne with
    | edge joins =>
      obtain ⟨e, he, hincluding, hincluded⟩ := joins
      exact ⟨e, he, hincluded, .inl hincluding⟩
    | @past a _ leads stored joins =>
      obtain ⟨e, he, rfl, hincluded⟩ := joins
      refine ⟨e, he, hincluded, ?_⟩
      by_cases same : e.including = root
      · exact .inl same
      · exact .inr ((mem_visit_ids scripts includes root _).2 ⟨same, stored, leads⟩)
  · rintro ⟨ne, missing, e, he, rfl, source⟩
    have visited : e.included ∈ (Trail.visit scripts includes root).visited := by
      rcases source with hroot | hplaced
      · exact first _ ⟨e, he, hroot, rfl⟩
      · exact sound.followed _ hplaced _ ⟨e, he, rfl, rfl⟩
    rcases sound.mem_visited.1 visited with same | onPath | placed | missed
    · exact absurd same ne
    · cases onPath
    · obtain ⟨-, stored, -⟩ := (mem_visit_ids scripts includes root _).1 placed
      rw [missing] at stored
      cases stored
    · exact missed

/-- The includes of a script are the other stored scripts that edges lead to by way of stored ones,
each of them once. What is missing are the targets of its edges, and of its includes' edges, that are
not stored, each of them once. The script itself is neither. -/
theorem resolveIncludes_reaches :
    let found := resolveIncludes scripts includes root
    let ids := found.scripts.map (·.1)
    (∀ id script, (id, script) ∈ found.scripts ↔
      id ≠ root ∧ scripts.get? id = some script ∧ includes.Leads scripts root id) ∧
    ids.Nodup ∧
    (∀ id, id ∈ found.missing ↔ id ≠ root ∧ scripts.get? id = none ∧
      ∃ e ∈ includes.edges, e.included = id ∧ (e.including = root ∨ e.including ∈ ids)) ∧
    found.missing.Nodup ∧
    ids.Disjoint found.missing ∧ root ∉ ids ∧ root ∉ found.missing := by
  intro found ids
  obtain ⟨sound, -⟩ := Trail.Sound.visit scripts includes root
  have hfound : found = _ := resolveIncludes_eq scripts includes root
  have hids : ids = (Trail.visit scripts includes root).ids := by
    show found.scripts.map (·.1) = _
    rw [hfound]
    rfl
  have hmissing : found.missing = (Trail.visit scripts includes root).missing := by rw [hfound]
  rw [hids, hmissing]
  obtain ⟨rootPlaced, rootMissing, idsOnce, missingOnce, disjoint⟩ := sound.apart
  refine ⟨fun id script => ?_, idsOnce, mem_visit_missing scripts includes root, missingOnce,
    disjoint, rootPlaced, rootMissing⟩
  have stored (r : Int × Script) (hr : r ∈ found.scripts) : scripts.get? r.1 = some r.2 := by
    rw [hfound] at hr
    exact sound.stored r hr
  have mem := mem_visit_ids scripts includes root id
  rw [← hids] at mem
  constructor
  · intro h
    obtain ⟨ne, -, leads⟩ := mem.1 (List.mem_map.2 ⟨_, h, rfl⟩)
    exact ⟨ne, stored _ h, leads⟩
  · rintro ⟨ne, hget, leads⟩
    obtain ⟨⟨id, other⟩, hr, rfl⟩ := List.mem_map.1 (mem.2 ⟨ne, by rw [hget]; rfl, leads⟩)
    obtain rfl : other = script := Option.some.inj ((stored _ hr).symm.trans hget)
    exact hr

end Found

/-- A tale, and what it may include. -/
def Table.trio : Table Script :=
  { rows := [(1, { adventure := 1, name := "Tale", content := "Tale" }),
      (2, { adventure := 1, name := "Hall", content := "Hall" }),
      (3, { adventure := 1, name := "Door", content := "Door" })], ids := ⟨4⟩ }

/-- The door is behind a script that is missing. -/
example :
    let found := resolveIncludes .trio ⟨[⟨1, 2, 0⟩, ⟨2, 9, 0⟩, ⟨9, 3, 0⟩]⟩ 1
    found.scripts.map (·.1) = [2] ∧ found.missing = [9] := by decide +kernel

end TextAdventure
