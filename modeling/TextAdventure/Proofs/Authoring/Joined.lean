import TextAdventure.Proofs.Authoring.Removal

/-! What authors write is joined: every reference names a record that is there, of the same
adventure. Additions that respect this keep it, and so do all removals. -/

namespace TextAdventure

open Authoring

variable {w w' : World} {id n : Int}

/-- A number is that of a stored script of an adventure. -/
def World.ScriptOf (w : World) (adventure script : Int) : Prop :=
  ∃ s, w.scripts.get? script = some s ∧ s.adventure = adventure

/-- A game is at a stored location of its adventure, which is stored too. -/
def World.Houses (w : World) (g : Game) : Prop :=
  (w.adventures.get? g.adventure).isSome ∧
    ∃ l, w.locations.get? g.location = some l ∧ l.adventure = g.adventure

/-- The references of what authors write. Records go by the numbers that they are stored under. -/
structure Joined (w : World) : Prop where
  locations_ascending : w.locations.rows.Ascending
  scripts_ascending : w.scripts.rows.Ascending
  adventure_id : ∀ n a, w.adventures.get? n = some a → a.otherId = none
  location_id : ∀ n l, w.locations.get? n = some l → l.otherId = none
  route_id : ∀ n r, w.routes.get? n = some r → r.otherId = none
  script_id : ∀ n s, w.scripts.get? n = some s → s.otherId = none
  location_adventure : ∀ n l, w.locations.get? n = some l → (w.adventures.get? l.adventure).isSome
  route_ends : ∀ n r, w.routes.get? n = some r → ∃ o d, w.locations.get? r.origin = some o ∧
    w.locations.get? r.destination = some d ∧ o.adventure = d.adventure
  adventure_scripts : ∀ n a, w.adventures.get? n = some a →
    ∀ s, a.initializationScript = some s ∨ a.terminationScript = some s → w.ScriptOf n s
  location_scripts : ∀ n l, w.locations.get? n = some l →
    ∀ s, l.enterScript = some s ∨ l.exitScript = some s → w.ScriptOf l.adventure s
  route_script : ∀ n r o, w.routes.get? n = some r → w.locations.get? r.origin = some o →
    ∀ s, r.takenScript = some s → w.ScriptOf o.adventure s
  include_ends : ∀ e ∈ w.includes.edges,
    ∃ adventure, w.ScriptOf adventure e.including ∧ w.ScriptOf adventure e.included
  copy_script : ∀ c ∈ w.copies.rows, ∀ s, c.2.script = some s → (w.scripts.get? s).isSome

/-! ### Additions -/

theorem Includes.mem_place {e edge : Include} {edges : List Include} (he : e ∈ place edge edges) :
    e = edge ∨ e ∈ edges := by
  induction edges with
  | nil => exact .inl (List.mem_singleton.1 he)
  | cons first rest ih =>
    rw [place] at he
    split at he
    · exact (List.mem_cons.1 he).imp_right (List.mem_cons_of_mem _)
    · rcases List.mem_cons.1 he with rfl | he
      · exact .inr List.mem_cons_self
      · exact (ih he).imp_right (List.mem_cons_of_mem _)

namespace Joined

variable {ids : IdSequence}

theorem addAdventure {a : Adventure} (h : Joined w) (number : a.otherId = none)
    (scripts : ∀ s, a.initializationScript = some s ∨ a.terminationScript = some s →
      w.ScriptOf id s) :
    Joined { w with adventures := { w.adventures.place id a with ids } } := by
  refine { h with
    adventure_id := fun n b hb => ?_
    location_adventure := fun n l hl => ?_
    adventure_scripts := fun n b hb => ?_ }
  · rcases Table.get?_place_eq_some.1 hb with ⟨-, rfl⟩ | ⟨-, hb⟩
    · exact number
    · exact h.adventure_id n b hb
  · show ((w.adventures.place id a).get? l.adventure).isSome
    rw [Table.get?_place]
    split
    · rfl
    · exact h.location_adventure n l hl
  · rcases Table.get?_place_eq_some.1 hb with ⟨rfl, rfl⟩ | ⟨-, hb⟩
    · exact scripts
    · exact h.adventure_scripts n b hb

theorem addLocation {l : Location} (h : Joined w) (free : w.locations.get? id = none)
    (number : l.otherId = none) (adventure : (w.adventures.get? l.adventure).isSome)
    (scripts : ∀ s, l.enterScript = some s ∨ l.exitScript = some s → w.ScriptOf l.adventure s) :
    Joined { w with locations := { w.locations.place id l with ids } } := by
  have old {n : Int} {k : Location} (hk : w.locations.get? n = some k) :
      Table.get? { w.locations.place id l with ids } n = some k := Table.get?_place_of_free free hk
  refine { h with
    locations_ascending := Table.ascending_place h.locations_ascending id l
    location_id := fun n k hk => ?_
    location_adventure := fun n k hk => ?_
    route_ends := fun n r hr => ?_
    location_scripts := fun n k hk => ?_
    route_script := fun n r o hr ho => ?_ }
  · rcases Table.get?_place_eq_some.1 hk with ⟨-, rfl⟩ | ⟨-, hk⟩
    · exact number
    · exact h.location_id n k hk
  · rcases Table.get?_place_eq_some.1 hk with ⟨-, rfl⟩ | ⟨-, hk⟩
    · exact adventure
    · exact h.location_adventure n k hk
  · obtain ⟨o, d, ho, hd, same⟩ := h.route_ends n r hr
    exact ⟨o, d, old ho, old hd, same⟩
  · rcases Table.get?_place_eq_some.1 hk with ⟨-, rfl⟩ | ⟨-, hk⟩
    · exact scripts
    · exact h.location_scripts n k hk
  · obtain ⟨o', -, ho', -, -⟩ := h.route_ends n r hr
    obtain rfl : o' = o := Option.some.inj ((old ho').symm.trans ho)
    exact h.route_script n r o' hr ho'

theorem addRoute {r : Route} (h : Joined w) (number : r.otherId = none)
    (ends : ∃ o d, w.locations.get? r.origin = some o ∧
      w.locations.get? r.destination = some d ∧ o.adventure = d.adventure ∧
      ∀ s, r.takenScript = some s → w.ScriptOf o.adventure s) :
    Joined { w with routes := { w.routes.place id r with ids } } := by
  obtain ⟨o, d, ho, hd, same, scripts⟩ := ends
  refine { h with
    route_id := fun n q hq => ?_
    route_ends := fun n q hq => ?_
    route_script := fun n q o' hq ho' => ?_ } <;>
    rcases Table.get?_place_eq_some.1 hq with ⟨-, rfl⟩ | ⟨-, hq⟩
  · exact number
  · exact h.route_id n q hq
  · exact ⟨o, d, ho, hd, same⟩
  · exact h.route_ends n q hq
  · obtain rfl : o = o' := Option.some.inj (ho.symm.trans ho')
    exact scripts
  · exact h.route_script n q o' hq ho'

theorem addScript {s : Script} (h : Joined w) (free : w.scripts.get? id = none)
    (number : s.otherId = none) :
    Joined { w with scripts := { w.scripts.place id s with ids } } := by
  have still {adventure n : Int} (hn : w.ScriptOf adventure n) :
      World.ScriptOf { w with scripts := { w.scripts.place id s with ids } } adventure n := by
    obtain ⟨k, hk, hadventure⟩ := hn
    exact ⟨k, Table.get?_place_of_free free hk, hadventure⟩
  refine { h with
    scripts_ascending := Table.ascending_place h.scripts_ascending id s
    script_id := fun n k hk => ?_
    adventure_scripts := fun n a ha m hm => still (h.adventure_scripts n a ha m hm)
    location_scripts := fun n l hl m hm => still (h.location_scripts n l hl m hm)
    route_script := fun n r o hr ho m hm => still (h.route_script n r o hr ho m hm)
    include_ends := fun e he => ?_
    copy_script := fun c hc m hm => ?_ }
  · rcases Table.get?_place_eq_some.1 hk with ⟨-, rfl⟩ | ⟨-, hk⟩
    · exact number
    · exact h.script_id n k hk
  · obtain ⟨adventure, including, included⟩ := h.include_ends e he
    exact ⟨adventure, still including, still included⟩
  · obtain ⟨k, hk⟩ := Option.isSome_iff_exists.1 (h.copy_script c hc m hm)
    exact Option.isSome_iff_exists.2 ⟨k, Table.get?_place_of_free free hk⟩

/-- Copy may change as long as its scripts are stored. -/
theorem copies {copies : Copies} (h : Joined w)
    (scripts : ∀ c ∈ copies.rows, ∀ s, c.2.script = some s → (w.scripts.get? s).isSome) :
    Joined { w with copies } :=
  { h with copy_script := scripts }

theorem addEdge {edge : Include} {adventure : Int} (h : Joined w)
    (including : w.ScriptOf adventure edge.including)
    (included : w.ScriptOf adventure edge.included) :
    Joined { w with includes := w.includes.add edge } := by
  refine { h with include_ends := fun e he => ?_ }
  rcases Includes.mem_place he with rfl | he
  · exact ⟨adventure, including, included⟩
  · exact h.include_ends e he

end Joined

/-! ### Removals -/

theorem dropReference_eq_some {script s : Int} {reference : Option Int} :
    dropReference script reference = some s ↔ reference = some s ∧ s ≠ script := by
  unfold dropReference
  by_cases h : reference = some script
  · subst h
    rw [if_pos rfl]
    refine ⟨nofun, fun ⟨hs, ne⟩ => absurd (Option.some.inj hs).symm ne⟩
  · rw [if_neg h]
    refine ⟨fun hs => ⟨hs, ?_⟩, fun hs => hs.1⟩
    rintro rfl
    exact h hs

/-- Of two references. -/
theorem dropReferences {script s : Int} {reference other : Option Int}
    (h : dropReference script reference = some s ∨ dropReference script other = some s) :
    (reference = some s ∨ other = some s) ∧ s ≠ script := by
  rcases h with h | h <;> obtain ⟨hs, ne⟩ := dropReference_eq_some.1 h
  · exact ⟨.inl hs, ne⟩
  · exact ⟨.inr hs, ne⟩

/-- `w'` has records of `w` only, and no reference to a script that is `gone`. The adventures of its
locations and the ends of its routes are there. -/
structure Rests (gone : Int → Prop) (w w' : World) : Prop where
  locations_ascending : w'.locations.rows.Ascending
  scripts_ascending : w'.scripts.rows.Ascending
  script : ∀ n s, w'.scripts.get? n = some s ↔ w.scripts.get? n = some s ∧ ¬gone n
  adventure : ∀ n a', w'.adventures.get? n = some a' → ∃ a, w.adventures.get? n = some a ∧
    a'.otherId = a.otherId ∧ ∀ s, a'.initializationScript = some s ∨ a'.terminationScript = some s →
      (a.initializationScript = some s ∨ a.terminationScript = some s) ∧ ¬gone s
  location : ∀ n l', w'.locations.get? n = some l' → (w'.adventures.get? l'.adventure).isSome ∧
    ∃ l, w.locations.get? n = some l ∧ l'.adventure = l.adventure ∧ l'.otherId = l.otherId ∧
      ∀ s, l'.enterScript = some s ∨ l'.exitScript = some s →
        (l.enterScript = some s ∨ l.exitScript = some s) ∧ ¬gone s
  route : ∀ n r', w'.routes.get? n = some r' → (w'.locations.get? r'.origin).isSome ∧
    (w'.locations.get? r'.destination).isSome ∧ ∃ r, w.routes.get? n = some r ∧
      r'.origin = r.origin ∧ r'.destination = r.destination ∧ r'.otherId = r.otherId ∧
      ∀ s, r'.takenScript = some s → r.takenScript = some s ∧ ¬gone s
  edge : ∀ e ∈ w'.includes.edges, e ∈ w.includes.edges ∧ ¬gone e.including ∧ ¬gone e.included
  copy : ∀ c' ∈ w'.copies.rows, ∀ s, c'.2.script = some s →
    ∃ c ∈ w.copies.rows, c.2.script = some s ∧ ¬gone s

namespace Rests

variable {gone : Int → Prop}

/-- A script that is not gone is of the adventure that it was of. -/
theorem owned {adventure : Int} (rests : Rests gone w w') (owned : w.ScriptOf adventure n)
    (there : ¬gone n) : w'.ScriptOf adventure n := by
  obtain ⟨s, hs, hadventure⟩ := owned
  exact ⟨s, (rests.script n s).2 ⟨hs, there⟩, hadventure⟩

/-- A location is in the adventure that it was in. -/
theorem located {l l' : Location} (rests : Rests gone w w') (hl : w.locations.get? n = some l)
    (hl' : w'.locations.get? n = some l') : l'.adventure = l.adventure := by
  obtain ⟨-, k, hk, same, -⟩ := rests.location n l' hl'
  obtain rfl : l = k := Option.some.inj (hl.symm.trans hk)
  exact same

end Rests

/-- What rests of what was joined is joined. -/
theorem Joined.rest (h : Joined w) (gone : Int → Prop) (rests : Rests gone w w') : Joined w' where
  locations_ascending := rests.locations_ascending
  scripts_ascending := rests.scripts_ascending
  adventure_id n a' ha' := by
    obtain ⟨a, ha, same, -⟩ := rests.adventure n a' ha'
    exact same.trans (h.adventure_id n a ha)
  location_id n l' hl' := by
    obtain ⟨-, l, hl, -, same, -⟩ := rests.location n l' hl'
    exact same.trans (h.location_id n l hl)
  route_id n r' hr' := by
    obtain ⟨-, -, r, hr, -, -, same, -⟩ := rests.route n r' hr'
    exact same.trans (h.route_id n r hr)
  script_id n s hs := h.script_id n s ((rests.script n s).1 hs).1
  location_adventure n l' hl' := (rests.location n l' hl').1
  route_ends n r' hr' := by
    obtain ⟨origin, destination, r, hr, sameOrigin, sameDestination, -⟩ := rests.route n r' hr'
    obtain ⟨o', ho'⟩ := Option.isSome_iff_exists.1 origin
    obtain ⟨d', hd'⟩ := Option.isSome_iff_exists.1 destination
    obtain ⟨o, d, ho, hd, same⟩ := h.route_ends n r hr
    have atOrigin : o'.adventure = o.adventure := rests.located ho (sameOrigin ▸ ho')
    have atDestination : d'.adventure = d.adventure := rests.located hd (sameDestination ▸ hd')
    exact ⟨o', d', ho', hd', by rw [atOrigin, same, atDestination]⟩
  adventure_scripts n a' ha' s hs := by
    obtain ⟨a, ha, -, references⟩ := rests.adventure n a' ha'
    obtain ⟨old, there⟩ := references s hs
    exact rests.owned (h.adventure_scripts n a ha s old) there
  location_scripts n l' hl' s hs := by
    obtain ⟨-, l, hl, same, -, references⟩ := rests.location n l' hl'
    obtain ⟨old, there⟩ := references s hs
    rw [same]
    exact rests.owned (h.location_scripts n l hl s old) there
  route_script n r' o' hr' ho' s hs := by
    obtain ⟨-, -, r, hr, sameOrigin, -, -, references⟩ := rests.route n r' hr'
    obtain ⟨old, there⟩ := references s hs
    obtain ⟨o, -, ho, -, -⟩ := h.route_ends n r hr
    rw [rests.located ho (sameOrigin ▸ ho')]
    exact rests.owned (h.route_script n r o hr ho s old) there
  include_ends e he := by
    obtain ⟨old, including, included⟩ := rests.edge e he
    obtain ⟨adventure, hincluding, hincluded⟩ := h.include_ends e old
    exact ⟨adventure, rests.owned hincluding including, rests.owned hincluded included⟩
  copy_script c' hc' s hs := by
    obtain ⟨c, hc, old, there⟩ := rests.copy c' hc' s hs
    obtain ⟨k, hk⟩ := Option.isSome_iff_exists.1 (h.copy_script c hc s old)
    exact Option.isSome_iff_exists.2 ⟨k, (rests.script s k).2 ⟨hk, there⟩⟩

theorem Includes.mem_removeScript {s : Includes} {script : Int} {e : Include} :
    e ∈ (s.removeScript script).edges ↔
      e ∈ s.edges ∧ e.including ≠ script ∧ e.included ≠ script := by
  simp [removeScript]

theorem Includes.mem_removeScripts {s : Includes} {scripts : List Int} {e : Include} :
    e ∈ (scripts.foldl removeScript s).edges ↔
      e ∈ s.edges ∧ e.including ∉ scripts ∧ e.included ∉ scripts := by
  induction scripts generalizing s with
  | nil => simp
  | cons script rest ih =>
    rw [List.foldl_cons, ih, mem_removeScript]
    simp only [List.mem_cons, not_or]
    tauto

theorem Copy.withoutScripts_eq_some {c : Copy} {scripts : List Int} {script : Int} :
    (scripts.foldl (fun c s => c.withoutScript s) c).script = some script ↔
      c.script = some script ∧ script ∉ scripts := by
  induction scripts generalizing c with
  | nil => simp
  | cons s rest ih =>
    rw [List.foldl_cons, ih, withoutScript, dropReference_eq_some]
    simp only [List.mem_cons, not_or]
    tauto

namespace Authoring

theorem adventures_withoutScript (id : Int) (script : Script) (w : World) :
    (withoutScript id script w).adventures =
      w.adventures.revise fun _ a => a.withoutScript id := rfl

theorem locations_withoutScript (id : Int) (script : Script) (w : World) :
    (withoutScript id script w).locations = w.locations.revise fun n l =>
      if (List.map (·.1) (w.locations.select fun l => l.adventure = script.adventure)).contains n
      then l.withoutScript id else l := rfl

/-- Scripts are no part of where a game may be. -/
theorem houses_withoutScript {g : Game} (h : w.Houses g) (id : Int) (script : Script) :
    (withoutScript id script w).Houses g := by
  obtain ⟨adventure, l, hl, own⟩ := h
  unfold World.Houses
  rw [adventures_withoutScript, locations_withoutScript, Table.get?_revise, Table.get?_revise,
    Option.isSome_map, hl]
  refine ⟨adventure, _, rfl, ?_⟩
  split <;> exact own

end Authoring

/-- Where locations are and how routes join them. Records go by the numbers that they are stored
under. -/
structure World.Laid (w : World) : Prop where
  locations_ascending : w.locations.rows.Ascending
  adventure_id : ∀ n a, w.adventures.get? n = some a → a.otherId = none
  location_id : ∀ n l, w.locations.get? n = some l → l.otherId = none
  route_id : ∀ n r, w.routes.get? n = some r → r.otherId = none
  route_ends : ∀ n r, w.routes.get? n = some r → ∃ o d, w.locations.get? r.origin = some o ∧
    w.locations.get? r.destination = some d ∧ o.adventure = d.adventure

theorem Joined.laid (h : Joined w) : w.Laid :=
  ⟨h.locations_ascending, h.adventure_id, h.location_id, h.route_id, h.route_ends⟩

namespace World.Laid

theorem mem_locations (h : w.Laid) (p : Location → Bool) :
    n ∈ List.map (fun l => l.2.idAt l.1) (w.locations.select p) ↔
      ∃ l, w.locations.get? n = some l ∧ p l = true := by
  refine Table.mem_numbers_select h.locations_ascending (fun n l found => ?_) p
  rw [Location.idAt, h.location_id n l found]
  rfl

/-- The routes that are dropped are those that satisfy `p`. -/
theorem dropRoutes (h : w.Laid) {p : Route → Bool} {r : Route}
    (found : (Authoring.dropRoutes p w.routes).get? n = some r) :
    w.routes.get? n = some r ∧ p r = false := by
  obtain ⟨kept, found⟩ := Table.get?_removeAll_eq_some.1 found
  refine ⟨found, ?_⟩
  by_contra hp
  refine kept (Table.mem_select_numbers found (Bool.eq_true_of_not_eq_false hp) ?_)
  rw [Route.idAt, h.route_id n r found]
  rfl

theorem houses_withoutLocation (id : Int) (games : List Int) (w : World) (g : Game) :
    (Authoring.withoutLocation id games w).Houses g ↔ w.Houses g ∧ g.location ≠ id := by
  unfold Authoring.withoutLocation
  rw [Authoring.foldl_dropGame]
  simp only [World.Houses, Table.get?_remove]
  by_cases hg : g.location = id <;> simp [hg]

/-- The locations of an adventure go with it, and no others. -/
theorem location_withoutAdventure (h : w.Laid) {games : List Int} {l : Location} :
    (Authoring.withoutAdventure id games w).locations.get? n = some l ↔
      w.locations.get? n = some l ∧ l.adventure ≠ id := by
  unfold Authoring.withoutAdventure
  rw [Authoring.foldl_dropGame]
  dsimp only
  rw [Table.get?_removeAll_eq_some, h.mem_locations, and_comm]
  refine and_congr_right fun found => ?_
  simp [found]

/-- The routes that stay lead from one location of another adventure to another. -/
theorem route_withoutAdventure (h : w.Laid) {games : List Int} {r : Route}
    (found : (Authoring.withoutAdventure id games w).routes.get? n = some r) :
    w.routes.get? n = some r ∧ ∃ o d, w.locations.get? r.origin = some o ∧
      w.locations.get? r.destination = some d ∧ o.adventure = d.adventure ∧ o.adventure ≠ id := by
  unfold Authoring.withoutAdventure at found
  rw [Authoring.foldl_dropGame] at found
  obtain ⟨found, apart⟩ := h.dropRoutes found
  obtain ⟨o, d, ho, hd, same⟩ := h.route_ends n r found
  refine ⟨found, o, d, ho, hd, same, fun own => ?_⟩
  rw [List.contains_iff_mem.2 ((h.mem_locations _).2 ⟨o, ho, decide_eq_true own⟩)] at apart
  exact nomatch apart

theorem houses_withoutAdventure (h : w.Laid) (id : Int) (games : List Int) (g : Game) :
    (Authoring.withoutAdventure id games w).Houses g ↔ w.Houses g ∧ g.adventure ≠ id := by
  unfold World.Houses
  simp only [h.location_withoutAdventure]
  unfold Authoring.withoutAdventure
  rw [Authoring.foldl_dropGame, Table.get?_remove]
  by_cases hg : g.adventure = id
  · simp [hg]
  rw [if_neg hg]
  constructor
  · rintro ⟨adventure, l, ⟨hl, -⟩, own⟩
    exact ⟨⟨adventure, l, hl, own⟩, hg⟩
  · rintro ⟨⟨adventure, l, hl, own⟩, -⟩
    exact ⟨adventure, l, ⟨hl, own ▸ hg⟩, own⟩

theorem withoutLocation (h : w.Laid) (id : Int) (games : List Int) :
    (Authoring.withoutLocation id games w).Laid := by
  unfold Authoring.withoutLocation
  rw [Authoring.foldl_dropGame]
  refine { h with
    locations_ascending := Table.ascending_remove h.locations_ascending id
    location_id := fun n l hl => h.location_id n l (Table.get?_remove_eq_some.1 hl).2
    route_id := fun n r hr => h.route_id n r (h.dropRoutes hr).1
    route_ends := fun n r hr => ?_ }
  obtain ⟨found, apart⟩ := h.dropRoutes hr
  obtain ⟨origin, destination⟩ := not_or.1 (of_decide_eq_false apart)
  obtain ⟨o, d, ho, hd, same⟩ := h.route_ends n r found
  exact ⟨o, d, Table.get?_remove_eq_some.2 ⟨origin, ho⟩,
    Table.get?_remove_eq_some.2 ⟨destination, hd⟩, same⟩

theorem withoutAdventure (h : w.Laid) (id : Int) (games : List Int) :
    (Authoring.withoutAdventure id games w).Laid where
  locations_ascending := by
    unfold Authoring.withoutAdventure
    rw [Authoring.foldl_dropGame]
    exact Table.ascending_removeAll h.locations_ascending _
  adventure_id n a ha := by
    unfold Authoring.withoutAdventure at ha
    rw [Authoring.foldl_dropGame] at ha
    exact h.adventure_id n a (Table.get?_remove_eq_some.1 ha).2
  location_id n l hl := h.location_id n l (h.location_withoutAdventure.1 hl).1
  route_id n r hr := h.route_id n r (h.route_withoutAdventure hr).1
  route_ends n r hr := by
    obtain ⟨-, o, d, ho, hd, same, ne⟩ := h.route_withoutAdventure hr
    exact ⟨o, d, h.location_withoutAdventure.2 ⟨ho, ne⟩,
      h.location_withoutAdventure.2 ⟨hd, same ▸ ne⟩, same⟩

end World.Laid

namespace Joined

/-- The scripts that go with an adventure are its own. -/
theorem mem_scripts (h : Joined w) :
    n ∈ List.map (fun s => s.2.idAt s.1) (w.scripts.select fun s => s.adventure = id) ↔
      w.ScriptOf id n := by
  rw [Table.mem_numbers_select h.scripts_ascending fun n s found => ?_]
  · simp [World.ScriptOf]
  · rw [Script.idAt, h.script_id n s found]
    rfl

/-- A script goes with every reference to it. -/
theorem withoutScript {script : Script} (h : Joined w) (found : w.scripts.get? id = some script) :
    Joined (Authoring.withoutScript id script w) := by
  have own {adventure n : Int} (hn : w.ScriptOf adventure n) (ne : adventure ≠ script.adventure) :
      n ≠ id := by
    rintro rfl
    obtain ⟨s, hs, rfl⟩ := hn
    exact ne (by rw [Option.some.inj (found.symm.trans hs)])
  have routes : (Authoring.withoutScript id script w).routes =
      w.routes.revise fun _ r =>
        if (List.map (fun l => l.2.idAt l.1)
          (w.locations.select fun l => l.adventure = script.adventure)).contains r.origin
        then r.withoutScript id else r := rfl
  refine h.rest (fun n => n = id)
    { locations_ascending := ?_
      scripts_ascending := Table.ascending_remove h.scripts_ascending id
      script := fun n s => Table.get?_remove_eq_some.trans and_comm
      adventure := fun n a' ha' => ?_
      location := fun n l' hl' => ?_
      route := fun n r' hr' => ?_
      edge := fun e he => Includes.mem_removeScript.1 he
      copy := fun c' hc' s hs => ?_ }
  · rw [Authoring.locations_withoutScript]
    exact Table.ascending_revise h.locations_ascending _
  · rw [Authoring.adventures_withoutScript, Table.get?_revise] at ha'
    obtain ⟨a, ha, rfl⟩ := Option.map_eq_some_iff.1 ha'
    exact ⟨a, ha, rfl, fun s hs => dropReferences hs⟩
  · rw [Authoring.locations_withoutScript, Table.get?_revise] at hl'
    obtain ⟨l, hl, rfl⟩ := Option.map_eq_some_iff.1 hl'
    rw [Authoring.adventures_withoutScript, Table.get?_revise, Option.isSome_map]
    split
    · exact ⟨h.location_adventure n l hl, l, hl, rfl, rfl, fun s hs => dropReferences hs⟩
    · rename_i outside
      refine ⟨h.location_adventure n l hl, l, hl, rfl, rfl, fun s hs => ⟨hs, ?_⟩⟩
      refine own (h.location_scripts n l hl s hs) fun same => outside ?_
      exact List.contains_iff_mem.2 (Table.mem_select_numbers hl (decide_eq_true same) rfl)
  · rw [routes, Table.get?_revise] at hr'
    obtain ⟨r, hr, rfl⟩ := Option.map_eq_some_iff.1 hr'
    obtain ⟨o, d, ho, hd, -⟩ := h.route_ends n r hr
    rw [Authoring.locations_withoutScript, Table.get?_revise, Table.get?_revise,
      Option.isSome_map, Option.isSome_map]
    split
    · refine ⟨by simp [Route.withoutScript, ho], by simp [Route.withoutScript, hd], r, hr, rfl, rfl,
        rfl, fun s hs => dropReference_eq_some.1 hs⟩
    · rename_i outside
      refine ⟨by simp [ho], by simp [hd], r, hr, rfl, rfl, rfl, fun s hs => ⟨hs, ?_⟩⟩
      refine own (h.route_script n r o hr ho s hs) fun same => outside ?_
      exact List.contains_iff_mem.2 ((h.laid.mem_locations _).2 ⟨o, ho, decide_eq_true same⟩)
  · obtain ⟨c, hc, rfl⟩ := List.mem_map.1 hc'
    exact ⟨c, hc, dropReference_eq_some.1 hs⟩

/-- A location goes with the routes that touch it. -/
theorem withoutLocation (h : Joined w) (id : Int) (games : List Int) :
    Joined (Authoring.withoutLocation id games w) := by
  unfold Authoring.withoutLocation
  rw [Authoring.foldl_dropGame]
  have kept {n : Int} {l : Location} (ne : n ≠ id) (hl : w.locations.get? n = some l) :
      ((w.locations.remove id).get? n).isSome :=
    Option.isSome_iff_exists.2 ⟨l, Table.get?_remove_eq_some.2 ⟨ne, hl⟩⟩
  refine h.rest (fun _ => False)
    { locations_ascending := Table.ascending_remove h.locations_ascending id
      scripts_ascending := h.scripts_ascending
      script := fun n s => by simp
      adventure := fun n a ha => ⟨a, ha, rfl, fun s hs => ⟨hs, nofun⟩⟩
      location := fun n l hl => ?_
      route := fun n r hr => ?_
      edge := fun e he => ⟨he, nofun, nofun⟩
      copy := fun c hc s hs => ⟨c, hc, hs, nofun⟩ }
  · obtain ⟨-, hl⟩ := Table.get?_remove_eq_some.1 hl
    exact ⟨h.location_adventure n l hl, l, hl, rfl, rfl, fun s hs => ⟨hs, nofun⟩⟩
  · obtain ⟨found, apart⟩ := h.laid.dropRoutes hr
    obtain ⟨origin, destination⟩ := not_or.1 (of_decide_eq_false apart)
    obtain ⟨o, d, ho, hd, -⟩ := h.route_ends n r found
    exact ⟨kept origin ho, kept destination hd, r, found, rfl, rfl, rfl, fun s hs => ⟨hs, nofun⟩⟩

/-- An adventure goes with its scripts, its locations and the routes that leave them. -/
theorem withoutAdventure (h : Joined w) (id : Int) (games : List Int) :
    Joined (Authoring.withoutAdventure id games w) := by
  have laid := h.laid.withoutAdventure id games
  -- A script of another adventure stays, as a script is of one adventure only.
  have stays {adventure s : Int} (owned : w.ScriptOf adventure s) (ne : adventure ≠ id) :
      ¬w.ScriptOf id s := by
    rintro ⟨k, hk, own⟩
    obtain ⟨k', hk', rfl⟩ := owned
    obtain rfl : k = k' := Option.some.inj (hk.symm.trans hk')
    exact ne own
  refine h.rest (w.ScriptOf id)
    { locations_ascending := laid.locations_ascending
      scripts_ascending := ?ascending
      script := fun n s => ?script
      adventure := fun n a ha => ?adventure
      location := fun n l hl => ?location
      route := fun n r hr => ?route
      edge := fun e he => ?edge
      copy := fun c' hc' s hs => ?copy }
  case location =>
    obtain ⟨hl, ne⟩ := h.laid.location_withoutAdventure.1 hl
    refine ⟨?_, l, hl, rfl, rfl, fun s hs => ⟨hs, stays (h.location_scripts n l hl s hs) ne⟩⟩
    unfold Authoring.withoutAdventure
    rw [Authoring.foldl_dropGame, Table.get?_remove, if_neg ne]
    exact h.location_adventure n l hl
  case route =>
    obtain ⟨hr, o, d, ho, hd, same, ne⟩ := h.laid.route_withoutAdventure hr
    have kept {n : Int} {l : Location} (hl : w.locations.get? n = some l) (ne : l.adventure ≠ id) :
        ((Authoring.withoutAdventure id games w).locations.get? n).isSome :=
      Option.isSome_iff_exists.2 ⟨l, h.laid.location_withoutAdventure.2 ⟨hl, ne⟩⟩
    exact ⟨kept ho ne, kept hd (same ▸ ne), r, hr, rfl, rfl, rfl,
      fun s hs => ⟨hs, stays (h.route_script n r o hr ho s hs) ne⟩⟩
  all_goals unfold Authoring.withoutAdventure at *; rw [Authoring.foldl_dropGame] at *
  case ascending => exact Table.ascending_removeAll h.scripts_ascending _
  case script =>
    rw [Table.get?_removeAll_eq_some, h.mem_scripts]
    exact and_comm
  case adventure =>
    obtain ⟨ne, ha⟩ := Table.get?_remove_eq_some.1 ha
    exact ⟨a, ha, rfl, fun s hs => ⟨hs, stays (h.adventure_scripts n a ha s hs) ne⟩⟩
  case edge =>
    obtain ⟨he, including, included⟩ := Includes.mem_removeScripts.1 he
    exact ⟨he, mt h.mem_scripts.2 including, mt h.mem_scripts.2 included⟩
  case copy =>
    obtain ⟨c, hc, rfl⟩ := List.mem_map.1 hc'
    obtain ⟨hs, there⟩ := Copy.withoutScripts_eq_some.1 hs
    exact ⟨c, hc, hs, mt h.mem_scripts.2 there⟩

end Joined

end TextAdventure
