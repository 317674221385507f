import TextAdventure.Proofs.Authoring.Unlinking

/-! What goes with an adventure, and what is left that refers to it. Its games, its locations with the
routes that leave them, and its scripts with their include edges go. A route that arrives from another
adventure stays, as do the references of other adventures to its scripts, games of other adventures
at its locations, and the adventure's number in copy. -/

namespace TextAdventure

open Op

variable {w w' : World} {script : Int}

/-- The location of a number belongs to an adventure. -/
def World.PlaceOf (w : World) (adventure place : Int) : Prop :=
  ∃ l, w.locations.get? place = some l ∧ l.adventure = adventure

/-- A route leaves a location of an adventure, or arrives at one. -/
def World.Adjoins (w : World) (adventure : Int) (r : Route) : Prop :=
  w.PlaceOf adventure r.origin ∨ w.PlaceOf adventure r.destination

/-- The numbers that the scripts of an adventure go by. -/
def World.scriptsOf (w : World) (adventure : Int) : List Int :=
  List.map (fun s => s.2.idAt s.1) (w.scripts.select fun s => s.adventure = adventure)

/-- The numbers that the routes go by that leave the locations of an adventure. -/
def World.waysOf (w : World) (adventure : Int) : List Int :=
  List.map (fun r => r.2.idAt r.1)
    (w.routes.select fun r => (w.placesOf adventure).contains r.origin)

/-- No game that is stored satisfies `p`. -/
def Games.Lacks (s : Games) (p : Game → Prop) : Prop := ∀ n g, s.get? n = .ok (some g) → ¬p g

/-- All that refers to a script goes with an adventure. -/
structure World.Confines (w : World) (adventure script : Int) : Prop where
  adventures : ∀ n a, w.adventures.get? n = some a → a.Uses script → n = adventure
  locations : ∀ n l, w.locations.get? n = some l → l.Uses script → n ∈ w.placesOf adventure
  routes : ∀ n r, w.routes.get? n = some r → r.Uses script → n ∈ w.waysOf adventure
  copies : ∀ n c, w.copies.get? n = some c → c.Uses script → script ∈ w.scriptsOf adventure
  includes : ∀ e ∈ w.includes.edges, e.Touches script →
    e.including ∈ w.scriptsOf adventure ∨ e.included ∈ w.scriptsOf adventure

/-- What is stored in `w'` after an adventure was removed from `w` together with some games. Each kind
of reference to what belonged to the adventure is gone exactly as far as it went along: with its
locations, its scripts and the routes that leave its locations, by the numbers that they go by. -/
structure World.Cascade (id : Int) (dropped : List Int) (w w' : World) : Prop where
  gone : w'.adventures.get? id = none
  locations : w'.locations.Lacks (·.adventure = id) ↔ ∀ n, w.PlaceOf id n → n ∈ w.placesOf id
  scripts : w'.scripts.Lacks (·.adventure = id) ↔ ∀ n, w.ScriptOf id n → n ∈ w.scriptsOf id
  copies : w'.copies.Lacks (·.adventure = some id) ↔ w.copies.Lacks (·.adventure = some id)
  routes : w'.routes.Lacks (w.Adjoins id) ↔
    ∀ n r, w.routes.get? n = some r → w.Adjoins id r → n ∈ w.waysOf id
  games : ∀ p : Game → Prop,
    w'.games.Lacks p ↔ ∀ n g, w.games.get? n = .ok (some g) → p g → n ∈ dropped
  references : ∀ script, w'.FreeOf script ↔ w.Confines id script

theorem Games.lacks_dropped {ids : List Int} (drops : Authoring.Dropped ids w w') {p : Game → Prop} :
    w'.games.Lacks p ↔ ∀ n g, w.games.get? n = .ok (some g) → p g → n ∈ ids := by
  refine forall_congr' fun n => forall_congr' fun g => ?_
  rw [drops.get?_eq_some]
  tauto

theorem Copy.uses_withoutScripts {c : Copy} {scripts : List Int} :
    (scripts.foldl (fun c s => c.withoutScript s) c).Uses script ↔
      c.Uses script ∧ script ∉ scripts := Copy.withoutScripts_eq_some

namespace Authoring

/-- What is left of the world, by tables. -/
theorem withoutAdventure_eq (id : Int) (games : List Int) (w : World) :
    withoutAdventure id games w = { withoutAdventure id games w with
      adventures := w.adventures.remove id
      locations := w.locations.removeAll (w.placesOf id)
      routes := w.routes.removeAll (w.waysOf id)
      scripts := w.scripts.removeAll (w.scriptsOf id)
      includes := (w.scriptsOf id).foldl Includes.removeScript w.includes
      copies := w.copies.revise fun _ c =>
        (w.scriptsOf id).foldl (fun c s => c.withoutScript s) c } := by
  unfold withoutAdventure
  rw [foldl_dropGame]
  rfl

/-- Nothing refers to a script any more if everything that does goes with the adventure. -/
theorem freeOf_withoutAdventure (id script : Int) (games : List Int) (w : World) :
    (withoutAdventure id games w).FreeOf script ↔ w.Confines id script := by
  rw [withoutAdventure_eq]
  have adventures : (w.adventures.remove id).Lacks (·.Uses script) ↔ _ := Table.lacks_remove
  have locations : (w.locations.removeAll (w.placesOf id)).Lacks (·.Uses script) ↔ _ :=
    Table.lacks_removeAll
  have routes : (w.routes.removeAll (w.waysOf id)).Lacks (·.Uses script) ↔ _ :=
    Table.lacks_removeAll
  have copies : (w.copies.revise fun _ c => (w.scriptsOf id).foldl (fun c s => c.withoutScript s)
      c).Lacks (·.Uses script) ↔
        ∀ n c, w.copies.get? n = some c → c.Uses script → script ∈ w.scriptsOf id := by
    simp only [Table.lacks_revise, Copy.uses_withoutScripts, not_and, not_not]
  have includes : (∀ e ∈ ((w.scriptsOf id).foldl Includes.removeScript w.includes).edges,
      ¬e.Touches script) ↔ ∀ e ∈ w.includes.edges, e.Touches script →
        e.including ∈ w.scriptsOf id ∨ e.included ∈ w.scriptsOf id := by
    refine forall_congr' fun e => ?_
    rw [Includes.mem_removeScripts]
    constructor
    · intro h stored touches
      by_contra apart
      exact h ⟨stored, not_or.1 apart⟩ touches
    · rintro h ⟨stored, apart⟩ touches
      exact not_or.2 apart (h stored touches)
  exact ⟨fun h => ⟨adventures.1 h.adventures, locations.1 h.locations, routes.1 h.routes,
      copies.1 h.copies, includes.1 h.includes⟩,
    fun h => ⟨adventures.2 h.adventures, locations.2 h.locations, routes.2 h.routes,
      copies.2 h.copies, includes.2 h.includes⟩⟩

theorem placeOf_lacks_iff (id : Int) (games : List Int) (w : World) :
    (withoutAdventure id games w).locations.Lacks (·.adventure = id) ↔
      ∀ n, w.PlaceOf id n → n ∈ w.placesOf id := by
  rw [withoutAdventure_eq, Table.lacks_removeAll]
  exact forall_congr' fun n => ⟨fun h ⟨l, stored, own⟩ => h l stored own,
    fun h l stored own => h ⟨l, stored, own⟩⟩

theorem scriptOf_lacks_iff (id : Int) (games : List Int) (w : World) :
    (withoutAdventure id games w).scripts.Lacks (·.adventure = id) ↔
      ∀ n, w.ScriptOf id n → n ∈ w.scriptsOf id := by
  rw [withoutAdventure_eq, Table.lacks_removeAll]
  exact forall_congr' fun n => ⟨fun h ⟨s, stored, own⟩ => h s stored own,
    fun h s stored own => h ⟨s, stored, own⟩⟩

theorem copies_lack_adventure_iff (id : Int) (games : List Int) (w : World) :
    (withoutAdventure id games w).copies.Lacks (·.adventure = some id) ↔
      w.copies.Lacks (·.adventure = some id) := by
  have kept (scripts : List Int) (c : Copy) :
      (scripts.foldl (fun c s => c.withoutScript s) c).adventure = c.adventure := by
    induction scripts generalizing c with
    | nil => rfl
    | cons s rest ih => exact ih _
  rw [withoutAdventure_eq, Table.lacks_revise]
  simp only [kept]
  rfl

theorem cascade_withoutAdventure (id : Int) (games : List Int) (w : World) :
    w.Cascade id games (withoutAdventure id games w) where
  gone := by
    rw [withoutAdventure_eq]
    simp
  locations := placeOf_lacks_iff id games w
  scripts := scriptOf_lacks_iff id games w
  copies := copies_lack_adventure_iff id games w
  routes := by
    rw [withoutAdventure_eq]
    exact Table.lacks_removeAll
  games := fun _ => Games.lacks_dropped (dropped_withoutAdventure id games w)
  references := fun script => freeOf_withoutAdventure id script games w

/-- An adventure that is removed was stored, and its games are those that are dropped. -/
theorem run_removeAdventure {asked : Identifier} {force : Bool}
    (removed : (removeAdventure asked force).run w = (.ok (), w')) :
    ∃ id games, ((Op.number .adventure asked).run w).1 = .ok id ∧
      w.games.ofAdventure id = .ok games ∧ w' = withoutAdventure id (numbers games) w := by
  rw [removeAdventure_eq] at removed
  rcases run_removal (.adventure asked) asked force (fun id g => g.adventure = id) withoutAdventure w
    with ⟨e, hrun⟩ | ⟨id, games, number, selected, -, -, hrun⟩ <;> rw [hrun] at removed
  · exact nomatch (Prod.mk.inj removed).1
  · exact ⟨id, games, number, selected, (Prod.mk.inj removed).2.symm⟩

/-! ### Nothing left -/

end Authoring

/-- Nothing in `w'` refers to what belonged to an adventure in `w`. -/
structure World.Clear (adventure : Int) (w w' : World) : Prop where
  locations : w'.locations.Lacks (·.adventure = adventure)
  scripts : w'.scripts.Lacks (·.adventure = adventure)
  games : w'.games.Lacks (·.adventure = adventure)
  copies : w'.copies.Lacks (·.adventure = some adventure)
  routes : w'.routes.Lacks (w.Adjoins adventure)
  visitors : w'.games.Lacks (w.PlaceOf adventure ·.location)
  references : ∀ script, w.ScriptOf adventure script → w'.FreeOf script

/-- Nothing but what belongs to an adventure refers to what belongs to it. -/
structure World.Secluded (w : World) (adventure : Int) : Prop where
  copies : w.copies.Lacks (·.adventure = some adventure)
  routes : ∀ n r, w.routes.get? n = some r → w.PlaceOf adventure r.destination →
    w.PlaceOf adventure r.origin
  games : ∀ n g, w.games.get? n = .ok (some g) → w.PlaceOf adventure g.location →
    g.adventure = adventure
  adventureScripts : ∀ n a, w.adventures.get? n = some a →
    ∀ s, a.Uses s → w.ScriptOf adventure s → n = adventure
  locationScripts : ∀ n l, w.locations.get? n = some l →
    ∀ s, l.Uses s → w.ScriptOf adventure s → l.adventure = adventure
  routeScripts : ∀ n r, w.routes.get? n = some r →
    ∀ s, r.Uses s → w.ScriptOf adventure s → w.PlaceOf adventure r.origin

/-- Each number has one record, which goes by it, and every game is listed. -/
structure World.Regular (w : World) : Prop where
  locations_ascending : w.locations.rows.Ascending
  scripts_ascending : w.scripts.rows.Ascending
  routes_ascending : w.routes.rows.Ascending
  tidy : w.games.Tidy
  location_id : ∀ n l, w.locations.get? n = some l → l.otherId = none
  script_id : ∀ n s, w.scripts.get? n = some s → s.otherId = none
  route_id : ∀ n r, w.routes.get? n = some r → r.otherId = none
  game_id : ∀ n g, w.games.get? n = .ok (some g) → g.id = some n ∧ w.games.Lists n

namespace World.Regular

variable (h : w.Regular) {id n : Int}
include h

theorem mem_placesOf : n ∈ w.placesOf id ↔ w.PlaceOf id n := by
  unfold placesOf PlaceOf
  rw [Table.mem_numbers_select h.locations_ascending fun n l found => by
    rw [Location.idAt, h.location_id n l found]
    rfl]
  simp

theorem mem_scriptsOf : n ∈ w.scriptsOf id ↔ w.ScriptOf id n := by
  unfold scriptsOf ScriptOf
  rw [Table.mem_numbers_select h.scripts_ascending fun n s found => by
    rw [Script.idAt, h.script_id n s found]
    rfl]
  simp

theorem mem_waysOf {r : Route} (found : w.routes.get? n = some r) :
    n ∈ w.waysOf id ↔ w.PlaceOf id r.origin := by
  unfold waysOf
  rw [Table.mem_numbers_select h.routes_ascending fun n r found => by
    rw [Route.idAt, h.route_id n r found]
    rfl]
  simp [found, h.mem_placesOf]

theorem mem_numbers {games : List Game} (selected : w.games.ofAdventure id = .ok games) {g : Game}
    (found : w.games.get? n = .ok (some g)) : n ∈ Authoring.numbers games ↔ g.adventure = id := by
  constructor
  · intro hn
    obtain ⟨k, hk, number⟩ := List.mem_map.1 hn
    obtain ⟨hp, m, -, hget⟩ := (Games.mem_select h.tidy selected).1 hk
    obtain rfl : m = n := by
      rw [(h.game_id m k hget).1] at number
      exact number
    obtain rfl : k = g := Option.some.inj (Except.ok.inj (hget.symm.trans found))
    exact of_decide_eq_true hp
  · intro own
    have listed := (h.game_id n g found).2
    have there := (Games.mem_select h.tidy selected).2 ⟨decide_eq_true own, n, listed, found⟩
    exact List.mem_map.2 ⟨g, there, by rw [(h.game_id n g found).1, Option.getD_some]⟩

/-- All that refers to a script of the adventure goes along if no other adventure uses it. -/
theorem confines_iff (own : w.ScriptOf id script) :
    w.Confines id script ↔
      (∀ n a, w.adventures.get? n = some a → a.Uses script → n = id) ∧
      (∀ n l, w.locations.get? n = some l → l.Uses script → l.adventure = id) ∧
      ∀ n r, w.routes.get? n = some r → r.Uses script → w.PlaceOf id r.origin := by
  have mem : script ∈ w.scriptsOf id := h.mem_scriptsOf.2 own
  have place {n : Int} {l : Location} (found : w.locations.get? n = some l) :
      n ∈ w.placesOf id ↔ l.adventure = id := by
    rw [h.mem_placesOf]
    simp [PlaceOf, found]
  constructor
  · intro c
    exact ⟨c.adventures, fun n l found uses => (place found).1 (c.locations n l found uses),
      fun n r found uses => (h.mem_waysOf found).1 (c.routes n r found uses)⟩
  · rintro ⟨adventures, locations, routes⟩
    refine ⟨adventures, fun n l found uses => (place found).2 (locations n l found uses),
      fun n r found uses => (h.mem_waysOf found).2 (routes n r found uses), fun _ _ _ _ => mem,
      fun e _ touches => ?_⟩
    rcases touches with rfl | rfl
    · exact .inl mem
    · exact .inr mem

/-- Nothing is left that refers to the adventure if nothing else has. -/
theorem clear_iff {games : List Game} {w' : World} (selected : w.games.ofAdventure id = .ok games)
    (cascade : w.Cascade id (Authoring.numbers games) w') : w.Clear id w' ↔ w.Secluded id := by
  constructor
  · intro clear
    have confined {s : Int} (own : w.ScriptOf id s) :=
      (h.confines_iff own).1 ((cascade.references s).1 (clear.references s own))
    refine ⟨cascade.copies.1 clear.copies, fun n r found arrives => ?_, fun n g found there => ?_,
      fun n a found s uses own => (confined own).1 n a found uses,
      fun n l found s uses own => (confined own).2.1 n l found uses,
      fun n r found s uses own => (confined own).2.2 n r found uses⟩
    · exact (h.mem_waysOf found).1 (cascade.routes.1 clear.routes n r found (.inr arrives))
    · exact (h.mem_numbers selected found).1 ((cascade.games _).1 clear.visitors n g found there)
  · intro secluded
    refine ⟨cascade.locations.2 fun n => h.mem_placesOf.2, cascade.scripts.2 fun n => h.mem_scriptsOf.2,
      (cascade.games _).2 fun n g found => (h.mem_numbers selected found).2,
      cascade.copies.2 secluded.copies, cascade.routes.2 fun n r found meets => ?_,
      (cascade.games _).2 fun n g found there =>
        (h.mem_numbers selected found).2 (secluded.games n g found there),
      fun s own => (cascade.references s).2 ((h.confines_iff own).2
        ⟨fun n a found uses => secluded.adventureScripts n a found s uses own,
          fun n l found uses => secluded.locationScripts n l found s uses own,
          fun n r found uses => secluded.routeScripts n r found s uses own⟩)⟩
    refine (h.mem_waysOf found).2 ?_
    rcases meets with leaves | arrives
    · exact leaves
    · exact secluded.routes n r found arrives

end World.Regular

namespace Authoring

/-- What a removal of an adventure leaves, for all that may be stored. Where records go by their
numbers, nothing is left that refers to the adventure if and only if nothing else has referred to it:
copy, routes that arrive from elsewhere, games of other adventures at its locations and other
adventures that use its scripts are left as they are. -/
theorem removeAdventure_clear_iff {asked : Identifier} {force : Bool}
    (removed : (removeAdventure asked force).run w = (.ok (), w')) :
    ∃ id games, ((Op.number .adventure asked).run w).1 = .ok id ∧
      w.games.ofAdventure id = .ok games ∧ w.Cascade id (numbers games) w' ∧
      (w.Regular → (w.Clear id w' ↔ w.Secluded id)) := by
  obtain ⟨id, games, number, selected, rfl⟩ := run_removeAdventure removed
  have cascade := cascade_withoutAdventure id (numbers games) w
  exact ⟨id, games, number, selected, cascade, fun regular => regular.clear_iff selected cascade⟩

theorem regular_shared : shared.Regular := by
  have ascending {α : Type} {rows : Rows α} (h : (rows.map (·.1)).Pairwise (· < ·)) :
      rows.Ascending := List.pairwise_map.1 h
  refine ⟨ascending (by decide), ascending (by decide), ascending (by decide), .nil,
    fun n l found => ?_, fun n s found => ?_, fun n r found => ?_, fun n g found => nomatch found⟩
  · have stored : (n, l) ∈ shared.locations.rows := Rows.mem_of_get? found
    simp only [shared, List.mem_cons, Prod.mk.injEq, List.not_mem_nil, or_false] at stored
    rcases stored with ⟨-, rfl⟩ | ⟨-, rfl⟩ <;> rfl
  · have stored : (n, s) ∈ shared.scripts.rows := Rows.mem_of_get? found
    simp only [shared, List.mem_singleton, Prod.mk.injEq] at stored
    rw [stored.2]
  · have stored : (n, r) ∈ shared.routes.rows := Rows.mem_of_get? found
    simp only [shared, List.mem_singleton, Prod.mk.injEq] at stored
    rw [stored.2]

/-- The gate goes with its adventure, and the path from the cave still leads to it. -/
theorem removeAdventure_clear_iff_shared :
    ∃ w', (removeAdventure (1 : Int)).run shared = (.ok (), w') ∧ shared.Cascade 1 [] w' ∧
      shared.Regular ∧ ¬shared.Clear 1 w' := by
  have removed : (removeAdventure (1 : Int)).run shared =
      (.ok (), withoutAdventure 1 [] shared) := rfl
  obtain ⟨id, games, number, selected, cascade, clear⟩ := removeAdventure_clear_iff removed
  obtain rfl : 1 = id := Except.ok.inj number
  obtain rfl : [] = games := Except.ok.inj selected
  refine ⟨_, removed, cascade, regular_shared, fun cleared => ?_⟩
  have secluded := (clear regular_shared).1 cleared
  obtain ⟨l, stored, own⟩ := secluded.routes 1 { origin := 2, destination := 1 } rfl ⟨_, rfl, rfl⟩
  obtain rfl := Option.some.inj stored
  exact absurd own (by decide)

end Authoring

end TextAdventure
