import TextAdventure.Proofs.Engine.Stranding
import TextAdventure.Proofs.Engine.Neighbour

/-! Worlds in which every game is somewhere, and what an operation that has begun counts on while it
waits for a script: its game stays where it is, and so does the place that it is on its way to. -/

namespace TextAdventure

open Op
open Authoring (Dropped numbers dropGame)

variable {w w' : World} {id n m : Int} {g : Game}

/-! ### Where games may go -/

/-- Locations and routes, in a world that has never known a location by another number than its own. -/
structure World.Mapped (w : World) : Prop extends World.Laid w where
  routes_ascending : w.routes.rows.Ascending
  departed : ∀ d ∈ w.locations.departed, d.2.otherId = none

/-- A stored route leads from where a game is to a location of its adventure. -/
def World.Leads (w : World) (g : Game) (destination : Int) : Prop :=
  w.Houses { g with location := destination } ∧
    ∃ n r, w.routes.get? n = some r ∧ r.origin = g.location ∧ r.destination = destination

theorem World.leads_story (same : w'.story = w.story) : w'.Leads = w.Leads := by
  have hroutes : w'.routes = w.routes := (congrArg World.routes same :)
  funext g destination
  simp only [Leads, houses_story same, hroutes]

namespace World.Mapped

theorem story (h : w.Mapped) (same : w'.story = w.story) : w'.Mapped := by
  have hadventures : w'.adventures = w.adventures := (congrArg World.adventures same :)
  have hroutes : w'.routes = w.routes := (congrArg World.routes same :)
  have hlocations : w'.locations = w.locations := (congrArg World.locations same :)
  refine ⟨⟨?_, ?_, ?_, ?_, ?_⟩, ?_, ?_⟩ <;> simp only [hadventures, hroutes, hlocations]
  · exact h.locations_ascending
  · exact h.adventure_id
  · exact h.location_id
  · exact h.route_id
  · exact h.route_ends
  · exact h.routes_ascending
  · exact h.departed

theorem replied (h : w.Mapped) (replies : List Json) : World.Mapped { w with replies } :=
  ⟨⟨h.locations_ascending, h.adventure_id, h.location_id, h.route_id, h.route_ends⟩,
    h.routes_ascending, h.departed⟩

/-- A location that is held goes by the number that it is looked up by, even if it has left. -/
theorem current (h : w.Mapped) {held : Held Location} (number : held.value.otherId = none) :
    (w.locations.current held).otherId = none := by
  unfold Table.current
  cases held.place with
  | none => exact number
  | some place =>
    dsimp only
    split
    · cases found : w.locations.get? place.1 with
      | none => exact number
      | some l => exact h.location_id _ l found
    · cases found : w.locations.departed.lookup place with
      | none => exact number
      | some l =>
        obtain ⟨before, rest, heq, -⟩ := List.lookup_eq_some_iff.1 found
        refine h.departed (place, l) ?_
        rw [heq]
        exact List.mem_append_right _ List.mem_cons_self

theorem departed_of_stored (h : w.Mapped) {d : (Int × Nat) × Location}
    (hd : d ∈ w.locations.departed ∨ ∃ n, w.locations.get? n = some d.2) : d.2.otherId = none := by
  rcases hd with hd | ⟨n, found⟩
  · exact h.departed d hd
  · exact h.location_id n d.2 found

/-- The routes that stay are those that do not satisfy `p`. -/
theorem get?_dropRoutes (h : w.Mapped) {p : Route → Bool} {r : Route}
    (found : w.routes.get? n = some r) (stays : p r = false) :
    (Authoring.dropRoutes p w.routes).get? n = some r := by
  unfold Authoring.dropRoutes
  rw [Table.get?_removeAll, if_neg, found]
  intro gone
  have number (n : Int) (r : Route) (found : w.routes.get? n = some r) : r.idAt n = n := by
    rw [Route.idAt, h.route_id n r found]
    rfl
  obtain ⟨r', found', hp⟩ := (Table.mem_numbers_select h.routes_ascending number p).1 gone
  obtain rfl : r = r' := Option.some.inj (found.symm.trans found')
  exact absurd (stays.symm.trans hp) Bool.false_ne_true

theorem withoutLocation (h : w.Mapped) (id : Int) (games : List Int) :
    (Authoring.withoutLocation id games w).Mapped := by
  refine ⟨h.toLaid.withoutLocation id games, ?_, fun d hd => ?_⟩
  all_goals unfold Authoring.withoutLocation at *; rw [Authoring.foldl_dropGame] at *
  · exact Table.ascending_removeAll h.routes_ascending _
  · exact h.departed_of_stored ((Table.mem_departed_remove hd).imp_right fun found => ⟨id, found⟩)

theorem withoutAdventure (h : w.Mapped) (id : Int) (games : List Int) :
    (Authoring.withoutAdventure id games w).Mapped := by
  refine ⟨h.toLaid.withoutAdventure id games, ?_, fun d hd => ?_⟩
  all_goals unfold Authoring.withoutAdventure at *; rw [Authoring.foldl_dropGame] at *
  · exact Table.ascending_removeAll h.routes_ascending _
  · exact h.departed_of_stored (Table.mem_departed_removeAll hd)

/-- A way stays when a location goes that is at neither of its ends. -/
theorem leads_withoutLocation (h : w.Mapped) (games : List Int) {destination : Int}
    (leads : w.Leads g destination) (origin : g.location ≠ id) (ne : destination ≠ id) :
    (Authoring.withoutLocation id games w).Leads g destination := by
  obtain ⟨houses, n, r, found, horigin, hdestination⟩ := leads
  refine ⟨(World.Laid.houses_withoutLocation id games w _).2 ⟨houses, ne⟩, n, r, ?_, horigin,
    hdestination⟩
  unfold Authoring.withoutLocation
  rw [Authoring.foldl_dropGame]
  refine h.get?_dropRoutes found (decide_eq_false (not_or.2 ⟨?_, ?_⟩))
  · rwa [horigin]
  · rwa [hdestination]

/-- A way stays when another adventure goes. -/
theorem leads_withoutAdventure (h : w.Mapped) (games : List Int) {destination : Int}
    (houses : w.Houses g) (leads : w.Leads g destination) (ne : g.adventure ≠ id) :
    (Authoring.withoutAdventure id games w).Leads g destination := by
  obtain ⟨there, n, r, found, horigin, hdestination⟩ := leads
  refine ⟨(h.toLaid.houses_withoutAdventure id games _).2 ⟨there, ne⟩, n, r, ?_, horigin,
    hdestination⟩
  obtain ⟨-, l, hl, own⟩ := houses
  unfold Authoring.withoutAdventure
  rw [Authoring.foldl_dropGame]
  refine h.get?_dropRoutes found (Bool.eq_false_iff.2 fun gone => ?_)
  obtain ⟨o, ho, hp⟩ := (h.mem_locations _).1 (List.contains_iff_mem.1 gone)
  rw [horigin] at ho
  obtain rfl : l = o := Option.some.inj (hl.symm.trans ho)
  exact ne (own.symm.trans (of_decide_eq_true hp))

end World.Mapped

/-! ### Where games are -/

/-- A store of games as its own operations keep it, none of which is under a number that is not
listed. -/
structure Games.Orderly (s : Games) : Prop where
  own : s.Own
  tidy : s.Tidy
  listed : ∀ n, s.Has n → s.Lists n
  fresh : ∀ n, s.Has n → n < s.ids.next
  next : s.Lists s.ids.next

namespace Games.Orderly

variable {s s' : Games}

theorem refresh (h : s.Orderly) (r : s.Refreshes m g s') : s'.Orderly := by
  refine ⟨r.own h.own, r.tidy h.tidy, fun n has => ?_, fun n has => ?_, ?_⟩
  · rw [r.lists]
    exact h.listed n ((r.has n).1 has)
  · rw [r.ids]
    exact h.fresh n ((r.has n).1 has)
  · rw [r.lists, r.ids]
    exact h.next

theorem remove (h : s.Orderly) (m : Int) : (s.remove m).Orderly := by
  refine ⟨h.own.remove m, Games.tidy_remove h.tidy m, fun n has => ?_, fun n has => ?_, ?_⟩
  · rw [Games.lists_remove]
    exact h.listed n ((Games.has_remove s m n).1 has).2
  · rw [Games.ids_remove]
    exact h.fresh n ((Games.has_remove s m n).1 has).2
  · rw [Games.lists_remove, Games.ids_remove]
    exact h.next

theorem add (h : s.Orderly) (g : Game) : (s.add .unset g).2.Orderly := by
  have own := h.own.add .unset g
  have lists : s.Lists (s.ids.next + 1) := by
    have next := h.next
    cases s with
    | memory t => trivial
    | files f => exact Int.le_trans next (by omega)
  rcases s.add_new g with ⟨held, s', hadd, -, -, -, puts, ids⟩ | ⟨e, hadd⟩ <;> rw [hadd] at own ⊢
  · refine ⟨own, puts.tidy h.tidy, fun n has => ?_, fun n has => ?_, ?_⟩
    · rw [puts.lists]
      rcases (puts.has n).1 has with rfl | has
      · exact h.next
      · exact h.listed n has
    · rw [ids]
      rcases (puts.has n).1 has with rfl | has
      · exact Int.lt_succ _
      · exact Int.lt_trans (h.fresh n has) (Int.lt_succ _)
    · rw [ids, puts.lists]
      exact lists
  · refine ⟨own, Games.tidy_withIds h.tidy _, fun n has => ?_, fun n has => ?_, ?_⟩
    · rw [Games.lists_withIds]
      exact h.listed n ((Games.has_withIds s _ n).1 has)
    · rw [Games.ids_withIds]
      exact Int.lt_trans (h.fresh n ((Games.has_withIds s _ n).1 has)) (Int.lt_succ _)
    · rw [Games.ids_withIds, Games.lists_withIds]
      exact lists

end Games.Orderly

/-- Every stored game is at a stored location of its adventure. -/
structure World.Settled (w : World) : Prop extends World.Mapped w where
  games : w.games.Orderly
  housed : ∀ n g, w.games.get? n = .ok (some g) → w.Houses g

namespace World.Settled

/-- The clock, the logs and the games that are held do not matter. -/
theorem congr (h : w.Settled) (games : w'.games = w.games) (story : w'.story = w.story) :
    w'.Settled := by
  refine ⟨h.toMapped.story story, games ▸ h.games, fun n g found => ?_⟩
  rw [houses_story story]
  rw [games] at found
  exact h.housed n g found

theorem replied (h : w.Settled) (replies : List Json) : World.Settled { w with replies } :=
  ⟨h.toMapped.replied replies, h.games, h.housed⟩

/-- A game is stored again, at a stored location. -/
theorem refresh {games : Games} (h : w.Settled) (r : w.games.Refreshes m g games)
    (houses : w.games.Has m → w.Houses g) : World.Settled { w with games } := by
  refine ⟨h.toMapped.story rfl, h.games.refresh r, fun n found stored => ?_⟩
  rcases r.of_get? stored with before | ⟨rfl, hread⟩
  · exact h.housed n found before
  · have has := (r.has n).1 (Games.has_of_get? stored)
    exact WellFormed.reads_houses (w := w) (houses has) hread

theorem drop (h : w.Settled) (m : Int) : (dropGame w m).Settled := by
  refine ⟨h.toMapped.story rfl, h.games.remove m, fun n g found => ?_⟩
  exact h.housed n g (Games.get?_remove_eq_some.1 found).2

theorem dropAll (h : w.Settled) (ids : List Int) : (ids.foldl dropGame w).Settled := by
  induction ids generalizing w with
  | nil => exact h
  | cons id rest ih => exact ih (h.drop id)

/-- The games that a removal does not take along are elsewhere. -/
theorem not_mem_numbers {s : Games} (own : s.Own) (tidy : s.Tidy) (lists : s.Lists n)
    {p : Game → Bool} {games : List Game} (selected : s.select p = .ok games)
    (found : s.get? n = .ok (some g)) (apart : n ∉ numbers games) : p g = false := by
  refine Bool.eq_false_iff.2 fun hp => apart (List.mem_map.2 ⟨g, ?_, ?_⟩)
  · exact (Games.mem_select tidy selected).2 ⟨hp, n, lists, found⟩
  · rw [own.get? found]
    rfl

theorem removal (h : w.Settled) {α : Type} {kind : Kind} {found : Op α} {asked : Identifier}
    {force : Bool} {belongs : Int → Game → Bool} {cut : Int → List Int → World → World}
    (readOnly : ReadOnly found) (mapped : ∀ id ids, (cut id ids w).Mapped)
    (games : ∀ id ids, (cut id ids w).games = (ids.foldl dropGame w).games)
    (houses : ∀ id ids g, w.Houses g → belongs id g = false → (cut id ids w).Houses g) :
    ((Authoring.removal kind found asked force belongs cut).run w).2.Settled := by
  rcases Authoring.run_removal readOnly asked force belongs cut w with
    ⟨e, hrun⟩ | ⟨id, taken, -, selected, -, -, hrun⟩ <;> rw [hrun]
  · exact h
  have dropped := Authoring.dropped_foldl (numbers taken) w
  refine ⟨mapped id _, ?_, fun n g found => ?_⟩
  · rw [games]
    exact (h.dropAll _).games
  · have found : (cut id (numbers taken) w).games.get? n = .ok (some g) := found
    rw [games] at found
    obtain ⟨apart, found⟩ := dropped.get?_eq_some.1 found
    refine houses id _ g (h.housed n g found) ?_
    exact not_mem_numbers h.games.own h.games.tidy (h.games.listed n (Games.has_of_get? found))
      selected found apart

theorem removeLocation (h : w.Settled) (location : Identifier) (force : Bool) :
    ((Authoring.removeLocation location force).run w).2.Settled := by
  rw [Authoring.removeLocation_eq]
  refine h.removal (.location location) h.toMapped.withoutLocation (fun _ _ => rfl)
    fun id ids g houses apart => ?_
  exact (World.Laid.houses_withoutLocation id ids w g).2 ⟨houses, of_decide_eq_false apart⟩

theorem removeAdventure (h : w.Settled) (adventure : Identifier) (force : Bool) :
    ((Authoring.removeAdventure adventure force).run w).2.Settled := by
  rw [Authoring.removeAdventure_eq]
  refine h.removal (.adventure adventure) h.toMapped.withoutAdventure (fun _ _ => rfl)
    fun id ids g houses apart => ?_
  exact (h.toLaid.houses_withoutAdventure id ids g).2 ⟨houses, of_decide_eq_false apart⟩

end World.Settled

end TextAdventure
