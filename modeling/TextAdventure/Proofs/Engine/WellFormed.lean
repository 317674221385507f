import TextAdventure.Proofs.Authoring.Aside
import TextAdventure.Proofs.Authoring.Joined
import TextAdventure.Proofs.Engine.Effect

/-! Well-formed worlds: what authors write is joined, games are somewhere in their adventures, and
only games have logs. Playing keeps them so, however it fails, and so do additions that refer to what
is there. -/

namespace TextAdventure

open Op
open Authoring (Dropped numbers)

variable {engine : Engine} {w w' : World} {id n : Int}

/-- A well-formed world. Its games go by their own numbers. -/
structure WellFormed (w : World) : Prop extends Joined w where
  games : w.games.Hold w.Houses
  logged : ∀ n, w.journal.entries n ≠ [] → w.games.Has n
  tidy : w.games.Tidy

/-- What is joined is joined however games go on, and whatever languages there are. -/
theorem Joined.apart (h : Joined w) (games : Games) (journal : Journal) (languages : Languages)
    (locks : Locks) (clock : Clock) :
    Joined { w with games, journal, languages, locks, clock } :=
  { h with }

theorem Joined.story (h : Joined w) (same : w'.story = w.story) : Joined w' := by
  have apart : Joined w.story := h.apart _ _ _ _ _
  rw [← same] at apart
  exact apart.apart w'.games w'.journal w'.languages w'.locks w'.clock

theorem World.houses_story (same : w'.story = w.story) : w'.Houses = w.Houses := by
  have hadventures : w'.adventures = w.adventures := (congrArg World.adventures same :)
  have hlocations : w'.locations = w.locations := (congrArg World.locations same :)
  funext g
  simp only [Houses, hadventures, hlocations]

/-- A game starts at a stored location of its adventure. -/
theorem World.Laid.starts (h : w.Laid) (language : Json) : Engine.Starts engine language w.Houses w := by
  intro n adventure m location code g hadventure hrow own _ hgame hlocation _
  have there : adventure.idAt n = n := by
    rw [Adventure.idAt, h.adventure_id n adventure hadventure]
    rfl
  have found := h.locations_ascending.get?_of_mem hrow
  have here : location.idAt m = m := by
    rw [Location.idAt, h.location_id m location found]
    rfl
  rw [there] at own hgame
  rw [here] at hlocation
  refine ⟨?_, location, hlocation ▸ found, own.trans hgame.symm⟩
  rw [hgame, hadventure]
  rfl

/-- A world that is well-formed still, and lists the games that it listed. -/
structure Stays (w w' : World) : Prop where
  wellFormed : WellFormed w'
  lists : w'.games.Lists = w.games.Lists

theorem Stays.trans {w'' : World} (h : Stays w w') (h' : Stays w' w'') : Stays w w'' :=
  ⟨h'.wellFormed, h'.lists.trans h.lists⟩

theorem World.ofBearings_houses (w : World) : OfBearings w.Houses := by
  intro g g' same h
  unfold Houses at h ⊢
  rw [same.adventure, same.location]
  exact h

namespace WellFormed

theorem stays (h : WellFormed w) : Stays w w := ⟨h, rfl⟩

/-- A game that is read where one was stored is where it was stored. -/
theorem reads_houses {g read : Game} (h : w.Houses g) (hread : w.games.reads g = .ok read) :
    w.Houses read := by
  obtain ⟨-, hadventure, hlocation⟩ := Games.reads_ok hread
  unfold World.Houses at h ⊢
  rw [hadventure, hlocation]
  exact h

/-! ### Games -/

/-- Playing a game on, in places where it may be. -/
theorem advance {added : List Content} (h : WellFormed w)
    (advances : Advances id w.Houses added w w') : Stays w w' := by
  refine ⟨⟨h.toJoined.story advances.story, fun n g found => ?_, fun n logged => ?_,
    advances.games.tidy h.tidy⟩, advances.games.lists⟩
  · rw [World.houses_story advances.story]
    rcases advances.games.of_get? found with found | ⟨rfl, stored, number, houses, hread⟩
    · exact h.games n g found
    · exact ⟨(Games.reads_ok hread).1.trans number, reads_houses houses hread⟩
  · exact advances.logged h.logged logged

/-- Adding a game that is somewhere in its adventure. -/
theorem addGame {g : Game} {games : Games} (h : WellFormed w) (clock : Clock)
    (number : g.id = some id) (houses : w.Houses g) (puts : w.games.Puts id g games) :
    Stays w { w with clock, games } := by
  refine ⟨⟨h.toJoined.story rfl, fun n k found => ?_, fun n logged => ?_, puts.tidy h.tidy⟩,
    puts.lists⟩
  · rcases puts.get?_eq_some.1 found with ⟨rfl, hread⟩ | ⟨-, found⟩
    · have stored : w.Houses k := reads_houses houses hread
      exact ⟨(Games.reads_ok hread).1.trans number, stored⟩
    · exact h.games n k found
  · exact (puts.has n).2 (.inr (h.logged n logged))

/-- A number that is used up changes nothing else. -/
theorem withIds (h : WellFormed w) (clock : Clock) (ids : IdSequence) :
    Stays w { w with clock, games := w.games.withIds ids } := by
  refine ⟨⟨h.toJoined.story rfl, fun n g found => ?_, fun n logged => ?_,
    Games.tidy_withIds h.tidy ids⟩, ?_⟩
  · rw [Games.get?_withIds] at found
    exact h.games n g found
  · rw [Games.has_withIds]
    exact h.logged n logged
  · cases hgames : w.games <;> rfl

/-- Dropping games, when the others are where they were. -/
theorem drop {ids : List Int} (h : WellFormed w) (joined : Joined w') (drops : Dropped ids w w')
    (houses : ∀ n g, n ∉ ids → w.games.get? n = .ok (some g) → w'.Houses g) : Stays w w' := by
  refine ⟨⟨joined, fun n g found => ?_, fun n logged => ?_, drops.tidy h.tidy⟩, drops.lists⟩
  · obtain ⟨apart, found⟩ := drops.get?_eq_some.1 found
    exact ⟨(h.games n g found).1, houses n g apart found⟩
  · exact drops.logged h.logged logged

/-- Authoring that leaves games where they are. -/
theorem aside (h : WellFormed w) (aside : Aside w w') (joined : Joined w')
    (houses : ∀ g, w.Houses g → w'.Houses g) : Stays w w' := by
  refine ⟨⟨joined, fun n g found => ?_, fun n logged => ?_, ?_⟩, by rw [aside.games]⟩
  · rw [aside.games] at found
    exact (h.games n g found).imp_right (houses g)
  · rw [aside.journal] at logged
    rw [aside.games]
    exact h.logged n logged
  · rw [aside.games]
    exact h.tidy

/-! ### Playing -/

theorem ways (h : WellFormed w) : Ways w.Houses w := by
  intro n route destination g g' hroute here hdestination houses _ hadventure _ hlocation
  obtain ⟨o, d, ho, hd, same⟩ := h.route_ends n route hroute
  obtain ⟨adventure, l, hl, own⟩ := houses
  rw [← here] at hl
  obtain rfl : o = l := Option.some.inj (ho.symm.trans hl)
  obtain rfl : destination = d := Option.some.inj (hdestination.symm.trans hd)
  have there : g'.location = route.destination := by
    rw [hlocation, Location.idAt, h.location_id _ _ hd]
    rfl
  refine ⟨hadventure ▸ adventure, destination, there ▸ hd, ?_⟩
  rw [← same, own, hadventure]

theorem startGame (quiet : engine.Quiet) (h : WellFormed w) (adventure : Identifier)
    (language : Json) : Stays w ((engine.startGame adventure language).run w).2 := by
  have starts := Engine.started quiet w.ofBearings_houses adventure language (h.toJoined.laid.starts language)
  generalize (engine.startGame adventure language).run w = outcome at starts
  cases starts with
  | refused e clock => exact h.withIds clock _
  | @added g games clock _ _ _ number houses puts _ advances =>
    have added := h.addGame clock number houses puts
    exact added.trans (added.wellFormed.advance advances)

/-- An operation on a game that is asked for plays it on, whichever it is. -/
theorem plays {α : Type} (h : WellFormed w) {game : Identifier} {f : Int → Op α}
    {Q : Int → α → List Content → World → Prop}
    (op : ∀ id, (∀ n, ((World.gameNumber game).run w).1 = .ok n → n = id) →
      Plays id w.Houses w (World.gameNumber game >>= f) (Q id)) :
    Stays w ((World.gameNumber game >>= f).run w).2 := by
  rcases (ReadOnly.gameNumber game).run_cases w with ⟨e, hnumber⟩ | ⟨id, hnumber⟩
  · rw [run_bind_error hnumber]
    exact h.stays
  · obtain ⟨added, advances, -⟩ := op id fun n hn => by
      rw [hnumber] at hn
      exact (Except.ok.inj hn).symm
    exact h.advance advances

theorem endGame (quiet : engine.Quiet) (h : WellFormed w) (game : Identifier) :
    Stays w ((engine.endGame game).run w).2 := by
  rcases (ReadOnly.gameNumber game).run_cases w with ⟨e, hnumber⟩ | ⟨id, hnumber⟩
  · rw [Engine.endGame_eq, run_bind_error hnumber]
    exact h.stays
  · have ends : Engine.Ended engine id w.Houses w ((engine.endGame game).run w) := by
      refine Engine.ended quiet w.ofBearings_houses h.games fun n hn => ?_
      rw [hnumber] at hn
      exact (Except.ok.inj hn).symm
    generalize (engine.endGame game).run w = outcome at ends
    cases ends with
    | failed e advances => exact h.advance advances
    | @gone added w' t advances _ _ =>
      have ended := h.advance advances
      exact ended.trans (ended.wellFormed.drop (ended.wellFormed.toJoined.story rfl)
        (Authoring.dropped_dropGame w' id) fun n g _ found => (ended.wellFormed.games n g found).2)

/-! ### Authoring -/

theorem removeScript (h : WellFormed w) (script : Identifier) :
    Stays w ((Authoring.removeScript script).run w).2 := by
  have aside := Aside.overlooks.removeScript script w
  rcases Authoring.run_removeScript script w with ⟨e, hrun⟩ | ⟨id, found, hfound, hrun⟩ <;>
    rw [hrun] at aside ⊢
  · exact h.stays
  · exact h.aside aside (h.toJoined.withoutScript hfound) fun g houses =>
      Authoring.houses_withoutScript houses id found

theorem addInclude (h : WellFormed w) (outer inner : Identifier) (order : Int) :
    Stays w ((Authoring.addInclude outer inner order).run w).2 := by
  have aside := Aside.overlooks.addInclude outer inner order w
  revert aside
  unfold Authoring.addInclude
  rcases (ReadOnly.script outer).run_bind_cases _ w with ⟨e, hrun⟩ | ⟨outerScript, houter, hrun⟩ <;>
    rw [hrun]
  · exact fun _ => h.stays
  rcases (ReadOnly.script inner).run_bind_cases _ w with ⟨e, hrun⟩ | ⟨innerScript, hinner, hrun⟩ <;>
    rw [hrun]
  · exact fun _ => h.stays
  obtain ⟨including, hincluding, foundOuter⟩ :=
    World.run_found (f := fun v n => v.scripts.get? n) houter
  obtain ⟨included, hincluded, foundInner⟩ :=
    World.run_found (f := fun v n => v.scripts.get? n) hinner
  rw [run_bind_ok hincluding, run_bind_ok hincluded, run_bind_ok (run_get w)]
  dsimp only
  split
  · exact fun _ => h.stays
  split
  · exact fun _ => h.stays
  rename_i hadventure
  split
  · exact fun _ => h.stays
  intro aside
  have same : innerScript.adventure = outerScript.adventure := (Decidable.not_not.1 hadventure).symm
  exact h.aside aside
    (h.toJoined.addEdge ⟨outerScript, foundOuter, rfl⟩ ⟨innerScript, foundInner, same⟩)
    fun g houses => houses

/-- Adding a record to a table. -/
theorem addTo {α : Type} (h : WellFormed w) (table : World → Table α) {put : Table α → World → World}
    (kept : ∀ t w, Aside w (put t w)) (claim : Claim) (value : α)
    (added : ∀ id ids, (table w).ids.assign claim = .ok (id, ids) →
      Joined (put { (table w).place id value with ids } w) ∧
        ∀ g, w.Houses g → (put { (table w).place id value with ids } w).Houses g) :
    Stays w ((Op.addTo table put claim value).run w).2 := by
  unfold Op.addTo
  rw [run_bind_ok (run_get w), run_bind, run_ofExcept]
  cases hadd : (table w).add claim value with
  | error e => exact h.stays
  | ok stored =>
    obtain ⟨id, t⟩ := stored
    obtain ⟨ids, hassign, rfl⟩ := Table.add_ok hadd
    obtain ⟨joined, houses⟩ := added id ids hassign
    exact h.aside (kept _ w) joined houses

section Additions

variable {claim : Claim}

theorem addAdventure {a : Adventure} (h : WellFormed w) (number : a.otherId = none)
    (scripts : ∀ id ids, w.adventures.ids.assign claim = .ok (id, ids) →
      ∀ s, a.initializationScript = some s ∨ a.terminationScript = some s → w.ScriptOf id s) :
    Stays w ((Op.addTo (·.adventures) (fun t w => { w with adventures := t }) claim a).run w).2 := by
  refine h.addTo _ (by intro t w; constructor <;> rfl) claim a fun id ids assigned =>
    ⟨h.toJoined.addAdventure number (scripts id ids assigned), fun g houses => ?_⟩
  obtain ⟨adventure, there⟩ := houses
  refine ⟨?_, there⟩
  show ((w.adventures.place id a).get? g.adventure).isSome
  rw [Table.get?_place]
  split
  · rfl
  · exact adventure

theorem addLocation {l : Location} (h : WellFormed w) (number : l.otherId = none)
    (adventure : (w.adventures.get? l.adventure).isSome)
    (scripts : ∀ s, l.enterScript = some s ∨ l.exitScript = some s → w.ScriptOf l.adventure s)
    (fresh : ∀ id ids, w.locations.ids.assign claim = .ok (id, ids) → w.locations.get? id = none) :
    Stays w ((Op.addTo (·.locations) (fun t w => { w with locations := t }) claim l).run w).2 := by
  refine h.addTo _ (by intro t w; constructor <;> rfl) claim l fun id ids assigned =>
    ⟨h.toJoined.addLocation (fresh id ids assigned) number adventure scripts, fun g houses => ?_⟩
  obtain ⟨adventure, k, hk, own⟩ := houses
  exact ⟨adventure, k, Table.get?_place_of_free (fresh id ids assigned) hk, own⟩

theorem addRoute {r : Route} (h : WellFormed w) (claim : Claim) (number : r.otherId = none)
    (ends : ∃ o d, w.locations.get? r.origin = some o ∧
      w.locations.get? r.destination = some d ∧ o.adventure = d.adventure ∧
      ∀ s, r.takenScript = some s → w.ScriptOf o.adventure s) :
    Stays w ((Op.addTo (·.routes) (fun t w => { w with routes := t }) claim r).run w).2 :=
  h.addTo _ (by intro t w; constructor <;> rfl) claim r fun _ _ _ =>
    ⟨h.toJoined.addRoute number ends, fun _ houses => houses⟩

theorem addScript {s : Script} (h : WellFormed w) (number : s.otherId = none)
    (fresh : ∀ id ids, w.scripts.ids.assign claim = .ok (id, ids) → w.scripts.get? id = none) :
    Stays w ((Op.addTo (·.scripts) (fun t w => { w with scripts := t }) claim s).run w).2 :=
  h.addTo _ (by intro t w; constructor <;> rfl) claim s fun id ids assigned =>
    ⟨h.toJoined.addScript (fresh id ids assigned) number, fun _ houses => houses⟩

end Additions

theorem addCopy (h : WellFormed w) (claim : Claim) {copy : Copy}
    (script : ∀ s, copy.script = some s → (w.scripts.get? s).isSome) :
    Stays w ((Authoring.addCopy claim copy).run w).2 := by
  show Stays w ((Op.addTo (·.copies) (fun copies w => { w with copies }) claim copy).run w).2
  refine h.addTo _ (by intro t w; constructor <;> rfl) claim copy fun id ids _ =>
    ⟨h.toJoined.copies fun c hc s hs => ?_, fun g houses => houses⟩
  rcases Table.mem_place hc with rfl | hc
  · exact script s hs
  · exact h.copy_script c hc s hs

theorem updateCopy (h : WellFormed w) (key language text : Text) :
    Stays w ((Authoring.updateCopy key language text).run w).2 := by
  have aside := Aside.overlooks.updateCopy key language text w
  revert aside
  unfold Authoring.updateCopy
  rw [run_bind_ok (run_get w)]
  cases hfind : w.copies.find? key language with
  | none => exact fun _ => h.stays
  | some found =>
    obtain ⟨id, copy⟩ := found
    refine fun aside => h.aside aside (h.toJoined.copies fun c hc s hs => ?_) fun g houses => houses
    rcases Rows.mem_insert hc with rfl | hc
    · exact h.copy_script (id, copy) (List.mem_of_find?_eq_some hfind) s hs
    · exact h.copy_script c hc s hs

theorem addLanguage (h : WellFormed w) (claim : Claim) (l : Language) :
    Stays w ((Op.addLanguage claim l).run w).2 := by
  unfold Op.addLanguage
  rw [run_bind_ok (run_get w), run_bind, run_ofExcept]
  cases w.languages.add claim l with
  | error e => exact h.stays
  | ok added => exact ⟨⟨h.toJoined.apart _ _ _ _ _, h.games, h.logged, h.tidy⟩, rfl⟩

theorem addOwnGame (h : WellFormed w) (claim : Claim) {g : Game} (houses : w.Houses g) :
    Stays w ((Op.addGame claim g).run w).2 := by
  have hrun : ((Op.addGame claim g).run w).2 = { w with games := (w.games.add claim g).2 } := rfl
  rw [hrun]
  cases hassign : w.games.ids.assign claim with
  | error e =>
    rw [Games.add_refused hassign]
    exact h.stays
  | ok assigned =>
    obtain ⟨id, ids⟩ := assigned
    rcases Games.add_assigned hassign g with ⟨held, games, hadd, -, -, puts, -⟩ | ⟨-, hadd⟩ <;>
      rw [hadd]
    · have stored : w.Houses { g with id := some id } := houses
      exact h.addGame w.clock rfl stored puts
    · exact h.withIds w.clock ids

theorem append (h : WellFormed w) {g : Game} (stored : ∀ n, g.id = some n → w.games.Has n)
    (copyKey text : Option Text) : Stays w ((Engine.append g copyKey text).run w).2 := by
  unfold Engine.append
  cases hid : g.id with
  | none => exact h.stays
  | some id =>
    show Stays w ((ofExcept (Body.ofParts copyKey text) >>= World.log g).run w).2
    rw [run_bind, run_ofExcept]
    cases Body.ofParts copyKey text with
    | error e => exact h.stays
    | ok body =>
      have has := stored id hid
      dsimp only
      rw [World.run_log_some hid]
      have advances : Advances id w.Houses [w.journal.nextEntry id body] w
          { w with journal := w.journal.appended id body } :=
        ⟨.refl id _ _, Journal.extends_appended _ _ _, rfl, fun _ => has⟩
      exact h.advance advances

theorem clearLog (h : WellFormed w) (game : Int) : Stays w ((Engine.clearLog game).run w).2 := by
  refine ⟨⟨h.toJoined.apart _ _ _ _ _, h.games, fun n logged => h.logged n fun none => logged ?_,
    h.tidy⟩, rfl⟩
  show (w.journal.clear game).entries n = []
  by_cases hn : n = game
  · rw [hn, Journal.entries_clear_self]
  · rw [Journal.entries_clear_of_ne hn]
    exact none

theorem holdFor (h : WellFormed w) (timeout : Float) (game : Int) :
    Stays w ((Op.holdFor timeout game).run w).2 := by
  unfold Op.holdFor
  rw [run_bind_ok (run_get w), run_bind, run_ofExcept]
  cases w.locks.hold timeout game .host with
  | error e => exact h.stays
  | ok locks => exact ⟨⟨h.toJoined.apart _ _ _ _ _, h.games, h.logged, h.tidy⟩, rfl⟩

theorem letGo (h : WellFormed w) (game : Int) : Stays w ((Op.letGo game).run w).2 :=
  ⟨⟨h.toJoined.apart _ _ _ _ _, h.games, h.logged, h.tidy⟩, rfl⟩

end WellFormed

/-! ### A world to start from -/

theorem World.joined_lane (games : Games) : Joined (World.lane games) := by
  have only {α : Type} {k n : Int} {value found : α} (h : Rows.get? n [(k, value)] = some found) :
      value = found := by
    exact (Prod.mk.inj (List.mem_singleton.1 (Rows.mem_of_get? h))).2.symm
  have located {n : Int} {l : Location} (h : (lane games).locations.get? n = some l) :
      l = { adventure := 1, name := "Gate", initial := true } ∨
        l = { adventure := 1, name := "Well", final := true } := by
    have hmem := Rows.mem_of_get? h
    simp only [lane, List.mem_cons, Prod.mk.injEq, List.not_mem_nil, or_false] at hmem
    exact hmem.imp And.right And.right
  refine ⟨by simp [lane, Rows.Ascending], by simp [lane, Rows.Ascending], fun n a ha => ?_,
    fun n l hl => ?_, fun n r hr => ?_, fun n s hs => ?_, fun n l hl => ?_, fun n r hr => ?_,
    fun n a ha s hs => ?_, fun n l hl s hs => ?_, fun n r o hr ho s hs => ?_, ?_, ?_⟩
  · rw [← only ha]
  · rcases located hl with rfl | rfl <;> rfl
  · rw [← only hr]
  · rw [← only hs]
  · rcases located hl with rfl | rfl <;> rfl
  · rw [← only hr]
    exact ⟨_, _, rfl, rfl, rfl⟩
  · rw [← only ha] at hs
    simp at hs
  · rcases located hl with rfl | rfl <;> simp at hs
  · rw [← only hr] at hs
    obtain rfl : 1 = s := Option.some.inj hs
    rcases located ho with rfl | rfl <;> exact ⟨_, rfl, rfl⟩
  · simp [lane]
  · simp [lane]

/-- The lane is well-formed before anything is played. -/
theorem World.wellFormed_lane : WellFormed (World.lane (.files {})) := by
  refine ⟨joined_lane _, fun n g found => ?_, fun n logged => absurd rfl logged, Folder.Tidy.empty _⟩
  exact nomatch Games.has_of_get? found

end TextAdventure
