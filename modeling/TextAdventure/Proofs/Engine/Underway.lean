import TextAdventure.Proofs.Engine.Keeping
import TextAdventure.Proofs.Engine.Settled

/-! Games that are underway while scripts act. An operation looks up where its game goes before the
scripts on the way run, and moves the game there afterwards. As long as none of them removes the place
that a held game can go to from where it is, every stored game is at a stored location. -/

namespace TextAdventure

open Op
open Authoring (Dropped numbers dropGame)

variable {engine : Engine} {w w' : World} {m n : Int} {o g : Game} {h : Held Game}
  {way : Option Int} {a : Action}

/-- The action removes a location that a game can go to which an operation holds elsewhere. -/
def Action.CutsOff (w : World) : Action → Prop
  | .removeLocation location _ => ∃ n g k r, (n, .operation) ∈ w.locks.held ∧
    w.games.get? n = .ok (some g) ∧ w.routes.get? k = some r ∧ r.origin = g.location ∧
    r.destination ≠ g.location ∧ ((Op.number .location location).run w).1 = .ok r.destination
  | _ => False

/-! ### What an operation counts on -/

/-- A game is where another one is. -/
def Game.Beside (o g : Game) : Prop := g.location = o.location ∧ g.adventure = o.adventure

theorem Game.ofCourse_beside (o : Game) : OfCourse o.Beside := by
  intro g g' adventure location _ _ beside
  exact ⟨location.trans beside.1, adventure.trans beside.2⟩

theorem World.Houses.beside {o g : Game} (houses : w.Houses o) (beside : o.Beside g) :
    w.Houses g := by
  unfold Houses at houses ⊢
  rw [beside.1, beside.2]
  exact houses

/-- An operation holds game `n`, which is where `o` is. Unless the game has been removed, it may be
there, and it can go on its way if it has one. -/
structure World.Awaits (n : Int) (o : Game) (way : Option Int) (h : Held Game) (w : World) : Prop
    extends World.Mapped w, World.Keeps n o.Beside h w where
  tidy : w.games.Tidy
  lists : w.games.Lists n
  houses : w.games.Has n → w.Houses o
  leads : w.games.Has n → ∀ destination, way = some destination → w.Leads o destination

namespace World.Awaits

theorem apart (aw : w.Awaits n o way h) (a : World.Apart n w w') : w'.Awaits n o way h := by
  refine ⟨aw.toMapped.story a.story, aw.toKeeps.apart a, a.games.tidy aw.tidy, ?_, fun has => ?_,
    fun has => ?_⟩
  · rw [a.games.lists]
    exact aw.lists
  · rw [houses_story a.story]
    exact aw.houses (a.games.has.1 has)
  · rw [leads_story a.story]
    exact aw.leads (a.games.has.1 has)

theorem replied (aw : w.Awaits n o way h) (replies : List Json) :
    World.Awaits n o way h { w with replies } :=
  ⟨aw.toMapped.replied replies, aw.toKeeps.congr rfl aw.held, aw.tidy, aw.lists, aw.houses, aw.leads⟩

/-- A removal leaves the game where it is, if it leaves it. -/
theorem removal (aw : w.Awaits n o way h) {α : Type} {kind : Kind} {found : Op α}
    {asked : Identifier} {force : Bool} {belongs : Int → Game → Bool}
    {cut : Int → List Int → World → World} (readOnly : ReadOnly found)
    (mapped : ∀ id ids, (cut id ids w).Mapped)
    (cuts : ∀ id ids, (cut id ids w).games = (ids.foldl dropGame w).games ∧
      (cut id ids w).locks = (ids.foldl dropGame w).locks)
    (spares : ∀ id ids g, ((Op.number kind asked).run w).1 = .ok id → o.Beside g →
      w.games.get? n = .ok (some g) → belongs id g = false →
      (cut id ids w).Houses o ∧
        ∀ destination, way = some destination → (cut id ids w).Leads o destination) :
    ((Authoring.removal kind found asked force belongs cut).run w).2.Awaits n o way h := by
  rcases Authoring.run_removal readOnly asked force belongs cut w with
    ⟨e, hrun⟩ | ⟨id, taken, number, selected, -, -, hrun⟩ <;> rw [hrun]
  · exact aw
  have left := aw.toKeeps.dropAll (numbers taken)
  have dropped := Authoring.dropped_foldl (numbers taken) w
  obtain ⟨games, locks⟩ := cuts id (numbers taken)
  have spared (has : (cut id (numbers taken) w).games.Has n) :
      (cut id (numbers taken) w).Houses o ∧ ∀ destination, way = some destination →
        (cut id (numbers taken) w).Leads o destination := by
    rw [games] at has
    obtain ⟨apart, stored⟩ := (dropped.has n).1 has
    obtain ⟨g, found⟩ := Games.readable_of_select aw.tidy selected stored aw.lists
    exact spares id _ g number (aw.stored g found) found
      (World.Settled.not_mem_numbers aw.own aw.tidy aw.lists selected found apart)
  refine ⟨mapped id _, left.congr games (locks ▸ left.held), games ▸ dropped.tidy aw.tidy, ?_,
    fun has => (spared has).1, fun has => (spared has).2⟩
  rw [games, dropped.lists]
  exact aw.lists

theorem removeLocation (aw : w.Awaits n o way h) (location : Identifier) (force : Bool)
    (spares : ¬(Action.removeLocation location force).CutsOff w) :
    ((Authoring.removeLocation location force).run w).2.Awaits n o way h := by
  rw [Authoring.removeLocation_eq]
  refine aw.removal (.location location) aw.toMapped.withoutLocation (fun _ _ => ⟨rfl, rfl⟩)
    fun id ids g number beside found apart => ?_
  have has := Games.has_of_get? found
  have here : o.location = g.location := beside.1.symm
  have ne : o.location ≠ id := by
    rw [here]
    exact of_decide_eq_false apart
  refine ⟨(World.Laid.houses_withoutLocation id ids w o).2 ⟨aw.houses has, ne⟩, fun d hd => ?_⟩
  -- The way ends where the route does, so the location there can only go if this cuts the game off.
  obtain ⟨-, k, r, hr, origin, destination⟩ := aw.leads has d hd
  refine aw.toMapped.leads_withoutLocation ids (aw.leads has d hd) ne fun same => spares ?_
  refine ⟨n, g, k, r, aw.held, found, hr, origin.trans here, ?_, ?_⟩ <;> rw [destination, same]
  · exact fun back => ne (here.trans back.symm)
  · exact number

theorem removeAdventure (aw : w.Awaits n o way h) (adventure : Identifier) (force : Bool) :
    ((Authoring.removeAdventure adventure force).run w).2.Awaits n o way h := by
  rw [Authoring.removeAdventure_eq]
  refine aw.removal (.adventure adventure) aw.toMapped.withoutAdventure (fun _ _ => ⟨rfl, rfl⟩)
    fun id ids g number beside found apart => ?_
  have houses := aw.houses (Games.has_of_get? found)
  have ne : o.adventure ≠ id := by
    rw [← beside.2]
    exact of_decide_eq_false apart
  exact ⟨(aw.toLaid.houses_withoutAdventure id ids o).2 ⟨houses, ne⟩, fun d hd =>
    aw.toMapped.leads_withoutAdventure ids houses (aw.leads (Games.has_of_get? found) d hd) ne⟩

theorem after (spares : engine.Spares n (World.Awaits n o way h)) (aw : w.Awaits n o way h)
    (allowed : a.ByPlayersOrRemoval) (free : ¬a.CutsOff w) : (engine.after w a).Awaits n o way h := by
  have players (players : a.ByPlayers) : (engine.after w a).Awaits n o way h :=
    spares.after aw aw.held aw.next players
  cases a with
  | removeLocation location force =>
    rw [Engine.after_of_perform rfl]
    exact aw.removeLocation location force free
  | removeAdventure adventure force =>
    rw [Engine.after_of_perform rfl]
    exact aw.removeAdventure adventure force
  | _ => exact players allowed

end World.Awaits

/-! ### Playing -/

/-- A game in the hands of an operation, in a settled world. -/
structure World.InHand (n : Int) (o : Game) (way : Option Int) (h : Held Game) (w : World) : Prop where
  settled : w.Settled
  carried : Carried n h
  awaits : w.Awaits n o way h

/-- What engines give to operations, so that worlds stay settled whatever is asked for meanwhile. -/
structure Engine.Settles (engine : Engine) : Prop extends engine.Attends where
  settled : ∀ request w, World.Settled w →
    World.Settled { (engine.host request w).2 with
      replies := (engine.host request w).2.replies ++ [(engine.host request w).1] }
  spares : ∀ n o way h, engine.Spares n (World.Awaits n o way h)

/-- Game `n` is stored as it is held, where it may be. -/
structure World.Stands (w : World) (n : Int) (h : Held Game) : Prop where
  carried : Carried n h
  has : w.games.Has n
  place : h.place = (w.games.edition n).map fun e => (n, e)
  beside : ∀ g, w.games.get? n = .ok (some g) → h.value.Beside g
  houses : w.Houses h.value

namespace World.Settled

/-- A game that is looked up stands as it is held then. -/
theorem stands (hw : w.Settled) (found : w.games.held? n = .ok (some h)) : w.Stands n h := by
  obtain ⟨-, stored⟩ := Games.held?_eq_some found
  refine ⟨hw.games.own.held? found, Games.has_of_get? stored, Games.place_of_held? found,
    fun g hg => ?_, hw.housed n _ stored⟩
  obtain rfl : h.value = g := Option.some.inj (Except.ok.inj (stored.symm.trans hg))
  exact ⟨rfl, rfl⟩

/-- So does a game that is added at a stored location. -/
theorem addGame (hw : w.Settled) (houses : w.Houses g) :
    Comes (fun h v => v.Settled ∧ ∃ n, v.Stands n h) World.Settled ((Engine.addGame g).run w) := by
  have orderly := hw.games.add g
  unfold Engine.addGame
  rw [run_of]
  rcases w.games.add_new g with ⟨h, games, hadd, value, carried, place, puts, -⟩ | ⟨e, hadd⟩ <;>
    rw [hadd] at orderly ⊢
  · have new (found : Game) (stored : games.get? w.games.ids.next = .ok (some found)) :
        w.games.reads { g with id := some w.games.ids.next } = .ok found := by
      rcases puts.get?_eq_some.1 stored with ⟨-, hread⟩ | ⟨ne, -⟩
      · exact hread
      · exact absurd rfl ne
    have there : w.Houses { g with id := some w.games.ids.next } := houses
    refine ⟨⟨hw.toMapped.story rfl, orderly, fun n found stored => ?_⟩, w.games.ids.next, carried,
      (puts.has _).2 (.inl rfl), place, fun found stored => ?_, ?_⟩
    · rcases puts.get?_eq_some.1 stored with ⟨-, hread⟩ | ⟨-, before⟩
      · exact WellFormed.reads_houses (w := w) there hread
      · exact hw.housed n found before
    · obtain ⟨-, adventure, location⟩ := Games.reads_ok (new found stored)
      rw [value]
      exact ⟨location, adventure⟩
    · rw [value]
      exact there
  · refine ⟨hw.toMapped.story rfl, orderly, fun n found stored => hw.housed n found ?_⟩
    exact (Games.get?_withIds _ _ _).symm.trans stored

end World.Settled

namespace World.InHand

theorem hands (hw : w.InHand n o way h) : w.InHands n o.Beside h w :=
  ⟨hw.awaits.toKeeps, hw.carried, .refl w⟩

/-- What is kept for the game while it is changed or stored again. -/
theorem again {start : World} {h' : Held Game} {games : Games} (hw : w.InHand n o way h)
    (hands : start.InHands n o.Beside h' { w with games }) (r : w.games.Refreshes n g games)
    (settled : World.Settled { w with games }) : World.InHand n o way h' { w with games } := by
  refine ⟨settled, hands.carried, settled.toMapped, hands.toKeeps, settled.games.tidy, ?_,
    fun has => hw.awaits.houses ((r.has n).1 has), fun has => hw.awaits.leads ((r.has n).1 has)⟩
  rw [r.lists]
  exact hw.awaits.lists

theorem refreshed {games : Games} (hw : w.InHand n o way h) (r : w.games.Refreshes n h.value games) :
    World.InHand n o way h { w with games } :=
  hw.again (hw.hands.refreshed (Game.ofCourse_beside o) r) r (hw.settled.refresh r fun has =>
    (hw.awaits.houses has).beside (hw.awaits.value has))

theorem congr (hw : w.InHand n o way h) (games : w'.games = w.games) (story : w'.story = w.story)
    (held : (n, .operation) ∈ w'.locks.held) : w'.InHand n o way h := by
  have settled := hw.settled.congr games story
  refine ⟨settled, hw.carried, settled.toMapped, hw.awaits.toKeeps.congr games held,
    settled.games.tidy, games ▸ hw.awaits.lists, ?_, ?_⟩
  · rw [games, houses_story story]
    exact hw.awaits.houses
  · rw [games, leads_story story]
    exact hw.awaits.leads

/-- An operation takes hold of a stored game. -/
theorem taken {timeout : Float} {locks : Locks} (settled : w.Settled) (stands : w.Stands n h)
    (hold : w.locks.hold timeout n = .ok locks) : World.InHand n h.value none h { w with locks } := by
  have games := settled.games
  have keeps : World.Keeps n h.value.Beside h { w with locks } :=
    ⟨games.own, games.fresh n stands.has, Locks.mem_of_hold hold, fun _ => stands.place,
      fun _ => ⟨rfl, rfl⟩, stands.beside⟩
  exact ⟨settled.congr rfl rfl, stands.carried, settled.toMapped.story rfl, keeps, games.tidy,
    games.listed n stands.has, fun _ => stands.houses, fun _ => nofun⟩

/-- A stored route leads the game on from where it is. -/
theorem sets_out {k : Int} {r : Route} (hw : w.InHand n o way h) (found : w.routes.get? k = some r)
    (origin : r.origin = o.location) : w.InHand n o (some r.destination) h := by
  obtain ⟨settled, carried, aw⟩ := hw
  refine ⟨settled, carried, aw.toMapped, aw.toKeeps, aw.tidy, aw.lists, aw.houses,
    fun has d hd => ?_⟩
  obtain rfl : r.destination = d := Option.some.inj hd
  obtain ⟨start, l, hstart, hl, same⟩ := aw.route_ends k r found
  obtain ⟨adventure, here, hhere, own⟩ := aw.houses has
  rw [← origin] at hhere
  obtain rfl : start = here := Option.some.inj (hstart.symm.trans hhere)
  exact ⟨⟨adventure, l, hl, same.symm.trans own⟩, k, r, found, origin, rfl⟩

/-- The game is stored again where its way leads. -/
theorem moved {d : Int} {games : Games} (hw : w.InHand n o (some d) h) (number : g.id = some n)
    (beside : w.games.Has n → Game.Beside { o with location := d } g)
    (r : w.games.Refreshes n g games) : World.Settled { w with games } ∧
      (games.get? n = (w.games.reads g).map some →
        World.InHand n { o with location := d } none { h with value := g } { w with games }) := by
  have there (has : w.games.Has n) : w.Houses { o with location := d } :=
    (hw.awaits.leads has d rfl).1
  have left := hw.settled.refresh r fun has => (there has).beside (beside has)
  refine ⟨left, fun again => ?_⟩
  have hands := hw.hands.stored_as (Game.ofCourse_beside _) number beside r again
  refine ⟨left, hands.carried, left.toMapped, hands.toKeeps, left.games.tidy, ?_,
    fun has => there ((r.has n).1 has), fun _ => nofun⟩
  rw [r.lists]
  exact hw.awaits.lists

/-- The game moves on to a location that goes by the number it is looked up by. -/
theorem move {d : Int} {destination : Held Location} (number : destination.value.otherId = none)
    (p : Progress) (place : Location) :
    Meets (fun w => w.InHand n o (some d) p.held ∧ w.locations.current destination = place)
      (Engine.move d place p) (fun p w => w.InHand n { o with location := d } none p.held)
      World.Settled := by
  rintro w ⟨hw, rfl⟩
  have there : (w.locations.current destination).idAt d = d := by
    rw [Location.idAt, hw.awaits.current number]
    rfl
  have ticked : World.InHand n o (some d) p.held { w with clock := w.clock.tick.2 } :=
    hw.congr rfl rfl hw.awaits.held
  have goes : (p.game.moved d (w.locations.current destination) w.clock.tick.1).id = some n :=
    hw.carried.number
  have beside (has : w.games.Has n) : Game.Beside { o with location := d }
      (p.game.moved d (w.locations.current destination) w.clock.tick.1) :=
    ⟨there, (hw.awaits.value has).2⟩
  rcases Engine.run_move d (w.locations.current destination) hw.carried hw.awaits.place with
    ⟨games, hrun, refreshes, again⟩ | ⟨e, games, hrun, refreshes⟩ <;> rw [hrun]
  · exact (ticked.moved goes beside refreshes).2 again
  · exact (ticked.moved goes beside refreshes).1

end World.InHand

namespace Engine.Settles

variable (settles : engine.Settles)
include settles

theorem consulted (hw : w.InHand n o way h) (request : Json) :
    let reply := (engine.host request { w with games := w.games.share h }).1
    let left := (engine.host request { w with games := w.games.share h }).2
    World.InHand n o way { h with value := left.games.current h }
      { left with replies := left.replies ++ [reply] } := by
  have met := hw.refreshed (.share hw.carried w.games)
  have hands := settles.toAttends.consulted (Game.ofCourse_beside o) hw.hands request
  have aw := (settles.spares n o way h).host request _ met.awaits
  exact ⟨settles.settled request _ met.settled, hands.carried, aw.toMapped, hands.toKeeps, aw.tidy,
    aw.lists, aw.houses, aw.leads⟩

theorem tends (n : Int) (o : Game) (way : Option Int) :
    engine.Tends (World.InHand n o way) World.Settled where
  fails _ _ hw := hw.settled
  changed _ w _ _ hw :=
    hw.again (hw.hands.changed rfl fun beside => beside) (.refl n o w.games) hw.settled
  logged h w body hw := by
    obtain ⟨journal, hrun⟩ := World.run_log h.value body w
    rw [hrun]
    exact hw.congr rfl rfl hw.awaits.held
  consulted h w request hw := settles.consulted hw request
  updated h := by
    intro w hw
    rcases World.run_updateGame_firm hw.carried hw.awaits.place with
      ⟨games, hrun, -, refreshes, -⟩ | ⟨e, games, hrun, refreshes⟩ <;> rw [hrun]
    · exact hw.refreshed refreshes
    · exact (hw.refreshed refreshes).settled

theorem depart (n : Int) (route : Identifier) (held : Held Game) :
    Meets (World.InHand n held.value none held) (engine.depart n route held) (fun _ => World.Settled)
      World.Settled := by
  have stays := settles.tends n held.value none
  refine .ite (fun _ => .throw (stays.fails held)) fun _ =>
    .read (.route _) (stays.fails held) fun r => .ite (fun _ => ?_) fun origin => ?_
  · exact .skip (.number _ _) (fun _ hw => hw.1.settled) fun _ => .throw fun _ hw => hw.1.settled
  have leaves := settles.tends n held.value (some r.destination)
  have arrives := settles.tends n { held.value with location := r.destination } none
  -- From here on the game has a way. The route was read before any script could run.
  refine Meets.imp (I := World.InHand n held.value (some r.destination) held) ?_ (fun w hw => ?_)
    (fun _ _ hw => hw) fun _ hw => hw
  · refine .skip (.location _) (leaves.fails held) fun _ =>
      .read (.location _) (leaves.fails held) fun destination => ?_
    rintro w ⟨hw, hdestination⟩
    have number := hw.awaits.location_id _ _ (World.run_location hdestination).2
    exact Meets.bind (leaves.travel (p := { held }) arrives (World.InHand.move number))
      (fun p => arrives.transcribe) w hw
  · obtain ⟨k, -, found⟩ := World.run_found (f := fun v n => v.routes.get? n) hw.2
    exact hw.1.sets_out found (Decidable.not_not.1 origin)

end Engine.Settles

end TextAdventure
