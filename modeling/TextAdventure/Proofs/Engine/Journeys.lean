import TextAdventure.Proofs.Engine.Busy
import TextAdventure.Proofs.Engine.Itinerary
import TextAdventure.Proofs.Engine.Stopped

/-! Taking a route is the journey along its itinerary. What a script does to its game and what it
shows hang on the game and on the story, so each step does in the world what it does to the journey,
and both end at the same step. -/

namespace TextAdventure

open Op
open Table (HeldAt)

variable {engine : Engine} {n adventure : Int} {v w : World} {locks : Locks} {j : Journey}
  {p : Progress} {added : List Content}

/-! ### Scripts -/

/-- A script runs for the same game in both worlds, has shown the same, and finds the same copy. -/
structure Stage.Echoes (n : Int) (s s' : Stage World) : Prop where
  game : s'.game = s.game
  number : s.game.id = some n
  shown : s'.emitted.map Content.body = s.emitted.map Content.body
  copies : s'.around.copies = s.around.copies

namespace Stage.Echoes

variable {s s' : Stage World}

theorem display (engine : Engine) (h : Echoes n s s') (body : Body) :
    (s'.display engine.place body).1 = (s.display engine.place body).1 ∧
      Echoes n (s.display engine.place body).2 (s'.display engine.place body).2 := by
  have number' : s'.game.id = some n := by rw [h.game, h.number]
  rw [display_eq engine h.number, display_eq engine number']
  refine ⟨rfl, h.game, h.number, ?_, h.copies⟩
  simp only [List.map_append, h.shown, List.map_cons, Journal.nextEntry]

theorem congruence (engine : Engine) (n : Int) : Stage.Congruence engine (Echoes n) where
  state h := by rw [h.game]
  bearings h := by
    unfold Stage.bearings
    rw [h.game]
  copies h := h.copies
  changed state h := ⟨by rw [h.game], h.number, h.shown, h.copies⟩
  display body h := h.display engine body

end Stage.Echoes

/-- What a script does to a game and what it shows hang on the game and on the story. -/
theorem Engine.outcome_echoes (quiet : engine.Quiet) {runtime : Runtime}
    (hruntime : engine.runtime = some runtime) {held : Held Game} (number : held.value.id = some n)
    (story : v.story = w.story) (id : Int) (script : Script) :
    let here := engine.outcome held id script runtime v
    let there := engine.outcome { value := held.value } id script runtime w
    here.1 = there.1 ∧ Stage.Echoes n there.2 here.2 := by
  have scripts : v.scripts = w.scripts := (congrArg World.scripts story :)
  have includes : v.includes = w.includes := (congrArg World.includes story :)
  have copies : v.copies = w.copies := (congrArg World.copies story :)
  unfold outcome
  rw [scripts, includes]
  exact (Stage.Echoes.congruence engine n).run _ _ (quiet runtime hruntime _)
    ⟨rfl, number, rfl, copies⟩

/-! ### Worlds -/

/-- From `w` on, game `n` has come along a journey, which has logged `added`. Its record is as the
journey has stored it, and as it was if the journey has not. Nothing else has changed, but for the
locks, which are as given. -/
structure World.Tracks (n : Int) (w : World) (locks : Locks) (j : Journey) (added : List Content)
    (v : World) : Prop where
  story : v.story = w.story
  locks : v.locks = locks
  clock : v.clock = j.clock
  journal : Journal.Extends n added w.journal v.journal
  shown : added.map Content.body = j.shown
  record : v.games.get? n = match j.stored with
    | none => w.games.get? n
    | some game => (w.games.reads game).map some
  others : ∀ m, m ≠ n → v.games.get? m = w.games.get? m
  has : ∀ m, v.games.Has m ↔ w.games.Has m
  filed : v.games.Filed ↔ w.games.Filed
  reads : v.games.reads = w.games.reads

namespace World.Tracks

variable {game : Game} {games : Games}

theorem logged (h : World.Tracks n w locks j added v) {more : List Content} {journal : Journal}
    (extends' : Journal.Extends n more v.journal journal) :
    World.Tracks n w locks { j with shown := j.shown ++ more.map Content.body } (added ++ more)
      { v with journal } :=
  { h with
    journal := h.journal.trans extends'
    shown := by rw [List.map_append, h.shown] }

theorem ticked (h : World.Tracks n w locks j added v) :
    World.Tracks n w locks { j with clock := j.clock.tick.2 } added
      { v with clock := v.clock.tick.2 } :=
  { h with clock := by rw [h.clock] }

theorem puts (h : World.Tracks n w locks j added v) (stored : w.games.Has n)
    (puts : v.games.Puts n game games) :
    World.Tracks n w locks { j with game, stored := some game } added { v with games } := by
  refine { h with
    record := ?_
    others := fun m ne => ?_
    has := fun m => ?_
    filed := puts.filed.trans h.filed
    reads := puts.reads.trans h.reads }
  · dsimp only
    rw [puts.get?, if_pos rfl, h.reads]
  · dsimp only
    rw [puts.get?, if_neg ne, h.others m ne]
  · dsimp only
    rw [puts.has, h.has]
    exact ⟨fun has => has.elim (fun same => same ▸ stored) id, .inr⟩

/-- What a world tells of a journey is apart from what the game has become since it was stored. -/
theorem unstored (h : World.Tracks n w locks j added v) (game : Game) :
    World.Tracks n w locks { j with game } added v :=
  { h with }

end World.Tracks

/-- An operation holds the game of a journey, and has noted what the journey has logged. -/
structure Underway (n adventure : Int) (w : World) (locks : Locks) (j : Journey) (p : Progress)
    (v : World) : Prop where
  game : p.game = j.game
  number : j.game.id = some n
  adventure : j.game.adventure = adventure
  place : HeldAt n p.held
  stored : w.games.Has n
  tracks : World.Tracks n w locks j p.entries v

/-- What comes of an operation is what comes of a journey. -/
inductive Arrives (n adventure : Int) (w : World) (locks : Locks) :
    Except Error Progress × World → Option Error × Journey → Prop
  | on {p : Progress} {v : World} {j : Journey} (underway : Underway n adventure w locks j p v) :
      Arrives n adventure w locks (.ok p, v) (none, j)
  | off {e : Error} {added : List Content} {v : World} {j : Journey}
      (tracks : World.Tracks n w locks j added v) :
      Arrives n adventure w locks (.error e, v) (some e, j)

namespace Arrives

/-- One part of the way after another. -/
theorem bind {x : Op Progress} {f : Progress → Op Progress} {legs more : List Leg}
    (h : Arrives n adventure w locks (x.run v) (engine.travelled w legs j))
    (hf : ∀ p u j, Underway n adventure w locks j p u →
      Arrives n adventure w locks ((f p).run u) (engine.travelled w more j)) :
    Arrives n adventure w locks ((x >>= f).run v) (engine.travelled w (legs ++ more) j) := by
  rw [run_bind, Engine.travelled_append]
  generalize x.run v = outcome at h
  generalize engine.travelled w legs j = gone at h
  cases h with
  | on underway => exact hf _ _ _ underway
  | off tracks => exact .off tracks

/-- A step, and the way that is left behind it. -/
theorem cons {x : Op Progress} {f : Progress → Op Progress} {leg : Leg} {legs : List Leg}
    (h : Arrives n adventure w locks (x.run v) (leg.go engine w j))
    (hf : ∀ p u j, Underway n adventure w locks j p u →
      Arrives n adventure w locks ((f p).run u) (engine.travelled w legs j)) :
    Arrives n adventure w locks ((x >>= f).run v) (engine.travelled w (leg :: legs) j) := by
  rw [← Engine.travelled_one] at h
  exact h.bind hf

/-- A step that is set, and otherwise none. -/
theorem optional {α : Type} {f : Option α → Progress → Op Progress} {leg : α → Leg}
    (h : Underway n adventure w locks j p v) (skip : f none p = pure p)
    (take : ∀ a, Arrives n adventure w locks ((f (some a) p).run v) ((leg a).go engine w j))
    (a : Option α) :
    Arrives n adventure w locks ((f a p).run v) (engine.travelled w (a.map leg).toList j) := by
  cases a with
  | none =>
    rw [skip]
    exact .on h
  | some a =>
    have one := take a
    rw [← Engine.travelled_one] at one
    exact one

theorem showCopy (h : Underway n adventure w locks j p v) (key : Option Text) :
    Arrives n adventure w locks ((Engine.showCopy key p).run v)
      (engine.travelled w (key.map Leg.copy).toList j) := by
  refine optional h rfl (fun key => ?_) key
  have number : p.game.id = some n := by rw [h.game, h.number]
  have logged : (Engine.showCopy (some key) p).run v =
      (.ok { p with entries := p.entries ++ [v.journal.nextEntry n (.copy key)] },
        { v with journal := v.journal.appended n (.copy key) }) :=
    run_bind_ok (World.run_log_some number (.copy key) v)
  rw [logged]
  exact .on ⟨h.game, h.number, h.adventure, h.place, h.stored,
    h.tracks.logged (Journal.extends_appended _ _ _)⟩

/-- A script that runs for the game does to the journey what it does in the story. -/
theorem play (quiet : engine.Quiet) (h : Underway n adventure w locks j p v) {runtime : Runtime}
    (hruntime : engine.runtime = some runtime) (id : Int) (script : Script) :
    Arrives n adventure w locks
      ((engine.play p.held id script runtime >>= fun r =>
        pure { held := r.2, entries := p.entries ++ r.1.entries }).run v)
      (j.play engine w id script runtime) := by
  have value : p.held.value = j.game := h.game
  have number : p.held.value.id = some n := by rw [value, h.number]
  have playable : Playable n (fun _ => True) v p.held :=
    ⟨number, h.place, trivial, (h.tracks.has n).2 h.stored⟩
  have echoes := Engine.outcome_echoes quiet hruntime number h.tracks.story id script
  rw [value] at echoes
  unfold Journey.play
  rcases plays : engine.outcome p.held id script runtime v with ⟨ending, s⟩
  rcases tells : engine.outcome { value := j.game } id script runtime w with ⟨ending', s'⟩
  rw [plays, tells] at echoes
  obtain ⟨rfl, echoes⟩ := echoes
  -- The script has one ending, and the stages differ in positions and stores alone.
  obtain ⟨played, journal, extends', outcome⟩ :=
    Engine.run_play_cases quiet hruntime playable id script plays
  have logged := h.tracks.logged extends'
  rw [echoes.shown] at logged
  rw [echoes.game] at outcome
  dsimp only
  rcases outcome with ⟨held', games, hvalue, place, puts, run⟩ | ⟨filed, unfit, run⟩
  · have taken : w.games.refusal? (Engine.afterwards s'.game ending) = none := by
      refine Games.refusal?_of_fits fun filed => ?_
      rw [← hvalue]
      exact puts.fits (h.tracks.filed.2 filed)
    rw [hvalue] at puts
    rw [Journey.settle_of_none taken]
    have tracks := logged.puts h.stored puts
    cases fails : ending.error? id with
    | some e =>
      rw [Engine.run_report_error fails] at run
      rw [run_bind_error run]
      exact .off tracks
    | none =>
      obtain ⟨told, entries, report⟩ := engine.run_report_ok fails
        (resolveIncludes v.scripts v.includes id).scripts s.emitted held' { v with games, journal }
      rw [run_bind_ok (run.trans report)]
      have same := Plays.sameBearings_played played ending
      rw [echoes.game] at same
      refine .on ⟨hvalue, same.id.trans number, ?_, place, h.stored, ?_⟩
      · rw [same.adventure, value, h.adventure]
      · dsimp only
        rw [entries]
        exact tracks
  · rw [Journey.settle_of_some (Games.refusal?_eq_some.2 ⟨h.tracks.filed.1 filed, unfit, rfl⟩),
      run_bind_error run]
    exact .off (logged.unstored _)

theorem runHook (quiet : engine.Quiet) (h : Underway n adventure w locks j p v)
    (script : Option Int) :
    Arrives n adventure w locks ((engine.runHook script p).run v)
      (engine.travelled w (script.map Leg.hook).toList j) := by
  refine optional (f := engine.runHook) h rfl (fun script => ?_) script
  have same : engine.scriptFor p.held script = engine.scriptFor { value := j.game } script := by
    rw [← h.game]
    rfl
  have ofStory := Engine.ofStory_scriptFor engine { value := j.game } script
  have read := ofStory.run_eq h.tracks.story
  have hook : engine.runHook (some script) p = engine.scriptFor { value := j.game } script >>=
      fun a => engine.play p.held (a.1.2.idAt a.1.1) a.1.2 a.2 >>= fun r =>
        pure { held := r.2, entries := p.entries ++ r.1.entries } := by
    rw [← same]
    show engine.executeStored p.held script >>= _ = _
    rw [Engine.executeStored_eq, bind_assoc]
  rw [hook]
  cases ready : ((engine.scriptFor { value := j.game } script).run w).1 with
  | error e =>
    rw [ready] at read
    rw [run_bind_error read, Leg.go_hook_error ready]
    exact .off h.tracks
  | ok a =>
    obtain ⟨-, hruntime⟩ := Engine.scriptFor_ok (Prod.ext ready (ofStory.readOnly w))
    rw [ready] at read
    rw [run_bind_ok read, Leg.go_hook_ok ready]
    exact play quiet h hruntime _ _

theorem move (h : Underway n adventure w locks j p v) (id : Int) (destination : Location) :
    Arrives n adventure w locks ((Engine.move id destination p).run v)
      ((Leg.move (destination.idAt id) destination.final).go engine w j) := by
  have ticked : World.tick.run v = (.ok j.clock.tick.1, { v with clock := v.clock.tick.2 }) := by
    rw [← h.tracks.clock]
    rfl
  have tracks := h.tracks.ticked
  let game : Game := { p.game with
    location := destination.idAt id, locationTimestamp := j.clock.tick.1
    completed := p.game.completed || destination.final }
  have number : game.id = some n := by
    rw [← h.number, ← h.game]
  have moved : { j.game with
      location := destination.idAt id, locationTimestamp := j.clock.tick.1
      completed := j.game.completed || destination.final } = game := by
    rw [← h.game]
  have run : (Engine.move id destination p).run v =
      (World.updateGame { p.held with value := game } >>= fun held =>
        pure { p with held }).run { v with clock := v.clock.tick.2 } := run_bind_ok ticked
  rw [run, Leg.go]
  dsimp only
  rw [moved]
  have has : ({ v with clock := v.clock.tick.2 } : World).games.Has n :=
    (h.tracks.has n).2 h.stored
  rcases World.run_updateGame (h := { p.held with value := game }) number h.place has with
    ⟨held', games, update, value, place, puts, -⟩ | ⟨filed, update⟩
  · have taken : w.games.refusal? game = none :=
      Games.refusal?_of_fits fun filed => puts.fits (h.tracks.filed.2 filed)
    rw [run_bind_ok update, Journey.settle_of_none taken]
    refine .on ⟨value, number, ?_, place, h.stored, tracks.puts h.stored puts⟩
    rw [← h.adventure, ← h.game]
  · have unfit := World.unfit_of_updateGame (h := { p.held with value := game }) number h.place has
      update
    rw [run_bind_error update,
      Journey.settle_of_some (Games.refusal?_eq_some.2 ⟨h.tracks.filed.1 filed, unfit, rfl⟩)]
    exact .off (tracks.unstored _)

/-- What is read on the way from a held location is the location as it is stored. -/
theorem locationNow (h : Underway n adventure w locks j p v) (location : Held Location)
    {f : Location → Op Progress} {gone : Option Error × Journey}
    (hf : Arrives n adventure w locks ((f (w.locations.current location)).run v) gone) :
    Arrives n adventure w locks ((World.locationNow location >>= f).run v) gone := by
  have hlocations : v.locations = w.locations := (congrArg World.locations h.tracks.story :)
  have read : (World.locationNow location).run v = (.ok (w.locations.current location), v) := by
    rw [← hlocations]
    rfl
  rw [run_bind_ok read]
  exact hf

/-- At a final location the game ends with the script of its adventure. -/
theorem terminate (quiet : engine.Quiet) (h : Underway n adventure w locks j p v)
    (destination : Location) :
    Arrives n adventure w locks
      ((if destination.final then engine.terminate p else pure p : Op Progress).run v)
      (engine.travelled w
        ((Engine.finalScript w adventure destination).map Leg.hook).toList j) := by
  have hadventures : v.adventures = w.adventures := (congrArg World.adventures h.tracks.story :)
  have hadventure : p.game.adventure = adventure := by rw [h.game, h.adventure]
  cases final : destination.final with
  | false =>
    rw [Engine.finalScript, final]
    exact .on h
  | true =>
    rw [Engine.finalScript, final, if_pos rfl, if_pos rfl, Engine.terminate,
      run_bind_ok (run_get v), hadventure, hadventures]
    cases w.adventures.get? adventure with
    | none => exact .on h
    | some found => exact runHook quiet h found.terminationScript

/-- A game that goes along a route goes on the journey of the route's itinerary. -/
theorem travel (quiet : engine.Quiet) (h : Underway n adventure w locks j p v) (way : Route)
    (origin destination : Held Location) :
    Arrives n adventure w locks ((engine.travel way origin destination p).run v)
      (engine.travelled w (Engine.itinerary w adventure way (w.locations.current origin)
        (w.locations.current destination)) j) := by
  unfold Engine.itinerary Engine.leaving Engine.arriving
  rw [List.append_assoc, List.append_assoc]
  refine (showCopy h _).bind fun p v j h => ?_
  refine (runHook quiet h _).bind fun p v j h => ?_
  refine locationNow h _ <| (runHook quiet h _).bind fun p v j h => ?_
  refine locationNow h _ <| (move h _ _).cons fun p v j h => ?_
  refine (showCopy h _).bind fun p v j h => ?_
  refine (runHook quiet h _).bind fun p v j h => ?_
  exact locationNow h _ (terminate quiet h _)

end Arrives

/-! ### Routes -/

/-- A stored location is found by its number. -/
theorem World.location_of_get? {m : Int} {place : Location}
    (found : w.locations.get? m = some place) :
    ∃ held, (World.location m).run w = (.ok held, w) ∧ w.locations.current held = place := by
  have held : w.locations.held? m = some (w.locations.hold m place) := by
    rw [Table.held?, found]
    rfl
  have number : (Op.number .location m).run w = (.ok m, w) := rfl
  refine ⟨w.locations.hold m place, ?_, Table.current_hold found⟩
  unfold World.location
  rw [run_bind_ok (run_get w), run_bind_ok number, held]
  rfl

namespace Engine

variable {game route : Identifier} {g : Game} {way : Route} {origin destination : Location}

/-- Taking a route passes what is asked of it: game `n` is free, stored and not in need of recovery,
and the route leaves its location. The way goes from one stored location to another. -/
structure SetsOut (engine : Engine) (w : World) (game route : Identifier) (n : Int) (g : Game)
    (way : Route) (origin destination : Location) : Prop where
  number : (World.gameNumber game).run w = (.ok n, w)
  free : ∃ locks, w.locks.hold engine.settings.busyTimeout n = .ok locks
  found : w.games.get? n = .ok (some g)
  ready : g.needsRecovery = false
  route : (World.route route).run w = (.ok way, w)
  leaves : way.origin = g.location
  origin : w.locations.get? way.origin = some origin
  destination : w.locations.get? way.destination = some destination

/-- A journey begins with a game as it is stored. -/
def setOut (w : World) (g : Game) : Journey := { game := g, clock := w.clock }

/-- What comes of a journey, in a world that knows copy. -/
def recount (engine : Engine) (w : World) (added : List Content) :
    Option Error × Journey → Except Error Transcript
  | (some e, _) => .error e
  | (none, j) => .ok {
      game := j.game, entries := added
      texts := added.map fun e => e.shownText engine.lookup w.copies j.game.language }

theorem tracks_setOut (n : Int) (w : World) (locks : Locks) (g : Game) :
    World.Tracks n w locks (setOut w g) [] { w with locks } :=
  ⟨rfl, rfl, rfl, .refl n _, rfl, rfl, fun _ _ => rfl, fun _ => Iff.rfl, Iff.rfl, rfl⟩

/-- An operation has taken hold of a stored game. -/
theorem underway_setOut {held : Held Game} (value : held.value = g) (own : g.id = some n)
    (place : HeldAt n held) (stored : w.games.Has n) (locks : Locks) :
    Underway n g.adventure w locks (setOut w g) { held } { w with locks } :=
  ⟨value, own, rfl, place, stored, tracks_setOut n w locks g⟩

/-- The operation lets go of the game. -/
theorem tracks_release {timeout : Float} (hold : w.locks.hold timeout n = .ok locks)
    (tracks : World.Tracks n w locks j added v) :
    World.Tracks n w w.locks j added { v with locks := v.locks.release n } := by
  refine ⟨tracks.story, ?_, tracks.clock, tracks.journal, tracks.shown, tracks.record,
    tracks.others, tracks.has, tracks.filed, tracks.reads⟩
  rw [tracks.locks]
  exact Locks.release_hold hold

/-- What comes of a journey is answered. Only one that has come through is transcribed. -/
theorem recounts {x : Op Progress} {gone : Option Error × Journey}
    (arrives : Arrives n adventure w locks (x.run v) gone) :
    ∃ added u, World.Tracks n w locks gone.2 added u ∧
      (x >>= engine.transcribe).run v = (engine.recount w added gone, u) := by
  rcases hrun : x.run v with ⟨result, u⟩
  rw [hrun] at arrives
  cases arrives with
  | @on p u j underway =>
    have copies : u.copies = w.copies := (congrArg World.copies underway.tracks.story :)
    have transcribed : (engine.transcribe p).run u = (engine.recount w p.entries (none, j), u) := by
      rw [recount, ← underway.game, ← copies]
      rfl
    exact ⟨_, _, underway.tracks, (run_bind_ok hrun).trans transcribed⟩
  | off tracks => exact ⟨_, _, tracks, run_bind_error hrun⟩

/-- Once it has set out, an operation holds the game and takes it from one location to the other. -/
theorem SetsOut.run_takeRoute (out : engine.SetsOut w game route n g way origin destination) :
    ∃ locks held from' to', w.locks.hold engine.settings.busyTimeout n = .ok locks ∧
      held.value = g ∧ HeldAt n held ∧
      w.locations.current from' = origin ∧ w.locations.current to' = destination ∧
      ∀ {answer : Except Error Transcript} {v : World},
        (engine.travel way from' to' { held } >>= engine.transcribe).run { w with locks } =
          (answer, v) →
        (engine.takeRoute game route).run w = (answer, { v with locks := v.locks.release n }) := by
  obtain ⟨locks, hold⟩ := out.free
  obtain ⟨held, hheld, value, place⟩ := World.run_heldGame_locked out.number out.found locks
  obtain ⟨from', hfrom, here⟩ := World.location_of_get? (w := { w with locks }) out.origin
  obtain ⟨to', hto, there⟩ := World.location_of_get? (w := { w with locks }) out.destination
  have hroute := (OfStory.route route).run_eq (v := { w with locks }) (w := w) rfl
  rw [out.route] at hroute
  refine ⟨locks, held, from', to', hold, value, place, here, there, fun {answer v} run => ?_⟩
  have departs : (World.heldGame game >>= engine.depart n route).run { w with locks } =
      (answer, v) := by
    rw [run_bind_ok hheld, depart, value, if_neg (by simp [out.ready]), run_bind_ok hroute,
      if_neg (not_not.2 out.leaves), run_bind_ok hfrom, run_bind_ok hto]
    exact run
  exact (run_bind_ok out.number).trans (run_held hold departs)

/-- A route that sets out is taken as far as the journey of its itinerary goes. -/
theorem run_takeRoute (quiet : engine.Quiet)
    (out : engine.SetsOut w game route n g way origin destination) (own : g.id = some n) :
    let gone := engine.travelled w (itinerary w g.adventure way origin destination) (setOut w g)
    ∃ added v, World.Tracks n w w.locks gone.2 added v ∧
      (engine.takeRoute game route).run w = (engine.recount w added gone, v) := by
  obtain ⟨locks, held, from', to', hold, value, place, rfl, rfl, taken⟩ := out.run_takeRoute
  have begins := underway_setOut value own place (Games.has_of_get? out.found) locks
  obtain ⟨added, v, tracks, run⟩ := recounts (Arrives.travel quiet begins way from' to')
  exact ⟨added, _, tracks_release hold tracks, taken run⟩

/-- A route that does not set out is refused, and everything stays as it is. -/
theorem takeRoute_refused_or (engine : Engine) (w : World) (game route : Identifier) :
    (∃ e, (engine.takeRoute game route).run w = (.error e, w)) ∨
      ∃ n g way origin destination, engine.SetsOut w game route n g way origin destination := by
  rcases (ReadOnly.gameNumber game).run_cases w with ⟨e, number⟩ | ⟨n, number⟩
  · exact .inl ⟨e, run_bind_error number⟩
  cases hold : w.locks.hold engine.settings.busyTimeout n with
  | error e => exact .inl ⟨e, run_refused number hold _⟩
  | ok locks =>
    have refused {e : Error}
        (h : (World.heldGame game >>= engine.depart n route).run { w with locks } =
          (.error e, { w with locks })) :
        ∃ e, (engine.takeRoute game route).run w = (.error e, w) := by
      have released := run_held hold h
      dsimp only at released
      rw [Locks.release_hold hold] at released
      exact ⟨e, (run_bind_ok number).trans released⟩
    rcases (ReadOnly.heldGame game).run_cases { w with locks } with ⟨e, h⟩ | ⟨held, hheld⟩
    · exact .inl (refused (run_bind_error h))
    obtain ⟨-, m, asked, place, found⟩ := World.run_heldGame hheld
    obtain rfl : n = m := by
      rw [World.gameNumber_locked, number] at asked
      exact Except.ok.inj asked
    rw [run_bind_ok hheld, depart] at refused
    by_cases ready : held.value.needsRecovery = true
    · exact .inl (refused (by rw [if_pos ready]; rfl))
    rw [if_neg ready] at refused
    rcases (ReadOnly.route route).run_cases { w with locks } with ⟨e, h⟩ | ⟨way, hroute⟩
    · exact .inl (refused (run_bind_error h))
    rw [run_bind_ok hroute] at refused
    by_cases leaves : way.origin = held.value.location
    · rw [if_neg (not_not.2 leaves)] at refused
      rcases (ReadOnly.location way.origin).run_cases { w with locks } with ⟨e, h⟩ | ⟨origin, from'⟩
      · exact .inl (refused (run_bind_error h))
      rw [run_bind_ok from'] at refused
      rcases (ReadOnly.location way.destination).run_cases { w with locks } with
        ⟨e, h⟩ | ⟨destination, to'⟩
      · exact .inl (refused (run_bind_error h))
      have hway := (OfStory.route route).run_eq (v := w) (w := { w with locks }) rfl
      rw [hroute] at hway
      exact .inr ⟨n, held.value, way, origin.value, destination.value, number, ⟨locks, hold⟩, found,
        Bool.eq_false_iff.2 ready, hway, leaves, (World.run_location from').2,
        (World.run_location to').2⟩
    · rw [if_pos leaves] at refused
      rcases (ReadOnly.number .route route).run_cases { w with locks } with ⟨e, h⟩ | ⟨k, h⟩
      · exact .inl (refused (run_bind_error h))
      · exact .inl (refused ((run_bind_ok h).trans rfl))

/-- A route that sets out is taken step by step, up to the first step that fails. What the steps
have shown is logged, and what comes of the last one is answered. Until the move is reached, the game
rests where it was and no time passes. From then on it is at the destination, and has been completed
if that is final. The game is stored as the steps have left it, unless it does not fit into a
file. -/
theorem takeRoute_travels (quiet : engine.Quiet)
    (out : engine.SetsOut w game route n g way origin destination) (own : g.id = some n) :
    let legs := itinerary w g.adventure way origin destination
    let steps := engine.reached w legs (setOut w g)
    let gone := engine.travelled w legs (setOut w g)
    let move := crossing way destination
    let heads := (setOut w g).Heads (destination.idAt way.destination) destination.final
    (∃ added v, World.Tracks n w w.locks gone.2 added v ∧
      (engine.takeRoute game route).run w = (engine.recount w added gone, v)) ∧
    steps.map (·.1) <+: legs ∧ (gone.1 = none → steps.map (·.1) = legs) ∧
    (∀ before s after, steps = before ++ s :: after → heads (move ∈ before.map (·.1)) s.2) ∧
    heads (move ∈ steps.map (·.1)) gone.2 ∧
    (gone.2.stored.getD g = gone.2.game ∨
      w.games.Filed ∧ ¬Payload.Fits gone.2.game ∧ gone.1 = some .tooLongToWrite) := by
  intro legs steps gone move heads
  obtain ⟨ordered, all⟩ := reached_legs engine w legs (setOut w g)
  obtain ⟨met, ends⟩ := travelled_heads (w := w) (j := setOut w g) (n := n) quiet own
    (still_leaving way origin) (still_arriving w g.adventure destination)
  refine ⟨run_takeRoute quiet out own, ordered, all, met, ends, ?_⟩
  refine (travelled_stored (j := setOut w g) (g := g) rfl engine w legs).imp_right ?_
  rintro ⟨e, refused, failed⟩
  obtain ⟨filed, unfit, rfl⟩ := Games.refusal?_eq_some.1 refused
  exact ⟨filed, unfit, failed⟩

/-- A game goes down the lane. The word of the way is said, then the game has come to the end. -/
theorem takeRoute_travels_lane :
    let w := World.lane (.memory { rows := [(1, .waiting)], ids := ⟨2⟩ })
    let way : Route := { origin := 1, destination := 2, takenScript := some 1 }
    let gate : Location := { adventure := 1, name := "Gate", initial := true }
    let well : Location := { adventure := 1, name := "Well", final := true }
    let arrived : Game := { Game.arrived with locationTimestamp := 1 }
    reciting.SetsOut w (1 : Int) (1 : Int) 1 .waiting way gate well ∧
      ∃ added v, (reciting.takeRoute (1 : Int) (1 : Int)).run w =
          (.ok { game := arrived, entries := added, texts := ["Onward."] }, v) ∧
        v.games.get? 1 = .ok (some arrived) := by
  intro w way gate well arrived
  have out : reciting.SetsOut w (1 : Int) (1 : Int) 1 .waiting way gate well :=
    ⟨World.run_gameNumber_number 1 w, ⟨⟨[(1, .operation)]⟩, by decide +kernel⟩, rfl, rfl, rfl, rfl,
      rfl, rfl⟩
  obtain ⟨⟨added, v, tracks, run⟩, -⟩ := takeRoute_travels quiet_reciting out rfl
  generalize hgone : reciting.travelled w (itinerary w Game.waiting.adventure way gate well)
    (setOut w .waiting) = gone at tracks run
  have through : gone = (none, gone.2) := Prod.ext (by rw [← hgone]; decide +kernel) rfl
  have game : gone.2.game = arrived := by rw [← hgone]; decide +kernel
  have stored : gone.2.stored = some arrived := by rw [← hgone]; decide +kernel
  have shown : gone.2.shown = [.literal "Onward."] := by rw [← hgone]; decide +kernel
  have record := tracks.record
  rw [stored] at record
  obtain ⟨entry, rfl, body⟩ := List.map_eq_singleton_iff.1 (tracks.shown.trans shown)
  have text : entry.shownText reciting.lookup w.copies gone.2.game.language = "Onward." := by
    rw [Content.shownText, body]
  rw [through, recount, List.map_singleton, text, game] at run
  exact ⟨out, [entry], v, run, record⟩

end Engine

end TextAdventure
