import TextAdventure.Proofs.Engine.Keeping

/-! Games that arrive. Only starting a game and taking a route complete it. When either succeeds, the
last thing that it has done is to run the termination script of the adventure to completion. -/

namespace TextAdventure

open Op

variable {engine : Engine} {w w' u : World} {n : Int} {P P' Q : Game → Prop} {h : Held Game}
  {start : World} {p : Progress} {game : Identifier}

/-- Whether a game is complete, and in which adventure it is. -/
def Game.InStage (completed : Bool) (adventure : Int) (g : Game) : Prop :=
  g.completed = completed ∧ g.adventure = adventure

theorem Game.ofCourse_inStage (completed : Bool) (adventure : Int) :
    OfCourse (Game.InStage completed adventure) := by
  intro g g' sameAdventure _ sameCompleted _ stage
  exact ⟨sameCompleted.trans stage.1, sameAdventure.trans stage.2⟩

/-- The last that was done for game `n` was to run script `s` to completion: the transcript tells what
the script has shown last, and the world is as the script has left it. -/
def Engine.Ran (engine : Engine) (n s : Int) (t : Transcript) (w : World) : Prop :=
  ∃ (p : Progress) (run : ScriptRun) (h : Held Game) (u : World), p.held.value.id = some n ∧
    (engine.executeStored p.held s).run u = (.ok (run, h), w) ∧ t.game = h.value ∧
    t.entries = p.entries ++ run.entries

/-- If game `n` is complete, the termination script of its adventure has run to completion for it. -/
def Engine.Closes (engine : Engine) (n : Int) (t : Transcript) (w : World) : Prop :=
  ∀ g x s, w.games.get? n = .ok (some g) → g.completed = true →
    w.adventures.get? g.adventure = some x → x.terminationScript = some s → engine.Ran n s t w

theorem Engine.run_transcribe (engine : Engine) (p : Progress) (w : World) :
    ∃ t, (engine.transcribe p).run w = (.ok t, w) ∧ t.game = p.game ∧ t.entries = p.entries :=
  ⟨_, rfl, rfl, rfl⟩

theorem Engine.run_runHook {s : Int} {p' : Progress}
    (hrun : (engine.runHook (some s) p).run w = (.ok p', w')) :
    ∃ run, (engine.executeStored p.held s).run w = (.ok (run, p'.held), w') ∧
      p'.entries = p.entries ++ run.entries := by
  obtain ⟨⟨run, h⟩, v, hscript, hp⟩ := run_bind_eq_ok.1 hrun
  obtain ⟨same, rfl⟩ := Prod.mk.inj hp
  obtain rfl := Except.ok.inj same
  exact ⟨run, hscript, rfl⟩

namespace World.Filed

/-- What is held of an adventure that is looked up is what is stored under its number. -/
theorem current_adventure {k : Int} {held : Held Adventure} {x : Adventure}
    (filed : w.Filed) (found : w.adventures.held? k = some held)
    (hx : w.adventures.get? (held.value.idAt k) = some x) : w.adventures.current held = x := by
  obtain ⟨current, stored⟩ := Table.current_held found
  rw [Adventure.idAt, filed.number k _ stored] at hx
  exact current.trans (Option.some.inj (stored.symm.trans hx))

theorem current_location {i : Int} {place : Location} (filed : w.Filed)
    (row : (i, place) ∈ w.locations.rows) :
    w.locations.current (w.locations.hold i place) = place :=
  Table.current_hold (filed.ascending.get?_of_mem row)

end World.Filed

namespace World.InHands

/-- A game that is not stored any more is nothing at all. -/
theorem gone (i : start.InHands n P h w) (gone : ¬w.games.Has n) :
    start.InHands n (fun _ => False) h w :=
  ⟨⟨i.own, i.next, i.held, i.place, fun has => absurd has gone,
    fun _ found => absurd (Games.has_of_get? found) gone⟩, i.carried, i.ages⟩

theorem imp (i : start.InHands n P h w) (le : ∀ g, P g → Q g) : start.InHands n Q h w :=
  ⟨⟨i.own, i.next, i.held, i.place, fun has => le _ (i.value has),
    fun g found => le g (i.stored g found)⟩, i.carried, i.ages⟩

/-- An operation takes hold of a stored game. -/
theorem taken {timeout : Float} {locks : Locks} (poised : w.Poised n P)
    (found : w.games.held? n = .ok (some h)) (hold : w.locks.hold timeout n = .ok locks) :
    World.InHands n (fun g => P g ∧ g.adventure = h.value.adventure) { w with locks } h
      { w with locks } := by
  obtain ⟨-, stored⟩ := Games.held?_eq_some found
  have value : P h.value ∧ h.value.adventure = h.value.adventure := ⟨poised.stored _ stored, rfl⟩
  refine ⟨⟨poised.own, poised.fresh (Games.has_of_get? stored), Locks.mem_of_hold hold,
    fun _ => Games.place_of_held? found, fun _ => value, fun g hg => ?_⟩,
    poised.own.held? found, .refl _⟩
  obtain rfl : h.value = g := Option.some.inj (Except.ok.inj (stored.symm.trans hg))
  exact value

/-- An operation takes hold of the game that it has added. -/
theorem added {g : Game} {games : Games} {locks : Locks} {timeout : Float} (clock : Clock)
    (course : OfCourse P) (own : games.Own) (puts : w.games.Puts n g games)
    (next : n < games.ids.next) (carried : Carried n h) (value : h.value = g)
    (place : h.place = (games.edition n).map fun e => (n, e)) (hg : P g)
    (hold : w.locks.hold timeout n = .ok locks) :
    World.InHands n P { w with clock, games, locks } h { w with clock, games, locks } := by
  refine ⟨⟨own, next, Locks.mem_of_hold hold, fun _ => place, fun _ => value ▸ hg,
    fun found stored => ?_⟩, carried, .refl _⟩
  rcases puts.get?_eq_some.1 stored with ⟨-, hread⟩ | ⟨ne, -⟩
  · exact course.read hg hread
  · exact absurd rfl ne

/-- The game moves to another location. -/
theorem move (course : OfCourse P') {id : Int} {place : Location}
    (moves : ∀ g g' : Game, g'.adventure = g.adventure →
      g'.completed = (g.completed || place.final) → P g → P' g')
    (le : ∀ g, P g → Q g) (le' : ∀ g, P' g → Q g) (p : Progress) :
    Meets (start.InHands n P p.held) (Engine.move id place p)
      (fun p w => start.InHands n P' p.held w) (World.Poised n Q) := by
  intro w i
  have ticked : start.InHands n P p.held { w with clock := w.clock.tick.2 } :=
    i.congr rfl i.held (.story rfl)
  have number : (p.game.moved id place w.clock.tick.1).id = some n := i.carried.number
  have value (has : w.games.Has n) : P' (p.game.moved id place w.clock.tick.1) :=
    moves p.game _ rfl rfl (i.value has)
  rcases Engine.run_move id place i.carried i.place with
    ⟨games, hrun, refreshes, again⟩ | ⟨e, games, hrun, refreshes⟩ <;> rw [hrun]
  · exact ticked.stored_as course number value refreshes again
  · -- A memory shares what is held with the store, so the game may have moved even if this fails.
    refine (ticked.stored_again number (fun has => le' _ (value has)) refreshes
      fun g stored => ?_).poised
    rcases refreshes.of_get? stored with before | ⟨-, hread⟩
    · exact le g (i.stored g before)
    · have has := (refreshes.has n).1 (Games.has_of_get? stored)
      exact le' g (course.read (value has) hread)

end World.InHands

namespace Engine.Attends

variable (attends : engine.Attends)
include attends

/-- The termination hook, for a game that is complete. -/
theorem closes (hook : Option Int) {adventure : Int}
    (known : ∀ x, u.adventures.get? adventure = some x → x.terminationScript = hook)
    (i : start.InHands n (Game.InStage true adventure) p.held u) :
    Comes (fun t w => engine.Closes n t w) (World.Poised n fun _ => True)
      ((engine.runHook hook p >>= engine.transcribe).run u) := by
  have tends := attends.tends (Game.ofCourse_inStage true adventure) n start
  have comes := tends.runHook hook u i
  rcases hrun : (engine.runHook hook p).run u with ⟨e | p', w⟩ <;> rw [hrun] at comes
  · rw [run_bind_error hrun]
    exact World.Poised.imp comes fun _ _ => trivial
  rw [run_bind_ok hrun]
  obtain ⟨t, told, sameGame, sameEntries⟩ := engine.run_transcribe p' w
  rw [told]
  intro g x s found _ hx hs
  have own : g.adventure = adventure := (comes.stored g found).2
  rw [own] at hx
  cases hook with
  | none =>
    obtain ⟨-, rfl⟩ := Prod.mk.inj hrun
    exact nomatch (known x hx).symm.trans hs
  | some s' =>
    obtain ⟨run, hscript, entries⟩ := Engine.run_runHook hrun
    -- Adventures that leave do not come back, so the hook that has run is still the one to run.
    have ages := attends.ages.executeStored p.held s' u
    rw [hscript] at ages
    obtain rfl : s' = s := Option.some.inj ((known x (ages.stored _ x hx)).symm.trans hs)
    exact ⟨p, run, p'.held, u, i.carried.number, hscript, sameGame, sameEntries.trans entries⟩

theorem tends_true (course : OfCourse P) (n : Int) (start : World) :
    engine.Tends (start.InHands n P) (World.Poised n fun _ => True) :=
  (attends.tends course n start).weaken fun _ poised => poised.imp fun _ _ => trivial

/-! ### On the way -/

omit attends in
/-- A game that is not complete is told of as it is. -/
theorem unfinished {adventure : Int}
    (i : start.InHands n (Game.InStage false adventure) p.held u) :
    Comes (fun t w => engine.Closes n t w) (World.Poised n fun _ => True)
      ((engine.transcribe p).run u) := by
  obtain ⟨t, told, -⟩ := engine.run_transcribe p u
  rw [told]
  intro g x s found complete
  exact nomatch (i.stored g found).1.symm.trans complete

/-- How taking a route ends, once the game has arrived. -/
theorem arrival {completed : Bool} {adventure : Int} {destination : Held Location}
    (final : (start.locations.current destination).final = completed) :
    Meets (start.InHands n (Game.InStage completed adventure) p.held)
      ((do if (← World.locationNow destination).final then engine.terminate p else return p) >>=
        engine.transcribe)
      (fun t w => engine.Closes n t w) (World.Poised n fun _ => True) := by
  intro u i
  have place : (World.locationNow destination).run u =
      (.ok (start.locations.current destination), u) := by rw [← i.ages.locations destination]; rfl
  rw [bind_assoc, run_bind_ok place, final]
  cases completed with
  | false => exact unfinished i
  | true =>
    show Comes _ _ ((engine.terminate p >>= engine.transcribe).run u)
    -- If the scripts on the way have removed the game, nothing is stored that could be complete.
    by_cases has : u.games.Has n
    · have own : p.game.adventure = adventure := (i.value has).2
      unfold Engine.terminate
      rw [bind_assoc, run_bind_ok (run_get u), own]
      cases found : u.adventures.get? adventure with
      | none =>
        exact attends.closes none (fun x hx => nomatch found.symm.trans hx) i
      | some x =>
        refine attends.closes x.terminationScript (fun y hy => ?_) i
        rw [Option.some.inj (found.symm.trans hy)]
    · have tends := attends.tends_true (P := fun _ => False) (fun _ _ _ _ _ _ none => none) n start
      refine (Meets.bind tends.terminate (fun p => ?_) u (i.gone has)).imp (fun _ _ closes => closes)
        fun _ poised => poised
      intro v gone
      obtain ⟨t, told, -⟩ := engine.run_transcribe p v
      rw [told]
      exact fun g x s found => (gone.stored g found).elim

theorem depart_closes (adventure : Int) (route : Identifier) (held : Held Game) :
    Meets (start.InHands n (Game.InStage false adventure) held) (engine.depart n route held)
      (fun t w => engine.Closes n t w) (World.Poised n fun _ => True) := by
  have course := Game.ofCourse_inStage
  have leaves := attends.tends_true (course false adventure) n start
  refine .ite (fun _ => .throw (leaves.fails held)) fun _ =>
    .skip (.route _) (leaves.fails held) fun way => .ite (fun _ => ?_) fun _ =>
    .skip (.location _) (leaves.fails held) fun origin =>
    .skip (.location _) (leaves.fails held) fun destination => ?_
  · exact .skip (.number _ _) (leaves.fails held) fun _ => .throw (leaves.fails held)
  have arrives := attends.tends_true
    (course (start.locations.current destination).final adventure) n start
  rw [travel_eq, bind_assoc]
  refine .bind (leaves.approach (p := { held }) arrives fun p place => ?_) fun p =>
    attends.arrival rfl
  rintro w ⟨i, rfl⟩
  refine World.InHands.move (course _ adventure) (fun g g' own completed stage => ?_)
    (fun _ _ => trivial) (fun _ _ => trivial) p w i
  rw [i.ages.locations, stage.1, Bool.false_or] at completed
  exact ⟨completed, own.trans stage.2⟩

/-- How a game opens, at a location that may complete it. -/
theorem opening_closes {number : Int} {adventure : Held Adventure} {location : Held Location}
    (known : ∀ x, start.adventures.get? number = some x → start.adventures.current adventure = x)
    (here : start.locations.current location = location.value) (held : Held Game) :
    Meets (start.InHands n (Game.InStage location.value.final number) held)
      (engine.opening adventure location { held } >>= engine.transcribe)
      (fun t w => engine.Closes n t w) (World.Poised n fun _ => True) := by
  have tends := attends.tends_true (Game.ofCourse_inStage location.value.final number) n start
  rw [opening_eq, bind_assoc]
  refine .bind (tends.greeting (p := { held }) adventure location) fun p => ?_
  intro u i
  have place : (World.locationNow location).run u = (.ok location.value, u) := by
    rw [← here, ← i.ages.locations location]
    rfl
  rw [bind_assoc, run_bind_ok place]
  cases final : location.value.final with
  | false =>
    rw [final] at i
    exact unfinished i
  | true =>
    rw [final] at i
    have now : (World.adventureNow adventure).run u =
        (.ok (start.adventures.current adventure), u) := by
      rw [← i.ages.adventures adventure]
      rfl
    rw [if_pos rfl, bind_assoc, run_bind_ok now]
    refine attends.closes _ (fun x hx => ?_) i
    rw [known x (i.ages.stored number x hx)]

/-! ### Operations -/

omit attends in
/-- An operation on the game that is asked for. -/
theorem onGame {α : Type} {f : Int → Held Game → Op α} {R : α → World → Prop}
    (le : ∀ g, P g → P' g)
    (hf : ∀ start held, Meets
      (World.InHands n (fun g => P g ∧ g.adventure = held.value.adventure) start held) (f n held) R
      (World.Poised n P')) :
    Meets (fun w => w.Poised n P ∧ ((World.gameNumber game).run w).1 = .ok n)
      (World.gameNumber game >>= fun m => engine.holding m (World.heldGame game >>= f m))
      (fun a w => ∃ u, R a u ∧ w = { u with locks := u.locks.release n }) (World.Poised n P') := by
  refine .onGame (fun _ h => h.1.own) (fun _ h => h.1.imp le)
    (fun _ _ _ h _ _ => (h.1.imp le).congr rfl) fun w m locks held h number hlocks _ found => ?_
  obtain rfl : m = n := Except.ok.inj (number.symm.trans h.2)
  exact (hf { w with locks } held _ (.taken h.1 found hlocks)).imp (fun a v hv => ⟨v, hv, rfl⟩)
    fun v hv => hv.congr rfl

omit attends in
/-- What is kept while a game is played. -/
theorem keeps_onGame {α : Type} {f : Int → Held Game → Op α}
    (hf : ∀ start held, Meets (World.InHands n P start held) (f n held)
      (fun _ => World.Poised n P) (World.Poised n P)) :
    Meets (fun w => w.Poised n P ∧ ((World.gameNumber game).run w).1 = .ok n)
      (World.gameNumber game >>= fun m => engine.holding m (World.heldGame game >>= f m))
      (fun _ => World.Poised n P) (World.Poised n P) := by
  refine (onGame (fun _ h => h) fun start held => (hf start held).imp
    (fun w i => i.imp fun _ h => h.1) (fun _ _ h => h) fun _ h => h).imp (fun _ h => h)
    (fun _ w h => ?_) fun _ h => h
  obtain ⟨u, poised, rfl⟩ := h
  exact poised.congr rfl

/-- Scripts do not complete a game, nor do they take it to another adventure. -/
theorem executeScript_keeps (course : OfCourse P) (script : Identifier) :
    Meets (fun w => w.Poised n P ∧ ((World.gameNumber game).run w).1 = .ok n)
      (engine.executeScript game script) (fun _ => World.Poised n P) (World.Poised n P) :=
  keeps_onGame fun start _ => .bind ((attends.tends course n start).executeStored script) fun _ =>
    .pure fun _ i => i.poised

theorem endGame_keeps (course : OfCourse P) :
    Meets (fun w => w.Poised n P ∧ ((World.gameNumber game).run w).1 = .ok n)
      (engine.endGame game) (fun _ => World.Poised n P) (World.Poised n P) := by
  refine keeps_onGame fun start held => ?_
  have tends := attends.tends course n start
  refine .skip (.finalHook _) (tends.fails held) fun hook =>
    .bind (tends.runHook (p := { held }) hook) fun p => .bind tends.transcribe fun _ =>
    .bind (Q := fun _ => World.Poised n P) ?_ fun _ => .pure fun _ h => h
  intro w poised
  have gone : ¬(w.games.remove n).Has n := fun has => ((Games.has_remove w.games n n).1 has).1 rfl
  exact ⟨poised.own.remove n, fun has => absurd has gone,
    fun g found => absurd (Games.has_of_get? found) gone⟩

theorem recoverGame_keeps (course : OfCourse P) :
    Meets (fun w => w.Poised n P ∧ ((World.gameNumber game).run w).1 = .ok n)
      (engine.recoverGame game) (fun _ => World.Poised n P) (World.Poised n P) := by
  refine keeps_onGame fun start held => .ite (fun _ => ?_) fun _ => .pure fun _ i => i.poised
  refine .bind (Q := fun _ => World.Poised n P) ?_ fun _ => .pure fun _ h => h
  exact ((attends.tends course n start).updated _).imp
    (fun w i => i.changed rfl (course held.value _ rfl rfl rfl rfl)) (fun _ _ i => i.poised) fun _ h => h

/-- A game stays in its adventure wherever it goes. -/
theorem takeRoute_keeps (adventure : Int) (route : Identifier) :
    Meets (fun w => w.Poised n (fun g => g.adventure = adventure) ∧
        ((World.gameNumber game).run w).1 = .ok n)
      (engine.takeRoute game route) (fun _ => World.Poised n fun g => g.adventure = adventure)
      (World.Poised n fun g => g.adventure = adventure) := by
  have course : OfCourse fun g => g.adventure = adventure := fun _ _ own _ _ _ h => own.trans h
  refine keeps_onGame fun start held => (attends.tends course n start).depart (fun id place p => ?_)
    n route held
  exact World.InHands.move course (fun _ _ own _ h => own.trans h) (fun _ h => h) (fun _ h => h) p

theorem takeRoute_closes (route : Identifier) :
    Meets (fun w => w.Poised n (fun g => g.completed = false) ∧
        ((World.gameNumber game).run w).1 = .ok n)
      (engine.takeRoute game route)
      (fun t w => ∃ u, engine.Closes n t u ∧ w = { u with locks := u.locks.release n })
      (World.Poised n fun _ => True) :=
  onGame (fun _ _ => trivial) fun _ held => attends.depart_closes held.value.adventure route held

theorem startGame_closes (adventure : Identifier) (language : Json) :
    Meets (fun w => w.Poised n (fun _ => True) ∧ w.games.ids.next = n ∧ w.Filed)
      (engine.startGame adventure language)
      (fun t w => ∃ u, (engine.Closes n t u ∧ u.Poised n fun _ => True) ∧
        w = { u with locks := u.locks.release n })
      (World.Poised n fun _ => True) := by
  rintro w ⟨poised, rfl, filed⟩
  rcases startGame_cases engine adventure language w with
    ⟨e, hrun⟩ | ⟨k, held, code, i, place, found, -, hrow, -, hrun⟩ <;> rw [hrun]
  · exact poised
  have assigned : w.games.ids.next < w.games.ids.next + 1 := Int.lt_succ _
  have course := Game.ofCourse_inStage place.final (held.value.idAt k)
  rw [run_bind, addGame, run_of]
  dsimp only
  generalize hg : ({ adventure := held.value.idAt k, location := place.idAt i, language := code
                     locationTimestamp := w.clock.tick.1, completed := place.final } : Game) = g
  have own := poised.own.add .unset g
  rcases w.games.add_new g with ⟨h, games, hadd, value, carried, edition, puts, ids⟩ | ⟨e, hadd⟩ <;>
    rw [hadd] at own ⊢
  · have next : w.games.ids.next < games.ids.next := by rw [ids]; exact assigned
    have number : h.value.id.getD 0 = w.games.ids.next := by
      rw [value]
      rfl
    dsimp only
    rw [number]
    refine Meets.holding (I := fun u => u = { w with clock := w.clock.tick.2, games }) ?_ ?_ _ rfl
    · rintro u rfl
      exact ⟨own, fun _ => next, fun _ _ => trivial⟩
    rintro u locks rfl hlocks
    have inHands := World.InHands.added w.clock.tick.2 course own puts next carried value
      edition (by subst hg; exact ⟨rfl, rfl⟩) hlocks
    let start : World := { w with clock := w.clock.tick.2, games, locks }
    have known (x : Adventure) : start.adventures.get? (held.value.idAt k) = some x →
        start.adventures.current held = x := filed.current_adventure found
    have here : start.locations.current (w.locations.hold i place) =
        (w.locations.hold i place).value := filed.current_location hrow
    have closes := attends.opening_closes known here h _ inHands
    have tends := attends.tends_true course w.games.ids.next start
    have keeps := Meets.bind (tends.opening (p := { held := h }) held (w.locations.hold i place))
      (fun p => tends.transcribe) _ inHands
    exact (closes.and keeps).imp (fun t u hu => ⟨u, hu, rfl⟩) fun u hu => hu.congr rfl
  · refine ⟨own, fun _ => ?_, fun _ _ => trivial⟩
    show _ < (w.games.withIds _).ids.next
    rw [Games.ids_withIds]
    exact assigned

end Engine.Attends

end TextAdventure
