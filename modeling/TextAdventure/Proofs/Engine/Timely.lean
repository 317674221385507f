import TextAdventure.Proofs.Engine.Times

/-! Routes that are taken, one after another and in the middle of each other. Each gives its game a
time that the clock has not told before. But the clock does not know the times of games that were
stored before it was set up: a game that has stayed where it was then can move on at an earlier time. -/

namespace TextAdventure

open Op
open Authoring (dropGame)

variable {engine : Engine} {told : World → Json → Prop} {v w w' : World} {a : Action}

namespace Engine.Times

variable (times : engine.Times told) {game : Identifier}
include times

omit times in
/-- An operation on a game that is asked for. -/
theorem onGame {α : Type} {f : Int → Held Game → Op α} {Q : α → World → Prop}
    (numbered : v.games.Numbered) (unlocked : ∀ a w locks, Q a w → Q a { w with locks })
    (inside : ∀ m held start, ((World.gameNumber game).run v).1 = .ok m →
      Meets (World.InTime told v start m (v.Dates m) held) (f m held) Q (World.Proceeds told v)) :
    Meets (· = v) (World.gameNumber game >>= fun m => engine.holding m (World.heldGame game >>= f m))
      Q (World.Proceeds told v) := by
  have still : v.Proceeds told v := .refl numbered
  refine .onGame (fun _ h => h ▸ numbered.own) (fun _ h => h ▸ still)
    (fun _ _ _ h _ _ => h ▸ still.locked _) fun w m locks held h number hlocks _ found => ?_
  subst h
  have hands := (World.InHands.taken (still.poised m) found hlocks).imp fun g hg => hg.1
  exact (inside m held _ number _ ⟨still.locked locks, _, le_rfl, hands⟩).imp
    (fun a u hu => unlocked a u _ hu) fun u hu => hu.locked _

theorem takeRoute (numbered : v.games.Numbered) (game route : Identifier) :
    Meets (· = v) (engine.takeRoute game route)
      (fun _ w => World.Proceeds told v w ∧ ∀ n, ((World.gameNumber game).run v).1 = .ok n →
        w.Poised n (Game.Came v.clock.last w.clock.last)) (World.Proceeds told v) := by
  refine onGame numbered (fun _ _ locks h => ⟨h.1.locked locks, fun n hn => (h.2 n hn).congr rfl⟩)
    fun m held start number => ?_
  refine (times.depart m route held).imp (fun _ h => h) (fun _ w h => ⟨h.1, fun n hn => ?_⟩)
    fun _ h => h
  obtain rfl : m = n := Except.ok.inj (number.symm.trans hn)
  exact h.2

/-- An operation that plays a game on where it is. -/
theorem plays {α : Type} {f : Int → Held Game → Op α} (numbered : v.games.Numbered)
    (inside : ∀ m held start, engine.Tends (World.InTime told v start m (v.Dates m))
        (World.Proceeds told v) →
      Meets (World.InTime told v start m (v.Dates m) held) (f m held)
        (fun _ => World.Proceeds told v) (World.Proceeds told v)) :
    Meets (· = v) (World.gameNumber game >>= fun m => engine.holding m (World.heldGame game >>= f m))
      (fun _ => World.Proceeds told v) (World.Proceeds told v) :=
  onGame numbered (fun _ _ locks p => p.locked locks) fun m held start _ =>
    inside m held start (times.tends (World.Dates.ofCourse v m) (fun _ _ dates => dates) start)

theorem executeScript (numbered : v.games.Numbered) (script : Identifier) :
    Meets (· = v) (engine.executeScript game script) (fun _ => World.Proceeds told v)
      (World.Proceeds told v) :=
  times.plays numbered fun _ _ _ tends =>
    .bind (tends.executeStored script) fun _ => .pure fun _ i => i.toProceeds

theorem endGame (numbered : v.games.Numbered) :
    Meets (· = v) (engine.endGame game) (fun _ => World.Proceeds told v)
      (World.Proceeds told v) := by
  refine times.plays numbered fun m held _ tends => ?_
  refine .skip (.finalHook _) (tends.fails held) fun hook =>
    .bind (tends.runHook (p := { held }) hook) fun p => .bind tends.transcribe fun _ =>
    .bind (Q := fun _ => World.Proceeds told v) ?_ fun _ => .pure fun _ h => h
  exact fun w p => p.next (p.toTimed.drop m) rfl

theorem recoverGame (numbered : v.games.Numbered) :
    Meets (· = v) (engine.recoverGame game) (fun _ => World.Proceeds told v)
      (World.Proceeds told v) := by
  refine times.plays numbered fun m held _ tends =>
    .ite (fun _ => ?_) fun _ => .pure fun _ i => i.toProceeds
  refine .bind (Q := fun _ => World.Proceeds told v) ?_ fun _ => .pure fun _ h => h
  exact (tends.updated _).imp (fun w i => tends.changed held w _ false i)
    (fun _ _ i => i.toProceeds) fun _ h => h

/-- A game that starts comes to its location when the clock tells. -/
theorem startGame (numbered : v.games.Numbered) (adventure : Identifier) (language : Json) :
    Meets (· = v) (engine.startGame adventure language) (fun _ => World.Proceeds told v)
      (World.Proceeds told v) := by
  rintro v rfl
  have still : v.Proceeds told v := .refl numbered
  rcases startGame_cases engine adventure language v with
    ⟨e, hrun⟩ | ⟨k, held, code, i, place, found, -, hrow, -, hrun⟩ <;> rw [hrun]
  · exact still
  have later : v.clock.last < v.clock.tick.1 := Int.lt_of_lt_of_le (Int.lt_succ _) (le_max_left _ _)
  have ticks : v.Timed { v with clock := v.clock.tick.2 } := still.toTimed.congr rfl later.le
  rw [run_bind, addGame, run_of]
  dsimp only
  generalize hg : ({ adventure := held.value.idAt k, location := place.idAt i, language := code
                     locationTimestamp := v.clock.tick.1, completed := place.final } : Game) = g
  have came : g.Came v.clock.last v.clock.tick.1 := by
    subst hg
    exact ⟨later, le_rfl⟩
  have own := numbered.own.add .unset g
  rcases v.games.add_new g with ⟨h, games, hadd, value, carried, edition, puts, ids⟩ | ⟨e, hadd⟩ <;>
    rw [hadd] at own ⊢
  · have next : v.games.ids.next < games.ids.next := by rw [ids]; exact Int.lt_succ _
    have number : h.value.id.getD 0 = v.games.ids.next := by
      rw [value]
      rfl
    have added : v.Timed { v with clock := v.clock.tick.2, games } := ticks.puts own puts ids came
    dsimp only
    rw [number]
    refine Meets.holding (I := (· = { v with clock := v.clock.tick.2, games }))
      (fun _ h => h ▸ still.next added rfl) ?_ _ rfl
    rintro u locks rfl hlocks
    have course := World.Dates.ofCourse v v.games.ids.next
    have hands := World.InHands.added v.clock.tick.2 (course v.clock.tick.1) own puts next carried
      value edition (.inr came) hlocks
    have tends := times.tends course (fun _ _ dates => dates)
      { v with clock := v.clock.tick.2, games, locks }
    have inside := Meets.bind
      (tends.opening (p := { held := h }) held (v.locations.hold i place)) (fun p => tends.transcribe)
      _ ⟨(still.next added rfl).locked locks, v.clock.tick.1, le_rfl, hands⟩
    exact inside.imp (fun _ u hu => hu.locked _) fun u hu => hu.locked _
  · exact still.next (ticks.withIds own) rfl

omit times in
theorem removal {α : Type} {kind : Kind} {found : Op α} {asked : Identifier} {force : Bool}
    {belongs : Int → Game → Bool} {cut : Int → List Int → World → World}
    (numbered : v.games.Numbered) (readOnly : ReadOnly found)
    (cuts : ∀ id ids w, (cut id ids w).games = (ids.foldl dropGame w).games ∧
      (cut id ids w).clock = w.clock ∧ (cut id ids w).replies = w.replies) :
    v.Proceeds told ((Authoring.removal kind found asked force belongs cut).run v).2 := by
  have still : v.Proceeds told v := .refl numbered
  rcases Authoring.run_removal readOnly asked force belongs cut v with
    ⟨e, hrun⟩ | ⟨id, taken, -, -, -, -, hrun⟩ <;> rw [hrun]
  · exact still
  obtain ⟨games, clock, replies⟩ := cuts id (Authoring.numbers taken) v
  have dropped := still.toTimed.dropAll (Authoring.numbers taken)
  refine still.next (dropped.congr games ?_) replies
  rw [Authoring.foldl_dropGame, clock]

/-- Whatever players and removals do. -/
theorem after (numbered : v.games.Numbered) (allowed : a.ByPlayersOrRemoval) :
    v.Proceeds told (engine.after v a) := by
  have still : v.Proceeds told v := .refl numbered
  have readOnly (readOnly : ReadOnly (a.perform engine)) : v.Proceeds told (engine.after v a) := by
    have same : engine.after v a = v := readOnly v
    rw [same]
    exact still
  have meets {α : Type} {op : Op α} {tell : α → Answer} (perform : a.perform engine = tell <$> op)
      (meets : Meets (· = v) op (fun _ => World.Proceeds told v) (World.Proceeds told v)) :
      v.Proceeds told (engine.after v a) := by
    rw [Engine.after_of_perform perform]
    exact meets.after rfl
  cases a with
  | startGame adventure language => exact meets rfl (times.startGame numbered adventure language)
  | takeRoute game route =>
    exact meets rfl ((times.takeRoute numbered game route).imp (fun _ h => h) (fun _ _ h => h.1)
      fun _ h => h)
  | executeScript game script => exact meets rfl (times.executeScript numbered script)
  | endGame game => exact meets rfl (times.endGame numbered)
  | recoverGame game => exact meets rfl (times.recoverGame numbered)
  | getGame _ | availableRoutes _ | contents _ _ _ | textAt _ _ | transcript _ =>
    exact readOnly (Action.Looks.readOnly trivial)
  | removeLocation location force =>
    rw [Engine.after_of_perform rfl, Authoring.removeLocation_eq]
    refine removal numbered (.location location) fun id ids w => ?_
    unfold Authoring.withoutLocation
    rw [Authoring.foldl_dropGame]
    exact ⟨rfl, rfl, rfl⟩
  | removeAdventure adventure force =>
    rw [Engine.after_of_perform rfl, Authoring.removeAdventure_eq]
    refine removal numbered (.adventure adventure) fun id ids w => ?_
    unfold Authoring.withoutAdventure
    rw [Authoring.foldl_dropGame]
    exact ⟨rfl, rfl, rfl⟩
  | _ => exact allowed.elim

end Engine.Times

/-! ### Authors and hosts -/

/-- The worlds have the same games at the same time, and the host has given the same replies. -/
structure World.SameTime (w w' : World) : Prop where
  games : w'.games = w.games
  clock : w'.clock = w.clock
  replies : w'.replies = w.replies

namespace World.SameTime

theorem chains : Chains World.SameTime :=
  ⟨fun _ => ⟨rfl, rfl, rfl⟩, fun h h' => ⟨h'.games.trans h.games, h'.clock.trans h.clock,
    h'.replies.trans h.replies⟩⟩

theorem overlooks : Overlooks World.SameTime := ⟨chains, fun _ _ _ _ _ _ _ => ⟨rfl, rfl, rfl⟩⟩

theorem log (g : Game) (body : Body) : Follows World.SameTime (World.log g body) := by
  intro w
  obtain ⟨journal, hrun⟩ := World.run_log g body w
  rw [hrun]
  exact ⟨rfl, rfl, rfl⟩

end World.SameTime

/-- The host puts a game into the store by itself. -/
def Action.PutsGame : Action → Prop
  | .addGame .. => True
  | _ => False

/-- What neither plays a game nor drops or adds one has nothing to do with time. -/
theorem Action.sameTime (apart : ¬a.ByPlayersOrRemoval) (puts : ¬a.PutsGame) :
    Follows World.SameTime (a.perform engine) := by
  have writing (h : a.IsWriting) : Follows World.SameTime (a.perform engine) :=
    Action.writing World.SameTime.overlooks h
  cases a with
  | append game copyKey text =>
    exact (Follows.append World.SameTime.chains (World.SameTime.log game) _ _).map _
  | clearLog game => exact Follows.map (fun _ => ⟨rfl, rfl, rfl⟩) _
  | addLanguage claim l =>
    exact (Follows.addLanguage World.SameTime.chains (fun _ _ => ⟨rfl, rfl, rfl⟩) _ _).map _
  | hold game =>
    exact (Follows.holdFor World.SameTime.chains (fun _ _ => ⟨rfl, rfl, rfl⟩) _ _).map _
  | release game => exact Follows.map (fun _ => ⟨rfl, rfl, rfl⟩) _
  | addGame claim g => exact absurd trivial puts
  | _ => first | exact writing trivial | exact absurd trivial apart

/-- Whatever is asked for, short of putting games into the store. -/
theorem Engine.Times.proceeds_after (times : engine.Times told) (numbered : v.games.Numbered)
    (puts : ¬a.PutsGame) : v.Proceeds told (engine.after v a) := by
  by_cases allowed : a.ByPlayersOrRemoval
  · exact times.after numbered allowed
  · have same : v.SameTime (engine.after v a) := a.sameTime allowed puts v
    have still : v.Proceeds told v := .refl numbered
    exact still.next (still.toTimed.congr same.games (by rw [same.clock])) same.replies

/-! ### Routes that are taken -/

namespace Engine

/-- The action takes a route for game `n`, which is `g` before it and `g'` behind it. It succeeds, or it
has moved the game all the same. -/
structure Brings (engine : Engine) (v : World) (a : Action) (n : Int) (g g' : Game) : Prop where
  asks : ∃ game route, a = .takeRoute game route ∧ ((World.gameNumber game).run v).1 = .ok n
  before : v.games.get? n = .ok (some g)
  after : (engine.after v a).games.get? n = .ok (some g')
  moves : (∃ answer, engine.answer v a = .ok answer) ∨ ¬g.Rests g'

/-- A game that takes a route is given a time that the clock has not told before. This is later than
the time that it had, unless it has rested since `start`, where this time was not passed before. -/
def Timely (engine : Engine) (start v : World) (a : Action) : Prop :=
  ∀ n g g', engine.Brings v a n g g' →
    g'.Came v.clock.last (engine.after v a).clock.last ∧
      (g.locationTimestamp < g'.locationTimestamp ↔ ¬∃ g₀,
        start.games.get? n = .ok (some g₀) ∧ g₀.Rests g ∧ g'.locationTimestamp ≤ g₀.locationTimestamp)

theorem Times.timely (times : engine.Times told) {start : World} (timed : start.Timed v) (a : Action) :
    engine.Timely start v a := by
  intro n g g' brings
  obtain ⟨game, route, rfl, number⟩ := brings.asks
  have after := brings.after
  have moves := brings.moves
  have perform : (Action.takeRoute game route).perform engine =
    .transcript <$> engine.takeRoute game route := rfl
  have comes := times.takeRoute timed.numbered game route v rfl
  have came : g'.Came v.clock.last (engine.after v (.takeRoute game route)).clock.last := by
    rw [answer_of_perform perform] at moves
    rw [after_of_perform perform] at after ⊢
    rcases hrun : (engine.takeRoute game route).run v with ⟨e | t, w⟩ <;>
      rw [hrun] at comes after moves
    · rcases moves with ⟨answer, failed⟩ | moved
      · cases failed
      rcases comes.stored n g' after with ⟨g₀, found, rests⟩ | came
      · obtain rfl := Option.some.inj (Except.ok.inj (found.symm.trans brings.before))
        exact absurd rests moved
      · exact came
    · exact (comes.2 n number).stored g' after
  refine ⟨came, fun later => ?_, fun passed => ?_⟩
  · rintro ⟨g₀, -, rests, le⟩
    rw [← rests.2] at le
    exact Int.not_lt.2 le later
  · rcases timed.stored n g brings.before with ⟨g₀, found, rests⟩ | before
    · rw [rests.2]
      exact Int.not_le.1 fun le => passed ⟨g₀, found, rests, le⟩
    · exact before.2.trans_lt came.1

/-! ### Runs -/

variable {read : World → Json → Action} {write : World → Except Error Answer → World → Json}

/-- How the host of an engine replies whose scripts nest what they ask for. -/
inductive Replies (engine : Engine) (read : World → Json → Action)
    (write : World → Except Error Answer → World → Json) (depth : Nat) (met : World) : Json → Prop
  | deepest : Replies engine read write depth met (write met (.ok .done) met)
  | done {k : Nat} (deep : k < depth) (request : Json) : Replies engine read write depth met
      (write met ((engine.attended read write k).answer met (read met request))
        ((engine.attended read write k).after met (read met request)))

theorem Replies.deeper {depth : Nat} {met : World} {reply : Json}
    (replies : engine.Replies read write depth met reply) :
    engine.Replies read write (depth + 1) met reply := by
  cases replies with
  | deepest => exact .deepest
  | done deep request => exact .done (Nat.lt_succ_of_lt deep) request

variable {actions : List Action} {start : World}

theorem attended_times (allowed : ∀ v request, (read v request).ByPlayersOrRemoval) (depth : Nat) :
    (engine.attended read write depth).Times (engine.Replies read write depth) := by
  refine ⟨attended_attends allowed depth, ?_⟩
  induction depth with
  | zero =>
    intro request w numbered
    have still : w.Proceeds (engine.Replies read write 0) w := .refl numbered
    exact still.replied .deepest numbered
  | succ depth ih =>
    intro request w numbered
    have inner : (engine.attended read write depth).Times (engine.Replies read write depth) :=
      ⟨attended_attends allowed depth, ih⟩
    have after := (inner.after numbered (allowed w request)).imp fun _ _ replies => replies.deeper
    exact after.replied (.done (Nat.lt_succ_self depth) request) numbered

/-- However operations are interleaved, by players, authors and the host one after another, or by
scripts of players in the middle of operations: whenever a game takes a route, it is given a time that
the clock has not told before. This is later than the time that it had, unless the game has rested
since the clock was set up, at a time that the clock has not come to. -/
theorem routes_timely {engine : Engine} (depth : Nat) (numbered : start.games.Numbered)
    (outside : ∀ a ∈ actions, ¬a.PutsGame)
    (inside : ∀ v request, (read v request).ByPlayersOrRemoval) :
    ∀ v ∈ (engine.attended read write depth).worlds start actions,
      (∀ a, (engine.attended read write depth).Timely start v a) ∧
      ∃ new, v.replies = start.replies ++ new ∧ ∀ reply ∈ new, ∃ met,
        engine.Replies read write depth met reply ∧
        ∀ k a, (engine.attended read write k).Timely start met a := by
  intro v hv
  have times (k : Nat) : (engine.attended read write k).Times (engine.Replies read write k) :=
    attended_times inside k
  have proceeds : start.Proceeds (engine.Replies read write depth) v :=
    worlds_keep (p := fun _ a => a ∈ actions)
      (fun w a hw ha => hw.trans ((times depth).proceeds_after hw.numbered (outside a ha))) (.refl numbered)
      ((throughout_true _ start actions).imp fun _ a ha _ => ha) v hv
  obtain ⟨new, hnew, each⟩ := proceeds.replies
  refine ⟨(times depth).timely proceeds.toTimed, new, hnew, fun reply hr => ?_⟩
  obtain ⟨met, timed, replies⟩ := each reply hr
  exact ⟨met, replies, fun k => (times k).timely timed⟩

/-- On the way down the lane, a script has its own game take the route once more, in vain. The game
comes to the well later than it has come to the gate. -/
theorem routes_timely_lane :
    let read := fun (_ : World) (_ : Json) => Action.takeRoute (1 : Int) (1 : Int)
    let write := fun (_ : World) (_ : Except Error Answer) (_ : World) => Json.null
    let start := World.lane (.memory {})
    let w := (asking.attended read write 1).left start [.startGame (1 : Int) .null]
    (asking.attended read write 1).Brings w (.takeRoute (1 : Int) (1 : Int)) 1
        { Game.waiting with locationTimestamp := 1 } .arrived ∧
      (∀ a, (asking.attended read write 1).Timely start w a) ∧
      ∃ new, w.replies = start.replies ++ new ∧ ∀ reply ∈ new, ∃ met,
        asking.Replies read write 1 met reply ∧
        ∀ k a, (asking.attended read write k).Timely start met a := by
  intro read write start w
  have brings : (asking.attended read write 1).Brings w (.takeRoute (1 : Int) (1 : Int)) 1
      { Game.waiting with locationTimestamp := 1 } .arrived :=
    ⟨⟨_, _, rfl, by decide +kernel⟩, by decide +kernel, by decide +kernel,
      .inr fun rests => absurd rests.1 (by decide)⟩
  have outside : ∀ a ∈ [Action.startGame (1 : Int) .null], ¬a.PutsGame := by
    simp [Action.PutsGame]
  have inside (v : World) (request : Json) : (read v request).ByPlayersOrRemoval := trivial
  exact ⟨brings, routes_timely 1 .empty outside inside w (left_mem_worlds _ _ _)⟩

-- A file says that the game has come to the gate at 5000. Another clock tells 1000 when it leaves.
example :
    (do
      let left ← Folder.write {} 1 { Game.waiting with locationTimestamp := 5000 }
      let folder ← Folder.open left.directory
      (reciting.left { World.lane (.files folder) with clock := { reading := fun _ => 1000 } }
        [.takeRoute (1 : Int) (1 : Int)]).games.get? 1) =
      .ok (some { Game.arrived with locationTimestamp := 1000 }) := by
  decide +kernel

end Engine

end TextAdventure
