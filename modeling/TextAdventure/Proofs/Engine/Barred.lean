import TextAdventure.Proofs.Engine.Journeys
import TextAdventure.Proofs.Engine.Scripted

/-! Routes that a game cannot take. A game that can be held, and is stored and not in need of recovery,
can take the routes that are listed for it, and it is kept from all others. Whatever keeps it from a
route does so before anything is written: none of the steps on the way fails like that. -/

namespace TextAdventure

open Op

/-- The errors that turn a game away from a route. -/
def Error.TurnsAway : Error → Prop
  | gameBusy _ | recoveryRequired _ | invalidTransition .. => True
  | notFound kind _ => kind = .game ∨ kind = .route ∨ kind = .location
  | _ => False

/-- The errors of a route that is not there, or starts elsewhere. -/
def Error.BarsRoute : Error → Prop
  | invalidTransition .. => True
  | notFound kind _ => kind = .route
  | _ => False

theorem Error.BarsRoute.turnsAway {e : Error} (h : e.BarsRoute) : e.TurnsAway := by
  unfold BarsRoute at h
  split at h
  · trivial
  · exact .inr (.inl h)
  · exact h.elim

/-- An operation has failed with an error that turns no game away. -/
theorem Error.turns_none {α : Type} {e e' : Error} (h : (.error e' : Except Error α) = .error e)
    (own : ¬e'.TurnsAway) : ¬e.TurnsAway := by
  rw [← Except.error.inj h]
  exact own

/-- What programs come to by themselves turns no game away. -/
theorem Lua.Own.turns_none {e : Error} (own : Lua.Own e) : ¬e.TurnsAway := by
  cases e <;> first | exact own.elim | exact not_false

/-- What a script is refused because of what it has handed over turns no game away. -/
theorem Error.turns_none_of_argument {e : Error} (argument : e.isArgument = true) :
    ¬e.TurnsAway := by
  cases e <;> first | exact not_false | exact absurd argument Bool.false_ne_true

/-! ### What scripts raise -/

namespace Stage

/-- What a game refuses a script is nothing that turns games away. -/
theorem answer_refuses (engine : Engine) (s : Stage World) (request : Request) :
    request.Refuses (fun e => ¬e.TurnsAway) (s.answer engine.place request).1 :=
  (s.answer_objects engine.place_objects request).mono fun _ => Error.turns_none_of_argument

theorem display_game (engine : Engine) (s : Stage World) (body : Body) :
    (s.display engine.place body).2.game = s.game := by
  unfold display
  split <;> rfl

theorem answer_needsRecovery (engine : Engine) (s : Stage World) (request : Request) :
    (s.answer engine.place request).2.game.needsRecovery = s.game.needsRecovery := by
  cases request with
  | emit text =>
    cases text with
    | text t => exact congrArg Game.needsRecovery (display_game engine s _)
    | _ => rfl
  | emitCopy key =>
    show (s.emitCopy engine.place key).2.game.needsRecovery = _
    unfold emitCopy
    split
    · split
      · rfl
      · exact congrArg Game.needsRecovery (display_game engine s _)
    · rfl
  | setState key value => exact (congrArg Game.needsRecovery (moves_setState 0 key value s).game :)
  | replaceState values => rfl
  | getState key => rfl
  | lookUp key => rfl
  | bearings => rfl

end Stage

namespace Play

variable {engine : Engine} {host : Json → Stage World → Json × Stage World} {s : Stage World}

theorem run_needsRecovery {α : Type} {play : Play α} (quiet : play.Quiet) :
    (play.run engine.place host s).2.game.needsRecovery = s.game.needsRecovery := by
  induction play generalizing s with
  | done value => rfl
  | ask request next ih => exact (ih _ (quiet _)).trans (s.answer_needsRecovery engine request)
  | call request next ih => exact quiet.elim

end Play

/-! ### Steps on the way -/

/-- `K` knows the errors that a game can come to on its way, and `H` is kept of the game. Either the
scripts may do as they like, and `K` has to know what a game in need of recovery comes to, or the
scripts leave the host alone, and then no game comes to that. -/
structure Engine.Bears (engine : Engine) (K : Error → Prop) (H : Game → Prop) : Prop where
  raises : engine.Raises fun e => ¬e.TurnsAway
  others : ∀ e, ¬e.TurnsAway → K e
  halted : ∀ g, H g → g.needsRecovery = true → K (.recoveryRequired g.id)
  played : ∀ {held id script runtime w}, engine.runtime = some runtime → H held.value →
    H (engine.outcome held id script runtime w).2.game
  moved : ∀ {g : Game} location locationTimestamp completed, H g →
    H { g with location, locationTimestamp, completed }

variable {engine : Engine} {K : Error → Prop} {H : Game → Prop} {w : World} {held : Held Game}
  {p : Progress}

theorem Games.update_value {s s' : Games} {held' : Held Game}
    (h : s.update held = .ok (held', s')) : held'.value = held.value := by
  cases s with
  | memory t =>
    unfold update at h
    dsimp only at h
    split at h
    · exact nomatch h
    · split at h
      · obtain ⟨rfl, -⟩ := Prod.mk.inj (Except.ok.inj h)
        exact (Table.restore_stored t _ held).2.1
      · exact nomatch h
  | files f =>
    obtain ⟨f', -, same⟩ := map_ok h
    rw [(Prod.mk.inj same).1]

theorem Folder.update_error {f : Folder} {g : Game} {e : Error} (h : f.update g = .error e) :
    ¬e.TurnsAway := by
  unfold update at h
  split at h
  · exact Error.turns_none h not_false
  · split at h
    · exact Error.turns_none h not_false
    · unfold write at h
      rcases Payload.write_eq g with ⟨-, written⟩ | ⟨-, written⟩ <;> rw [written] at h
      · exact nomatch h
      · exact Error.turns_none h not_false

theorem Games.update_error {s : Games} {e : Error} (h : s.update held = .error e) :
    ¬e.TurnsAway := by
  cases s with
  | memory t =>
    unfold update at h
    dsimp only at h
    split at h
    · exact Error.turns_none h not_false
    · split at h
      · exact nomatch h
      · exact Error.turns_none h not_false
  | files f =>
    cases updated : f.update held.value with
    | error e' =>
      obtain rfl : e' = e := by simpa [update, updated, Except.map] using h
      exact Folder.update_error updated
    | ok f' => simp [update, updated, Except.map] at h

theorem World.updateGame_yields (held : Held Game) (w : World) :
    Yields (World.updateGame held) w (fun held' _ => held'.value = held.value)
      fun e _ => ¬e.TurnsAway := by
  rw [Yields, run_updateGame_eq]
  cases updated : (w.games.share held).update held with
  | error e => exact Games.update_error updated
  | ok r => exact Games.update_value updated

/-- A route is asked for by its number. -/
theorem World.run_route_number (r : Int) (w : World) :
    (World.route r).run w = (Op.required .route r (w.routes.get? r)).run w := rfl

/-- A location is asked for by its number. -/
theorem World.run_location_number (m : Int) (w : World) :
    (World.location m).run w = (Op.required .location m (w.locations.held? m)).run w := rfl

theorem World.run_location_none {m : Int} (missing : w.locations.get? m = none) (locks : Locks) :
    (World.location m).run { w with locks } =
      (.error (.notFound .location m), { w with locks }) := by
  have held : w.locations.held? m = none := by rw [Table.held?, missing, Option.map_none]
  rw [run_location_number, held]
  rfl

namespace Engine

theorem not_turnsAway_outcome (raises : engine.Raises fun e => ¬e.TurnsAway) {runtime : Runtime}
    (hruntime : engine.runtime = some runtime) {id : Int} {script : Script} {e : Error}
    (ended : (engine.outcome held id script runtime w).1 = .raised e) : ¬e.TurnsAway :=
  (raises runtime hruntime _).run (Stage.answer_refuses engine) ended

theorem scriptFor_error {id : Identifier} {e : Error}
    (h : (engine.scriptFor held id).run w = (.error e, w)) :
    ¬e.TurnsAway ∨ held.value.needsRecovery = true ∧ e = .recoveryRequired held.value.id := by
  have lookUp {e : Error} (h : e.OfLookUp .script id) : ¬e.TurnsAway := by
    rcases h with rfl | ⟨kind, rfl⟩
    · simp [Error.TurnsAway]
    · exact not_false
  rcases run_bind_eq_error.1 h with h | ⟨script, u, -, h⟩
  · exact .inl (lookUp (World.found_error (f := fun v n => v.scripts.get? n) h))
  rcases run_bind_eq_error.1 h with h | ⟨n, u', -, h⟩
  · exact .inl (lookUp (number_error h))
  split at h
  · rename_i flagged
    exact .inr ⟨flagged, (Except.error.inj (Prod.mk.inj h).1).symm⟩
  split at h
  · obtain rfl := Except.error.inj (Prod.mk.inj h).1
    exact .inl not_false
  rcases run_bind_eq_error.1 h with h | ⟨runtime, v, -, h⟩
  · unfold runtimeFor at h
    split at h
    · exact nomatch (Prod.mk.inj h).1
    · obtain rfl := Except.error.inj (Prod.mk.inj h).1
      exact .inl not_false
    · obtain rfl := Except.error.inj (Prod.mk.inj h).1
      exact .inl not_false
  · exact nomatch (Prod.mk.inj h).1

namespace Bears

variable (bears : engine.Bears K H)
include bears

theorem play {id : Int} {script : Script} {runtime : Runtime}
    (hruntime : engine.runtime = some runtime) (kept : H held.value) :
    Yields (engine.play held id script runtime) w (fun r _ => H r.2.value) fun e _ => K e := by
  have played : H (engine.outcome held id script runtime w).2.game := bears.played hruntime kept
  have raises (e : Error) : (engine.outcome held id script runtime w).1 = .raised e → ¬e.TurnsAway :=
    not_turnsAway_outcome bears.raises hruntime
  rw [Yields, run_play]
  generalize engine.outcome held id script runtime w = outcome at played raises
  obtain ⟨ending, s⟩ := outcome
  have stores : Yields (storeAgain { held with value := afterwards s.game ending }) s.around
      (fun held' _ => held'.value = afterwards s.game ending) fun e _ => K e := by
    unfold storeAgain
    split
    · exact (World.updateGame_yields _ _).imp (fun _ _ same => same) fun e _ => bears.others e
    · exact .pure rfl
  refine Yields.bind stores fun held' u hvalue => ?_
  cases ending with
  | result value =>
    have told : Yields (engine.texts s.emitted held'.value.language) u (fun _ _ => True)
      fun e _ => K e := trivial
    refine .bind told fun texts _ _ => .pure ?_
    rw [hvalue]
    exact played
  | failed message timedOut => cases timedOut <;> exact .throw (bears.others _ not_false)
  | raised e => exact .throw (bears.others e (raises e rfl))

theorem executeStored (kept : H held.value) (id : Identifier) :
    Yields (engine.executeStored held id) w (fun r _ => H r.2.value) fun e _ => K e := by
  rw [executeStored_eq]
  refine .read (ofStory_scriptFor engine held id).readOnly (fun e he => ?_) fun a ha =>
    bears.play (scriptFor_ok ha).2 kept
  rcases scriptFor_error he with own | ⟨flagged, rfl⟩
  · exact bears.others e own
  · exact bears.halted _ kept flagged

theorem runHook (kept : H p.game) (hook : Option Int) :
    Yields (engine.runHook hook p) w (fun p _ => H p.game) fun e _ => K e := by
  cases hook with
  | none => exact .pure kept
  | some script => exact .bind (bears.executeStored kept script) fun r u hr => .pure hr

theorem showCopy (kept : H p.game) (key : Option Text) :
    Yields (Engine.showCopy key p) w (fun p _ => H p.game) fun e _ => K e := by
  cases key with
  | none => exact .pure kept
  | some key =>
    refine .bind (Q := fun _ _ => True) ?_ fun _ _ _ => .pure kept
    cases number : p.game.id with
    | none => exact .of_run (World.run_log_none number _ w) (bears.others _ not_false)
    | some n => exact .of_run (World.run_log_some number _ w) trivial

theorem move (kept : H p.game) (id : Int) (place : Location) :
    Yields (Engine.move id place p) w (fun p _ => H p.game) fun e _ => K e := by
  have ticked : World.tick.run w = (.ok w.clock.tick.1, { w with clock := w.clock.tick.2 }) := rfl
  refine .bind (.of_run ticked trivial) (Q := fun _ _ => True) fun time u _ => ?_
  refine .bind ((World.updateGame_yields _ u).imp (fun _ _ same => same) fun e _ =>
    bears.others e) fun held' v hvalue => .pure ?_
  show H held'.value
  rw [hvalue]
  exact bears.moved _ _ _ kept

theorem terminate (kept : H p.game) :
    Yields (engine.terminate p) w (fun p _ => H p.game) fun e _ => K e := by
  refine .read .get (fun e he => nomatch (Prod.mk.inj he).1) fun u _ => ?_
  split
  · exact .pure kept
  · exact bears.runHook kept _

theorem travel (kept : H p.game) (way : Route) (origin destination : Held Location) :
    Yields (engine.travel way origin destination p) w (fun p _ => H p.game) fun e _ => K e := by
  have now {α : Type} (location : Held Location) {f : Location → Op α} {v : World}
      {Q : α → World → Prop} (hf : ∀ place, Yields (f place) v Q fun e _ => K e) :
      Yields (World.locationNow location >>= f) v Q fun e _ => K e :=
    .read (.locationNow _) (fun e he => nomatch (Prod.mk.inj he).1) fun place _ => hf place
  refine .bind (bears.showCopy kept _) fun p₁ v₁ h₁ => .bind (bears.runHook h₁ _)
    fun p₂ v₂ h₂ => now origin fun place => ?_
  refine .bind (bears.runHook h₂ _) fun p₃ v₃ h₃ => now destination fun place' => ?_
  refine .bind (bears.move h₃ _ _) fun p₄ v₄ h₄ => .bind (bears.showCopy h₄ _) fun p₅ v₅ h₅ => ?_
  refine .bind (bears.runHook h₅ _) fun p₆ v₆ h₆ => now destination fun there => ?_
  split
  · exact bears.terminate h₆
  · exact .pure h₆

end Bears

/-- Whatever scripts do, nothing on the way is like a route that is not there. -/
theorem bears_barring (raises : engine.Raises fun e => ¬e.TurnsAway) :
    engine.Bears (fun e => ¬e.BarsRoute) fun _ => True where
  raises := raises
  others _ own bars := own bars.turnsAway
  halted _ _ _ := not_false
  played _ _ := trivial
  moved _ _ _ _ := trivial

/-- A game that scripts leave alone goes on, and nothing on the way is like being turned away. -/
theorem bears_turning (raises : engine.Raises fun e => ¬e.TurnsAway) (quiet : engine.Quiet) :
    engine.Bears (fun e => ¬e.TurnsAway) fun g => g.needsRecovery = false where
  raises := raises
  others _ own := own
  halted _ ready flagged := Bool.noConfusion (ready.symm.trans flagged)
  played hruntime ready := (Play.run_needsRecovery (quiet _ hruntime _)).trans ready
  moved _ _ _ ready := ready

/-- What a game comes to once it has set out. -/
theorem SetsOut.error {game route : Identifier} {n : Int} {g : Game} {way : Route}
    {origin destination : Location} (out : engine.SetsOut w game route n g way origin destination)
    (bears : engine.Bears K H) (kept : H g) {e : Error}
    (h : ((engine.takeRoute game route).run w).1 = .error e) : K e := by
  obtain ⟨locks, held, from', to', -, rfl, -, -, -, taken⟩ := out.run_takeRoute
  have goes : Yields (engine.travel way from' to' { held } >>= engine.transcribe) { w with locks }
      (fun _ _ => True) fun e _ => K e :=
    .bind (bears.travel (p := { held }) kept way from' to') fun p v _ =>
      .read (.texts _ _ _) (fun _ he => nomatch (Prod.mk.inj he).1) fun _ _ => .pure trivial
  rcases run : (engine.travel way from' to' { held } >>= engine.transcribe).run { w with locks } with
    ⟨answer, v⟩
  rw [taken run] at h
  exact goes.error (run.trans (by rw [show answer = .error e from h]))

/-! ### Routes that are listed -/

variable {n r : Int} {g : Game}

/-- What keeps game `n` from route `r`, which does not leave its location. -/
def barrier (w : World) (n r location : Int) : Error :=
  if (w.routes.get? r).isSome then .invalidTransition n r location else .notFound .route r

theorem barrier_barsRoute (w : World) (n r location : Int) : (barrier w n r location).BarsRoute := by
  unfold barrier
  split
  · trivial
  · rfl

theorem run_availableRoutes (found : w.games.get? n = .ok (some g)) :
    (availableRoutes n).run w =
      (.ok (w.routes.select fun route => route.origin = g.location), w) := by
  obtain ⟨held, hheld, rfl, -⟩ :=
    World.run_heldGame_locked (World.run_gameNumber_number n w) found w.locks
  unfold availableRoutes World.game
  rw [bind_assoc, run_bind_ok hheld]
  rfl

theorem mem_listed (ascending : w.routes.rows.Ascending) (location : Int) :
    r ∈ (w.routes.select fun route => route.origin = location).map (·.1) ↔
      ∃ way, w.routes.get? r = some way ∧ way.origin = location := by
  have listed (way : Route) : (r, way) ∈ (w.routes.select fun route => route.origin = location) ↔
      w.routes.get? r = some way ∧ decide (way.origin = location) = true :=
    ascending.mem_select _
  constructor
  · intro member
    obtain ⟨⟨k, way⟩, row, rfl⟩ := List.mem_map.1 member
    exact ⟨way, ((listed way).1 row).1, of_decide_eq_true ((listed way).1 row).2⟩
  · rintro ⟨way, stored, leaves⟩
    exact List.mem_map.2 ⟨(r, way), (listed way).2 ⟨stored, decide_eq_true leaves⟩, rfl⟩

section Ready

variable (waits : engine.Waits) (free : w.locks.isBusy n = false)
  (found : w.games.get? n = .ok (some g)) (ready : g.needsRecovery = false)
include waits free found

/-- What a game that is free is refused, it is refused before anything is written. -/
theorem takeRoute_refused (route : Identifier) :
    ∃ locks held, w.locks.hold engine.settings.busyTimeout n = .ok locks ∧ held.value = g ∧
      ∀ {e : Error}, (engine.depart n route held).run { w with locks } = (.error e, { w with locks }) →
        (engine.takeRoute n route).run w = (.error e, w) := by
  have number := World.run_gameNumber_number n w
  obtain ⟨locks, hold⟩ : ∃ locks, w.locks.hold engine.settings.busyTimeout n = .ok locks := by
    unfold Locks.hold
    rw [if_neg waits, if_neg (by simp [free])]
    exact ⟨_, rfl⟩
  obtain ⟨held, hheld, value, -⟩ := World.run_heldGame_locked number found locks
  refine ⟨locks, held, hold, value, fun {e} departs => ?_⟩
  have run := run_held hold ((run_bind_ok hheld).trans departs)
  rw [Locks.release_hold hold] at run
  exact (run_bind_ok number).trans run

include ready

theorem takeRoute_unlisted
    (unlisted : ∀ way, w.routes.get? r = some way → way.origin ≠ g.location) :
    (engine.takeRoute n r).run w = (.error (barrier w n r g.location), w) := by
  obtain ⟨locks, held, -, rfl, refused⟩ := takeRoute_refused waits free found r
  refine refused ?_
  rw [depart, if_neg (by simp [ready]), barrier]
  have route := World.run_route_number r { w with locks }
  cases stored : w.routes.get? r with
  | none =>
    rw [stored] at route
    exact run_bind_error route
  | some way =>
    rw [stored] at route
    rw [run_bind_ok route, if_pos (unlisted way stored)]
    rfl

theorem takeRoute_listed {way : Route} (stored : w.routes.get? r = some way)
    (leaves : way.origin = g.location) :
    (∃ id, (engine.takeRoute n r).run w = (.error (.notFound .location id), w)) ∨
      ∃ origin destination, engine.SetsOut w n r n g way origin destination := by
  obtain ⟨locks, held, hold, rfl, refused⟩ := takeRoute_refused waits free found r
  have route (locks : Locks) : (World.route r).run { w with locks } = (.ok way, { w with locks }) := by
    rw [World.run_route_number, stored]
    rfl
  rw [depart, if_neg (by simp [ready]), run_bind_ok (route locks), if_neg (not_not.2 leaves)]
    at refused
  cases from' : w.locations.get? way.origin with
  | none => exact .inl ⟨_, refused (run_bind_error (World.run_location_none from' locks))⟩
  | some origin =>
    cases to' : w.locations.get? way.destination with
    | none =>
      obtain ⟨place, hplace, -⟩ := World.location_of_get? (w := { w with locks }) from'
      rw [run_bind_ok hplace] at refused
      exact .inl ⟨_, refused (run_bind_error (World.run_location_none to' locks))⟩
    | some destination =>
      exact .inr ⟨origin, destination, World.run_gameNumber_number n w, ⟨locks, hold⟩, found, ready,
        route w.locks, leaves, from', to'⟩

end Ready

/-- What taking a route comes to for game `n`, which is free, stored and not in need of recovery, where
`rows` are the routes that are listed for it: it is kept from the routes that are not listed. An engine
that cannot wait cannot tell. -/
structure Offers (engine : Engine) (w : World) (n : Int) (g : Game) (rows : Rows Route) : Prop where
  listed : (availableRoutes n).run w = (.ok rows, w)
  shown : (∀ k way, w.routes.get? k = some way → way.otherId = none) →
    rows.map (fun row => row.2.idAt row.1) = rows.map (·.1)
  bars : ∀ r : Int, (∃ e, ((engine.takeRoute n r).run w).1 = .error e ∧ e.BarsRoute) ↔
    engine.Waits ∧ r ∉ rows.map (·.1)
  barred : engine.Waits → ∀ r : Int, r ∉ rows.map (·.1) →
    (engine.takeRoute n r).run w = (.error (barrier w n r g.location), w)
  jammed : ¬engine.Waits →
    ∀ route : Identifier, (engine.takeRoute n route).run w = (.error .busyTimeoutTooLong, w)

/-- An engine that cannot wait refuses games that are free. -/
theorem takeRoute_jammed (jammed : ¬engine.Waits) (w : World) (n : Int) (route : Identifier) :
    (engine.takeRoute n route).run w = (.error .busyTimeoutTooLong, w) := by
  refine run_refused (World.run_gameNumber_number n w) ?_ _
  unfold Locks.hold
  rw [if_pos (not_not.1 jammed)]

theorem offers (raises : engine.Raises fun e => ¬e.TurnsAway) (ascending : w.routes.rows.Ascending)
    (free : w.locks.isBusy n = false) (found : w.games.get? n = .ok (some g))
    (ready : g.needsRecovery = false) :
    engine.Offers w n g (w.routes.select fun route => route.origin = g.location) := by
  have barred (waits : engine.Waits) (r : Int)
      (unlisted : r ∉ (w.routes.select fun route => route.origin = g.location).map (·.1)) :
      (engine.takeRoute n r).run w = (.error (barrier w n r g.location), w) :=
    takeRoute_unlisted waits free found ready fun way stored leaves =>
      unlisted ((mem_listed ascending g.location).2 ⟨way, stored, leaves⟩)
  refine ⟨run_availableRoutes found, fun named => ?_, fun r => ⟨?_, ?_⟩, barred,
    fun jammed => takeRoute_jammed jammed w n⟩
  · refine List.map_congr_left fun row hrow => ?_
    obtain ⟨stored, -⟩ := (ascending.mem_select _).1 hrow
    rw [Route.idAt, named row.1 row.2 stored, Option.getD_none]
  · rintro ⟨e, failed, bars⟩
    by_cases waits : engine.Waits
    · -- A listed route either leads to a missing location, or it sets out, and then it is too late.
      refine ⟨waits, fun listed => ?_⟩
      obtain ⟨way, stored, leaves⟩ := (mem_listed ascending g.location).1 listed
      rcases takeRoute_listed waits free found ready stored leaves with
        ⟨id, run⟩ | ⟨origin, destination, out⟩
      · rw [run] at failed
        obtain rfl := Except.error.inj failed
        exact Kind.noConfusion bars
      · exact out.error (bears_barring raises) trivial failed bars
    · rw [takeRoute_jammed waits] at failed
      obtain rfl := Except.error.inj failed
      exact bars.elim
  · rintro ⟨waits, unlisted⟩
    exact ⟨_, congrArg Prod.fst (barred waits r unlisted), barrier_barsRoute w n r g.location⟩

/-- Games that are free, stored and not in need of recovery are kept from exactly those routes that
are not listed for them, as long as the engine can wait for games. Whenever a game is turned away
from a route, the world stays as it is. -/
theorem takeRoute_turns_away (raises : engine.Raises fun e => ¬e.TurnsAway) :
    (∀ {w : World} {n : Int} {g : Game}, w.routes.rows.Ascending → w.locks.isBusy n = false →
      w.games.get? n = .ok (some g) → g.needsRecovery = false → ∃ rows, engine.Offers w n g rows) ∧
    (engine.Quiet → ∀ {w : World} {game route : Identifier} {e : Error},
      ((engine.takeRoute game route).run w).1 = .error e → e.TurnsAway →
        (engine.takeRoute game route).run w = (.error e, w)) := by
  refine ⟨fun ascending free found ready => ⟨_, offers raises ascending free found ready⟩,
    fun quiet w game route e failed turned => ?_⟩
  rcases takeRoute_refused_or engine w game route with
    ⟨e', run⟩ | ⟨n, g, way, origin, destination, out⟩
  · rw [run] at failed ⊢
    rw [show Except.error e' = .error e from failed]
  · exact absurd turned (out.error (bears_turning raises quiet) out.ready failed)

/-- With scripts in Lua, a game at the gate is not kept from the lane, and takes no other route. Another
one waits to be recovered, and is turned away. -/
theorem takeRoute_turns_away_lane :
    let engine : Engine := { runtime := some (Lua.play none) }
    let halted : Game := { Game.waiting with needsRecovery := true, id := some 2 }
    let w := World.lane (.memory { rows := [(1, .waiting), (2, halted)], ids := ⟨3⟩ })
    (¬∃ e, ((engine.takeRoute (1 : Int) (1 : Int)).run w).1 = .error e ∧ e.BarsRoute) ∧
      (engine.takeRoute (1 : Int) (9 : Int)).run w = (.error (.notFound .route (9 : Int)), w) ∧
      (engine.takeRoute (2 : Int) (1 : Int)).run w = (.error (.recoveryRequired (some 2)), w) := by
  intro engine halted w
  have made : Lua.runtime none = .ok (Lua.play none) := rfl
  have raises : engine.Raises fun e => ¬e.TurnsAway :=
    raises_lua made rfl fun _ => Lua.Own.turns_none
  obtain ⟨ready, turned⟩ := takeRoute_turns_away raises
  obtain ⟨rows, offers⟩ := ready (w := w) (n := 1) (g := .waiting) (List.pairwise_singleton _ _) rfl
    rfl rfl
  have listed : rows.map (·.1) = [1] := by
    have run : (availableRoutes (1 : Int)).run w =
        (.ok [(1, { origin := 1, destination := 2, takenScript := some 1 })], w) := rfl
    obtain rfl := Except.ok.inj (Prod.mk.inj (offers.listed.symm.trans run)).1
    rfl
  have waits : engine.Waits := by
    unfold Waits
    decide +kernel
  have barred := offers.barred waits 9 (by simp [listed])
  have hold : w.locks.hold engine.settings.busyTimeout 2 = .ok ⟨[(2, .operation)]⟩ := by
    decide +kernel
  have failed : ((engine.takeRoute (2 : Int) (1 : Int)).run w).1 =
      .error (.recoveryRequired (some 2)) :=
    congrArg Prod.fst (run_takeRoute_flagged (World.run_gameNumber_number 2 w) rfl rfl hold _)
  refine ⟨fun bars => ?_, barred, turned (quiet_lua made rfl) failed trivial⟩
  exact ((offers.bars 1).1 bars).2 (by simp [listed])

end Engine

end TextAdventure
