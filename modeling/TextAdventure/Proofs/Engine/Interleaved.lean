import TextAdventure.Proofs.Engine.Underway

/-! Operations that are interleaved. Players act one after another or through scripts in the middle of
operations, and authors remove locations and adventures meanwhile. Every stored game stays at a stored
location, unless a script removes the place that a held game can go to from where it is. -/

namespace TextAdventure

open Op

variable {engine : Engine} {w w' : World} {m n : Int} {h : Held Game} {a : Action}

namespace Engine.Settles

variable (settles : engine.Settles)
include settles

omit settles in
/-- An operation on a game that is asked for. -/
theorem onGame {α : Type} {game : Identifier} {f : Int → Held Game → Op α}
    (hf : ∀ m held, Meets (World.InHand m held.value none held) (f m held) (fun _ => World.Settled)
      World.Settled) :
    Meets World.Settled
      (World.gameNumber game >>= fun m => engine.holding m (World.heldGame game >>= f m))
      (fun _ => World.Settled) World.Settled := by
  refine .onGame (fun _ hw => hw.games.own) (fun _ hw => hw) (fun _ _ _ hw _ _ => hw.congr rfl rfl)
    fun w m locks held hw _ hlocks _ found => ?_
  exact (hf m held _ (.taken hw (hw.stands found) hlocks)).imp (fun _ v hv => hv.congr rfl rfl)
    fun v hv => hv.congr rfl rfl

theorem takeRoute (game route : Identifier) :
    Meets World.Settled (engine.takeRoute game route) (fun _ => World.Settled) World.Settled :=
  onGame fun m held => settles.depart m route held

theorem executeScript (game script : Identifier) :
    Meets World.Settled (engine.executeScript game script) (fun _ => World.Settled)
      World.Settled :=
  onGame fun m held =>
    .bind ((settles.tends m held.value none).executeStored script) fun _ => .pure fun _ hw => hw.settled

theorem endGame (game : Identifier) :
    Meets World.Settled (engine.endGame game) (fun _ => World.Settled) World.Settled := by
  refine onGame fun m held => ?_
  have tends := settles.tends m held.value none
  refine .skip (.finalHook _) (tends.fails held) fun hook =>
    .bind (tends.runHook (p := { held }) hook) fun p => .bind tends.transcribe fun _ =>
    .bind (Q := fun _ => World.Settled) ?_ fun _ => .pure fun _ hw => hw
  exact fun w hw => hw.drop m

theorem recoverGame (game : Identifier) :
    Meets World.Settled (engine.recoverGame game) (fun _ => World.Settled) World.Settled := by
  refine onGame fun m held => .ite (fun _ => ?_) fun _ => .pure fun _ hw => hw.settled
  refine .bind (Q := fun _ => World.Settled) ?_ fun _ => .pure fun _ hw => hw
  have tends := settles.tends m held.value none
  exact (tends.updated _).imp (fun w hw => tends.changed held w _ false hw)
    (fun _ _ hw => hw.settled) fun _ hw => hw

theorem startGame (adventure : Identifier) (language : Json) :
    Meets World.Settled (engine.startGame adventure language) (fun _ => World.Settled)
      World.Settled := by
  intro w hw
  rcases startGame_cases engine adventure language w with
    ⟨e, hrun⟩ | ⟨k, held, code, i, place, found, hcode, hrow, hadventure, hrun⟩ <;> rw [hrun]
  · exact hw
  have houses (g : Game) (adventure : g.adventure = held.value.idAt k)
      (location : g.location = place.idAt i) : w.Houses g :=
    hw.toLaid.starts language k held.value i place code { g with language := code }
      (Table.current_held found).2 hrow hadventure hcode adventure location rfl
  have ticks : World.Settled { w with clock := w.clock.tick.2 } := hw.congr rfl rfl
  refine Meets.bind (I := fun v => v = { w with clock := w.clock.tick.2 })
    (Q := fun h v => v.Settled ∧ ∃ n, v.Stands n h) ?_
    (fun added => ?_) _ rfl
  · rintro v rfl
    exact ticks.addGame (houses _ rfl rfl)
  rintro v ⟨settled, n, stands⟩
  have number : added.value.id.getD 0 = n := by rw [stands.carried.number]; rfl
  rw [number]
  refine Meets.holding (I := fun u => u = v) (by rintro u rfl; exact settled) ?_ v rfl
  rintro u locks rfl hlocks
  have tends := settles.tends n added.value none
  have inside := Meets.bind (tends.opening (p := { held := added }) held (w.locations.hold i place))
    (fun p => tends.transcribe) { u with locks } (.taken settled stands hlocks)
  exact inside.imp (fun _ v hv => hv.congr rfl rfl) fun v hv => hv.congr rfl rfl

/-- Whatever players and removals do. -/
theorem after (hw : w.Settled) (allowed : a.ByPlayersOrRemoval) : (engine.after w a).Settled := by
  have readOnly (readOnly : ReadOnly (a.perform engine)) : (engine.after w a).Settled := by
    have same : engine.after w a = w := readOnly w
    rw [same]
    exact hw
  have meets {α : Type} {op : Op α} {tell : α → Answer} (perform : a.perform engine = tell <$> op)
      (meets : Meets World.Settled op (fun _ => World.Settled) World.Settled) :
      (engine.after w a).Settled := by
    rw [Engine.after_of_perform perform]
    exact meets.after hw
  cases a with
  | startGame adventure language => exact meets rfl (settles.startGame adventure language)
  | takeRoute game route => exact meets rfl (settles.takeRoute game route)
  | executeScript game script => exact meets rfl (settles.executeScript game script)
  | endGame game => exact meets rfl (settles.endGame game)
  | recoverGame game => exact meets rfl (settles.recoverGame game)
  | getGame _ | availableRoutes _ | contents _ _ _ | textAt _ _ | transcript _ =>
    exact readOnly (Action.Looks.readOnly trivial)
  | removeLocation location force =>
    rw [Engine.after_of_perform rfl]
    exact hw.removeLocation location force
  | removeAdventure adventure force =>
    rw [Engine.after_of_perform rfl]
    exact hw.removeAdventure adventure force
  | _ => exact allowed.elim

end Engine.Settles

/-! ### Runs -/

namespace Engine

variable {read : World → Json → Action} {write : World → Except Error Answer → World → Json}

/-- However deep scripts nest what they ask for, as long as this cuts no game off. -/
theorem attended_settles (allowed : ∀ v request, (read v request).ByPlayersOrRemoval)
    (free : ∀ v request, ¬(read v request).CutsOff v) (depth : Nat) :
    (engine.attended read write depth).Settles := by
  have spares (depth : Nat) (n : Int) (o : Game) (way : Option Int) (h : Held Game) :
      (engine.attended read write depth).Spares n (World.Awaits n o way h) :=
    spares_attended (fun _ aw => aw.own) (fun _ _ apart aw => aw.apart apart)
      (fun _ _ aw => aw.replied _) fun _ _ spares request w aw =>
      (aw.after spares (allowed w request) (free w request)).replied _
  -- What scripts ask for at one depth is performed by the engine of the depth below.
  induction depth with
  | zero => exact ⟨attended_attends allowed 0, fun _ _ hw => hw.replied _, spares 0⟩
  | succ depth ih =>
    exact ⟨attended_attends allowed _, fun request w hw =>
      (ih.after hw (allowed w request)).replied _, spares _⟩

/-- However the operations of players and removals are interleaved, by players one after another or
by scripts in the middle of operations, and whether they fail or not: after each of them every stored
game is at a stored location, as long as no script removes a location that a game which an operation
holds elsewhere can go to. -/
theorem settled_games {engine : Engine} {actions : List Action} (depth : Nat) (settled : w.Settled)
    (outside : ∀ a ∈ actions, a.ByPlayersOrRemoval)
    (inside : ∀ v request, (read v request).ByPlayersOrRemoval)
    (free : ∀ v request, ¬(read v request).CutsOff v) :
    ∀ w' ∈ (engine.attended read write depth).worlds w actions,
      ∀ n g, w'.games.get? n = .ok (some g) →
        ∃ l, w'.locations.get? g.location = some l ∧ l.adventure = g.adventure := by
  have settles : (engine.attended read write depth).Settles := attended_settles inside free depth
  intro w' hw' n g found
  have left : w'.Settled := worlds_keep (p := fun _ a => a ∈ actions)
    (fun v a hv ha => settles.after hv (outside a ha)) settled
    ((throughout_true _ w actions).imp fun _ a ha _ => ha) w' hw'
  exact (left.housed n g found).2

end Engine

/-- A store without games is in order. -/
theorem Games.orderly_empty : Games.Orderly (.memory {}) := by
  refine ⟨⟨fun _ _ found => (nomatch found), nofun⟩, by simp [Tidy, Rows.Ascending], fun _ _ => trivial,
    fun n has => ?_, trivial⟩
  exact absurd has (by simp [Has, Table.get?])

theorem World.settled_lane : (World.lane (.memory {})).Settled := by
  refine ⟨⟨(World.joined_lane _).laid, by simp [lane, Rows.Ascending], fun d hd => ?_⟩,
    Games.orderly_empty, fun n g found => ?_⟩
  · cases hd
  · cases found

/-- On the way down the lane, a script has its own game take the route once more, in vain. -/
theorem Engine.settled_games_lane :
    let engine := Engine.asking.attended (fun _ _ => .takeRoute (1 : Int) (1 : Int))
      (fun _ _ _ => .null) 1
    let w := engine.left (World.lane (.memory {}))
      [.startGame (1 : Int) .null, .takeRoute (1 : Int) (1 : Int)]
    w.games.get? 1 = .ok (some .arrived) ∧ ∃ l,
      w.locations.get? Game.arrived.location = some l ∧ l.adventure = Game.arrived.adventure := by
  intro engine w
  have found : w.games.get? 1 = .ok (some .arrived) := by decide +kernel
  have outside : ∀ a ∈ [Action.startGame (1 : Int) .null, .takeRoute (1 : Int) (1 : Int)],
      a.ByPlayersOrRemoval := by simp [Action.ByPlayersOrRemoval, Action.ByPlayers]
  have inside : World → Json → (Action.takeRoute (1 : Int) (1 : Int)).ByPlayersOrRemoval :=
    fun _ _ => trivial
  have free (v : World) (_ : Json) : ¬(Action.takeRoute (1 : Int) (1 : Int)).CutsOff v := id
  exact ⟨found, settled_games 1 World.settled_lane outside inside free w (left_mem_worlds _ _ _) 1
    .arrived found⟩

-- When it is the well alone that goes, nobody is there yet, but the game arrives nonetheless.
example :
    let w := (Engine.asking.attended (fun _ _ => .removeLocation (2 : Int) false)
      (fun _ _ _ => .null) 1).left (World.lane (.memory {}))
      [.startGame (1 : Int) .null, .takeRoute (1 : Int) (1 : Int)]
    (w.games.get? 1).map (fun g => g.map (·.location)) = .ok (some 2) ∧
      w.locations.get? 2 = none := by
  decide +kernel

end TextAdventure
