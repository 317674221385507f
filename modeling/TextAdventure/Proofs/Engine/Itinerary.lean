import TextAdventure.Proofs.Engine.Faults

/-! The way of a game from one location to another, as a list of steps. Each step shows something,
runs a script or moves the game, and the first one that fails ends the journey. A journey knows
nothing of logs and locks, and of the stores of games nothing but which games they refuse. -/

namespace TextAdventure

open Op

namespace Games

/-- What a store refuses a game with. A store in memory takes every game. -/
def refusal? : Games → Game → Option Error
  | memory _, _ => none
  | files _, g =>
    match Payload.write g with
    | .ok _ => none
    | .error e => some e

variable {s : Games} {g : Game} {e : Error}

theorem refusal?_of_fits (fits : s.Filed → Payload.Fits g) : s.refusal? g = none := by
  cases s with
  | memory t => rfl
  | files f =>
    rcases Payload.write_eq g with ⟨-, written⟩ | ⟨unfit, -⟩
    · rw [refusal?, written]
    · exact absurd (fits trivial) unfit

theorem refusal?_eq_some :
    s.refusal? g = some e ↔ s.Filed ∧ ¬Payload.Fits g ∧ e = .tooLongToWrite := by
  cases s with
  | memory t => exact ⟨nofun, fun h => h.1.elim⟩
  | files f =>
    rcases Payload.write_eq g with ⟨fits, written⟩ | ⟨unfit, written⟩
    · rw [refusal?, written]
      exact ⟨nofun, fun h => absurd fits h.2.1⟩
    · rw [refusal?, written]
      refine ⟨fun h => ⟨trivial, unfit, (Option.some.inj h).symm⟩, ?_⟩
      rintro ⟨-, -, rfl⟩
      rfl

end Games

/-! ### Journeys -/

/-- A step on the way: copy is shown, a script runs, or the game comes to another location. -/
inductive Leg where
  | copy (key : Text)
  | hook (script : Int)
  | move (location : Int) (final : Bool)
deriving DecidableEq

/-- A game on its way: how it is now, how it was last stored on the way, what was shown on the way,
and the clock. -/
structure Journey where
  game : Game
  stored : Option Game := none
  shown : List Body := []
  clock : Clock

/-- A step has left the game as `game`, and has failed or not. The game is stored, unless the store
refuses it, which fails in place of anything else. -/
def Journey.settle (games : Games) (j : Journey) (game : Game) (failure : Option Error) :
    Option Error × Journey :=
  match games.refusal? game with
  | none => (failure, { j with game, stored := some game })
  | some e => (some e, { j with game })

/-- A script runs for the game in the story of `w`. What it has shown stays shown, whatever comes of
it. -/
def Journey.play (engine : Engine) (w : World) (j : Journey) (id : Int) (script : Script)
    (runtime : Runtime) : Option Error × Journey :=
  let (ending, s) := engine.outcome { value := j.game } id script runtime w
  { j with shown := j.shown ++ s.emitted.map Content.body }.settle w.games
    (Engine.afterwards s.game ending) (ending.error? id)

/-- What comes of a step in the story of `w`: the error that it fails with, if it fails, and the
journey behind it. -/
def Leg.go (engine : Engine) (w : World) : Leg → Journey → Option Error × Journey
  | copy key, j => (none, { j with shown := j.shown ++ [.copy key] })
  | hook script, j =>
    match ((engine.scriptFor { value := j.game } script).run w).1 with
    | .error e => (some e, j)
    | .ok ((n, script), runtime) => j.play engine w (script.idAt n) script runtime
  | move location final, j =>
    let (locationTimestamp, clock) := j.clock.tick
    let completed := j.game.completed || final
    { j with clock }.settle w.games { j.game with location, locationTimestamp, completed } none

namespace Engine

/-- What comes of a journey that takes one step after another, up to the first one that fails. -/
def travelled (engine : Engine) (w : World) : List Leg → Journey → Option Error × Journey
  | [], j => (none, j)
  | leg :: legs, j =>
    match leg.go engine w j with
    | (none, j) => engine.travelled w legs j
    | (some e, j) => (some e, j)

/-- The steps that a journey reaches, each with the journey as it is then. -/
def reached (engine : Engine) (w : World) : List Leg → Journey → List (Leg × Journey)
  | [], _ => []
  | leg :: legs, j =>
    (leg, j) ::
      match leg.go engine w j with
      | (none, j) => engine.reached w legs j
      | (some _, _) => []

/-- The steps up to the move: what the route shows and runs, and what its origin runs. -/
def leaving (way : Route) (origin : Location) : List Leg :=
  (way.takenCopyKey.map Leg.copy).toList ++ ((way.takenScript.map Leg.hook).toList ++
    (origin.exitScript.map Leg.hook).toList)

/-- The script that ends the games of an adventure at a location: the location has to be final, and
the adventure has to be there. -/
def finalScript (w : World) (adventure : Int) (destination : Location) : Option Int :=
  if destination.final then (w.adventures.get? adventure).bind (·.terminationScript) else none

/-- The steps from the move on: what the destination shows and runs, and what ends the adventure. -/
def arriving (w : World) (adventure : Int) (destination : Location) : List Leg :=
  (destination.copyKey.map Leg.copy).toList ++ ((destination.enterScript.map Leg.hook).toList ++
    ((finalScript w adventure destination).map Leg.hook).toList)

/-- The move along a route. -/
def crossing (way : Route) (destination : Location) : Leg :=
  .move (destination.idAt way.destination) destination.final

/-- The steps along a route, for the games of an adventure. Steps that are not set are left out. -/
def itinerary (w : World) (adventure : Int) (way : Route) (origin destination : Location) :
    List Leg :=
  leaving way origin ++ crossing way destination :: arriving w adventure destination

end Engine

variable {engine : Engine} {w : World} {n : Int} {leg : Leg} {legs : List Leg} {j j' : Journey}
  {e : Error} {failure : Option Error}

/-! ### Steps -/

namespace Leg

theorem go_hook_error {script : Int}
    (refused : ((engine.scriptFor { value := j.game } script).run w).1 = .error e) :
    (hook script).go engine w j = (some e, j) := by
  simp only [go, refused]

theorem go_hook_ok {script k : Int} {found : Script} {runtime : Runtime}
    (ready : ((engine.scriptFor { value := j.game } script).run w).1 = .ok ((k, found), runtime)) :
    (hook script).go engine w j = j.play engine w (found.idAt k) found runtime := by
  simp only [go, ready]

end Leg

namespace Engine

theorem travelled_cons_ok (h : leg.go engine w j = (none, j')) (legs : List Leg) :
    engine.travelled w (leg :: legs) j = engine.travelled w legs j' := by
  rw [travelled, h]

theorem travelled_cons_error (h : leg.go engine w j = (some e, j')) (legs : List Leg) :
    engine.travelled w (leg :: legs) j = (some e, j') := by
  rw [travelled, h]

theorem travelled_one (engine : Engine) (w : World) (leg : Leg) (j : Journey) :
    engine.travelled w [leg] j = leg.go engine w j := by
  rcases h : leg.go engine w j with ⟨_ | e, j'⟩
  · exact travelled_cons_ok h []
  · exact travelled_cons_error h []

/-- A journey goes on where its first part has ended, unless that has failed. -/
theorem travelled_append (engine : Engine) (w : World) (legs more : List Leg) (j : Journey) :
    engine.travelled w (legs ++ more) j =
      match engine.travelled w legs j with
      | (none, j) => engine.travelled w more j
      | (some e, j) => (some e, j) := by
  induction legs generalizing j with
  | nil => rfl
  | cons leg legs ih =>
    rw [List.cons_append]
    rcases h : leg.go engine w j with ⟨_ | e, j'⟩
    · rw [travelled_cons_ok h, travelled_cons_ok h, ih]
    · rw [travelled_cons_error h, travelled_cons_error h]

theorem reached_cons_ok (h : leg.go engine w j = (none, j')) (legs : List Leg) :
    engine.reached w (leg :: legs) j = (leg, j) :: engine.reached w legs j' := by
  rw [reached, h]

theorem reached_cons_error (h : leg.go engine w j = (some e, j')) (legs : List Leg) :
    engine.reached w (leg :: legs) j = [(leg, j)] := by
  rw [reached, h]

/-- The steps are reached in their order, and all of them if none fails. -/
theorem reached_legs (engine : Engine) (w : World) (legs : List Leg) (j : Journey) :
    (engine.reached w legs j).map (·.1) <+: legs ∧
      ((engine.travelled w legs j).1 = none → (engine.reached w legs j).map (·.1) = legs) := by
  induction legs generalizing j with
  | nil => exact ⟨List.prefix_rfl, fun _ => rfl⟩
  | cons leg legs ih =>
    rcases h : leg.go engine w j with ⟨_ | e, j'⟩
    · obtain ⟨ordered, all⟩ := ih j'
      rw [reached_cons_ok h, travelled_cons_ok h, List.map_cons]
      exact ⟨List.cons_prefix_cons.2 ⟨rfl, ordered⟩, fun through => by rw [all through]⟩
    · rw [reached_cons_error h, travelled_cons_error h]
      exact ⟨List.cons_prefix_cons.2 ⟨rfl, List.nil_prefix⟩, nofun⟩

end Engine

/-! ### Where a game is on its way -/

namespace Journey

/-- The game rests where it was, since the time when it came there, and no time has passed. -/
structure Rests (j j' : Journey) : Prop where
  bearings : Game.SameBearings j.game j'.game
  time : j'.game.locationTimestamp = j.game.locationTimestamp
  completed : j'.game.completed = j.game.completed
  clock : j'.clock = j.clock

/-- The game has come to a location at the next time, and has been completed if that is final. -/
structure Moves (location : Int) (final : Bool) (j j' : Journey) : Prop where
  number : j'.game.id = j.game.id
  location : j'.game.location = location
  time : j'.game.locationTimestamp = j.clock.tick.1
  completed : j'.game.completed = (j.game.completed || final)
  clock : j'.clock = j.clock.tick.2

/-- The journey is on its way to a location: the game rests until it has moved there. -/
structure Heads (location : Int) (final : Bool) (moved : Prop) (j j' : Journey) : Prop where
  before : ¬moved → j.Rests j'
  behind : moved → j.Moves location final j'

variable {location : Int} {final : Bool} {j'' : Journey} {games : Games} {game : Game}

theorem Rests.refl (j : Journey) : j.Rests j := ⟨.refl _, rfl, rfl, rfl⟩

theorem Rests.trans (h : j.Rests j') (h' : j'.Rests j'') : j.Rests j'' :=
  ⟨h.bearings.trans h'.bearings, h'.time.trans h.time, h'.completed.trans h.completed,
    h'.clock.trans h.clock⟩

theorem Rests.number (h : j.Rests j') (number : j.game.id = some n) : j'.game.id = some n :=
  h.bearings.id.trans number

theorem Rests.moves (h : j.Rests j') (h' : j'.Moves location final j'') :
    j.Moves location final j'' :=
  ⟨h'.number.trans h.bearings.id, h'.location, by rw [h'.time, h.clock],
    by rw [h'.completed, h.completed], by rw [h'.clock, h.clock]⟩

theorem Moves.rests (h : j.Moves location final j') (h' : j'.Rests j'') :
    j.Moves location final j'' :=
  ⟨h'.bearings.id.trans h.number, h'.bearings.location.trans h.location, h'.time.trans h.time,
    h'.completed.trans h.completed, h'.clock.trans h.clock⟩

theorem settle_of_none (taken : games.refusal? game = none) (j : Journey)
    (failure : Option Error) :
    j.settle games game failure = (failure, { j with game, stored := some game }) := by
  rw [settle, taken]

theorem settle_of_some (refused : games.refusal? game = some e) (j : Journey)
    (failure : Option Error) : j.settle games game failure = (some e, { j with game }) := by
  rw [settle, refused]

/-- Whether it is stored or not, the game goes on. -/
theorem settle_game (games : Games) (j : Journey) (game : Game) (failure : Option Error) :
    (j.settle games game failure).2.game = game ∧
      (j.settle games game failure).2.clock = j.clock := by
  cases refusal : games.refusal? game with
  | none =>
    rw [settle_of_none refusal]
    exact ⟨rfl, rfl⟩
  | some e =>
    rw [settle_of_some refusal]
    exact ⟨rfl, rfl⟩

/-- What is stored is the game as it goes on, unless the store has refused that. -/
theorem settle_stored (games : Games) (j : Journey) (game g : Game) (failure : Option Error) :
    let settled := j.settle games game failure
    settled.2.stored.getD g = settled.2.game ∨
      ∃ e, games.refusal? settled.2.game = some e ∧ settled.1 = some e := by
  cases refusal : games.refusal? game with
  | none =>
    rw [settle_of_none refusal]
    exact .inl rfl
  | some e =>
    rw [settle_of_some refusal]
    exact .inr ⟨e, refusal, rfl⟩

theorem Heads.of_rests {moved : Prop} (still : ¬moved) (h : j.Rests j') :
    j.Heads location final moved j' := ⟨fun _ => h, fun has => absurd has still⟩

theorem Heads.of_moves {moved : Prop} (has : moved) (h : j.Moves location final j') :
    j.Heads location final moved j' := ⟨fun still => absurd has still, fun _ => h⟩

theorem Rests.heads {moved moved' : Prop} (h : j.Rests j') (h' : j'.Heads location final moved j'')
    (same : moved' ↔ moved) : j.Heads location final moved' j'' :=
  ⟨fun still => h.trans (h'.before fun has => still (same.2 has)),
    fun has => h.moves (h'.behind (same.1 has))⟩

end Journey

/-- The step leaves the game where it is. -/
def Leg.Still : Leg → Prop
  | move _ _ => False
  | _ => True

namespace Leg

theorem rests_hook (quiet : engine.Quiet) (number : j.game.id = some n) (script : Int) :
    j.Rests ((hook script).go engine w j).2 := by
  rcases ready : (engine.scriptFor { value := j.game } script).run w with
    ⟨e | ⟨⟨k, found⟩, runtime⟩, u⟩
  · rw [go_hook_error (congrArg Prod.fst ready)]
    exact .refl j
  · obtain ⟨-, hruntime⟩ := Engine.scriptFor_ok ready
    have number' : ({ value := j.game } : Held Game).value.id = some n := number
    obtain ⟨added, moves⟩ := Engine.moves_outcome quiet hruntime number' (found.idAt k) found w
    rw [go_hook_ok (congrArg Prod.fst ready), Journey.play]
    generalize engine.outcome { value := j.game } (found.idAt k) found runtime w = outcome at moves
    obtain ⟨ending, s⟩ := outcome
    have played : s.game = { j.game with state := s.game.state } := moves.game
    have kept : (Engine.afterwards s.game ending).locationTimestamp = s.game.locationTimestamp ∧
        (Engine.afterwards s.game ending).completed = s.game.completed := by
      unfold Engine.afterwards
      split <;> exact ⟨rfl, rfl⟩
    obtain ⟨game, clock⟩ := Journey.settle_game w.games
      { j with shown := j.shown ++ s.emitted.map Content.body } (Engine.afterwards s.game ending)
      (ending.error? (found.idAt k))
    refine ⟨?_, ?_, ?_, clock⟩
    · rw [game]
      exact Plays.sameBearings_played played ending
    · rw [game, kept.1, played]
    · rw [game, kept.2, played]

theorem rests (quiet : engine.Quiet) (number : j.game.id = some n) (still : leg.Still) :
    j.Rests (leg.go engine w j).2 := by
  cases leg with
  | copy key => exact ⟨.refl _, rfl, rfl, rfl⟩
  | hook script => exact rests_hook quiet number script
  | move location final => exact still.elim

theorem moves (engine : Engine) (w : World) (location : Int) (final : Bool) (j : Journey) :
    j.Moves location final ((move location final).go engine w j).2 := by
  obtain ⟨game, clock⟩ := Journey.settle_game w.games { j with clock := j.clock.tick.2 }
    { j.game with
      location, locationTimestamp := j.clock.tick.1, completed := j.game.completed || final } none
  exact ⟨(congrArg Game.id game :), (congrArg Game.location game :),
    (congrArg Game.locationTimestamp game :), (congrArg Game.completed game :), clock⟩

/-- What is stored is the game as it is, unless the store has refused that. -/
theorem stored {g : Game} (kept : j.stored.getD g = j.game) (engine : Engine) (w : World)
    (leg : Leg) :
    (leg.go engine w j).2.stored.getD g = (leg.go engine w j).2.game ∨
      ∃ e, w.games.refusal? (leg.go engine w j).2.game = some e ∧
        (leg.go engine w j).1 = some e := by
  cases leg with
  | copy key => exact .inl kept
  | hook script =>
    rcases ready : ((engine.scriptFor { value := j.game } script).run w).1 with
      e | ⟨⟨k, found⟩, runtime⟩
    · rw [go_hook_error ready]
      exact .inl kept
    · rw [go_hook_ok ready]
      exact Journey.settle_stored _ _ _ g _
  | move location final => exact Journey.settle_stored _ _ _ g _

end Leg

namespace Engine

/-- Steps that leave the game where it is. -/
theorem travelled_rests (quiet : engine.Quiet) (number : j.game.id = some n)
    (still : ∀ leg ∈ legs, leg.Still) :
    j.Rests (engine.travelled w legs j).2 ∧ ∀ s ∈ engine.reached w legs j, j.Rests s.2 := by
  induction legs generalizing j with
  | nil => exact ⟨.refl j, fun s hs => absurd hs List.not_mem_nil⟩
  | cons leg legs ih =>
    have rests := Leg.rests (w := w) quiet number (still leg List.mem_cons_self)
    rcases h : leg.go engine w j with ⟨_ | e, j'⟩ <;> rw [h] at rests
    · obtain ⟨behind, onward⟩ := ih (rests.number number) fun leg h => still leg (.tail _ h)
      rw [travelled_cons_ok h, reached_cons_ok h]
      refine ⟨rests.trans behind, fun s hs => ?_⟩
      rcases List.mem_cons.1 hs with rfl | hs
      · exact .refl j
      · exact rests.trans (onward s hs)
    · rw [travelled_cons_error h, reached_cons_error h]
      refine ⟨rests, fun s hs => ?_⟩
      obtain rfl := List.mem_singleton.1 hs
      exact .refl j

/-- What holds of each step, given the steps before it, holds of the first one and of all others. -/
theorem steps_cons {P : List Leg → Journey → Prop} (leg : Leg) (steps : List (Leg × Journey))
    (first : P [] j)
    (others : ∀ before s after, steps = before ++ s :: after → P (leg :: before.map (·.1)) s.2) :
    ∀ before s after, (leg, j) :: steps = before ++ s :: after → P (before.map (·.1)) s.2 := by
  intro before s after split
  cases before with
  | nil =>
    obtain ⟨rfl, -⟩ := List.cons.inj split
    exact first
  | cons step before =>
    obtain ⟨rfl, rest⟩ := List.cons.inj split
    exact others before s after rest

/-- On its way over a move, with steps on both sides that leave the game where it is: each step is
reached before the move or behind it, and so is the end. -/
theorem travelled_heads (quiet : engine.Quiet) (number : j.game.id = some n) {more : List Leg}
    {location : Int} {final : Bool} (still : ∀ leg ∈ legs, leg.Still)
    (still' : ∀ leg ∈ more, leg.Still) :
    let steps := engine.reached w (legs ++ .move location final :: more) j
    (∀ before s after, steps = before ++ s :: after →
      j.Heads location final (.move location final ∈ before.map (·.1)) s.2) ∧
    j.Heads location final (.move location final ∈ steps.map (·.1))
      (engine.travelled w (legs ++ .move location final :: more) j).2 := by
  have met {j : Journey} {steps : List (Leg × Journey)} (leg : Leg) := steps_cons
    (P := fun before s => j.Heads location final (.move location final ∈ before) s) (j := j) leg
    steps (.of_rests List.not_mem_nil (.refl j))
  -- The induction is on the steps before the move: the game rests along them, so what the move makes
  -- of it then is what it makes of it at the start.
  induction legs generalizing j with
  | nil =>
    have moves := Leg.moves engine w location final j
    rw [List.nil_append]
    rcases h : (Leg.move location final).go engine w j with ⟨_ | e, j'⟩ <;> rw [h] at moves
    · have behind := travelled_rests (w := w) quiet (moves.number.trans number) still'
      rw [reached_cons_ok h, travelled_cons_ok h]
      refine ⟨met _ fun before s after rest => ?_, .of_moves (by simp) (moves.rests behind.1)⟩
      exact .of_moves (by simp) (moves.rests (behind.2 s (by rw [rest]; simp)))
    · rw [reached_cons_error h, travelled_cons_error h]
      exact ⟨met _ (by simp), .of_moves (by simp) moves⟩
  | cons leg legs ih =>
    have hleg := still leg List.mem_cons_self
    have rests := Leg.rests (w := w) quiet number hleg
    have other : leg ≠ .move location final := fun move => by rw [move] at hleg; exact hleg
    rw [List.cons_append]
    rcases h : leg.go engine w j with ⟨_ | e, j'⟩ <;> rw [h] at rests
    · obtain ⟨onward, behind⟩ := ih (rests.number number) fun leg h => still leg (.tail _ h)
      rw [reached_cons_ok h, travelled_cons_ok h]
      refine ⟨met _ fun before s after rest => ?_, rests.heads behind (by simp [other.symm])⟩
      exact rests.heads (onward before s after rest) (by simp [other.symm])
    · rw [reached_cons_error h, travelled_cons_error h]
      exact ⟨met _ (by simp), .of_rests (by simp [other.symm]) rests⟩

/-- What is stored at the end is the game as it is, unless the store has refused that. -/
theorem travelled_stored {g : Game} (kept : j.stored.getD g = j.game) (engine : Engine) (w : World)
    (legs : List Leg) :
    (engine.travelled w legs j).2.stored.getD g = (engine.travelled w legs j).2.game ∨
      ∃ e, w.games.refusal? (engine.travelled w legs j).2.game = some e ∧
        (engine.travelled w legs j).1 = some e := by
  induction legs generalizing j with
  | nil => exact .inl kept
  | cons leg legs ih =>
    have stored := Leg.stored kept engine w leg
    rcases h : leg.go engine w j with ⟨_ | e, j'⟩ <;> rw [h] at stored
    · rw [travelled_cons_ok h]
      rcases stored with kept | ⟨e, -, failed⟩
      · exact ih kept
      · exact nomatch failed
    · rw [travelled_cons_error h]
      exact stored

theorem still_leaving (way : Route) (origin : Location) :
    ∀ leg ∈ leaving way origin, leg.Still := by
  intro leg hleg
  simp only [leaving, List.mem_append, Option.mem_toList, Option.map_eq_some_iff] at hleg
  rcases hleg with ⟨_, -, rfl⟩ | ⟨_, -, rfl⟩ | ⟨_, -, rfl⟩ <;> trivial

theorem still_arriving (w : World) (adventure : Int) (destination : Location) :
    ∀ leg ∈ arriving w adventure destination, leg.Still := by
  intro leg hleg
  simp only [arriving, List.mem_append, Option.mem_toList, Option.map_eq_some_iff] at hleg
  rcases hleg with ⟨_, -, rfl⟩ | ⟨_, -, rfl⟩ | ⟨_, -, rfl⟩ <;> trivial

end Engine

end TextAdventure
