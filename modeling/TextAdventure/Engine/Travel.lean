import TextAdventure.Engine.Execution

/-! Taking a route. A game on its way goes through a fixed sequence of steps, each of which may run
a script, and stops at the first one that fails. What the steps before it have logged stays logged,
and a move that is made stays made. -/

namespace TextAdventure

namespace World

/-- A location as it is now. -/
def locationNow (h : Held Location) : Op Location := do return (← get).locations.current h

/-- An adventure as it is now. -/
def adventureNow (h : Held Adventure) : Op Adventure := do return (← get).adventures.current h

end World

namespace Engine

/-- Puts a game at a location. It is complete once the location is final. -/
def move (id : Int) (destination : Location) (p : Progress) : Op Progress := do
  let locationTimestamp ← World.tick
  let game := { p.game with
    location := destination.idAt id
    locationTimestamp
    completed := p.game.completed || destination.final }
  return { p with held := ← World.updateGame { p.held with value := game } }

/-- Runs the termination hook of a game's adventure, if the adventure still exists. -/
def terminate (engine : Engine) (p : Progress) : Op Progress := do
  match (← get).adventures.get? p.game.adventure with
  | none => return p
  | some adventure => engine.runHook adventure.terminationScript p

/-- The way from one location to another: the hook of the route, the exit hook of the origin, the
move, the enter hook of the destination and, where that is final, the termination hook. -/
def travel (engine : Engine) (route : Route) (origin destination : Held Location) (p : Progress) :
    Op Progress := do
  let p ← showCopy route.takenCopyKey p
  let p ← engine.runHook route.takenScript p
  let p ← engine.runHook (← World.locationNow origin).exitScript p
  let place ← World.locationNow destination
  let p ← move route.destination place p
  let p ← showCopy place.copyKey p
  let p ← engine.runHook place.enterScript p
  if (← World.locationNow destination).final then engine.terminate p else return p

/-- Takes a held game along a route, which has to leave its location. -/
def depart (engine : Engine) (id : Int) (route : Identifier) (held : Held Game) :
    Op Transcript := do
  if held.value.needsRecovery then throw (.recoveryRequired (some id))
  else
    let way ← World.route route
    if way.origin ≠ held.value.location then
      throw (.invalidTransition id (← Op.number .route route) held.value.location)
    else
      let origin ← World.location way.origin
      let destination ← World.location way.destination
      engine.transcribe (← engine.travel way origin destination { held })

/-- Takes a game along a route that leaves its location. -/
def takeRoute (engine : Engine) (game route : Identifier) : Op Transcript := do
  let id ← World.gameNumber game
  engine.holding id do
    engine.depart id route (← World.heldGame game)

/-- The routes that leave the location of a game. -/
def availableRoutes (game : Identifier) : Op (Rows Route) := do
  let found ← World.game game
  return (← get).routes.select fun route => route.origin = found.location

end Engine

end TextAdventure
