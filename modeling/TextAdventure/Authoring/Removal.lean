import TextAdventure.Engine.World

/-! Removing scripts, locations and adventures, with everything that refers to them. Removal does
not wait for games that are held: an operation finds its game gone. -/

namespace TextAdventure

/-- A reference, unless it is to the script that goes. -/
def dropReference (script : Int) (reference : Option Int) : Option Int :=
  if reference = some script then none else reference

def Adventure.withoutScript (script : Int) (a : Adventure) : Adventure :=
  { a with
    initializationScript := dropReference script a.initializationScript
    terminationScript := dropReference script a.terminationScript }

def Location.withoutScript (script : Int) (l : Location) : Location :=
  { l with
    enterScript := dropReference script l.enterScript
    exitScript := dropReference script l.exitScript }

def Route.withoutScript (script : Int) (r : Route) : Route :=
  { r with takenScript := dropReference script r.takenScript }

def Copy.withoutScript (script : Int) (c : Copy) : Copy :=
  { c with script := dropReference script c.script }

namespace Authoring

/-- The world without a script, and without references to it: those of every adventure and all copy,
and those of the locations of its own adventure and of the routes that leave them. -/
def withoutScript (id : Int) (script : Script) (w : World) : World :=
  let locations := w.locations.select fun l => l.adventure = script.adventure
  let stored := List.map (·.1) locations
  let owned := List.map (fun l => l.2.idAt l.1) locations
  { w with
    adventures := w.adventures.revise fun _ a => a.withoutScript id
    locations := w.locations.revise fun n l => if stored.contains n then l.withoutScript id else l
    routes := w.routes.revise fun _ r => if owned.contains r.origin then r.withoutScript id else r
    copies := w.copies.revise fun _ c => c.withoutScript id
    includes := w.includes.removeScript id
    scripts := w.scripts.remove id }

/-- Removes a script, and every reference to it. -/
def removeScript (script : Identifier) : Op Unit := do
  let found ← World.script script
  let id ← Op.number .script script
  modify (withoutScript id found)

/-- Removes a game and its log, whoever holds it. -/
def dropGame (w : World) (game : Int) : World :=
  { w with journal := w.journal.clear game, games := w.games.remove game }

/-- The games that go with a record. Unless removal is forced, there may be none. -/
def gamesToRemove (kind : Kind) (id : Int) (force : Bool) (games : List Game) : Op (List Int) := do
  let ids := games.map fun g => g.id.getD 0
  if !ids.isEmpty && !force then throw (.resourceInUse kind id ids)
  return ids

/-- The routes that satisfy `p` go. -/
def dropRoutes (p : Route → Bool) (routes : Table Route) : Table Route :=
  routes.removeAll (List.map (fun r => r.2.idAt r.1) (routes.select p))

/-- The world without a location, the routes that leave it and those that lead to it, and without
some games. -/
def withoutLocation (id : Int) (games : List Int) (w : World) : World :=
  let w := games.foldl dropGame w
  { w with
    routes := dropRoutes (fun r => r.origin = id ∨ r.destination = id) w.routes
    locations := w.locations.remove id }

/-- Removes a location, with the games that are there. -/
def removeLocation (location : Identifier) (force : Bool := false) : Op Unit := do
  let _ ← World.location location
  let id ← Op.number .location location
  let games ← Op.ofExcept ((← get).games.atLocation id)
  modify (withoutLocation id (← gamesToRemove .location id force games))

/-- The world without an adventure, its locations with the routes that leave them, and its scripts,
and without some games. -/
def withoutAdventure (id : Int) (games : List Int) (w : World) : World :=
  let w := games.foldl dropGame w
  let locations :=
    List.map (fun l => l.2.idAt l.1) (w.locations.select fun l => l.adventure = id)
  let scripts := List.map (fun s => s.2.idAt s.1) (w.scripts.select fun s => s.adventure = id)
  { w with
    routes := dropRoutes (fun r => locations.contains r.origin) w.routes
    locations := w.locations.removeAll locations
    includes := scripts.foldl Includes.removeScript w.includes
    copies := w.copies.revise fun _ c => scripts.foldl (fun c s => c.withoutScript s) c
    scripts := w.scripts.removeAll scripts
    adventures := w.adventures.remove id }

/-- Removes an adventure, with its games. -/
def removeAdventure (adventure : Identifier) (force : Bool := false) : Op Unit := do
  let _ ← World.adventure adventure
  let id ← Op.number .adventure adventure
  let games ← Op.ofExcept ((← get).games.ofAdventure id)
  modify (withoutAdventure id (← gamesToRemove .adventure id force games))

end Authoring

end TextAdventure
