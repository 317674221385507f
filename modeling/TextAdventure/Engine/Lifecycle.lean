import TextAdventure.Engine.Travel

/-! Starting, ending and recovering games. -/

namespace TextAdventure

namespace Engine

/-- The one initial location of an adventure, and its number. -/
def initialLocation (adventure : Int) : Op (Int × Held Location) := do
  let locations := (← get).locations
  match locations.select fun l => l.adventure = adventure ∧ l.initial with
  | [] => throw (.noInitialLocation adventure)
  | [(id, found)] => return (found.idAt id, locations.hold id found)
  | several =>
    throw (.ambiguousInitialLocation adventure (List.map (fun l => l.2.idAt l.1) several))

/-- The registered code of the language asked for. Nothing asks for the default language. -/
def gameLanguage (engine : Engine) (language : Json) : Op Text := do
  let code ←
    match language.truthy, language with
    | false, _ => pure engine.settings.defaultLanguage.strip.lower
    | true, .text l => pure l.strip.lower
    | true, v => throw (.noMember v.kind "strip")
  match (← get).languages.byCode? code with
  | none => throw (.notFound .language (.name code))
  | some (_, found) => return found.code

/-- Adds a new game to the store. -/
def addGame (game : Game) : Op (Held Game) := Op.of fun w =>
  let (added, games) := w.games.add .unset game
  (added, { w with games })

/-- How a game opens: the initialization hook, the copy of the adventure and of the location, the
enter hook and, at a final location, the termination hook. -/
def opening (engine : Engine) (adventure : Held Adventure) (location : Held Location)
    (p : Progress) : Op Progress := do
  let p ← engine.runHook adventure.value.initializationScript p
  let p ← showCopy (← World.adventureNow adventure).initialCopyKey p
  let place ← World.locationNow location
  let p ← showCopy place.copyKey p
  let p ← engine.runHook place.enterScript p
  if (← World.locationNow location).final then
    engine.runHook (← World.adventureNow adventure).terminationScript p
  else return p

/-- Starts a game at the initial location of an adventure. The game stays when a script of its
opening fails. -/
def startGame (engine : Engine) (adventure : Identifier) (language : Json := .null) :
    Op Transcript := do
  let held ← World.adventure adventure
  let language ← engine.gameLanguage language
  let adventureId := held.value.idAt (← Op.number .adventure adventure)
  let (locationId, location) ← initialLocation adventureId
  let locationTimestamp ← World.tick
  let game ← addGame
    { adventure := adventureId, location := locationId, language, locationTimestamp,
      completed := location.value.final }
  engine.holding (game.value.id.getD 0) do
    engine.transcribe (← engine.opening held location { held := game })

/-- The termination hook that is due when a game ends. A completed game has been through it, and a
game in need of recovery goes without. -/
def finalHook (game : Game) : Op (Option Int) := do
  let adventure := (← get).adventures.get? game.adventure
  return if game.needsRecovery ∨ game.completed then none else adventure.bind (·.terminationScript)

/-- Ends a game: runs the termination hook that is due, then removes the game and its log. -/
def endGame (engine : Engine) (game : Identifier) : Op Transcript := do
  let id ← World.gameNumber game
  engine.holding id do
    let held ← World.heldGame game
    let p ← engine.runHook (← finalHook held.value) { held }
    let transcript ← engine.transcribe p
    modify fun w => { w with journal := w.journal.clear id, games := w.games.remove id }
    return transcript

/-- Lets a game go on after one of its scripts was stopped. -/
def recoverGame (engine : Engine) (game : Identifier) : Op Game := do
  engine.holding (← World.gameNumber game) do
    let held ← World.heldGame game
    if held.value.needsRecovery then
      let recovered := { held.value with needsRecovery := false }
      return (← World.updateGame { held with value := recovered }).value
    else return held.value

end Engine

end TextAdventure
