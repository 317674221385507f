import TextAdventure.Engine.Clock
import TextAdventure.Engine.Locks
import TextAdventure.Store.Copies
import TextAdventure.Store.Games
import TextAdventure.Store.Includes
import TextAdventure.Store.Journal
import TextAdventure.Store.Keys
import TextAdventure.Store.Languages
import TextAdventure.Story.Adventure

/-! Everything that operations read and change, and what an operation is. -/

namespace TextAdventure

/-- The stores of an engine, the games that are held, and the sources of time and of fresh keys.
`replies` holds what the host has answered to scripts, oldest first. -/
structure World where
  adventures : Table Adventure := {}
  locations : Table Location := {}
  routes : Table Route := {}
  scripts : Table Script := {}
  includes : Includes := {}
  games : Games := .memory {}
  journal : Journal := {}
  copies : Copies := {}
  languages : Languages := {}
  locks : Locks := {}
  clock : Clock
  keys : Keys
  replies : List Json := []

/-- An operation changes the world whether it succeeds or not. -/
abbrev Op (α : Type) := ExceptT Error (StateM World) α

namespace Op

/-- The outcome of an operation and the world that it leaves. -/
def run {α : Type} (op : Op α) (w : World) : Except Error α × World := StateT.run (ExceptT.run op) w

/-- An operation given by what it does to the world. -/
def of {α : Type} (f : World → Except Error α × World) : Op α := ExceptT.mk f

/-- Fails as `r` does. -/
def ofExcept {α : Type} (r : Except Error α) : Op α := ExceptT.mk fun w => (r, w)

/-- A record that has to be there. -/
def required {α : Type} (kind : Kind) (id : Identifier) : Option α → Op α
  | some value => pure value
  | none => throw (.notFound kind id)

/-- Lists and objects cannot be looked up. -/
def lookUpKey (id : Identifier) : Op Unit :=
  match id with
  | .other (.list items) => throw (.unhashable (Json.list items).kind)
  | .other (.object fields) => throw (.unhashable (Json.object fields).kind)
  | _ => pure ()

/-- The number that an identifier amounts to. -/
def number (kind : Kind) (id : Identifier) : Op Int := do
  lookUpKey id
  required kind id id.key?

end Op

namespace World

/-- The number that a game is asked for by. A truth value names no file. -/
def gameNumber (id : Identifier) : Op Int := do
  Op.lookUpKey id
  match (← get).games, id with
  | .files _, .other (.bool _) => throw (.notFound .game id)
  | .files _, .other _ => throw .gameIdNotInteger
  | _, _ => Op.required .game id id.key?

/-- The stored game of a number, to be held. -/
def heldGame (id : Identifier) : Op (Held Game) := do
  let found ← Op.ofExcept ((← get).games.held? (← gameNumber id))
  Op.required .game id found

/-- The stored game of a number. -/
def game (id : Identifier) : Op Game := do return (← heldGame id).value

def adventure (id : Identifier) : Op (Held Adventure) := do
  Op.required .adventure id ((← get).adventures.held? (← Op.number .adventure id))

def location (id : Identifier) : Op (Held Location) := do
  Op.required .location id ((← get).locations.held? (← Op.number .location id))

def route (id : Identifier) : Op Route := do
  Op.required .route id ((← get).routes.get? (← Op.number .route id))

def script (id : Identifier) : Op Script := do
  Op.required .script id ((← get).scripts.get? (← Op.number .script id))

/-- Stores a game again, which has to be there. Whoever holds it sees how it is now, even if it is
not stored. -/
def updateGame (h : Held Game) : Op (Held Game) := do
  modify fun w => { w with games := w.games.share h }
  let (h, games) ← Op.ofExcept ((← get).games.update h)
  modify fun w => { w with games }
  return h

/-- The next time of the clock. -/
def tick : Op Int :=
  modifyGet fun w => (w.clock.tick.1, { w with clock := w.clock.tick.2 })

/-- Does `op` while it holds a game, and lets go of the game whatever comes of it. -/
def holding {α : Type} (timeout : Float) (game : Int) (op : Op α) : Op α := do
  let locks ← Op.ofExcept ((← get).locks.hold timeout game)
  modify fun w => { w with locks }
  Op.of fun w =>
    let (outcome, after) := op.run w
    (outcome, { after with locks := after.locks.release game })

/-- Logs an entry at the next position of a game's log. -/
def log (game : Game) (body : Body) : Op Content := Op.of fun w =>
  match game.id with
  | none => (.error .logWithoutIdentity, w)
  | some id =>
    let entry : Content := { game := id, position := w.journal.nextPosition id, body }
    let (outcome, journal) := w.journal.add .unset entry
    (outcome, { w with journal })

end World

/-- The text of an entry, read in a language. -/
def Content.shownText (entry : Content) (lookup : Lookup) (copies : Copies) (language : Text) :
    Text :=
  match entry.body with
  | .literal text => text
  | .copy key => lookup.resolve copies key (some language)

end TextAdventure
