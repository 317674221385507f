import TextAdventure.Story.Field

/-! What an author writes: adventures, the locations in them and the routes between locations. The
store that keeps a record gives it a number. A record goes by that number unless its host has made
it go by another. -/

namespace TextAdventure

/-- A complete adventure. Its two hooks run when a game starts and when it ends. -/
structure Adventure where
  name : Text
  initialCopyKey : Option Text := none
  descriptionCopyKey : Option Text := none
  initializationScript : Option Int := none
  terminationScript : Option Int := none
  otherId : Option Int := none
deriving DecidableEq

/-- The number that an adventure goes by. -/
def Adventure.idAt (stored : Int) (a : Adventure) : Int := a.otherId.getD stored

def Adventure.create (name : Json) (initialCopyKey descriptionCopyKey : Json := .null)
    (initializationScript terminationScript : Option Int := none) : Except Error Adventure := do
  let name ← Field.name "adventure name" name
  let initialCopyKey ← Field.optional "initial_copy_key" initialCopyKey
  let descriptionCopyKey ← Field.optional "description_copy_key" descriptionCopyKey
  return { name, initialCopyKey, descriptionCopyKey, initializationScript, terminationScript }

/-- A place of an adventure. A game starts at an initial location and is complete once it reaches a
final one. -/
structure Location where
  adventure : Int
  name : Text
  initial : Bool := false
  final : Bool := false
  copyKey : Option Text := none
  enterScript : Option Int := none
  exitScript : Option Int := none
  otherId : Option Int := none
deriving DecidableEq

/-- The number that a location goes by. -/
def Location.idAt (stored : Int) (l : Location) : Int := l.otherId.getD stored

def Location.create (adventure : Int) (name : Json) (initial final : Bool := false)
    (copyKey : Json := .null) (enterScript exitScript : Option Int := none) :
    Except Error Location := do
  let name ← Field.name "location name" name
  let copyKey ← Field.optional "copy_key" copyKey
  return { adventure, name, initial, final, copyKey, enterScript, exitScript }

/-- A way from one location to another. Its hook runs when a game takes it. -/
structure Route where
  origin : Int
  destination : Int
  name : Text := "route"
  copyKey : Option Text := none
  takenCopyKey : Option Text := none
  takenScript : Option Int := none
  otherId : Option Int := none
deriving DecidableEq

/-- The number that a route goes by. -/
def Route.idAt (stored : Int) (r : Route) : Int := r.otherId.getD stored

def Route.create (origin destination : Int) (name : Json := .text "route")
    (copyKey takenCopyKey : Json := .null) (takenScript : Option Int := none) :
    Except Error Route := do
  let name ← Field.name "route name" name
  let copyKey ← Field.optional "copy_key" copyKey
  let takenCopyKey ← Field.optional "route_taken_copy_key" takenCopyKey
  return { origin, destination, name, copyKey, takenCopyKey, takenScript }

end TextAdventure
