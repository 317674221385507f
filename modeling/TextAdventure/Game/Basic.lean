import TextAdventure.Story.Field
import TextAdventure.Json.Written

/-! A game: one player's walk through an adventure, with the values that scripts keep for it. -/

namespace TextAdventure

/-- A game is at one location. `needsRecovery` is set when a script of it had to be stopped. -/
structure Game where
  adventure : Int
  location : Int
  language : Text
  locationTimestamp : Int := 0
  state : Fields := []
  completed : Bool := false
  needsRecovery : Bool := false
  id : Option Int := none
deriving DecidableEq

namespace Game

def create (adventure location : Int) (language : Json) (locationTimestamp : Int := 0)
    (state : Fields := []) (completed needsRecovery : Bool := false) (id : Option Int := none) :
    Except Error Game := do
  let language ← Field.code "language" language
  return { adventure, location, language, locationTimestamp, state, completed, needsRecovery, id }

/-- The state as compact JSON. -/
def stateText (game : Game) : Except Error Text := (Json.object game.state).written

/-- The state that a text holds; an absent or empty text holds the empty state. -/
def readState : Option Text → Except Error Fields
  | none => .ok []
  | some payload =>
    if payload = [] then .ok []
    else
      match Json.read payload with
      | .error fault => .error (.malformedJson fault)
      | .ok (.object fields) => .ok fields
      | .ok _ => .error .stateNotObject

/-- The game with the state that `payload` holds. -/
def loadState (game : Game) (payload : Option Text) : Except Error Game :=
  (readState payload).map fun state => { game with state }

end Game

end TextAdventure
