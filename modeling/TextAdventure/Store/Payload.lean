import TextAdventure.Game.Basic
import TextAdventure.Decimal.Numeral

/-! The file form of a game: an object of eight fields, the state among them as a text of its own.
Reading converts what it finds: numerals become numbers, and any value becomes a text or a truth
value. -/

namespace TextAdventure.Payload

/-- The fields of a game's file, in which its state has the text `state`. -/
def fields (game : Game) (state : Text) : Fields :=
  [("id", match game.id with | some n => .int n | none => .null),
    ("adventure_id", .int game.adventure),
    ("location_id", .int game.location),
    ("language", .text game.language),
    ("location_update_timestamp", .int game.locationTimestamp),
    ("state", .text state),
    ("completed", .bool game.completed),
    ("needs_recovery", .bool game.needsRecovery)]

/-- The text of a game's file. -/
def write (game : Game) : Except Error Text := do
  Json.writtenOnLines (fields game (← game.stateText))

/-- The integer that a value amounts to. -/
def toInt : Json → Except Error Int
  | .int n => .ok n
  | .bool b => .ok (if b then 1 else 0)
  | .text t =>
    match Numeral.int t with
    | .ok n => .ok n
    | .error .malformed => .error (.notInteger t)
    | .error (.tooManyDigits count) => .error (.tooManyDigits count)
  | .float x =>
    match Decimal.truncate? x with
    | some n => .ok n
    | none => .error (if x.isNaN then .integerOfNaN else .integerOfInfinity)
  | v => .error (.noIntegerOf v.kind)

/-- A field that has to be there. -/
def required (name : String) (object : Fields) : Except Error Json :=
  match object.get? name with
  | some v => .ok v
  | none => .error (.malformedPayload (.missing name))

/-- The state field: a text, or nothing. -/
def stateField (object : Fields) : Except Error (Option Text) :=
  match object.get? "state" with
  | none | some .null => .ok none
  | some (.text t) => .ok (some t)
  | some _ => .error (.malformedPayload .stateNotText)

/-- The game that an object describes. -/
def ofFields (object : Fields) : Except Error Game := do
  let id ← toInt (← required "id" object)
  let adventure ← toInt (← required "adventure_id" object)
  let location ← toInt (← required "location_id" object)
  let language ← required "language" object
  let timestamp ← toInt ((object.get? "location_update_timestamp").getD (.int 0))
  let completed := ((object.get? "completed").getD (.bool false)).truthy
  let needsRecovery := ((object.get? "needs_recovery").getD (.bool false)).truthy
  let game ← Game.create adventure location (.text language.display) timestamp [] completed
    needsRecovery (some id)
  game.loadState (← stateField object)

/-- The game that a file's text describes. -/
def read (t : Text) : Except Error Game :=
  match Json.read t with
  | .error fault => .error (.malformedJson fault)
  | .ok (.object object) => ofFields object
  | .ok _ => .error (.malformedPayload .notObject)

end TextAdventure.Payload
