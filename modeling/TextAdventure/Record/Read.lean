import TextAdventure.Game.Basic
import TextAdventure.Game.Content
import TextAdventure.Record.Field
import TextAdventure.Store.Identity
import TextAdventure.Story.Adventure
import TextAdventure.Story.Copy
import TextAdventure.Story.Script

/-! Records as JSON objects describe them. Absent fields take their defaults, and what a record
checks is checked. -/

namespace TextAdventure

def Adventure.ofJson (o : Json) : Except Error Adventure :=
  create (o.field "name") (o.field "initial_copy_key") (o.field "description_copy_key")
    (o.intField? "initialization_script_id") (o.intField? "termination_script_id")

def Location.ofJson (o : Json) : Except Error Location :=
  create (o.intField "adventure_id") (o.field "name") (o.boolField "initial")
    (o.boolField "final") (o.field "copy_key") (o.intField? "enter_script_id")
    (o.intField? "exit_script_id")

def Route.ofJson (o : Json) : Except Error Route :=
  create (o.intField "location_id") (o.intField "destination_location_id")
    (o.fieldOr "name" (.text "route")) (o.field "copy_key") (o.field "route_taken_copy_key")
    (o.intField? "route_taken_script_id")

def Script.ofJson (o : Json) : Except Error Script :=
  create (o.intField "adventure_id") (o.field "name") (o.fieldOr "content" (.text []))
    (o.fieldOr "type" (.text ScriptType.luaName))

def Include.ofJson (o : Json) : Include :=
  { including := o.intField "included_in_id", included := o.intField "includes_id",
    order := o.intField "order" }

def Game.ofJson (o : Json) : Except Error Game :=
  create (o.intField "adventure_id") (o.intField "location_id") (o.field "language")
    (o.intField "location_update_timestamp") (o.field "state").fields (o.boolField "completed")
    (o.boolField "needs_recovery") (o.intField? "id")

/-- A text that is not checked. Null alone stands for none. -/
def Json.uncheckedText? (o : Json) (name : String) : Option Text :=
  match o.field name with
  | .null => none
  | v => some v.display

def Content.ofJson (o : Json) : Except Error Content :=
  (create (o.intField "game_id") (o.intField "position") (o.uncheckedText? "copy_key")
    (o.uncheckedText? "text")).map fun c => { c with id := o.intField? "id" }

def Copy.ofJson (o : Json) : Except Error Copy :=
  create (o.field "key") (o.field "language") (o.fieldOr "text" (.text []))
    (o.fieldOr "name" (.text [])) (o.intField? "adventure_id") (o.intField? "script_id")

def Language.ofJson (o : Json) : Except Error Language := create (o.field "name") (o.field "code")

/-- The identity that an object claims. -/
def Json.claim (o : Json) : Claim := Claim.ofJson (o.field "id")

/-! Changing records: fields that are given replace those of the record, unchecked. -/

namespace Json

/-- What `read` makes of a field that is given, or `old`. -/
def changed {α : Type} (o : Json) (name : String) (old : α) (read : Json → α) : α :=
  ((o.field? name).map read).getD old

def changedInt (o : Json) (name : String) (old : Int) : Int :=
  o.changed name old fun v => v.int?.getD old

def changedText (o : Json) (name : String) (old : Text) : Text :=
  o.changed name old fun v => v.text?.getD old

end Json

def Adventure.change (o : Json) (a : Adventure) : Adventure where
  name := o.changedText "name" a.name
  initialCopyKey := o.changed "initial_copy_key" a.initialCopyKey Json.text?
  descriptionCopyKey := o.changed "description_copy_key" a.descriptionCopyKey Json.text?
  initializationScript := o.changed "initialization_script_id" a.initializationScript Json.int?
  terminationScript := o.changed "termination_script_id" a.terminationScript Json.int?
  otherId := o.changed "id" a.otherId Json.int?

def Location.change (o : Json) (l : Location) : Location where
  adventure := o.changedInt "adventure_id" l.adventure
  name := o.changedText "name" l.name
  initial := o.changed "initial" l.initial Json.truthy
  final := o.changed "final" l.final Json.truthy
  copyKey := o.changed "copy_key" l.copyKey Json.text?
  enterScript := o.changed "enter_script_id" l.enterScript Json.int?
  exitScript := o.changed "exit_script_id" l.exitScript Json.int?
  otherId := o.changed "id" l.otherId Json.int?

def Route.change (o : Json) (r : Route) : Route where
  origin := o.changedInt "location_id" r.origin
  destination := o.changedInt "destination_location_id" r.destination
  name := o.changedText "name" r.name
  copyKey := o.changed "copy_key" r.copyKey Json.text?
  takenCopyKey := o.changed "route_taken_copy_key" r.takenCopyKey Json.text?
  takenScript := o.changed "route_taken_script_id" r.takenScript Json.int?
  otherId := o.changed "id" r.otherId Json.int?

def Script.change (o : Json) (s : Script) : Script where
  adventure := o.changedInt "adventure_id" s.adventure
  name := o.changedText "name" s.name
  content := o.changedText "content" s.content
  type := o.changed "type" s.type ScriptType.unchecked
  otherId := o.changed "id" s.otherId Json.int?

def Game.change (o : Json) (g : Game) : Game where
  adventure := o.changedInt "adventure_id" g.adventure
  location := o.changedInt "location_id" g.location
  language := o.changedText "language" g.language
  locationTimestamp := o.changedInt "location_update_timestamp" g.locationTimestamp
  state := o.changed "state" g.state Json.fields
  completed := o.changed "completed" g.completed Json.truthy
  needsRecovery := o.changed "needs_recovery" g.needsRecovery Json.truthy
  id := o.changed "id" g.id Json.int?

end TextAdventure
