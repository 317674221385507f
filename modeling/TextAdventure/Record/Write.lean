import TextAdventure.Engine.Basic
import TextAdventure.Record.Field

/-! Records as JSON objects with all their fields. The state of a game is written as a text, which
fails when it holds an integer that is too long. -/

namespace TextAdventure

/-- The number that a record goes by, or else the one that it is stored under. -/
def Json.ofOtherId (other : Option Int) (stored : Json) : Json := (other.map int).getD stored

def Adventure.toJson (id : Json) (a : Adventure) : Json := .record
  [("name", .text a.name), ("initial_copy_key", .ofText? a.initialCopyKey),
    ("description_copy_key", .ofText? a.descriptionCopyKey),
    ("initialization_script_id", .ofInt? a.initializationScript),
    ("termination_script_id", .ofInt? a.terminationScript), ("id", .ofOtherId a.otherId id)]

def Location.toJson (id : Json) (l : Location) : Json := .record
  [("adventure_id", .int l.adventure), ("name", .text l.name), ("initial", .bool l.initial),
    ("final", .bool l.final), ("copy_key", .ofText? l.copyKey),
    ("enter_script_id", .ofInt? l.enterScript), ("exit_script_id", .ofInt? l.exitScript),
    ("id", .ofOtherId l.otherId id)]

def Route.toJson (id : Json) (r : Route) : Json := .record
  [("location_id", .int r.origin), ("destination_location_id", .int r.destination),
    ("name", .text r.name), ("copy_key", .ofText? r.copyKey),
    ("route_taken_copy_key", .ofText? r.takenCopyKey),
    ("route_taken_script_id", .ofInt? r.takenScript), ("id", .ofOtherId r.otherId id)]

def ScriptType.toJson : ScriptType → Json
  | lua => .text luaName
  | unchecked given => given

def Script.toJson (id : Json) (s : Script) : Json := .record
  [("adventure_id", .int s.adventure), ("name", .text s.name), ("content", .text s.content),
    ("type", s.type.toJson), ("id", .ofOtherId s.otherId id)]

def Include.toJson (e : Include) : Json := .record
  [("included_in_id", .int e.including), ("includes_id", .int e.included), ("order", .int e.order)]

def Game.toJson (g : Game) : Except Error Json :=
  g.stateText.map fun state => .record
    [("adventure_id", .int g.adventure), ("location_id", .int g.location),
      ("language", .text g.language), ("location_update_timestamp", .int g.locationTimestamp),
      ("state", .text state), ("completed", .bool g.completed),
      ("needs_recovery", .bool g.needsRecovery), ("id", .ofInt? g.id)]

def Content.toJson (c : Content) : Json := .record
  [("game_id", .int c.game), ("position", .int c.position), ("copy_key", .ofText? c.body.copyKey?),
    ("text", .ofText? c.body.text?), ("id", .ofInt? c.id)]

def Copy.toJson (id : Json) (c : Copy) : Json := .record
  [("key", .text c.key), ("language", .text c.language), ("text", .text c.text),
    ("name", c.name), ("adventure_id", .ofInt? c.adventure),
    ("script_id", .ofInt? c.script), ("id", id)]

def Language.toJson (id : Json) (l : Language) : Json :=
  .record [("name", .text l.name), ("code", .text l.code), ("id", id)]

/-- The records of a store, with their numbers. -/
def Rows.toJson {α : Type} (write : Json → α → Json) (rows : Rows α) : Json :=
  .list (List.map (fun r => write (.int r.1) r.2) rows)

def Transcript.toJson (t : Transcript) : Except Error Json :=
  t.game.toJson.map fun game => .record
    [("game", game), ("entries", .list (t.entries.map Content.toJson)),
      ("texts", .ofTexts t.texts), ("positions", .ofInts (t.positions.map Int.ofNat))]

def ScriptRun.toJson (r : ScriptRun) : Json := .record
  [("script_id", .int r.script), ("result", r.result),
    ("entries", .list (r.entries.map Content.toJson)), ("texts", .ofTexts r.texts),
    ("text", .text r.text), ("included", .ofInts r.included)]

def Resolution.toJson (r : Resolution) : Json := .record
  [("script_id", .int r.script), ("scripts", .ofInts (List.map (fun s => s.2.idAt s.1) r.scripts)),
    ("missing", .ofInts r.missing)]

def Identifier.toJson : Identifier → Json
  | number n => .int n
  | other v => v

/-- What an error of the engine is about. -/
def Error.details : Error → Option Json
  | notFound kind id =>
    some (.record [("kind", .text kind.name), ("identifier", id.toJson)])
  | scriptFailed s m | scriptTimedOut s m =>
    some (.record [("script_id", .int s), ("message", .text m)])
  | invalidTransition g r l =>
    some (.record [("game_id", .int g), ("route_id", .int r), ("location_id", .int l)])
  | noInitialLocation a => some (.record [("adventure_id", .int a)])
  | ambiguousInitialLocation a ls =>
    some (.record [("adventure_id", .int a), ("location_ids", .ofInts ls)])
  | gameBusy g => some (.record [("game_id", .int g)])
  | recoveryRequired g => some (.record [("game_id", .ofInt? g)])
  | resourceInUse kind id gs =>
    some (.record
      [("kind", .text kind.name), ("identifier", .int id), ("game_ids", .ofInts gs)])
  | invalidInclude _ => some (.record [])
  | _ => none

end TextAdventure
