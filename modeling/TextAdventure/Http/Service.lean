import TextAdventure.Engine.Lifecycle
import TextAdventure.Engine.Reading
import TextAdventure.Http.Integer
import TextAdventure.Http.Target

/-! Playing games over HTTP. Numbers in the path and the query are checked before anything is done;
every fault that they have is reported. -/

namespace TextAdventure.Http

structure Request where
  method : Text
  target : Target
  /-- A body of null counts as none. -/
  body : Json := .null
deriving DecidableEq

/-- What a request can be about. Identities are still text. -/
inductive Resource where
  | games (adventure : Text)
  | game (game : Text)
  | recovery (game : Text)
  | routes (game : Text)
  | route (game route : Text)
  | contents (game : Text)
  | content (game position : Text)
deriving DecidableEq

def Resource.ofSegments? : List Text → Option Resource
  | [[], api, collection, id] =>
    if api = "api" ∧ collection = "games" then some (.game id) else none
  | [[], api, collection, id, part] =>
    if api ≠ "api" then none
    else if collection = "adventures" then if part = "games" then some (.games id) else none
    else if collection ≠ "games" then none
    else if part = "recover" then some (.recovery id)
    else if part = "routes" then some (.routes id)
    else if part = "contents" then some (.contents id)
    else none
  | [[], api, collection, id, part, item] =>
    if api ≠ "api" ∨ collection ≠ "games" then none
    else if part = "routes" then some (.route id item)
    else if part = "contents" then some (.content id item)
    else none
  | _ => none

/-- The resource of a path, none of whose parts is empty. Slashes at the end do not count. -/
def Resource.ofTarget? (t : Target) : Option Resource :=
  let parts := (t.segments.reverse.dropWhile (· = [])).reverse
  if (parts.drop 1).contains [] then none else Resource.ofSegments? parts

/-- Why a request is rejected: what is wrong, and where. -/
inductive Fault where
  | integer (fault : IntegerFault) (place : List String)
  | tooSmall (place : List String)
  | tooLarge (place : List String)
  | notText (place : List String)
  | notObject (place : List String)
deriving DecidableEq

inductive Response where
  | reply (status : Nat) (body : Json)
  | invalid (faults : List Fault)
deriving DecidableEq

/-- The status that tells of an error, if the error is one of the engine. -/
def status? : Error → Option Nat
  | .notFound .. => some 404
  | .recoveryRequired .. => some 423
  | .scriptFailed .. | .scriptTimedOut .. => some 422
  | .invalidTransition .. | .noInitialLocation .. | .ambiguousInitialLocation .. | .gameBusy ..
  | .resourceInUse .. | .invalidInclude .. => some 409
  | _ => none

def detail (status : Nat) (text : Text) : Response :=
  .reply status (.object [("detail", .text text)])

/-- Text is sent in UTF-8, which half of a surrogate pair has no place in. -/
def checkText (t : Text) : Except Utf8.BadText Unit := (Utf8.encode t).map fun _ => ()

mutual

/-- A value as it is sent: numbers that are not finite become null. -/
def sent : Json → Except Utf8.BadText Json
  | .float x => .ok (if x.isFinite then .float x else .null)
  | .text t => (checkText t).map fun _ => .text t
  | .list items => (sentItems items).map .list
  | .object fields => (sentFields fields).map .object
  | v => .ok v

def sentItems : List Json → Except Utf8.BadText (List Json)
  | [] => .ok []
  | v :: rest => do return (← sent v) :: (← sentItems rest)

def sentFields : List (Text × Json) → Except Utf8.BadText (List (Text × Json))
  | [] => .ok []
  | (k, v) :: rest => do
    checkText k
    return (k, ← sent v) :: (← sentFields rest)

end

/-- A reply that tells of an error. Its body is JSON, escaped no more than it has to be. -/
def errorReply (status : Nat) (text : Text) : Except Error Response :=
  let escape (c : CodePoint) : Text := if c.val < 128 then Json.escape c else [c]
  match checkText ("\x7b\"detail\":\"" ++ text.flatMap escape ++ "\"\x7d") with
  | .ok () => .ok (detail status text)
  | .error fault => .error (.badText fault)

def optionalText : Option Text → Json
  | none => .null
  | some t => .text t

def optionalInt : Option Int → Json
  | none => .null
  | some n => .int n

def gameView (g : Game) : Json := .object
  [("id", optionalInt g.id), ("adventure_id", .int g.adventure), ("location_id", .int g.location),
    ("language", .text g.language), ("location_update_timestamp", .int g.locationTimestamp),
    ("completed", .bool g.completed), ("needs_recovery", .bool g.needsRecovery),
    ("state", .object g.state)]

def entryView (position : Int) (text : Text) (copyKey : Option Text) : Json :=
  .object [("position", .int position), ("text", .text text), ("copy_key", optionalText copyKey)]

def entriesView (entries : List Content) (texts : List Text) : Json :=
  .list (List.zipWith (fun e t => entryView e.position t e.body.copyKey?) entries texts)

def transcriptView (t : Transcript) : Json :=
  .object [("game", gameView t.game), ("contents", entriesView t.entries t.texts)]

def routeView (id : Int) (r : Route) : Json := .object
  [("id", .int (r.idAt id)), ("name", .text r.name), ("location_id", .int r.origin),
    ("destination_location_id", .int r.destination), ("copy_key", optionalText r.copyKey)]

/-- A request with its numbers read. -/
inductive Task where
  | start (adventure : Int) (language : Option Text)
  | show (game : Int)
  | finish (game : Int)
  | recover (game : Int)
  | routes (game : Int)
  | take (game route : Int)
  | contents (game start : Int) (limit : Option Int)
  | content (game position : Int)
deriving DecidableEq

/-- The faults of a value, or the value. -/
abbrev Checked (α : Type) := Except (List Fault) α

/-- Both values, or the faults of both. -/
def both {α β γ : Type} (f : α → β → γ) : Checked α → Checked β → Checked γ
  | .ok a, .ok b => .ok (f a b)
  | .error e, .ok _ => .error e
  | .ok _, .error e => .error e
  | .error e, .error e' => .error (e ++ e')

def checkedInteger (place : List String) (t : Text) : Checked Int :=
  match integer t with
  | .ok n => .ok n
  | .error fault => .error [.integer fault place]

def pathInteger (name : String) (t : Text) : Checked Int := checkedInteger ["path", name] t

/-- An integer of the query within bounds. -/
def queryInteger (t : Target) (name : String) (least : Int) (greatest : Option Int) :
    Checked (Option Int) :=
  match t.value? name with
  | none => .ok none
  | some text =>
    match checkedInteger ["query", name] text with
    | .error e => .error e
    | .ok n =>
      if n < least then .error [.tooSmall ["query", name]]
      else if greatest.any (· < n) then .error [.tooLarge ["query", name]]
      else .ok (some n)

/-- The most entries that one reply holds. -/
def greatestPage : Int := 500

/-- The language that a body asks for. A blank one counts as none. -/
def bodyLanguage : Json → Checked (Option Text)
  | .null => .ok none
  | .object fields =>
    match (Fields.get? "language" fields).getD .null with
    | .null => .ok none
    | .text t => .ok (if t.strip.lower = [] then none else some t.strip.lower)
    | _ => .error [.notText ["body", "language"]]
  | _ => .error [.notObject ["body"]]

/-- What a request asks for; none when its method does not fit its resource. -/
def task? (r : Request) (method : String) : Resource → Option (Checked Task)
  | .games a =>
    if method = "POST" then
      some (both .start (pathInteger "adventure_id" a) (bodyLanguage r.body))
    else none
  | .game g =>
    if method = "GET" then some ((pathInteger "game_id" g).map .show)
    else if method = "DELETE" then some ((pathInteger "game_id" g).map .finish)
    else none
  | .recovery g =>
    if method = "POST" then some ((pathInteger "game_id" g).map .recover) else none
  | .routes g => if method = "GET" then some ((pathInteger "game_id" g).map .routes) else none
  | .route g i =>
    if method = "POST" then
      some (both .take (pathInteger "game_id" g) (pathInteger "route_id" i))
    else none
  | .contents g =>
    if method = "GET" then
      let page := both Prod.mk (queryInteger r.target "start" 0 none)
        (queryInteger r.target "limit" 1 (some greatestPage))
      some (both (fun g page => .contents g (page.1.getD 0) page.2) (pathInteger "game_id" g) page)
    else none
  | .content g p =>
    if method = "GET" then
      some (both .content (pathInteger "game_id" g) (pathInteger "position" p))
    else none

/-- Does what a request asks for, and gives the status and the body of the reply. -/
def perform (engine : Engine) : Task → Op (Nat × Json)
  | .start adventure language => do
    return (201, transcriptView (← engine.startGame adventure (optionalText language)))
  | .show game => do return (200, gameView (← World.game game))
  | .finish game => do return (200, transcriptView (← engine.endGame game))
  | .recover game => do return (200, gameView (← engine.recoverGame game))
  | .routes game => do
    let routes ← Engine.availableRoutes game
    return (200, .object
      [("game_id", .int game), ("data", .list (List.map (fun r => routeView r.1 r.2) routes))])
  | .take game route => do return (200, transcriptView (← engine.takeRoute game route))
  | .contents game start limit => do
    let found ← World.game game
    let entries ← Engine.contents game start limit
    let texts ← engine.texts entries found.language
    return (200, .object
      [("game_id", .int game), ("start", .int start), ("limit", optionalInt limit),
        ("data", entriesView entries texts)])
  | .content game position => do
    let text ← engine.textAt game position
    let entry := (← get).journal.get? game position
    return (200, entryView position text (entry.bind (·.body.copyKey?)))

/-- Performs a task. Errors of the engine become replies, all others go on. When a reply cannot be
sent, what was done stays done. -/
def respond (engine : Engine) (task : Task) : Op Response := Op.of fun w =>
  match (perform engine task).run w with
  | (.ok (status, body), after) =>
    match sent body with
    | .ok body => (.ok (.reply status body), after)
    | .error fault => (.error (.badReply fault), after)
  | (.error e, after) =>
    match status? e with
    | some status => (errorReply status e.message, after)
    | none => (.error e, after)

/-- Answers a request. -/
def serve (engine : Engine) (r : Request) : Op Response :=
  match Resource.ofTarget? r.target with
  | none => return detail 404 "Not Found"
  | some resource =>
    match task? r r.method.toString.toUpper resource with
    | none => return detail 405 "Method Not Allowed"
    | some (.error faults) => return .invalid faults
    | some (.ok task) => respond engine task

end TextAdventure.Http
