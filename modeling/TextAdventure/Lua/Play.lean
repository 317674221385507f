import TextAdventure.Lua.Meter
import TextAdventure.Lua.Reader

/-! Scripts in Lua. A script is a program that defines a global function `run`; the table `game` is
what it can do with its game. The script's result is the global `result`, or what `run` returns. -/

namespace TextAdventure.Lua

/-! ## What a script starts with -/

/-- What makes the table `game`, in Lua itself. The methods hand their first argument to the game as
the string that the global function `tostring` makes of it. -/
def gameSource : List String :=
  ["return ",
    "function(emit, emitCopy, getState, setState, lookupCopy,",
    "         gameId, locationId, adventureId, language)",
    "    local game = \x7b",
    "        gameId = gameId,",
    "        locationId = locationId,",
    "        adventureId = adventureId,",
    "        language = language,",
    "    \x7d",
    "    function game:emit(text) emit(tostring(text)) end",
    "    function game:emitCopy(key) emitCopy(tostring(key)) end",
    "    function game:getState(key) return getState(tostring(key)) end",
    "    function game:setState(key, value) setState(tostring(key), value) end",
    "    function game:lookupCopy(key) return lookupCopy(tostring(key)) end",
    "    return game",
    "end"]

def gameProgram : Bytes := Bytes.ofAscii (Text.join "\n" (gameSource.map Text.ofString))

/-- What a script can know of its game. -/
def bearingValues (b : Bearings) : Except Error (List Value) := do
  let id ←
    match b.game with
    | some id => Value.ofInt id
    | none => pure .nil
  let location ← Value.ofInt b.location
  let adventure ← Value.ofInt b.adventure
  let language ← Value.ofText b.language
  return [id, location, adventure, language]

def services : List Service := [.emit, .emitCopy, .getState, .setState, .lookUp]

/-- The globals. The libraries are there, but hold nothing. -/
def globalTable : Table :=
  let fields : List (Bytes × Value) :=
    [("tostring", .builtin .tostring), ("type", .builtin .type), ("pcall", .builtin .pcall),
      ("error", .builtin .error), ("_G", .table Machine.globals),
      ("string", .table Machine.strings), ("math", .table 2), ("table", .table 3)]
  fields.foldl (fun t f => t.set (.text f.1) f.2) {}

/-- A machine before its first program. The cell of the table with the globals is the first. -/
def Machine.start : Machine :=
  { now := { code := {}, outers := #[], base := 1, next := 0, wanted := none }
    codes := #[]
    heap :=
      { tables := #[globalTable, {}, {}, {}]
        cells := #[.closed (.table Machine.globals)]
        objects := (services.map Object.service).toArray } }

namespace Machine

def global (m : Machine) (name : Bytes) : Value := (m.heap.table globals).get (.text name)

/-- Keeps a program as a function. -/
def load (m : Machine) (source : Bytes) : Except Refusal (Value × Machine) :=
  (readProgram m.codes source).map fun (code, codes) =>
    let (place, heap) := m.heap.newClosure { code, outers := #[0] }
    (.function place, { m with heap, codes })

end Machine

/-- How many instructions a limit allows. It counts as a signed number of 32 bits, and one that is
not positive as such does not limit anything. -/
def budget : Option Int → Except Error (Option Nat)
  | none => .ok none
  | some limit =>
    match Number.fit? limit with
    | none => .error .integerTooLarge
    | some _ =>
      let count := limit.bmod 0x100000000
      .ok (if 0 < count then some count.toNat else none)

/-! ## How a script ends -/

/-- What a script comes to: it returns a value, it is ended by an error of Lua or by another failure,
or an error that is not its own goes on. -/
inductive Conclusion where
  | returned (value : Json)
  | broken (message : Text)
  | failed (message : Text)
  | raised (e : Error)
deriving DecidableEq

/-- A script that is ended by the message of exhausted instructions counts as stopped, whoever wrote
the message. -/
def Conclusion.ending : Conclusion → Ending
  | returned value => .result value
  | broken message =>
    if Text.has Machine.exhausted message then .failed "script exceeded its instruction limit" true
    else .failed message false
  | failed message => .failed message false
  | raised e => .raised e

/-- How a script has gone: what it came to, and its instructions. -/
structure Course where
  meter : Meter
  conclusion : Conclusion
deriving DecidableEq

/-- What an error of the game comes to that a script did not catch. -/
def uncaught (e : Error) : Conclusion := if e.isArgument then .failed e.message else .raised e

/-- What an error value comes to. An error of the game ends a script as the last such error. -/
def broken (m : Machine) : Value → Conclusion
  | .object place =>
    match m.heap.objects[place]? with
    | some (.fault e) => uncaught (m.latest.getD e)
    | _ => .broken []
  | .text bytes =>
    match Utf8.decode bytes with
    | .ok message => .broken message
    | .error bad => uncaught (.badBytes bad)
  | .number n => .broken ((Utf8.decode n.text).toOption.getD [])
  | _ => .broken []

/-- An error of Lua from before the script began is not a failure of the script. -/
def unready (m : Machine) (e : Value) : Conclusion :=
  match broken m e with
  | .broken message => .raised (.foreign .lua message)
  | .failed message => .raised (.foreign .value message)
  | conclusion => conclusion

/-- A program that could not be read. -/
def refused (r : Refusal) : Conclusion :=
  let place : Bytes := (r.line.map Machine.positionAt).getD []
  let message := "error loading code: " ++ place ++ r.message
  .broken (match Utf8.decode message with
    | .ok t => t
    | .error _ => message.map fun b => CodePoint.ofNat b.toNat)

/-- The text of a result; nil has none. -/
def resultText (h : Heap) (v : Value) : Except Error (Option Text) :=
  match v with
  | .nil => .ok none
  | .bool b => .ok (some (if b then "true" else "false"))
  | .number (.int n) => .ok (some (Text.ofInt n.toInt))
  | .number n => .ok (some (Decimal.text n.toFloat))
  | v => do return some (← decoded (← h.written v))

/-- The text of what a function returns: its only value, or all values that have a text and are not
empty, with semicolons between them. -/
def resultsText (h : Heap) (values : List Value) : Except Error (Option Text) := do
  let texts ← values.mapM (resultText h)
  match texts with
  | [] => return none
  | [t] => return t
  | texts => return some (Text.join ";" ((texts.filterMap id).filter (· ≠ [])))

/-- The result of a script that has run to its end. -/
def result (m : Machine) (values : List Value) : Except Error (Option Text) := do
  let returned ← resultsText m.heap values
  match m.global "result" with
  | .nil => return returned
  | v => resultText m.heap v

/-! ## Running a script -/

/-- No script takes as many steps as this. -/
def endless : Nat := 0x4000000000000000

namespace Machine

/-- The machine about to call a function. -/
def poised (m : Machine) (f : Value) (arguments : List Value) : Machine :=
  ({ m with callers := [], nesting := 1 }.reach (arguments.length + 2)).setSlice 1 (f :: arguments)

/-- Calls a function from outside of programs. -/
def launch (k : Meter) (m : Machine) (f : Value) (arguments : List Value) :
    Play (Meter × Option Outcome) :=
  ((m.poised f arguments).call 1 none [] arguments.length).follow k (run endless k)

end Machine

/-- Goes on with the values that a call returns. -/
def proceed (failed : Machine → Value → Conclusion)
    (next : Meter → Machine → List Value → Play Course) : Meter × Option Outcome → Play Course
  | (meter, none) => .done { meter, conclusion := .broken [] }
  | (meter, some (m, .error e)) => .done { meter, conclusion := failed m e }
  | (meter, some (m, .ok values)) => next meter m values

/-- Calls a function, and goes on with the values that it returns. -/
def perform (k : Meter) (m : Machine) (f : Value) (arguments : List Value)
    (failed : Machine → Value → Conclusion) (next : Meter → Machine → List Value → Play Course) :
    Play Course :=
  (m.launch k f arguments).bind (proceed failed next)

/-- Calls the function `run` of a script that has been loaded. -/
def performRun (k : Meter) (m : Machine) : Play Course :=
  let missing : Conclusion := .failed "script does not define a run() function"
  match m.global "run" with
  | .function place => go (.function place)
  | .builtin f => go (.builtin f)
  | .text bytes =>
    match Utf8.decode bytes with
    | .ok _ => .done { meter := k, conclusion := missing }
    | .error bad => .done { meter := k, conclusion := uncaught (.badBytes bad) }
  | _ => .done { meter := k, conclusion := missing }
where
  go (f : Value) : Play Course :=
    perform k m f [] broken fun meter m values =>
      match result m values with
      | .ok t => .done { meter, conclusion := .returned ((t.map Json.text).getD .null) }
      | .error e => .done { meter, conclusion := uncaught e }

/-- Runs the source of a script on a machine. -/
def performSource (k : Meter) (m : Machine) (source : Text) : Play Course :=
  match encoded source with
  | .error e => .done { meter := k, conclusion := uncaught e }
  | .ok bytes =>
    match m.load bytes with
    | .error r => .done { meter := k, conclusion := refused r }
    | .ok (main, m) =>
      perform k m main [] broken fun meter m values =>
        match resultsText m.heap values with
        | .ok _ => performRun meter m
        | .error e => .done { meter, conclusion := uncaught e }

/-- Makes the table `game` by its program, once that is loaded. -/
def makeGame (k : Meter) (bearings : List Value) (next : Meter → Machine → Play Course) :
    Except Refusal (Value × Machine) → Play Course
  | .error r => .done { meter := k, conclusion := refused r }
  | .ok (main, m) =>
    perform k m main [] unready fun k m values =>
      let objects := services.mapIdx fun place _ => Value.object place
      perform k m (values.headD .nil) (objects ++ bearings) unready fun k m values =>
        next k
          { m with heap := m.heap.setTable Machine.globals (.text "game") (values.headD .nil) }

/-- Runs the source of a script for a game, and keeps count of its instructions. -/
def courseFor (k : Meter) (source : Text) (bearings : Bearings) : Play Course :=
  match bearingValues bearings with
  | .error e => .done { meter := k, conclusion := .raised e }
  | .ok bearings =>
    makeGame k bearings (fun k m => performSource k.mark m source) (Machine.start.load gameProgram)

def course (k : Meter) (source : Text) : Play Course := .ask .bearings (courseFor k source)

/-- Runs the source of a script. -/
def play (limit : Option Int) (source : Text) : Play Ending :=
  match budget limit with
  | .error e => .done (.raised e)
  | .ok limit => (course { limit } source).bind fun c => .done c.conclusion.ending

/-- The runtime for scripts in Lua. A limit on their instructions has to be positive. -/
def runtime (limit : Option Int) : Except Error Runtime :=
  match limit with
  | some n => if n < 1 then .error .maxInstructionsNotPositive else .ok (play limit)
  | none => .ok (play none)

end TextAdventure.Lua
