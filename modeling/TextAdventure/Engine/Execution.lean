import TextAdventure.Engine.Basic

/-! Running a script for a game. What the script emits is logged at once and stays logged when the
script fails, and the game is stored in either case. -/

namespace TextAdventure

namespace Engine

/-- Output goes into the logs of the world, and copy comes from its stores. -/
def place (engine : Engine) : Place World where
  log game body w := (World.log game body).run w
  lookUp game key w :=
    match key with
    | .text k => .ok (engine.lookup.resolve w.copies k (some game.language))
    | _ => .ok (engine.lookup.placeholder w.copies (some game.language))

/-- Asks the host on behalf of a script, whose game is `held`. When that game is a stored one,
script and host see each other's changes to it. -/
def consult (engine : Engine) (held : Held Game) (request : Json) (s : Stage World) :
    Json × Stage World :=
  let held := { held with value := s.game }
  let (reply, after) := engine.host request { s.around with games := s.around.games.share held }
  (reply,
    { s with
      game := after.games.current held
      around := { after with replies := after.replies ++ [reply] } })

/-- The game after a script that ended in some way: one that was stopped leaves it in need of
recovery. -/
def afterwards (game : Game) : Ending → Game
  | .failed _ true => { game with needsRecovery := true }
  | _ => game

/-- The runtime for scripts of a type. -/
def runtimeFor (engine : Engine) (id : Int) (type : ScriptType) : Op Runtime :=
  match if type.isLua then engine.runtime else none, type with
  | some runtime, _ => return runtime
  | none, .lua =>
    throw (.scriptFailed id
      ("no runtime registered for script type '" ++ ScriptType.luaName ++ "'"))
  | none, .unchecked given => throw (.noMember given.kind "value")

/-- Stores a game again after one of its scripts, if it is one that can be stored. -/
def storeAgain (held : Held Game) : Op (Held Game) :=
  if held.value.id.isSome then World.updateGame held else pure held

/-- What comes of a script for a game: the entries it emitted and their texts, unless it ended in a
failure or an error. -/
def report (engine : Engine) (id : Int) (included : Rows Script) (emitted : List Content)
    (held : Held Game) : Ending → Op (ScriptRun × Held Game)
  | .failed message true => throw (.scriptTimedOut id message)
  | .failed message false => throw (.scriptFailed id message)
  | .raised e => throw e
  | .result result => do
    let run : ScriptRun :=
      { script := id, result, entries := emitted
        texts := ← engine.texts emitted held.value.language
        included := List.map (fun s => s.2.idAt s.1) included }
    return (run, held)

/-- Plays a script with its includes through a runtime, and stores its game again. -/
def play (engine : Engine) (held : Held Game) (id : Int) (script : Script) (runtime : Runtime) :
    Op (ScriptRun × Held Game) := do
  let w ← get
  let includes := (resolveIncludes w.scripts w.includes id).scripts
  let script := runtime (scriptBody (List.map (·.2) includes) script)
  let (ending, stage) := script.run engine.place (engine.consult held)
    { game := held.value, around := w }
  set stage.around
  let held ← storeAgain { held with value := afterwards stage.game ending }
  engine.report id includes stage.emitted held ending

/-- Runs a script for a game, and gives the game as the script has left it. -/
def execute (engine : Engine) (held : Held Game) (id : Option Int) (script : Script) :
    Op (ScriptRun × Held Game) := do
  let game := held.value
  if game.needsRecovery then throw (.recoveryRequired game.id)
  let some id := id | throw .scriptWithoutIdentity
  if script.adventure ≠ game.adventure then
    throw (.scriptFailed id ("script belongs to adventure " ++ Text.ofInt script.adventure ++
      ", not " ++ Text.ofInt game.adventure))
  engine.play held id script (← engine.runtimeFor id script.type)

/-- Runs a stored script for a game. -/
def executeStored (engine : Engine) (held : Held Game) (id : Identifier) :
    Op (ScriptRun × Held Game) := do
  let script ← World.script id
  engine.execute held (some (script.idAt (← Op.number .script id))) script

/-- Runs the script of a hook, if the hook has one, and shows what it emitted. -/
def runHook (engine : Engine) (script : Option Int) (p : Progress) : Op Progress := do
  match script with
  | none => return p
  | some script =>
    let (run, held) ← engine.executeStored p.held script
    return { held, entries := p.entries ++ run.entries }

/-- Logs a copy key, if there is one. -/
def showCopy (key : Option Text) (p : Progress) : Op Progress := do
  match key with
  | none => return p
  | some key => return { p with entries := p.entries ++ [← World.log p.game (.copy key)] }

/-- Runs a stored script for a game, apart from any move. -/
def executeScript (engine : Engine) (game script : Identifier) : Op ScriptRun := do
  engine.holding (← World.gameNumber game) do
    let found ← World.heldGame game
    return (← engine.executeStored found script).1

end Engine

end TextAdventure
