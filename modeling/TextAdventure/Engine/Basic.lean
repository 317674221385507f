import TextAdventure.Engine.World
import TextAdventure.Script.Flatten
import TextAdventure.Script.Stage
import TextAdventure.Settings.Basic

/-! An engine plays games over a world. It runs scripts through its runtime, and passes what they
ask of their host on to the host. -/

namespace TextAdventure

/-- What an engine plays by. Without a runtime, no script can run. -/
structure Engine where
  settings : Settings := {}
  runtime : Option Runtime := none
  host : Json → StateM World Json := fun _ => pure .null

/-- What an operation has shown, with the texts of the entries. -/
structure Transcript where
  game : Game
  entries : List Content := []
  texts : List Text := []
deriving DecidableEq

def Transcript.positions (t : Transcript) : List Nat := t.entries.map (·.position)

/-- What came of running a script. -/
structure ScriptRun where
  script : Int
  result : Json
  entries : List Content
  texts : List Text
  included : List Int
deriving DecidableEq

/-- All texts of a run, on lines of their own. -/
def ScriptRun.text (run : ScriptRun) : Text := Text.join "\n" run.texts

/-- An operation on a game in progress: the game, and the entries shown so far. -/
structure Progress where
  held : Held Game
  entries : List Content := []
deriving DecidableEq

def Progress.game (p : Progress) : Game := p.held.value

namespace Engine

/-- How the engine looks up copy. -/
def lookup (engine : Engine) : Lookup :=
  Lookup.create engine.settings.defaultLanguage engine.settings.emptyCopyText

/-- The texts of entries as they read now. -/
def texts (engine : Engine) (entries : List Content) (language : Text) : Op (List Text) := do
  let copies := (← get).copies
  return entries.map fun entry => entry.shownText engine.lookup copies language

/-- Does an operation while it holds a game. -/
def holding {α : Type} (engine : Engine) (game : Int) (op : Op α) : Op α :=
  World.holding engine.settings.busyTimeout game op

/-- The transcript of an operation that is done. -/
def transcribe (engine : Engine) (p : Progress) : Op Transcript := do
  return { game := p.game, entries := p.entries, texts := ← engine.texts p.entries p.game.language }

end Engine

end TextAdventure
