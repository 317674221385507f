import TextAdventure.Proofs.Engine.Failing
import TextAdventure.Proofs.Engine.Scripted
import TextAdventure.Proofs.Engine.Stopped
import TextAdventure.Proofs.Lua.Escapes

/-! How running a script in Lua for a game fails. What ends the script is told as an error of the
engine, apart from what keeps the script from beginning, and from the few errors that escape
scripts. -/

namespace TextAdventure

open Op

/-- The errors that running a script for a stored game fails with, and that are none of the engine:
the script cannot begin, or an error escapes it; the game cannot be written, or waited for. -/
inductive Engine.Leaks (engine : Engine) (limit : Option Int) (w : World) (g : Game) : Error → Prop
  | kept {e : Error}
      (kept : Lua.ready limit ({ game := g, around := w } : Stage World).bearings = .error e) :
      Leaks engine limit w g e
  | escaped {e : Error} (escapes : Lua.Escapes e) : Leaks engine limit w g e
  | unwritable (filed : w.games.Filed) : Leaks engine limit w g .tooLongToWrite
  | jammed (jammed : ¬engine.Waits) : Leaks engine limit w g .busyTimeoutTooLong

/-- The error is one of the engine, or it leaks. -/
def Engine.Tells (engine : Engine) (limit : Option Int) (w : World) (g : Game) (e : Error) : Prop :=
  e.category = .engine ∨ engine.Leaks limit w g e

namespace Engine

variable {engine : Engine} {limit : Option Int} {r : Runtime} {n k : Int} {v w : World} {g : Game}
  {held : Held Game} {script : Script}

section Playing

variable (made : Lua.runtime limit = .ok r)
include made

variable (runs : engine.runtime = some r)
include runs

variable (stored : w.scripts.get? k = some script) (lua : script.type = .lua)
include stored lua

end Playing

end Engine

end TextAdventure
