import TextAdventure.Lua.Step

/-! Programs with their instructions counted. Once a limit is reached, every further instruction
raises an error instead. A program can catch that error, but it comes again. -/

namespace TextAdventure.Lua

/-- How many instructions have been done on a machine, and how many may be. `begun` is how many came
before the script itself, once it has begun. -/
structure Meter where
  limit : Option Nat := none
  spent : Nat := 0
  begun : Option Nat := none
deriving DecidableEq

namespace Meter

def isUp (k : Meter) : Bool := k.limit.any (· ≤ k.spent)

def count (k : Meter) : Meter := { k with spent := k.spent + 1 }

def mark (k : Meter) : Meter := { k with begun := some k.spent }

end Meter

/-- What a program returns, or the value of the error that has ended it. -/
abbrev Outcome := Machine × Except Value (List Value)

/-- Follows a move to the next instruction, or to the end of the program. -/
def Move.follow (k : Meter) (go : Machine → Play (Meter × Option Outcome)) :
    Move → Play (Meter × Option Outcome)
  | .go m => go m
  | .ask request next => .ask request fun reply => (next reply).follow k go
  | .finished m values => .done (k, some (m, .ok values))
  | .failed m e => .done (k, some (m, .error e))

namespace Machine

/-- What a program hears when it has used up its instructions. -/
def exhausted : Text := "adventureruntime: instruction limit exceeded"

/-- Does the next instruction, provided that there is one left. -/
def act (k : Meter) (m : Machine) : Meter × Move :=
  if k.isUp then (k, m.raise (.text (.ofAscii exhausted)) m.callers) else (k.count, m.step)

/-- Runs a program, but for no more than `fuel` steps. -/
def run : Nat → Meter → Machine → Play (Meter × Option Outcome)
  | 0, k, _ => .done (k, none)
  | fuel + 1, k, m =>
    match m.act k with
    | (k, .go m) => run fuel k m
    | (k, move) => move.follow k (run fuel k)

end Machine

end TextAdventure.Lua
