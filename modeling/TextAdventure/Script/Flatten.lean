import TextAdventure.Store.Includes
import TextAdventure.Store.Table

/-! The scripts that a script includes, directly or through others, in the order they run. A
script's own includes come before it, and no script comes twice, so that graphs with cycles have an
order too. -/

namespace TextAdventure

/-- The includes of a script: those that are stored, in order, and the numbers of those that are
not. -/
structure Resolution where
  script : Int
  scripts : Rows Script
  missing : List Int
deriving DecidableEq

/-- A walk along include edges. `stack` holds, innermost first, the scripts being visited with the
edges of each that are still to be followed; the script whose includes are sought is visited without
a record. -/
structure Walk where
  stack : List (Option (Int × Script) × List Include)
  visited : List Int
  ordered : Rows Script := []
  missing : List Int := []

namespace Walk

/-- One step of the walk: the next edge of the innermost script is followed, or that script is
done. -/
def step (scripts : Table Script) (includes : Includes) (w : Walk) : Walk :=
  match w.stack with
  | [] => w
  | (current, []) :: rest => { w with stack := rest, ordered := w.ordered ++ current.toList }
  | (current, edge :: edges) :: rest =>
    let target := edge.included
    if w.visited.contains target then { w with stack := (current, edges) :: rest }
    else
      match scripts.get? target with
      | none =>
        { w with
          stack := (current, edges) :: rest
          visited := target :: w.visited
          missing := w.missing ++ [target] }
      | some script =>
        { w with
          stack := (some (target, script), includes.includesOf target) :: (current, edges) :: rest
          visited := target :: w.visited }

/-- Walks until no script is being visited, for at most `fuel` steps. -/
def run (scripts : Table Script) (includes : Includes) : Nat → Walk → Walk
  | 0, w => w
  | fuel + 1, w => if w.stack = [] then w else run scripts includes fuel (w.step scripts includes)

end Walk

/-- The includes of a script. Each edge is followed at most once and each stored script is left at
most once, which bounds the walk. -/
def resolveIncludes (scripts : Table Script) (includes : Includes) (script : Int) : Resolution :=
  let start : Walk := { stack := [(none, includes.includesOf script)], visited := [script] }
  let walk := start.run scripts includes (includes.edges.length + scripts.rows.length + 1)
  { script, scripts := walk.ordered, missing := walk.missing }

/-- The source that runs a script: its includes, then itself, on lines of their own. -/
def scriptBody (includes : List Script) (script : Script) : Text :=
  Text.join "\n" ((includes.map (·.content)) ++ [script.content])

end TextAdventure
