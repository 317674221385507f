import TextAdventure.Engine.World

/-! Including one script in another. Edges join scripts of one adventure and never form a cycle. -/

namespace TextAdventure

namespace Includes

/-- Puts the ends of edges that have not been seen yet in front of those to visit, and marks them
seen. -/
def discover : List Include → List Int × List Int → List Int × List Int
  | [], found => found
  | edge :: rest, (pending, seen) =>
    if seen.contains edge.included then discover rest (pending, seen)
    else discover rest (edge.included :: pending, edge.included :: seen)

/-- Searches for `target` from the scripts that are pending, visiting at most `fuel` of them. -/
def search (s : Includes) (target : Int) : Nat → List Int × List Int → Bool
  | 0, _ => false
  | _, ([], _) => false
  | fuel + 1, (current :: pending, seen) =>
    current = target ||
      s.search target fuel (discover (s.includesOf current) (pending, seen))

/-- Whether include edges lead from one script to another. No script is visited twice, and all but
the first are ends of edges, which bounds the search. -/
def reaches (s : Includes) (start target : Int) : Bool :=
  s.search target (s.edges.length + 1) ([start], [start])

end Includes

namespace Authoring

/-- Makes a script include another. -/
def addInclude (outer inner : Identifier) (order : Int) : Op Include := do
  let outerScript ← World.script outer
  let innerScript ← World.script inner
  let including ← Op.number .script outer
  let included ← Op.number .script inner
  let stored := (← get).includes
  if including = included then throw (.invalidInclude (.itself including))
  else if outerScript.adventure ≠ innerScript.adventure then
    throw (.invalidInclude (.foreign including included))
  else if stored.reaches included including then
    throw (.invalidInclude (.cycle including included))
  else
    let edge : Include := { including, included, order }
    modify fun w => { w with includes := w.includes.add edge }
    return edge

end Authoring

end TextAdventure
