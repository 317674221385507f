import TextAdventure.Story.Script

/-! The include edges between scripts. There is at most one edge from a script to another. -/

namespace TextAdventure

/-- Include edges, each where the first edge between its scripts was added. -/
structure Includes where
  edges : List Include := []
deriving DecidableEq

namespace Includes

/-- Whether two edges join the same scripts in the same direction. -/
def sameEnds (a b : Include) : Bool := a.including = b.including ∧ a.included = b.included

/-- Puts an edge among others, in place of one with the same ends. -/
def place (edge : Include) : List Include → List Include
  | [] => [edge]
  | e :: rest => if sameEnds e edge then edge :: rest else e :: place edge rest

def add (s : Includes) (edge : Include) : Includes := ⟨place edge s.edges⟩

def remove (s : Includes) (including included : Int) : Includes :=
  ⟨s.edges.filter fun e => ¬(e.including = including ∧ e.included = included)⟩

/-- Drops every edge that touches a script. -/
def removeScript (s : Includes) (script : Int) : Includes :=
  ⟨s.edges.filter fun e => e.including ≠ script ∧ e.included ≠ script⟩

/-- The edges to the scripts that a script includes, by order and then by the script included. -/
def includesOf (s : Includes) (script : Int) : List Include :=
  (s.edges.filter (·.including = script)).mergeSort fun a b =>
    decide (a.order < b.order ∨ (a.order = b.order ∧ a.included ≤ b.included))

/-- The edges from the scripts that include a script, by the including script. -/
def includedIn (s : Includes) (script : Int) : List Include :=
  (s.edges.filter (·.included = script)).mergeSort fun a b => decide (a.including ≤ b.including)

end Includes

end TextAdventure
