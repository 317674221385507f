import TextAdventure.Error
import TextAdventure.Lua.Table

/-! What a program keeps beside its stack: tables, functions, the variables that functions share,
and objects of the game. Lists and objects of the game's state are kept here too once the program
has come to know them, so that it changes the same ones wherever it has them from. -/

namespace TextAdventure.Lua

/-- A variable that functions share: in the stack as long as its block is not left. -/
inductive Cell where
  | open (place : Nat)
  | closed (v : Value)

/-- A function: its code, and the cells of its outer variables. -/
structure Closure where
  code : Nat
  outers : Array Nat
deriving Inhabited

/-- What the game does for a program. -/
inductive Service where
  | emit | emitCopy | getState | setState | lookUp
deriving DecidableEq

/-- What is inside a list or an object of the state: a value without parts, one with parts of its
own, or a value of the program that the state cannot hold as it is. -/
inductive Item where
  | leaf (v : Json)
  | part (place : Nat)
  | held (v : Value)

/-- A list or an object of the state. -/
inductive Part where
  | list (items : Array Item)
  | object (fields : List (Json × Item))

/-- An object of the game, as a program sees it. -/
inductive Object where
  | fault (e : Error)
  | part (place : Nat)
  | service (s : Service)

/-- What a program keeps. `known` are the keys of the state whose values it knows as items. -/
structure Heap where
  tables : Array Table := #[]
  closures : Array Closure := #[]
  cells : Array Cell := #[]
  objects : Array Object := #[]
  parts : Array Part := #[]
  known : List (Text × Item) := []

namespace Heap

def table (h : Heap) (place : Nat) : Table := h.tables[place]?.getD {}

def setTable (h : Heap) (place : Nat) (key v : Value) : Heap :=
  { h with tables := h.tables.modify place fun t => t.set key v }

/-- Keeps a new table, and says where. -/
def newTable (h : Heap) (t : Table) : Nat × Heap :=
  (h.tables.size, { h with tables := h.tables.push t })

@[inherit_doc newTable]
def newClosure (h : Heap) (c : Closure) : Nat × Heap :=
  (h.closures.size, { h with closures := h.closures.push c })

@[inherit_doc newTable]
def newCell (h : Heap) (c : Cell) : Nat × Heap :=
  (h.cells.size, { h with cells := h.cells.push c })

/-- A new object, whatever others there are of the same thing. -/
def newObject (h : Heap) (o : Object) : Value × Heap :=
  (.object h.objects.size, { h with objects := h.objects.push o })

end Heap

end TextAdventure.Lua
