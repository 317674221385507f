import TextAdventure.Lua.Code
import TextAdventure.Lua.Exchange
import TextAdventure.Script.Play

/-! The machine that programs run on. Functions in progress have registers, one after another, in
one stack: the function that is called, its arguments and its other locals. An error ends all
functions up to the innermost protected call. -/

namespace TextAdventure.Lua

/-- A function in progress: its first register, its next instruction, and how many values its caller
takes from it. -/
structure Activation where
  code : Code
  outers : Array Nat
  base : Nat
  next : Nat
  wanted : Option Nat

/-- What waits for a call: a function, or a protected call, whose own values go to `place`. -/
inductive Frame where
  | running (a : Activation)
  | guard (place : Nat) (wanted : Option Nat)

/-- A machine. The last values of an open list are below `top`. `opens` are the shared variables
that are in the stack, the highest first, each with its cell. `nesting` is how many calls are in progress
that have something else than code under them, and `latest` the last error of the game that was
raised. -/
structure Machine where
  now : Activation
  callers : List Frame := []
  stack : Array Value := #[]
  top : Nat := 0
  opens : List (Nat × Nat) := []
  heap : Heap := {}
  codes : Array Code
  nesting : Nat := 1
  latest : Option Error := none

/-- What comes of a step. -/
inductive Move where
  | go (m : Machine)
  /-- The machine goes on when the game has answered. -/
  | ask (request : Request) (next : request.Reply → Move)
  | finished (m : Machine) (values : List Value)
  | failed (m : Machine) (e : Value)

namespace Machine

/-- The tables that are there from the start. -/
def globals : Nat := 0

@[inherit_doc globals]
def strings : Nat := 1

/-- The stack has room for this many values. -/
def room : Nat := 1000000

/-- Fewer calls than this can be in progress that have something else than code under them. -/
def deepest : Nat := 200

/-! ## The stack -/

def at_ (m : Machine) (place : Nat) : Value := m.stack[place]?.getD .nil

/-- Makes the stack hold at least so many values. -/
def reach (m : Machine) (size : Nat) : Machine :=
  if m.stack.size < size then
    { m with stack := m.stack ++ Array.replicate (size - m.stack.size) .nil }
  else m

def setAt (m : Machine) (place : Nat) (v : Value) : Machine :=
  { m with stack := m.stack.setIfInBounds place v }

def register (m : Machine) (r : Nat) : Value := m.at_ (m.now.base + r)

def setRegister (m : Machine) (r : Nat) (v : Value) : Machine := m.setAt (m.now.base + r) v

/-- The values of `count` places. -/
def slice (m : Machine) (place count : Nat) : List Value :=
  (m.stack.extract place (place + count)).toList

def setSlice (m : Machine) (place : Nat) : List Value → Machine
  | [] => m
  | v :: rest => (m.setAt place v).setSlice (place + 1) rest

/-- Puts values into places: as many as are wanted, with nil for those that are missing, or all of
them. -/
def settle (m : Machine) (values : List Value) (place : Nat) (wanted : Option Nat) : Machine :=
  match wanted with
  | some count =>
    m.setSlice place (values.take count ++ List.replicate (count - values.length) .nil)
  | none =>
    let top := place + values.length
    { (m.reach top).setSlice place values with top }

/-- Takes the shared variables from a place on out of the stack. -/
def closeFrom (m : Machine) (place : Nat) : List (Nat × Nat) → Machine
  | [] => { m with opens := [] }
  | (open_, cell) :: rest =>
    if place ≤ open_ then
      let v := m.at_ open_
      { m with heap := { m.heap with cells := m.heap.cells.setIfInBounds cell (.closed v) } }
        |>.closeFrom place rest
    else { m with opens := (open_, cell) :: rest }

def close (m : Machine) (place : Nat) : Machine :=
  if m.opens.isEmpty then m else m.closeFrom place m.opens

/-! ## Shared variables -/

/-- The shared variables with one more. -/
def insertOpen (entry : Nat × Nat) : List (Nat × Nat) → List (Nat × Nat)
  | [] => [entry]
  | e :: rest => if e.1 < entry.1 then entry :: e :: rest else e :: insertOpen entry rest

/-- The cell of a variable in the stack. -/
def cellAt (m : Machine) (place : Nat) : Nat × Machine :=
  match m.opens.find? fun e => e.1 = place with
  | some (_, cell) => (cell, m)
  | none =>
    let (cell, heap) := m.heap.newCell (.open place)
    (cell, { m with heap, opens := insertOpen (place, cell) m.opens })

def outer (m : Machine) (u : Nat) : Value :=
  match m.heap.cells[m.now.outers[u]?.getD 0]? with
  | some (.open place) => m.at_ place
  | some (.closed v) => v
  | none => .nil

def setOuter (m : Machine) (u : Nat) (v : Value) : Machine :=
  let cell := m.now.outers[u]?.getD 0
  match m.heap.cells[cell]? with
  | some (.open place) => m.setAt place v
  | _ => { m with heap := { m.heap with cells := m.heap.cells.setIfInBounds cell (.closed v) } }

/-! ## The ends of calls -/

/-- Hands the values of a call to what waits for it. -/
def deliver (m : Machine) (values : List Value) (place : Nat) (wanted : Option Nat) :
    List Frame → Move
  | [] => .finished m values
  | .running a :: callers => .go { m.settle values place wanted with now := a, callers }
  | .guard place wanted :: callers =>
    { m with nesting := m.nesting - 1 }.deliver (.bool true :: values) place wanted callers

/-- Raises an error: the program goes on after the innermost protected call, or ends. -/
def raise (m : Machine) (e : Value) : List Frame → Move
  | [] => .failed m e
  | .running _ :: callers => m.raise e callers
  | .guard place wanted :: callers =>
    { m.close place with nesting := m.nesting - 1 }.deliver [.bool false, e] place wanted callers

/-- Raises an error of the game. -/
def fail (m : Machine) (e : Error) (frames : List Frame) : Move :=
  let (v, heap) := m.heap.newObject (.fault e)
  { m with heap, latest := some e }.raise v frames

/-- How messages begin that are about a line of the program. -/
def positionAt (line : Nat) : Bytes :=
  "[string \"<python>\"]:" ++ Bytes.ofAscii (Text.ofNat line) ++ ": "

/-- Where the first of the frames has come to, if it is a function. -/
def position : List Frame → Bytes
  | .running a :: _ => positionAt (a.code.line (a.next - 1))
  | _ => []

/-- Raises a complaint in a function that `frames` wait for. -/
def complainIn (m : Machine) (frames : List Frame) (c : Complaint) : Move :=
  m.raise (.text (position frames ++ c.message)) frames

/-- The function in progress and all that wait for it. -/
def frames (m : Machine) : List Frame := .running m.now :: m.callers

/-- Raises a complaint about the last instruction. -/
def complain (m : Machine) (c : Complaint) : Move := m.complainIn m.frames c

/-- Where the value of a register is from. -/
def sourceOf (m : Machine) (r : Nat) : Source := m.now.code.source (m.now.next - 1) r

end Machine

end TextAdventure.Lua
