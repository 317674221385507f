import TextAdventure.Lua.Call
import TextAdventure.Lua.Counter

/-! What instructions do, one step of the machine each. -/

namespace TextAdventure.Lua

namespace Machine

/-- Sets a register and goes on. -/
def result (m : Machine) (dest : Nat) (v : Value) : Move := .go (m.setRegister dest v)

def goTo (m : Machine) (target : Nat) : Machine := { m with now := { m.now with next := target } }

/-- Skips the next instruction. -/
def skip (m : Machine) : Machine := m.goTo (m.now.next + 1)

def operand (m : Machine) : Operand → Value
  | .register r => m.register r
  | .constant v => v

def sourceOfOperand (m : Machine) : Operand → Source
  | .register r => m.sourceOf r
  | .constant _ => none

/-- Where an instruction has a value from that is indexed. -/
inductive Seat where
  | register (r : Nat)
  | outer (u : Nat)

def seated (m : Machine) : Seat → Value
  | .register r => m.register r
  | .outer u => m.outer u

def sourceOfSeat (m : Machine) : Seat → Source
  | .register r => m.sourceOf r
  | .outer u => some (.outer, m.now.code.outerName u)

/-- Whether one more call would be too deep that the program does not see. -/
def isDeepest (m : Machine) : Bool := deepest ≤ m.nesting + 1

/-! ## Fields and items -/

/-- What is under a key of an object of the game. Scripts may not look into errors. -/
def insideObject (m : Machine) (object : Nat) (key : Value) : Except Error (Value × Heap) := do
  match m.heap.objects[object]? with
  | some (.part p) => m.heap.present (← m.heap.itemAt p key)
  | _ =>
    match ← m.heap.item key with
    | .leaf k => throw (.accessDenied k.display)
    | .part p => throw (.accessDenied (m.heap.given (.part p)).display)
    | .held v => throw (.accessDenied (m.heap.typeName v))

/-- The value under a key. Every string has the fields of the table of strings. -/
def index (m : Machine) (dest : Nat) (seat : Seat) (key : Value) : Move :=
  match m.seated seat with
  | .table place => m.result dest ((m.heap.table place).get key)
  | .text _ => m.result dest ((m.heap.table strings).get key)
  | .object place =>
    if m.isDeepest then m.complain .tooNested
    else
      match m.insideObject place key with
      | .ok (v, heap) => { m with heap }.result dest v
      | .error e => m.fail e m.frames
  | v => m.complain (.unfit .index v.kind (m.sourceOfSeat seat))

/-- Changes a list or an object of the state. -/
def setInside (m : Machine) (part : Nat) (key v : Value) : Move :=
  match m.heap.setItem part key v with
  | .error e => m.fail e m.frames
  | .ok heap =>
    match heap.partsOfState with
    | .error e => m.fail e m.frames
    | .ok values => .ask (.replaceState values) fun _ => .go { m with heap }

/-- Puts a value under a key. -/
def setIndex (m : Machine) (seat : Seat) (key v : Value) : Move :=
  match m.seated seat with
  | .table place =>
    match key with
    | .nil => m.complain .nilKey
    | .number (.nan _) => m.complain .nanKey
    | key =>
      let heap := m.heap
      let m := { m with heap := {} }
      .go { m with heap := heap.setTable place key v }
  | .object place =>
    if m.isDeepest then m.complain .tooNested
    else
      match m.heap.objects[place]? with
      | some (.part p) => m.setInside p key v
      | _ =>
        match m.insideObject place key with
        | .ok _ => .go m
        | .error e => m.fail e m.frames
  | object => m.complain (.unfit .index object.kind (m.sourceOfSeat seat))

/-! ## Operators -/

/-- Arithmetic with a string. What goes wrong inside has no place in the program. -/
def arithmeticOnText (m : Machine) (op : Option Arithmetic) (dest : Nat) (a b : Value) : Move :=
  if m.isDeepest then m.complain .tooNested
  else
    match a.number?, b.number? with
    | some x, some y =>
      match op with
      | none => m.result dest (.number x.neg)
      | some op =>
        match Number.compute? op x y with
        | some n => m.result dest (.number n)
        | none =>
          let c : Complaint := if op = .mod then .zeroModulus else .zeroDivisor
          m.raise (.text c.message) m.frames
    | _, _ => m.complain (.notNumeral op a.type b.type)

def arithmetic (m : Machine) (op : Arithmetic) (dest : Nat) (left right : Operand) : Move :=
  let a := m.operand left
  let b := m.operand right
  match a, b with
  | .number x, .number y =>
    match Number.compute? op x y with
    | some n => m.result dest (.number n)
    | none => m.complain (if op = .mod then .zeroModulus else .zeroDivisor)
  | .text _, _ | _, .text _ => m.arithmeticOnText (some op) dest a b
  | .number _, _ => m.complain (.unfit .arithmetic b.kind (m.sourceOfOperand right))
  | _, _ => m.complain (.unfit .arithmetic a.kind (m.sourceOfOperand left))

/-- Compares two numbers or two strings. -/
def order (op : Comparison) (a b : Value) : Except Complaint Bool :=
  match op, a, b with
  | .equal, a, b => .ok (a.same b)
  | .less, .number x, .number y => .ok (x.less y)
  | .lessEqual, .number x, .number y => .ok (x.lessEqual y)
  | .less, .text x, .text y => .ok (decide (x < y))
  | .lessEqual, .text x, .text y => .ok !decide (y < x)
  | _, a, b => .error (.incomparable a.kind b.kind)

/-- Joins values from the last one on. `register` is that of the last of `before`, which are in
reverse; `done` is what has been joined. -/
def joined (m : Machine) (dest : Nat) : Nat → List Value → Value → Move
  | _, [], done => m.result dest done
  | register, v :: before, done =>
    match v.joined?, done.joined? with
    | some x, some y => m.joined dest (register - 1) before (.text (x ++ y))
    | none, _ => m.complain (.unfit .concatenate v.kind (m.sourceOf register))
    | _, none => m.complain (.unfit .concatenate done.kind (m.sourceOf (register + 1)))

def join (m : Machine) (first count : Nat) : Move :=
  match (m.slice (m.now.base + first) count).reverse with
  | [] => .go m
  | last :: before => m.joined first (first + count - 2) before last

def length (m : Machine) (dest source : Nat) : Move :=
  match m.register source with
  | .text bytes => m.result dest (.ofNat bytes.length)
  | .table place =>
    let (n, t) := (m.heap.table place).length
    let heap := { m.heap with tables := m.heap.tables.setIfInBounds place t }
    { m with heap }.result dest (.ofNat n)
  | v => m.complain (.unfit .length v.kind (m.sourceOf source))

def negate (m : Machine) (dest source : Nat) : Move :=
  match m.register source with
  | .number n => m.result dest (.number n.neg)
  | .text bytes => m.arithmeticOnText none dest (.text bytes) (.text bytes)
  | v => m.complain (.unfit .arithmetic v.kind (m.sourceOf source))

/-! ## Loops that count -/

/-- A loop has three registers. -/
def setCounter (m : Machine) (first : Nat) (c : Counter) : Machine :=
  ((m.setRegister first (.number c.bound)).setRegister (first + 1) (.number c.step)).setRegister
    (first + 2) (.number c.value)

def startCount (m : Machine) (first target : Nat) : Move :=
  match Counter.start (m.register first) (m.register (first + 1)) (m.register (first + 2)) with
  | .error c => m.complain c
  | .ok none => .go (m.goTo target)
  | .ok (some c) => .go (m.setCounter first c)

def nextCount (m : Machine) (first target : Nat) : Move :=
  match m.register first, m.register (first + 1), m.register (first + 2) with
  | .number bound, .number step, .number value =>
    match Counter.next? { bound, step, value } with
    | some c => .go ((m.setCounter first c).goTo target)
    | none => .go m
  | _, _, _ => .go m

/-! ## Calls -/

/-- How many values there are from a place on. -/
def countFrom (m : Machine) (place : Nat) : Option Nat → Nat
  | some count => count
  | none => m.top - place

/-- Calls a function in the place of the one that calls it. Anything else is called as always. -/
def tailCall (m : Machine) (function : Nat) (arguments : Option Nat) : Move :=
  let place := m.now.base + function
  let count := m.countFrom (place + 1) arguments
  match m.at_ place with
  | .function c =>
    let closure := m.heap.closures[c]?.getD default
    let size := (m.codes[closure.code]?.getD {}).size
    if room < place + 1 + count + size then m.complain .stackOverflow
    else
      let dest := m.now.base - 1
      let values := m.slice place (count + 1)
      let m := m.close m.now.base
      (m.setSlice dest values).enter closure dest count m.now.wanted m.callers
  | _ => m.call place none m.frames count

def give (m : Machine) (first : Nat) (count : Option Nat) : Move :=
  let place := m.now.base + first
  let values := m.slice place (m.countFrom place count)
  let m := m.close m.now.base
  m.deliver values (m.now.base - 1) m.now.wanted m.callers

/-- The cells of the outer variables of a function that is made. -/
def outerCells (m : Machine) : List Outer → Array Nat → Array Nat × Machine
  | [], cells => (cells, m)
  | o :: rest, cells =>
    if o.own then
      let (cell, m) := m.cellAt (m.now.base + o.place)
      m.outerCells rest (cells.push cell)
    else m.outerCells rest (cells.push (m.now.outers[o.place]?.getD 0))

def closure (m : Machine) (dest function : Nat) : Move :=
  let code := m.codes[function]?.getD {}
  let (outers, m) := m.outerCells code.outers.toList #[]
  let (place, heap) := m.heap.newClosure { code := function, outers }
  { m with heap }.result dest (.function place)

/-- Puts values into a table. -/
def fill (m : Machine) (table offset : Nat) (count : Option Nat) : Move :=
  match m.register table with
  | .table place =>
    let first := m.now.base + table + 1
    let values := m.slice first (m.countFrom first count)
    let tables := m.heap.tables.modify place fun t => t.fill offset values
    .go { m with heap := { m.heap with tables } }
  | _ => .go m

/-! ## Steps -/

/-- Goes on with the jump that follows, or skips it. -/
def branch (m : Machine) (jumps : Bool) : Move := .go (if jumps then m else m.skip)

def execute (m : Machine) : Instruction → Move
  | .move dest source => m.result dest (m.register source)
  | .load dest v => m.result dest v
  | .loadFalse dest => .go (m.setRegister dest (.bool false)).skip
  | .loadNil dest count => .go (m.setSlice (m.now.base + dest) (List.replicate count .nil))
  | .getOuter dest u => m.result dest (m.outer u)
  | .setOuter u source => .go (m.setOuter u (m.register source))
  | .getField dest u key => m.index dest (.outer u) (.text key)
  | .setField u key v => m.setIndex (.outer u) (.text key) (m.operand v)
  | .getIndex dest object key => m.index dest (.register object) (m.operand key)
  | .setIndex object key v => m.setIndex (.register object) (m.operand key) (m.operand v)
  | .newTable dest items nodes =>
    let (place, heap) := m.heap.newTable (Table.sized items nodes)
    { m with heap }.result dest (.table place)
  | .method dest object name =>
    (m.setRegister (dest + 1) (m.register object)).index dest (.register object) (.text name)
  | .arithmetic op dest left right => m.arithmetic op dest left right
  | .negate dest source => m.negate dest source
  | .not dest source => m.result dest (.bool !(m.register source).truthy)
  | .length dest source => m.length dest source
  | .join first count => m.join first count
  | .close first => .go (m.close (m.now.base + first))
  | .jump target => .go (m.goTo target)
  | .compare op left right expected =>
    match order op (m.operand left) (m.operand right) with
    | .ok answer => m.branch (answer = expected)
    | .error c => m.complain c
  | .test source expected => m.branch ((m.register source).truthy = expected)
  | .testMove dest source expected =>
    let v := m.register source
    if v.truthy = expected then m.result dest v else .go m.skip
  | .call function arguments results =>
    let place := m.now.base + function
    m.call place results m.frames (m.countFrom (place + 1) arguments)
  | .tailCall function arguments => m.tailCall function arguments
  | .give first count => m.give first count
  | .startCount first target => m.startCount first target
  | .nextCount first target => m.nextCount first target
  | .fill table count offset => m.fill table offset count
  | .closure dest function => m.closure dest function
  | .rest dest count =>
    .go (m.settle [] (m.now.base + dest) count)

def step (m : Machine) : Move :=
  match m.now.code.instructions[m.now.next]? with
  | some i => { m with now := { m.now with next := m.now.next + 1 } }.execute i
  | none => .finished m []

end Machine

end TextAdventure.Lua
