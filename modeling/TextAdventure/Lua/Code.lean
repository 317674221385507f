import TextAdventure.Lua.Value

/-! The code that programs are made into. A function works on registers, which are its part of a
stack: its locals come first, in the order in which they were declared, then the values that it is
about to use. -/

namespace TextAdventure.Lua

/-- What an instruction takes a value from. -/
inductive Operand where
  | register (r : Nat)
  | constant (v : Value)
deriving DecidableEq

inductive Comparison where
  | equal | less | lessEqual
deriving DecidableEq

/-- An instruction. Registers are counted from the first one of the function, outer variables in
the order in which the function first names them. A count that is missing stands for as many values
as there are. -/
inductive Instruction where
  | move (dest source : Nat)
  | load (dest : Nat) (v : Value)
  /-- Loads false, and skips the next instruction. -/
  | loadFalse (dest : Nat)
  /-- Loads nil into `count` registers. -/
  | loadNil (dest count : Nat)
  | getOuter (dest outer : Nat)
  | setOuter (outer source : Nat)
  /-- A field of the table in an outer variable. -/
  | getField (dest outer : Nat) (key : Bytes)
  | setField (outer : Nat) (key : Bytes) (v : Operand)
  | getIndex (dest object : Nat) (key : Operand)
  | setIndex (object : Nat) (key v : Operand)
  /-- Makes a table with room for a number of items and of other keys. -/
  | newTable (dest items nodes : Nat)
  /-- Loads a method of an object, and the object after it. -/
  | method (dest object : Nat) (name : Bytes)
  | arithmetic (op : Arithmetic) (dest : Nat) (left right : Operand)
  | negate (dest source : Nat)
  | not (dest source : Nat)
  | length (dest source : Nat)
  /-- Joins the values of `count` registers into the first of them. -/
  | join (first count : Nat)
  /-- Takes the variables from a register on out of the stack, for the functions that use them. -/
  | close (first : Nat)
  | jump (target : Nat)
  /-- Makes the jump that follows if the answer is the one expected, and skips it otherwise. -/
  | compare (op : Comparison) (left right : Operand) (expected : Bool)
  /-- Makes the jump that follows if a value counts as expected, and skips it otherwise. -/
  | test (source : Nat) (expected : Bool)
  /-- Like `test`; the value is moved when the jump is made. -/
  | testMove (dest source : Nat) (expected : Bool)
  /-- Calls a function, whose arguments follow it, and puts its results in its place. -/
  | call (function : Nat) (arguments results : Option Nat)
  /-- Calls a function in the place of the one that calls it. -/
  | tailCall (function : Nat) (arguments : Option Nat)
  | give (first : Nat) (count : Option Nat)
  /-- Starts a loop that counts, or goes on after it. -/
  | startCount (first target : Nat)
  /-- Starts the next round of such a loop. -/
  | nextCount (first target : Nat)
  /-- Puts the values after a table into its places after `offset`. -/
  | fill (table : Nat) (count : Option Nat) (offset : Nat)
  | closure (dest function : Nat)
  /-- Loads the arguments that have no parameters. -/
  | rest (dest : Nat) (count : Option Nat)
deriving DecidableEq, Inhabited

namespace Instruction

/-- Whether an instruction decides if the jump after it is made. -/
def isTest : Instruction → Bool
  | compare .. | test .. | testMove .. => true
  | _ => false

/-- The register that an instruction is known to set. -/
def sets? : Instruction → Option Nat
  | move dest _ | load dest _ | loadFalse dest | getOuter dest _ | getField dest _ _
  | getIndex dest _ _ | newTable dest _ _ | method dest _ _ | arithmetic _ dest _ _ | negate dest _
  | not dest _ | length dest _ | join dest _ | testMove dest _ _ | startCount dest _
  | nextCount dest _ | closure dest _ | rest dest _ =>
    some dest
  | _ => none

end Instruction

/-- A local of a function, and between which instructions it can be seen. -/
structure Scope where
  name : Bytes
  first : Nat
  stop : Nat
deriving DecidableEq

/-- An outer variable of a function: a register of the function around it, or an outer variable of
that function. -/
structure Outer where
  name : Bytes
  own : Bool
  place : Nat
deriving DecidableEq

/-- A function as it is written; `size` is how many registers it needs. -/
structure Code where
  instructions : Array Instruction := #[]
  lines : Array Nat := #[]
  scopes : Array Scope := #[]
  outers : Array Outer := #[]
  parameters : Nat := 0
  takesRest : Bool := false
  size : Nat := 2
deriving Inhabited

namespace Code

/-- The line that an instruction belongs to. -/
def line (c : Code) (at_ : Nat) : Nat := c.lines[at_]?.getD 0

/-- The name of the local in a register at an instruction. -/
def local? (c : Code) (at_ register : Nat) : Option Bytes :=
  let seen := c.scopes.toList.filter fun s => s.first ≤ at_ ∧ at_ < s.stop
  (seen[register]?).map (·.name)

def outerName (c : Code) (outer : Nat) : Bytes := (c.outers[outer]?.map (·.name)).getD "?"

/-- Whether an instruction may set a register. A call sets all registers from its function on. -/
def changes (register : Nat) : Instruction → Bool
  | .loadNil dest count => dest ≤ register && register < dest + count
  | .call function _ _ | .tailCall function _ => function ≤ register
  | i => i.sets? = some register

/-- The last instruction before `at_` that set a register. Instructions that a jump may have skipped
count for nothing: `seen` are those looked at, `target` is the farthest that one of them jumps
without passing `at_`. -/
def setterFrom (register at_ : Nat) : List Instruction → Nat → Nat → Option Nat → Option Nat
  | [], _, _, setter => setter
  | i :: rest, seen, target, setter =>
    if at_ ≤ seen then setter
    else
      match i with
      | .jump dest =>
        let target := if dest ≤ at_ ∧ target < dest then dest else target
        setterFrom register at_ rest (seen + 1) target setter
      | i =>
        let setter :=
          if changes register i then if seen < target then none else some seen else setter
        setterFrom register at_ rest (seen + 1) target setter

def setter? (c : Code) (at_ register : Nat) : Option Nat :=
  setterFrom register at_ c.instructions.toList 0 0 none

/-- Whether the table of a field is the one that holds the globals. -/
def fieldOrigin (table : Option Bytes) : Origin :=
  if table = some ("_ENV" : Bytes) then .global else .field

/-- What is known of a register from locals, outer variables and constants; `fuel` bounds the moves
that are followed. The instruction that it is known from is given, too. -/
def plainSource (c : Code) : Nat → Nat → Nat → Source × Option Nat
  | 0, _, _ => (none, none)
  | fuel + 1, at_, register =>
    match c.local? at_ register with
    | some name => (some (.own, name), none)
    | none =>
      match c.setter? at_ register with
      | none => (none, none)
      | some setter =>
        match c.instructions[setter]? with
        | some (.move dest source) =>
          if source < dest then c.plainSource fuel setter source else (none, some setter)
        | some (.getOuter _ outer) => (some (.outer, c.outerName outer), some setter)
        | some (.load _ (.text bytes)) => (some (.constant, bytes), some setter)
        | _ => (none, some setter)

/-- Where the value in a register is from, as seen at an instruction. -/
def source (c : Code) (at_ register : Nat) : Source :=
  match c.plainSource 256 at_ register with
  | (some found, _) => some found
  | (none, none) => none
  | (none, some setter) =>
    let table (r : Nat) : Option Bytes :=
      match (c.plainSource 256 setter r).1 with
      | some (.own, name) | some (.outer, name) => some name
      | _ => none
    match c.instructions[setter]? with
    | some (.getField _ outer key) => some (fieldOrigin (some (c.outerName outer)), key)
    | some (.getIndex _ object (.constant (.text key))) => some (fieldOrigin (table object), key)
    | some (.getIndex _ _ (.constant _)) => some (.field, "integer index")
    | some (.getIndex _ object (.register key)) =>
      let name :=
        match (c.plainSource 256 setter key).1 with
        | some (.constant, name) => name
        | _ => "?"
      some (fieldOrigin (table object), name)
    | some (.method _ _ name) => some (.method, name)
    | _ => none

end Code

end TextAdventure.Lua
