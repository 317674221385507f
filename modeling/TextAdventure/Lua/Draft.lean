import TextAdventure.Lua.Code
import TextAdventure.Lua.Token

/-! Functions while they are written, and what the reader of a program can do to them and to the
tokens ahead of it. -/

namespace TextAdventure.Lua

/-- Why source is no program. -/
inductive SyntaxFault where
  | lexical (fault : LexicalFault)
  | unexpected
  | expected (what : Mark)
  /-- What `opener` opened in a line further up is not closed. -/
  | unclosed (what opener : Mark) (line : Nat)
  | endExpected
  | nameExpected
  | parameterExpected
  | argumentsExpected
  | countExpected
  | noStatement
  | noLoop
  | noRest
  | constantTarget (name : Bytes)
  /-- There is more of something than a function, which is known by its first line, may have. -/
  | tooMany (what : String) (limit : Nat) (line : Nat)
  | tooDeep
deriving DecidableEq

def SyntaxFault.message : SyntaxFault → Bytes
  | lexical fault => fault.message
  | unexpected => "unexpected symbol"
  | expected what => Lexeme.cite what.spelling ++ " expected"
  | unclosed what opener line =>
    Lexeme.cite what.spelling ++ " expected (to close " ++ Lexeme.cite opener.spelling ++
      " at line " ++ Bytes.ofAscii (Text.ofNat line) ++ ")"
  | endExpected => "<eof> expected"
  | nameExpected => "<name> expected"
  | parameterExpected => "<name> or '...' expected"
  | argumentsExpected => "function arguments expected"
  | countExpected => "'=' or 'in' expected"
  | noStatement => "syntax error"
  | noLoop => "break outside loop"
  | noRest => "cannot use '...' outside a vararg function"
  | constantTarget name => "attempt to assign to const variable '" ++ shownName name ++ "'"
  | tooMany what limit line =>
    "too many " ++ (what : Bytes) ++ " (limit is " ++ Bytes.ofAscii (Text.ofNat limit) ++ ") in " ++
      if line = 0 then ("main function" : Bytes)
      else "function at line " ++ Bytes.ofAscii (Text.ofNat line)
  | tooDeep => "C stack overflow"

/-- A refusal of source, with its line and the token where it was refused, if they matter. -/
structure Refusal where
  fault : SyntaxFault
  line : Option Nat
  near : Option Bytes
deriving DecidableEq

def Refusal.message (r : Refusal) : Bytes :=
  r.fault.message ++
    match r.near with
    | some shown => " near " ++ shown
    | none => []

/-- A local in sight, with the place of its scope. The locals of a function have its first
registers, in the order in which they were declared. -/
structure Local where
  name : Bytes
  isConstant : Bool
  scope : Nat

/-- A jump out of a loop, from where `level` locals are in sight. `closes` says that some of the
locals that it leaves are used by functions. -/
structure Departure where
  place : Nat
  level : Nat
  closes : Bool

/-- A block, around which `level` locals are in sight. `captured` says that functions use some of
its own locals. -/
structure Block where
  isLoop : Bool
  level : Nat
  captured : Bool := false
  departures : List Departure := []

/-- A function that is being written. `free` is its first free register, `landing` the last place
that something jumps to, and `pool` holds its constants. -/
structure Draft where
  firstLine : Nat
  code : Code := {}
  locals : List Local := []
  blocks : List Block := []
  free : Nat := 0
  landing : Nat := 0
  pool : Array Value := #[]

/-- The reader of a program stands at a token; `last` is the line of the token before. `peeked` says
that it has looked at the next token already. It writes functions, the innermost first; `codes` are
those that it has finished. `depth` counts the constructs around the token. -/
structure Writer where
  here : Lexeme
  ahead : List Lexeme
  peeked : Bool := false
  last : Nat := 1
  depth : Nat := 0
  drafts : List Draft := []
  codes : Array Code

abbrev Writing (α : Type) := StateT Writer (Except Refusal) α

namespace Writing

/-! ## Tokens -/

/-- The line that the reader has come to. -/
def line : Writing Nat := do
  let w ← get
  return if w.peeked then (w.ahead.head?.getD w.here).line else w.here.line

/-- Refuses a token. -/
def refuseAt {α : Type} (fault : SyntaxFault) (token : Lexeme) : Writing α := do
  let near := if token.shown = [] then none else some token.shown
  throw { fault, line := some (← line), near }

/-- Refuses the token that the reader stands at. -/
def refuse {α : Type} (fault : SyntaxFault) : Writing α := do refuseAt fault (← get).here

/-- A token that is a fault is refused as soon as the reader sees it. -/
def check (token : Lexeme) : Writing Unit :=
  match token.token with
  | .fault f => refuseAt (.lexical f) token
  | _ => return ()

def advance : Writing Unit := do
  let last ← line
  modify fun w =>
    match w.ahead with
    | next :: ahead => { w with here := next, ahead, last, peeked := false }
    | [] => { w with last }
  check (← get).here

/-- Looks at the token after the one that the reader stands at. -/
def peek : Writing Token := do
  modify fun w => { w with peeked := true }
  match (← get).ahead with
  | next :: _ =>
    check next
    return next.token
  | [] => return .eof

def at? (m : Mark) : Writing Bool := return (← get).here.token = .mark m

/-- Passes a mark, if the reader stands at it. -/
def accept (m : Mark) : Writing Bool := do
  if ← at? m then
    advance
    return true
  else return false

def require (m : Mark) : Writing Unit := do
  if !(← accept m) then refuse (.expected m)

/-- Passes the mark that closes what `opener` opened at a line. -/
def close (m opener : Mark) (first : Nat) : Writing Unit := do
  if !(← accept m) then
    if (← line) = first then refuse (.expected m) else refuse (.unclosed m opener first)

def name : Writing Bytes := do
  match (← get).here.token with
  | .name n =>
    advance
    return n
  | _ => refuse .nameExpected

/-- Constructs can be nested this deeply. -/
def deepest : Nat := 200

/-- Reads a construct inside others. -/
def nested {α : Type} (reading : Writing α) : Writing α := do
  let depth := (← get).depth + 1
  if deepest ≤ depth then throw { fault := .tooDeep, line := none, near := none }
  modify fun w => { w with depth }
  let a ← reading
  modify fun w => { w with depth := depth - 1 }
  return a

/-! ## The function that is written -/

/-- The innermost function. -/
def draft : Writing Draft := do
  match (← get).drafts with
  | d :: _ => return d
  | [] => return { firstLine := 0 }

/-- Does something with the innermost function. -/
def edit (f : Draft → Draft) : Writing Unit := modify fun w =>
  match w.drafts with
  | d :: outer => { w with drafts := f d :: outer }
  | [] => w

/-- Refuses what a function has too much of. -/
def limit (what : String) (most count : Nat) : Writing Unit := do
  if most < count then refuse (.tooMany what most (← draft).firstLine)

/-- The number of instructions so far. -/
def size : Writing Nat := return (← draft).code.instructions.size

/-- Writes an instruction, and says where. -/
def emit (i : Instruction) : Writing Nat := do
  let line := (← get).last
  let place ← size
  edit fun d =>
    { d with
      code :=
        { d.code with
          instructions := d.code.instructions.push i
          lines := d.code.lines.push line } }
  return place

def emit_ (i : Instruction) : Writing Unit := discard (emit i)

/-- Says what line the last instruction belongs to. -/
def setLine (line : Nat) : Writing Unit :=
  edit fun d =>
    { d with code :=
        { d.code with lines := d.code.lines.setIfInBounds (d.code.lines.size - 1) line } }

def instruction (place : Nat) : Writing Instruction :=
  return (← draft).code.instructions[place]?.getD default

def patch (place : Nat) (i : Instruction) : Writing Unit :=
  edit fun d =>
    { d with code := { d.code with instructions := d.code.instructions.setIfInBounds place i } }

def dropLast : Writing Unit :=
  edit fun d =>
    { d with
      code :=
        { d.code with
          instructions := d.code.instructions.pop
          lines := d.code.lines.pop } }

/-- The last instruction, unless something jumps behind it. -/
def previous? : Writing (Option Instruction) := do
  let d ← draft
  return if d.landing < d.code.instructions.size then d.code.instructions.back? else none

/-! ## Registers and constants -/

/-- Makes sure that a function has `count` registers more than are in use. -/
def needRegisters (count : Nat) : Writing Unit := do
  let d ← draft
  let size := d.free + count
  if d.code.size < size then
    limit "registers" 255 size
    edit fun d => { d with code := { d.code with size } }

/-- Takes registers into use. -/
def reserve (count : Nat) : Writing Unit := do
  needRegisters count
  edit fun d => { d with free := d.free + count }

/-- The number of registers that locals have. -/
def level : Writing Nat := return (← draft).locals.length

/-- Frees a register that is not a local's. -/
def release (register : Nat) : Writing Unit := do
  if (← level) ≤ register then edit fun d => { d with free := d.free - 1 }

def releaseAll (registers : List Nat) : Writing Unit := registers.forM release

/-- The place of a constant among the constants of a function. -/
def pooled (v : Value) : Writing Nat := do
  match (← draft).pool.idxOf? v with
  | some place => return place
  | none =>
    edit fun d => { d with pool := d.pool.push v }
    return (← draft).pool.size - 1

/-- Instructions can hold constants up to this place. -/
def lastConstant : Nat := 255

/-! ## Locals and blocks -/

/-- Refuses locals beyond those that a function may have. -/
def limitLocals (more : Nat) : Writing Unit := do limit "local variables" 200 ((← level) + more)

/-- The name of a new local, when `before` others wait to be brought into sight. -/
def newName (before : Nat) : Writing Bytes := do
  let n ← name
  limitLocals (before + 1)
  return n

/-- Brings locals into sight. -/
def declare (names : List Bytes) (isConstant : Bool := false) : Writing Unit :=
  names.forM fun name =>
    edit fun d =>
      let scope : Scope := ⟨name, d.code.instructions.size, 0⟩
      { d with
        locals := ⟨name, isConstant, d.code.scopes.size⟩ :: d.locals
        code := { d.code with scopes := d.code.scopes.push scope } }

/-- Takes locals out of sight until `level` are left. -/
def hide (level : Nat) : Writing Unit :=
  edit fun d =>
    let gone := d.locals.take (d.locals.length - level)
    let stop := d.code.instructions.size
    { d with
      locals := d.locals.drop (d.locals.length - level)
      code :=
        { d.code with
          scopes := gone.foldl
            (fun scopes l => scopes.modify l.scope fun s => { s with stop }) d.code.scopes } }

def openBlock (isLoop : Bool) : Writing Unit :=
  edit fun d => { d with blocks := { isLoop, level := d.locals.length } :: d.blocks }

end Writing

end TextAdventure.Lua
