import TextAdventure.Lua.Draft

/-! Expressions on their way into registers. An expression that has been read is kept in a form that
leaves open where its value goes; an operator or a statement then settles that. Locals are not
copied: an operand that is a local is read by the instruction that uses it. -/

namespace TextAdventure.Lua

/-- What is known of an expression so far. -/
inductive Form where
  | nothing
  | constant (v : Value)
  /-- The value is in a register. -/
  | register (r : Nat)
  | own (register : Nat)
  | outer (outer : Nat)
  /-- A field of the table in an outer variable. -/
  | field (outer : Nat) (key : Bytes)
  | index (object : Nat) (key : Operand)
  /-- A comparison, whose jump is made when it holds. -/
  | jump (place : Nat)
  /-- An instruction that waits for the register of its value. -/
  | open (place : Nat)
  | call (place : Nat)
  | rest (place : Nat)
deriving DecidableEq

/-- An expression, with the jumps that leave it when its value is already known: those made when it
counts as true and those made when it counts as false. -/
structure Term where
  form : Form
  whenTrue : List Nat := []
  whenFalse : List Nat := []
deriving DecidableEq

namespace Term

def jumps (t : Term) : Bool := t.whenTrue ≠ [] || t.whenFalse ≠ []

/-- The number that an expression is. -/
def number? (t : Term) : Option Number :=
  match t.form with
  | .constant (.number n) => if t.jumps then none else some n
  | _ => none

/-- A whole number of a few bits, which instructions can hold; floating point numbers too where
`orFloat` says so. -/
def small? (t : Term) (orFloat : Bool) : Option Value :=
  match t.number? with
  | some (.int n) => if -127 ≤ n ∧ n ≤ 128 then some (.number (.int n)) else none
  | some n =>
    match n.toInt? with
    | some i => if orFloat && -127 ≤ i && i ≤ 128 then some (.number n) else none
    | none => none
  | none => none

/-- Whether an expression may have any number of values. -/
def isMany (t : Term) : Bool :=
  match t.form with
  | .call _ | .rest _ => true
  | _ => false

end Term

namespace Writing

/-! ## Jumps -/

/-- A jump whose target is not known yet. -/
def jump : Writing Nat := emit (.jump 0)

/-- Marks the next instruction as one that something jumps to. -/
def landing : Writing Nat := do
  let place ← size
  edit fun d => { d with landing := place }
  return place

/-- The test that decides about a jump, or the jump itself. -/
def deciderOf (place : Nat) : Writing Nat := do
  if 0 < place && (← instruction (place - 1)).isTest then return place - 1 else return place

/-- Settles where a test leaves its value, if it leaves one. -/
def settleTest (place : Nat) (register : Option Nat) : Writing Bool := do
  let test ← deciderOf place
  match ← instruction test with
  | .testMove _ source expected =>
    match register with
    | some r =>
      if r = source then patch test (.test source expected)
      else patch test (.testMove r source expected)
    | none => patch test (.test source expected)
    return true
  | _ => return false

/-- Directs jumps: those that bring a value along to `withValue`, with the value in `register`, and
the others to `target`. -/
def directWith (jumps : List Nat) (withValue : Nat) (register : Option Nat) (target : Nat) :
    Writing Unit :=
  jumps.forM fun place => do
    let brings ← settleTest place register
    patch place (.jump (if brings then withValue else target))

def direct (jumps : List Nat) (target : Nat) : Writing Unit := directWith jumps target none target

/-- Directs jumps to the next instruction. -/
def directHere (jumps : List Nat) : Writing Unit := do direct jumps (← landing)

/-- Whether one of the jumps brings no value along. -/
def anyWithoutValue (jumps : List Nat) : Writing Bool :=
  jumps.anyM fun place => do
    match ← instruction (← deciderOf place) with
    | .testMove .. => return false
    | _ => return true

/-! ## Values in registers -/

/-- Loads nil into registers. Two such loads side by side become one. -/
def loadNil (first count : Nat) : Writing Unit := do
  match ← previous? with
  | some (.loadNil before many) =>
    if (before ≤ first ∧ first ≤ before + many) ∨ (first ≤ before ∧ before ≤ first + count) then
      let start := min first before
      patch ((← size) - 1) (.loadNil start (max (first + count) (before + many) - start))
    else emit_ (.loadNil first count)
  | _ => emit_ (.loadNil first count)

/-- Takes one value of a call or of the rest of the arguments. -/
def single (t : Term) : Writing Term := do
  match t.form with
  | .call place =>
    match ← instruction place with
    | .call function .. => return { t with form := .register function }
    | _ => return t
  | .rest place =>
    patch place (.rest 0 (some 1))
    return { t with form := .open place }
  | _ => return t

/-- Reads a variable or a field, if an expression is one. -/
def fetch (t : Term) : Writing Term := do
  match t.form with
  | .own r => return { t with form := .register r }
  | .outer u => return { t with form := .open (← emit (.getOuter 0 u)) }
  | .field u key => return { t with form := .open (← emit (.getField 0 u key)) }
  | .index object key =>
    match key with
    | .register k => releaseAll [max object k, min object k]
    | .constant _ => release object
    return { t with form := .open (← emit (.getIndex 0 object key)) }
  | .call _ | .rest _ => single t
  | _ => return t

/-- The instruction with its register filled in. -/
def Instruction.into (register : Nat) : Instruction → Instruction
  | .getOuter _ u => .getOuter register u
  | .getField _ u key => .getField register u key
  | .getIndex _ object key => .getIndex register object key
  | .arithmetic op _ a b => .arithmetic op register a b
  | .negate _ a => .negate register a
  | .not _ a => .not register a
  | .length _ a => .length register a
  | .join _ count => .join register count
  | .closure _ function => .closure register function
  | .rest _ count => .rest register count
  | i => i

/-- Puts the value of an expression into a register, its jumps aside. -/
def settle (t : Term) (register : Nat) : Writing Term := do
  let t ← fetch t
  let done : Term := { t with form := .register register }
  match t.form with
  | .constant .nil =>
    loadNil register 1
    return done
  | .constant v =>
    match v with
    | .text _ => discard (pooled v)
    | _ => pure ()
    emit_ (.load register v)
    return done
  | .open place =>
    patch place (Instruction.into register (← instruction place))
    return done
  | .register r =>
    if r ≠ register then emit_ (.move register r)
    return done
  | _ => return t

/-- Puts the value of an expression into some register, its jumps aside. -/
def settleAnywhere (t : Term) : Writing Term := do
  match t.form with
  | .register _ => return t
  | _ =>
    reserve 1
    settle t ((← draft).free - 1)

/-- Puts the value of an expression into a register. Jumps that bring no value along get one. -/
def place (t : Term) (register : Nat) : Writing Term := do
  let t ← settle t register
  let whenTrue :=
    match t.form with
    | .jump at_ => t.whenTrue ++ [at_]
    | _ => t.whenTrue
  if whenTrue ≠ [] ∨ t.whenFalse ≠ [] then
    let mut falseAt := 0
    let mut trueAt := 0
    if (← anyWithoutValue whenTrue) || (← anyWithoutValue t.whenFalse) then
      let past ←
        match t.form with
        | .jump _ => pure []
        | _ => pure [← jump]
      falseAt ← landing
      emit_ (.loadFalse register)
      trueAt ← landing
      emit_ (.load register (.bool true))
      directHere past
    let final ← landing
    directWith t.whenFalse final (some register) falseAt
    directWith whenTrue final (some register) trueAt
  return { form := .register register }

/-- Frees the register of a value. -/
def releaseTerm (t : Term) : Writing Unit := do
  match t.form with
  | .register r => release r
  | _ => return ()

def releaseTerms (a b : Term) : Writing Unit := do
  match a.form, b.form with
  | .register r, .register s => releaseAll [max r s, min r s]
  | _, _ =>
    releaseTerm a
    releaseTerm b

/-- Puts the value of an expression into the next register. -/
def placeNext (t : Term) : Writing Term := do
  let t ← fetch t
  releaseTerm t
  reserve 1
  place t ((← draft).free - 1)

/-- Puts the value of an expression into a register, unless it is in one already. -/
def placeAnywhere (t : Term) : Writing Term := do
  let t ← fetch t
  match t.form with
  | .register r =>
    if !t.jumps then return t
    else if (← level) ≤ r then place t r
    else placeNext t
  | _ => placeNext t

/-- Gives the register with the value of an expression. -/
def register (t : Term) : Writing (Nat × Term) := do
  let t ← placeAnywhere t
  match t.form with
  | .register r => return (r, t)
  | _ => return (0, t)

/-- Puts the value of an expression into a register, unless it is an outer variable. -/
def placeOrOuter (t : Term) : Writing Term := do
  match t.form with
  | .outer _ => if t.jumps then placeAnywhere t else return t
  | _ => placeAnywhere t

/-- Reads the value of an expression, and settles its jumps. -/
def valueOf (t : Term) : Writing Term := do
  match t.form with
  | .jump _ => placeAnywhere t
  | _ => if t.jumps then placeAnywhere t else fetch t

/-- An operand that is a constant, if the instruction can hold it. -/
def constant? (t : Term) : Writing (Option Value) := do
  match t.form with
  | .constant v =>
    if t.jumps then return none
    else if (← pooled v) ≤ lastConstant then return some v
    else return none
  | _ => return none

/-- An operand: a constant or a register. -/
def operand (t : Term) : Writing (Operand × Term) := do
  match ← constant? t with
  | some v => return (.constant v, t)
  | none =>
    let (r, t) ← register t
    return (.register r, t)

/-! ## Variables -/

/-- Assigns the value of an expression to a variable or a field. -/
def store (target value : Term) : Writing Unit := do
  match target.form with
  | .own r =>
    releaseTerm value
    discard (place value r)
  | .outer u =>
    let (r, value) ← register value
    emit_ (.setOuter u r)
    releaseTerm value
  | .field u key =>
    let (v, value) ← operand value
    emit_ (.setField u key v)
    releaseTerm value
  | .index object key =>
    let (v, value) ← operand value
    emit_ (.setIndex object key v)
    releaseTerm value
  | _ => return ()

/-- Names and other strings of up to this length can be keys in instructions. -/
def longestKey : Nat := 40

/-- A field or an item of an object. The object is in a register or an outer variable. -/
def indexed (object key : Term) : Writing Term := do
  let name? : Option Bytes ←
    match key.form with
    | .constant (.text bytes) =>
      let place ← pooled (.text bytes)
      pure (if !key.jumps ∧ place ≤ lastConstant ∧ bytes.length ≤ longestKey then some bytes
        else none)
    | _ => pure none
  let object ←
    match object.form, name? with
    | .outer _, none => placeAnywhere object
    | _, _ => pure object
  match object.form, name? with
  | .outer u, some name => return { form := .field u name }
  | form, name? =>
    let o :=
      match form with
      | .own r | .register r => r
      | _ => 0
    match name?, key.number? with
    | some name, _ => return { form := .index o (.constant (.text name)) }
    | none, some (.int n) =>
      if 0 ≤ n ∧ n ≤ 255 then
        return { form := .index o (.constant (.number (.int n))) }
      else
        let (k, _) ← register key
        return { form := .index o (.register k) }
    | none, _ =>
      let (k, _) ← register key
      return { form := .index o (.register k) }

/-- A method of an object, with the object after it. -/
def methodOf (object : Term) (name : Bytes) : Writing Term := do
  let (o, object) ← register object
  releaseTerm object
  let base := (← draft).free
  reserve 2
  let isShort := (← pooled (.text name)) ≤ lastConstant && name.length ≤ longestKey
  if isShort then emit_ (.method base o name)
  else
    let (k, key) ← register { form := .constant (.text name) }
    emit_ (.move (base + 1) o)
    emit_ (.getIndex base o (.register k))
    releaseTerm key
  return { form := .register base }

/-! ## Conditions -/

/-- Turns a comparison round. -/
def invert (place : Nat) : Writing Unit := do
  let test ← deciderOf place
  match ← instruction test with
  | .compare op a b expected => patch test (.compare op a b !expected)
  | .test r expected => patch test (.test r !expected)
  | _ => return ()

/-- Jumps if the value of an expression counts as `expected`. -/
def jumpIf (t : Term) (expected : Bool) : Writing Nat := do
  let negated? ←
    match t.form with
    | .open place =>
      match ← instruction place with
      | .not _ source => pure (some source)
      | _ => pure none
    | _ => pure none
  match negated? with
  | some source =>
    dropLast
    emit_ (.test source !expected)
    jump
  | none =>
    let t ← settleAnywhere t
    releaseTerm t
    match t.form with
    | .register r =>
      emit_ (.testMove 0 r expected)
      jump
    | _ => jump

/-- Goes on if an expression counts as true, and jumps otherwise. -/
def goIfTrue (t : Term) : Writing Term := do
  let t ← fetch t
  let jumps ←
    match t.form with
    | .jump place =>
      invert place
      pure [place]
    | .constant v => if v.truthy then pure [] else pure [← jumpIf t false]
    | _ => pure [← jumpIf t false]
  directHere t.whenTrue
  return { t with whenTrue := [], whenFalse := t.whenFalse ++ jumps }

/-- Goes on if an expression counts as false, and jumps otherwise. -/
def goIfFalse (t : Term) : Writing Term := do
  let t ← fetch t
  let jumps ←
    match t.form with
    | .jump place => pure [place]
    | .constant v => if v.truthy then pure [← jumpIf t true] else pure []
    | _ => pure [← jumpIf t true]
  directHere t.whenFalse
  return { t with whenTrue := t.whenTrue ++ jumps, whenFalse := [] }

/-- The negation of an expression. Jumps lose the values that they bring along. -/
def negated (t : Term) : Writing Term := do
  let form ←
    match t.form with
    | .constant v => pure (Form.constant (.bool !v.truthy))
    | .jump place =>
      invert place
      pure t.form
    | _ =>
      let settled ← settleAnywhere t
      releaseTerm settled
      match settled.form with
      | .register r => pure (.open (← emit (.not 0 r)))
      | form => pure form
  (t.whenTrue ++ t.whenFalse).forM fun place => discard (settleTest place none)
  return { form, whenTrue := t.whenFalse, whenFalse := t.whenTrue }

end Writing

end TextAdventure.Lua
