import TextAdventure.Lua.Term

/-! Operators. An operator whose operands are numbers in the source is worked out at once; an
operand that is a number can be part of an instruction, and every other operand is in a register. -/

namespace TextAdventure.Lua

/-- The operators on two operands. -/
inductive Infix where
  | arithmetic (op : Arithmetic)
  | join
  | equal | notEqual | less | lessEqual | greater | greaterEqual
  | and | or
deriving DecidableEq

/-- The operators on one operand. -/
inductive Sign where
  | negate | not | length
deriving DecidableEq

namespace Infix

def ofToken? : Token → Option Infix
  | .mark m =>
    match m with
    | .orWord => some .or
    | .andWord => some .and
    | .less => some .less
    | .lessEqual => some .lessEqual
    | .greater => some .greater
    | .greaterEqual => some .greaterEqual
    | .equal => some .equal
    | .notEqual => some .notEqual
    | .dots => some .join
    | .plus => some (.arithmetic .add)
    | .minus => some (.arithmetic .sub)
    | .star => some (.arithmetic .mul)
    | .slash => some (.arithmetic .div)
    | .slashes => some (.arithmetic .floorDiv)
    | .percent => some (.arithmetic .mod)
    | .caret => some (.arithmetic .pow)
    | _ => none
  | _ => none

/-- How tightly an operator holds on to its left and to its right. -/
def binding : Infix → Nat × Nat
  | or => (1, 1)
  | and => (2, 2)
  | less | lessEqual | greater | greaterEqual | equal | notEqual => (3, 3)
  | join => (9, 8)
  | arithmetic .add | arithmetic .sub => (10, 10)
  | arithmetic .pow => (14, 13)
  | arithmetic _ => (11, 11)

end Infix

namespace Sign

def ofToken? : Token → Option Sign
  | .mark .minus => some .negate
  | .mark .notWord => some .not
  | .mark .hash => some .length
  | _ => none

/-- How tightly an operator on one operand holds on to it. -/
def binding : Nat := 12

end Sign

namespace Writing

/-- The number that an operator on two numbers gives. Nothing is divided by zero in advance, and no
floating point number that is zero or NaN comes out. -/
def fold? (op : Arithmetic) (a b : Number) : Option Number :=
  let divides := op = .div || op = .floorDiv || op = .mod
  if divides && b.same (.int 0) then none
  else
    match Number.compute? op a b with
    | some (.int n) => some (.int n)
    | some (.float x) => if x == 0.0 then none else some (.float x)
    | _ => none

/-- Whether an instruction can hold a whole number of a few bits as its right operand. -/
def holdsSmall (op : Arithmetic) (t : Term) : Bool :=
  (op = .add || op = .sub) && (t.small? false).isSome

/-- An operator of arithmetic. The order of two operands that can be exchanged is kept. -/
def arithmetic (op : Arithmetic) (a b : Term) (line : Nat) : Writing Term := do
  let isTurned := (op = .add || op = .mul) && a.number?.isSome
  let (x, y) := if isTurned then (b, a) else (a, b)
  let held? : Option Value ←
    match y.number? with
    | some n => if holdsSmall op y then pure (some (.number n)) else constant? y
    | none => pure none
  let place ←
    match held? with
    | some v =>
      let (r, x) ← register x
      let place ←
        if isTurned then emit (.arithmetic op 0 (.constant v) (.register r))
        else emit (.arithmetic op 0 (.register r) (.constant v))
      releaseTerm x
      pure place
    | none =>
      let (s, b) ← register b
      let (r, a) ← register a
      let place ← emit (.arithmetic op 0 (.register r) (.register s))
      releaseTerms a b
      pure place
  setLine line
  return { form := .open place }

/-- Joins two strings. A chain of such operators becomes one instruction, at the line of the last
operator. -/
def join (a b : Term) (line : Nat) : Writing Term := do
  let b ← placeNext b
  let first :=
    match a.form with
    | .register r => r
    | _ => 0
  match ← previous? with
  | some (.join _ count) =>
    releaseTerm b
    patch ((← size) - 1) (.join first (count + 1))
  | _ =>
    emit_ (.join first 2)
    releaseTerm b
    setLine line
  return a

/-- A comparison that holds when its answer is the one expected. -/
def compared (op : Comparison) (a b : Operand) (expected : Bool) : Writing Term := do
  emit_ (.compare op a b expected)
  return { form := .jump (← jump) }

def equality (a b : Term) (expected : Bool) : Writing Term := do
  let (a, b) :=
    match a.form with
    | .register _ => (a, b)
    | _ => (b, a)
  let (r, a) ← register a
  let (v, b) ←
    match b.small? true with
    | some v => pure (.constant v, b)
    | none => operand b
  releaseTerms a b
  compared .equal (.register r) v expected

def order (op : Comparison) (a b : Term) : Writing Term := do
  match b.small? true, a.small? true with
  | some v, _ =>
    let (r, a) ← register a
    releaseTerm a
    compared op (.register r) (.constant v) true
  | none, some v =>
    let (r, b) ← register b
    releaseTerm b
    compared op (.constant v) (.register r) true
  | none, none =>
    let (r, a) ← register a
    let (s, b) ← register b
    releaseTerms a b
    compared op (.register r) (.register s) true

/-- Settles the left operand before the right one is read. -/
def leftOf (op : Infix) (t : Term) : Writing Term := do
  let t ← fetch t
  match op with
  | .and => goIfTrue t
  | .or => goIfFalse t
  | .join => placeNext t
  | .arithmetic _ => if t.number?.isSome then return t else placeAnywhere t
  | .equal | .notEqual => if t.number?.isSome then return t else return (← operand t).2
  | _ => if (t.small? true).isSome then return t else placeAnywhere t

/-- The value of an operator on two operands. -/
def infixed (op : Infix) (a b : Term) (line : Nat) : Writing Term := do
  let b ← fetch b
  match op with
  | .and => return { b with whenFalse := b.whenFalse ++ a.whenFalse }
  | .or => return { b with whenTrue := b.whenTrue ++ a.whenTrue }
  | .join => join a b line
  | .arithmetic op =>
    match a.number?, b.number? with
    | some x, some y =>
      match fold? op x y with
      | some n => return { form := .constant (.number n) }
      | none => arithmetic op a b line
    | _, _ => arithmetic op a b line
  | .equal => equality a b true
  | .notEqual => equality a b false
  | .less => order .less a b
  | .lessEqual => order .lessEqual a b
  | .greater => order .less b a
  | .greaterEqual => order .lessEqual b a

/-- The value of an operator on one operand. -/
def signed (op : Sign) (t : Term) (line : Nat) : Writing Term := do
  let t ← fetch t
  let unary (build : Nat → Instruction) : Writing Term := do
    let (r, t) ← register t
    releaseTerm t
    let place ← emit (build r)
    setLine line
    return { form := .open place }
  match op with
  | .not => negated t
  | .length => unary (.length 0)
  | .negate =>
    match t.number? with
    | some n =>
      if n.neg.same (.int 0) && n ≠ .int 0 then unary (.negate 0)
      else return { form := .constant (.number n.neg) }
    | none => unary (.negate 0)

end Writing

end TextAdventure.Lua
