import TextAdventure.Lua.Number

/-! The values of Lua, and what is said when an operation does not fit them. -/

namespace TextAdventure.Lua

/-- The functions of the language that are not written in it. -/
inductive Builtin where
  | tostring | type | pcall | error
deriving DecidableEq

def Builtin.name : Builtin → Bytes
  | .tostring => "tostring"
  | .type => "type"
  | .pcall => "pcall"
  | .error => "error"

/-- A value. Tables, functions and objects of the game are known by where they are kept. -/
inductive Value where
  | nil
  | bool (b : Bool)
  | number (n : Number)
  | text (bytes : Bytes)
  | table (place : Nat)
  | function (place : Nat)
  | builtin (f : Builtin)
  | object (place : Nat)
deriving DecidableEq

namespace Value

def ofNat (n : Nat) : Value := number (.int (Int64.ofInt n))

/-- Nil and false count as false. -/
def truthy : Value → Bool
  | nil | bool false => false
  | _ => true

/-- Whether two values are equal. -/
def same : Value → Value → Bool
  | number a, number b => a.same b
  | a, b => decide (a = b)

def type : Value → String
  | nil => "nil"
  | bool _ => "boolean"
  | number _ => "number"
  | text _ => "string"
  | table _ => "table"
  | function _ | builtin _ => "function"
  | object _ => "userdata"

/-- What complaints call the type of a value. -/
def kind : Value → String
  | object _ => "POBJECT"
  | v => v.type

/-- The number that a value is, or that a string spells. -/
def number? : Value → Option Number
  | number n => some n
  | text bytes => Number.read? bytes
  | _ => none

/-- The bytes that a value adds to a string. -/
def joined? : Value → Option Bytes
  | number n => some n.text
  | text bytes => some bytes
  | _ => none

end Value

/-- Where the program has a value from, as far as that has a name. -/
inductive Origin where
  | own | outer | global | field | method | constant
deriving DecidableEq

def Origin.word : Origin → String
  | own => "local"
  | outer => "upvalue"
  | global => "global"
  | field => "field"
  | method => "method"
  | constant => "constant"

abbrev Source := Option (Origin × Bytes)

/-- What cannot be done with every value. -/
inductive Action where
  | index | call | concatenate | length | arithmetic
deriving DecidableEq

def Action.words : Action → String
  | index => "index"
  | call => "call"
  | concatenate => "concatenate"
  | length => "get length of"
  | arithmetic => "perform arithmetic on"

/-- The operators on numbers that strings take part in; none is the sign. -/
def Arithmetic.word : Option Arithmetic → String
  | some .add => "add"
  | some .sub => "sub"
  | some .mul => "mul"
  | some .div => "div"
  | some .floorDiv => "idiv"
  | some .mod => "mod"
  | some .pow => "pow"
  | none => "unm"

/-- Why a program cannot go on. -/
inductive Complaint where
  | unfit (action : Action) (kind : String) (source : Source)
  /-- An operand of arithmetic is a string, and one of the two spells no number. -/
  | notNumeral (op : Option Arithmetic) (left right : String)
  | incomparable (left right : String)
  | zeroDivisor
  | zeroModulus
  | zeroStep
  | notNumber (part kind : String)
  | nilKey
  | nanKey
  | badArgument (position : Nat) (function : Bytes) (problem : String)
  | badReceiver (function : Bytes) (problem : String)
  | stackOverflow
  /-- Protected calls are nested too deeply. -/
  | tooNested
deriving DecidableEq

/-- Messages show a name up to its first zero byte. -/
def shownName (name : Bytes) : Bytes := name.takeWhile (· != 0)

def Complaint.message : Complaint → Bytes
  | unfit action kind source =>
    "attempt to " ++ (action.words : Bytes) ++ " a " ++ kind ++ " value" ++
      match source with
      | some (origin, name) => " (" ++ (origin.word : Bytes) ++ " '" ++ shownName name ++ "')"
      | none => []
  | notNumeral op left right =>
    "attempt to " ++ (Arithmetic.word op : Bytes) ++ " a '" ++ left ++ "' with a '" ++ right ++ "'"
  | incomparable left right =>
    if left = right then "attempt to compare two " ++ (left : Bytes) ++ " values"
    else "attempt to compare " ++ (left : Bytes) ++ " with " ++ right
  | zeroDivisor => "attempt to divide by zero"
  | zeroModulus => "attempt to perform 'n%0'"
  | zeroStep => "'for' step is zero"
  | notNumber part kind =>
    "bad 'for' " ++ (part : Bytes) ++ " (number expected, got " ++ kind ++ ")"
  | nilKey => "table index is nil"
  | nanKey => "table index is NaN"
  | badArgument position function problem =>
    "bad argument #" ++ Bytes.ofAscii (Text.ofNat position) ++ " to '" ++ shownName function ++
      "' (" ++ problem ++ ")"
  | badReceiver function problem =>
    "calling '" ++ shownName function ++ "' on bad self (" ++ problem ++ ")"
  | stackOverflow => "stack overflow"
  | tooNested => "C stack overflow"

end TextAdventure.Lua
