import TextAdventure.Lua.Value

/-! Loops that count, over integers or over floating point numbers. -/

namespace TextAdventure.Lua

/-- A loop that counts: its number for this round and the step to the next one. A loop over integers
knows in `bound` how many rounds are left, one over floating point numbers where it ends. -/
structure Counter where
  bound : Number
  step : Number
  value : Number
deriving DecidableEq

namespace Counter

/-- The last integer that a loop may reach, given its bound; none where the loop is over before it
starts. -/
def lastInt? (first step : Int64) (bound : Number) : Option Int64 :=
  let beyond (isAbove : Bool) : Option Int64 :=
    if isAbove then if 0 < step then some Int64.maxValue else none
    else if 0 < step then none
    else some Int64.minValue
  let last? : Option Int64 :=
    match bound with
    | .int n => some n
    | .nan _ => beyond false
    | .float x =>
      let rounded? :=
        if 0 < step then Number.floor? x else (Number.floor? (-x)).map fun n => -n
      match rounded?.bind Number.fit? with
      | some n => some n
      | none => beyond (0.0 < x)
  last?.bind fun last =>
    if 0 < step then if first ≤ last then some last else none
    else if last ≤ first then some last
    else none

/-- The counter of a loop; none where the loop does not start. -/
def start (first last step : Value) : Except Complaint (Option Counter) :=
  let number (part : String) (v : Value) : Except Complaint Number :=
    match v.number? with
    | some n => .ok n
    | none => .error (.notNumber part v.kind)
  match first, step with
  | .number (.int first), .number (.int step) => do
    if step = 0 then throw .zeroStep
    let bound ← number "limit" last
    return (lastInt? first step bound).map fun last =>
      let rounds := (last.toInt - first.toInt).natAbs / step.toInt.natAbs
      { bound := .int (Int64.ofNat rounds), step := .int step, value := .int first }
  | first, step => do
    let last := (← number "limit" last).asFloat
    let step := (← number "step" step).asFloat
    let first := (← number "initial value" first).asFloat
    let zero : Number := .float 0.0
    if step.same zero then throw .zeroStep
    return if if zero.less step then last.less first else first.less last then none
      else some { bound := last, step, value := first }

/-- The counter for the next round, if there is one. -/
def next? (c : Counter) : Option Counter :=
  match c.bound, c.step, c.value with
  | .int left, .int step, .int value =>
    if left = 0 then none
    else some { c with bound := .int (left - 1), value := .int (value + step) }
  | bound, step, value =>
    let value := Number.lift (· + ·) value step
    let zero : Number := .float 0.0
    if if zero.less step then value.lessEqual bound else bound.lessEqual value then
      some { c with value }
    else none

end Counter

end TextAdventure.Lua
