import TextAdventure.Lua.Machine

/-! Calls. A function that is called starts at its first instruction; everything else that can be
called is done at once, perhaps with an answer from the game. -/

namespace TextAdventure.Lua

namespace Machine

/-! ## Functions of the language -/

/-- The name of the value that the innermost function calls. -/
def calledSource (place : Nat) : List Frame → Source
  | .running a :: _ => a.code.source (a.next - 1) (place - a.base)
  | _ => none

/-- The global that a function of the language is known by. -/
def globalName (m : Machine) (b : Builtin) : Bytes :=
  let t := m.heap.table globals
  let name? (n : Node) : Option Bytes :=
    match n.key with
    | .text name => if n.value = .builtin b then some name else none
    | _ => none
  if t.get (.text b.name) = .builtin b then b.name else (t.nodes.toList.findSome? name?).getD "?"

/-- A complaint about an argument. The object of a method is not counted among its arguments. -/
def badArgument (m : Machine) (frames : List Frame) (place : Nat) (b : Builtin) (argument : Nat)
    (problem : String) : Move :=
  m.complainIn frames <|
    match calledSource place frames with
    | some (.method, name) =>
      if argument = 1 then .badReceiver name problem
      else .badArgument (argument - 1) name problem
    | some (_, name) => .badArgument argument name problem
    | none => .badArgument argument (m.globalName b) problem

/-- Raises the first argument of `error`. A string says where it was raised: in the function that
called `error`, in the one that called that, and so on; at level zero it does not. -/
def raiseArgument (m : Machine) (frames : List Frame) (place : Nat) (arguments : List Value) :
    Move :=
  let level : Except String Int64 :=
    match arguments.tail.headD .nil with
    | .nil => .ok 1
    | v =>
      match v.number? with
      | some n =>
        match n.toInt? with
        | some level => .ok level
        | none => .error "number has no integer representation"
      | none => .error ("number expected, got " ++ v.kind)
  match level with
  | .error problem => m.badArgument frames place .error 2 problem
  | .ok level =>
    let level := level.toInt.bmod 0x100000000
    match arguments.headD .nil with
    | .nil => m.raise (.text "<no error object>") frames
    | .text bytes =>
      let before := if 0 < level then position (frames.drop (level.toNat - 1)) else []
      m.raise (.text (before ++ bytes)) frames
    | v => m.raise v frames

/-- Calls a function of the language. -/
def callBuiltin (m : Machine) (b : Builtin) (place count : Nat) (wanted : Option Nat)
    (frames : List Frame) : Move :=
  let arguments := m.slice (place + 1) count
  let give (v : Value) : Move := m.deliver [v] place wanted frames
  match b, arguments with
  | .error, _ => m.raiseArgument frames place arguments
  | b, [] => m.badArgument frames place b 1 "value expected"
  | .type, v :: _ => give (.text v.type)
  | _, v :: _ =>
    match v with
    | .object _ =>
      if deepest ≤ m.nesting + 1 then m.raise (.text Complaint.tooNested.message) frames
      else
        match m.heap.written v with
        | .ok bytes => give (.text bytes)
        | .error e => m.fail e frames
    | v => give (.text ((m.heap.written v).toOption.getD []))

/-! ## Services of the game -/

/-- The name of a service, and what its argument is called. -/
def serviceNames : Service → String × String
  | .emit => ("ScriptContext.emit", "text")
  | .emitCopy => ("ScriptContext.emit_copy", "key")
  | .getState => ("ScriptContext.get_state", "key")
  | .setState => ("ScriptContext.set_state", "value")
  | .lookUp => ("ScriptContext.lookup_copy", "key")

/-- The value under a key of the state. A list or an object is known from then on. -/
def receive (m : Machine) (key : Json) (place : Nat) (wanted : Option Nat)
    (frames : List Frame) : Move :=
  let give (item : Item) (heap : Heap) : Move :=
    match heap.present item with
    | .ok (v, heap) => { m with heap }.deliver [v] place wanted frames
    | .error e => m.fail e frames
  let known? : Option Item :=
    match key with
    | .text k => (m.heap.known.find? fun e => e.1 = k).map (·.2)
    | _ => none
  match known? with
  | some item => give item m.heap
  | none =>
    .ask (.getState key) fun reply =>
      match reply with
      | .error e => m.fail e frames
      | .ok v =>
        match key, m.heap.keep v with
        | .text k, (.part p, heap) =>
          give (.part p) { heap with known := heap.known ++ [(k, .part p)] }
        | _, (item, heap) => give item heap

/-- Puts a value under a key of the state. The sign of a NaN is only known here. -/
def put (m : Machine) (key : Json) (v : Item) (place : Nat) (wanted : Option Nat)
    (frames : List Frame) : Move :=
  let value : Json :=
    match v with
    | .held (.number n) => .float n.toFloat
    | .held _ => .list []
    | v => m.heap.given v
  .ask (.setState key value) fun reply =>
    match reply with
    | .error e => m.fail e frames
    | .ok () =>
      let others := m.heap.known.filter fun e => key ≠ .text e.1
      let known :=
        match key, v with
        | .text k, .held n => others ++ [(k, .held n)]
        | _, _ => others
      { m with heap := { m.heap with known } }.deliver [.nil] place wanted frames

/-- Asks the game for a service. -/
def serve (m : Machine) (s : Service) (arguments : List Item) (place : Nat) (wanted : Option Nat)
    (frames : List Frame) : Move :=
  let done (reply : Except Error Unit) : Move :=
    match reply with
    | .error e => m.fail e frames
    | .ok () => m.deliver [.nil] place wanted frames
  let names := serviceNames s
  match s, arguments with
  | .setState, [key, v] => m.put (m.heap.given key) v place wanted frames
  | _, [] => m.fail (.missingArgument names.1 names.2) frames
  | .emit, [.held (.number n)] => .ask (.emit (.float n.toFloat)) done
  | .emit, [.held v] => m.fail (.emittedNotText (m.heap.typeName v)) frames
  | .emit, [text] => .ask (.emit (m.heap.given text)) done
  | .emitCopy, [key] => .ask (.emitCopy (m.heap.given key)) done
  | .getState, [key] => m.receive (m.heap.given key) place wanted frames
  | .lookUp, [key] =>
    .ask (.lookUp (m.heap.given key)) fun reply =>
      match reply.bind Value.ofText with
      | .error e => m.fail e frames
      | .ok v => m.deliver [v] place wanted frames
  | _, arguments => m.fail (.extraArguments names.1 arguments.length) frames

/-- Calls an object of the game. -/
def callObject (m : Machine) (object place count : Nat) (wanted : Option Nat)
    (frames : List Frame) : Move :=
  match (m.slice (place + 1) count).mapM m.heap.item with
  | .error e => m.fail e frames
  | .ok arguments =>
    match m.heap.objects[object]? with
    | some (.service s) => m.serve s arguments place wanted frames
    | _ => m.fail (.notCallable (m.heap.typeName (.object object))) frames

/-! ## Calls -/

/-- Starts a function. -/
def enter (m : Machine) (c : Closure) (place count : Nat) (wanted : Option Nat)
    (frames : List Frame) : Move :=
  let code := m.codes[c.code]?.getD {}
  let base := place + 1
  if room < base + count + code.size then m.complainIn frames .stackOverflow
  else
    let m := m.reach (base + code.size)
    let m := m.setSlice (base + count) (List.replicate (code.parameters - count) .nil)
    .go { m with now := { code, outers := c.outers, base, next := 0, wanted }, callers := frames }

/-- How much of the stack a call needs that does not start a function. -/
def spare : Value → Nat
  | .builtin _ => 20
  | .object _ => 21
  | _ => 0

/-- Calls the value at a place of the stack, after which there are its arguments. A protected call
calls its first argument with the others. -/
def call (m : Machine) (place : Nat) (wanted : Option Nat) (frames : List Frame) : Nat → Move
  | count =>
    let f := m.at_ place
    if room < place + 1 + count + spare f then m.complainIn frames .stackOverflow
    else
      match f, count with
      | .function c, count =>
        m.enter (m.heap.closures[c]?.getD default) place count wanted frames
      | .builtin .pcall, rest + 1 =>
        if deepest ≤ m.nesting + 1 then
          m.deliver [.bool false, .text Complaint.tooNested.message] place wanted frames
        else
          { m with nesting := m.nesting + 1 }.call (place + 1) none
            (.guard place wanted :: frames) rest
      | .builtin b, count => m.callBuiltin b place count wanted frames
      | .object o, count => m.callObject o place count wanted frames
      | v, _ => m.complainIn frames (.unfit .call v.kind (calledSource place frames))

end Machine

end TextAdventure.Lua
