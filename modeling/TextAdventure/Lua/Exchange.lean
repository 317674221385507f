import TextAdventure.Lua.Heap

/-! What passes between a program and its game. A value without parts passes as what it is, if it
can be: strings as UTF-8, integers up to 64 bits. Lists and objects of the state stay what they are,
and a program reads and changes their parts. -/

namespace TextAdventure.Lua

def encoded (t : Text) : Except Error Bytes :=
  match Utf8.encode t with
  | .ok bytes => .ok bytes
  | .error bad => .error (.badText bad)

def decoded (bytes : Bytes) : Except Error Text :=
  match Utf8.decode bytes with
  | .ok t => .ok t
  | .error bad => .error (.badBytes bad)

/-! ## Values of the game -/

namespace Value

def ofText (t : Text) : Except Error Value := (encoded t).map text

def ofInt (n : Int) : Except Error Value :=
  match Number.fit? n with
  | some n => .ok (number (.int n))
  | none => .error .integerTooLarge

/-- The value of something without parts. -/
def ofLeaf : Json → Except Error Value
  | .bool b => .ok (bool b)
  | .int n => ofInt n
  | .float x => .ok (number (.ofFloat x false))
  | .text t => ofText t
  | _ => .ok nil

end Value

namespace Heap

mutual

/-- Keeps the parts of a value. -/
def keep : Json → Heap → Item × Heap
  | .list items, h =>
    let (items, h) := keepItems items h
    (.part h.parts.size, { h with parts := h.parts.push (.list items.toArray) })
  | .object fields, h =>
    let (fields, h) := keepFields fields h
    (.part h.parts.size, { h with parts := h.parts.push (.object fields) })
  | v, h => (.leaf v, h)

def keepItems : List Json → Heap → List Item × Heap
  | [], h => ([], h)
  | v :: rest, h =>
    let (item, h) := keep v h
    let (items, h) := keepItems rest h
    (item :: items, h)

def keepFields : List (Text × Json) → Heap → List (Json × Item) × Heap
  | [], h => ([], h)
  | (k, v) :: rest, h =>
    let (item, h) := keep v h
    let (fields, h) := keepFields rest h
    ((.text k, item) :: fields, h)

end

/-- The value of an item. -/
def present (h : Heap) : Item → Except Error (Value × Heap)
  | .leaf v => (Value.ofLeaf v).map (·, h)
  | .part place => .ok (h.newObject (.part place))
  | .held (.object place) =>
    match h.objects[place]? with
    | some o => .ok (h.newObject o)
    | none => .ok (.nil, h)
  | .held v => .ok (v, h)

/-! ## Values of the program -/

/-- The name of the type that the game sees. -/
def typeName (h : Heap) : Value → String
  | .nil => "NoneType"
  | .bool _ => "bool"
  | .number (.int _) => "int"
  | .number _ => "float"
  | .text _ => "str"
  | .table _ => "lupa.lua55._LuaTable"
  | .function _ | .builtin _ => "lupa.lua55._LuaFunction"
  | .object place =>
    match h.objects[place]? with
    | some (.fault e) => e.kindName
    | some (.part p) =>
      match h.parts[p]? with
      | some (.object _) => "dict"
      | _ => "list"
    | _ => "method"

/-- What a value is when the game keeps it. -/
def item (h : Heap) : Value → Except Error Item
  | .nil => .ok (.leaf .null)
  | .bool b => .ok (.leaf (.bool b))
  | .number (.int n) => .ok (.leaf (.int n.toInt))
  | .number (.float x) => .ok (.leaf (.float x))
  | .text bytes => (decoded bytes).map fun t => .leaf (.text t)
  | .object place =>
    match h.objects[place]? with
    | some (.part p) => .ok (.part p)
    | _ => .ok (.held (.object place))
  | v => .ok (.held v)

/-- What the game is given for an item. Something that it has no use for becomes null, a list or an
object becomes an empty one. -/
def given (h : Heap) : Item → Json
  | .leaf v => v
  | .part place =>
    match h.parts[place]? with
    | some (.object _) => .object []
    | _ => .list []
  | .held (.number n) => .float n.toFloat
  | .held _ => .null

def keyText : Json → Text
  | .text t => t
  | .bool b => if b then "true" else "false"
  | .null => "null"
  | v => v.display

/-- The value that an item stands for; `fuel` bounds how deep its parts are. -/
def whole (h : Heap) : Nat → Item → Except Error Json
  | _, .leaf v => .ok v
  | _, .held (.number n) => .ok (.float n.toFloat)
  | _, .held v => .error (.notStorable (((h.typeName v).splitOn ".").getLastD ""))
  | 0, .part _ => .error .circular
  | fuel + 1, .part place =>
    match h.parts[place]? with
    | some (.list items) => (items.toList.mapM (h.whole fuel)).map .list
    | some (.object fields) =>
      (fields.mapM fun f => (h.whole fuel f.2).map (keyText f.1, ·)).map .object
    | none => .ok .null

/-- The lists and objects under keys of the state, as they are now. -/
def partsOfState (h : Heap) : Except Error Fields :=
  (h.known.filterMapM fun (key, item) =>
    match item with
    | .part _ => (h.whole (h.parts.size + 1) item).map fun v => some (key, v)
    | _ => .ok none)

/-- The string that a value is written as. Tables and functions are named by their places. -/
def written (h : Heap) (v : Value) : Except Error Bytes :=
  let place (n : Nat) : Bytes := Bytes.ofAscii (Text.ofNat n)
  match v with
  | .nil => .ok "nil"
  | .bool true => .ok "true"
  | .bool false => .ok "false"
  | .number n => .ok n.text
  | .text bytes => .ok bytes
  | .table n => .ok ("table: " ++ place n)
  | .function n => .ok ("function: " ++ place n)
  | .builtin f => .ok ("function: builtin: " ++ f.name)
  | .object n =>
    match h.objects[n]? with
    | some (.fault e) => encoded e.display
    | some (.part p) => do encoded (← h.whole (h.parts.size + 1) (.part p)).display
    | _ => .ok "method"

/-! ## Parts -/

/-- A key of an object. Numbers of the same value are the same key. -/
def keyOf (h : Heap) (key : Value) : Except Error Json := do
  match ← h.item key with
  | .leaf (.float x) =>
    return ((Number.whole? x).map Json.int).getD (.float x)
  | .leaf v => return v
  | .part p => throw (.unhashable (h.given (.part p)).kind)
  | .held _ => return .text (h.typeName key)

/-- A place in a list of so many items. Negative places count from its end. -/
def placeIn (h : Heap) (size : Nat) (key : Value) (assigned : Bool) : Except Error Nat := do
  let index : Int ←
    match ← h.item key with
    | .leaf (.int n) => pure n
    | .leaf (.bool b) => pure b.toNat
    | _ => throw (.placeNotInteger (h.typeName key))
  let index := if index < 0 then index + size else index
  if 0 ≤ index ∧ index < size then return index.toNat else throw (.outOfRange assigned)

/-- What is under a key of a list or an object. -/
def itemAt (h : Heap) (part : Nat) (key : Value) : Except Error Item := do
  match h.parts[part]? with
  | some (.list items) =>
    return items[← h.placeIn items.size key false]?.getD (.leaf .null)
  | some (.object fields) =>
    let k ← h.keyOf key
    match fields.find? fun f => f.1 = k with
    | some (_, item) => return item
    | none => throw (.missingKey k)
  | none => return .leaf .null

def setField (key : Json) (item : Item) : List (Json × Item) → List (Json × Item)
  | [] => [(key, item)]
  | (k, v) :: rest => if k = key then (k, item) :: rest else (k, v) :: setField key item rest

/-- Puts a value under a key of a list or an object. -/
def setItem (h : Heap) (part : Nat) (key v : Value) : Except Error Heap := do
  match h.parts[part]? with
  | some (.list items) =>
    let item ← h.item v
    let place ← h.placeIn items.size key true
    return { h with parts := h.parts.setIfInBounds part (.list (items.setIfInBounds place item)) }
  | some (.object fields) =>
    let item ← h.item v
    let k ← h.keyOf key
    return { h with parts := h.parts.setIfInBounds part (.object (setField k item fields)) }
  | none => return h

end Heap

end TextAdventure.Lua
