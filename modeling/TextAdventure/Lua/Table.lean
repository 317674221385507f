import TextAdventure.Lua.Value

/-! Tables. The values under the first integers are in an array, all others in nodes that are
chained from the place that a key belongs to. A table grows when no node is free for a new key, and
then divides its keys between the two anew. Where a table with gaps ends depends on how large its
array is, and on where its end was last found. -/

namespace TextAdventure.Lua

/-- A key with its value, which may have become nil, and the node that comes next in its chain. -/
structure Node where
  key : Value := .nil
  value : Value := .nil
  next : Option Nat := none
deriving DecidableEq, Inhabited

/-- A table. The number of nodes is zero or a power of two; the nodes from `free` on have been
given out. `hint` is a place near the end of the array's values. -/
structure Table where
  items : Array Value := #[]
  nodes : Array Node := #[]
  free : Nat := 0
  hint : Nat := 0
deriving DecidableEq

namespace Table

/-- The least power of two that is not less than `n`, for `n` up to `2 ^ fuel`. -/
def powerFrom : Nat → Nat → Nat → Nat
  | 0, power, _ => power
  | fuel + 1, power, n => if n ≤ power then power else powerFrom fuel (2 * power) n

def power (n : Nat) : Nat := powerFrom 64 1 n

/-- An empty table with room for a number of items and of other keys. -/
def sized (items nodes : Nat) : Table :=
  let count := if nodes = 0 then 0 else power nodes
  { items := Array.replicate items .nil, nodes := Array.replicate count {}, free := count,
    hint := items / 2 }

/-- Keys are kept in one form: a floating point number that has the value of an integer is kept as
the integer. -/
def normal : Value → Value
  | .number n =>
    match n.toInt? with
    | some i => .number (.int i)
    | none => .number n
  | v => v

/-- The node that a key belongs to, if there are any nodes. -/
def home (t : Table) (key : Value) : Nat :=
  let size := t.nodes.size
  let odd := if size ≤ 2 then 1 else size - 1
  match key with
  | .number (.int n) => (n.toInt % 0x10000000000000000).toNat % odd
  | .number (.float x) => x.toBits.toNat % odd
  | .text bytes => bytes.foldl (fun h b => (h * 31 + b.toNat) % 0x100000000) 7 % size
  | .bool b => b.toNat % size
  | .table n | .function n | .object n => n % odd
  | .builtin f => f.name.length % odd
  | _ => 0

/-- The node of a key, from a node of its chain on; `fuel` bounds the search. -/
def nodeFrom (t : Table) (key : Value) : Nat → Nat → Option Nat
  | 0, _ => none
  | fuel + 1, at_ =>
    match t.nodes[at_]? with
    | none => none
    | some node =>
      if node.key = key then some at_
      else
        match node.next with
        | some next => nodeFrom t key fuel next
        | none => none

def node? (t : Table) (key : Value) : Option Nat :=
  if t.nodes.isEmpty then none else t.nodeFrom key t.nodes.size (t.home key)

/-- The place of a key in the array. -/
def place? (t : Table) : Value → Option Nat
  | .number (.int n) =>
    let n := n.toInt
    if 1 ≤ n ∧ n ≤ t.items.size then some (n.toNat - 1) else none
  | _ => none

/-- The value under a key in its kept form. -/
def find (t : Table) (key : Value) : Value :=
  match t.place? key with
  | some place => t.items[place]?.getD .nil
  | none =>
    match t.node? key with
    | some n => (t.nodes[n]?.map (·.value)).getD .nil
    | none => .nil

def get (t : Table) (key : Value) : Value := t.find (normal key)

/-! ## New keys -/

/-- The last node before `n` that never had a key. -/
def freeBelow (nodes : Array Node) : Nat → Option Nat
  | 0 => none
  | n + 1 =>
    if (nodes[n]?.map (·.key)) = some Value.nil then some n else freeBelow nodes n

/-- A free node, and below which node the next one is looked for. Up to four nodes are all searched
each time. -/
def freeNode (nodes : Array Node) (free : Nat) : Option Nat × Nat :=
  if nodes.size ≤ 4 then (freeBelow nodes nodes.size, free)
  else
    let found := freeBelow nodes free
    (found, found.getD 0)

/-- The node before `at_` in a chain that starts at `from_`. -/
def nodeBefore (nodes : Array Node) (at_ : Nat) : Nat → Nat → Nat
  | 0, from_ => from_
  | fuel + 1, from_ =>
    match nodes[from_]?.bind (·.next) with
    | some next => if next = at_ then from_ else nodeBefore nodes at_ fuel next
    | none => from_

/-- Puts a node into a chain, behind its first node. -/
def chain (nodes : Array Node) (main free : Nat) (there new : Node) : Array Node :=
  (nodes.setIfInBounds free { new with next := there.next }).setIfInBounds main
    { there with next := some free }

/-- Moves a node out of the way, and puts another one into its place. -/
def displace (nodes : Array Node) (main free before : Nat) (there new : Node) : Array Node :=
  let moved := nodes.setIfInBounds free there
  (moved.modify before fun n => { n with next := some free }).setIfInBounds main new

/-- Gives a new key a node, or the table back where none is free. A node whose key does not belong
where it is makes room. -/
def insert (t : Table) (key value : Value) : Except Table Table :=
  if t.nodes.isEmpty then .error t
  else
    let main := t.home key
    let there := t.nodes[main]?.getD {}
    if there.value = .nil then
      .ok { t with nodes := t.nodes.setIfInBounds main { there with key, value } }
    else
      match freeNode t.nodes t.free with
      | (none, free) => .error { t with free }
      | (some place, free) =>
        let other := t.home there.key
        let nodes := t.nodes
        let t := { t with nodes := #[], free }
        if other = main then .ok { t with nodes := chain nodes main place there { key, value } }
        else
          let before := nodeBefore nodes main nodes.size other
          .ok { t with nodes := displace nodes main place before there { key, value } }

/-- Puts a value under a key for which there is room. -/
def enter (t : Table) (key value : Value) : Table :=
  match t.place? key with
  | some place => { t with items := t.items.setIfInBounds place value }
  | none =>
    match t.insert key value with
    | .ok t | .error t => t

/-- A table with room for a number of items and of other keys, and everything that it holds. -/
def resize (t : Table) (items nodes : Nat) : Table :=
  let new := sized items nodes
  let new := { new with items := t.items.extract 0 items ++ new.items.extract t.items.size items }
  let rest := t.items.toList.drop items
  let new := (rest.mapIdx fun i v => (items + i + 1, v)).foldl
    (fun new e => if e.2 = .nil then new else new.enter (.ofNat e.1) e.2) new
  t.nodes.foldl (fun new n => if n.value = .nil then new else new.enter n.key n.value) new

/-- How many of the numbers are greater than half of `top` and not greater than it. -/
def within (top : Nat) (numbers : List Nat) : Nat :=
  (numbers.filter fun n => top / 2 < n ∧ n ≤ top).length

/-- The best size of an array for values under some of the integers from one on, and how many of
them it holds. An array may have up to three places for each value. -/
def arraySize (numbers : List Nat) : Nat → Nat → Nat → Nat × Nat → Nat × Nat
  | 0, _, _, best => best
  | fuel + 1, top, below, best =>
    if numbers.length * 3 < top then best
    else
      let more := within top numbers
      let below := below + more
      arraySize numbers fuel (2 * top) below
        (if 0 < more ∧ top ≤ below * 3 then (top, below) else best)

/-- The integer from one on that a key is. -/
def index? : Value → Option Nat
  | .number (.int n) => if 1 ≤ n then some n.toInt.toNat else none
  | _ => none

/-- Divides the keys anew so that there is room for one more. -/
def grow (t : Table) (key : Value) : Table :=
  let live := t.nodes.toList.filter fun n => n.value ≠ .nil
  let dead := t.nodes.toList.any fun n => n.value = .nil ∧ n.key ≠ .nil
  let keys := key :: live.map (·.key)
  let numbers := keys.filterMap index?
  let (items, nodes) : Nat × Nat :=
    if numbers.isEmpty then (t.items.size, keys.length)
    else
      let held := (t.items.toList.mapIdx fun i v => (i + 1, v)).filterMap fun e =>
        if e.2 = .nil then none else some e.1
      let (size, count) := arraySize (numbers ++ held) 40 1 0 (0, 0)
      (size, keys.length + held.length - count)
  t.resize items (if dead then nodes + nodes / 4 else nodes)

/-- Puts a value under a key. -/
def set (t : Table) (key value : Value) : Table :=
  let key := normal key
  match t.place? key with
  | some place => { t with items := t.items.setIfInBounds place value }
  | none =>
    match t.node? key with
    | some n => { t with nodes := t.nodes.modify n fun node => { node with value } }
    | none =>
      if value = .nil then t
      else
        match t.insert key value with
        | .ok t => t
        | .error t => (t.grow key).enter key value

/-- Puts values into the places after `offset`, for which the array is made large enough. -/
def fill (t : Table) (offset : Nat) (values : List Value) : Table :=
  let last := offset + values.length
  let t := if t.items.size < last then t.resize last t.nodes.size else t
  (values.mapIdx fun i v => (offset + i, v)).foldl
    (fun t e => { t with items := t.items.setIfInBounds e.1 e.2 }) t

/-! ## The end of a table -/

/-- Whether there is nothing at the place `n`, counted from one, of the array. -/
def emptyAt (t : Table) (n : Nat) : Bool := t.items[n - 1]?.getD .nil = .nil

/-- A place between `low`, where there is something or which is zero, and `high`, where there is
nothing, after which there is nothing. -/
def between (t : Table) : Nat → Nat → Nat → Nat
  | 0, low, _ => low
  | fuel + 1, low, high =>
    if high ≤ low + 1 then low
    else
      let middle := (low + high) / 2
      if t.emptyAt middle then between t fuel low middle else between t fuel middle high

/-- The first place below `n` where there is something, among the next few. -/
def nearBelow (t : Table) : Nat → Nat → Except Nat Nat
  | 0, n => .error n
  | fuel + 1, n =>
    if n ≤ 1 then .error n
    else if t.emptyAt (n - 1) then nearBelow t fuel (n - 1)
    else .ok (n - 1)

/-- The first place from `n` on after which there is nothing, among the next few. -/
def nearAbove (t : Table) : Nat → Nat → Except Nat Nat
  | 0, n => .error n
  | fuel + 1, n =>
    if t.items.size ≤ n then .error n
    else if t.emptyAt (n + 1) then .ok n
    else nearAbove t fuel (n + 1)

/-- The first place from `n` on after which no node has a value. -/
def lastNode (t : Table) : Nat → Nat → Nat
  | 0, n => n
  | fuel + 1, n => if t.find (.ofNat (n + 1)) = .nil then n else lastNode t fuel (n + 1)

/-- A place after which there is nothing, and the table with that place as its hint. -/
def length (t : Table) : Nat × Table :=
  let size := t.items.size
  let found (n : Nat) : Nat × Table := (n, { t with hint := n })
  let beyond (t : Table) : Nat × Table := (t.lastNode t.nodes.size size, t)
  if size = 0 then beyond t
  else
    let start := max t.hint 1
    if t.emptyAt start then
      match t.nearBelow 4 start with
      | .ok n => found n
      | .error n => found (t.between 64 0 n)
    else
      match t.nearAbove 4 start with
      | .ok n => found n
      | .error n =>
        if t.emptyAt size then found (t.between 64 n size) else beyond { t with hint := size }

end Table

end TextAdventure.Lua
