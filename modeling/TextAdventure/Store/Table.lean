import TextAdventure.Store.Identity

/-! Tables of numbered records, in ascending order of the numbers. Operations may hold records while
others change, remove and replace them. -/

namespace TextAdventure

/-- Records under numbers, ascending. -/
abbrev Rows (α : Type) := List (Int × α)

namespace Rows

variable {α : Type}

def get? (id : Int) : Rows α → Option α
  | [] => none
  | (k, v) :: rest => if k = id then some v else get? id rest

/-- Puts a record under a number, in place of one that is there. -/
def insert (id : Int) (value : α) : Rows α → Rows α
  | [] => [(id, value)]
  | (k, v) :: rest =>
    if id < k then (id, value) :: (k, v) :: rest
    else if id = k then (id, value) :: rest
    else (k, v) :: insert id value rest

def erase (id : Int) (rows : Rows α) : Rows α := rows.filter fun r => r.1 ≠ id

/-- Changes every record, knowing its number. -/
def revise (f : Int → α → α) (rows : Rows α) : Rows α := List.map (fun r => (r.1, f r.1 r.2)) rows

/-- The records that satisfy `p`, in ascending order of their numbers. -/
def select (p : α → Bool) (rows : Rows α) : Rows α := rows.filter fun r => p r.2

end Rows

/-- A record as an operation holds it. A record of a table has a place: the number it stands under,
and how many records have left that number before it. Any other record is a copy of its own. -/
structure Held (α : Type) where
  value : α
  place : Option (Int × Nat) := none
deriving DecidableEq

/-- A store of one kind of record. Records that have left it are kept under their places for the
operations that still hold them. -/
structure Table (α : Type) where
  rows : Rows α := []
  ids : IdSequence := {}
  editions : Rows Nat := []
  departed : List ((Int × Nat) × α) := []
deriving DecidableEq

namespace Table

variable {α : Type}

def get? (t : Table α) (id : Int) : Option α := t.rows.get? id

/-- How many records have left a number. -/
def edition (t : Table α) (id : Int) : Nat := (t.editions.get? id).getD 0

/-- Takes the record under a number out of the table. -/
def remove (t : Table α) (id : Int) : Table α :=
  match t.get? id with
  | none => t
  | some value =>
    { t with
      rows := t.rows.erase id
      editions := t.editions.insert id (t.edition id + 1)
      departed := ((id, t.edition id), value) :: t.departed }

def removeAll (t : Table α) (ids : List Int) : Table α := ids.foldl remove t

/-- Puts a record under a number. Another one that is there leaves. -/
def place (t : Table α) (id : Int) (value : α) : Table α :=
  { t.remove id with rows := (t.remove id).rows.insert id value }

/-- Adds a record under the number it claims, or under a new one. -/
def add (t : Table α) (claim : Claim) (value : α) : Except Error (Int × Table α) :=
  match t.ids.assign claim with
  | .error e => .error e
  | .ok (id, ids) => .ok (id, { t.place id value with ids })

/-- Changes the record under a number, which stays the same record. -/
def put (t : Table α) (id : Int) (value : α) : Table α := { t with rows := t.rows.insert id value }

def revise (t : Table α) (f : Int → α → α) : Table α := { t with rows := t.rows.revise f }

def select (t : Table α) (p : α → Bool) : Rows α := t.rows.select p

/-- The record under a number, which is `value`, to be held. -/
def hold (t : Table α) (id : Int) (value : α) : Held α :=
  { value, place := some (id, t.edition id) }

/-- The record under a number, to be held. -/
def held? (t : Table α) (id : Int) : Option (Held α) := (t.get? id).map (t.hold id)

/-- Whether the record of a place is still in the table. -/
def keeps (t : Table α) (place : Int × Nat) : Bool :=
  (t.get? place.1).isSome && t.edition place.1 = place.2

/-- A held record as it is now. -/
def current (t : Table α) (h : Held α) : α :=
  match h.place with
  | none => h.value
  | some place =>
    (if t.keeps place then t.get? place.1 else t.departed.lookup place).getD h.value

/-- Makes everyone who holds a record see it as it is held here. -/
def share (t : Table α) (h : Held α) : Table α :=
  match h.place with
  | none => t
  | some place =>
    if t.keeps place then t.put place.1 h.value
    else
      { t with departed := t.departed.map fun d => if d.1 = place then (place, h.value) else d }

/-- Puts a held record under a number, as it is held. It stays the same record if it is the one that
stands there. -/
def restore (t : Table α) (id : Int) (h : Held α) : Held α × Table α :=
  if (t.get? id).isSome && h.place = some (id, t.edition id) then (h, t.put id h.value)
  else
    let t := t.place id h.value
    (t.hold id h.value, t)

end Table

end TextAdventure
