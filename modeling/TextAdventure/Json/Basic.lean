import TextAdventure.Text.Basic

/-! JSON values. Integers have any size and stay apart from floating point numbers, and the fields
of an object keep the order in which they were first set. -/

namespace TextAdventure

/-- A JSON value. -/
inductive Json where
  | null
  | bool (b : Bool)
  | int (n : Int)
  | float (x : Float)
  | text (t : Text)
  | list (items : List Json)
  | object (fields : List (Text × Json))

/-- The fields of an object, in order. -/
abbrev Fields := List (Text × Json)

namespace Fields

def get? (key : Text) : Fields → Option Json
  | [] => none
  | (k, v) :: rest => if k = key then some v else get? key rest

/-- Sets a field: one that is there keeps its place, a new one goes last. -/
def set (key : Text) (value : Json) : Fields → Fields
  | [] => [(key, value)]
  | (k, v) :: rest => if k = key then (k, value) :: rest else (k, v) :: set key value rest

def erase (key : Text) (fields : Fields) : Fields := fields.filter fun f => f.1 ≠ key

end Fields

namespace Json

/-- The kinds of value that messages tell apart. -/
inductive Kind where
  | null | bool | int | float | text | list | object
deriving DecidableEq

def kind : Json → Kind
  | null => .null
  | bool _ => .bool
  | int _ => .int
  | float _ => .float
  | text _ => .text
  | list _ => .list
  | object _ => .object

/-- The name of a kind in messages. -/
def Kind.name : Kind → String
  | .null => "NoneType"
  | .bool => "bool"
  | .int => "int"
  | .float => "float"
  | .text => "str"
  | .list => "list"
  | .object => "dict"

/-- Null, false, zero and everything empty count as false. -/
def truthy : Json → Bool
  | null => false
  | bool b => b
  | int n => n ≠ 0
  | float x => !(x == 0.0)
  | text t => !t.isEmpty
  | list items => !items.isEmpty
  | object fields => !fields.isEmpty

/-- The values that a script may store: texts, numbers and truth values. -/
def isScalar : Json → Bool
  | bool _ | int _ | float _ | text _ => true
  | _ => false

mutual

/-- Whether two values are the same, floating point numbers by their bits. -/
def same : Json → Json → Bool
  | null, null => true
  | bool a, bool b => a == b
  | int a, int b => a == b
  | float a, float b => decide (a = b)
  | text a, text b => a == b
  | list a, list b => sameItems a b
  | object a, object b => sameFields a b
  | _, _ => false

def sameItems : List Json → List Json → Bool
  | [], [] => true
  | a :: as, b :: bs => same a b && sameItems as bs
  | _, _ => false

def sameFields : List (Text × Json) → List (Text × Json) → Bool
  | [], [] => true
  | (k, a) :: as, (l, b) :: bs => k == l && same a b && sameFields as bs
  | _, _ => false

end

mutual

theorem same_iff : ∀ {a b : Json}, same a b = true ↔ a = b
  | null, b => by cases b <;> simp [same]
  | bool _, b => by cases b <;> simp [same]
  | int _, b => by cases b <;> simp [same]
  | float _, b => by cases b <;> simp [same]
  | text _, b => by cases b <;> simp [same]
  | list xs, b => by
    cases b <;> simp [same]
    exact sameItems_iff
  | object xs, b => by
    cases b <;> simp [same]
    exact sameFields_iff

theorem sameItems_iff : ∀ {as bs : List Json}, sameItems as bs = true ↔ as = bs
  | [], bs => by cases bs <;> simp [sameItems]
  | a :: as, bs => by
    cases bs with
    | nil => simp [sameItems]
    | cons b bs =>
      simp only [sameItems, Bool.and_eq_true, List.cons.injEq]
      exact and_congr same_iff sameItems_iff

theorem sameFields_iff : ∀ {as bs : List (Text × Json)}, sameFields as bs = true ↔ as = bs
  | [], bs => by cases bs <;> simp [sameFields]
  | (k, a) :: as, bs => by
    cases bs with
    | nil => simp [sameFields]
    | cons b bs =>
      obtain ⟨l, b⟩ := b
      simp only [sameFields, Bool.and_eq_true, beq_iff_eq, List.cons.injEq, Prod.mk.injEq]
      exact and_congr (and_congr Iff.rfl same_iff) sameFields_iff

end

instance : DecidableEq Json := fun _ _ => decidable_of_iff _ same_iff

end Json

end TextAdventure
