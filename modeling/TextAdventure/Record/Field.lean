import TextAdventure.Json.Basic

/-! The fields of JSON objects by name and kind. A field of another kind counts as absent. -/

namespace TextAdventure.Json

/-- The fields of an object; any other value has none. -/
def fields : Json → Fields
  | object fields => fields
  | _ => []

def field? (v : Json) (name : String) : Option Json := Fields.get? name v.fields

/-- A field, or null. -/
def field (v : Json) (name : String) : Json := (v.field? name).getD null

/-- A field, or a value in its place when it is absent. -/
def fieldOr (v : Json) (name : String) (otherwise : Json) : Json := (v.field? name).getD otherwise

/-- The integer that a value is; truth values count as one and zero. -/
def int? : Json → Option Int
  | int n => some n
  | bool b => some (if b then 1 else 0)
  | _ => none

def text? : Json → Option Text
  | text t => some t
  | _ => none

/-- The items of a list; any other value has none. -/
def elements : Json → List Json
  | list items => items
  | _ => []

def intField? (v : Json) (name : String) : Option Int := (v.field name).int?

/-- An integer, or zero. -/
def intField (v : Json) (name : String) : Int := (v.intField? name).getD 0

def textField? (v : Json) (name : String) : Option Text := (v.field name).text?

/-- A text, or the empty text. -/
def textField (v : Json) (name : String) : Text := (v.textField? name).getD []

/-- Whether a field counts as true. -/
def boolField (v : Json) (name : String) : Bool := (v.field name).truthy

/-- An object with named fields. -/
def record (fields : List (String × Json)) : Json :=
  object (fields.map fun f => (Text.ofString f.1, f.2))

def ofText? : Option Text → Json
  | none => null
  | some t => text t

def ofInt? : Option Int → Json
  | none => null
  | some n => int n

def ofTexts (ts : List Text) : Json := list (ts.map text)

def ofInts (ns : List Int) : Json := list (ns.map int)

end TextAdventure.Json
