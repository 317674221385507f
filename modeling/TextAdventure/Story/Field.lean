import TextAdventure.Error
import TextAdventure.Text.Blank
import TextAdventure.Text.Case

/-! Checks on the fields of records. Names and keys are stored without the blanks at their ends and
are never empty. -/

namespace TextAdventure.Field

/-- A text as it was given. -/
def text (field : String) : Json → Except Error Text
  | .text t => .ok t
  | v => .error (.notText field v.kind)

/-- A text between its blanks, which must leave something. -/
def name (field : String) (v : Json) : Except Error Text :=
  match text field v with
  | .error e => .error e
  | .ok t => if t.strip = [] then .error (.blank field) else .ok t.strip

/-- A name, or nothing. -/
def optional (field : String) : Json → Except Error (Option Text)
  | .null => .ok none
  | v => (name field v).map some

/-- The code of a language, in lower case. -/
def code (field : String) (v : Json) : Except Error Text := (name field v).map Text.lower

end TextAdventure.Field
