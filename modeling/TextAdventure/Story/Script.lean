import TextAdventure.Story.Field

/-! Scripts of an adventure, and which script includes which. -/

namespace TextAdventure

/-- The dialects that scripts are written in. A host may put any value in place of one, which nobody
checks. -/
inductive ScriptType where
  | lua
  | unchecked (given : Json)
deriving DecidableEq

namespace ScriptType

/-- The name of the one dialect there is. -/
def luaName : Text := "lua"

def read (v : Json) : Except Error ScriptType :=
  if v = .text luaName then .ok .lua else .error (.unknownScriptType v)

/-- Whether scripts of a type are in Lua. -/
def isLua : ScriptType → Bool
  | lua => true
  | unchecked given => given = .text luaName

end ScriptType

/-- Source code that a hook of the adventure runs. -/
structure Script where
  adventure : Int
  name : Text
  content : Text := []
  type : ScriptType := .lua
  otherId : Option Int := none
deriving DecidableEq

/-- The number that a script goes by. -/
def Script.idAt (stored : Int) (s : Script) : Int := s.otherId.getD stored

def Script.create (adventure : Int) (name : Json) (content : Json := .text [])
    (type : Json := .text ScriptType.luaName) : Except Error Script := do
  let name ← Field.name "script name" name
  let content ← Field.text "script content" content
  let type ← ScriptType.read type
  return { adventure, name, content, type }

/-- The source of `included` comes before that of `including`. Of several, those of lower `order`
come first. -/
structure Include where
  including : Int
  included : Int
  order : Int := 0
deriving DecidableEq

end TextAdventure
