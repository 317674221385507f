import TextAdventure.Story.Field

/-! The words of an adventure: copy is looked up by key and language. -/

namespace TextAdventure

/-- The key of the copy that stands in for missing copy. -/
def emptyCopyKey : Text := "00000000-0000-0000-0000-000000000000"

/-- Text in one language under a key. Its name is for its author, and any value will do. -/
structure Copy where
  key : Text
  language : Text
  text : Text := []
  name : Json := .text []
  adventure : Option Int := none
  script : Option Int := none
deriving DecidableEq

/-- Copy under a blank key is placeholder copy. -/
def Copy.create (key language : Json) (text name : Json := .text [])
    (adventure script : Option Int := none) : Except Error Copy := do
  let key ← Field.text "copy key" key
  let language ← Field.code "language" language
  let text ← Field.text "copy text" text
  let key := if key.strip = [] then emptyCopyKey else key.strip
  return { key, language, text, name, adventure, script }

/-- A language that copy can be written in. -/
structure Language where
  name : Text
  code : Text
deriving DecidableEq

def Language.create (name code : Json) : Except Error Language := do
  let name ← Field.name "language name" name
  let code ← Field.code "language code" code
  return { name, code }

end TextAdventure
