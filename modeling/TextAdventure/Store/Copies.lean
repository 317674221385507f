import TextAdventure.Story.Copy
import TextAdventure.Store.Table

/-! Stored copy, and how it is looked up. Copy that is missing in a language is replaced by that
language's placeholder, never by copy of another language. -/

namespace TextAdventure

abbrev Copies := Table Copy

namespace Copies

/-- The copy of a key in a language; of several the one with the least number. -/
def find? (s : Copies) (key language : Text) : Option (Int × Copy) :=
  let code := language.lower
  s.rows.find? fun r => r.2.key = key ∧ r.2.language = code

def ofKey (s : Copies) (key : Text) : Rows Copy := s.select fun c => c.key = key

def inLanguage (s : Copies) (language : Text) : Rows Copy :=
  let code := language.lower
  s.select fun c => c.language = code

/-- The copy that belongs to a script, or to none. -/
def ofScript (s : Copies) (script : Option Int) : Rows Copy := s.select fun c => c.script = script

end Copies

/-- What a lookup falls back to. -/
structure Lookup where
  defaultLanguage : Text
  emptyCopyText : Text

namespace Lookup

def create (defaultLanguage : Text := "en") (emptyCopyText : Text := "empty copy") : Lookup :=
  { defaultLanguage := defaultLanguage.strip.lower, emptyCopyText }

/-- The language that a value asks for: a text, or none. -/
def language : Json → Except Error (Option Text)
  | .null => .ok none
  | .text t => .ok (some t)
  | v => .error (.noMember v.kind "strip")

/-- The code of the language asked for. A blank one stands for the default language. -/
def code (l : Lookup) : Option Text → Text
  | none => l.defaultLanguage
  | some language => if language.strip.lower = [] then l.defaultLanguage else language.strip.lower

/-- The placeholder of a language. -/
def placeholder (l : Lookup) (copies : Copies) (language : Option Text) : Text :=
  match copies.find? emptyCopyKey (l.code language) with
  | some (_, copy) => copy.text
  | none => l.emptyCopyText

/-- The text of a key in a language. -/
def resolve (l : Lookup) (copies : Copies) (key : Text) (language : Option Text) : Text :=
  match copies.find? key (l.code language) with
  | some (_, copy) => copy.text
  | none => l.placeholder copies (some (l.code language))

/-- Goes through keys, skipping those that are `done`. The placeholder is looked up for the first
key that needs it and kept for the others. -/
def resolveFrom (l : Lookup) (copies : Copies) (code : Text) :
    Option Text → List (Text × Text) → List Text → List (Text × Text)
  | _, done, [] => done
  | held, done, key :: rest =>
    if done.any fun d => d.1 = key then resolveFrom l copies code held done rest
    else
      match copies.find? key code with
      | some (_, copy) => resolveFrom l copies code held (done ++ [(key, copy.text)]) rest
      | none =>
        let text := held.getD (l.placeholder copies (some code))
        resolveFrom l copies code (some text) (done ++ [(key, text)]) rest

/-- The texts of several keys, each where it first occurs. -/
def resolveAll (l : Lookup) (copies : Copies) (keys : List Text) (language : Option Text) :
    List (Text × Text) :=
  l.resolveFrom copies (l.code language) none [] keys

end Lookup

end TextAdventure
