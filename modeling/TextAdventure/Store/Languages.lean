import TextAdventure.Story.Copy
import TextAdventure.Store.Table

/-! The registered languages. A code is registered once. -/

namespace TextAdventure

/-- Languages with their numbers, in the order they were registered. -/
structure Languages where
  entries : List (Int × Language) := []
  ids : IdSequence := {}
deriving DecidableEq

namespace Languages

/-- The language of a code, whatever the code's case and the blanks around it. -/
def byCode? (s : Languages) (code : Text) : Option (Int × Language) :=
  s.entries.find? fun e => e.2.code = code.strip.lower

/-- All languages by ascending number. -/
def list (s : Languages) : List (Int × Language) :=
  s.entries.mergeSort fun a b => decide (a.1 ≤ b.1)

def add (s : Languages) (claim : Claim) (language : Language) :
    Except Error (Int × Languages) :=
  if s.entries.any fun e => e.2.code = language.code then .error (.languageTaken language.code)
  else
    match s.ids.assign claim with
    | .error e => .error e
    | .ok (id, ids) => .ok (id, { entries := s.entries ++ [(id, language)], ids })

end Languages

end TextAdventure
