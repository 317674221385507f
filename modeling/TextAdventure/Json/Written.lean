import TextAdventure.Error
import TextAdventure.Json.Printer

/-! Writing JSON text where it can be read again: an integer that is too long to be read is not
written either. -/

namespace TextAdventure.Json

/-- Whether an integer has more digits than can be written. -/
def isLong (n : Int) : Bool := Nat.pow 10 Numeral.mostDigits ≤ n.natAbs

mutual

/-- Whether all integers of a value can be written. -/
def isWritable : Json → Bool
  | int n => !isLong n
  | list items => areWritable items
  | object fields => haveWritable fields
  | _ => true

def areWritable : List Json → Bool
  | [] => true
  | v :: rest => isWritable v && areWritable rest

def haveWritable : List (Text × Json) → Bool
  | [] => true
  | (_, v) :: rest => isWritable v && haveWritable rest

end

/-- The compact text of a value that can be written. -/
def written (v : Json) : Except Error Text :=
  if isWritable v then .ok v.compact else .error .tooLongToWrite

/-- The text of an object on lines, if its values can be written. -/
def writtenOnLines (fields : Fields) : Except Error Text :=
  if haveWritable fields then .ok (onLines fields) else .error .tooLongToWrite

end TextAdventure.Json
