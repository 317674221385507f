import TextAdventure.Error

/-! What a game has shown so far is a log of entries. -/

namespace TextAdventure

/-- An entry shows copy, looked up whenever it is read, or the text that a script wrote. -/
inductive Body where
  | copy (key : Text)
  | literal (text : Text)
deriving DecidableEq

def Body.copyKey? : Body → Option Text
  | copy key => some key
  | literal _ => none

def Body.text? : Body → Option Text
  | copy _ => none
  | literal text => some text

/-- An entry at a place of a game's log. -/
structure Content where
  game : Int
  position : Nat
  body : Body
  id : Option Int := none
deriving DecidableEq

/-- An entry shows a copy key or a text, and not both. -/
def Body.ofParts (copyKey text : Option Text) : Except Error Body :=
  match copyKey, text with
  | some key, none => .ok (.copy key)
  | none, some text => .ok (.literal text)
  | _, _ => .error .contentChoice

def Content.create (game position : Int) (copyKey text : Option Text) : Except Error Content :=
  if position < 0 then .error .negativePosition
  else (Body.ofParts copyKey text).map fun body => { game, position := position.toNat, body }

end TextAdventure
