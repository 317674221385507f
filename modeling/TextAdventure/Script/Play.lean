import TextAdventure.Error

/-! What scripts do, whatever they are written in. A script in progress has come to its end, or it
waits for an answer: from the game that it runs for, or from the host of the engine, which may work
on the engine before it answers. -/

namespace TextAdventure

/-- What a script can know of the game that it runs for. -/
structure Bearings where
  game : Option Int
  location : Int
  adventure : Int
  language : Text
deriving DecidableEq

/-- What a script may ask of its game. It can hand over values of any kind; those that do not fit
are refused. -/
inductive Request where
  | emit (text : Json)
  | emitCopy (key : Json)
  | getState (key : Json)
  | setState (key value : Json)
  /-- Lists and objects of the state have changed: their values as they are now. -/
  | replaceState (values : Fields)
  | lookUp (key : Json)
  | bearings
deriving DecidableEq

/-- The answers to a request. -/
abbrev Request.Reply : Request → Type
  | emit _ | emitCopy _ | setState _ _ => Except Error Unit
  | replaceState _ => Unit
  | getState _ => Except Error Json
  | lookUp _ => Except Error Text
  | bearings => Bearings

/-- A script in progress, which yields an `α` in the end. -/
inductive Play (α : Type) where
  | done (value : α)
  /-- Asks the game. -/
  | ask (request : Request) (next : request.Reply → Play α)
  /-- Asks the host. -/
  | call (request : Json) (next : Json → Play α)

namespace Play

def bind {α β : Type} : Play α → (α → Play β) → Play β
  | done a, f => f a
  | ask r next, f => ask r fun reply => (next reply).bind f
  | call q next, f => call q fun reply => (next reply).bind f

instance : Monad Play where
  pure := done
  bind := bind

/-- Whether a script leaves the host alone, whatever answers it gets. -/
def Quiet {α : Type} : Play α → Prop
  | done _ => True
  | ask _ next => ∀ reply, (next reply).Quiet
  | call _ _ => False

end Play

/-- How a script ends: with a value, in a failure of its own, or by an error that it did not
catch. -/
inductive Ending where
  | result (value : Json)
  | failed (message : Text) (timedOut : Bool)
  | raised (error : Error)
deriving DecidableEq

/-- A runtime makes a script of source code. -/
abbrev Runtime := Text → Play Ending

end TextAdventure
