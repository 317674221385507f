import TextAdventure.Error

/-! One operation at a time for each game. -/

namespace TextAdventure

/-- Who holds a game: an operation while it runs, or the host until it lets go. -/
inductive Holder where
  | operation
  | host
deriving DecidableEq

/-- The games that are held, in the order they were taken. No game is held twice. -/
structure Locks where
  held : List (Int × Holder) := []
deriving DecidableEq

namespace Locks

def isBusy (locks : Locks) (game : Int) : Bool := locks.held.any fun h => h.1 = game

/-- The number of games held. -/
def count (locks : Locks) : Nat := locks.held.length

/-- Whether a timeout is past all waiting: its nanoseconds do not fit into 63 bits. -/
def isTooLong (timeout : Float) : Bool := 9223372036854775808.0 ≤ timeout * 1000000000.0

/-- Takes hold of a game. A game that is held stays so however long one waits, since whoever holds
it is waiting too. -/
def hold (locks : Locks) (timeout : Float) (game : Int) (holder : Holder := .operation) :
    Except Error Locks :=
  if 0.0 < timeout ∧ isTooLong timeout then .error .busyTimeoutTooLong
  else if locks.isBusy game then .error (.gameBusy game)
  else .ok ⟨locks.held ++ [(game, holder)]⟩

def release (locks : Locks) (game : Int) (holder : Holder := .operation) : Locks :=
  ⟨locks.held.erase (game, holder)⟩

end Locks

/-- The timeout of an engine is not negative. -/
def checkBusyTimeout (timeout : Float) : Except Error Unit :=
  if timeout < 0.0 then .error .negativeBusyTimeout else .ok ()

end TextAdventure
