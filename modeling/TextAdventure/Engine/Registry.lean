import TextAdventure.Engine.Locks
import TextAdventure.Store.Table

/-! The registry behind the games that are held. It has a lock for each game that someone holds or
waits for, and each lock knows how many do. A game whose lock has left the registry gets a new one,
so locks go by when they were made. -/

namespace TextAdventure

/-- The lock of a game: whether it is taken, and how many hold it or wait for it. -/
structure GameLock where
  locked : Bool := false
  users : Int := 0
deriving DecidableEq

/-- All locks in the order they were made, and for each game in the registry which one is its. -/
structure Registry where
  made : List GameLock := []
  entries : Rows Nat := []
deriving DecidableEq

namespace Registry

def locked (r : Registry) (lock : Nat) : Bool := (r.made[lock]?.map (·.locked)).getD false

def users (r : Registry) (lock : Nat) : Int := (r.made[lock]?.map (·.users)).getD 0

def setLocked (r : Registry) (lock : Nat) (locked : Bool) : Registry :=
  { r with made := r.made.modify lock fun l => { l with locked } }

def addUsers (r : Registry) (lock : Nat) (n : Int) : Registry :=
  { r with made := r.made.modify lock fun l => { l with users := l.users + n } }

/-- The lock of a game, made if there is none. -/
def lockOf (r : Registry) (game : Int) : Nat × Registry :=
  match r.entries.get? game with
  | some lock => (lock, r)
  | none =>
    (r.made.length,
      { made := r.made ++ [{}], entries := r.entries.insert game r.made.length })

/-- Someone comes for the lock of a game. -/
def enter (r : Registry) (game : Int) : Nat × Registry :=
  let (lock, r) := r.lockOf game
  (lock, r.addUsers lock 1)

/-- Someone is done with the lock of a game. The last one takes it out of the registry. -/
def leave (r : Registry) (game : Int) (lock : Nat) : Registry :=
  let r := r.addUsers lock (-1)
  if r.users lock = 0 then { r with entries := r.entries.erase game } else r

/-- Takes hold of a game, and gives its lock. A lock that is taken stays so however long one waits,
since whoever holds it is waiting too. -/
def hold (r : Registry) (timeout : Float) (game : Int) : Except Error Nat × Registry :=
  let (lock, r) := r.enter game
  if 0.0 < timeout ∧ Locks.isTooLong timeout then (.error .busyTimeoutTooLong, r.leave game lock)
  else if r.locked lock then (.error (.gameBusy game), r.leave game lock)
  else (.ok lock, r.setLocked lock true)

/-- Lets go of a game that is held by a lock. -/
def release (r : Registry) (game : Int) (lock : Nat) : Registry :=
  (r.setLocked lock false).leave game lock

/-- The number of locks in the registry. -/
def count (r : Registry) : Nat := r.entries.length

def isBusy (r : Registry) (game : Int) : Bool :=
  match r.entries.get? game with
  | some lock => r.locked lock
  | none => false

end Registry

end TextAdventure
