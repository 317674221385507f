import TextAdventure.Game.Content
import TextAdventure.Store.Table

/-! The logs of all games. Positions in a log only go up. -/

namespace TextAdventure

/-- The entries of each game that has a log, and the numbers that entries are given. -/
structure Journal where
  logs : Rows (List Content) := []
  ids : IdSequence := {}
deriving DecidableEq

namespace Journal

/-- The log of a game. -/
def entries (j : Journal) (game : Int) : List Content := (j.logs.get? game).getD []

/-- The position of the last entry of a game's log. -/
def lastPosition (j : Journal) (game : Int) : Option Nat :=
  (j.entries game).getLast?.map (·.position)

/-- The position after the last entry. -/
def nextPosition (j : Journal) (game : Int) : Nat :=
  match j.lastPosition game with
  | none => 0
  | some p => p + 1

/-- The entry at a position. -/
def get? (j : Journal) (game position : Int) : Option Content :=
  (j.entries game).find? fun c => (c.position : Int) = position

/-- The entries from `start` on, at most `limit` of them. -/
def slice (j : Journal) (game : Int) (start : Int := 0) (limit : Option Int := none) :
    Except Error (List Content) :=
  let found := (j.entries game).filter fun c => start ≤ (c.position : Int)
  match limit with
  | none => .ok found
  | some n => if n < 0 then .error .negativeLimit else .ok (found.take n.toNat)

/-- Adds an entry, which must come after the last one of its game. The number it is given stays
used when the entry is refused. -/
def add (j : Journal) (claim : Claim) (content : Content) :
    Except Error Content × Journal :=
  match j.ids.assign claim with
  | .error e => (.error e, j)
  | .ok (id, ids) =>
    let stored := { content with id := some id }
    match j.lastPosition content.game with
    | some last =>
      if content.position ≤ last then
        (.error (.positionTaken content.game content.position last), { j with ids })
      else
        let log := j.entries content.game ++ [stored]
        (.ok stored, { logs := j.logs.insert content.game log, ids })
    | none =>
      (.ok stored, { logs := j.logs.insert content.game (j.entries content.game ++ [stored]), ids })

/-- Drops the log of a game. -/
def clear (j : Journal) (game : Int) : Journal := { j with logs := j.logs.erase game }

end Journal

end TextAdventure
