import TextAdventure.Store.Folder

/-! Stored games: in memory, where operations share the record that is stored, or in files, where
every reader has a copy of its own. -/

namespace TextAdventure

inductive Games where
  | memory (table : Table Game)
  | files (folder : Folder)
deriving DecidableEq

namespace Games

def get? : Games → Int → Except Error (Option Game)
  | memory t, id => .ok (t.get? id)
  | files f, id => f.get? id

/-- The games that satisfy `p`, by ascending number. -/
def select (p : Game → Bool) : Games → Except Error (List Game)
  | memory t => .ok (List.map (·.2) (t.select p))
  | files f => f.games.map (·.filter p)

/-- The games of an adventure. -/
def ofAdventure (s : Games) (adventure : Int) : Except Error (List Game) :=
  s.select fun g => g.adventure = adventure

/-- The games at a location. -/
def atLocation (s : Games) (location : Int) : Except Error (List Game) :=
  s.select fun g => g.location = location

/-- The game of a number, to be held. A file gives every reader a copy of its own. -/
def held? (s : Games) (id : Int) : Except Error (Option (Held Game)) :=
  match s with
  | memory t => .ok (t.held? id)
  | files f => (f.get? id).map fun found => found.map fun value => { value }

/-- Adds a game, which is given a number when it has none. -/
def add (s : Games) (claim : Claim) (game : Game) : Except Error (Held Game) × Games :=
  match s with
  | memory t =>
    match t.ids.assign claim with
    | .error e => (.error e, memory t)
    | .ok (id, ids) =>
      let (held, t) := t.restore id { value := { game with id := some id } }
      (.ok held, memory { t with ids })
  | files f =>
    let (added, f) := f.add claim game
    (added.map fun value => { value }, files f)

/-- Stores a game again, which has to be there. -/
def update (s : Games) (h : Held Game) : Except Error (Held Game × Games) :=
  match s with
  | memory t =>
    match h.value.id with
    | none => .error (.unknownGame none)
    | some id =>
      if (t.get? id).isSome then
        let (h, t) := t.restore id h
        .ok (h, memory t)
      else .error (.unknownGame (some id))
  | files f => (f.update h.value).map fun f => (h, files f)

def remove : Games → Int → Games
  | memory t, id => memory (t.remove id)
  | files f, id => files (f.remove id)

/-- Makes everyone who holds a game see it as it is held here. -/
def share : Games → Held Game → Games
  | memory t, h => memory (t.share h)
  | files f, _ => files f

/-- A held game as it is now. -/
def current : Games → Held Game → Game
  | memory t, h => t.current h
  | files _, h => h.value

end Games

end TextAdventure
