import TextAdventure.Store.Payload
import TextAdventure.Store.Table

/-! Games kept in the files of a directory, one to a file. The file of game `n` is called `n.json`.
Files whose name before `.json` consists of digits of any kind are taken for games. -/

namespace TextAdventure

/-- What a name in a directory stands for. -/
inductive Entry where
  | file (text : Text)
  | folder
deriving DecidableEq

/-- The named entries of a directory. -/
abbrev Directory := List (Text × Entry)

namespace Directory

def get? (d : Directory) (name : Text) : Option Entry :=
  (d.find? fun e => e.1 = name).map (·.2)

/-- Writes an entry, in place of one of the same name. -/
def write (name : Text) (entry : Entry) : Directory → Directory
  | [] => [(name, entry)]
  | e :: rest => if e.1 = name then (name, entry) :: rest else e :: write name entry rest

def erase (d : Directory) (name : Text) : Directory := d.filter fun e => e.1 ≠ name

/-- Text as it is read from a file: every line ends in a line feed alone. -/
def unixLines : Text → Text
  | [] => []
  | [c] => [if c = '\r' then CodePoint.ofChar '\n' else c]
  | c :: d :: rest =>
    if c = '\r' then
      if d = '\n' then d :: unixLines rest else CodePoint.ofChar '\n' :: unixLines (d :: rest)
    else c :: unixLines (d :: rest)

/-- The text of a file, as it is read. -/
def text? (d : Directory) (name : Text) : Option Text :=
  match d.get? name with
  | some (.file t) => some (unixLines t)
  | some .folder | none => none

end Directory

/-- A directory of games, and the numbers given to new ones. -/
structure Folder where
  directory : Directory := []
  ids : IdSequence := {}
deriving DecidableEq

namespace Folder

def suffix : Text := ".json"

/-- The name of the file of game `id`. -/
def fileName (id : Int) : Text := Text.ofInt id ++ suffix

/-- The digits before `.json` in a name that looks like that of a game. -/
def stem? (name : Text) : Option Text :=
  let stem := name.take (name.length - suffix.length)
  if suffix.isSuffixOf name ∧ stem ≠ [] ∧ stem.all CodePoint.isDigit then some stem else none

/-- The texts of the files taken for games, each with the digits of its name. -/
def gameFiles (d : Directory) : List (Text × Text) :=
  d.filterMap fun e =>
    match stem? e.1, e.2 with
    | some stem, .file t => some (stem, Directory.unixLines t)
    | _, _ => none

/-- The number of a file. A digit that is not decimal cannot be part of one. -/
def number (stem : Text) : Except Error Int := Payload.toInt (.text stem)

/-- The texts of the files taken for games, with their numbers. -/
def numbered (d : Directory) : Except Error (List (Int × Text)) :=
  (gameFiles d).mapM fun f => (number f.1).map fun n => (n, f.2)

/-- Opens a directory. New games are numbered from past the greatest number there. -/
def «open» (d : Directory) : Except Error Folder := do
  let files ← numbered d
  let ids : IdSequence :=
    match (files.map (·.1)).max? with
    | none => {}
    | some greatest => IdSequence.advancePast {} greatest
  return { directory := d, ids }

/-- The game in the file of `id`. -/
def get? (s : Folder) (id : Int) : Except Error (Option Game) :=
  match s.directory.text? (fileName id) with
  | some t => (Payload.read t).map some
  | none => .ok none

/-- All games, by ascending number of their files. -/
def games (s : Folder) : Except Error (List Game) := do
  let files ← numbered s.directory
  (files.mergeSort fun a b => decide (a.1 ≤ b.1)).mapM fun f => Payload.read f.2

/-- Writes a game into the file of `id`. -/
def write (s : Folder) (id : Int) (game : Game) : Except Error Folder :=
  (Payload.write game).map fun text =>
    { s with directory := s.directory.write (fileName id) (.file text) }

/-- Adds a game, which is given a number when it has none. The number stays used when the game
cannot be written. -/
def add (s : Folder) (claim : Claim) (game : Game) : Except Error Game × Folder :=
  match s.ids.assign claim with
  | .error e => (.error e, s)
  | .ok (id, ids) =>
    let game := { game with id := some id }
    let s := { s with ids }
    match s.write id game with
    | .error e => (.error e, s)
    | .ok s => (.ok game, s)

/-- Writes a game into its file, which has to be there. -/
def update (s : Folder) (game : Game) : Except Error Folder :=
  match game.id with
  | none => .error (.unknownGame none)
  | some id =>
    match s.directory.get? (fileName id) with
    | none => .error (.unknownGame (some id))
    | some _ => s.write id game

def remove (s : Folder) (id : Int) : Folder :=
  { s with directory := s.directory.erase (fileName id) }

end Folder

end TextAdventure
