import TextAdventure.Game.Basic
import TextAdventure.Game.Content
import TextAdventure.Script.Play
import TextAdventure.Text.Blank

/-! How the requests of a script are answered. The rules are the same wherever a game is played;
where its output goes and where its copy comes from is left to the place. -/

namespace TextAdventure

/-- A place where games are played: where output is logged, and what keys of copy stand for. -/
structure Place (σ : Type) where
  log : Game → Body → σ → Except Error Content × σ
  lookUp : Game → Json → σ → Except Error Text

/-- A game while a script of it runs: what it has emitted so far, and everything around it. -/
structure Stage (σ : Type) where
  game : Game
  emitted : List Content := []
  around : σ

namespace Stage

variable {σ : Type}

/-- Shows an entry to the player. -/
def display (place : Place σ) (body : Body) (s : Stage σ) : Except Error Unit × Stage σ :=
  match place.log s.game body s.around with
  | (.ok entry, around) => (.ok (), { s with emitted := s.emitted ++ [entry], around })
  | (.error e, around) => (.error e, { s with around })

def emit (place : Place σ) (text : Json) (s : Stage σ) : Except Error Unit × Stage σ :=
  match text with
  | .text t => s.display place (.literal t)
  | v => (.error (.emittedNotText v.kind.name), s)

/-- Emits the copy of a key, which is taken between its blanks. -/
def emitCopy (place : Place σ) (key : Json) (s : Stage σ) : Except Error Unit × Stage σ :=
  match key with
  | .text k => if k.strip = [] then (.error .blankCopyKey, s) else s.display place (.copy k.strip)
  | _ => (.error .blankCopyKey, s)

/-- The value under a key of the game's state; a key that is not there has the value null. -/
def getState (key : Json) (s : Stage σ) : Except Error Json :=
  match key with
  | .text k => .ok ((s.game.state.get? k).getD .null)
  | .list _ | .object _ => .error (.unhashable key.kind)
  | _ => .ok .null

/-- Puts a value under a key of the game's state. Null removes the key. -/
def setState (key value : Json) (s : Stage σ) : Except Error Unit × Stage σ :=
  match key with
  | .text [] => (.error .emptyStateKey, s)
  | .text k =>
    if value = .null then
      (.ok (), { s with game := { s.game with state := s.game.state.erase k } })
    else if value.isScalar then
      (.ok (), { s with game := { s.game with state := s.game.state.set k value } })
    else (.error (.stateNotScalar k), s)
  | _ => (.error .emptyStateKey, s)

/-- Puts values of any kind under keys of the game's state. -/
def replaceState (values : Fields) (s : Stage σ) : Stage σ :=
  { s with
    game := { s.game with state := values.foldl (fun fs f => Fields.set f.1 f.2 fs) s.game.state } }

def bearings (s : Stage σ) : Bearings :=
  { game := s.game.id, location := s.game.location, adventure := s.game.adventure,
    language := s.game.language }

/-- Answers a request. -/
def answer (place : Place σ) (s : Stage σ) : (r : Request) → r.Reply × Stage σ
  | .emit text => s.emit place text
  | .emitCopy key => s.emitCopy place key
  | .getState key => (s.getState key, s)
  | .setState key value => s.setState key value
  | .replaceState values => ((), s.replaceState values)
  | .lookUp key => (place.lookUp s.game key s.around, s)
  | .bearings => (s.bearings, s)

end Stage

/-- Runs a script to its end. -/
def Play.run {σ α : Type} (place : Place σ) (host : Json → Stage σ → Json × Stage σ) :
    Play α → Stage σ → α × Stage σ
  | .done a, s => (a, s)
  | .ask r next, s =>
    match s.answer place r with
    | (reply, s) => (next reply).run place host s
  | .call q next, s =>
    match host q s with
    | (reply, s) => (next reply).run place host s

/-- A place without stores: entries are numbered from zero and given no identity, and `copies` holds
all copy there is. What is around is the number of entries. -/
def Place.bare (copies : List (Text × Text)) : Place Nat where
  log game body count :=
    (.ok { game := game.id.getD 0, position := count, body }, count + 1)
  lookUp _ key _ :=
    match key with
    | .text k => .ok (((copies.find? fun c => c.1 = k).map (·.2)).getD "empty copy")
    | .list _ | .object _ => .error (.unhashable key.kind)
    | _ => .ok "empty copy"

end TextAdventure
