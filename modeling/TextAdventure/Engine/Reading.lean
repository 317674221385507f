import TextAdventure.Engine.Basic

/-! Reading what games have shown, and appending to it from outside. -/

namespace TextAdventure

namespace Engine

/-- The entries of a game's log from `start` on, at most `limit` of them. -/
def contents (game : Identifier) (start : Int := 0) (limit : Option Int := none) :
    Op (List Content) := do
  let _ ← World.game game
  Op.ofExcept ((← get).journal.slice (← World.gameNumber game) start limit)

/-- The text at a position of a game's log, in the language of the game. -/
def textAt (engine : Engine) (game position : Identifier) : Op Text := do
  let found ← World.game game
  let id ← World.gameNumber game
  let w ← get
  match position.key?.bind (w.journal.get? id) with
  | none => throw (.notFound .content (.name (game.text ++ ":" ++ position.text)))
  | some entry => return entry.shownText engine.lookup w.copies found.language

/-- All texts of a game's log, in the language of the game. -/
def transcript (engine : Engine) (game : Identifier) : Op (List Text) := do
  let found ← World.game game
  let id ← World.gameNumber game
  engine.texts ((← get).journal.entries id) found.language

/-- Appends an entry, a copy key or a text, to the log of a game. -/
def append (game : Game) (copyKey text : Option Text) : Op Content := do
  if game.id.isNone then throw .logWithoutIdentity
  World.log game (← Op.ofExcept (Body.ofParts copyKey text))

/-- Drops the log of a game. -/
def clearLog (game : Int) : Op Unit :=
  modify fun w => { w with journal := w.journal.clear game }

end Engine

end TextAdventure
