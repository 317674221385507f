import TextAdventure.Authoring.Copies
import TextAdventure.Engine.Basic
import TextAdventure.Lua.Play

/-! Opening an engine over new stores. -/

namespace TextAdventure

/-- The language that an engine has when it is given none. -/
def defaultLanguage (settings : Settings) : Except Error Language :=
  Language.create (.text settings.defaultLanguage) (.text settings.defaultLanguage)

/-- Registers languages one after another. -/
def Languages.register : Languages → List (Claim × Language) → Except Error Languages
  | s, [] => .ok s
  | s, (claim, language) :: rest => do (← s.add claim language).2.register rest

/-- The store of games: in the files of a directory, if there is one, or else in memory. -/
def Games.open : Option Directory → Except Error Games
  | none => .ok (.memory {})
  | some directory => (Folder.open directory).map .files

namespace Engine

/-- Opens an engine. The languages are the default language alone when none are given, and each
gets its placeholder copy. -/
def «open» (settings : Settings) (runtime : Except Error (Option Runtime))
    (languages : Option (List (Claim × Language))) (directory : Option Directory) (clock : Clock)
    (keys : Keys) : Except Error (Engine × World) := do
  let languages ←
    match languages with
    | some given => pure given
    | none => (defaultLanguage settings).map fun l => [(Claim.unset, l)]
  let games ← Games.open directory
  let registered ← Languages.register {} languages
  let runtime ← runtime
  checkBusyTimeout settings.busyTimeout
  let world : World := { games, languages := registered, clock, keys }
  let (seeded, world) :=
    (Authoring.seedEmptyCopy settings.emptyCopyText (registered.list.map (·.2))).run world
  let _ ← seeded
  return ({ settings, runtime }, world)

/-- Opens an engine whose scripts are in Lua, with as many instructions as the settings allow. -/
def openWithLua (settings : Settings) (languages : Option (List (Claim × Language)))
    (directory : Option Directory) (clock : Clock) (keys : Keys) :
    Except Error (Engine × World) :=
  Engine.open settings ((Lua.runtime settings.maxInstructions).map some) languages directory clock
    keys

end Engine

end TextAdventure
