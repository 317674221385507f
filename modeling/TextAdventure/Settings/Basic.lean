import TextAdventure.Settings.Path
import TextAdventure.Story.Field
import TextAdventure.Decimal.Numeral

/-! The settings of an engine, given directly or read from environment variables. A variable that
holds blanks alone counts as unset. -/

namespace TextAdventure

inductive LogLevel where
  | critical | error | warning | info | debug
deriving DecidableEq

namespace LogLevel

def all : List LogLevel := [critical, error, warning, info, debug]

def name : LogLevel → String
  | critical => "CRITICAL"
  | error => "ERROR"
  | warning => "WARNING"
  | info => "INFO"
  | debug => "DEBUG"

/-- A letter in upper case, as far as names of levels need it: `a` to `z` and the dotless i. -/
def upper (c : CodePoint) : CodePoint :=
  if 97 ≤ c.val ∧ c.val ≤ 122 then CodePoint.ofNat (c.val - 32)
  else if c.val = 0x131 then CodePoint.ofNat 0x49
  else c

/-- The level that a text names in either case. -/
def read (t : Text) : Except Error LogLevel :=
  match all.find? fun level => t.strip.map upper = Text.ofString level.name with
  | some level => .ok level
  | none => .error (.badSetting .logLevel)

end LogLevel

/-- The settings of an engine. `busyTimeout` is how many seconds an operation waits for a game that
another one holds; without `maxInstructions` scripts run as long as they like. -/
structure Settings where
  defaultLanguage : Text := "en"
  emptyCopyText : Text := "empty copy"
  busyTimeout : Float := 0.0
  maxInstructions : Option Int := none
  gameStore : Option Text := none
  logLevel : LogLevel := .info
deriving DecidableEq

namespace Settings

def create (defaultLanguage : Text := "en") (emptyCopyText : Text := "empty copy")
    (busyTimeout : Float := 0.0) (maxInstructions : Option Int := none)
    (gameStore : Option Text := none) (logLevel : Text := "INFO") : Except Error Settings := do
  let logLevel ← LogLevel.read logLevel
  return {
    defaultLanguage := defaultLanguage.strip.lower
    emptyCopyText, busyTimeout, maxInstructions, gameStore, logLevel }

/-- What a variable holds between its blanks, if it holds anything. -/
def filled (value : Option Text) : Option Text :=
  value.bind fun t => if t.strip = [] then none else some t.strip

/-- A number of seconds that is not negative. -/
def readBusyTimeout (value : Option Text) : Except Error Float :=
  match filled value with
  | none => .ok 0.0
  | some t =>
    match Numeral.float? t with
    | none => .error (.badSetting .busyTimeoutNumeral)
    | some seconds =>
      if seconds < 0.0 then .error (.badSetting .busyTimeoutNegative) else .ok seconds

/-- A positive number of instructions. -/
def readMaxInstructions (value : Option Text) : Except Error (Option Int) :=
  match filled value with
  | none => .ok none
  | some t =>
    match Numeral.int t with
    | .error _ => .error (.badSetting .maxInstructionsNumeral)
    | .ok n =>
      if n < 1 then .error (.badSetting .maxInstructionsNotPositive) else .ok (some n)

/-- A directory, in the normal form of its name. -/
def readGameStore (homes : Text → Option Text) (value : Option Text) :
    Except Error (Option Text) :=
  match filled value with
  | none => .ok none
  | some t => ((Path.read t).expandHome homes).map fun path => some path.text

/-- The settings in environment variables, whose values `value?` gives; `homes` gives the home
directories of users. -/
def ofEnvironment (homes : Text → Option Text) (value? : String → Option Text) :
    Except Error Settings := do
  let busyTimeout ← readBusyTimeout (value? "ADVENTURE_RUNTIME_BUSY_TIMEOUT")
  let maxInstructions ← readMaxInstructions (value? "ADVENTURE_RUNTIME_MAX_INSTRUCTIONS")
  let gameStore ← readGameStore homes (value? "ADVENTURE_RUNTIME_GAME_STORE_DIR")
  create ((filled (value? "ADVENTURE_RUNTIME_DEFAULT_LANGUAGE")).getD "en")
    ((filled (value? "ADVENTURE_RUNTIME_EMPTY_COPY_TEXT")).getD "empty copy")
    busyTimeout maxInstructions gameStore
    ((filled (value? "ADVENTURE_RUNTIME_LOG_LEVEL")).getD "INFO")

end Settings

end TextAdventure
