import TextAdventure.Text.Utf8
import TextAdventure.Json.Display
import TextAdventure.Json.Reader

/-! Everything that can go wrong, by cause. `Error.message` holds all wording. -/

namespace TextAdventure

/-- The kinds of record that can be asked for. -/
inductive Kind where
  | adventure | location | route | script | game | content | copy | language
deriving DecidableEq

def Kind.name : Kind → String
  | .adventure => "adventure"
  | .location => "location"
  | .route => "route"
  | .script => "script"
  | .game => "game"
  | .content => "content"
  | .copy => "copy"
  | .language => "language"

/-- What a record was asked for by: a number, or any other value. -/
inductive Identifier where
  | number (n : Int)
  | other (given : Json)
deriving DecidableEq

namespace Identifier

instance : Coe Int Identifier := ⟨number⟩

def ofJson : Json → Identifier
  | .int n => number n
  | v => other v

/-- A text that names a record. -/
def name (t : Text) : Identifier := other (.text t)

def text : Identifier → Text
  | number n => Text.ofInt n
  | other v => v.display

/-- The number that an identifier amounts to. Truth values count as one and zero. -/
def key? : Identifier → Option Int
  | number n => some n
  | other (.bool b) => some (if b then 1 else 0)
  | other (.float x) =>
    (Decimal.truncate? x).filter fun n => Decimal.toFloat (n < 0) n.natAbs 0 == x
  | other _ => none

end Identifier

/-- Why an include edge is refused. -/
inductive IncludeFault where
  | itself (script : Int)
  | foreign (including included : Int)
  | cycle (including included : Int)
deriving DecidableEq

/-- The settings that are read from numerals, and how each can be wrong. -/
inductive SettingFault where
  | busyTimeoutNumeral | busyTimeoutNegative
  | maxInstructionsNumeral | maxInstructionsNotPositive
  | logLevel
deriving DecidableEq

/-- Why a stored game cannot be read. -/
inductive PayloadFault where
  | notObject
  | missing (field : String)
  | stateNotText
deriving DecidableEq

/-- Why a target of a request is none. -/
inductive TargetFault where
  | tooLong
  | control (c : CodePoint) (position : Nat)
deriving DecidableEq

/-- The families of errors. -/
inductive Error.Category where
  | engine | key | place | value | type | overflow | access | environment
  | json | bytes | text | target | reply | lua
deriving DecidableEq

def Error.Category.name : Error.Category → String
  | .engine | .environment => "RuntimeError"
  | .key => "KeyError"
  | .place => "IndexError"
  | .value => "ValueError"
  | .type => "TypeError"
  | .overflow => "OverflowError"
  | .access => "AttributeError"
  | .json => "JSONDecodeError"
  | .bytes => "UnicodeDecodeError"
  | .text => "UnicodeEncodeError"
  | .target => "InvalidURL"
  | .reply => "PydanticSerializationError"
  | .lua => "LuaError"

inductive Error where
  /-- The record does not exist. -/
  | notFound (kind : Kind) (identifier : Identifier)
  /-- A script of a game failed. -/
  | scriptFailed (script : Int) (message : Text)
  /-- A script of a game was stopped because it used up its instructions. -/
  | scriptTimedOut (script : Int) (message : Text)
  /-- The route does not start where the game is. -/
  | invalidTransition (game route location : Int)
  | noInitialLocation (adventure : Int)
  | ambiguousInitialLocation (adventure : Int) (locations : List Int)
  /-- Another operation holds the game. -/
  | gameBusy (game : Int)
  /-- A script of the game was stopped, and nobody has recovered the game since. -/
  | recoveryRequired (game : Option Int)
  /-- Games still depend on the record. -/
  | resourceInUse (kind : Kind) (id : Int) (games : List Int)
  | invalidInclude (fault : IncludeFault)
  /-- A game to update is not in its store. -/
  | unknownGame (game : Option Int)
  /-- A field that has to be a text holds a value of another kind. -/
  | notText (field : String) (kind : Json.Kind)
  /-- A field that needs a text holds blanks alone. -/
  | blank (field : String)
  | unknownScriptType (given : Json)
  | negativePosition
  /-- An entry of a log has either a copy key or a text. -/
  | contentChoice
  /-- An entry does not come after the last one of its game's log. -/
  | positionTaken (game : Int) (position last : Nat)
  | negativeLimit
  | malformedIdentity
  /-- Games in files can only be asked for by integers. -/
  | gameIdNotInteger
  | languageTaken (code : Text)
  | stateNotObject
  | malformedJson (fault : Json.Fault)
  | malformedPayload (fault : PayloadFault)
  | notInteger (given : Text)
  /-- An integer has too many digits to be read, or to be written. -/
  | tooManyDigits (count : Nat)
  | tooLongToWrite
  | noIntegerOf (kind : Json.Kind)
  | integerOfNaN
  | integerOfInfinity
  | badSetting (fault : SettingFault)
  | unknownHome
  | negativeBusyTimeout
  /-- Nobody can wait that long for a game. -/
  | busyTimeoutTooLong
  | maxInstructionsNotPositive
  | scriptWithoutIdentity
  | logWithoutIdentity
  | emittedNotText (type : Text)
  | blankCopyKey
  | emptyStateKey
  | stateNotScalar (key : Text)
  /-- A list or an object cannot be looked up in a game's state. -/
  | unhashable (kind : Json.Kind)
  | badBytes (fault : Utf8.BadBytes)
  | badText (fault : Utf8.BadText)
  /-- An integer of a script does not fit into 64 bits. -/
  | integerTooLarge
  /-- Scripts may not look into the errors they catch. -/
  | accessDenied (member : Text)
  /-- A value was used as if it were of another kind. -/
  | noMember (kind : Json.Kind) (member : Text)
  /-- A script called an object that is no function. -/
  | notCallable (type : Text)
  /-- A script handed too few or too many values to its game. -/
  | missingArgument (function argument : String)
  | extraArguments (function : String) (given : Nat)
  /-- An object of the state has no such field. -/
  | missingKey (key : Json)
  /-- A list of the state has no such place. -/
  | outOfRange (assigned : Bool)
  | placeNotInteger (type : Text)
  /-- The state cannot hold the value, or not there. -/
  | notStorable (type : Text)
  | circular
  | badTarget (fault : TargetFault)
  /-- A reply over the network cannot hold half of a surrogate pair. -/
  | badReply (fault : Utf8.BadText)
  /-- Raised by a runtime, other than as an error of the game. -/
  | foreign (category : Error.Category) (message : Text)
deriving DecidableEq

namespace Error

def category : Error → Category
  | notFound .. | scriptFailed .. | scriptTimedOut .. | invalidTransition .. | noInitialLocation ..
  | ambiguousInitialLocation .. | gameBusy .. | recoveryRequired .. | resourceInUse ..
  | invalidInclude .. => .engine
  | unknownGame .. | missingKey .. => .key
  | outOfRange .. => .place
  | notText .. | malformedIdentity | gameIdNotInteger | noIntegerOf .. | emittedNotText ..
  | stateNotScalar .. | unhashable .. | notCallable .. | missingArgument .. | extraArguments ..
  | placeNotInteger .. | notStorable .. => .type
  | integerOfInfinity | busyTimeoutTooLong | integerTooLarge => .overflow
  | accessDenied .. | noMember .. => .access
  | unknownHome => .environment
  | malformedJson fault =>
    match fault.problem with
    | .tooManyDigits _ => .value
    | _ => .json
  | badBytes .. => .bytes
  | badText .. => .text
  | badTarget .. => .target
  | badReply .. => .reply
  | foreign category _ => category
  | blank .. | unknownScriptType .. | negativePosition | contentChoice | positionTaken ..
  | negativeLimit | languageTaken .. | stateNotObject | malformedPayload .. | notInteger ..
  | tooManyDigits .. | tooLongToWrite | integerOfNaN | badSetting .. | negativeBusyTimeout
  | maxInstructionsNotPositive | scriptWithoutIdentity | logWithoutIdentity | blankCopyKey
  | emptyStateKey | circular => .value

/-- The name of an error's kind. Errors of the engine each have a name of their own. -/
def kindName : Error → String
  | notFound .. => "NotFound"
  | scriptFailed .. => "ScriptExecutionError"
  | scriptTimedOut .. => "ScriptTimeoutError"
  | invalidTransition .. => "InvalidTransition"
  | noInitialLocation .. => "NoInitialLocation"
  | ambiguousInitialLocation .. => "AmbiguousInitialLocation"
  | gameBusy .. => "GameBusy"
  | recoveryRequired .. => "GameRecoveryRequired"
  | resourceInUse .. => "ResourceInUse"
  | invalidInclude .. => "InvalidInclude"
  | e => e.category.name

/-- Whether the error says that a value given was of the wrong type or out of range. Faults of
encoded text count as such. -/
def isArgument (e : Error) : Bool :=
  match e.category with
  | .value | .type | .json | .bytes | .text => true
  | _ => false

/-- How a type is shown where it is at fault. -/
def typeName (type : Text) : Text := "<class '" ++ type ++ "'>"

def includeMessage : IncludeFault → Text
  | .itself s => "script " ++ Text.ofInt s ++ " cannot include itself"
  | .foreign a b =>
    "scripts " ++ Text.ofInt a ++ " and " ++ Text.ofInt b ++ " belong to different adventures"
  | .cycle a b =>
    "including script " ++ Text.ofInt b ++ " in " ++ Text.ofInt a ++ " creates a cycle"

def settingMessage : SettingFault → Text
  | .busyTimeoutNumeral => "ADVENTURE_RUNTIME_BUSY_TIMEOUT must be a number of seconds."
  | .busyTimeoutNegative => "ADVENTURE_RUNTIME_BUSY_TIMEOUT must not be negative."
  | .maxInstructionsNumeral => "ADVENTURE_RUNTIME_MAX_INSTRUCTIONS must be a positive integer."
  | .maxInstructionsNotPositive => "ADVENTURE_RUNTIME_MAX_INSTRUCTIONS must be greater than zero."
  | .logLevel => "log_level must be one of CRITICAL, ERROR, WARNING, INFO, DEBUG"

def payloadMessage : PayloadFault → Text
  | .notObject => "Invalid game payload: expected an object"
  | .missing field => "Invalid game payload: missing " ++ field
  | .stateNotText => "Invalid game payload: state must be a JSON string"

/-- A problem with JSON text is shown with its place, unless it is an integer with too many
digits. -/
def jsonMessage (f : Json.Fault) : Text :=
  match f.problem with
  | .tooManyDigits _ => f.problem.text
  | problem =>
    problem.text ++ ": line " ++ Text.ofNat f.line ++ " column " ++ Text.ofNat f.column ++
      " (char " ++ Text.ofNat f.position ++ ")"

/-- The place of `count` items from `position` on. -/
def span (position count : Nat) : Text :=
  if count ≤ 1 then Text.ofNat position
  else Text.ofNat position ++ "-" ++ Text.ofNat (position + count - 1)

def targetMessage : TargetFault → Text
  | .tooLong => "URL too long"
  | .control c position =>
    "Invalid non-printable ASCII character in URL, " ++ Json.showText [c] ++ " at position " ++
      Text.ofNat position ++ "."

def bytesMessage (f : Utf8.BadBytes) : Text :=
  (if f.count ≤ 1 then "'utf-8' codec can't decode byte 0x" ++ Json.lowerHex 2 f.byte.toNat
    else "'utf-8' codec can't decode bytes") ++
    " in position " ++ span f.position f.count ++ ": " ++ f.reason.text

def textMessage (f : Utf8.BadText) : Text :=
  (if f.count ≤ 1 then
      "'utf-8' codec can't encode character '\\u" ++ Json.lowerHex 4 f.point.val ++ "'"
    else "'utf-8' codec can't encode characters") ++
    " in position " ++ span f.position f.count ++ ": surrogates not allowed"

/-- The text of an error. -/
def message : Error → Text
  | notFound kind id => kind.name ++ " '" ++ id.text ++ "' does not exist"
  | scriptFailed s m => "script " ++ Text.ofInt s ++ " failed: " ++ m
  | scriptTimedOut s m => "script " ++ Text.ofInt s ++ " failed: " ++ m
  | invalidTransition g r l =>
    "route " ++ Text.ofInt r ++ " does not leave location " ++ Text.ofInt l ++ " of game " ++
      Text.ofInt g
  | noInitialLocation a => "adventure " ++ Text.ofInt a ++ " has no initial location"
  | ambiguousInitialLocation a ls =>
    "adventure " ++ Text.ofInt a ++ " has " ++ Text.ofNat ls.length ++ " initial locations"
  | gameBusy g => "game " ++ Text.ofInt g ++ " is busy"
  | recoveryRequired g => "game " ++ Text.ofId? g ++ " needs recovery before it can continue"
  | resourceInUse kind id gs =>
    kind.name ++ " '" ++ Text.ofInt id ++ "' is used by " ++ Text.ofNat gs.length ++
      " active game(s)"
  | invalidInclude fault => includeMessage fault
  | unknownGame g => "Game '" ++ Text.ofId? g ++ "' does not exist"
  | notText field kind => field ++ " must be a string, got " ++ typeName kind.name
  | blank field => field ++ " must be a non-empty string"
  | unknownScriptType given => Json.showPart given ++ " is not a valid ScriptType"
  | negativePosition => "content position must be zero or positive"
  | contentChoice => "content requires exactly one of copy_key or text"
  | positionTaken g p last =>
    "content position " ++ Text.ofNat p ++ " does not follow " ++ Text.ofNat last ++
      " for game " ++ Text.ofInt g
  | negativeLimit => "limit must be non-negative when provided"
  | gameIdNotInteger => "game_id must be an integer"
  | malformedIdentity => "entity identities must be integers"
  | languageTaken code => "language code '" ++ code ++ "' is already registered"
  | stateNotObject => "game state must decode to a JSON object"
  | malformedJson fault => jsonMessage fault
  | malformedPayload fault => payloadMessage fault
  | notInteger given =>
    "invalid literal for int() with base 10: " ++ (Json.showText given).take 200
  | tooManyDigits count => Numeral.tooManyDigits count
  | tooLongToWrite =>
    "Exceeds the limit (4300 digits) for integer string conversion; " ++
      "use sys.set_int_max_str_digits() to increase the limit"
  | noIntegerOf kind =>
    "int() argument must be a string, a bytes-like object or a real number, not '" ++ kind.name ++
      "'"
  | integerOfNaN => "cannot convert float NaN to integer"
  | integerOfInfinity => "cannot convert float infinity to integer"
  | badSetting fault => settingMessage fault
  | unknownHome => "Could not determine home directory."
  | negativeBusyTimeout => "busy_timeout must not be negative"
  | busyTimeoutTooLong => "timestamp too large to convert to C _PyTime_t"
  | maxInstructionsNotPositive => "max_instructions must be greater than zero"
  | scriptWithoutIdentity => "cannot execute a script without an identity"
  | logWithoutIdentity => "cannot log content for a game without an identity"
  | emittedNotText type => "emitted text must be a string, got " ++ typeName type
  | blankCopyKey => "copy key must be a non-empty string"
  | emptyStateKey => "state keys must be non-empty strings"
  | stateNotScalar key =>
    "state value for '" ++ key ++ "' must be a string, number or boolean"
  | unhashable kind => "unhashable type: '" ++ kind.name ++ "'"
  | badBytes fault => bytesMessage fault
  | badText fault => textMessage fault
  | integerTooLarge => "Python int too large to convert to C long"
  | accessDenied member => "access to '" ++ member ++ "' is not allowed from scripts"
  | noMember kind member => "'" ++ kind.name ++ "' object has no attribute '" ++ member ++ "'"
  | notCallable type => "'" ++ type ++ "' object is not callable"
  | missingArgument function argument =>
    function ++ "() missing 1 required positional argument: '" ++ argument ++ "'"
  | extraArguments function given =>
    function ++ "() takes 2 positional arguments but " ++ Text.ofNat (given + 1) ++ " were given"
  | missingKey key => key.display
  | outOfRange assigned =>
    if assigned then "list assignment index out of range" else "list index out of range"
  | placeNotInteger type => "list indices must be integers or slices, not " ++ type
  | notStorable type => "Object of type " ++ type ++ " is not JSON serializable"
  | circular => "Circular reference detected"
  | badTarget fault => targetMessage fault
  | badReply fault => "Error serializing to JSON: UnicodeEncodeError: " ++ textMessage fault
  | foreign _ message => message

/-- An error as a text. A key that is missing is shown between quotes. -/
def display : Error → Text
  | missingKey key => key.showPart
  | e => e.message

end Error

end TextAdventure
