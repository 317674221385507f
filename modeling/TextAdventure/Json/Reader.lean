import TextAdventure.Json.Basic
import TextAdventure.Decimal.Float
import TextAdventure.Decimal.Numeral
import TextAdventure.Text.Ascii

/-! Reading JSON text. A fault is reported with its line, its column and its distance from the
start, all counted in code points. -/

namespace TextAdventure.Json

/-- What can be wrong with JSON text. -/
inductive Problem where
  | value | propertyName | colon | comma | extraData
  | unterminated | controlCharacter | badEscape | badUnicodeEscape | byteOrderMark
  /-- An integer has too many digits. -/
  | tooManyDigits (count : Nat)
deriving DecidableEq

def Problem.text : Problem → Text
  | .value => "Expecting value"
  | .propertyName => "Expecting property name enclosed in double quotes"
  | .colon => "Expecting ':' delimiter"
  | .comma => "Expecting ',' delimiter"
  | .extraData => "Extra data"
  | .unterminated => "Unterminated string starting at"
  | .controlCharacter => "Invalid control character at"
  | .badEscape => "Invalid \\escape"
  | .badUnicodeEscape => "Invalid \\uXXXX escape"
  | .byteOrderMark => "Unexpected UTF-8 BOM (decode using utf-8-sig)"
  | .tooManyDigits count => Numeral.tooManyDigits count

/-- A problem and the place of its first character. -/
structure Fault where
  problem : Problem
  line : Nat
  column : Nat
  position : Nat
deriving DecidableEq

/-- A problem where `left` code points of the text remain. -/
structure Stop where
  problem : Problem
  left : Nat

/-- The fault of a stop in `source`. -/
def Stop.locate (source : Text) (stop : Stop) : Fault :=
  let before := source.take (source.length - stop.left)
  let lineFeed := CodePoint.ofChar '\n'
  { problem := stop.problem
    line := before.count lineFeed + 1
    column := (before.reverse.takeWhile (· ≠ lineFeed)).length + 1
    position := before.length }

/-- What is left of the text after a value, or where reading stopped. -/
abbrev Step (α : Type) := Except Stop (α × Text)

/-- Space, tab, line feed and carriage return. -/
def isSpace (c : CodePoint) : Bool := c.val == 32 || c.val == 9 || c.val == 10 || c.val == 13

def skipSpaces (t : Text) : Text := t.dropWhile isSpace

/-- Four hexadecimal digits. -/
def unit? : Text → Option (Nat × Text)
  | a :: b :: c :: d :: rest => do
    let a ← a.hexValue?
    let b ← b.hexValue?
    let c ← c.hexValue?
    let d ← d.hexValue?
    some (a * 4096 + b * 256 + c * 16 + d, rest)
  | _ => none

/-- The code point of an escape whose four digits start `t`, with one more character to come after
them. A high surrogate and the low one escaped after it are one code point. `letter` is the text
from the escape's letter on. -/
def unicodeEscape (letter t : Text) : Step CodePoint :=
  match unit? t with
  | none => .error ⟨.badUnicodeEscape, letter.length⟩
  | some (high, rest) =>
    let alone : Step CodePoint := .ok (CodePoint.ofNat high, rest)
    if rest = [] then .error ⟨.badUnicodeEscape, letter.length⟩
    else if 0xD800 ≤ high ∧ high < 0xDC00 ∧ rest.drop 6 ≠ [] then
      match rest with
      | b :: u :: digits =>
        if b = '\\' ∧ u = 'u' then
          match unit? digits with
          | none => .error ⟨.badUnicodeEscape, digits.length + 1⟩
          | some (low, after) =>
            if 0xDC00 ≤ low ∧ low < 0xE000 then
              .ok (CodePoint.ofNat (0x10000 + (high - 0xD800) * 1024 + (low - 0xDC00)), after)
            else alone
        else alone
      | _ => alone
    else alone

/-- The character of a one-letter escape. -/
def shortEscape? (c : CodePoint) : Option CodePoint :=
  if c = '"' ∨ c = '\\' ∨ c = '/' then some c
  else if c = 'b' then some (CodePoint.ofNat 8)
  else if c = 'f' then some (CodePoint.ofNat 12)
  else if c = 'n' then some (CodePoint.ofNat 10)
  else if c = 'r' then some (CodePoint.ofNat 13)
  else if c = 't' then some (CodePoint.ofNat 9)
  else none

/-- The rest of a quoted text; `opened` is the text from its opening quote on. Each round reads a
character or an escape; `fuel` bounds the rounds. -/
def quoted (opened : Text) : Nat → Text → Text → Step Text
  | 0, _, _ => .error ⟨.unterminated, opened.length⟩
  | _ + 1, _, [] => .error ⟨.unterminated, opened.length⟩
  | fuel + 1, done, c :: rest =>
    if c = '"' then .ok (done.reverse, rest)
    else if c = '\\' then
      match rest with
      | [] => .error ⟨.unterminated, opened.length⟩
      | e :: after =>
        if e = 'u' then
          match unicodeEscape rest after with
          | .error stop => .error stop
          | .ok (point, after) => quoted opened fuel (point :: done) after
        else
          match shortEscape? e with
          | some point => quoted opened fuel (point :: done) after
          | none => .error ⟨.badEscape, rest.length + 1⟩
    else if c.val ≤ 0x1F then .error ⟨.controlCharacter, rest.length + 1⟩
    else quoted opened fuel (c :: done) rest

/-- A fraction, if a digit follows the point. -/
def fraction? : Text → Option (Text × Text)
  | point :: rest =>
    let digits := rest.takeWhile CodePoint.isAsciiDigit
    if point = '.' ∧ digits ≠ [] then some (digits, rest.dropWhile CodePoint.isAsciiDigit)
    else none
  | [] => none

/-- An exponent, if it has a digit. -/
def exponent? : Text → Option (Int × Text)
  | e :: rest =>
    let (negative, rest) : Bool × Text :=
      match rest with
      | s :: after =>
        if s = '-' then (true, after) else if s = '+' then (false, after) else (false, rest)
      | [] => (false, rest)
    let digits := rest.takeWhile CodePoint.isAsciiDigit
    if (e = 'e' ∨ e = 'E') ∧ digits ≠ [] then
      let n : Int := Text.digitsValue digits
      some (if negative then -n else n, rest.dropWhile CodePoint.isAsciiDigit)
    else none
  | [] => none

/-- Whether a minus sign comes first, and what comes after it. -/
def minus : Text → Bool × Text
  | [] => (false, [])
  | c :: rest => if c = '-' then (true, rest) else (false, c :: rest)

/-- The digits before the point, and what comes after them. They do not start with a zero unless they
are one zero. -/
def wholePart : Text → Text × Text
  | [] => ([], [])
  | d :: rest =>
    if d = '0' then ([d], rest)
    else ((d :: rest).takeWhile CodePoint.isAsciiDigit, (d :: rest).dropWhile CodePoint.isAsciiDigit)

/-- A number: a sign, digits, and perhaps a fraction and an exponent, which make it a floating point
number. -/
def number? (t : Text) : Option (Step Json) :=
  let (negative, body) := minus t
  let (whole, rest) := wholePart body
  if whole = [] then none
  else
    let fraction := fraction? rest
    let rest := (fraction.map (·.2)).getD rest
    let exponent := exponent? rest
    let rest := (exponent.map (·.2)).getD rest
    if fraction.isNone ∧ exponent.isNone then
      if Numeral.mostDigits < whole.length then
        some (.error ⟨.tooManyDigits whole.length, rest.length⟩)
      else
        let n : Int := Text.digitsValue whole
        some (.ok (.int (if negative then -n else n), rest))
    else
      let places := (fraction.map (·.1)).getD []
      let power := (exponent.map (·.1)).getD 0 - places.length
      let x := Decimal.toFloat negative (Text.digitsValue (whole ++ places)) power
      some (.ok (.float x, rest))

/-- The words that are values. -/
def literals : List (Text × Json) :=
  [("null", .null), ("true", .bool true), ("false", .bool false), ("NaN", .float (0.0 / 0.0)),
    ("Infinity", .float (1.0 / 0.0)), ("-Infinity", .float (-1.0 / 0.0))]

/-- A value that is neither a text nor a list nor an object. -/
def atom? (t : Text) : Option (Step Json) :=
  match literals.find? fun l => l.1.isPrefixOf t with
  | some (word, v) => some (.ok (v, t.drop word.length))
  | none => number? t

mutual

/-- The value at the start of the text; `fuel` bounds the nesting and the number of parts. -/
def value : Nat → Text → Step Json
  | 0, t => .error ⟨.value, t.length⟩
  | _ + 1, [] => .error ⟨.value, 0⟩
  | fuel + 1, c :: rest =>
    if c = '"' then
      match quoted (c :: rest) fuel [] rest with
      | .error stop => .error stop
      | .ok (s, after) => .ok (.text s, after)
    else if c = '{' then
      match skipSpaces rest with
      | [] => .error ⟨.propertyName, 0⟩
      | d :: after => if d = '}' then .ok (.object [], after) else members fuel [] (d :: after)
    else if c = '[' then
      match skipSpaces rest with
      | [] => .error ⟨.value, 0⟩
      | d :: after => if d = ']' then .ok (.list [], after) else items fuel [] (d :: after)
    else
      match atom? (c :: rest) with
      | some step => step
      | none => .error ⟨.value, rest.length + 1⟩

/-- The items from here to the closing bracket, after those `done`. -/
def items : Nat → List Json → Text → Step Json
  | 0, _, t => .error ⟨.value, t.length⟩
  | fuel + 1, done, t =>
    match value fuel t with
    | .error stop => .error stop
    | .ok (v, rest) =>
      match skipSpaces rest with
      | [] => .error ⟨.comma, 0⟩
      | d :: after =>
        if d = ']' then .ok (.list (v :: done).reverse, after)
        else if d = ',' then items fuel (v :: done) (skipSpaces after)
        else .error ⟨.comma, after.length + 1⟩

/-- The fields from here to the closing brace, after those `done`. -/
def members : Nat → Fields → Text → Step Json
  | 0, _, t => .error ⟨.propertyName, t.length⟩
  | _ + 1, _, [] => .error ⟨.propertyName, 0⟩
  | fuel + 1, done, c :: rest =>
    if c ≠ '"' then .error ⟨.propertyName, rest.length + 1⟩
    else
      match quoted (c :: rest) fuel [] rest with
      | .error stop => .error stop
      | .ok (key, rest) =>
        match skipSpaces rest with
        | [] => .error ⟨.colon, 0⟩
        | d :: after =>
          if d ≠ ':' then .error ⟨.colon, after.length + 1⟩
          else
            match value fuel (skipSpaces after) with
            | .error stop => .error stop
            | .ok (v, rest) =>
              match skipSpaces rest with
              | [] => .error ⟨.comma, 0⟩
              | d :: after =>
                if d = '}' then .ok (.object (Fields.set key v done), after)
                else if d = ',' then members fuel (Fields.set key v done) (skipSpaces after)
                else .error ⟨.comma, after.length + 1⟩

end

/-- The value that a whole text holds, between spaces. -/
def whole (t : Text) : Except Stop Json :=
  if t.head?.map (·.val) = some 0xFEFF then .error ⟨.byteOrderMark, t.length⟩
  else
    match value (2 * t.length + 2) (skipSpaces t) with
    | .error stop => .error stop
    | .ok (v, rest) =>
      match skipSpaces rest with
      | [] => .ok v
      | rest => .error ⟨.extraData, rest.length⟩

/-- Reads a JSON text. -/
def read (t : Text) : Except Fault Json := (whole t).mapError (·.locate t)

end TextAdventure.Json
