import TextAdventure.Json.Basic
import TextAdventure.Decimal.Float

/-! JSON text in ASCII alone. The compact form has no spaces; it is how the state of a game is
stored. NaN and the infinities are written as words. -/

namespace TextAdventure.Json

/-- A hexadecimal digit, in lower case. -/
def hexDigit (n : Nat) : CodePoint := CodePoint.ofNat (if n < 10 then 48 + n else 87 + n)

/-- The escape of a number below 65536. -/
def escapeUnit (n : Nat) : Text :=
  "\\u" ++ [hexDigit (n / 4096 % 16), hexDigit (n / 256 % 16), hexDigit (n / 16 % 16),
    hexDigit (n % 16)]

/-- A character inside quotes. All that is not printed ASCII is escaped, past U+FFFF by a surrogate
pair. -/
def escape (c : CodePoint) : Text :=
  if c = '"' then "\\\""
  else if c = '\\' then "\\\\"
  else if c = '\n' then "\\n"
  else if c = '\r' then "\\r"
  else if c = '\t' then "\\t"
  else if c.val = 8 then "\\b"
  else if c.val = 12 then "\\f"
  else if 32 ≤ c.val ∧ c.val < 127 then [c]
  else if c.val < 0x10000 then escapeUnit c.val
  else escapeUnit (0xD800 + (c.val - 0x10000) / 1024) ++
    escapeUnit (0xDC00 + (c.val - 0x10000) % 1024)

/-- A text between quotes. -/
def quote (t : Text) : Text := "\"" ++ t.flatMap escape ++ "\""

/-- The format of floating point numbers in JSON. -/
def numbers : Decimal.Layout := { Decimal.plain with infinity := "Infinity", nan := "NaN" }

mutual

/-- The compact text of a value. -/
def compact : Json → Text
  | null => "null"
  | bool true => "true"
  | bool false => "false"
  | int n => Text.ofInt n
  | float x => numbers.float Decimal.Double.shortest x
  | text t => quote t
  | list [] => "[]"
  | list (x :: xs) => "[" ++ compact x ++ compactItems xs
  | object [] => "\x7b\x7d"
  | object ((k, v) :: rest) => "\x7b" ++ quote k ++ ":" ++ compact v ++ compactFields rest

/-- The items after the first, with the closing bracket. -/
def compactItems : List Json → Text
  | [] => "]"
  | x :: xs => "," ++ compact x ++ compactItems xs

/-- The fields after the first, with the closing brace. -/
def compactFields : List (Text × Json) → Text
  | [] => "\x7d"
  | (k, v) :: rest => "," ++ quote k ++ ":" ++ compact v ++ compactFields rest

end

/-- An object with one field to a line, each indented by two spaces; the values are compact. -/
def onLines (fields : Fields) : Text :=
  "\x7b\n" ++
    Text.join ",\n" (fields.map fun f => "  " ++ quote f.1 ++ ": " ++ compact f.2) ++ "\n\x7d"

end TextAdventure.Json
