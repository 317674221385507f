import TextAdventure.Json.Basic
import TextAdventure.Text.Printable
import TextAdventure.Decimal.Float

/-! Values as messages show them. A text alone is shown as it is, and inside a list or an object
between quotes. -/

namespace TextAdventure.Json

def lowerHex (digits n : Nat) : Text :=
  let hex := (Nat.toDigits 16 n).map CodePoint.ofChar
  List.replicate (digits - hex.length) (CodePoint.ofChar '0') ++ hex

/-- A character inside quotes of the kind `mark`. -/
def showPoint (mark c : CodePoint) : Text :=
  if c = mark ∨ c = '\\' then [CodePoint.ofChar '\\', c]
  else if c = '\n' then "\\n"
  else if c = '\r' then "\\r"
  else if c = '\t' then "\\t"
  else if c.isPrintable then [c]
  else if c.val < 0x100 then "\\x" ++ lowerHex 2 c.val
  else if c.val < 0x10000 then "\\u" ++ lowerHex 4 c.val
  else "\\U" ++ lowerHex 8 c.val

/-- A text between quotes: single ones, unless it holds single quotes and no double ones. -/
def showText (t : Text) : Text :=
  let single := CodePoint.ofChar '\''
  let double := CodePoint.ofChar '"'
  let mark := if t.contains single && !t.contains double then double else single
  mark :: t.flatMap (showPoint mark) ++ [mark]

mutual

/-- A value as part of another. -/
def showPart : Json → Text
  | null => "None"
  | bool true => "True"
  | bool false => "False"
  | int n => Text.ofInt n
  | float x => Decimal.text x
  | text t => showText t
  | list [] => "[]"
  | list (x :: xs) => "[" ++ showPart x ++ showItems xs
  | object [] => "\x7b\x7d"
  | object ((k, v) :: rest) => "\x7b" ++ showText k ++ ": " ++ showPart v ++ showFields rest

def showItems : List Json → Text
  | [] => "]"
  | x :: xs => ", " ++ showPart x ++ showItems xs

def showFields : List (Text × Json) → Text
  | [] => "\x7d"
  | (k, v) :: rest => ", " ++ showText k ++ ": " ++ showPart v ++ showFields rest

end

/-- A value on its own. -/
def display : Json → Text
  | text t => t
  | v => showPart v

end TextAdventure.Json
