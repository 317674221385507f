/-! Text is a list of code points. Surrogates are code points like any other, because an escape in
a stored state can name one alone, and such a state has to be written back unchanged. -/

namespace TextAdventure

/-- A Unicode code point, surrogates included. -/
structure CodePoint where
  val : Nat
  isLt : val < 0x110000
deriving DecidableEq

namespace CodePoint

/-- The code point numbered `n`; a number past the last code point gives the replacement
character. -/
def ofNat (n : Nat) : CodePoint :=
  if h : n < 0x110000 then ⟨n, h⟩ else ⟨0xFFFD, by decide⟩

def ofChar (c : Char) : CodePoint :=
  ⟨c.toNat, by
    have h := c.valid
    simp only [UInt32.isValidChar, Nat.isValidChar] at h
    simp only [Char.toNat]
    omega⟩

instance : Coe Char CodePoint := ⟨ofChar⟩

/-- Surrogates stand for halves of a pair and have no encoding of their own. -/
def isSurrogate (c : CodePoint) : Bool := 0xD800 ≤ c.val && c.val < 0xE000

/-- The character of a code point that is no surrogate. -/
def toChar? (c : CodePoint) : Option Char :=
  if h : c.val.isValidChar then some (Char.ofNatAux c.val h) else none

theorem val_ofNat {n : Nat} (h : n < 0x110000) : (ofNat n).val = n := by simp [ofNat, h]

end CodePoint

/-- A text is the list of its code points. -/
abbrev Text := List CodePoint

namespace Text

def ofString (s : String) : Text := s.toList.map CodePoint.ofChar

instance : Coe String Text := ⟨ofString⟩

/-- The text as a string, with the replacement character for a surrogate. -/
def toString (t : Text) : String :=
  String.ofList (t.map fun c => c.toChar?.getD '\uFFFD')

/-- Decimal digits of a natural number. -/
def ofNat (n : Nat) : Text := (Nat.toDigits 10 n).map CodePoint.ofChar

/-- Decimal digits of an integer, after a sign when it is negative. -/
def ofInt : Int → Text
  | .ofNat n => ofNat n
  | .negSucc n => "-" ++ ofNat (n + 1)

/-- An absent number is spelled `None`. -/
def ofId? : Option Int → Text
  | some n => ofInt n
  | none => "None"

/-- The parts in order, with `separator` between neighbours. -/
def join (separator : Text) (parts : List Text) : Text := separator.intercalate parts

/-- Whether `part` occurs in the text. -/
def has (part : Text) : Text → Bool
  | [] => part.isEmpty
  | c :: rest => part.isPrefixOf (c :: rest) || has part rest

/-- The lines of a text: what stands between its line feeds. -/
def lines (t : Text) : List Text := t.splitOn (CodePoint.ofChar '\n')

end Text

end TextAdventure
