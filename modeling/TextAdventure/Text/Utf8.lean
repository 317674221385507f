import TextAdventure.Text.Basic

/-! UTF-8, read strictly: overlong forms, surrogates and numbers past U+10FFFF are refused, and a
refusal names the bytes at fault. Surrogates cannot be written either. -/

namespace TextAdventure

/-- A string of bytes. -/
abbrev Bytes := List UInt8

/-- The bytes of an ASCII text, one for each character. -/
def Bytes.ofAscii (t : Text) : Bytes := List.map (fun c => c.val.toUInt8) t

instance : Coe String Bytes := ⟨fun s => Bytes.ofAscii s⟩

namespace Utf8

/-- Why a byte sequence is not UTF-8. -/
inductive Reason where
  | invalidStart
  | invalidContinuation
  | unexpectedEnd
deriving DecidableEq

def Reason.text : Reason → String
  | .invalidStart => "invalid start byte"
  | .invalidContinuation => "invalid continuation byte"
  | .unexpectedEnd => "unexpected end of data"

/-- A refusal of bytes: the first byte at fault, where it stands, and how many bytes are at
fault. -/
structure BadBytes where
  byte : UInt8
  position : Nat
  count : Nat
  reason : Reason
deriving DecidableEq

/-- A refusal of text: the first surrogate, where it stands, and how many stand together. -/
structure BadText where
  point : CodePoint
  position : Nat
  count : Nat
deriving DecidableEq

def isTail (b : UInt8) : Bool := 0x80 ≤ b && b ≤ 0xBF

/-- How a first byte opens a character: the number of bytes that follow it, the bounds on the first
of them, and the bits it carries itself. -/
def opening? (b : UInt8) : Option (Nat × UInt8 × UInt8 × Nat) :=
  if b ≤ 0x7F then some (0, 0x80, 0xBF, b.toNat)
  else if 0xC2 ≤ b && b ≤ 0xDF then some (1, 0x80, 0xBF, b.toNat - 0xC0)
  else if b == 0xE0 then some (2, 0xA0, 0xBF, 0)
  else if b == 0xED then some (2, 0x80, 0x9F, 0xD)
  else if 0xE1 ≤ b && b ≤ 0xEF then some (2, 0x80, 0xBF, b.toNat - 0xE0)
  else if b == 0xF0 then some (3, 0x90, 0xBF, 0)
  else if 0xF1 ≤ b && b ≤ 0xF3 then some (3, 0x80, 0xBF, b.toNat - 0xF0)
  else if b == 0xF4 then some (3, 0x80, 0x8F, 4)
  else none

/-- The bytes after a first byte, as far as they fit: `owed` of them, the first between `low` and
`high`. Gives the character's number and what is left, or the reason and the number of bytes that
did fit. -/
def tails : Nat → UInt8 → UInt8 → Nat → Nat → Bytes → Except (Reason × Nat) (Nat × Bytes)
  | 0, _, _, _, value, rest => .ok (value, rest)
  | _ + 1, _, _, seen, _, [] => .error (.unexpectedEnd, seen)
  | owed + 1, low, high, seen, value, b :: rest =>
    if low ≤ b && b ≤ high then
      tails owed 0x80 0xBF (seen + 1) (value * 64 + (b.toNat - 0x80)) rest
    else .error (.invalidContinuation, seen)

/-- Decodes at most `fuel` characters of the bytes at `position`. -/
def decodeFrom : Nat → Nat → Bytes → Except BadBytes Text
  | _, _, [] => .ok []
  | 0, _, _ :: _ => .ok []
  | fuel + 1, position, b :: rest =>
    match opening? b with
    | none => .error ⟨b, position, 1, .invalidStart⟩
    | some (owed, low, high, bits) =>
      match tails owed low high 1 bits rest with
      | .error (reason, seen) => .error ⟨b, position, seen, reason⟩
      | .ok (value, rest) =>
        (decodeFrom fuel (position + owed + 1) rest).map (CodePoint.ofNat value :: ·)

/-- The text that the bytes encode. -/
def decode (bytes : Bytes) : Except BadBytes Text := decodeFrom bytes.length 0 bytes

/-- The text that the bytes encode, with the replacement character for each run of bytes at fault,
of which there are at most `fuel`. -/
def decodeLossyFrom : Nat → Bytes → Text
  | 0, _ => []
  | fuel + 1, bytes =>
    match decode bytes with
    | .ok t => t
    | .error bad =>
      let before := ((decode (bytes.take bad.position)).toOption).getD []
      before ++ CodePoint.ofNat 0xFFFD ::
        decodeLossyFrom fuel (bytes.drop (bad.position + bad.count))

/-- The text that the bytes encode, with the replacement character for what is no UTF-8. -/
def decodeLossy (bytes : Bytes) : Text := decodeLossyFrom (bytes.length + 1) bytes

/-- The bytes of one code point. -/
def encodePoint (c : CodePoint) : Bytes :=
  let byte (n : Nat) : UInt8 := n.toUInt8
  if c.val < 0x80 then [byte c.val]
  else if c.val < 0x800 then [byte (0xC0 + c.val / 64), byte (0x80 + c.val % 64)]
  else if c.val < 0x10000 then
    [byte (0xE0 + c.val / 4096), byte (0x80 + c.val / 64 % 64), byte (0x80 + c.val % 64)]
  else
    [byte (0xF0 + c.val / 262144), byte (0x80 + c.val / 4096 % 64), byte (0x80 + c.val / 64 % 64),
      byte (0x80 + c.val % 64)]

/-- Encodes the text that starts at `position`. -/
def encodeFrom (position : Nat) : Text → Except BadText Bytes
  | [] => .ok []
  | c :: rest =>
    if c.isSurrogate then
      .error ⟨c, position, 1 + (rest.takeWhile CodePoint.isSurrogate).length⟩
    else (encodeFrom (position + 1) rest).map (encodePoint c ++ ·)

/-- The bytes that encode the text. -/
def encode (t : Text) : Except BadText Bytes := encodeFrom 0 t

end Utf8

end TextAdventure
