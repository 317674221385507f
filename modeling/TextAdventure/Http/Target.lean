import TextAdventure.Error
import TextAdventure.Text.Ascii

/-! The target of a request: a path and a query of named values, both percent-encoded. -/

namespace TextAdventure.Http

/-- The byte of a percent sign and two hexadecimal digits. -/
def escapedByte? (sign high low : CodePoint) : Option UInt8 :=
  if sign = '%' then do return (16 * (← high.hexValue?) + (← low.hexValue?)).toUInt8 else none

/-- The bytes of a percent-encoded text. A percent sign without two digits stands for itself. -/
def percentBytes : Text → Bytes
  | sign :: high :: low :: rest =>
    match escapedByte? sign high low with
    | some byte => byte :: percentBytes rest
    | none => Utf8.encodePoint sign ++ percentBytes (high :: low :: rest)
  | rest => rest.flatMap Utf8.encodePoint

def percentDecode (t : Text) : Text := Utf8.decodeLossy (percentBytes t)

/-- What comes before the first `mark`, and what comes after it, if it occurs. -/
def cut (mark : Char) (t : Text) : Text × Option Text :=
  match t.dropWhile (· ≠ CodePoint.ofChar mark) with
  | [] => (t, none)
  | _ :: after => (t.takeWhile (· ≠ CodePoint.ofChar mark), some after)

/-- A name or value of a query, in which a plus sign stands for a space. -/
def formDecode (t : Text) : Text :=
  percentDecode (List.map (fun c : CodePoint => if c = '+' then CodePoint.ofNat 32 else c) t)

/-- The named values of a query. A name without an equals sign has the empty value. -/
def readQuery (t : Text) : List (Text × Text) :=
  ((t.splitOn (CodePoint.ofChar '&')).filter (· ≠ [])).map fun part =>
    (formDecode (cut '=' part).1, formDecode ((cut '=' part).2.getD []))

structure Target where
  path : Text
  query : List (Text × Text)
deriving DecidableEq

def slash : CodePoint := '/'

/-- A path after its host, if it names one. It starts with a single slash. -/
def fromRoot (t : Text) : Text :=
  let path := if t.take 2 = [slash, slash] then (t.drop 2).dropWhile (· ≠ slash) else t
  slash :: path.dropWhile (· = slash)

/-- One part of a path after others: one dot stays where it is, and two go back by one part. -/
def enter (parts : List Text) (part : Text) : List Text :=
  if part = "." then parts
  else if part = ".." then if parts = [[]] then parts else parts.dropLast
  else parts ++ [part]

/-- A path without its dot parts. -/
def withoutDots (t : Text) : Text := Text.join [slash] ((t.splitOn slash).foldl enter [])

/-- Why a text is no target: it is longer than 65536 characters, or it holds a control character of
ASCII. -/
def targetFault? (t : Text) : Option TargetFault :=
  if 65536 < t.length then some .tooLong
  else
    let clean := t.takeWhile fun c => 32 ≤ c.val && c.val ≠ 127
    (t[clean.length]?).map fun c => .control c clean.length

/-- Reads a target. What follows a number sign is no part of it. -/
def Target.read (t : Text) : Except Error Target :=
  match targetFault? t with
  | some fault => .error (.badTarget fault)
  | none =>
    let (path, query) := cut '?' (cut '#' t).1
    .ok { path := percentDecode (withoutDots (fromRoot path)), query := readQuery (query.getD []) }

/-- The parts of a path between its slashes. -/
def Target.segments (t : Target) : List Text := t.path.splitOn slash

/-- The last value of a name in the query. -/
def Target.value? (t : Target) (name : Text) : Option Text :=
  (t.query.reverse.find? fun entry => entry.1 = name).map (·.2)

end TextAdventure.Http
