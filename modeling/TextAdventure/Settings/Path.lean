import TextAdventure.Error

/-! Directory names in their normal form: no empty parts, no `.` parts, and a first part of `~`
replaced by a home directory. Parts of `..` stay. -/

namespace TextAdventure

/-- A path. Two slashes at its start differ from one, and more than two count as one. -/
structure Path where
  slashes : Nat
  parts : List Text
deriving DecidableEq

namespace Path

def slash : CodePoint := '/'

def read (t : Text) : Path :=
  let leading := (t.takeWhile (· = slash)).length
  { slashes := if leading = 2 then 2 else if leading = 0 then 0 else 1
    parts := (t.splitOn slash).filter fun p => p ≠ [] ∧ p ≠ "." }

/-- The text of a path; a path without parts is the current directory. -/
def text (p : Path) : Text :=
  if p.slashes = 0 ∧ p.parts = [] then "."
  else List.replicate p.slashes slash ++ Text.join [slash] p.parts

/-- Replaces a first part `~user` of a relative path by the home directory of that user. -/
def expandHome (homes : Text → Option Text) (p : Path) : Except Error Path :=
  match p.slashes, p.parts with
  | 0, first :: rest =>
    if first.head? = some (CodePoint.ofChar '~') then
      match homes first.tail with
      | some home =>
        let home := read home
        .ok { home with parts := home.parts ++ rest }
      | none => .error .unknownHome
    else .ok p
  | _, _ => .ok p

end Path

end TextAdventure
