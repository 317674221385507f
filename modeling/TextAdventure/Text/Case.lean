import TextAdventure.Text.Basic
import TextAdventure.Text.CaseTable

/-! Lower case. Each character is mapped on its own, but for two: the dotted capital I leaves its
dot behind as a combining mark, and a capital sigma becomes the final form at the end of a word. -/

namespace TextAdventure

namespace CodePoint

/-- The lower case of a letter on its own. -/
def lower (c : CodePoint) : CodePoint :=
  match CaseTable.lowerRuns.find? (·.covers c.val) with
  | some r => ofNat (r.target + (c.val - r.first))
  | none => c

def isCased (c : CodePoint) : Bool :=
  CaseTable.cased.any fun r => r.1 ≤ c.val && c.val ≤ r.2

def isSkippedByCase (c : CodePoint) : Bool :=
  CaseTable.skipped.any fun r => r.1 ≤ c.val && c.val ≤ r.2

end CodePoint

namespace Text

/-- Whether the first character that case mapping does not skip is a letter with case. -/
def meetsCased (t : Text) : Bool :=
  match t.dropWhile CodePoint.isSkippedByCase with
  | c :: _ => c.isCased
  | [] => false

/-- Lower case of `rest`, where `before` holds the characters ahead of it, nearest first. A capital
sigma ends a word when a letter comes before it and none comes after it. -/
def lowerFrom (before : Text) : Text → Text
  | [] => []
  | c :: rest =>
    if c.val = 0x3A3 then
      CodePoint.ofNat (if meetsCased before && !meetsCased rest then 0x3C2 else 0x3C3) ::
        lowerFrom (c :: before) rest
    else if c.val = 0x130 then
      CodePoint.ofNat 0x69 :: CodePoint.ofNat 0x307 :: lowerFrom (c :: before) rest
    else c.lower :: lowerFrom (c :: before) rest

/-- The text in lower case. -/
def lower (t : Text) : Text := lowerFrom [] t

end Text

end TextAdventure
