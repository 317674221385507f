import TextAdventure.Text.Basic

/-! Fresh keys for copy come from a source outside, one after another. -/

namespace TextAdventure

/-- A source of keys, and how many of them have been used. -/
structure Keys where
  key : Nat → Text
  used : Nat := 0

/-- The next key of the source. -/
def Keys.fresh (k : Keys) : Text × Keys := (k.key k.used, { k with used := k.used + 1 })

end TextAdventure
