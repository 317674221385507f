/-! Time as games record it: it follows a source of readings, but never repeats and never goes
back. -/

namespace TextAdventure

/-- A clock over the readings of its source, with the last time it told. -/
structure Clock where
  reading : Nat → Int
  ticks : Nat := 0
  last : Int := 0

/-- The next time, after which the clock is one reading further. -/
def Clock.tick (c : Clock) : Int × Clock :=
  let time := max (c.last + 1) (c.reading c.ticks)
  (time, { c with ticks := c.ticks + 1, last := time })

/-- The readings of a list, the last of which repeats for ever. -/
def readingsOf (values : List Int) (n : Nat) : Int :=
  (values[n]? <|> values.getLast?).getD 0

/-- The next `n` times. -/
def Clock.times (c : Clock) : Nat → List Int
  | 0 => []
  | n + 1 => c.tick.1 :: times c.tick.2 n

end TextAdventure
