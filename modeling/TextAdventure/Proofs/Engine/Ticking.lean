import Mathlib.Order.Bounds.Basic
import TextAdventure.Engine.Clock

/-! What a clock tells, whatever its source reads. A time is held up by the last time that was told, and
by each reading since, both moved on by one with every tick. The clock tells the greatest of these, so a
jump ahead is remembered until readings have caught up with it, and readings that go up themselves are
told as they are. -/

namespace TextAdventure.Clock

variable {c : Clock} {time : Int}

/-- What holds up the time that is told after `i` others. -/
def floors (c : Clock) (i : Nat) : Set Int :=
  {t | t = c.last + (i + 1) ∨ ∃ j : Nat, j ≤ i ∧ t = c.reading (c.ticks + j) + (i - j)}

/-- The next `n` readings. -/
def readings (c : Clock) : Nat → List Int
  | 0 => []
  | n + 1 => c.reading c.ticks :: readings c.tick.2 n

/-! ### One tick -/

theorem last_lt_tick (c : Clock) : c.last < c.tick.1 := by
  show c.last < max (c.last + 1) (c.reading c.ticks)
  omega

theorem reading_le_tick (c : Clock) : c.reading c.ticks ≤ c.tick.1 := le_max_right _ _

/-- A tick tells a floor: it is one past the last time, or the reading. -/
theorem tick_cases (c : Clock) : c.tick.1 = c.last + 1 ∨ c.tick.1 = c.reading c.ticks := by
  show max (c.last + 1) (c.reading c.ticks) = _ ∨ max (c.last + 1) (c.reading c.ticks) = _
  omega

theorem tick_eq_reading_iff (c : Clock) :
    c.tick.1 = c.reading c.ticks ↔ c.last < c.reading c.ticks := by
  show max (c.last + 1) (c.reading c.ticks) = _ ↔ _
  omega

/-- The first tick tells the greatest of its floors. -/
theorem isGreatest_tick (c : Clock) : IsGreatest (c.floors 0) c.tick.1 := by
  constructor
  · rcases c.tick_cases with told | told
    · exact .inl (by rw [told]; rfl)
    · exact .inr ⟨0, le_rfl, by simp [told]⟩
  · rintro t (rfl | ⟨j, le, rfl⟩)
    · exact c.last_lt_tick
    · obtain rfl := Nat.le_zero.1 le
      simpa using c.reading_le_tick

/-- After a tick, its time stands for the last time and the reading that it has come from. -/
theorem isGreatest_succ {i : Nat} (h : IsGreatest (c.tick.2.floors i) time) :
    IsGreatest (c.floors (i + 1)) time := by
  have told : c.tick.1 + (i + 1) ≤ time := h.2 (.inl rfl)
  have ticks : c.tick.2.ticks = c.ticks + 1 := rfl
  constructor
  · -- What has held the time up since the tick held it up before, or the tick's own floor did.
    rcases h.1 with here | ⟨j, le, here⟩
    · have here : time = c.tick.1 + (i + 1) := here
      rcases c.tick_cases with last | reading
      · exact .inl (by rw [here, last]; push_cast; omega)
      · exact .inr ⟨0, Nat.zero_le _, by rw [here, reading]; simp⟩
    · refine .inr ⟨j + 1, Nat.succ_le_succ le, ?_⟩
      rw [here, ticks, Nat.add_right_comm, Nat.add_assoc]
      push_cast
      show c.reading _ + _ = c.reading _ + _
      omega
  · rintro t (rfl | ⟨j, le, rfl⟩)
    · have := c.last_lt_tick
      push_cast
      omega
    · cases j with
      | zero =>
        have := c.reading_le_tick
        simp only [Nat.add_zero]
        push_cast
        omega
      | succ j =>
        have later : c.reading (c.ticks + 1 + j) + (i - j) ≤ time :=
          h.2 (.inr ⟨j, Nat.le_of_succ_le_succ le, rfl⟩)
        rw [show c.ticks + (j + 1) = c.ticks + 1 + j by omega]
        push_cast
        omega

/-! ### Many ticks -/

theorem length_times (c : Clock) (n : Nat) : (c.times n).length = n := by
  induction n generalizing c with
  | zero => rfl
  | succ n ih => exact congrArg Nat.succ (ih c.tick.2)

/-- Each time is the greatest of its floors. -/
theorem isGreatest_times {n i : Nat} (h : (c.times n)[i]? = some time) :
    IsGreatest (c.floors i) time := by
  induction i generalizing c n with
  | zero =>
    cases n with
    | zero => exact nomatch h
    | succ n =>
      obtain rfl : c.tick.1 = time := Option.some.inj h
      exact c.isGreatest_tick
  | succ i ih =>
    cases n with
    | zero => exact nomatch h
    | succ n => exact isGreatest_succ (ih h)

/-- No time is told twice, and none goes back. -/
theorem pairwise_times (c : Clock) (n : Nat) : (c.last :: c.times n).Pairwise (· < ·) := by
  induction n generalizing c with
  | zero => exact List.pairwise_singleton _ _
  | succ n ih =>
    have later := ih c.tick.2
    refine List.pairwise_cons.2 ⟨fun t ht => ?_, later⟩
    rcases List.mem_cons.1 ht with rfl | ht
    · exact c.last_lt_tick
    · exact c.last_lt_tick.trans ((List.pairwise_cons.1 later).1 t ht)

theorem readings_eq (c : Clock) (n : Nat) :
    c.readings n = (List.range n).map fun i => c.reading (c.ticks + i) := by
  induction n generalizing c with
  | zero => rfl
  | succ n ih =>
    rw [readings, ih, List.range_succ_eq_map, List.map_cons, List.map_map]
    refine congrArg _ (List.map_congr_left fun i _ => ?_)
    show c.reading (c.ticks + 1 + i) = c.reading (c.ticks + (i + 1))
    rw [Nat.add_assoc, Nat.add_comm 1 i]

/-- The clock tells its readings if and only if they go up from the last time. -/
theorem times_eq_readings_iff (c : Clock) (n : Nat) :
    c.times n = c.readings n ↔ (c.last :: c.readings n).Pairwise (· < ·) := by
  induction n generalizing c with
  | zero => exact iff_of_true rfl (List.pairwise_singleton _ _)
  | succ n ih =>
    have later := ih c.tick.2
    constructor
    · intro same
      rw [← same]
      exact c.pairwise_times (n + 1)
    · intro up
      obtain ⟨first, rest⟩ := List.pairwise_cons.1 up
      have told := c.tick_eq_reading_iff.2 (first _ List.mem_cons_self)
      have rest : (c.tick.2.last :: c.tick.2.readings n).Pairwise (· < ·) := by
        show (c.tick.1 :: _).Pairwise _
        rw [told]
        exact rest
      rw [times, readings, told, later.2 rest]

/-- The times of a new clock. Each is the greatest of its own number and of all readings so far, each
moved on by one for every tick since. So times go up, are positive and not below the readings of their
ticks, and they are the readings themselves if and only if these are positive and go up. -/
theorem times_of_new (reading : Nat → Int) (n : Nat) :
    let times := Clock.times { reading } n
    let readings := (List.range n).map reading
    times.length = n ∧
    (∀ (i : Nat) (time : Int), times[i]? = some time →
      IsGreatest {t : Int | t = i + 1 ∨ ∃ j : Nat, j ≤ i ∧ t = reading j + (i - j)} time ∧
      0 < time ∧ reading i ≤ time) ∧
    times.Pairwise (· < ·) ∧
    (times = readings ↔ (∀ r ∈ readings, 0 < r) ∧ readings.Pairwise (· < ·)) := by
  intro times readings
  have up := pairwise_times { reading } n
  have told : Clock.readings { reading } n = readings := by
    rw [readings_eq]
    simp [readings]
  refine ⟨length_times _ n, fun i time h => ?_, (List.pairwise_cons.1 up).2, ?_⟩
  · have greatest := isGreatest_times h
    simp only [floors, Nat.zero_add, Int.zero_add] at greatest
    refine ⟨greatest, ?_, greatest.2 (.inr ⟨i, le_rfl, by simp⟩)⟩
    have := greatest.2 (.inl rfl)
    omega
  · have same := times_eq_readings_iff { reading } n
    rw [told, List.pairwise_cons] at same
    exact same

/-- Once a reading has jumped ahead, times go on from there until a later reading is past them. -/
theorem times_of_new_jump :
    let reading := readingsOf [5, 3, -2, 9]
    let times := Clock.times { reading } 4
    times = [5, 6, 7, 9] ∧ times[2]? = some 7 ∧
      IsGreatest {t : Int | t = (2 : Nat) + 1 ∨ ∃ j : Nat, j ≤ 2 ∧ t = reading j + ((2 : Nat) - j)} 7 ∧
      0 < (7 : Int) ∧ reading 2 ≤ 7 := by
  intro reading times
  have here : times[2]? = some 7 := by decide
  exact ⟨by decide, here, (times_of_new reading 4).2.1 2 7 here⟩

end TextAdventure.Clock
