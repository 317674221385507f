import TextAdventure.Proofs.Store.Journal

/-! Reading logs in pages. A page is cut out of a log by positions on one side and by their number on
the other, and a single entry is searched for by its position. Where positions are numbered without
gaps, both come down to counting entries. -/

namespace TextAdventure.Journal

variable {j : Journal} {log : List Content}

/-- No more entries than a limit allows. -/
def upTo {α : Type} : Option Nat → List α → List α
  | none, log => log
  | some n, log => log.take n

theorem upTo_map {α β : Type} (f : α → β) (limit : Option Nat) (log : List α) :
    upTo limit (log.map f) = (upTo limit log).map f := by
  cases limit with
  | none => rfl
  | some n => exact List.map_take.symm

section Counting

variable {first : Nat}
  (positions : log.map (·.position) = List.range' first log.length)
include positions

theorem filter_from (start : Nat) :
    log.filter (fun c => (start : Int) ≤ (c.position : Int)) = log.drop (start - first) := by
  induction log generalizing first with
  | nil => simp
  | cons c rest ih =>
    obtain ⟨here, after⟩ := List.cons.inj positions
    dsimp only at here
    subst here
    rw [List.filter_cons]
    by_cases le : start ≤ c.position
    · have all : rest.filter (fun c => (start : Int) ≤ (c.position : Int)) = rest := by
        rw [ih after, show start - (c.position + 1) = 0 by omega, List.drop_zero]
      rw [if_pos (by simpa using le), all, Nat.sub_eq_zero_of_le le, List.drop_zero]
    · rw [if_neg (by simpa using le), ih after,
        show start - c.position = start - (c.position + 1) + 1 by omega, List.drop_succ_cons]

theorem find?_position (place : Nat) :
    log.find? (fun c => (c.position : Int) = ((first + place : Nat) : Int)) = log[place]? := by
  induction log generalizing first place with
  | nil => rfl
  | cons c rest ih =>
    obtain ⟨here, after⟩ := List.cons.inj positions
    dsimp only at here
    subst here
    rw [List.find?_cons]
    cases place with
    | zero => simp
    | succ place =>
      have later := ih after place
      rw [show c.position + 1 + place = c.position + (place + 1) by omega] at later
      have ne : ¬((c.position : Int) = ((c.position + (place + 1) : Nat) : Int)) := by omega
      simp only [ne, decide_false, List.getElem?_cons_succ]
      exact later

theorem find?_before {position : Int} (lt : position < first) :
    log.find? (fun c => (c.position : Int) = position) = none := by
  refine List.find?_eq_none.2 fun c hc => ?_
  have member : c.position ∈ log.map (·.position) := List.mem_map_of_mem hc
  rw [positions, List.mem_range'_1] at member
  have ne : (c.position : Int) ≠ position := by omega
  simpa using ne

end Counting

theorem Numbered.counted (numbered : j.Numbered) (game : Int) :
    (j.entries game).map (·.position) = List.range' 0 (j.entries game).length := by
  rw [numbered.positions, List.range_eq_range']

/-- A page is what is left of the log after its first entries, up to the limit. -/
theorem Numbered.slice (numbered : j.Numbered) (game : Int) (start : Nat) (limit : Option Nat) :
    j.slice game start (limit.map Int.ofNat) = .ok (upTo limit ((j.entries game).drop start)) := by
  have found := filter_from (numbered.counted game) start
  rw [Nat.sub_zero] at found
  unfold Journal.slice
  simp only [found]
  cases limit with
  | none => rfl
  | some n => exact if_neg (Int.not_lt.2 (Int.natCast_nonneg n))

/-- The entry at a position is the one that so many entries precede. -/
theorem Numbered.get?_nat (numbered : j.Numbered) (game : Int) (place : Nat) :
    j.get? game place = (j.entries game)[place]? := by
  have found := find?_position (numbered.counted game) place
  rwa [Nat.zero_add] at found

theorem Numbered.get?_neg (numbered : j.Numbered) (game : Int) {position : Int}
    (neg : position < 0) : j.get? game position = none :=
  find?_before (numbered.counted game) (by omega)

/-- Pages of one size, put end to end. -/
theorem take_pages {α : Type} (log : List α) (size count : Nat) :
    ((List.range count).map fun page => (log.drop (page * size)).take size).flatten =
      log.take (count * size) := by
  induction count with
  | zero => simp
  | succ count ih =>
    rw [List.range_succ, List.map_append, List.flatten_append, ih, Nat.succ_mul, List.take_add]
    simp

end TextAdventure.Journal
