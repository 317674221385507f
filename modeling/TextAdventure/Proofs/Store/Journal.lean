import TextAdventure.Proofs.Store.Rows
import TextAdventure.Store.Journal

/-! How logs grow. An entry that goes to the next position of a log is never refused, it becomes the
last one of its log, and no other log changes. -/

namespace TextAdventure.Journal

variable {j j' j'' : Journal} {game other : Int} {body : Body}

/-- The entry that a log gets next, when it is to show `body`. -/
def nextEntry (j : Journal) (game : Int) (body : Body) : Content :=
  { game, position := j.nextPosition game, body, id := some j.ids.next }

/-- The journal once that entry is in. -/
def appended (j : Journal) (game : Int) (body : Body) : Journal :=
  { logs := j.logs.insert game (j.entries game ++ [j.nextEntry game body]), ids := ⟨j.ids.next + 1⟩ }

/-- The next position is never taken. -/
theorem add_next (j : Journal) (game : Int) (body : Body) :
    j.add .unset { game, position := j.nextPosition game, body } =
      (.ok (j.nextEntry game body), j.appended game body) := by
  have assigned : j.ids.assign .unset = .ok (j.ids.next, ⟨j.ids.next + 1⟩) := rfl
  unfold add
  rw [assigned]
  cases hlast : j.lastPosition game with
  | none => simp [nextEntry, appended]
  | some last =>
    have hnext : j.nextPosition game = last + 1 := by simp [nextPosition, hlast]
    simp [hnext, nextEntry, appended]

@[simp] theorem entries_appended_self (j : Journal) (game : Int) (body : Body) :
    (j.appended game body).entries game = j.entries game ++ [j.nextEntry game body] := by
  simp [appended, entries]

theorem entries_appended_of_ne (h : other ≠ game) (j : Journal) (body : Body) :
    (j.appended game body).entries other = j.entries other := by
  simp [appended, entries, Rows.get?_insert_of_ne h]

@[simp] theorem entries_clear_self (j : Journal) (game : Int) : (j.clear game).entries game = [] := by
  simp [clear, entries, Rows.get?_erase]

theorem entries_clear_of_ne (h : other ≠ game) (j : Journal) :
    (j.clear game).entries other = j.entries other := by
  simp [clear, entries, Rows.get?_erase, h]

/-! ### Positions -/

/-- Each log holds entries of its own game, at the positions 0, 1, 2 and so on in this order, each
with a copy key or a text and not both. The next position is the number of entries, and no entry is
refused there. -/
structure Numbered (j : Journal) : Prop where
  positions : ∀ game, (j.entries game).map (·.position) = List.range (j.entries game).length
  ofGame : ∀ game, ∀ entry ∈ j.entries game, entry.game = game
  oneBody : ∀ game, ∀ entry ∈ j.entries game,
    (entry.body.copyKey?.isSome ≠ entry.body.text?.isSome : Prop)
  next : ∀ game, j.nextPosition game = (j.entries game).length
  accepts : ∀ game body, ∃ stored j',
    j.add .unset { game, position := j.nextPosition game, body } = (.ok stored, j')

/-- A journal changes when an entry goes to the next position of a log, and when a log is
dropped. -/
inductive Move (j : Journal) : Journal → Prop
  | append {j' : Journal} (game : Int) (body : Body) (stored : Content)
      (added : j.add .unset { game, position := j.nextPosition game, body } = (.ok stored, j')) :
      Move j j'
  | clear (game : Int) : Move j (j.clear game)

theorem numbered_empty (ids : IdSequence) : Numbered { logs := [], ids } :=
  ⟨fun _ => rfl, fun _ _ h => absurd h List.not_mem_nil, fun _ _ h => absurd h List.not_mem_nil,
    fun _ => rfl, fun _ _ => ⟨_, _, add_next _ _ _⟩⟩

/-- When positions go up from zero, the next one is the length of the log. -/
theorem nextPosition_of_positions
    (h : (j.entries game).map (·.position) = List.range (j.entries game).length) :
    j.nextPosition game = (j.entries game).length := by
  have hlast : j.lastPosition game = (List.range (j.entries game).length).getLast? := by
    rw [← h, List.getLast?_map, lastPosition]
  unfold nextPosition
  rw [hlast]
  cases hn : (j.entries game).length with
  | zero => rfl
  | succ n => simp [List.range_succ]

theorem Numbered.appended (h : Numbered j) (game : Int) (body : Body) :
    Numbered (j.appended game body) := by
  have positions (g : Int) : ((j.appended game body).entries g).map (·.position) =
      List.range ((j.appended game body).entries g).length := by
    by_cases hg : g = game
    · subst hg
      simp [h.positions, nextEntry, h.next, List.range_succ]
    · rw [entries_appended_of_ne hg]
      exact h.positions g
  have mem {g : Int} {entry : Content} (hm : entry ∈ (j.appended game body).entries g) :
      entry ∈ j.entries g ∨ g = game ∧ entry = j.nextEntry game body := by
    by_cases hg : g = game
    · subst hg
      simpa using hm
    · rw [entries_appended_of_ne hg] at hm
      exact .inl hm
  refine ⟨positions, fun g entry hm => ?_, fun g entry hm => ?_,
    fun g => nextPosition_of_positions (positions g), fun _ _ => ⟨_, _, add_next _ _ _⟩⟩
  · rcases mem hm with hm | ⟨rfl, rfl⟩
    · exact h.ofGame g entry hm
    · rfl
  · rcases mem hm with hm | ⟨rfl, rfl⟩
    · exact h.oneBody g entry hm
    · cases body <;> simp [nextEntry, Body.copyKey?, Body.text?]

theorem Numbered.clear (h : Numbered j) (game : Int) : Numbered (j.clear game) := by
  have cases (g : Int) :
      (j.clear game).entries g = [] ∨ (j.clear game).entries g = j.entries g := by
    by_cases hg : g = game
    · exact .inl (by rw [hg, entries_clear_self])
    · exact .inr (entries_clear_of_ne hg j)
  have positions (g : Int) : ((j.clear game).entries g).map (·.position) =
      List.range ((j.clear game).entries g).length := by
    rcases cases g with he | he <;> rw [he]
    · rfl
    · exact h.positions g
  refine ⟨positions, fun g entry hm => ?_, fun g entry hm => ?_,
    fun g => nextPosition_of_positions (positions g), fun _ _ => ⟨_, _, add_next _ _ _⟩⟩ <;>
    rcases cases g with he | he <;> rw [he] at hm
  · exact absurd hm List.not_mem_nil
  · exact h.ofGame g entry hm
  · exact absurd hm List.not_mem_nil
  · exact h.oneBody g entry hm

theorem Numbered.move (h : Numbered j) (hm : Move j j') : Numbered j' := by
  cases hm with
  | append game body stored added =>
    rw [add_next] at added
    obtain ⟨-, rfl⟩ := Prod.mk.inj added
    exact h.appended game body
  | clear game => exact h.clear game

/-! ### Growing -/

/-- `j'` is `j` with `added` at the end of one game's log, at the positions that follow. -/
structure Extends (game : Int) (added : List Content) (j j' : Journal) : Prop where
  self : j'.entries game = j.entries game ++ added
  others : ∀ other, other ≠ game → j'.entries other = j.entries other
  numbered : j.Numbered → j'.Numbered

theorem Extends.refl (game : Int) (j : Journal) : Extends game [] j j :=
  ⟨by simp, fun _ _ => rfl, fun numbered => numbered⟩

theorem Extends.trans {added more : List Content} (h : Extends game added j j')
    (h' : Extends game more j' j'') : Extends game (added ++ more) j j'' :=
  ⟨by rw [h'.self, h.self, List.append_assoc],
    fun other ne => (h'.others other ne).trans (h.others other ne),
    fun numbered => h'.numbered (h.numbered numbered)⟩

theorem extends_appended (j : Journal) (game : Int) (body : Body) :
    Extends game [j.nextEntry game body] j (j.appended game body) :=
  ⟨entries_appended_self j game body, fun _ ne => entries_appended_of_ne ne j body,
    fun numbered => numbered.appended game body⟩

end TextAdventure.Journal
