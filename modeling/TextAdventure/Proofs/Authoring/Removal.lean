import TextAdventure.Authoring.Removal
import TextAdventure.Proofs.Store.Games
import TextAdventure.Proofs.Store.Journal

/-! What removals come to: either nothing changes, or the record goes with everything that belongs
to it. Games that go take their logs along. -/

namespace TextAdventure.Authoring

open Op

variable {w w' : World} {ids : List Int}

/-- `w'` has the games, logs and languages of `w`, but for the games and logs under some numbers. -/
structure Dropped (ids : List Int) (w w' : World) : Prop where
  get? : ∀ n, w'.games.get? n = if n ∈ ids then .ok none else w.games.get? n
  has : ∀ n, w'.games.Has n ↔ n ∉ ids ∧ w.games.Has n
  entries : ∀ n, w'.journal.entries n = if n ∈ ids then [] else w.journal.entries n
  tidy : w.games.Tidy → w'.games.Tidy
  numbered : w.journal.Numbered → w'.journal.Numbered
  ids : w'.games.ids = w.games.ids
  reads : w'.games.reads = w.games.reads
  lists : w'.games.Lists = w.games.Lists
  languages : w'.languages = w.languages

theorem Dropped.get?_eq_some {n : Int} {g : Game} (h : Dropped ids w w') :
    w'.games.get? n = .ok (some g) ↔ n ∉ ids ∧ w.games.get? n = .ok (some g) := by
  rw [h.get?]
  by_cases hn : n ∈ ids <;> simp [hn]

/-- If only stored games have logs, that is still so. -/
theorem Dropped.logged (h : Dropped ids w w')
    (logged : ∀ n, w.journal.entries n ≠ [] → w.games.Has n) {n : Int}
    (hn : w'.journal.entries n ≠ []) : w'.games.Has n := by
  rw [h.entries] at hn
  split at hn
  · exact absurd rfl hn
  · rename_i kept
    exact (h.has n).2 ⟨kept, logged n hn⟩

theorem Dropped.none (w : World) : Dropped [] w w := by
  refine ⟨?_, ?_, ?_, fun h => h, fun h => h, rfl, rfl, rfl, rfl⟩ <;> simp

theorem dropped_dropGame (w : World) (id : Int) : Dropped [id] w (dropGame w id) where
  get? n := by simp [dropGame, Games.get?_remove]
  has n := by simp [dropGame, Games.has_remove]
  entries n := by
    by_cases hn : n = id
    · subst hn
      simp [dropGame]
    · simp [dropGame, hn, Journal.entries_clear_of_ne hn]
  tidy h := Games.tidy_remove h id
  numbered h := h.clear id
  ids := Games.ids_remove _ id
  reads := Games.reads_remove _ id
  lists := Games.lists_remove _ id
  languages := rfl

theorem Dropped.cons {w'' : World} {id : Int} (h : Dropped [id] w w') (h' : Dropped ids w' w'') :
    Dropped (id :: ids) w w'' where
  get? n := by
    rw [h'.get?, h.get?]
    by_cases hn : n = id <;> simp [hn]
  has n := by
    rw [h'.has, h.has]
    by_cases hn : n = id <;> simp [hn]
  entries n := by
    rw [h'.entries, h.entries]
    by_cases hn : n = id <;> simp [hn]
  tidy tidy := h'.tidy (h.tidy tidy)
  numbered numbered := h'.numbered (h.numbered numbered)
  ids := h'.ids.trans h.ids
  reads := h'.reads.trans h.reads
  lists := h'.lists.trans h.lists
  languages := h'.languages.trans h.languages

theorem dropped_foldl (ids : List Int) (w : World) : Dropped ids w (ids.foldl dropGame w) := by
  induction ids generalizing w with
  | nil => exact .none w
  | cons id rest ih => exact (dropped_dropGame w id).cons (ih _)

/-- Nothing else goes with a game. -/
theorem foldl_dropGame (ids : List Int) (w : World) :
    ids.foldl dropGame w = { w with
      games := (ids.foldl dropGame w).games
      journal := (ids.foldl dropGame w).journal } := by
  induction ids generalizing w with
  | nil => rfl
  | cons id rest ih =>
    rw [List.foldl_cons, ih]
    rfl

/-- The numbers of games. -/
def numbers (games : List Game) : List Int := games.map fun g => g.id.getD 0

theorem run_removeScript (script : Identifier) (w : World) :
    (∃ e, (removeScript script).run w = (.error e, w)) ∨
      ∃ id found, w.scripts.get? id = some found ∧
        (removeScript script).run w = (.ok (), withoutScript id found w) := by
  unfold removeScript
  rcases (ReadOnly.script script).run_bind_cases _ w with ⟨e, hrun⟩ | ⟨found, hfound, hrun⟩ <;>
    rw [hrun]
  · exact .inl ⟨e, rfl⟩
  obtain ⟨id, hid, hscript⟩ := World.run_found (f := fun v n => v.scripts.get? n) hfound
  rw [run_bind_ok hid]
  exact .inr ⟨id, found, hscript, rfl⟩

theorem run_gamesToRemove (kind : Kind) (id : Int) (force : Bool) (games : List Game) (w : World) :
    (∃ e, (gamesToRemove kind id force games).run w = (.error e, w)) ∨
      (force = true ∨ numbers games = []) ∧
        (gamesToRemove kind id force games).run w = (.ok (numbers games), w) := by
  unfold gamesToRemove
  dsimp only
  split
  · exact .inl ⟨_, rfl⟩
  · rename_i free
    refine .inr ⟨?_, rfl⟩
    cases force with
    | true => exact .inl rfl
    | false => exact .inr (by simpa [numbers] using free)

/-- How a record goes that games belong to: `cut` takes it out of the world, together with them. -/
def removal {α : Type} (kind : Kind) (found : Op α) (asked : Identifier) (force : Bool)
    (belongs : Int → Game → Bool) (cut : Int → List Int → World → World) : Op Unit := do
  let _ ← found
  let id ← Op.number kind asked
  let games ← Op.ofExcept ((← get).games.select (belongs id))
  modify (cut id (← gamesToRemove kind id force games))

theorem removeLocation_eq (location : Identifier) (force : Bool) :
    removeLocation location force = removal .location (World.location location) location force
      (fun id g => g.location = id) withoutLocation := rfl

theorem removeAdventure_eq (adventure : Identifier) (force : Bool) :
    removeAdventure adventure force = removal .adventure (World.adventure adventure) adventure force
      (fun id g => g.adventure = id) withoutAdventure := rfl

/-- A removal is refused, or the record is there, and the games that belong to it go, which are none
unless the removal is forced. -/
theorem run_removal {α : Type} {kind : Kind} {found : Op α} (readOnly : ReadOnly found)
    (asked : Identifier) (force : Bool) (belongs : Int → Game → Bool)
    (cut : Int → List Int → World → World) (w : World) :
    (∃ e, (removal kind found asked force belongs cut).run w = (.error e, w)) ∨
      ∃ id games, ((Op.number kind asked).run w).1 = .ok id ∧
        w.games.select (belongs id) = .ok games ∧ (∃ value, found.run w = (.ok value, w)) ∧
        (force = true ∨ numbers games = []) ∧
        (removal kind found asked force belongs cut).run w = (.ok (), cut id (numbers games) w) := by
  unfold removal
  rcases readOnly.run_bind_cases _ w with ⟨e, hrun⟩ | ⟨value, hvalue, hrun⟩ <;> rw [hrun]
  · exact .inl ⟨e, rfl⟩
  rcases (ReadOnly.number kind asked).run_bind_cases _ w with ⟨e, hrun⟩ | ⟨id, hid, hrun⟩ <;>
    rw [hrun]
  · exact .inl ⟨e, rfl⟩
  rw [run_bind_ok (run_get w), run_bind, run_ofExcept]
  cases hgames : w.games.select (belongs id) with
  | error e => exact .inl ⟨e, rfl⟩
  | ok games =>
    dsimp only
    rcases run_gamesToRemove kind id force games w with ⟨e, hremove⟩ | ⟨forced, hremove⟩
    · exact .inl ⟨e, run_bind_error hremove⟩
    · exact .inr ⟨id, games, by rw [hid], hgames, ⟨value, hvalue⟩, forced, run_bind_ok hremove⟩

/-- Where the record is there, the removal comes to whether the games may go with it. -/
theorem run_removal_found {α : Type} {kind : Kind} {found : Op α} {value : α} {asked : Identifier}
    {id : Int} {force : Bool} {belongs : Int → Game → Bool} {games : List Game}
    {cut : Int → List Int → World → World} (stored : found.run w = (.ok value, w))
    (number : ((Op.number kind asked).run w).1 = .ok id)
    (selected : w.games.select (belongs id) = .ok games) :
    (removal kind found asked force belongs cut).run w =
      (gamesToRemove kind id force games >>= fun ids => modify (cut id ids)).run w := by
  have keyed : (Op.number kind asked).run w = (.ok id, w) :=
    Prod.ext number (ReadOnly.number kind asked w)
  unfold removal
  rw [run_bind_ok stored, run_bind_ok keyed, run_bind_ok (run_get w), run_bind, run_ofExcept,
    selected]

theorem dropped_withoutLocation (id : Int) (ids : List Int) (w : World) :
    Dropped ids w (withoutLocation id ids w) :=
  { dropped_foldl ids w with }

theorem dropped_withoutAdventure (id : Int) (ids : List Int) (w : World) :
    Dropped ids w (withoutAdventure id ids w) :=
  { dropped_foldl ids w with }

end TextAdventure.Authoring
