import TextAdventure.Proofs.Json.Lasting
import TextAdventure.Proofs.Store.Games

/-! Games in files that mirror games in memory: each number has the same game in both, and selections
show the same games in the same order. Storing, adding and removing on both sides keeps it so. -/

namespace TextAdventure

/-- A game that is read from its file as it was written. -/
structure Game.Lasting (g : Game) : Prop where
  language : g.language.Lasting
  scalar : g.language.Scalar
  state : Json.Lasting (.object g.state)

theorem Game.Lasting.reread {g : Game} (h : g.Lasting) : g.reread = .ok g := by
  have language : Field.code "language" (.text g.language.paired) = .ok g.language := h.language
  have state : Json.rereadFields [] g.state = g.state := by
    have same := h.state.reread
    rw [Json.reread] at same
    exact Json.object.inj same
  rw [Game.reread, language, state]
  rfl

/-! ### Rows in order -/

namespace Rows

theorem get?_map {α β : Type} (f : α → β) (id : Int) (rows : Rows α) :
    Rows.get? id (List.map (fun r => (r.1, f r.2)) rows) = (Rows.get? id rows).map f := by
  induction rows with
  | nil => rfl
  | cons r rest ih =>
    obtain ⟨k, v⟩ := r
    rw [List.map_cons, Rows.get?, Rows.get?, ih]
    split <;> rfl

/-- Rows of different numbers are ascending once they are sorted. -/
theorem ascending_mergeSort {α : Type} {rows : Rows α}
    (apart : List.Pairwise (fun a b => a.1 ≠ b.1) rows) :
    Ascending (List.mergeSort rows fun a b => decide (a.1 ≤ b.1)) := by
  have le : (List.mergeSort rows fun a b => decide (a.1 ≤ b.1)).Pairwise
      fun a b => decide (a.1 ≤ b.1) = true :=
    List.pairwise_mergeSort (fun a b c hab hbc => by simp at *; omega) (fun a b => by simp; omega) _
  have ne : (List.mergeSort rows fun a b => decide (a.1 ≤ b.1)).Pairwise fun a b => a.1 ≠ b.1 :=
    (List.mergeSort_perm _ _).symm.pairwise apart fun h => Ne.symm h
  exact (le.and ne).imp fun ⟨hle, hne⟩ => by simp at hle; omega

/-- What comes of ascending rows, one after another, if it is known what comes of each number. -/
theorem Ascending.mapM_eq {α β : Type} {f : α → Except Error β} {rows : Rows α} {results : Rows β}
    (ha : rows.Ascending) (hb : results.Ascending)
    (same : ∀ n, (get? n rows).map f = (get? n results).map .ok) :
    List.mapM (fun r => f r.2) rows = .ok (List.map (·.2) results) := by
  have outcomes : List.map (fun r => (r.1, f r.2)) rows =
      List.map (fun r => (r.1, Except.ok r.2)) results := by
    refine ext (List.pairwise_map.2 ha) (List.pairwise_map.2 hb) fun n => ?_
    rw [get?_map f, get?_map (fun b => Except.ok b), same]
  have seconds : List.map (fun r => f r.2) rows = List.map (fun r => Except.ok r.2) results := by
    have snd := congrArg (List.map Prod.snd) outcomes
    rwa [List.map_map, List.map_map] at snd
  calc List.mapM (fun r => f r.2) rows
    _ = List.mapM id (List.map (fun r => f r.2) rows) := by rw [List.mapM_map]; rfl
    _ = List.mapM (fun r => .ok r.2) results := by rw [seconds, List.mapM_map]; rfl
    _ = .ok (List.map (·.2) results) := mapM_all fun r _ => rfl

end Rows

/-! ### Listing files -/

namespace Folder

variable {f : Folder} {rows : Rows Game}

/-- The files of a folder that holds the games of `rows`: each is that of a game among them. -/
theorem Tidy.named (tidy : f.Tidy) (found : ∀ n, f.get? n = .ok (Rows.get? n rows))
    {e : Text × Text} (he : e ∈ gameFiles f.directory) :
    ∃ (k : Nat) (g : Game), e.1 = Text.ofNat k ∧ Payload.read e.2 = .ok g ∧
      Rows.get? k rows = some g := by
  obtain ⟨name, t, hmem, hstem, hlines⟩ := mem_gameFiles.1 he
  obtain ⟨k, rfl⟩ := tidy.canonical _ hmem (by rw [hstem]; rfl)
  have hfile := tidy.distinct.get?_of_mem hmem
  have htext : f.directory.text? (fileName k) = some e.2 := text_eq_some.2 ⟨t, hfile, hlines⟩
  have hread := found k
  rw [get?, htext] at hread
  obtain ⟨g, hg, hrow⟩ := map_ok hread
  exact ⟨k, g, Option.some.inj (hstem.symm.trans (stem?_fileName k)), hg, hrow.symm⟩

/-- The texts of the files taken for games, each under the number that its digits stand for. -/
def filed (d : Directory) : Rows Text :=
  (gameFiles d).map fun e => ((Text.digitsValue e.1 : Int), e.2)

/-- No two files are those of one number. -/
theorem Tidy.distinct_numbers (tidy : f.Tidy) :
    (gameFiles f.directory).Pairwise fun a b => Text.digitsValue a.1 ≠ Text.digitsValue b.1 := by
  have canonical {e : Text × Entry} {stem : Text} (he : e ∈ f.directory)
      (hstem : stem? e.1 = some stem) : e.1 = fileName (Text.digitsValue stem) := by
    obtain ⟨k, hk⟩ := tidy.canonical e he (by rw [hstem]; rfl)
    rw [hk, stem?_fileName] at hstem
    rw [hk, ← Option.some.inj hstem, Text.digitsValue_ofNat]
  unfold gameFiles
  rw [List.pairwise_filterMap]
  refine tidy.distinct.imp_of_mem fun {a b} ha hb ne found hfound other hother same => ne ?_
  split at hfound
  · rename_i hstem _
    split at hother
    · rename_i hstem' _
      obtain rfl := Option.some.inj hfound
      obtain rfl := Option.some.inj hother
      have numbers : Text.digitsValue _ = Text.digitsValue _ := same
      rw [canonical ha hstem, canonical hb hstem', numbers]
    · cases hother
  · cases hfound

/-- A text is filed under a number if the file of that number holds it. -/
theorem Tidy.mem_filed (tidy : f.Tidy) {n : Int} {u : Text} :
    (n, u) ∈ filed f.directory ↔ 0 ≤ n ∧ f.directory.text? (fileName n) = some u := by
  constructor
  · intro h
    obtain ⟨⟨stem, u⟩, he, heq⟩ := List.mem_map.1 h
    obtain ⟨rfl, rfl⟩ := Prod.mk.inj heq
    obtain ⟨name, t, hmem, hstem, hlines⟩ := mem_gameFiles.1 he
    obtain ⟨k, rfl⟩ := tidy.canonical _ hmem (by rw [hstem]; rfl)
    obtain rfl : Text.ofNat k = stem := Option.some.inj ((stem?_fileName k).symm.trans hstem)
    rw [Text.digitsValue_ofNat]
    exact ⟨Int.natCast_nonneg k, text_eq_some.2 ⟨t, tidy.distinct.get?_of_mem hmem, hlines⟩⟩
  · rintro ⟨natural, htext⟩
    obtain ⟨k, rfl⟩ := Int.eq_ofNat_of_zero_le natural
    obtain ⟨t, hfile, rfl⟩ := text_eq_some.1 htext
    have listed : (Text.ofNat k, Directory.unixLines t) ∈ gameFiles f.directory :=
      mem_gameFiles.2 ⟨_, t, Directory.mem_of_get? hfile, stem?_fileName k, rfl⟩
    exact List.mem_map.2 ⟨_, listed, by rw [Text.digitsValue_ofNat]⟩

theorem Tidy.ascending_filed (tidy : f.Tidy) :
    Rows.Ascending ((filed f.directory).mergeSort fun a b => decide (a.1 ≤ b.1)) := by
  refine Rows.ascending_mergeSort ?_
  rw [filed, List.pairwise_map]
  exact tidy.distinct_numbers.imp fun ne same => ne (Int.ofNat.inj same)

/-- The numbers of the files are those that their digits stand for. -/
theorem Tidy.numbered_eq (tidy : f.Tidy) (found : ∀ n, f.get? n = .ok (Rows.get? n rows))
    (natural : ∀ r ∈ rows, 0 ≤ r.1 ∧ Json.isLong r.1 = false) :
    numbered f.directory = .ok (filed f.directory) := by
  refine mapM_all fun e he => ?_
  obtain ⟨k, g, hstem, -, hrow⟩ := tidy.named found he
  have short : (k : Int).natAbs < Nat.pow 10 Numeral.mostDigits := by
    simpa [Json.isLong] using (natural _ (Rows.mem_of_get? hrow)).2
  have hnumber : number (Text.ofNat k) = .ok k :=
    number_ofNat ((Text.length_ofNat_le (by decide)).2 short)
  rw [hstem, hnumber, Text.digitsValue_ofNat]
  rfl

/-- A folder lists the games of `rows` in their order. -/
theorem Tidy.games_eq (tidy : f.Tidy) (ascending : rows.Ascending)
    (found : ∀ n, f.get? n = .ok (Rows.get? n rows))
    (natural : ∀ r ∈ rows, 0 ≤ r.1 ∧ Json.isLong r.1 = false) :
    f.games = .ok (List.map (·.2) rows) := by
  unfold games
  rw [tidy.numbered_eq found natural]
  refine tidy.ascending_filed.mapM_eq ascending fun n => ?_
  have here := found n
  unfold get? at here
  cases hget : Rows.get? n ((filed f.directory).mergeSort fun a b => decide (a.1 ≤ b.1)) with
  | some u =>
    have listed := List.mem_mergeSort.1 (Rows.mem_of_get? hget)
    rw [(tidy.mem_filed.1 listed).2] at here
    obtain ⟨g, hread, hrow⟩ := map_ok here
    rw [← hrow, Option.map_some, Option.map_some, hread]
  | none =>
    cases hrow : Rows.get? n rows with
    | none => rfl
    | some g =>
      have positive := (natural _ (Rows.mem_of_get? hrow)).1
      obtain ⟨t, hfile, -⟩ := get?_eq_some.1 ((found n).trans (congrArg Except.ok hrow))
      have listed := tidy.mem_filed.2 ⟨positive, text_eq_some.2 ⟨t, hfile, rfl⟩⟩
      have there := tidy.ascending_filed.get?_of_mem (List.mem_mergeSort.2 listed)
      exact nomatch hget.symm.trans there

end Folder

namespace Games

/-- `s'` has in files the games that `s` has in memory, and all of them are lasting. -/
structure Mirrors (s s' : Games) : Prop where
  memory : ¬s.Filed
  filed : s'.Filed
  get? : ∀ n, s'.get? n = s.get? n
  has : ∀ n, s'.Has n ↔ s.Has n
  ids : s'.ids = s.ids
  next : 0 ≤ s.ids.next
  tidy : s.Tidy
  tidyFiles : s'.Tidy
  natural : ∀ n, s.Has n → 0 ≤ n ∧ Json.isLong n = false
  lasting : ∀ n g, s.get? n = .ok (some g) → g.id = some n ∧ g.Lasting

variable {s s' t t' : Games} {n : Int} {g : Game}

theorem mirrors_empty : Mirrors (.memory {}) (.files {}) := by
  refine ⟨id, trivial, fun n => rfl, fun n => ?_, rfl, by decide, List.Pairwise.nil,
    Folder.Tidy.empty _, fun n has => ?_, fun n g found => ?_⟩
  · simp [Has, Directory.get?, Table.get?]
  · cases has
  · cases found

namespace Mirrors

theorem remove (h : Mirrors s s') (id : Int) : Mirrors (s.remove id) (s'.remove id) where
  memory := mt (filed_remove s id).1 h.memory
  filed := (filed_remove s' id).2 h.filed
  get? n := by rw [get?_remove, get?_remove, h.get?]
  has n := by rw [has_remove, has_remove, h.has]
  ids := by rw [ids_remove, ids_remove, h.ids]
  next := by
    rw [ids_remove]
    exact h.next
  tidy := tidy_remove h.tidy id
  tidyFiles := tidy_remove h.tidyFiles id
  natural n has := h.natural n ((has_remove s id n).1 has).2
  lasting n g found := h.lasting n g (get?_remove_eq_some.1 found).2

/-- Storing a game on both sides. -/
theorem puts (h : Mirrors s s') (hput : s.Puts n g t) (hput' : s'.Puts n g t')
    (number : g.id = some n) (natural : 0 ≤ n) (lasting : g.Lasting) (ids : t'.ids = t.ids)
    (next : 0 ≤ t.ids.next) :
    Mirrors t t' := by
  have reads : s.reads g = .ok g := by
    cases s with
    | memory _ => rfl
    | files _ => exact lasting.reread
  have reads' : s'.reads g = .ok g := by
    cases s' with
    | memory _ => rfl
    | files _ => exact lasting.reread
  have short : Json.isLong n = false := (hput'.fits h.filed).short number
  refine
    { memory := mt hput.filed.1 h.memory
      filed := hput'.filed.2 h.filed
      get? := fun m => ?_
      has := fun m => ?_
      ids
      next
      tidy := hput.tidy h.tidy
      tidyFiles := hput'.tidy h.tidyFiles
      natural := fun m has => ?_
      lasting := fun m k found => ?_ }
  · rw [hput.get?, hput'.get?, reads, reads', h.get?]
  · rw [hput.has, hput'.has, h.has]
  · rcases (hput.has m).1 has with rfl | has
    · exact ⟨natural, short⟩
    · exact h.natural m has
  · rcases hput.get?_eq_some.1 found with ⟨rfl, hread⟩ | ⟨-, found⟩
    · obtain rfl : g = k := Except.ok.inj (reads.symm.trans hread)
      exact ⟨number, lasting⟩
    · exact h.lasting m k found

/-- Selections show the same games in the same order. -/
theorem select (h : Mirrors s s') (p : Game → Bool) : s'.select p = s.select p := by
  cases s with
  | files f => exact absurd trivial h.memory
  | memory table =>
    cases s' with
    | memory _ => exact absurd h.filed id
    | files f =>
      have found (n : Int) : f.get? n = .ok (Rows.get? n table.rows) := h.get? n
      have games : f.games = .ok (List.map (·.2) table.rows) := by
        refine Folder.Tidy.games_eq h.tidyFiles h.tidy found fun r hr => h.natural r.1 ?_
        have hrow : Rows.get? r.1 table.rows = some r.2 := Rows.Ascending.get?_of_mem h.tidy hr
        exact Option.isSome_iff_exists.2 ⟨r.2, hrow⟩
      show f.games.map (·.filter p) = .ok (List.map (·.2) (table.rows.select p))
      rw [games]
      exact congrArg Except.ok List.filter_map

end Mirrors

end Games

end TextAdventure
