import TextAdventure.Proofs.Result
import TextAdventure.Proofs.Store.Payload

/-! Directories and the games in their files: which file is that of which game, what a file holds after
a change, and which games a listing shows. -/

namespace TextAdventure

namespace Directory

variable {d : Directory} {name other : Text} {entry : Entry}

theorem get?_cons (e : Text × Entry) (d : Directory) (name : Text) :
    get? (e :: d) name = if e.1 = name then some e.2 else get? d name := by
  unfold get?
  by_cases h : e.1 = name <;> simp [h]

theorem get?_write (name other : Text) (entry : Entry) (d : Directory) :
    (d.write name entry).get? other = if other = name then some entry else d.get? other := by
  induction d with
  | nil =>
    rw [write, get?_cons]
    by_cases h : other = name
    · simp [h]
    · simp [h, Ne.symm h]
  | cons e rest ih =>
    rw [write]
    split
    · rename_i he
      rw [get?_cons, get?_cons]
      by_cases h : other = name
      · simp [h]
      · simp [h, Ne.symm h, he]
    · rename_i he
      rw [get?_cons, get?_cons, ih]
      by_cases h : e.1 = other
      · subst h
        simp [he]
      · simp [h]

theorem get?_erase (name other : Text) (d : Directory) :
    (d.erase name).get? other = if other = name then none else d.get? other := by
  induction d with
  | nil => simp [erase, get?]
  | cons e rest ih =>
    by_cases he : e.1 = name
    · have hskip : erase (e :: rest) name = erase rest name := by simp [erase, he]
      rw [hskip, ih, get?_cons]
      by_cases h : other = name
      · simp [h]
      · simp [h, he, Ne.symm h]
    · have hkeep : erase (e :: rest) name = e :: erase rest name := by simp [erase, he]
      rw [hkeep, get?_cons, get?_cons, ih]
      by_cases h : e.1 = other
      · subst h
        simp [he]
      · simp [h]

theorem mem_of_get? (h : d.get? name = some entry) : (name, entry) ∈ d := by
  unfold get? at h
  obtain ⟨e, hfound, rfl⟩ := Option.map_eq_some_iff.1 h
  have hname : e.1 = name := by simpa using List.find?_some hfound
  exact hname ▸ List.mem_of_find?_eq_some hfound

/-- No name stands twice. -/
def Distinct (d : Directory) : Prop := d.Pairwise fun a b => a.1 ≠ b.1

theorem Distinct.get?_of_mem (hd : d.Distinct) (h : (name, entry) ∈ d) :
    d.get? name = some entry := by
  induction d with
  | nil => simp at h
  | cons e rest ih =>
    obtain ⟨hfirst, hrest⟩ := List.pairwise_cons.1 hd
    rw [get?_cons]
    rcases List.mem_cons.1 h with rfl | h
    · simp
    · rw [if_neg (hfirst _ h)]
      exact ih hrest h

theorem mem_write {e : Text × Entry} (h : e ∈ d.write name entry) : e = (name, entry) ∨ e ∈ d := by
  induction d with
  | nil => simpa [write] using h
  | cons f rest ih =>
    rw [write] at h
    split at h
    · exact (List.mem_cons.1 h).imp_right (List.mem_cons_of_mem _)
    · rcases List.mem_cons.1 h with rfl | h
      · exact .inr List.mem_cons_self
      · exact (ih h).imp_right (List.mem_cons_of_mem _)

theorem Distinct.write (hd : d.Distinct) (name : Text) (entry : Entry) :
    (d.write name entry).Distinct := by
  induction d with
  | nil => simp [Directory.write, Distinct]
  | cons f rest ih =>
    obtain ⟨hfirst, hrest⟩ := List.pairwise_cons.1 hd
    rw [Directory.write]
    split
    · rename_i hf
      exact List.pairwise_cons.2 ⟨fun e he => hf ▸ hfirst e he, hrest⟩
    · rename_i hf
      refine List.pairwise_cons.2 ⟨fun e he => ?_, ih hrest⟩
      rcases mem_write he with rfl | he
      · exact hf
      · exact hfirst e he

theorem Distinct.erase (hd : d.Distinct) (name : Text) : (d.erase name).Distinct :=
  List.Pairwise.filter _ hd

end Directory

namespace Folder

theorem fileName_injective {m n : Int} (h : fileName m = fileName n) : m = n :=
  Text.ofInt_injective (List.append_cancel_right h)

/-- The file name of a number that is not negative looks like that of a game. -/
theorem stem?_fileName (n : Nat) : stem? (fileName n) = some (Text.ofNat n) := by
  have htake : (fileName n).take ((fileName n).length - suffix.length) = Text.ofNat n := by
    simp [fileName, Text.ofInt_ofNat]
  have hdigits : (Text.ofNat n).all CodePoint.isDigit = true := by
    refine List.all_eq_true.2 fun c hc => ?_
    simp [CodePoint.isDigit, CodePoint.decimalValue_of_digit (Text.digits_ofNat n c hc)]
  have hsuffix : suffix.isSuffixOf (fileName n) = true :=
    List.isSuffixOf_iff_suffix.2 (List.suffix_append _ _)
  unfold stem?
  rw [htake, if_pos ⟨hsuffix, Text.ofNat_ne_nil n, hdigits⟩]

/-- That of a negative number does not. -/
theorem stem?_fileName_negative {n : Int} (h : n < 0) : stem? (fileName n) = none := by
  have htake : (fileName n).take ((fileName n).length - suffix.length) = Text.ofInt n := by
    simp [fileName]
  have hminus : CodePoint.isDigit (CodePoint.ofChar '-') = false := by decide +kernel
  have hdigits : (Text.ofInt n).all CodePoint.isDigit = false := by
    cases n with
    | ofNat n => exact absurd h (Int.not_lt.2 (Int.natCast_nonneg n))
    | negSucc n => simp [Text.ofInt_negSucc, hminus]
  unfold stem?
  rw [htake, if_neg (by simp [hdigits])]

theorem number_ofNat {n : Nat} (h : (Text.ofNat n).length ≤ Numeral.mostDigits) :
    number (Text.ofNat n) = .ok n := by
  rw [number, Payload.toInt, Numeral.int_ofNat h]

/-- A directory that its games alone have been written to: no name stands twice, every name that
looks like that of a game is the file name of a number, and no game's file is a directory. -/
structure Tidy (f : Folder) : Prop where
  distinct : f.directory.Distinct
  canonical : ∀ e ∈ f.directory, (stem? e.1).isSome → ∃ n : Nat, e.1 = fileName n
  files : ∀ id, f.directory.get? (fileName id) ≠ some .folder

variable {f : Folder} {id : Int} {g : Game}

theorem text_eq_some {d : Directory} {name t : Text} :
    d.text? name = some t ↔ ∃ u, d.get? name = some (.file u) ∧ t = Directory.unixLines u := by
  unfold Directory.text?
  cases d.get? name with
  | none => simp
  | some e =>
    cases e with
    | file u => simp [eq_comm]
    | folder => simp

/-- A game is found where its file can be read as one. -/
theorem get?_eq_some : f.get? id = .ok (some g) ↔
    ∃ t, f.directory.get? (fileName id) = some (.file t) ∧
    Payload.read (Directory.unixLines t) = .ok g := by
  unfold get?
  cases ht : f.directory.text? (fileName id) with
  | none =>
    refine ⟨fun h => (nomatch Except.ok.inj h), fun ⟨t, hfile, _⟩ => ?_⟩
    have := text_eq_some.2 ⟨t, hfile, rfl⟩
    rw [ht] at this
    exact nomatch this
  | some u =>
    obtain ⟨t, hfile, rfl⟩ := text_eq_some.1 ht
    rw [hfile]
    cases hread : Payload.read (Directory.unixLines t) with
    | error e => simp [Except.map, hread]
    | ok g' => simp [Except.map, hread]

theorem mem_gameFiles {d : Directory} {stem u : Text} : (stem, u) ∈ gameFiles d ↔
    ∃ name t, (name, Entry.file t) ∈ d ∧ stem? name = some stem ∧ u = Directory.unixLines t := by
  unfold gameFiles
  rw [List.mem_filterMap]
  constructor
  · rintro ⟨⟨name, entry⟩, hmem, hentry⟩
    cases hstem : stem? name with
    | none => simp [hstem] at hentry
    | some stem' =>
      cases entry with
      | folder => simp [hstem] at hentry
      | file t =>
        simp only [hstem, Option.some.injEq, Prod.mk.injEq] at hentry
        exact ⟨name, t, hmem, by rw [hstem, hentry.1], hentry.2.symm⟩
  · rintro ⟨name, t, hmem, hstem, rfl⟩
    exact ⟨(name, .file t), hmem, by simp [hstem]⟩

end Folder

namespace Folder

variable {f : Folder} {id : Int} {g : Game}

/-- The files with numbers are those that go by the name of a game. -/
theorem mem_numbered {d : Directory} {files : List (Int × Text)} (h : numbered d = .ok files)
    {u : Text} : (∃ n, (n, u) ∈ files) ↔ ∃ name t stem, (name, Entry.file t) ∈ d ∧
      stem? name = some stem ∧ u = Directory.unixLines t := by
  obtain ⟨back, forth⟩ := mapM_ok h
  constructor
  · rintro ⟨n, hfile⟩
    obtain ⟨⟨stem, u'⟩, hstem, hn⟩ := back _ hfile
    obtain ⟨k, -, hpair⟩ := map_ok hn
    obtain ⟨name, t, there, looks, hu⟩ := mem_gameFiles.1 hstem
    rw [← (Prod.mk.inj hpair).2]
    exact ⟨name, t, stem, there, looks, hu⟩
  · rintro ⟨name, t, stem, there, looks, rfl⟩
    obtain ⟨⟨n, u⟩, hfile, hn⟩ := forth _ (mem_gameFiles.2 ⟨name, t, there, looks, rfl⟩)
    obtain ⟨k, -, hpair⟩ := map_ok hn
    obtain rfl := (Prod.mk.inj hpair).2
    exact ⟨n, hfile⟩

section Listing

variable {games : List Game} (h : f.games = .ok games)
include h

/-- When games are listed, every file that goes by the name of a game holds one of them. -/
theorem listed_of_file {name t stem : Text} (there : (name, Entry.file t) ∈ f.directory)
    (looks : stem? name = some stem) :
    ∃ g ∈ games, Payload.read (Directory.unixLines t) = .ok g := by
  obtain ⟨files, hfiles, hgames⟩ := ok_of_bind h
  obtain ⟨n, hfile⟩ := (mem_numbered hfiles).2 ⟨name, t, stem, there, looks, rfl⟩
  exact (mapM_ok hgames).2 _ (List.mem_mergeSort.2 hfile)

/-- What is listed stands in a file that goes by the name of a game, under whatever number. -/
theorem mem_games : g ∈ games ↔ ∃ name t stem, (name, Entry.file t) ∈ f.directory ∧
    stem? name = some stem ∧ Payload.read (Directory.unixLines t) = .ok g := by
  constructor
  · intro hg
    obtain ⟨files, hfiles, hgames⟩ := ok_of_bind h
    obtain ⟨⟨n, u⟩, hfile, reads⟩ := (mapM_ok hgames).1 g hg
    obtain ⟨name, t, stem, there, looks, rfl⟩ :=
      (mem_numbered hfiles).1 ⟨n, List.mem_mergeSort.1 hfile⟩
    exact ⟨name, t, stem, there, looks, reads⟩
  · rintro ⟨name, t, stem, there, looks, reads⟩
    obtain ⟨g', listed, reads'⟩ := listed_of_file h there looks
    rw [reads] at reads'
    rwa [Except.ok.inj reads']

end Listing

/-- A listing shows the games that are found under numbers that are not negative. -/
theorem Tidy.mem_games (tidy : f.Tidy) {games : List Game} (h : f.games = .ok games) :
    g ∈ games ↔ ∃ n : Nat, f.get? n = .ok (some g) := by
  rw [Folder.mem_games h]
  constructor
  · rintro ⟨name, t, stem, there, looks, reads⟩
    obtain ⟨k, rfl⟩ := tidy.canonical _ there (by rw [looks]; rfl)
    exact ⟨k, get?_eq_some.2 ⟨t, tidy.distinct.get?_of_mem there, reads⟩⟩
  · rintro ⟨n, hn⟩
    obtain ⟨t, hfile, reads⟩ := get?_eq_some.1 hn
    exact ⟨_, t, _, Directory.mem_of_get? hfile, stem?_fileName n, reads⟩

/-- When games can be listed, each of those that are listed can be read. -/
theorem Tidy.readable (tidy : f.Tidy) {games : List Game} (h : f.games = .ok games) {n : Nat}
    (has : (f.directory.get? (fileName n)).isSome) : ∃ g, f.get? n = .ok (some g) := by
  obtain ⟨entry, hentry⟩ := Option.isSome_iff_exists.1 has
  cases entry with
  | folder => exact absurd hentry (tidy.files n)
  | file t =>
    obtain ⟨g, -, reads⟩ :=
      listed_of_file h (Directory.mem_of_get? hentry) (stem?_fileName n)
    exact ⟨g, get?_eq_some.2 ⟨t, hentry, reads⟩⟩

/-! ### What changes do -/

theorem Tidy.empty (ids : IdSequence) : Tidy { directory := [], ids } :=
  ⟨List.Pairwise.nil, by simp, by simp [Directory.get?]⟩

/-- Any file of a game may be written. -/
theorem Tidy.write (tidy : f.Tidy) (id : Int) (t : Text) :
    Tidy { f with directory := f.directory.write (fileName id) (.file t) } := by
  refine ⟨tidy.distinct.write _ _, fun e he hstem => ?_, fun n => ?_⟩
  · rcases Directory.mem_write he with rfl | he
    · cases id with
      | ofNat n => exact ⟨n, rfl⟩
      | negSucc n => simp [stem?_fileName_negative (Int.negSucc_lt_zero n)] at hstem
    · exact tidy.canonical e he hstem
  · show (f.directory.write (fileName id) (.file t)).get? (fileName n) ≠ some .folder
    rw [Directory.get?_write]
    split
    · simp
    · exact tidy.files n

theorem Tidy.remove (tidy : f.Tidy) (id : Int) : (f.remove id).Tidy := by
  refine ⟨tidy.distinct.erase _, fun e he => tidy.canonical e (List.mem_filter.1 he).1,
    fun n => ?_⟩
  show (f.directory.erase (fileName id)).get? (fileName n) ≠ some .folder
  rw [Directory.get?_erase]
  split
  · simp
  · exact tidy.files n

/-- Each game is found in its own file, so that a file that is written or removed changes what is
found under its own number alone. -/
theorem get?_of_directory {f f' : Folder} {n : Int}
    (h : f'.directory.get? (fileName n) = f.directory.get? (fileName n)) : f'.get? n = f.get? n := by
  unfold get? Directory.text?
  rw [h]

theorem get?_write (f : Folder) (id : Int) (t : Text) (n : Int) :
    Folder.get? { f with directory := f.directory.write (fileName id) (.file t) } n =
      if n = id then (Payload.read (Directory.unixLines t)).map some else f.get? n := by
  split
  · rename_i h
    subst h
    unfold get? Directory.text?
    rw [Directory.get?_write, if_pos rfl]
  · rename_i h
    refine get?_of_directory ?_
    rw [Directory.get?_write, if_neg fun heq => h (fileName_injective heq)]

theorem get?_remove (f : Folder) (id n : Int) :
    (f.remove id).get? n = if n = id then .ok none else f.get? n := by
  split
  · rename_i h
    subst h
    unfold get? Directory.text? remove
    rw [Directory.get?_erase, if_pos rfl]
  · rename_i h
    refine get?_of_directory ?_
    rw [remove, Directory.get?_erase, if_neg fun heq => h (fileName_injective heq)]

end Folder

end TextAdventure
