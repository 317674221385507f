import TextAdventure.Proofs.Store.Damaged
import TextAdventure.Store.Games

/-! Which files a listing of games shows. Names are written by numbers and are listed by digits of
any kind, so a name may have digits that no number is read from, a file may be listed under the
number of another one, and the file of a negative number is not listed at all. -/

namespace TextAdventure

/-! ### What is read back of a game -/

theorem Text.strip_eq_nil {t : Text} : t.strip = [] ↔ ∀ c ∈ t, c.isBlank = true := by
  have left (t : Text) : t.stripLeft = [] ↔ ∀ c ∈ t, c.isBlank = true := List.dropWhile_eq_nil_iff
  unfold strip
  rw [List.reverse_eq_nil_iff, left]
  constructor
  · intro h c hc
    have split := List.takeWhile_append_dropWhile (p := CodePoint.isBlank) (l := t)
    rw [← split, List.mem_append] at hc
    rcases hc with hc | hc
    · exact List.mem_takeWhile_imp hc
    · exact h c (List.mem_reverse.2 hc)
  · intro h c hc
    exact h c ((List.dropWhile_suffix _).subset (List.mem_reverse.1 hc))

/-- No character that two surrogates make is blank. -/
theorem CodePoint.joined_visible {c d : CodePoint} (high : c.isHigh = true) (low : d.isLow = true) :
    (joined c d).isBlank = false := by
  simp only [isHigh, isLow, Bool.and_eq_true, decide_eq_true_eq] at high low
  have hval : (joined c d).val = 0x10000 + (c.val - 0xD800) * 1024 + (d.val - 0xDC00) :=
    val_ofNat (by omega)
  simp only [isBlank, Bool.or_eq_false_iff, Bool.and_eq_false_iff, decide_eq_false_iff_not,
    beq_eq_false_iff_ne]
  omega

/-- Joining surrogates leaves the characters that are not blank, or makes such characters. -/
theorem Text.exists_visible_paired {t : Text} (h : ∃ c ∈ t, c.isBlank = false) :
    ∃ c ∈ t.paired, c.isBlank = false := by
  fun_induction Text.paired t with
  | case1 => exact h
  | case2 => exact h
  | case3 c d rest pair ih =>
    obtain ⟨high, low⟩ := Bool.and_eq_true_iff.1 pair
    exact ⟨_, List.mem_cons_self, CodePoint.joined_visible high low⟩
  | case4 c d rest apart ih =>
    obtain ⟨e, he, visible⟩ := h
    rcases List.mem_cons.1 he with rfl | he
    · exact ⟨e, List.mem_cons_self, visible⟩
    · obtain ⟨e', he', visible'⟩ := ih ⟨e, he, visible⟩
      exact ⟨e', List.mem_cons_of_mem _ he', visible'⟩

theorem Text.strip_ne_nil {t : Text} : t.strip ≠ [] ↔ ∃ c ∈ t, c.isBlank = false := by
  rw [ne_eq, strip_eq_nil]
  simp

/-- A game whose language has passed its check is read back, whatever else is in it. -/
theorem Game.reread_ok {g : Game}
    (checked : Field.code "language" (.text g.language) = .ok g.language) :
    ∃ stored, g.reread = .ok stored := by
  obtain ⟨t, ht, visible, -⟩ := Field.code_eq_ok.1 checked
  obtain rfl := Json.text.inj ht
  have again : g.language.paired.strip ≠ [] :=
    Text.strip_ne_nil.2 (Text.exists_visible_paired (Text.strip_ne_nil.1 visible))
  rw [Game.reread, Field.code_eq_ok.2 ⟨_, rfl, again, rfl⟩]
  exact ⟨_, rfl⟩

namespace Folder

/-! ### Names and numbers -/

theorem stem?_eq_some {name stem : Text} : stem? name = some stem ↔
    name = stem ++ suffix ∧ stem ≠ [] ∧ ∀ c ∈ stem, c.isDigit = true := by
  have front (t : Text) : (t ++ suffix).take ((t ++ suffix).length - suffix.length) = t := by simp
  unfold stem?
  constructor
  · intro h
    dsimp only at h
    split at h
    · rename_i looks
      obtain ⟨ends, nonempty, digits⟩ := looks
      obtain ⟨t, rfl⟩ := List.isSuffixOf_iff_suffix.1 ends
      rw [front] at h nonempty digits
      obtain rfl := Option.some.inj h
      exact ⟨rfl, nonempty, List.all_eq_true.1 digits⟩
    · exact nomatch h
  · rintro ⟨rfl, nonempty, digits⟩
    have ends : suffix.isSuffixOf (stem ++ suffix) = true :=
      List.isSuffixOf_iff_suffix.2 (List.suffix_append _ _)
    rw [front, if_pos ⟨ends, nonempty, List.all_eq_true.2 digits⟩]

/-- Digits that are read as a number: decimal digits, and not too many. -/
def Numbered (stem : Text) : Prop :=
  (∀ c ∈ stem, c.decimalValue?.isSome = true) ∧ stem.length ≤ Numeral.mostDigits

/-- The number of digits is that which they spell, in whatever scripts. -/
theorem number_of_numbered {name stem : Text} (h : stem? name = some stem)
    (numbered : Numbered stem) : number stem = .ok (Numeral.value (stem.map Numeral.Mark.of)) := by
  rw [number, Payload.toInt, Numeral.int_decimal (stem?_eq_some.1 h).2.1 numbered.1 numbered.2]

theorem number_ok_iff {name stem : Text} (h : stem? name = some stem) :
    (∃ n, number stem = .ok n) ↔ Numbered stem := by
  refine ⟨fun ⟨n, hn⟩ => ?_, fun numbered => ⟨_, number_of_numbered h numbered⟩⟩
  by_contra unnumbered
  obtain ⟨fault, refused⟩ := Numeral.int_not_decimal (stem?_eq_some.1 h).2.2 unnumbered
  rw [number, Payload.toInt, refused] at hn
  cases fault <;> cases hn

/-- A file goes by the name of its number if its digits are as numbers are written. -/
theorem fileName_eq_iff {name stem : Text} {n : Int} (h : stem? name = some stem)
    (hn : number stem = .ok n) : fileName n = name ↔ stem.Canonical := by
  have numbered := (number_ok_iff h).1 ⟨n, hn⟩
  have value : (Numeral.value (stem.map Numeral.Mark.of) : Int) = n :=
    Except.ok.inj ((number_of_numbered h numbered).symm.trans hn)
  obtain ⟨rfl, nonempty, digits⟩ := stem?_eq_some.1 h
  constructor
  · intro same
    have written : Text.ofInt n = stem := List.append_cancel_right same
    rw [← written, ← value]
    exact Text.canonical_ofNat _
  · intro canonical
    rw [Numeral.value_map canonical.digits] at value
    rw [← value]
    show Text.ofNat stem.digitsValue ++ suffix = stem ++ suffix
    rw [canonical.ofNat_digitsValue]

/-! ### Opening and listing -/

variable {d : Directory} {f : Folder} {g : Game}

/-- Every name that looks like that of a game has a number. -/
def NamesNumbered (d : Directory) : Prop :=
  ∀ name t stem, (name, Entry.file t) ∈ d → stem? name = some stem → Numbered stem

/-- Every file that goes by the name of a game holds one. -/
def FilesReadable (d : Directory) : Prop :=
  ∀ name t stem, (name, Entry.file t) ∈ d → stem? name = some stem →
    ∃ g, Payload.read (Directory.unixLines t) = .ok g

theorem numbered_ok_iff : (∃ files, numbered d = .ok files) ↔ NamesNumbered d := by
  unfold numbered
  rw [mapM_ok_iff]
  constructor
  · intro h name t stem there looks
    obtain ⟨file, hfile⟩ := h _ (mem_gameFiles.2 ⟨name, t, there, looks, rfl⟩)
    obtain ⟨n, hn, -⟩ := map_ok hfile
    exact (number_ok_iff looks).1 ⟨n, hn⟩
  · rintro h ⟨stem, u⟩ hfile
    obtain ⟨name, t, there, looks, -⟩ := mem_gameFiles.1 hfile
    rw [number_of_numbered looks (h name t stem there looks)]
    exact ⟨_, rfl⟩

/-- Digits that are no number are refused with an error about their value. -/
theorem fails_number (stem : Text) : FailsWith (·.isValue = true) (number stem) := by
  intro e failed
  rcases Payload.misfit_of_toInt failed with about | misfit
  · exact about
  · exact nomatch misfit

theorem fails_numbered : FailsWith (·.isValue = true) (numbered d) :=
  .mapM fun file _ => (fails_number file.1).map _

theorem open_ok_iff : (∃ f, Folder.open d = .ok f) ↔ NamesNumbered d := by
  rw [← numbered_ok_iff]
  unfold Folder.open
  cases numbered d with
  | error e => exact ⟨fun ⟨f, h⟩ => (nomatch h), fun ⟨files, h⟩ => (nomatch h)⟩
  | ok files => exact ⟨fun _ => ⟨files, rfl⟩, fun _ => ⟨_, rfl⟩⟩

theorem directory_of_open (h : Folder.open d = .ok f) : f.directory = d := by
  obtain ⟨files, -, h⟩ := ok_of_bind h
  exact (Except.ok.inj h) ▸ rfl

/-- New games are numbered from past all numbers that the names of files are read as. -/
theorem numbers_of_open (h : Folder.open d = .ok f) :
    ∃ files, numbered d = .ok files ∧ 1 ≤ f.ids.next ∧ ∀ file ∈ files, file.1 < f.ids.next := by
  obtain ⟨files, hfiles, hf⟩ := ok_of_bind h
  obtain rfl := Except.ok.inj hf
  refine ⟨files, hfiles, ?_⟩
  cases greatest : (files.map (·.1)).max? with
  | none =>
    have none : files = [] := List.map_eq_nil_iff.1 (List.max?_eq_none_iff.1 greatest)
    simp [none]
  | some n =>
    have le := (List.max?_eq_some_iff.1 greatest).2
    simp only [IdSequence.advancePast]
    refine ⟨by omega, fun file listed => ?_⟩
    have := le file.1 (List.mem_map_of_mem listed)
    omega

/-- No game that is there has a number from the next one on. Files of negative numbers are not counted,
but their numbers are less than any that is given. -/
theorem lt_next_of_open (h : Folder.open d = .ok f) {n : Int} (there : f.get? n ≠ .ok none) :
    n < f.ids.next := by
  obtain ⟨files, hfiles, positive, past⟩ := numbers_of_open h
  rcases lt_or_ge n 0 with negative | natural
  · omega
  · obtain ⟨k, rfl⟩ := Int.eq_ofNat_of_zero_le natural
    obtain ⟨u, ht⟩ : ∃ u, d.text? (fileName k) = some u := by
      rw [get?, directory_of_open h] at there
      cases ht : d.text? (fileName k) with
      | none => exact absurd (by rw [ht]) there
      | some u => exact ⟨u, rfl⟩
    obtain ⟨t, hfile, rfl⟩ := text_eq_some.1 ht
    have stored := Directory.mem_of_get? hfile
    have short := (numbered_ok_iff.1 ⟨files, hfiles⟩ _ t _ stored (stem?_fileName k)).2
    obtain ⟨file, listed, hnumber⟩ :=
      (mapM_ok hfiles).2 _ (mem_gameFiles.2 ⟨_, t, stored, stem?_fileName k, rfl⟩)
    rw [number_ofNat short] at hnumber
    obtain rfl := Except.ok.inj hnumber
    exact past _ listed

theorem fails_open : FailsWith (·.isValue = true) (Folder.open d) :=
  .bind fails_numbered fun _ => .ok _

/-- Games are listed if all names have numbers and all files hold games. -/
theorem games_ok_iff :
    (∃ games, f.games = .ok games) ↔ NamesNumbered f.directory ∧ FilesReadable f.directory := by
  rw [← numbered_ok_iff]
  constructor
  · rintro ⟨games, h⟩
    obtain ⟨files, hfiles, -⟩ := ok_of_bind h
    refine ⟨⟨files, hfiles⟩, fun name t stem there looks => ?_⟩
    obtain ⟨g, -, reads⟩ := listed_of_file h there looks
    exact ⟨g, reads⟩
  · rintro ⟨⟨files, hfiles⟩, readable⟩
    unfold Folder.games
    rw [hfiles]
    refine mapM_ok_iff.2 fun file hfile => ?_
    obtain ⟨name, t, stem, there, looks, same⟩ :=
      (mem_numbered hfiles).1 ⟨file.1, List.mem_mergeSort.1 hfile⟩
    rw [same]
    exact readable name t stem there looks

/-! ### Adding -/

/-- A file whose name does not look like that of a game is not listed. -/
theorem gameFiles_write {name : Text} (h : stem? name = none) (entry : Entry) (d : Directory) :
    gameFiles (d.write name entry) = gameFiles d := by
  have alone (entry : Entry) (rest : Directory) :
      gameFiles ((name, entry) :: rest) = gameFiles rest := by
    simp [gameFiles, h]
  induction d with
  | nil => exact alone entry []
  | cons e rest ih =>
    rw [Directory.write]
    split
    · rename_i same
      obtain ⟨other, old⟩ := e
      obtain rfl : other = name := same
      rw [alone, alone]
    · simp only [gameFiles, List.filterMap_cons] at ih ⊢
      rw [ih]

theorem numbered_ofNat {n : Nat} (h : Json.isLong n = false) : Numbered (Text.ofNat n) := by
  refine ⟨fun c hc => ?_, ?_⟩
  · rw [CodePoint.decimalValue_of_digit (Text.digits_ofNat n c hc)]
    rfl
  · refine (Text.length_ofNat_le (by decide)).2 ?_
    simpa [Json.isLong] using h

theorem NamesNumbered.write (h : NamesNumbered d) {n : Int} (short : Json.isLong n = false)
    (t : Text) : NamesNumbered (d.write (fileName n) (.file t)) := by
  intro name u stem there looks
  rcases Directory.mem_write there with same | there
  · obtain ⟨rfl, -⟩ := Prod.mk.inj same
    cases n with
    | ofNat k =>
      obtain rfl := Option.some.inj ((stem?_fileName k).symm.trans looks)
      exact numbered_ofNat short
    | negSucc k =>
      rw [stem?_fileName_negative (Int.negSucc_lt_zero k)] at looks
      exact nomatch looks
  · exact h name u stem there looks

theorem FilesReadable.write (h : FilesReadable d) {name t : Text}
    (reads : Payload.read (Directory.unixLines t) = .ok g) :
    FilesReadable (d.write name (.file t)) := by
  intro other u stem there looks
  rcases Directory.mem_write there with same | there
  · obtain rfl := Entry.file.inj (Prod.mk.inj same).2
    exact ⟨g, reads⟩
  · exact h other u stem there looks

/-- What an accepted game is stored as. -/
theorem add_ok {claim : Claim} {g' : Game} {f' : Folder} (h : f.add claim g = (.ok g', f')) :
    ∃ n t, g' = { g with id := some n } ∧ Payload.write g' = .ok t ∧
      f'.directory = f.directory.write (fileName n) (.file t) := by
  unfold Folder.add at h
  cases assigned : f.ids.assign claim with
  | error e =>
    rw [assigned] at h
    exact nomatch (Prod.mk.inj h).1
  | ok given =>
    obtain ⟨n, ids⟩ := given
    simp only [assigned, Folder.write] at h
    cases written : Payload.write { g with id := some n } with
    | error e =>
      rw [written] at h
      exact nomatch (Prod.mk.inj h).1
    | ok t =>
      rw [written] at h
      obtain ⟨hg, rfl⟩ := Prod.mk.inj h
      obtain rfl := Except.ok.inj hg
      exact ⟨n, t, rfl, written, rfl⟩

/-- `f'` has a game that `f` was given under a number. It is found there, and is listed unless the
number is negative. -/
structure Shows (f f' : Folder) (n : Int) (g : Game) : Prop where
  found : f'.get? n = .ok (some g)
  lists : (∃ games, f.games = .ok games) → ∃ games, f'.games = .ok games
  adventure : 0 ≤ n → ∀ games, (Games.files f').ofAdventure g.adventure = .ok games → g ∈ games
  location : 0 ≤ n → ∀ games, (Games.files f').atLocation g.location = .ok games → g ∈ games
  hidden : n < 0 → f'.games = f.games

theorem shows_of_write {f' : Folder} {n : Int} {t : Text} {stored : Game} (hid : g.id = some n)
    (hread : g.reread = .ok stored) (hwrite : Payload.write g = .ok t)
    (hdirectory : f'.directory = f.directory.write (fileName n) (.file t)) :
    Shows f f' n stored := by
  have file : f'.directory.get? (fileName n) = some (.file t) := by
    rw [hdirectory, Directory.get?_write, if_pos rfl]
  have reads : Payload.read (Directory.unixLines t) = .ok stored := by
    rw [Payload.read_write hid hwrite, hread]
  have hidden (negative : n < 0) : f'.games = f.games := by
    unfold Folder.games numbered
    rw [hdirectory, gameFiles_write (stem?_fileName_negative negative)]
  have listed (natural : 0 ≤ n) {games : List Game} (h : f'.games = .ok games) :
      stored ∈ games := by
    obtain ⟨k, rfl⟩ := Int.eq_ofNat_of_zero_le natural
    exact (mem_games h).2 ⟨_, t, _, Directory.mem_of_get? file, stem?_fileName k, reads⟩
  have select (natural : 0 ≤ n) {p : Game → Bool} (hp : p stored = true) {games : List Game}
      (h : (Games.files f').select p = .ok games) : stored ∈ games := by
    obtain ⟨all, hall, rfl⟩ := map_ok h
    exact List.mem_filter.2 ⟨listed natural hall, hp⟩
  refine ⟨get?_eq_some.2 ⟨t, file, reads⟩, fun lists => ?_,
    fun natural games => select natural (decide_eq_true rfl),
    fun natural games => select natural (decide_eq_true rfl), hidden⟩
  obtain ⟨names, readable⟩ := games_ok_iff.1 lists
  have short := (Payload.write_ok hwrite).1.short hid
  rw [games_ok_iff, hdirectory]
  exact ⟨names.write short t, readable.write reads⟩

/-- A directory opens if the names that look like those of games have numbers, and its games are
listed if all files of such names hold one. A listed file is that of its number if its digits are as
numbers are written. A game that is added is found under its number, also when the directory is
opened again, and is listed unless its number is negative. -/
theorem listing_by_names (d : Directory) :
    ((∃ f, Folder.open d = .ok f) ↔ NamesNumbered d) ∧
      (∀ e, Folder.open d = .error e → e.isValue = true) ∧
      (∀ name stem n, stem? name = some stem → number stem = .ok n →
        (fileName n = name ↔ stem.Canonical)) ∧
      ∀ f : Folder, f.directory = d →
        ((∃ games, f.games = .ok games) ↔ NamesNumbered d ∧ FilesReadable d) ∧
        ∀ claim g g' f', Field.code "language" (.text g.language) = .ok g.language →
          f.add claim g = (.ok g', f') →
          ((∃ o, Folder.open d = .ok o) → ∃ o, Folder.open f'.directory = .ok o) ∧
            ∃ n stored, g'.id = some n ∧ g'.reread = .ok stored ∧ Shows f f' n stored ∧
              ∀ o, Folder.open f'.directory = .ok o → Shows f o n stored := by
  refine ⟨open_ok_iff, fails_open, fun name stem n => fileName_eq_iff, fun f hf => ⟨?_, ?_⟩⟩
  · rw [← hf]
    exact games_ok_iff
  · intro claim g g' f' checked accepted
    obtain ⟨n, t, rfl, hwrite, hdirectory⟩ := add_ok accepted
    obtain ⟨stored, hread⟩ := Game.reread_ok (g := { g with id := some n }) checked
    have short := (Payload.write_ok hwrite).1.short rfl
    refine ⟨fun opens => ?_, n, stored, rfl, hread, ?_, fun o ho => ?_⟩
    · rw [open_ok_iff, hdirectory, hf]
      exact (open_ok_iff.1 opens).write short t
    · exact shows_of_write rfl hread hwrite hdirectory
    · exact shows_of_write rfl hread hwrite ((directory_of_open ho).trans hdirectory)

/-- The game that is added in the run below. -/
def drifter : Game := { adventure := 4, location := 7, language := "en" }

/-- A game under a negative number is found and is not listed. -/
theorem listing_by_names_negative :
    ∃ f', Folder.add {} (.number (-5)) drifter = (.ok { drifter with id := some (-5) }, f') ∧
      f'.get? (-5) = .ok (some { drifter with id := some (-5) }) ∧ f'.games = .ok [] := by
  have accepted : Folder.add {} (.number (-5)) drifter =
      (.ok { drifter with id := some (-5) }, (Folder.add {} (.number (-5)) drifter).2) := by
    decide +kernel
  obtain ⟨-, n, stored, hid, hread, shows, -⟩ :=
    ((listing_by_names []).2.2.2 {} rfl).2 (.number (-5)) drifter _ _ (by decide +kernel) accepted
  obtain rfl := Option.some.inj hid
  have same : Game.reread { drifter with id := some (-5) } =
      .ok { drifter with id := some (-5) } := by decide +kernel
  obtain rfl := Except.ok.inj (same.symm.trans hread)
  have empty : Folder.games {} = .ok [] := by decide +kernel
  exact ⟨_, accepted, shows.found, (shows.hidden (by decide)).trans empty⟩

end Folder

end TextAdventure
