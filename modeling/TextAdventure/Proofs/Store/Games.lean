import TextAdventure.Proofs.Op
import TextAdventure.Proofs.Store.Folder
import TextAdventure.Proofs.Store.Table

/-! Stored games, in memory or in files: what is found under each number once a game is stored, added
or removed, and which games are listed. A game in a file may be refused, and then nothing changes. -/

namespace TextAdventure

open Table (HeldAt)

namespace Games

/-- Whether something is stored under a number. -/
def Has : Games → Int → Prop
  | memory t, id => (t.get? id).isSome
  | files f, id => (f.directory.get? (Folder.fileName id)).isSome

/-- What a game is read as once it is stored. -/
def reads : Games → Game → Except Error Game
  | memory _, g => .ok g
  | files _, g => g.reread

/-- The numbers that new games are given. -/
def ids : Games → IdSequence
  | memory t => t.ids
  | files f => f.ids

/-- The store is as its own operations leave it. -/
def Tidy : Games → Prop
  | memory t => t.rows.Ascending
  | files f => f.Tidy

/-- Whether games are kept in files. -/
def Filed : Games → Prop
  | memory _ => False
  | files _ => True

/-- Whether a game under a number is listed. Files of negative numbers are passed over. -/
def Lists : Games → Int → Prop
  | memory _, _ => True
  | files _, id => 0 ≤ id

/-- `s'` is `s` with a game stored under a number. What goes into a file fits. -/
structure Puts (id : Int) (g : Game) (s s' : Games) : Prop where
  get? : ∀ n, s'.get? n = if n = id then (s.reads g).map some else s.get? n
  has : ∀ n, s'.Has n ↔ n = id ∨ s.Has n
  tidy : s.Tidy → s'.Tidy
  reads : s'.reads = s.reads
  lists : s'.Lists = s.Lists
  filed : s'.Filed ↔ s.Filed
  fits : s.Filed → Payload.Fits g

variable {s s' : Games} {id n : Int} {g : Game}

/-- What is found after a game was stored is the game, as it is read back, or has been there. -/
theorem Puts.get?_eq_some {found : Game} (puts : Puts id g s s') : s'.get? n = .ok (some found) ↔
    n = id ∧ s.reads g = .ok found ∨ n ≠ id ∧ s.get? n = .ok (some found) := by
  rw [puts.get?]
  by_cases hn : n = id
  · rw [if_pos hn, map_some_eq_ok]
    simp [hn]
  · simp [hn]

theorem has_of_get? (h : s.get? id = .ok (some g)) : s.Has id := by
  cases s with
  | memory t =>
    have hrow : t.get? id = some g := Except.ok.inj h
    simp [Has, hrow]
  | files f =>
    obtain ⟨t, hfile, -⟩ := Folder.get?_eq_some.1 h
    simp [Has, hfile]

/-- Reading a game back changes its language and its state at most. -/
theorem reads_eq_ok {g' : Game} (h : s.reads g = .ok g') :
    ∃ language state, g' = { g with language, state } := by
  cases s with
  | memory t =>
    obtain rfl : g = g' := Except.ok.inj h
    exact ⟨g.language, g.state, rfl⟩
  | files f =>
    obtain ⟨language, -, rfl⟩ := map_ok h
    exact ⟨language, _, rfl⟩

/-- A game is read with the numbers that it was stored with. -/
theorem reads_ok {g' : Game} (h : s.reads g = .ok g') :
    g'.id = g.id ∧ g'.adventure = g.adventure ∧ g'.location = g.location := by
  obtain ⟨language, state, rfl⟩ := reads_eq_ok h
  exact ⟨rfl, rfl, rfl⟩

theorem reads_completed {g' : Game} (h : s.reads g = .ok g') : g'.completed = g.completed := by
  obtain ⟨language, state, rfl⟩ := reads_eq_ok h
  rfl

theorem reads_timestamp {g' : Game} (h : s.reads g = .ok g') :
    g'.locationTimestamp = g.locationTimestamp := by
  obtain ⟨language, state, rfl⟩ := reads_eq_ok h
  rfl

theorem puts_memory {t t' : Table Game} (h : Table.Stored id g t t') :
    Puts id g (memory t) (memory t') := by
  refine ⟨fun n => ?_, fun n => ?_, h.ascending, rfl, rfl, Iff.rfl, False.elim⟩
  · show Except.ok (t'.get? n) = _
    rw [h.get?]
    split <;> rfl
  · show (t'.get? n).isSome ↔ n = id ∨ (t.get? n).isSome
    rw [h.get?]
    by_cases hn : n = id <;> simp [hn]

/-- The folder with a text in the file of a game. -/
def written (f : Folder) (id : Int) (t : Text) : Folder :=
  { f with directory := f.directory.write (Folder.fileName id) (.file t) }

theorem puts_files {f : Folder} {t : Text} (hid : g.id = some id) (h : Payload.write g = .ok t) :
    Puts id g (files f) (files (written f id t)) := by
  refine ⟨fun n => ?_, fun n => ?_, fun tidy => tidy.write id t, rfl, rfl, Iff.rfl,
    fun _ => (Payload.write_ok h).1⟩
  · have hread := Folder.get?_write f id t n
    rw [Payload.read_write hid h] at hread
    exact hread
  · show ((f.directory.write (Folder.fileName id) (.file t)).get? (Folder.fileName n)).isSome ↔
      n = id ∨ (f.directory.get? (Folder.fileName n)).isSome
    rw [Directory.get?_write]
    by_cases hn : n = id
    · simp [hn]
    · rw [if_neg fun heq => hn (Folder.fileName_injective heq)]
      simp [hn]

/-! ### Storing again -/

theorem update_memory {t : Table Game} {h : Held Game} (hid : h.value.id = some id)
    (has : (t.get? id).isSome) :
    (memory t).update h = .ok ((t.restore id h).1, memory (t.restore id h).2) := by
  simp [update, hid, has]

theorem update_files {f : Folder} {h : Held Game} (hid : h.value.id = some id)
    (has : (f.directory.get? (Folder.fileName id)).isSome) :
    (files f).update h = (Payload.write h.value).map fun t => (h, files (written f id t)) := by
  obtain ⟨entry, hentry⟩ := Option.isSome_iff_exists.1 has
  simp only [update, Folder.update, hid, hentry, Folder.write]
  cases Payload.write h.value <;> rfl

theorem update_memory_eq_ok {t : Table Game} {h h' : Held Game} (hid : h.value.id = some id)
    (hrun : (memory t).update h = .ok (h', s')) :
    (t.get? id).isSome ∧ h' = (t.restore id h).1 ∧ s' = memory (t.restore id h).2 := by
  by_cases has : (t.get? id).isSome
  · rw [update_memory hid has] at hrun
    obtain ⟨rfl, rfl⟩ := Prod.mk.inj (Except.ok.inj hrun)
    exact ⟨has, rfl, rfl⟩
  · simp [update, hid, has] at hrun

theorem update_files_eq_ok {f : Folder} {h h' : Held Game} (hid : h.value.id = some id)
    (hrun : (files f).update h = .ok (h', s')) :
    (files f).Has id ∧ ∃ t, Payload.write h.value = .ok t ∧ h' = h ∧ s' = files (written f id t) := by
  by_cases has : (f.directory.get? (Folder.fileName id)).isSome
  · rw [update_files hid has] at hrun
    obtain ⟨t, hwrite, heq⟩ := map_ok hrun
    obtain ⟨rfl, rfl⟩ := Prod.mk.inj heq
    exact ⟨has, t, hwrite, rfl, rfl⟩
  · have none : f.directory.get? (Folder.fileName id) = none := Option.not_isSome_iff_eq_none.1 has
    simp [update, Folder.update, hid, none, Except.map] at hrun

/-! ### Adding -/

/-- The store with other numbers for new games. -/
def withIds : Games → IdSequence → Games
  | memory t, ids => memory { t with ids }
  | files f, ids => files { f with ids }

@[simp] theorem get?_withIds (s : Games) (ids : IdSequence) (n : Int) :
    (s.withIds ids).get? n = s.get? n := by cases s <;> rfl

@[simp] theorem has_withIds (s : Games) (ids : IdSequence) (n : Int) :
    (s.withIds ids).Has n ↔ s.Has n := by cases s <;> exact Iff.rfl

@[simp] theorem ids_withIds (s : Games) (ids : IdSequence) : (s.withIds ids).ids = ids := by
  cases s <;> rfl

@[simp] theorem filed_withIds (s : Games) (ids : IdSequence) :
    (s.withIds ids).Filed ↔ s.Filed := by cases s <;> exact Iff.rfl

theorem tidy_withIds (h : s.Tidy) (ids : IdSequence) : (s.withIds ids).Tidy := by
  cases s with
  | memory t => exact h
  | files f => exact ⟨h.distinct, h.canonical, h.files⟩

@[simp] theorem lists_withIds (s : Games) (ids : IdSequence) :
    (s.withIds ids).Lists = s.Lists := by cases s <;> rfl

theorem Puts.withIds (h : s.Puts id g s') (ids : IdSequence) : s.Puts id g (s'.withIds ids) := by
  refine ⟨fun n => ?_, fun n => ?_, fun tidy => tidy_withIds (h.tidy tidy) ids, ?_, ?_,
    (filed_withIds s' ids).trans h.filed, h.fits⟩
  · rw [get?_withIds]
    exact h.get? n
  · rw [has_withIds]
    exact h.has n
  · rw [← h.reads]
    cases s' <;> rfl
  · rw [← h.lists]
    cases s' <;> rfl

/-- A game that is added is found under its number, unless it does not fit into a file. Its number
stays used then. -/
theorem add_assigned {claim : Claim} {ids : IdSequence} (h : s.ids.assign claim = .ok (id, ids))
    (g : Game) :
    (∃ held s', s.add claim g = (.ok held, s') ∧ held.value = { g with id := some id } ∧
      HeldAt id held ∧ s.Puts id { g with id := some id } s' ∧ s'.ids = ids) ∨
      s.Filed ∧ s.add claim g = (.error .tooLongToWrite, s.withIds ids) := by
  cases s with
  | memory t =>
    have hassign : t.ids.assign claim = .ok (id, ids) := h
    obtain ⟨stored, hvalue, hplace⟩ := Table.restore_stored t id { value := { g with id := some id } }
    refine .inl ⟨(t.restore id { value := { g with id := some id } }).1, _, ?_, hvalue, hplace,
      (puts_memory stored).withIds ids, rfl⟩
    simp only [add, hassign]
    rfl
  | files f =>
    have hassign : f.ids.assign claim = .ok (id, ids) := h
    have hadd : (files f).add claim g =
        match Payload.write { g with id := some id } with
        | .ok t => (.ok { value := { g with id := some id } }, (files (written f id t)).withIds ids)
        | .error e => (.error e, (files f).withIds ids) := by
      simp only [add, Folder.add, Folder.write, hassign]
      cases Payload.write { g with id := some id } <;> rfl
    rw [hadd]
    rcases Payload.write_eq { g with id := some id } with ⟨-, hwrite⟩ | ⟨-, hwrite⟩
    · rw [hwrite]
      exact .inl ⟨_, _, rfl, rfl, .inl rfl, (puts_files rfl hwrite).withIds ids, by simp⟩
    · rw [hwrite]
      exact .inr ⟨trivial, rfl⟩

theorem add_refused {claim : Claim} {e : Error} (h : s.ids.assign claim = .error e) (g : Game) :
    s.add claim g = (.error e, s) := by
  cases s with
  | memory t =>
    have hassign : t.ids.assign claim = .error e := h
    simp only [add, hassign]
  | files f =>
    have hassign : f.ids.assign claim = .error e := h
    simp only [add, Folder.add, hassign]
    rfl

/-! ### Removing -/

theorem get?_remove (s : Games) (id n : Int) :
    (s.remove id).get? n = if n = id then .ok none else s.get? n := by
  cases s with
  | memory t =>
    show Except.ok ((t.remove id).get? n) = _
    rw [Table.get?_remove]
    split <;> rfl
  | files f => exact Folder.get?_remove f id n

theorem get?_remove_eq_some : (s.remove id).get? n = .ok (some g) ↔
    n ≠ id ∧ s.get? n = .ok (some g) := by
  by_cases hn : n = id <;> simp [get?_remove, hn]

theorem has_remove (s : Games) (id n : Int) : (s.remove id).Has n ↔ n ≠ id ∧ s.Has n := by
  cases s with
  | memory t =>
    show ((t.remove id).get? n).isSome ↔ n ≠ id ∧ (t.get? n).isSome
    rw [Table.get?_remove]
    by_cases hn : n = id <;> simp [hn]
  | files f =>
    show ((f.directory.erase (Folder.fileName id)).get? (Folder.fileName n)).isSome ↔
      n ≠ id ∧ (f.directory.get? (Folder.fileName n)).isSome
    rw [Directory.get?_erase]
    by_cases hn : n = id
    · simp [hn]
    · rw [if_neg fun heq => hn (Folder.fileName_injective heq)]
      simp [hn]

theorem tidy_remove (h : s.Tidy) (id : Int) : (s.remove id).Tidy := by
  cases s with
  | memory t => exact Table.ascending_remove h id
  | files f => exact Folder.Tidy.remove h id

@[simp] theorem ids_remove (s : Games) (id : Int) : (s.remove id).ids = s.ids := by
  cases s with
  | memory t => exact Table.ids_remove t id
  | files f => rfl

@[simp] theorem reads_remove (s : Games) (id : Int) : (s.remove id).reads = s.reads := by
  cases s <;> rfl

@[simp] theorem filed_remove (s : Games) (id : Int) : (s.remove id).Filed ↔ s.Filed := by
  cases s <;> exact Iff.rfl

@[simp] theorem lists_remove (s : Games) (id : Int) : (s.remove id).Lists = s.Lists := by
  cases s <;> rfl

/-! ### Listing -/

/-- A selection shows the games that are listed and satisfy what is asked for. -/
theorem mem_select (tidy : s.Tidy) {p : Game → Bool} {games : List Game}
    (h : s.select p = .ok games) :
    g ∈ games ↔ p g = true ∧ ∃ n, s.Lists n ∧ s.get? n = .ok (some g) := by
  cases s with
  | memory t =>
    have hrows : t.rows.Ascending := tidy
    obtain rfl : List.map (·.2) (t.select p) = games := Except.ok.inj h
    rw [List.mem_map]
    constructor
    · rintro ⟨⟨n, found⟩, hmem, rfl⟩
      obtain ⟨hget, hp⟩ := (hrows.mem_select p).1 hmem
      exact ⟨hp, n, trivial, congrArg Except.ok hget⟩
    · rintro ⟨hp, n, -, hget⟩
      exact ⟨(n, g), (hrows.mem_select p).2 ⟨Except.ok.inj hget, hp⟩, rfl⟩
  | files f =>
    obtain ⟨all, hall, rfl⟩ := map_ok h
    rw [List.mem_filter, Folder.Tidy.mem_games tidy hall]
    constructor
    · rintro ⟨⟨n, hget⟩, hp⟩
      exact ⟨hp, n, Int.natCast_nonneg n, hget⟩
    · rintro ⟨hp, n, hn, hget⟩
      obtain ⟨m, rfl⟩ := Int.eq_ofNat_of_zero_le hn
      exact ⟨⟨m, hget⟩, hp⟩

theorem readable_of_select (tidy : s.Tidy) {p : Game → Bool} {games : List Game}
    (h : s.select p = .ok games) (has : s.Has n) (lists : s.Lists n) :
    ∃ g, s.get? n = .ok (some g) := by
  cases s with
  | memory t =>
    obtain ⟨g, found⟩ := Option.isSome_iff_exists.1 has
    exact ⟨g, congrArg Except.ok found⟩
  | files f =>
    obtain ⟨all, hall, -⟩ := map_ok h
    obtain ⟨m, rfl⟩ := Int.eq_ofNat_of_zero_le lists
    exact Folder.Tidy.readable tidy hall has

theorem held?_eq_some {h : Held Game} (found : s.held? id = .ok (some h)) :
    HeldAt id h ∧ s.get? id = .ok (some h.value) := by
  cases s with
  | memory t =>
    have hrow : (t.get? id).map (t.hold id) = some h := Except.ok.inj found
    obtain ⟨value, hget, rfl⟩ := Option.map_eq_some_iff.1 hrow
    exact ⟨.inr ⟨_, rfl⟩, congrArg Except.ok hget⟩
  | files f =>
    obtain ⟨read, hread, hmap⟩ := map_ok found
    obtain ⟨value, rfl, rfl⟩ := Option.map_eq_some_iff.1 hmap
    exact ⟨.inl rfl, hread⟩

/-- A game is held as it is stored. -/
theorem held?_eq (s : Games) (n : Int) : ∃ grip : Game → Held Game,
    (∀ g, (grip g).value = g ∧ HeldAt n (grip g)) ∧ s.held? n = (s.get? n).map (Option.map grip) := by
  cases s with
  | memory t => exact ⟨t.hold n, fun g => ⟨rfl, .inr ⟨_, rfl⟩⟩, rfl⟩
  | files f => exact ⟨fun value => { value }, fun g => ⟨rfl, .inl rfl⟩, rfl⟩

end Games

/-- A held game is shown to whoever holds it, then it is stored. -/
theorem World.run_updateGame_eq (h : Held Game) (w : World) : (World.updateGame h).run w =
    match (w.games.share h).update h with
    | .ok (h', games) => (.ok h', { w with games })
    | .error e => (.error e, { w with games := w.games.share h }) := by
  unfold World.updateGame
  rw [Op.run_bind_ok (Op.run_modify _ w), Op.run_bind_ok (Op.run_get _), Op.run_bind,
    Op.run_ofExcept]
  dsimp only
  cases (w.games.share h).update h with
  | error e => rfl
  | ok updated => rfl

/-- A held game that is stored again is found under its number, unless it does not fit into a file. -/
theorem World.run_updateGame {h : Held Game} {id : Int} (hid : h.value.id = some id)
    (held : HeldAt id h) {w : World} (has : w.games.Has id) :
    (∃ h' games, (World.updateGame h).run w = (.ok h', { w with games }) ∧ h'.value = h.value ∧
      HeldAt id h' ∧ w.games.Puts id h.value games ∧ games.ids = w.games.ids) ∨
      w.games.Filed ∧ (World.updateGame h).run w = (.error .tooLongToWrite, w) := by
  rw [run_updateGame_eq]
  cases hgames : w.games with
  | memory t =>
    rw [hgames] at has
    have hshared : ((t.share h).get? id).isSome := by
      rcases Table.share_cases t held with stored | ⟨rows, -⟩
      · simp [stored.get?]
      · rw [Table.get?, rows]
        exact has
    have hshare : (Games.memory t).share h = .memory (t.share h) := rfl
    rw [hshare, Games.update_memory hid hshared]
    obtain ⟨-, hvalue, hplace⟩ := Table.restore_stored (t.share h) id h
    have stored := Table.share_restore t held
    exact .inl ⟨_, _, rfl, hvalue, hplace, Games.puts_memory stored, stored.ids⟩
  | files f =>
    rw [hgames] at has
    have hshare : (Games.files f).share h = .files f := rfl
    rw [hshare, Games.update_files hid has]
    rcases Payload.write_eq h.value with ⟨-, hwrite⟩ | ⟨-, hwrite⟩
    · rw [hwrite]
      exact .inl ⟨h, _, rfl, rfl, held, Games.puts_files hid hwrite, rfl⟩
    · rw [hwrite]
      refine .inr ⟨trivial, ?_⟩
      show (_, ({ w with games := .files f } : World)) = _
      rw [← hgames]

/-- A game that was not written again does not fit into a file. -/
theorem World.unfit_of_updateGame {h : Held Game} {n : Int} {w w' : World}
    (number : h.value.id = some n) (place : HeldAt n h) (has : w.games.Has n)
    (run : (World.updateGame h).run w = (.error .tooLongToWrite, w')) : ¬Payload.Fits h.value := by
  intro fits
  rcases World.run_updateGame number place has with ⟨h', games, hrun, -⟩ | ⟨filed, -⟩
  · rw [hrun] at run
    exact nomatch (Prod.mk.inj run).1
  · cases hgames : w.games with
    | memory t =>
      rw [hgames] at filed
      exact filed
    | files f =>
      rw [hgames] at has
      have shared : (Games.files f).share h = .files f := rfl
      rw [World.run_updateGame_eq, hgames, shared, Games.update_files number has] at run
      rcases Payload.write_eq h.value with ⟨-, written⟩ | ⟨unfit, -⟩
      · rw [written] at run
        exact nomatch (Prod.mk.inj run).1
      · exact unfit fits

namespace World

variable {w w' : World}

/-- The number that a game is asked for by hangs on whether games are kept in files, and on nothing
else. -/
theorem gameNumber_filed (id : Identifier) (h : w'.games.Filed ↔ w.games.Filed) :
    ((gameNumber id).run w').1 = ((gameNumber id).run w).1 := by
  have key (v : World) : (Op.lookUpKey id).run v = (((Op.lookUpKey id).run w).1, v) := by
    unfold Op.lookUpKey
    split <;> rfl
  have required (found : Option Int) :
      ((Op.required .game id found).run w').1 = ((Op.required .game id found).run w).1 := by
    cases found <;> rfl
  unfold gameNumber
  rw [Op.run_bind, key w', Op.run_bind, key w]
  cases ((Op.lookUpKey id).run w).1 with
  | error e => rfl
  | ok found =>
    dsimp only
    rw [Op.run_bind_ok (Op.run_get w'), Op.run_bind_ok (Op.run_get w)]
    cases hgames' : w'.games <;> cases hgames : w.games <;> rw [hgames', hgames] at h
    · exact required _
    · exact (h.2 trivial).elim
    · exact (h.1 trivial).elim
    · cases id with
      | number n => exact required _
      | other value => cases value <;> rfl

theorem gameNumber_locked (id : Identifier) (w : World) (locks : Locks) :
    ((gameNumber id).run { w with locks }).1 = ((gameNumber id).run w).1 := gameNumber_filed id Iff.rfl

/-- A game that is held is held as the one under the number that it was asked for by. -/
theorem held?_of_heldGame {id : Identifier} {h : Held Game}
    (hrun : (heldGame id).run w = (.ok h, w')) :
    ∃ n, ((gameNumber id).run w).1 = .ok n ∧ w.games.held? n = .ok (some h) := by
  unfold heldGame at hrun
  rw [Op.run_bind_ok (Op.run_get w)] at hrun
  rcases (Op.ReadOnly.gameNumber id).run_cases w with ⟨e, number⟩ | ⟨n, number⟩
  · rw [Op.run_bind_error number] at hrun
    exact nomatch (Prod.mk.inj hrun).1
  · rw [Op.run_bind_ok number, Op.run_bind, Op.run_ofExcept] at hrun
    cases hfound : w.games.held? n with
    | error e =>
      rw [hfound] at hrun
      exact nomatch (Prod.mk.inj hrun).1
    | ok found =>
      rw [hfound] at hrun
      dsimp only at hrun
      cases found with
      | none => exact nomatch (Prod.mk.inj hrun).1
      | some held =>
        obtain rfl : held = h := Except.ok.inj (Prod.mk.inj hrun).1
        exact ⟨n, by rw [number], hfound⟩

/-- Under a lock it is held as the one under the number that it was asked for by before. -/
theorem held?_of_locked {id : Identifier} {m : Int} {locks : Locks} {h : Held Game}
    (number : ((gameNumber id).run w).1 = .ok m)
    (hrun : (heldGame id).run { w with locks } = (.ok h, w')) :
    w.games.held? m = .ok (some h) := by
  obtain ⟨k, hk, found⟩ := held?_of_heldGame hrun
  rw [gameNumber_locked, number] at hk
  obtain rfl : m = k := Except.ok.inj hk
  exact found

theorem run_heldGame {id : Identifier} {h : Held Game}
    (hrun : (heldGame id).run w = (.ok h, w')) :
    w' = w ∧ ∃ n, ((gameNumber id).run w).1 = .ok n ∧ HeldAt n h ∧
      w.games.get? n = .ok (some h.value) := by
  have hworld := Op.ReadOnly.heldGame id w
  obtain ⟨n, hn, found⟩ := held?_of_heldGame hrun
  rw [hrun] at hworld
  exact ⟨hworld, n, hn, Games.held?_eq_some found⟩

/-- A number is asked for as it is. -/
theorem run_gameNumber_number (n : Int) (w : World) : (gameNumber n).run w = (.ok n, w) := by
  have key : (Op.lookUpKey n).run w = (.ok (), w) := rfl
  unfold gameNumber
  rw [Op.run_bind_ok key, Op.run_bind_ok (Op.run_get w)]
  cases w.games <;> rfl

/-- What is held of a game is what is stored under the number that it was asked for by. -/
theorem heldGame_eq {id : Identifier} {n : Int} (number : ((gameNumber id).run w).1 = .ok n) :
    ∃ grip : Game → Held Game, (∀ g, (grip g).value = g ∧ HeldAt n (grip g)) ∧
      (heldGame id).run w = match w.games.get? n with
        | .ok (some g) => (.ok (grip g), w)
        | .ok none => (.error (.notFound .game id), w)
        | .error e => (.error e, w) := by
  have asked : (gameNumber id).run w = (.ok n, w) := Prod.ext number (Op.ReadOnly.gameNumber id w)
  obtain ⟨grip, grips, held⟩ := w.games.held?_eq n
  refine ⟨grip, grips, ?_⟩
  unfold heldGame
  rw [Op.run_bind_ok (Op.run_get w), Op.run_bind_ok asked, Op.run_bind, Op.run_ofExcept, held]
  rcases w.games.get? n with e | _ | g <;> rfl

/-- The game of a number, as it is stored. -/
theorem run_game_eq (n : Int) (w : World) : (game n).run w = match w.games.get? n with
    | .ok (some g) => (.ok g, w)
    | .ok none => (.error (.notFound .game n), w)
    | .error e => (.error e, w) := by
  obtain ⟨grip, grips, held⟩ := heldGame_eq (congrArg Prod.fst (run_gameNumber_number n w))
  unfold game
  rw [Op.run_bind, held]
  rcases w.games.get? n with e | _ | g
  · rfl
  · rfl
  · exact congrArg (fun g => (Except.ok g, w)) (grips g).1

/-- A stored game is held by its number. -/
theorem heldGame_of_get? {n : Int} {g : Game} (found : w.games.get? n = .ok (some g)) :
    ∃ h, (heldGame n).run w = (.ok h, w) ∧ h.value = g := by
  obtain ⟨grip, grips, hrun⟩ := heldGame_eq (congrArg Prod.fst (run_gameNumber_number n w))
  rw [found] at hrun
  exact ⟨grip g, hrun, (grips g).1⟩

theorem heldGame_of_none {n : Int} (found : w.games.get? n = .ok none) :
    (heldGame n).run w = (.error (.notFound .game n), w) := by
  obtain ⟨grip, -, hrun⟩ := heldGame_eq (congrArg Prod.fst (run_gameNumber_number n w))
  rw [found] at hrun
  exact hrun

end World

end TextAdventure
