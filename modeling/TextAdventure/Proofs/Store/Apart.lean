import TextAdventure.Proofs.Store.Games

/-! Games that are left alone. Whatever is done to one game, every other one is found as it was.
Games go by their own numbers, those that have left the store too, so what is held as one game is
never stored as another. -/

namespace TextAdventure

open Table (HeldAt)

variable {m n : Int} {h h' : Held Game} {g : Game}

/-- A game that is held as the one under a number, and goes by this number. -/
structure Carried (m : Int) (h : Held Game) : Prop where
  number : h.value.id = some m
  place : HeldAt m h

theorem Carried.put (c : Carried m h) (number : g.id = some m) : Carried m { h with value := g } :=
  ⟨number, c.place⟩

namespace Table

variable {t : Table Game}

/-- Games go by the numbers that they stand under, or have stood under. -/
structure Own (t : Table Game) : Prop where
  stored : ∀ k g, t.get? k = some g → g.id = some k
  departed : ∀ d ∈ t.departed, d.2.id = some d.1.1

theorem Own.remove (own : t.Own) (m : Int) : (t.remove m).Own := by
  refine ⟨fun k g found => ?_, fun d hd => ?_⟩
  · exact own.stored k g (get?_remove_eq_some.1 found).2
  · unfold Table.remove at hd
    split at hd
    · exact own.departed d hd
    · rename_i value found
      rcases List.mem_cons.1 hd with rfl | hd
      · exact own.stored m value found
      · exact own.departed d hd

theorem Own.put (own : t.Own) (number : g.id = some m) : (t.put m g).Own := by
  refine ⟨fun k found hk => ?_, own.departed⟩
  rcases get?_put_eq_some.1 hk with ⟨rfl, rfl⟩ | ⟨-, hk⟩
  · exact number
  · exact own.stored k found hk

theorem Own.place (own : t.Own) (number : g.id = some m) : (t.place m g).Own :=
  (own.remove m).put number

theorem Own.share (own : t.Own) (c : Carried m h) : (t.share h).Own := by
  obtain ⟨number, hnone | ⟨edition, hsome⟩⟩ := c
  · rw [Table.share, hnone]
    exact own
  rw [Table.share, hsome]
  dsimp only
  split
  · exact own.put number
  · refine ⟨own.stored, fun d hd => ?_⟩
    obtain ⟨e, he, rfl⟩ := List.mem_map.1 hd
    split
    · exact number
    · exact own.departed e he

theorem edition_share (t : Table Game) (h : Held Game) (k : Int) :
    (t.share h).edition k = t.edition k := by
  unfold share
  split
  · rfl
  · split <;> rfl

theorem Own.restore (own : t.Own) (c : Carried m h) : (t.restore m h).2.Own := by
  unfold Table.restore
  split
  · exact own.put c.number
  · exact own.place c.number

theorem edition_restore_of_ne (ne : n ≠ m) (t : Table Game) (h : Held Game) :
    (t.restore m h).2.edition n = t.edition n := by
  unfold restore
  split
  · rfl
  · exact edition_remove_of_ne ne t

/-- What is put back is held as the one that stands there. -/
theorem place_restore (t : Table Game) (m : Int) (h : Held Game) :
    (t.restore m h).1.place = some (m, (t.restore m h).2.edition m) := by
  unfold restore
  split
  · rename_i there
    rw [Bool.and_eq_true, decide_eq_true_eq] at there
    exact there.2
  · rfl

/-- What is held is now a game of the same number. -/
theorem Own.current (own : t.Own) (c : Carried m h) : (t.current h).id = some m := by
  obtain ⟨number, hnone | ⟨edition, hsome⟩⟩ := c
  · rw [Table.current, hnone]
    exact number
  rw [Table.current, hsome]
  dsimp only
  split
  · cases found : t.get? m with
    | none => exact number
    | some g => exact own.stored m g found
  · cases found : t.departed.lookup (m, edition) with
    | none => exact number
    | some g =>
      obtain ⟨l, l', heq, -⟩ := List.lookup_eq_some_iff.1 found
      refine own.departed ((m, edition), g) ?_
      rw [heq]
      exact List.mem_append_right _ List.mem_cons_self

end Table

namespace Games

variable {s s' s'' : Games}

/-- Every game goes by its own number, and so does every game that has left the store. -/
def Own : Games → Prop
  | memory t => t.Own
  | files f => ∀ k g, f.get? k = .ok (some g) → g.id = some k

/-- How many games have left a number. What is read from a file is not told apart. -/
def edition : Games → Int → Option Nat
  | memory t, n => some (t.edition n)
  | files _, _ => none

theorem Own.get? (own : s.Own) (found : s.get? n = .ok (some g)) : g.id = some n := by
  cases s with
  | memory t => exact own.stored n g (Except.ok.inj found)
  | files f => exact own n g found

theorem Own.held? (own : s.Own) (found : s.held? n = .ok (some h)) : Carried n h := by
  obtain ⟨place, stored⟩ := held?_eq_some found
  exact ⟨own.get? stored, place⟩

theorem Own.current (own : s.Own) (c : Carried m h) : (s.current h).id = some m := by
  cases s with
  | memory t => exact Table.Own.current own c
  | files f => exact c.number

theorem place_of_held? (found : s.held? n = .ok (some h)) :
    h.place = (s.edition n).map fun e => (n, e) := by
  cases s with
  | memory t =>
    have held : (t.get? n).map (t.hold n) = some h := Except.ok.inj found
    obtain ⟨value, -, rfl⟩ := Option.map_eq_some_iff.1 held
    rfl
  | files f =>
    obtain ⟨read, -, hmap⟩ := map_ok found
    obtain ⟨value, -, rfl⟩ := Option.map_eq_some_iff.1 hmap
    rfl

theorem place_of_add (hadd : s.add .unset g = (.ok h, s')) :
    h.place = (s'.edition s.ids.next).map fun e => (s.ids.next, e) := by
  cases s with
  | memory t =>
    obtain ⟨hheld, rfl⟩ := Prod.mk.inj hadd
    obtain rfl := Except.ok.inj hheld
    exact Table.place_restore t _ _
  | files f =>
    obtain ⟨hheld, rfl⟩ := Prod.mk.inj hadd
    obtain ⟨value, -, rfl⟩ := map_ok hheld
    rfl

/-- A new game goes under the next number, as the one that stands there. A number that a game which
does not fit has used up is not given again. -/
theorem add_new (s : Games) (g : Game) :
    (∃ h s', s.add .unset g = (.ok h, s') ∧ h.value = { g with id := some s.ids.next } ∧
      Carried s.ids.next h ∧ h.place = (s'.edition s.ids.next).map (fun e => (s.ids.next, e)) ∧
      s.Puts s.ids.next { g with id := some s.ids.next } s' ∧ s'.ids.next = s.ids.next + 1) ∨
    ∃ e, s.add .unset g = (.error e, s.withIds ⟨s.ids.next + 1⟩) := by
  have assigned : s.ids.assign .unset = .ok (s.ids.next, ⟨s.ids.next + 1⟩) := rfl
  rcases add_assigned assigned g with ⟨h, s', hadd, value, place, puts, ids⟩ | ⟨-, hadd⟩
  · exact .inl ⟨h, s', hadd, value, ⟨by rw [value], place⟩, place_of_add hadd, puts, by rw [ids]⟩
  · exact .inr ⟨_, hadd⟩

theorem Own.remove (own : s.Own) (m : Int) : (s.remove m).Own := by
  cases s with
  | memory t => exact Table.Own.remove own m
  | files f =>
    intro k g found
    have kept := get?_remove (files f) m k
    split at kept
    · exact nomatch found.symm.trans kept
    · exact own k g (kept.symm.trans found)

/-- From one store to another, game `n` is left alone, whatever happens to others. -/
structure Apart (n : Int) (s s' : Games) : Prop where
  get? : s'.get? n = s.get? n
  has : s'.Has n ↔ s.Has n
  edition : s'.edition n = s.edition n
  next : s.ids.next ≤ s'.ids.next
  own : s.Own → s'.Own
  tidy : s.Tidy → s'.Tidy
  lists : s'.Lists = s.Lists

namespace Apart

theorem refl (n : Int) (s : Games) : Apart n s s :=
  ⟨rfl, .rfl, rfl, Int.le_refl _, id, id, rfl⟩

theorem trans (a : Apart n s s') (a' : Apart n s' s'') : Apart n s s'' :=
  ⟨a'.get?.trans a.get?, a'.has.trans a.has, a'.edition.trans a.edition,
    Int.le_trans a.next a'.next, fun own => a'.own (a.own own), fun tidy => a'.tidy (a.tidy tidy),
    a'.lists.trans a.lists⟩

theorem of_puts (ne : n ≠ m) (puts : Puts m g s s') (edition : s'.edition n = s.edition n)
    (next : s.ids.next ≤ s'.ids.next) (own : s.Own → s'.Own) : Apart n s s' := by
  refine ⟨?_, ?_, edition, next, own, puts.tidy, puts.lists⟩
  · rw [puts.get?, if_neg ne]
  · rw [puts.has]
    exact or_iff_right ne

theorem own_of_puts_files {f : Folder} (number : g.id = some m) (puts : Puts m g (files f) s')
    (own : (files f).Own) : ∀ k found, s'.get? k = .ok (some found) → found.id = some k := by
  intro k found hk
  rcases puts.get?_eq_some.1 hk with ⟨rfl, hread⟩ | ⟨-, hk⟩
  · exact (reads_ok hread).1.trans number
  · exact own k found hk

theorem share (ne : n ≠ m) (c : Carried m h) (s : Games) : Apart n s (s.share h) := by
  cases s with
  | memory t =>
    refine ⟨?_, ?_, congrArg some (Table.edition_share t h n), ?_, fun own => Table.Own.share own c,
      fun tidy => ?_, rfl⟩ <;> rcases Table.share_cases t c.place with stored | ⟨rows, ids⟩
    · exact congrArg Except.ok ((stored.get? n).trans (if_neg ne))
    · exact congrArg (fun rows => Except.ok (Rows.get? n rows)) rows
    · show ((t.share h).get? n).isSome ↔ _
      rw [stored.get?, if_neg ne]
      rfl
    · show ((t.share h).get? n).isSome ↔ _
      rw [Table.get?, rows]
      rfl
    · exact Int.le_of_eq (congrArg _ stored.ids.symm)
    · exact Int.le_of_eq (congrArg _ ids.symm)
    · exact stored.ascending tidy
    · show (t.share h).rows.Ascending
      rw [rows]
      exact tidy
  | files f => exact .refl n _

theorem update (ne : n ≠ m) (c : Carried m h) (hrun : s.update h = .ok (h', s')) :
    Apart n s s' ∧ Carried m h' := by
  cases s with
  | memory t =>
    obtain ⟨-, rfl, rfl⟩ := update_memory_eq_ok c.number hrun
    obtain ⟨stored, value, place⟩ := Table.restore_stored t m h
    refine ⟨of_puts ne (puts_memory stored) (congrArg some (Table.edition_restore_of_ne ne t h))
      (Int.le_of_eq (congrArg _ stored.ids.symm)) fun own => Table.Own.restore own c, ?_, place⟩
    rw [value]
    exact c.number
  | files f =>
    obtain ⟨-, t, hwrite, rfl, rfl⟩ := update_files_eq_ok c.number hrun
    have puts := puts_files (f := f) c.number hwrite
    exact ⟨of_puts ne puts rfl (Int.le_refl _) (own_of_puts_files c.number puts), c⟩

theorem remove (ne : n ≠ m) (s : Games) : Apart n s (s.remove m) := by
  refine ⟨?_, ?_, ?_, ?_, fun own => ?_, fun tidy => tidy_remove tidy m, lists_remove s m⟩
  · rw [get?_remove, if_neg ne]
  · rw [has_remove]
    exact and_iff_right ne
  · cases s with
    | memory t => exact congrArg some (Table.edition_remove_of_ne ne t)
    | files f => rfl
  · rw [ids_remove]
  · exact own.remove m

theorem withIds {ids : IdSequence} (le : s.ids.next ≤ ids.next) (n : Int) :
    Apart n s (s.withIds ids) := by
  refine ⟨get?_withIds s ids n, has_withIds s ids n, ?_, ?_, fun own => ?_,
    fun tidy => tidy_withIds tidy ids, ?_⟩
  · cases s <;> rfl
  · rwa [ids_withIds]
  · cases s with
    | memory t =>
      have stays : t.Own := own
      exact ⟨stays.stored, stays.departed⟩
    | files f => exact own
  · cases s <;> rfl

theorem add {claim : Claim} {ids : IdSequence} (assigned : s.ids.assign claim = .ok (m, ids))
    (ne : n ≠ m) (g : Game) : Apart n s (s.add claim g).2 := by
  have le := IdSequence.next_le_of_assign assigned
  cases s with
  | memory t =>
    have hassign : t.ids.assign claim = .ok (m, ids) := assigned
    let held : Held Game := { value := { g with id := some m } }
    have carried : Carried m held := ⟨rfl, .inl rfl⟩
    have hadd : ((memory t).add claim g).2 = (memory (t.restore m held).2).withIds ids := by
      simp only [Games.add, hassign]
      rfl
    have stored := (Table.restore_stored t m held).1
    have put : Apart n (memory t) (memory (t.restore m held).2) :=
      of_puts ne (puts_memory stored) (congrArg some (Table.edition_restore_of_ne ne t held))
        (Int.le_of_eq (congrArg _ stored.ids.symm)) fun own => Table.Own.restore own carried
    rw [hadd]
    refine put.trans (withIds ?_ n)
    show (t.restore m held).2.ids.next ≤ _
    rw [stored.ids]
    exact le
  | files f =>
    rcases add_assigned assigned g with
      ⟨held, s', hadd, -, -, puts, hids⟩ | ⟨-, hadd⟩ <;> rw [hadd]
    · refine of_puts ne puts ?_ (by rw [hids]; exact le) fun own => ?_
      · cases s' with
        | memory t => exact absurd (puts.filed.2 trivial) id
        | files f' => rfl
      · cases s' with
        | memory t => exact absurd (puts.filed.2 trivial) id
        | files f' => exact own_of_puts_files rfl puts own
    · exact withIds le n

end Apart

theorem Own.add (own : s.Own) (claim : Claim) (g : Game) : (s.add claim g).2.Own := by
  cases hassign : s.ids.assign claim with
  | error e =>
    rw [add_refused hassign]
    exact own
  | ok assigned =>
    obtain ⟨m, ids⟩ := assigned
    exact (Apart.add hassign (n := m + 1) (by omega) g).own own

/-! ### A game that is stored again -/

/-- `s'` is `s`, where game `m` may have been stored again as `g`. -/
structure Refreshes (m : Int) (g : Game) (s s' : Games) : Prop where
  self : s'.get? m = s.get? m ∨ s'.get? m = (s.reads g).map some
  others : ∀ n, n ≠ m → s'.get? n = s.get? n
  has : ∀ n, s'.Has n ↔ s.Has n
  edition : ∀ n, s'.edition n = s.edition n
  ids : s'.ids = s.ids
  own : s.Own → s'.Own
  tidy : s.Tidy → s'.Tidy
  reads : s'.reads = s.reads
  lists : s'.Lists = s.Lists

namespace Refreshes

theorem refl (m : Int) (g : Game) (s : Games) : Refreshes m g s s :=
  ⟨.inl rfl, fun _ _ => rfl, fun _ => .rfl, fun _ => rfl, rfl, id, id, rfl, rfl⟩

theorem trans (a : Refreshes m g s s') (a' : Refreshes m g s' s'') : Refreshes m g s s'' := by
  refine ⟨?_, fun n ne => (a'.others n ne).trans (a.others n ne),
    fun n => (a'.has n).trans (a.has n), fun n => (a'.edition n).trans (a.edition n),
    a'.ids.trans a.ids, fun own => a'.own (a.own own), fun tidy => a'.tidy (a.tidy tidy),
    a'.reads.trans a.reads, a'.lists.trans a.lists⟩
  rcases a'.self with same | stored
  · rw [same]
    exact a.self
  · rw [a.reads] at stored
    exact .inr stored

/-- What is found has been there, or it is the game that is stored again, as it is read back. -/
theorem of_get? {found : Game} (r : Refreshes m g s s') (h : s'.get? n = .ok (some found)) :
    s.get? n = .ok (some found) ∨ n = m ∧ s.reads g = .ok found := by
  by_cases hn : n = m
  · subst hn
    rcases r.self with same | again
    · exact .inl (same.symm.trans h)
    · exact .inr ⟨rfl, map_some_eq_ok.1 (again.symm.trans h)⟩
  · exact .inl ((r.others n hn).symm.trans h)

theorem of_puts (puts : Puts m g s s') (has : s.Has m) (edition : ∀ n, s'.edition n = s.edition n)
    (ids : s'.ids = s.ids) (own : s.Own → s'.Own) : Refreshes m g s s' := by
  refine ⟨.inr ?_, fun n ne => ?_, fun n => ?_, edition, ids, own, puts.tidy, puts.reads,
    puts.lists⟩
  · rw [puts.get?, if_pos rfl]
  · rw [puts.get?, if_neg ne]
  · rw [puts.has]
    exact or_iff_right_of_imp fun same => same ▸ has

theorem share (c : Carried m h) (s : Games) : Refreshes m h.value s (s.share h) := by
  cases s with
  | files f => exact .refl m _ _
  | memory t =>
    have own (own : t.Own) : (t.share h).Own := Table.Own.share own c
    have edition (n : Int) : (memory (t.share h)).edition n = (memory t).edition n :=
      congrArg some (Table.edition_share t h n)
    obtain ⟨number, hnone | ⟨k, hsome⟩⟩ := c
    · have same : t.share h = t := by rw [Table.share, hnone]
      show Refreshes m h.value (memory t) (memory (t.share h))
      rw [same]
      exact .refl m _ _
    by_cases keeps : t.keeps (m, k)
    · have put : t.share h = t.put m h.value := by
        rw [Table.share, hsome]
        exact if_pos keeps
      have stored : Table.Stored m h.value t (t.share h) := put ▸ Table.stored_put t m h.value
      have has : (t.get? m).isSome := by
        rw [Table.keeps, Bool.and_eq_true] at keeps
        exact keeps.1
      exact of_puts (puts_memory stored) has edition stored.ids own
    · have rows : (t.share h).rows = t.rows := by
        rw [Table.share, hsome]
        dsimp only
        rw [if_neg keeps]
      have ids : (t.share h).ids = t.ids := by
        rw [Table.share, hsome]
        dsimp only
        rw [if_neg keeps]
      have get? (n : Int) : (t.share h).get? n = t.get? n := by rw [Table.get?, rows]; rfl
      refine ⟨.inl (congrArg Except.ok (get? m)), fun n _ => congrArg Except.ok (get? n),
        fun n => ?_, edition, ids, own, fun tidy => ?_, rfl, rfl⟩
      · show ((t.share h).get? n).isSome ↔ _
        rw [get?]
        rfl
      · show (t.share h).rows.Ascending
        rw [rows]
        exact tidy

/-- A game that is stored again is there, and if it is held as it stands, so it is from then on. -/
theorem update (c : Carried m h) (firm : s.Has m → h.place = (s.edition m).map fun e => (m, e))
    (hrun : s.update h = .ok (h', s')) :
    s.Has m ∧ h' = h ∧ Refreshes m h.value s s' ∧ s'.get? m = (s.reads h.value).map some := by
  cases s with
  | memory t =>
    obtain ⟨has, rfl, rfl⟩ := update_memory_eq_ok c.number hrun
    -- The game is held as it stands, so it is put back in place and no game leaves.
    have stays : (t.restore m h) = (h, t.put m h.value) := by
      have place : h.place = some (m, t.edition m) := firm has
      unfold Table.restore
      rw [if_pos (by simp [has, place])]
    rw [stays]
    have puts := puts_memory (Table.stored_put t m h.value)
    refine ⟨has, rfl, of_puts puts has (fun _ => rfl) rfl fun own => ?_, ?_⟩
    · exact Table.Own.put own c.number
    · rw [puts.get?, if_pos rfl]
  | files f =>
    obtain ⟨has, t, hwrite, rfl, rfl⟩ := update_files_eq_ok c.number hrun
    have puts := puts_files (f := f) c.number hwrite
    refine ⟨has, rfl, of_puts puts has (fun _ => rfl) rfl fun own =>
      Apart.own_of_puts_files c.number puts own, ?_⟩
    rw [puts.get?, if_pos rfl]

end Refreshes

end Games

/-- What storing a held game again comes to, if it is held as it stands. -/
theorem World.run_updateGame_firm {w : World} (c : Carried m h)
    (firm : w.games.Has m → h.place = (w.games.edition m).map fun e => (m, e)) :
    (∃ games, (World.updateGame h).run w = (.ok h, { w with games }) ∧ w.games.Has m ∧
      w.games.Refreshes m h.value games ∧ games.get? m = (w.games.reads h.value).map some) ∨
    ∃ e games, (World.updateGame h).run w = (.error e, { w with games }) ∧
      w.games.Refreshes m h.value games := by
  have shared := Games.Refreshes.share c w.games
  rw [World.run_updateGame_eq]
  cases hupdate : (w.games.share h).update h with
  | error e => exact .inr ⟨e, _, rfl, shared⟩
  | ok updated =>
    obtain ⟨h', games⟩ := updated
    obtain ⟨has, rfl, stored, found⟩ := Games.Refreshes.update c
      (fun has => by rw [shared.edition]; exact firm ((shared.has m).1 has)) hupdate
    rw [shared.reads] at found
    exact .inl ⟨games, rfl, (shared.has m).1 has, shared.trans stored, found⟩

end TextAdventure
