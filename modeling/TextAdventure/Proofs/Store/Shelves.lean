import TextAdventure.Engine.Opening
import TextAdventure.Proofs.Store.Games
import TextAdventure.Proofs.Store.Journal
import TextAdventure.Proofs.Store.Listing

/-! The numbers of stored records, in stores of all kinds. A store counts upwards past every number that
it has seen, also past those that records have claimed, that have been refused, and that are free again.
So a record without a number never gets one that another record has or has had. -/

namespace TextAdventure

/-- A kind of store, seen by the numbers of its records: what is read under a number, and `nothing` where
there is no record; what comes of adding a record, which may not be accepted under its number; and what
is left when something is taken out. -/
structure Shelf (σ ρ κ ν : Type) where
  ids : σ → IdSequence
  read : σ → Int → ν
  nothing : ν
  add : σ → Claim → ρ → Except Error (Option Int) × σ
  Accepts : σ → ρ → Int → Prop
  remove : σ → κ → σ

namespace Shelf

variable {σ ρ κ ν : Type} {shelf : Shelf σ ρ κ ν} {s : σ}

/-- Whether something is stored under a number. -/
def InUse (shelf : Shelf σ ρ κ ν) (s : σ) (n : Int) : Prop := shelf.read s n ≠ shelf.nothing

/-- What a store is asked for. -/
inductive Request (ρ κ : Type) where
  | add (claim : Claim) (record : ρ)
  | remove (what : κ)

def after (shelf : Shelf σ ρ κ ν) (s : σ) : Request ρ κ → σ
  | .add claim record => (shelf.add s claim record).2
  | .remove what => shelf.remove s what

/-- The store that a sequence of requests leaves. -/
def left (shelf : Shelf σ ρ κ ν) (s : σ) (requests : List (Request ρ κ)) : σ :=
  requests.foldl shelf.after s

/-- What comes of adding a record: it is stored under the number that it gets, and whatever is under
other numbers stays as it is, or it is refused, and its number may be used up. -/
inductive Adds (shelf : Shelf σ ρ κ ν) (s : σ) (claim : Claim) (record : ρ) :
    Except Error (Option Int) × σ → Prop
  | stored {n : Int} {s' : σ} (assigned : (shelf.ids s).assign claim = .ok (n, shelf.ids s'))
      (accepts : shelf.Accepts s record n) (there : shelf.InUse s' n)
      (others : ∀ m, m ≠ n → shelf.read s' m = shelf.read s m) :
      Adds shelf s claim record (.ok (some n), s')
  | refused {e : Error} {s' : σ}
      (refuses : ∀ n ids, (shelf.ids s).assign claim = .ok (n, ids) → ¬shelf.Accepts s record n)
      (next : (shelf.ids s).next ≤ (shelf.ids s').next)
      (same : ∀ m, shelf.read s' m = shelf.read s m) :
      Adds shelf s claim record (.error e, s')

theorem Adds.unassigned {claim : Claim} {record : ρ} {e : Error}
    (h : (shelf.ids s).assign claim = .error e) : shelf.Adds s claim record (.error e, s) :=
  .refused (fun _ _ assigned => nomatch h.symm.trans assigned) (Int.le_refl _) fun _ => rfl

/-- The store gives its records numbers as it should. -/
structure Counts (shelf : Shelf σ ρ κ ν) : Prop where
  adds : ∀ s claim record, shelf.Adds s claim record (shelf.add s claim record)
  next_remove : ∀ s what, (shelf.ids (shelf.remove s what)).next = (shelf.ids s).next
  inUse_remove : ∀ s what n, shelf.InUse (shelf.remove s what) n → shelf.InUse s n

/-- All numbers in use come before the next one. -/
def Bounded (shelf : Shelf σ ρ κ ν) (s : σ) : Prop := ∀ n, shelf.InUse s n → n < (shelf.ids s).next

namespace Counts

/-- A request never takes the next number back, nor does it bring one into use that is not before it. -/
theorem after (counts : shelf.Counts) (bounded : shelf.Bounded s) (r : Request ρ κ) :
    shelf.Bounded (shelf.after s r) ∧ (shelf.ids s).next ≤ (shelf.ids (shelf.after s r)).next := by
  cases r with
  | remove what =>
    show shelf.Bounded (shelf.remove s what) ∧ _ ≤ (shelf.ids (shelf.remove s what)).next
    rw [Bounded, counts.next_remove]
    exact ⟨fun n used => bounded n (counts.inUse_remove s what n used), Int.le_refl _⟩
  | add claim record =>
    have adds := counts.adds s claim record
    show shelf.Bounded (shelf.add s claim record).2 ∧ _ ≤ (shelf.ids (shelf.add s claim record).2).next
    generalize shelf.add s claim record = outcome at adds
    cases adds with
    | @stored n s' assigned accepts there others =>
      have le := IdSequence.next_le_of_assign assigned
      refine ⟨fun m used => ?_, le⟩
      by_cases new : m = n
      · rw [new]
        exact IdSequence.lt_of_assign assigned
      · rw [InUse, others m new] at used
        exact Int.lt_of_lt_of_le (bounded m used) le
    | refused refuses next same =>
      refine ⟨fun m used => ?_, next⟩
      rw [InUse, same] at used
      exact Int.lt_of_lt_of_le (bounded m used) next

theorem left (counts : shelf.Counts) (bounded : shelf.Bounded s) (requests : List (Request ρ κ)) :
    shelf.Bounded (shelf.left s requests) ∧
      (shelf.ids s).next ≤ (shelf.ids (shelf.left s requests)).next := by
  induction requests generalizing s with
  | nil => exact ⟨bounded, Int.le_refl _⟩
  | cons r rest ih =>
    obtain ⟨bounded', le⟩ := counts.after bounded r
    obtain ⟨final, le'⟩ := ih bounded'
    exact ⟨final, Int.le_trans le le'⟩

end Counts

end Shelf

/-! ### Tables -/

/-- A table of records of one kind. -/
def Table.shelf (α : Type) : Shelf (Table α) α Int (Option α) where
  ids := Table.ids
  read := Table.get?
  nothing := none
  add t claim record :=
    match t.add claim record with
    | .ok (n, t') => (.ok (some n), t')
    | .error e => (.error e, t)
  Accepts _ _ _ := True
  remove := Table.remove

theorem Table.shelf_counts (α : Type) : (Table.shelf α).Counts where
  adds t claim record := by
    cases assigned : t.ids.assign claim with
    | error e =>
      have hadd : (Table.shelf α).add t claim record = (.error e, t) := by
        simp only [shelf, Table.add, assigned]
      rw [hadd]
      exact .unassigned assigned
    | ok given =>
      obtain ⟨n, ids⟩ := given
      have hadd : (Table.shelf α).add t claim record =
          (.ok (some n), { t.place n record with ids }) := by
        simp only [shelf, Table.add, assigned]
      have placed (m : Int) : (Table.shelf α).read { t.place n record with ids } m =
          if m = n then some record else t.get? m := get?_place t n record m
      rw [hadd]
      refine .stored assigned trivial ?_ fun m ne => (placed m).trans (if_neg ne)
      rw [Shelf.InUse, placed, if_pos rfl]
      exact nofun
  next_remove t id := congrArg IdSequence.next (ids_remove t id)
  inUse_remove t id n used := by
    have removed : (Table.shelf α).read (t.remove id) n = if n = id then none else t.get? n :=
      get?_remove t id n
    rw [Shelf.InUse, show (Table.shelf α).remove t id = t.remove id from rfl, removed] at used
    split at used
    · exact absurd rfl used
    · exact used

/-! ### Games -/

/-- Games in memory or in files. A file takes no game with an integer that is too long to write. -/
def Games.shelf : Shelf Games Game Int (Except Error (Option Game)) where
  ids := Games.ids
  read := Games.get?
  nothing := .ok none
  add s claim game := ((s.add claim game).1.map (·.value.id), (s.add claim game).2)
  Accepts s game n := s.Filed → Payload.Fits { game with id := some n }
  remove := Games.remove

/-- The number that a game gets in a store. -/
theorem Games.Puts.inUse {s s' : Games} {n : Int} {g : Game} (puts : s.Puts n g s') :
    Games.shelf.InUse s' n := by
  have here : Games.shelf.read s' n = (s.reads g).map some := (puts.get? n).trans (if_pos rfl)
  rw [Shelf.InUse, here]
  cases s.reads g <;> exact nofun

/-- A game that a file could take is not refused as too long. -/
theorem Games.not_fits_of_add {s : Games} {claim : Claim} {n : Int} {ids : IdSequence} {g : Game}
    (assigned : s.ids.assign claim = .ok (n, ids)) (refused : (s.add claim g).1 = .error .tooLongToWrite) :
    ¬Payload.Fits { g with id := some n } := by
  intro fits
  cases s with
  | memory t =>
    have hassign : t.ids.assign claim = .ok (n, ids) := assigned
    simp only [add, hassign] at refused
    cases refused
  | files f =>
    have hassign : f.ids.assign claim = .ok (n, ids) := assigned
    rcases Payload.write_eq { g with id := some n } with ⟨-, hwrite⟩ | ⟨long, -⟩
    · simp only [add, Folder.add, Folder.write, hassign, hwrite, Except.map] at refused
      cases refused
    · exact long fits

theorem Games.shelf_counts : Games.shelf.Counts where
  adds s claim game := by
    cases assigned : s.ids.assign claim with
    | error e =>
      have hadd : Games.shelf.add s claim game = (.error e, s) := by
        simp only [shelf, add_refused assigned, Except.map]
      rw [hadd]
      exact .unassigned assigned
    | ok given =>
      obtain ⟨n, ids⟩ := given
      rcases add_assigned assigned game with
        ⟨held, s', hadd, value, -, puts, hids⟩ | ⟨filed, hadd⟩
      · have stored : Games.shelf.add s claim game = (.ok (some n), s') := by
          simp only [shelf, hadd, Except.map, value]
        have given : s.ids.assign claim = .ok (n, s'.ids) := by rw [assigned, hids]
        rw [stored]
        refine .stored given puts.fits puts.inUse fun m ne => ?_
        exact (puts.get? m).trans (if_neg ne)
      · have refused : Games.shelf.add s claim game = (.error .tooLongToWrite, s.withIds ids) := by
          simp only [shelf, hadd, Except.map]
        rw [refused]
        refine .refused (fun m ids' h accepts => ?_) ?_ fun m => get?_withIds s ids m
        · obtain ⟨rfl, -⟩ := Prod.mk.inj (Except.ok.inj (assigned.symm.trans h))
          exact not_fits_of_add assigned (congrArg Prod.fst hadd) (accepts filed)
        · show s.ids.next ≤ (s.withIds ids).ids.next
          rw [ids_withIds]
          exact IdSequence.next_le_of_assign assigned
  next_remove s id := congrArg IdSequence.next (ids_remove s id)
  inUse_remove s id n used := by
    have removed : Games.shelf.read (s.remove id) n = if n = id then .ok none else s.get? n :=
      get?_remove s id n
    rw [Shelf.InUse, show Games.shelf.remove s id = s.remove id from rfl, removed] at used
    split at used
    · exact absurd rfl used
    · exact used

/-! ### Logs -/

/-- The entries of all logs: under a number, for each game, those of its log that have it. -/
def Journal.shelf : Shelf Journal Content Int (Int → List Content) where
  ids := Journal.ids
  read j n game := (j.entries game).filter (·.id = some n)
  nothing _ := []
  add j claim entry := ((j.add claim entry).1.map (·.id), (j.add claim entry).2)
  Accepts j entry _ := ∀ last ∈ j.lastPosition entry.game, last < entry.position
  remove := Journal.clear

/-- What comes of adding an entry: it goes to the end of its log if it comes after the last one there. -/
theorem Journal.add_assigned {j : Journal} {claim : Claim} {n : Int} {ids : IdSequence}
    (assigned : j.ids.assign claim = .ok (n, ids)) (entry : Content) :
    (Journal.shelf.Accepts j entry n ∧ j.add claim entry = (.ok { entry with id := some n },
      { logs := j.logs.insert entry.game (j.entries entry.game ++ [{ entry with id := some n }]), ids })) ∨
      ¬Journal.shelf.Accepts j entry n ∧ ∃ e, j.add claim entry = (.error e, { j with ids }) := by
  cases hlast : j.lastPosition entry.game with
  | none =>
    refine .inl ⟨fun l hl => ?_, by simp only [add, assigned, hlast]⟩
    exact nomatch hlast.symm.trans hl
  | some last =>
    by_cases after : entry.position ≤ last
    · have hadd : j.add claim entry =
          (.error (.positionTaken entry.game entry.position last), { j with ids }) := by
        simp only [add, assigned, hlast, if_pos after]
      refine .inr ⟨fun accepts => ?_, _, hadd⟩
      have := accepts last hlast
      omega
    · refine .inl ⟨fun l hl => ?_, by simp only [add, assigned, hlast, if_neg after]⟩
      obtain rfl := Option.some.inj (hlast.symm.trans hl)
      omega

theorem Journal.shelf_counts : Journal.shelf.Counts where
  adds j claim entry := by
    cases assigned : j.ids.assign claim with
    | error e =>
      have hadd : Journal.shelf.add j claim entry = (.error e, j) := by
        simp only [shelf, add, assigned, Except.map]
      rw [hadd]
      exact .unassigned assigned
    | ok given =>
      obtain ⟨n, ids⟩ := given
      rcases add_assigned assigned entry with ⟨accepts, hadd⟩ | ⟨refuses, e, hadd⟩
      · have stored : Journal.shelf.add j claim entry = (.ok (some n), (j.add claim entry).2) := by
          simp only [shelf, hadd, Except.map]
        rw [stored, hadd]
        -- Under each number, a log has what it had, and one entry more under the new one.
        have entries (game : Int) (m : Int) : Journal.shelf.read
            { logs := j.logs.insert entry.game (j.entries entry.game ++ [{ entry with id := some n }]),
              ids } m game =
            Journal.shelf.read j m game ++
              if game = entry.game ∧ m = n then [{ entry with id := some n }] else [] := by
          simp only [shelf, Journal.entries, Rows.get?_insert]
          by_cases hgame : game = entry.game
          · by_cases hm : m = n
            · simp [hgame, hm, List.filter_append]
            · simp [hgame, hm, Ne.symm hm, List.filter_append]
          · simp [hgame]
        refine .stored assigned accepts (fun same => ?_) fun m ne => funext fun game => ?_
        · have here := (entries entry.game n).symm.trans (congrFun same entry.game)
          rw [if_pos ⟨rfl, rfl⟩] at here
          exact List.append_ne_nil_of_right_ne_nil _ (List.cons_ne_nil _ _) here
        · rw [entries, if_neg fun h => ne h.2, List.append_nil]
      · have refused : Journal.shelf.add j claim entry = (.error e, { j with ids }) := by
          simp only [shelf, hadd, Except.map]
        rw [refused]
        refine .refused (fun m ids' h => ?_) (IdSequence.next_le_of_assign assigned) fun _ => rfl
        exact refuses
  next_remove _ _ := rfl
  inUse_remove j game n used same := by
    refine used (funext fun other => ?_)
    have before : (j.entries other).filter (·.id = some n) = [] := congrFun same other
    show ((j.clear game).entries other).filter (·.id = some n) = []
    by_cases hgame : other = game
    · rw [hgame, entries_clear_self]
      rfl
    · rw [entries_clear_of_ne hgame, before]

/-! ### Languages -/

/-- The registered languages. None is ever taken out. -/
def Languages.shelf : Shelf Languages Language Empty (List Language) where
  ids := Languages.ids
  read s n := (s.entries.filter (·.1 = n)).map (·.2)
  nothing := []
  add s claim language :=
    match s.add claim language with
    | .ok (n, s') => (.ok (some n), s')
    | .error e => (.error e, s)
  Accepts s language _ := ∀ e ∈ s.entries, e.2.code ≠ language.code
  remove _ what := nomatch what

theorem Languages.shelf_counts : Languages.shelf.Counts where
  adds s claim language := by
    by_cases taken : s.entries.any fun e => e.2.code = language.code
    · have hadd : Languages.shelf.add s claim language =
          (.error (.languageTaken language.code), s) := by
        simp only [shelf, add, if_pos taken]
      obtain ⟨e, registered, same⟩ := List.any_eq_true.1 taken
      rw [hadd]
      refine .refused (fun n ids _ accepts => ?_) (Int.le_refl _) fun _ => rfl
      exact accepts e registered (of_decide_eq_true same)
    · cases assigned : s.ids.assign claim with
      | error e =>
        have hadd : Languages.shelf.add s claim language = (.error e, s) := by
          simp only [shelf, add, if_neg taken, assigned]
        rw [hadd]
        exact .unassigned assigned
      | ok given =>
        obtain ⟨n, ids⟩ := given
        have hadd : Languages.shelf.add s claim language =
            (.ok (some n), { entries := s.entries ++ [(n, language)], ids }) := by
          simp only [shelf, add, if_neg taken, assigned]
        rw [hadd]
        refine .stored assigned (fun e registered same => ?_) ?_ fun m ne => ?_
        · exact taken (List.any_eq_true.2 ⟨e, registered, decide_eq_true same⟩)
        · simp [Shelf.InUse, shelf, List.filter_append]
        · simp [shelf, List.filter_append, Ne.symm ne]
  next_remove _ what := nomatch what
  inUse_remove _ what := nomatch what

/-! ### All stores -/

namespace Shelf

variable {σ ρ κ ν : Type} {shelf : Shelf σ ρ κ ν} {start : σ}

/-- The stores that number their records, when they are new. Games may be in files that are there
already. -/
inductive New : {σ ρ κ ν : Type} → Shelf σ ρ κ ν → σ → Prop
  | adventures : New (Table.shelf Adventure) {}
  | locations : New (Table.shelf Location) {}
  | routes : New (Table.shelf Route) {}
  | scripts : New (Table.shelf Script) {}
  | copies : New (Table.shelf Copy) {}
  | games {directory : Option Directory} {s : Games} (opened : Games.open directory = .ok s) :
      New Games.shelf s
  | contents : New Journal.shelf {}
  | languages : New Languages.shelf {}

theorem New.counts (new : shelf.New start) : shelf.Counts := by
  cases new with
  | adventures | locations | routes | scripts | copies => exact Table.shelf_counts _
  | games => exact Games.shelf_counts
  | contents => exact Journal.shelf_counts
  | languages => exact Languages.shelf_counts

theorem New.bounded (new : shelf.New start) : shelf.Bounded start := by
  cases new with
  | adventures | locations | routes | scripts | copies | contents | languages =>
    exact fun n used => absurd rfl used
  | @games directory s opened =>
    intro n used
    cases directory with
    | none =>
      obtain rfl := Except.ok.inj opened
      exact absurd rfl used
    | some directory =>
      obtain ⟨f, hopen, rfl⟩ := map_ok opened
      exact Folder.lt_next_of_open hopen used

/-- Whatever has been asked of a store, a record without a number gets one that is greater than every
number that has ever been in use. Nothing has this number, and what has other numbers stays as it is.
Where the record is refused, everything stays. -/
theorem New.number_unused (new : shelf.New start) (earlier later : List (Request ρ κ)) (record : ρ) :
    let before := shelf.left start earlier
    let now := shelf.left before later
    let n := (shelf.ids now).next
    (∀ m, shelf.InUse before m → m < n) ∧ ¬shelf.InUse now n ∧
    (shelf.Accepts now record n → ∃ s', shelf.add now .unset record = (.ok (some n), s') ∧
      shelf.InUse s' n ∧ ∀ m, m ≠ n → shelf.read s' m = shelf.read now m) ∧
    (¬shelf.Accepts now record n → ∃ e s', shelf.add now .unset record = (.error e, s') ∧
      ∀ m, shelf.read s' m = shelf.read now m) := by
  intro before now n
  obtain ⟨bounded, -⟩ := new.counts.left new.bounded earlier
  obtain ⟨bounded', le⟩ := new.counts.left bounded later
  -- The bound says of `now` what it says of the stores before it, so the next number is free there.
  have unused : ¬shelf.InUse now n := fun used => Int.lt_irrefl n (bounded' n used)
  have next : (shelf.ids now).assign .unset = .ok (n, ⟨n + 1⟩) := rfl
  refine ⟨fun m used => Int.lt_of_lt_of_le (bounded m used) le, unused, ?_⟩
  have adds := new.counts.adds now .unset record
  generalize shelf.add now .unset record = outcome at adds
  cases adds with
  | @stored k s' assigned accepts there others =>
    obtain rfl : n = k := congrArg Prod.fst (Except.ok.inj assigned)
    exact ⟨fun _ => ⟨s', rfl, there, others⟩, fun refuses => absurd accepts refuses⟩
  | @refused e s' refuses _ same =>
    exact ⟨fun accepts => absurd accepts (refuses n _ next), fun _ => ⟨e, s', rfl, same⟩⟩

/-- The number of a refused entry is used up, and that of an entry is not free again once its log has
been dropped. -/
theorem New.number_unused_in_logs :
    let entry : Content := { game := 5, position := 3, body := .literal "Dawn." }
    let before := Journal.shelf.left {} [.add (.number 12) entry, .add (.number 20) entry]
    let now := Journal.shelf.left before [.remove 5, .add .malformed entry]
    (Journal.shelf.InUse before 12 ∧ 12 < now.ids.next) ∧ now.entries 5 = [] ∧
      now.ids.next = 21 ∧ ∃ j, Journal.shelf.add now .unset entry = (.ok (some 21), j) ∧
        Journal.shelf.InUse j 21 := by
  intro entry before now
  obtain ⟨ever, -, accepted, -⟩ := New.contents.number_unused
    [.add (.number 12) entry, .add (.number 20) entry] [.remove 5, .add .malformed entry] entry
  have used : Journal.shelf.InUse before 12 := fun same => absurd (congrFun same 5) (by decide)
  have dropped : now.entries 5 = [] := by decide
  have accepts : Journal.shelf.Accepts now entry 21 := by
    intro last there
    rw [Journal.lastPosition, dropped] at there
    cases there
  obtain ⟨j, added, there, -⟩ := accepted accepts
  exact ⟨⟨used, ever 12 used⟩, dropped, by decide, j, added, there⟩

end Shelf

end TextAdventure
