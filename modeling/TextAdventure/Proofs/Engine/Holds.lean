import Mathlib.Data.List.Dedup
import Mathlib.Data.List.InsertIdx
import Mathlib.Data.List.Nodup
import TextAdventure.Engine.Registry
import TextAdventure.Proofs.Engine.Idle
import TextAdventure.Proofs.Store.Rows

/-! Holds on games, taken and let go in any order. The registry has one lock for each game that is
held, taken and with one user, and no other one; a hold that is rejected leaves no trace. Operations
let go of whatever they take hold of, however they end. -/

namespace TextAdventure

namespace Registry

variable {r : Registry} {lock : Nat} {l l' : GameLock}

/-- The registry with a lock in another state. -/
def withLock (r : Registry) (lock : Nat) (l : GameLock) : Registry :=
  { r with made := r.made.set lock l }

theorem withLock_self (found : r.made[lock]? = some l) : r.withLock lock l = r := by
  have same : r.made.set lock l = r.made := List.ext_getElem? fun k => by
    by_cases hk : lock = k
    · subst hk
      rw [List.getElem?_set_self (List.getElem?_eq_some_iff.1 found).1, found]
    · rw [List.getElem?_set_ne hk]
  rw [withLock, same]

@[simp] theorem withLock_withLock : (r.withLock lock l).withLock lock l' = r.withLock lock l' := by
  simp [withLock]

theorem found_withLock (found : r.made[lock]? = some l) (l' : GameLock) :
    (r.withLock lock l').made[lock]? = some l' :=
  List.getElem?_set_self (List.getElem?_eq_some_iff.1 found).1

theorem addUsers_eq (found : r.made[lock]? = some l) (n : Int) :
    r.addUsers lock n = r.withLock lock { l with users := l.users + n } := by
  rw [addUsers, withLock, List.modify_eq_set_getElem?, found]
  rfl

theorem setLocked_eq (found : r.made[lock]? = some l) (locked : Bool) :
    r.setLocked lock locked = r.withLock lock { l with locked } := by
  rw [setLocked, withLock, List.modify_eq_set_getElem?, found]
  rfl

theorem locked_eq (found : r.made[lock]? = some l) : r.locked lock = l.locked := by
  simp [locked, found]

theorem users_eq (found : r.made[lock]? = some l) : r.users lock = l.users := by
  simp [users, found]

/-- Whoever leaves a lock that has other users leaves no trace. -/
theorem leave_used (found : r.made[lock]? = some l) (used : l.users ≠ 1) (game : Int) :
    r.leave game lock = r.withLock lock { l with users := l.users - 1 } := by
  have left := addUsers_eq found (-1)
  rw [leave, left]
  refine if_neg ?_
  rw [users_eq (found_withLock found _)]
  show l.users + -1 ≠ 0
  omega

/-- The last one to leave a lock takes it out of the registry. -/
theorem leave_last (found : r.made[lock]? = some l) (last : l.users = 1) (game : Int) :
    r.leave game lock = { r.withLock lock { l with users := 0 } with
      entries := r.entries.erase game } := by
  have left := addUsers_eq found (-1)
  rw [leave, left]
  have none : l.users + -1 = 0 := by omega
  rw [none]
  refine if_pos ?_
  rw [users_eq (found_withLock found _)]

/-- A game whose lock is taken and registered is busy, and who tries to hold it leaves no trace. -/
theorem hold_taken {timeout : Float} {game : Int}
    (admitted : ¬(0.0 < timeout ∧ Locks.isTooLong timeout))
    (registered : r.entries.get? game = some lock) (found : r.made[lock]? = some ⟨true, 1⟩) :
    r.hold timeout game = (.error (.gameBusy game), r) := by
  have entered : r.enter game = (lock, r.withLock lock ⟨true, 2⟩) := by
    rw [enter, lockOf, registered]
    exact congrArg (Prod.mk lock) (addUsers_eq found 1)
  have now := found_withLock found ⟨true, 2⟩
  have left : (r.withLock lock ⟨true, 2⟩).leave game lock = r := by
    rw [leave_used now (by decide), withLock_withLock]
    exact withLock_self found
  rw [hold, entered]
  dsimp only
  rw [if_neg admitted, if_pos (locked_eq now), left]

/-- A game without a lock gets a new one. -/
theorem hold_unregistered {timeout : Float} {game : Int}
    (admitted : ¬(0.0 < timeout ∧ Locks.isTooLong timeout))
    (unregistered : r.entries.get? game = none) :
    r.hold timeout game = (.ok r.made.length,
      { made := r.made ++ [⟨true, 1⟩], entries := r.entries.insert game r.made.length }) := by
  let fresh : Registry := { made := r.made ++ [{}], entries := r.entries.insert game r.made.length }
  have found : fresh.made[r.made.length]? = some {} := by simp [fresh]
  have entered : r.enter game = (r.made.length, fresh.withLock r.made.length ⟨false, 1⟩) := by
    rw [enter, lockOf, unregistered]
    exact congrArg (Prod.mk _) (addUsers_eq found 1)
  have now := found_withLock found ⟨false, 1⟩
  have free : (fresh.withLock r.made.length ⟨false, 1⟩).locked r.made.length ≠ true := by
    rw [locked_eq now]
    decide
  rw [hold, entered]
  dsimp only
  rw [if_neg admitted, if_neg free, setLocked_eq now, withLock_withLock]
  simp [withLock, fresh]

/-- The lock of a game that its only user lets go of leaves the registry. -/
theorem release_taken (found : r.made[lock]? = some ⟨true, 1⟩) (game : Int) :
    r.release game lock =
      { made := r.made.set lock ⟨false, 0⟩, entries := r.entries.erase game } := by
  have now := found_withLock found ⟨false, 1⟩
  rw [release, setLocked_eq found, leave_last now rfl, withLock_withLock]
  rfl

end Registry

/-- Someone tries to take hold of a game, or lets go of the hold that is the `n`-th of those open. -/
inductive HoldStep where
  | hold (game : Int) (holder : Holder)
  | release (n : Nat)

def Locks.step (timeout : Float) (locks : Locks) : HoldStep → Except Error Unit × Locks
  | .hold game holder =>
    match locks.hold timeout game holder with
    | .ok locks => (.ok (), locks)
    | .error e => (.error e, locks)
  | .release n =>
    match locks.held[n]? with
    | some (game, holder) => (.ok (), locks.release game holder)
    | none => (.ok (), locks)

/-- A registry and the holds that are open: the games, each with the lock it is held by. -/
structure Custody where
  registry : Registry := {}
  holds : List (Int × Nat) := []
deriving DecidableEq

namespace Custody

variable {c : Custody} {timeout : Float} {g : Int} {holder : Holder} {lock : Nat}

/-- The games held. -/
def games (c : Custody) : List Int := c.holds.map (·.1)

def step (timeout : Float) (c : Custody) : HoldStep → Except Error Unit × Custody
  | .hold game _ =>
    match c.registry.hold timeout game with
    | (.ok lock, registry) => (.ok (), { registry, holds := c.holds ++ [(game, lock)] })
    | (.error e, registry) => (.error e, { c with registry })
  | .release n =>
    match c.holds[n]? with
    | some (game, lock) =>
      (.ok (), { registry := c.registry.release game lock, holds := c.holds.eraseIdx n })
    | none => (.ok (), c)

/-- The lock that is held for a game is the one that is registered, and it is taken by its only
user. -/
structure Kept (c : Custody) : Prop where
  ascending : c.registry.entries.Ascending
  entries : ∀ g lock, c.registry.entries.get? g = some lock ↔ (g, lock) ∈ c.holds
  taken : ∀ h ∈ c.holds, c.registry.made[h.2]? = some ⟨true, 1⟩
  games : c.games.Nodup
  locks : (c.holds.map (·.2)).Nodup

theorem kept_empty : Kept {} := by
  refine ⟨List.Pairwise.nil, fun g lock => ?_, fun h hh => ?_, List.nodup_nil, List.nodup_nil⟩
  · simp
  · exact absurd hh List.not_mem_nil

theorem mem_games : g ∈ c.games ↔ ∃ lock, (g, lock) ∈ c.holds := by
  simp [games]

theorem Kept.get?_eq_none (kept : c.Kept) (free : g ∉ c.games) : c.registry.entries.get? g = none := by
  refine Option.eq_none_iff_forall_ne_some.2 fun lock found => free (mem_games.2 ⟨lock, ?_⟩)
  exact (kept.entries g lock).1 found

/-- Taking hold of a game that is not held makes a lock for it. -/
theorem Kept.step_free (kept : c.Kept) (admitted : ¬(0.0 < timeout ∧ Locks.isTooLong timeout))
    (free : g ∉ c.games) :
    c.step timeout (.hold g holder) = (.ok (), {
      registry :=
        { made := c.registry.made ++ [⟨true, 1⟩]
          entries := c.registry.entries.insert g c.registry.made.length }
      holds := c.holds ++ [(g, c.registry.made.length)] }) := by
  rw [step, Registry.hold_unregistered admitted (kept.get?_eq_none free)]

/-- A hold on a game that is held is rejected, and everything stays as it is. -/
theorem Kept.step_held (kept : c.Kept) (admitted : ¬(0.0 < timeout ∧ Locks.isTooLong timeout))
    (held : g ∈ c.games) : c.step timeout (.hold g holder) = (.error (.gameBusy g), c) := by
  obtain ⟨lock, held⟩ := mem_games.1 held
  rw [step, Registry.hold_taken admitted ((kept.entries g lock).2 held) (kept.taken _ held)]

theorem Kept.step_release (kept : c.Kept) {n : Nat} (held : c.holds[n]? = some (g, lock)) :
    c.step timeout (.release n) = (.ok (), {
      registry :=
        { made := c.registry.made.set lock ⟨false, 0⟩, entries := c.registry.entries.erase g }
      holds := c.holds.eraseIdx n }) := by
  rw [step, held]
  dsimp only
  rw [Registry.release_taken (kept.taken _ (List.mem_of_getElem? held))]

theorem Kept.lock_lt (kept : c.Kept) (held : (g, lock) ∈ c.holds) :
    lock < c.registry.made.length :=
  (List.getElem?_eq_some_iff.1 (kept.taken _ held)).1

theorem Kept.unique (kept : c.Kept) {lock' : Nat} (held : (g, lock) ∈ c.holds)
    (held' : (g, lock') ∈ c.holds) : lock' = lock := by
  have found := (kept.entries g lock).2 held
  rw [(kept.entries g lock').2 held'] at found
  exact Option.some.inj found

theorem Kept.hold (kept : c.Kept) (free : g ∉ c.games) :
    Kept {
      registry :=
        { made := c.registry.made ++ [⟨true, 1⟩]
          entries := c.registry.entries.insert g c.registry.made.length }
      holds := c.holds ++ [(g, c.registry.made.length)] } := by
  refine ⟨kept.ascending.insert g _, fun g' lock => ?_, fun h hh => ?_, ?_, ?_⟩
  · show Rows.get? g' (Rows.insert g _ _) = _ ↔ (g', lock) ∈ c.holds ++ [_]
    by_cases same : g' = g
    · subst same
      have absent : (g', lock) ∉ c.holds := fun mem => free (mem_games.2 ⟨lock, mem⟩)
      simp [absent, eq_comm]
    · rw [Rows.get?_insert_of_ne same, kept.entries]
      simp [same]
  · rcases List.mem_append.1 hh with hh | hh
    · have lt := kept.lock_lt hh
      have taken := kept.taken h hh
      simpa [List.getElem?_append_left lt] using taken
    · obtain rfl := List.mem_singleton.1 hh
      simp
  · rw [Custody.games, List.map_append, List.nodup_append]
    refine ⟨kept.games, List.nodup_singleton _, fun a ha b hb => ?_⟩
    rintro rfl
    obtain rfl := List.mem_singleton.1 hb
    exact free ha
  · rw [List.map_append, List.nodup_append]
    refine ⟨kept.locks, List.nodup_singleton _, fun a ha b hb => ?_⟩
    rintro rfl
    obtain ⟨h, hh, rfl⟩ := List.mem_map.1 ha
    exact absurd (kept.lock_lt hh) (by simp [List.mem_singleton.1 hb])

theorem Kept.release (kept : c.Kept) {n : Nat} (held : c.holds[n]? = some (g, lock)) :
    Kept {
      registry :=
        { made := c.registry.made.set lock ⟨false, 0⟩, entries := c.registry.entries.erase g }
      holds := c.holds.eraseIdx n } := by
  have there := List.mem_of_getElem? held
  have nodup : c.holds.Nodup := .of_map _ kept.games
  have mem (h : Int × Nat) : h ∈ c.holds.eraseIdx n ↔ h ≠ (g, lock) ∧ h ∈ c.holds := by
    obtain ⟨lt, at_⟩ := List.getElem?_eq_some_iff.1 held
    rw [← nodup.erase_getElem n lt, at_, nodup.mem_erase_iff]
  have sublist := List.eraseIdx_sublist c.holds n
  refine ⟨kept.ascending.erase g, fun g' lock' => ?_, fun h hh => ?_,
    kept.games.sublist (sublist.map _), kept.locks.sublist (sublist.map _)⟩
  · rw [mem, Rows.get?_erase]
    by_cases same : g' = g
    · subst same
      rw [if_pos rfl]
      refine ⟨nofun, fun ⟨ne, other⟩ => absurd ?_ ne⟩
      rw [kept.unique there other]
    · rw [if_neg same, kept.entries]
      simp [same]
  · obtain ⟨ne, hh⟩ := (mem h).1 hh
    have apart : lock ≠ h.2 := fun same =>
      ne (List.inj_on_of_nodup_map kept.locks hh there same.symm)
    exact (List.getElem?_set_ne apart).trans (kept.taken h hh)

/-- What one step keeps. -/
theorem Kept.step (kept : c.Kept) (admitted : ¬(0.0 < timeout ∧ Locks.isTooLong timeout))
    (s : HoldStep) : (c.step timeout s).2.Kept := by
  cases s with
  | hold g holder =>
    by_cases held : g ∈ c.games
    · rw [kept.step_held admitted held]
      exact kept
    · rw [kept.step_free admitted held]
      exact kept.hold held
  | release n =>
    cases held : c.holds[n]? with
    | none =>
      rw [Custody.step, held]
      exact kept
    | some h =>
      rw [kept.step_release held]
      exact kept.release held

/-! ### What the registry tells -/

theorem Kept.isBusy (kept : c.Kept) (g : Int) : c.registry.isBusy g = true ↔ g ∈ c.games := by
  unfold Registry.isBusy
  cases found : c.registry.entries.get? g with
  | none =>
    refine ⟨nofun, fun held => ?_⟩
    obtain ⟨lock, held⟩ := mem_games.1 held
    exact nomatch found.symm.trans ((kept.entries g lock).2 held)
  | some lock =>
    have held := (kept.entries g lock).1 found
    exact ⟨fun _ => mem_games.2 ⟨lock, held⟩, fun _ => Registry.locked_eq (kept.taken _ held)⟩

theorem Kept.count (kept : c.Kept) : c.registry.count = c.games.length := by
  have entries : c.registry.entries.Nodup :=
    kept.ascending.imp fun lt same => absurd (congrArg Prod.fst same) (Int.ne_of_lt lt)
  have holds : c.holds.Nodup := .of_map _ kept.games
  have perm : c.registry.entries.Perm c.holds :=
    (List.perm_ext_iff_of_nodup entries holds).2 fun h =>
      kept.ascending.mem_iff.trans (kept.entries h.1 h.2)
  rw [Registry.count, perm.length_eq, Custody.games, List.length_map]

/-- Holds are granted, rejected and told of as they should be. -/
structure Orderly (timeout : Float) (c : Custody) : Prop where
  granted : ∀ g holder, (c.step timeout (.hold g holder)).1 = .ok () ↔ g ∉ c.games
  rejected : ∀ g ∈ c.games, ∀ holder, c.step timeout (.hold g holder) = (.error (.gameBusy g), c)
  count : c.registry.count = c.games.dedup.length
  busy : ∀ g, c.registry.isBusy g = true ↔ g ∈ c.games
  empty : c.games = [] → c.registry.entries = []

theorem Kept.orderly (kept : c.Kept) (admitted : ¬(0.0 < timeout ∧ Locks.isTooLong timeout)) :
    c.Orderly timeout := by
  refine ⟨fun g holder => ?_, fun g held holder => kept.step_held admitted held, ?_, kept.isBusy,
    fun none => ?_⟩
  · by_cases held : g ∈ c.games
    · rw [kept.step_held admitted held]
      simp [held]
    · rw [kept.step_free admitted held]
      simp [held]
  · rw [kept.games.dedup, kept.count]
  · have count := kept.count
    rw [none] at count
    exact List.length_eq_zero_iff.1 count

/-! ### The locks of operations -/

/-- The same games are held in the same order. -/
def Mirrors (c : Custody) (locks : Locks) : Prop := locks.held.map (·.1) = c.games

variable {locks : Locks}

theorem Mirrors.isBusy (mirrors : c.Mirrors locks) (g : Int) :
    locks.isBusy g = true ↔ g ∈ c.games := by
  have same : locks.held.map (·.1) = c.games := mirrors
  simp [Locks.isBusy, ← same]

/-- The locks answer as the registry does, step by step. -/
theorem Mirrors.step (mirrors : c.Mirrors locks) (kept : c.Kept)
    (admitted : ¬(0.0 < timeout ∧ Locks.isTooLong timeout)) (s : HoldStep) :
    (locks.step timeout s).1 = (c.step timeout s).1 ∧
      (c.step timeout s).2.Mirrors (locks.step timeout s).2 := by
  have same : locks.held.map (·.1) = c.games := mirrors
  cases s with
  | hold g holder =>
    by_cases held : g ∈ c.games
    · have refused : locks.hold timeout g holder = .error (.gameBusy g) := by
        rw [Locks.hold, if_neg admitted, if_pos ((mirrors.isBusy g).2 held)]
      rw [kept.step_held admitted held, Locks.step, refused]
      exact ⟨rfl, mirrors⟩
    · have granted : locks.hold timeout g holder = .ok ⟨locks.held ++ [(g, holder)]⟩ := by
        rw [Locks.hold, if_neg admitted, if_neg fun busy => held ((mirrors.isBusy g).1 busy)]
      rw [kept.step_free admitted held, Locks.step, granted]
      exact ⟨rfl, by simp [Mirrors, same, games]⟩
  | release n =>
    have place : locks.held[n]?.map (·.1) = c.holds[n]?.map (·.1) := by
      rw [← List.getElem?_map, ← List.getElem?_map, same]
      rfl
    cases held : c.holds[n]? with
    | none =>
      have absent : locks.held[n]? = none := by simpa [held] using place
      rw [Custody.step, Locks.step, held, absent]
      exact ⟨rfl, mirrors⟩
    | some h =>
      rw [held] at place
      obtain ⟨h', held', number⟩ := Option.map_eq_some_iff.1 place
      have nodup : locks.held.Nodup := .of_map (·.1) (same ▸ kept.games)
      obtain ⟨lt, at_⟩ := List.getElem?_eq_some_iff.1 held'
      have erased : locks.held.erase h' = locks.held.eraseIdx n := by
        rw [← nodup.erase_getElem n lt, at_]
      rw [kept.step_release held, Locks.step, held']
      refine ⟨rfl, ?_⟩
      show (locks.held.erase h').map (·.1) = (c.holds.eraseIdx n).map (·.1)
      rw [erased, ← List.eraseIdx_map, same, ← List.eraseIdx_map]
      rfl

/-! ### Runs -/

/-- What is held after some steps, of which the first one meets an empty registry. -/
def run (timeout : Float) (steps : List HoldStep) : Custody :=
  steps.foldl (fun c s => (c.step timeout s).2) {}

end Custody

/-- The locks after some steps. -/
def Locks.run (timeout : Float) (steps : List HoldStep) : Locks :=
  steps.foldl (fun locks s => (locks.step timeout s).2) {}

namespace Custody

theorem kept_run {timeout : Float} (admitted : ¬(0.0 < timeout ∧ Locks.isTooLong timeout))
    (steps : List HoldStep) :
    (run timeout steps).Kept ∧ (run timeout steps).Mirrors (Locks.run timeout steps) := by
  have along (steps : List HoldStep) (c : Custody) (locks : Locks) (kept : c.Kept)
      (mirrors : c.Mirrors locks) :
      let c' := steps.foldl (fun c s => (c.step timeout s).2) c
      c'.Kept ∧ c'.Mirrors (steps.foldl (fun locks s => (locks.step timeout s).2) locks) := by
    induction steps generalizing c locks with
    | nil => exact ⟨kept, mirrors⟩
    | cons s rest ih => exact ih _ _ (kept.step admitted s) (mirrors.step kept admitted s).2
  exact along steps {} {} kept_empty rfl

end Custody

/-! ### Operations -/

/-- However deep scripts call for actions, no action but the host's own leaves other locks than it has
met. -/
theorem World.SameLocks.attended (engine : Engine) {read : World → Json → Action}
    (read_ : ∀ w request, ¬(read w request).ByHost)
    (write : World → Except Error Answer → World → Json) (depth : Nat) :
    (engine.attended read write depth).Carries World.SameLocks := by
  induction depth with
  | zero => exact carries fun _ _ => rfl
  | succ depth ih => exact carries fun request w => performed ih (read_ w request) w

/-- Takes and releases of any games in any order go by the games that are held, in the registry and in
the locks of the operations alike. Actions leave the locks as they have met them, whatever comes of
them. -/
theorem holds_accounted {timeout : Float}
    (admitted : ¬(0.0 < timeout ∧ Locks.isTooLong timeout)) :
    (∀ steps, let c := Custody.run timeout steps
      let locks := Locks.run timeout steps
      c.Orderly timeout ∧ c.Mirrors locks ∧
        ∀ s, (locks.step timeout s).1 = (c.step timeout s).1) ∧
      ∀ (engine : Engine) (read : World → Json → Action)
        (write : World → Except Error Answer → World → Json) (depth : Nat),
        (∀ w request, ¬(read w request).ByHost) →
        ∀ (a : Action) (w : World), ¬a.ByHost →
          ((engine.attended read write depth).after w a).locks = w.locks := by
  refine ⟨fun steps => ?_, fun engine read write depth inside a w ha => ?_⟩
  · obtain ⟨kept, mirrors⟩ := Custody.kept_run admitted steps
    exact ⟨kept.orderly admitted, mirrors, fun s => (mirrors.step kept admitted s).1⟩
  · exact World.SameLocks.performed (World.SameLocks.attended engine inside write depth) ha w

/-- Game 1 is held twice in vain and once again after it was let go of, and on the lane a script of
game 1 tries to end its own game. -/
theorem holds_accounted_lane :
    let steps : List HoldStep := [.hold 1 .operation, .hold 2 .host, .hold 1 .host,
      .hold 1 .operation, .release 0, .hold 1 .host]
    let engine := Engine.asking.attended (fun _ _ => .endGame (1 : Int)) (fun _ _ _ => .null) 2
    let w := engine.after (World.lane (.files {})) (.startGame (1 : Int) .null)
    (Custody.run 0.0 steps).Orderly 0.0 ∧ (Custody.run 0.0 steps).games = [2, 1] ∧
      (engine.after w (.takeRoute (1 : Int) (1 : Int))).locks = w.locks := by
  intro steps engine w
  have admitted : ¬((0.0 : Float) < 0.0 ∧ Locks.isTooLong 0.0) := by decide +kernel
  obtain ⟨orderly, kept⟩ := holds_accounted admitted
  exact ⟨(orderly steps).1, by decide +kernel, kept Engine.asking _ _ 2 (fun _ _ => id) _ w id⟩

end TextAdventure
