import Mathlib.Logic.Function.Basic
import TextAdventure.Proofs.Store.Listing
import TextAdventure.Proofs.Store.Mirror
import TextAdventure.Proofs.Text.Scalar

/-! A folder of games answers as a plain map from numbers to games would, for every sequence of
requests. The map is not stored anywhere: what is kept are file names, the texts of the files and the
number of the next game, and that number is found again from the file names when the folder is
opened again. -/

namespace TextAdventure

/-- The values that the state of a game is made of here. -/
def Json.Simple : Json → Prop
  | .text t => t.Scalar
  | .int _ | .bool _ => True
  | .float x => rereadFloat x = x
  | _ => False

/-- A game as it is created: from integers, a language, and simple values under names. -/
def Game.Built (g : Game) : Prop :=
  ∃ (adventure location timestamp : Int) (language : Text) (state : Fields)
    (completed needsRecovery : Bool) (id : Option Int),
    language.Scalar ∧ (state.map (·.1)).Nodup ∧ (∀ f ∈ state, f.1.Scalar ∧ f.2.Simple) ∧
      Game.create adventure location (.text language) timestamp state completed needsRecovery id =
        .ok g

theorem Json.Simple.lasting {v : Json} (h : v.Simple) : v.Lasting := by
  cases v with
  | text t => exact .text h
  | int n => exact .int n
  | bool b => exact .bool b
  | float x => exact .float h
  | null | list _ | object _ => exact False.elim h

/-- A game that was created is read from its file as it was written. -/
theorem Game.Built.lasting {g : Game} (h : g.Built) : g.Lasting := by
  obtain ⟨adventure, location, timestamp, language, state, completed, needsRecovery, id, scalar,
    distinct, simple, created⟩ := h
  unfold Game.create at created
  cases checked : Field.code "language" (.text language) with
  | error e =>
    rw [checked] at created
    exact nomatch created
  | ok code =>
    rw [checked] at created
    obtain rfl := Except.ok.inj created
    have hcode : code.Scalar := scalar.code checked
    refine ⟨?_, hcode, .object distinct (fun f hf => (simple f hf).1) fun f hf =>
      (simple f hf).2.lasting⟩
    show Field.code "language" (.text code.paired) = .ok code
    rw [hcode.paired]
    exact Field.code_again checked "language"

namespace Folder

/-! ### What is asked for and what is answered -/

/-- What a user of a folder asks for. A folder that is opened again has its directory and nothing
else from before. -/
inductive Request where
  | add (g : Game)
  | update (g : Game)
  | remove (id : Int)
  | get (id : Int)
  | ofAdventure (adventure : Int)
  | atLocation (location : Int)
  | reopen

inductive Reply where
  | done
  | stored (g : Game)
  | found (g : Option Game)
  | listed (games : List Game)

/-- Games are created ones. One that is added has no number yet, or one that is not negative. -/
def Request.Sound : Request → Prop
  | add g => g.Built ∧ ∀ n, g.id = some n → 0 ≤ n
  | update g => g.Built
  | _ => True

/-- What a folder answers and becomes. -/
def serve (f : Folder) : Request → Except Error Reply × Folder
  | .add g =>
    let (added, f) := f.add (.ofId? g.id) g
    (added.map .stored, f)
  | .update g =>
    match f.update g with
    | .error e => (.error e, f)
    | .ok f => (.ok .done, f)
  | .remove id => (.ok .done, f.remove id)
  | .get id => ((f.get? id).map .found, f)
  | .ofAdventure adventure => (((Games.files f).ofAdventure adventure).map .listed, f)
  | .atLocation location => (((Games.files f).atLocation location).map .listed, f)
  | .reopen =>
    match Folder.open f.directory with
    | .error e => (.error e, f)
    | .ok f => (.ok .done, f)

/-- The answers to requests, one after the other. -/
def serveAll (f : Folder) : List Request → List (Except Error Reply)
  | [] => []
  | r :: rest => (f.serve r).1 :: serveAll (f.serve r).2 rest

/-! ### A plain map -/

/-- The games of a plain map, under their numbers. -/
abbrev Contents := Int → Option Game

/-- Exactly the games that satisfy `p`, by ascending number. -/
structure Contents.Lists (m : Contents) (p : Game → Prop) (games : List Game) : Prop where
  mem : ∀ g, g ∈ games ↔ p g ∧ ∃ n, m n = some g
  ascending : games.Pairwise fun g g' => ∃ n n' : Int, g.id = some n ∧ g'.id = some n' ∧ n < n'

/-- A number that a game is added under: its own, or one that no stored game has. -/
def Contents.Takes (m : Contents) (g : Game) (n : Int) : Prop :=
  g.id = some n ∨ g.id = none ∧ m n = none

/-- What a plain map answers to a request and becomes. A game is refused if one of its integers has
too many digits to be written. -/
inductive Contents.Serves (m : Contents) : Request → Except Error Reply → Contents → Prop
  | add {g : Game} {n : Int} (takes : m.Takes g n)
      (fits : Payload.Fits { g with id := some n }) :
      Serves m (.add g) (.ok (.stored { g with id := some n }))
        (Function.update m n (some { g with id := some n }))
  | refuseAdd {g : Game} {n : Int} (takes : m.Takes g n)
      (long : ¬Payload.Fits { g with id := some n }) : Serves m (.add g) (.error .tooLongToWrite) m
  | update {g : Game} {n : Int} (number : g.id = some n) (there : m n ≠ none)
      (fits : Payload.Fits g) : Serves m (.update g) (.ok .done) (Function.update m n (some g))
  | refuseUpdate {g : Game} {n : Int} (number : g.id = some n) (there : m n ≠ none)
      (long : ¬Payload.Fits g) : Serves m (.update g) (.error .tooLongToWrite) m
  | unknown {g : Game} (absent : ∀ n, g.id = some n → m n = none) :
      Serves m (.update g) (.error (.unknownGame g.id)) m
  | remove (id : Int) : Serves m (.remove id) (.ok .done) (Function.update m id none)
  | get (id : Int) : Serves m (.get id) (.ok (.found (m id))) m
  | ofAdventure {adventure : Int} {games : List Game}
      (lists : m.Lists (fun g => g.adventure = adventure) games) :
      Serves m (.ofAdventure adventure) (.ok (.listed games)) m
  | atLocation {location : Int} {games : List Game}
      (lists : m.Lists (fun g => g.location = location) games) :
      Serves m (.atLocation location) (.ok (.listed games)) m
  | reopen : Serves m .reopen (.ok .done) m

/-- Answers to requests that a plain map gives one after the other. -/
inductive Contents.ServesAll : Contents → List Request → List (Except Error Reply) → Prop
  | nil (m : Contents) : ServesAll m [] []
  | cons {m m' : Contents} {r : Request} {reply : Except Error Reply} {rest : List Request}
      {replies : List (Except Error Reply)} (first : m.Serves r reply m')
      (others : ServesAll m' rest replies) : ServesAll m (r :: rest) (reply :: replies)

/-! ### A folder that holds what a map holds -/

/-- The folder has the games of the map, each under its own number. They stand in the order of rows,
which is that of a listing, and new numbers are past those of them all. -/
structure Keeps (f : Folder) (m : Contents) : Prop where
  tidy : f.Tidy
  found : ∀ n, f.get? n = .ok (m n)
  own : ∀ n g, m n = some g → g.id = some n
  natural : ∀ n g, m n = some g → 0 ≤ n ∧ Json.isLong n = false
  fresh : ∀ n g, m n = some g → n < f.ids.next
  next : 0 ≤ f.ids.next
  rows : ∃ rows : Rows Game, rows.Ascending ∧ ∀ n, rows.get? n = m n

variable {f : Folder} {m : Contents} {n : Int} {g : Game}

/-- A number has a file if the map has a game under it. -/
theorem Keeps.isSome (h : f.Keeps m) (n : Int) :
    (f.directory.get? (fileName n)).isSome ↔ m n ≠ none := by
  have found := h.found n
  cases hfile : f.directory.get? (fileName n) with
  | none =>
    rw [Folder.get?, Directory.text?, hfile] at found
    simp [(Except.ok.inj found).symm]
  | some entry =>
    cases entry with
    | folder => exact absurd hfile (h.tidy.files n)
    | file t =>
      rw [Folder.get?, Directory.text?, hfile] at found
      obtain ⟨g, -, hg⟩ := map_ok found
      simp [← hg]

/-- A game is written under its number, and the numbers for new games go on past it. -/
theorem Keeps.write (h : f.Keeps m) (hid : g.id = some n) (lasting : g.Lasting) (natural : 0 ≤ n)
    {t : Text} (hwrite : Payload.write g = .ok t) {ids : IdSequence} (le : f.ids.next ≤ ids.next)
    (lt : n < ids.next) :
    Keeps { directory := f.directory.write (fileName n) (.file t), ids }
      (Function.update m n (some g)) := by
  have fits := (Payload.write_ok hwrite).1
  have member {k : Int} {g' : Game} (hk : Function.update m n (some g) k = some g') :
      k = n ∧ g = g' ∨ m k = some g' := by
    rw [Function.update_apply] at hk
    split at hk
    · exact .inl ⟨‹_›, Option.some.inj hk⟩
    · exact .inr hk
  have tidy := h.tidy.write n t
  refine
    { tidy := { tidy with }
      found := fun k => ?_
      own := fun k g' hk => ?_
      natural := fun k g' hk => ?_
      fresh := fun k g' hk => ?_
      next := Int.le_trans h.next le
      rows := ?_ }
  · have hget := Folder.get?_write f n t k
    rw [Payload.read_write hid hwrite, lasting.reread, h.found k] at hget
    refine hget.trans ?_
    rw [Function.update_apply]
    split <;> rfl
  · rcases member hk with ⟨rfl, rfl⟩ | hk
    · exact hid
    · exact h.own k g' hk
  · rcases member hk with ⟨rfl, -⟩ | hk
    · exact ⟨natural, fits.short hid⟩
    · exact h.natural k g' hk
  · rcases member hk with ⟨rfl, -⟩ | hk
    · exact lt
    · exact Int.lt_of_lt_of_le (h.fresh k g' hk) le
  · obtain ⟨rows, ascending, same⟩ := h.rows
    refine ⟨rows.insert n g, ascending.insert n g, fun k => ?_⟩
    rw [Rows.get?_insert, Function.update_apply, same]

theorem Keeps.remove (h : f.Keeps m) (id : Int) :
    (f.remove id).Keeps (Function.update m id none) := by
  have member {k : Int} {g : Game} (hk : Function.update m id none k = some g) : m k = some g := by
    rw [Function.update_apply] at hk
    split at hk
    · exact nomatch hk
    · exact hk
  refine
    { tidy := h.tidy.remove id
      found := fun k => ?_
      own := fun k g hk => h.own k g (member hk)
      natural := fun k g hk => h.natural k g (member hk)
      fresh := fun k g hk => h.fresh k g (member hk)
      next := h.next
      rows := ?_ }
  · rw [Folder.get?_remove, Function.update_apply, h.found k]
    split <;> rfl
  · obtain ⟨rows, ascending, same⟩ := h.rows
    refine ⟨rows.erase id, ascending.erase id, fun k => ?_⟩
    rw [Rows.get?_erase, Function.update_apply, same]

/-- A number that was handed out is used, also when its game could not be written. -/
theorem Keeps.withIds (h : f.Keeps m) {ids : IdSequence} (le : f.ids.next ≤ ids.next) :
    Keeps { f with ids } m :=
  { h with
    tidy := { h.tidy with }
    fresh := fun k g hk => Int.lt_of_lt_of_le (h.fresh k g hk) le
    next := Int.le_trans h.next le }

theorem Keeps.lists (h : f.Keeps m) (p : Game → Prop) [DecidablePred p] :
    ∃ games, (Games.files f).select (fun g => p g) = .ok games ∧ m.Lists p games := by
  obtain ⟨rows, ascending, same⟩ := h.rows
  have mem {r : Int × Game} (hr : r ∈ rows) : m r.1 = some r.2 :=
    (same r.1).symm.trans (ascending.get?_of_mem hr)
  have all : f.games = .ok (List.map (·.2) rows) :=
    h.tidy.games_eq ascending (fun n => (h.found n).trans (congrArg _ (same n).symm))
      fun r hr => h.natural r.1 r.2 (mem hr)
  refine ⟨(List.map (·.2) rows).filter fun g => p g, ?_, fun g => ?_, ?_⟩
  · show f.games.map _ = _
    rw [all]
    rfl
  · rw [List.mem_filter, decide_eq_true_iff, and_comm, List.mem_map]
    refine and_congr_right fun _ => ⟨?_, fun ⟨n, hn⟩ => ?_⟩
    · rintro ⟨r, hr, rfl⟩
      exact ⟨r.1, mem hr⟩
    · exact ⟨(n, g), Rows.mem_of_get? ((same n).trans hn), rfl⟩
  · refine List.Pairwise.filter _ (List.pairwise_map.2 ?_)
    exact ascending.imp_of_mem fun ha hb lt => ⟨_, _, h.own _ _ (mem ha), h.own _ _ (mem hb), lt⟩

/-- A folder that is opened again finds the next number from the names of its files. -/
theorem Keeps.open (h : f.Keeps m) : ∃ f', Folder.open f.directory = .ok f' ∧ f'.Keeps m := by
  obtain ⟨rows, ascending, same⟩ := h.rows
  have numbers := h.tidy.numbered_eq (fun n => (h.found n).trans (congrArg _ (same n).symm))
    fun r hr => h.natural r.1 r.2 ((same r.1).symm.trans (ascending.get?_of_mem hr))
  obtain ⟨f', opened⟩ := open_ok_iff.2 (numbered_ok_iff.1 ⟨_, numbers⟩)
  have directory := directory_of_open opened
  have found (n : Int) : f'.get? n = .ok (m n) :=
    (get?_of_directory (by rw [directory])).trans (h.found n)
  have tidy : f'.Tidy :=
    ⟨directory ▸ h.tidy.distinct, directory ▸ h.tidy.canonical, directory ▸ h.tidy.files⟩
  obtain ⟨_, -, positive, -⟩ := numbers_of_open opened
  refine ⟨f', opened, tidy, found, h.own, h.natural, fun n g hn => ?_, by omega, h.rows⟩
  refine lt_next_of_open opened ?_
  rw [found, hn]
  exact nofun

/-! ### Requests -/

variable {r : Request}

/-- A game that is added gets a number that is not negative, and new numbers go on past it. -/
theorem Keeps.assign (h : f.Keeps m) (natural : ∀ n, g.id = some n → 0 ≤ n) :
    ∃ n ids, f.ids.assign (.ofId? g.id) = .ok (n, ids) ∧ m.Takes g n ∧ 0 ≤ n ∧
      f.ids.next ≤ ids.next ∧ n < ids.next := by
  cases hid : g.id with
  | none =>
    have free : m f.ids.next = none := by
      cases hnext : m f.ids.next with
      | none => rfl
      | some g => exact absurd (h.fresh _ g hnext) (Int.lt_irrefl _)
    exact ⟨_, _, rfl, .inr ⟨hid, free⟩, h.next, by simp, by simp⟩
  | some n =>
    have assigned : f.ids.assign (.number n) = .ok (n, f.ids.advancePast n) := rfl
    obtain ⟨lt, le⟩ := IdSequence.of_assign assigned
    exact ⟨n, _, assigned, .inl hid, natural n hid, le, lt⟩

/-- A request is answered as the map answers it, and the folder keeps what the map keeps. -/
def Answers (f : Folder) (m : Contents) (r : Request) : Prop :=
  ∃ m', m.Serves r (f.serve r).1 m' ∧ (f.serve r).2.Keeps m'

theorem Keeps.serve_add (h : f.Keeps m) (built : g.Built) (number : ∀ n, g.id = some n → 0 ≤ n) :
    f.Answers m (.add g) := by
  obtain ⟨n, ids, assigned, takes, natural, le, lt⟩ := h.assign number
  have lasting : Game.Lasting { g with id := some n } :=
    ⟨built.lasting.language, built.lasting.scalar, built.lasting.state⟩
  rw [Answers, Folder.serve]
  have added (t : Text) (hwrite : Payload.write { g with id := some n } = .ok t) :
      f.add (.ofId? g.id) g = (.ok { g with id := some n },
        { directory := f.directory.write (fileName n) (.file t), ids }) := by
    simp only [Folder.add, assigned, Folder.write, hwrite, Except.map]
  rcases Payload.write_eq { g with id := some n } with ⟨fits, hwrite⟩ | ⟨long, hwrite⟩
  · rw [added _ hwrite]
    exact ⟨_, .add takes fits, h.write rfl lasting natural hwrite le lt⟩
  · have refused : f.add (.ofId? g.id) g = (.error .tooLongToWrite, { f with ids }) := by
      simp only [Folder.add, assigned, Folder.write, hwrite, Except.map]
    rw [refused]
    exact ⟨_, .refuseAdd takes long, h.withIds le⟩

theorem Keeps.serve_update (h : f.Keeps m) (built : g.Built) : f.Answers m (.update g) := by
  rw [Answers, Folder.serve]
  cases hid : g.id with
  | none =>
    have hupdate : f.update g = .error (.unknownGame g.id) := by simp [Folder.update, hid]
    rw [hupdate]
    exact ⟨_, .unknown (by simp [hid]), h⟩
  | some n =>
    have there := h.isSome n
    cases hfile : f.directory.get? (fileName n) with
    | none =>
      have hupdate : f.update g = .error (.unknownGame g.id) := by
        simp [Folder.update, hid, hfile]
      rw [hupdate]
      refine ⟨_, .unknown fun k hk => ?_, h⟩
      obtain rfl := Option.some.inj (hid.symm.trans hk)
      simpa [hfile] using there
    | some entry =>
      have there : m n ≠ none := there.1 (by simp [hfile])
      obtain ⟨old, hold⟩ := Option.ne_none_iff_exists'.1 there
      have hupdate : f.update g = (Payload.write g).map fun t =>
          { f with directory := f.directory.write (fileName n) (.file t) } := by
        simp only [Folder.update, hid, hfile, Folder.write]
      rw [hupdate]
      rcases Payload.write_eq g with ⟨fits, hwrite⟩ | ⟨long, hwrite⟩
      · rw [hwrite]
        exact ⟨_, .update hid there fits, h.write hid built.lasting (h.natural n old hold).1 hwrite
          (Int.le_refl _) (h.fresh n old hold)⟩
      · rw [hwrite]
        exact ⟨_, .refuseUpdate hid there long, h⟩

theorem Keeps.serve (h : f.Keeps m) (sound : r.Sound) : f.Answers m r := by
  cases r with
  | add g => exact h.serve_add sound.1 sound.2
  | update g => exact h.serve_update sound
  | remove id => exact ⟨_, .remove id, h.remove id⟩
  | get id =>
    rw [Answers, Folder.serve, h.found id]
    exact ⟨_, .get id, h⟩
  | ofAdventure adventure =>
    obtain ⟨games, hselect, lists⟩ := h.lists fun g => g.adventure = adventure
    rw [Answers, Folder.serve, Games.ofAdventure, hselect]
    exact ⟨_, .ofAdventure lists, h⟩
  | atLocation location =>
    obtain ⟨games, hselect, lists⟩ := h.lists fun g => g.location = location
    rw [Answers, Folder.serve, Games.atLocation, hselect]
    exact ⟨_, .atLocation lists, h⟩
  | reopen =>
    obtain ⟨f', hopen, keeps⟩ := h.open
    rw [Answers, Folder.serve, hopen]
    exact ⟨_, .reopen, keeps⟩

theorem Keeps.serveAll (h : f.Keeps m) {requests : List Request}
    (sound : ∀ r ∈ requests, r.Sound) : m.ServesAll requests (f.serveAll requests) := by
  induction requests generalizing f m with
  | nil => exact .nil m
  | cons r rest ih =>
    obtain ⟨m', first, keeps⟩ := h.serve (sound r List.mem_cons_self)
    exact .cons first (ih keeps fun r hr => sound r (List.mem_cons_of_mem _ hr))

end Folder

end TextAdventure
