import TextAdventure.Proofs.Engine.Idle
import TextAdventure.Proofs.Store.Apart

/-! What playing leaves untouched: everything that authors write, and every game but the one that is
played. A game is stored and logged under the number that its record goes by. Where a record stands
under one number and goes by another, the game of that other number is played on as well. -/

namespace TextAdventure

open Op
open Table (HeldAt)

variable {S : Int → Prop} {h h' : Held Game} {s s' : Games} {w v : World}

/-- What is held neither stands under a number of `S` nor goes by one. -/
structure Held.Off (S : Int → Prop) (h : Held Game) : Prop where
  number : ∀ k, h.value.id = some k → ¬S k
  place : ∀ k edition, h.place = some (k, edition) → ¬S k

theorem Held.Off.put {g : Game} (off : h.Off S) (number : g.id = h.value.id) :
    Held.Off S { h with value := g } :=
  ⟨fun k hk => off.number k (number.symm.trans hk), off.place⟩

theorem Held.Off.of_heldAt {n : Int} (number : ∀ k, h.value.id = some k → ¬S k) (held : HeldAt n h)
    (hn : ¬S n) : h.Off S := by
  refine ⟨number, fun k edition hk => ?_⟩
  rcases held with none | ⟨_, some⟩
  · rw [none] at hk
    exact nomatch hk
  · rw [some] at hk
    obtain ⟨rfl, -⟩ := Prod.mk.inj (Option.some.inj hk)
    exact hn

/-! ### Stores -/

/-- What everyone is shown of a held record is what its holder finds. -/
theorem Table.current_share {α : Type} (t : Table α) (h : Held α) : (t.share h).current h = h.value := by
  cases hplace : h.place with
  | none => simp [current, hplace]
  | some place =>
    by_cases keeps : t.keeps place
    · have put : t.share h = t.put place.1 h.value := by simp [share, hplace, keeps]
      have kept : (t.put place.1 h.value).keeps place := by
        rw [Table.keeps, Bool.and_eq_true] at keeps ⊢
        exact ⟨by simp, keeps.2⟩
      simp [put, current, hplace, kept]
    · have departs : t.share h = { t with
          departed := t.departed.map fun d => if d.1 = place then (place, h.value) else d } := by
        simp [share, hplace, keeps]
      have gone : ¬(t.share h).keeps place := by rw [departs]; exact keeps
      have found (l : List ((Int × Nat) × α)) :
          ((l.map fun d => if d.1 = place then (place, h.value) else d).lookup place).getD h.value =
            h.value := by
        induction l with
        | nil => rfl
        | cons d rest ih =>
          rw [List.map_cons]
          by_cases hd : d.1 = place
          · simp [hd]
          · have other : (place == d.1) = false := beq_false_of_ne (Ne.symm hd)
            rw [if_neg hd, List.lookup_cons, other]
            exact ih
      rw [current, hplace]
      dsimp only
      rw [if_neg gone, departs]
      exact found t.departed

/-- From one store to another, the games under the numbers of `S` are as they were. -/
structure Games.Leaves (S : Int → Prop) (s s' : Games) : Prop where
  get? : ∀ k, S k → s'.get? k = s.get? k
  has : ∀ k, S k → (s'.Has k ↔ s.Has k)

namespace Games

theorem current_share (s : Games) (h : Held Game) : (s.share h).current h = h.value := by
  cases s with
  | memory t => exact Table.current_share t h
  | files f => rfl

namespace Leaves

theorem refl (S : Int → Prop) (s : Games) : Leaves S s s := ⟨fun _ _ => rfl, fun _ _ => .rfl⟩

theorem trans {s'' : Games} (l : Leaves S s s') (l' : Leaves S s' s'') : Leaves S s s'' :=
  ⟨fun k hk => (l'.get? k hk).trans (l.get? k hk), fun k hk => (l'.has k hk).trans (l.has k hk)⟩

theorem of_puts {n : Int} {g : Game} (puts : Puts n g s s') (hn : ¬S n) : Leaves S s s' := by
  refine ⟨fun k hk => ?_, fun k hk => ?_⟩
  · rw [puts.get?, if_neg fun same : k = n => hn (same ▸ hk)]
  · rw [puts.has]
    exact or_iff_right fun same => hn (same ▸ hk)

theorem remove {n : Int} (hn : ¬S n) (s : Games) : Leaves S s (s.remove n) := by
  refine ⟨fun k hk => ?_, fun k hk => ?_⟩
  · rw [get?_remove, if_neg fun same : k = n => hn (same ▸ hk)]
  · rw [has_remove]
    exact and_iff_right fun same => hn (same ▸ hk)

theorem share (off : h.Off S) (s : Games) : Leaves S s (s.share h) := by
  cases s with
  | files f => exact .refl S _
  | memory t =>
    cases hplace : h.place with
    | none =>
      have same : t.share h = t := by simp [Table.share, hplace]
      show Leaves S (memory t) (memory (t.share h))
      rw [same]
      exact .refl S _
    | some place =>
      have held : HeldAt place.1 h := .inr ⟨place.2, hplace⟩
      rcases Table.share_cases t held with stored | ⟨rows, -⟩
      · exact of_puts (puts_memory stored) (off.place _ _ hplace)
      · have same (k : Int) : (t.share h).get? k = t.get? k := congrArg (Rows.get? k) rows
        refine ⟨fun k _ => congrArg Except.ok (same k), fun k _ => ?_⟩
        show ((t.share h).get? k).isSome ↔ (t.get? k).isSome
        rw [same]

theorem update (off : h.Off S) (hrun : s.update h = .ok (h', s')) : Leaves S s s' ∧ h'.Off S := by
  cases number : h.value.id with
  | none =>
    cases s <;> simp [Games.update, Folder.update, number, Except.map] at hrun
  | some n =>
    have hn := off.number n number
    cases s with
    | memory t =>
      obtain ⟨-, rfl, rfl⟩ := update_memory_eq_ok number hrun
      obtain ⟨stored, value, held⟩ := Table.restore_stored t n h
      refine ⟨of_puts (puts_memory stored) hn, .of_heldAt (fun k hk => ?_) held hn⟩
      exact off.number k (by rw [← hk, value])
    | files f =>
      obtain ⟨-, t, hwrite, rfl, rfl⟩ := update_files_eq_ok number hrun
      exact ⟨of_puts (puts_files number hwrite) hn, off⟩

end Leaves

end Games

/-! ### Worlds -/

/-- From one world to another, everything that authors write is as it was, and so are the games under
the numbers of `S` and their logs. -/
structure World.Leaves (S : Int → Prop) (w w' : World) : Prop where
  adventures : w'.adventures = w.adventures
  locations : w'.locations = w.locations
  routes : w'.routes = w.routes
  scripts : w'.scripts = w.scripts
  includes : w'.includes = w.includes
  copies : w'.copies = w.copies
  languages : w'.languages = w.languages
  games : Games.Leaves S w.games w'.games
  entries : ∀ k, S k → w'.journal.entries k = w.journal.entries k

namespace World.Leaves

theorem refl (S : Int → Prop) (w : World) : World.Leaves S w w :=
  ⟨rfl, rfl, rfl, rfl, rfl, rfl, rfl, .refl S _, fun _ _ => rfl⟩

/-- Time, locks and what the host has answered do not count. -/
theorem aside (l : World.Leaves S w v) (locks : Locks) (clock : Clock) (replies : List Json) :
    World.Leaves S w { v with locks, clock, replies } :=
  ⟨l.adventures, l.locations, l.routes, l.scripts, l.includes, l.copies, l.languages, l.games,
    l.entries⟩

theorem withGames (l : World.Leaves S w v) {games : Games} (next : Games.Leaves S v.games games) :
    World.Leaves S w { v with games } :=
  { l with games := l.games.trans next }

theorem log (l : World.Leaves S w v) {g : Game} (off : ∀ k, g.id = some k → ¬S k) (body : Body) :
    World.Leaves S w ((World.log g body).run v).2 := by
  cases number : g.id with
  | none =>
    rw [World.run_log_none number]
    exact l
  | some n =>
    rw [World.run_log_some number]
    refine { l with entries := fun k hk => ?_ }
    have ne : k ≠ n := fun same => off n number (same ▸ hk)
    exact (Journal.entries_appended_of_ne ne _ _).trans (l.entries k hk)

theorem drop (l : World.Leaves S w v) {n : Int} (hn : ¬S n) :
    World.Leaves S w (Authoring.dropGame v n) := by
  refine { l with games := l.games.trans (.remove hn _), entries := fun k hk => ?_ }
  have ne : k ≠ n := fun same => hn (same ▸ hk)
  exact (Journal.entries_clear_of_ne ne _).trans (l.entries k hk)

theorem updateGame (w : World) (h : Held Game) :
    Meets (fun v => h.Off S ∧ World.Leaves S w v) (World.updateGame h)
      (fun h v => h.Off S ∧ World.Leaves S w v) (World.Leaves S w) := by
  rintro v ⟨off, l⟩
  have shared := Games.Leaves.share off v.games
  rw [World.run_updateGame_eq]
  cases hupdate : (v.games.share h).update h with
  | error e => exact l.withGames shared
  | ok updated =>
    obtain ⟨stored, kept⟩ := Games.Leaves.update off hupdate
    exact ⟨kept, l.withGames (shared.trans stored)⟩

/-- An engine whose host does nothing plays a held game so. -/
theorem tends (engine : Engine) (S : Int → Prop) (w : World) :
    engine.idle.Tends (fun h v => h.Off S ∧ World.Leaves S w v) (World.Leaves S w) where
  fails _ _ kept := kept.2
  changed _ _ _ _ kept := ⟨kept.1.put rfl, kept.2⟩
  logged _ _ body kept := ⟨kept.1, kept.2.log kept.1.number body⟩
  consulted h v request kept := by
    have found : (v.games.share h).current h = h.value := Games.current_share v.games h
    refine ⟨kept.1.put (congrArg Game.id found), ?_⟩
    exact (kept.2.withGames (.share kept.1 v.games)).aside v.locks v.clock _
  updated := updateGame w

theorem move (id : Int) (place : Location) (p : Progress) :
    Meets (fun v => p.held.Off S ∧ World.Leaves S w v) (Engine.move id place p)
      (fun p v => p.held.Off S ∧ World.Leaves S w v) (World.Leaves S w) := by
  have ticks : Meets (fun v => p.held.Off S ∧ World.Leaves S w v) World.tick
      (fun _ v => p.held.Off S ∧ World.Leaves S w v) (World.Leaves S w) :=
    fun v kept => ⟨kept.1, kept.2.aside v.locks v.clock.tick.2 v.replies⟩
  refine .bind ticks fun time => .bind (Q := fun h v => h.Off S ∧ World.Leaves S w v) ?_ fun h =>
    .pure fun v kept => kept
  exact (updateGame w _).imp (fun v kept => ⟨kept.1.put rfl, kept.2⟩) (fun _ _ kept => kept)
    fun _ kept => kept

end World.Leaves

/-! ### Operations -/

namespace Engine

/-- How the start of a game goes until its game is added. -/
def enrol (engine : Engine) (adventure : Identifier) (language : Json) :
    Op (Held Adventure × Held Location × Held Game) := do
  let held ← World.adventure adventure
  let language ← engine.gameLanguage language
  let adventureId := held.value.idAt (← Op.number .adventure adventure)
  let (locationId, location) ← initialLocation adventureId
  let locationTimestamp ← World.tick
  let game ← addGame
    { adventure := adventureId, location := locationId, language, locationTimestamp,
      completed := location.value.final }
  return (held, location, game)

theorem startGame_eq (engine : Engine) (adventure : Identifier) (language : Json) :
    engine.startGame adventure language =
      engine.enrol adventure language >>= fun enrolled =>
        engine.holding (enrolled.2.2.value.id.getD 0)
          (engine.opening enrolled.1 enrolled.2.1 { held := enrolled.2.2 } >>= engine.transcribe) := by
  simp only [startGame, enrol, bind_assoc, pure_bind]

end Engine

/-- The numbers of the games that an action of players works on: the one that is asked for, the one
that the record found there goes by, and the one of a game that is added. -/
inductive Action.WorksOn (engine : Engine) (w : World) : Action → Int → Prop
  | asked {a : Action} {game : Identifier} {n : Int} (asks : a.game? = some game)
      (number : ((World.gameNumber game).run w).1 = .ok n) : WorksOn engine w a n
  | record {a : Action} {game : Identifier} {m n : Int} {g : Game} (asks : a.game? = some game)
      (number : ((World.gameNumber game).run w).1 = .ok m)
      (found : w.games.get? m = .ok (some g)) (goes : g.id = some n) : WorksOn engine w a n
  | added {adventure : Identifier} {language : Json}
      {enrolled : Held Adventure × Held Location × Held Game}
      (adds : ((engine.enrol adventure language).run w).1 = .ok enrolled) :
      WorksOn engine w (.startGame adventure language) w.games.ids.next

namespace World.Leaves

variable {engine : Engine} {game : Identifier}

theorem onGame {α : Type} {f : Int → Held Game → Op α}
    (off : ∀ m, ((World.gameNumber game).run w).1 = .ok m →
      ¬S m ∧ ∀ g k, w.games.get? m = .ok (some g) → g.id = some k → ¬S k)
    (inside : ∀ m held, ¬S m → Meets (fun v => held.Off S ∧ World.Leaves S w v) (f m held)
      (fun _ => World.Leaves S w) (World.Leaves S w)) :
    World.Leaves S w ((World.gameNumber game >>= fun m =>
      engine.holding m (World.heldGame game >>= f m)).run w).2 := by
  have still (u : World) (hu : u = w) : World.Leaves S w u := hu ▸ .refl S w
  refine Meets.after (I := (· = w)) (.read (.gameNumber _) still fun m => .holding (fun u hu =>
    still u hu.1) ?_) rfl
  rintro u locks ⟨rfl, hm⟩ -
  have number : ((World.gameNumber game).run u).1 = .ok m := by rw [hm]
  obtain ⟨outside, goes⟩ := off m number
  have locked : World.Leaves S u { u with locks } := (refl S u).aside locks u.clock u.replies
  rcases (ReadOnly.heldGame game).run_bind_cases (f m) { u with locks } with
    ⟨e, hrun⟩ | ⟨held, hheld, hrun⟩ <;> rw [hrun]
  · exact locked.aside _ _ _
  · obtain ⟨place, stored⟩ := Games.held?_eq_some (World.held?_of_locked number hheld)
    have heldOff : held.Off S := .of_heldAt (fun k => goes held.value k stored) place outside
    exact (inside m held outside _ ⟨heldOff, locked⟩).imp (fun _ v l => l.aside _ _ _)
      fun v l => l.aside _ _ _

/-- A new game gets the next number. Where none is added, no number of a game is worked on. -/
theorem enrol (engine : Engine) (w : World) (adventure : Identifier) (language : Json) :
    Meets (· = w) (engine.enrol adventure language)
      (fun enrolled v => ¬S w.games.ids.next → enrolled.2.2.Off S ∧ World.Leaves S w v)
      (World.Leaves S w) := by
  have still (u : World) (hu : u = w) : World.Leaves S w u := hu ▸ .refl S w
  refine .skip (.adventure _) still fun held => .skip (.gameLanguage _ _) still fun code =>
    .skip (.number _ _) still fun n => .skip (.initialLocation _) still fun initial => ?_
  have ticks : Meets (· = w) World.tick (fun _ v => v = { w with clock := w.clock.tick.2 })
      (World.Leaves S w) := by
    rintro u rfl
    rfl
  refine .bind ticks fun time => .bind (Q := fun h v => ¬S w.games.ids.next → h.Off S ∧ World.Leaves S w v) ?_ fun h =>
    .pure fun v kept => kept
  rintro _ rfl
  have ticked := (refl S w).aside w.locks w.clock.tick.2 w.replies
  unfold Engine.addGame
  rw [run_of]
  dsimp only
  rcases w.games.add_new _ with ⟨h, games, hadd, -, carried, -, puts, -⟩ | ⟨e, hadd⟩ <;> rw [hadd]
  · intro outside
    refine ⟨.of_heldAt (fun k hk => ?_) carried.place outside, ticked.withGames (.of_puts puts outside)⟩
    obtain rfl := Option.some.inj (carried.number.symm.trans hk)
    exact outside
  · exact ticked.withGames ⟨fun k _ => Games.get?_withIds _ _ k, fun k _ => Games.has_withIds _ _ k⟩

theorem startGame (adventure : Identifier) (language : Json)
    (off : ∀ enrolled, ((engine.enrol adventure language).run w).1 = .ok enrolled →
      ¬S w.games.ids.next) :
    World.Leaves S w ((engine.idle.startGame adventure language).run w).2 := by
  have enrols := enrol (S := S) engine.idle w adventure language w rfl
  have same : engine.idle.enrol adventure language = engine.enrol adventure language := rfl
  rw [Engine.startGame_eq, run_bind]
  rw [same] at enrols ⊢
  rcases hrun : (engine.enrol adventure language).run w with ⟨e | enrolled, v⟩ <;>
    rw [hrun] at enrols
  · exact enrols
  obtain ⟨heldOff, added⟩ := enrols (off enrolled (by rw [hrun]))
  refine Meets.after (I := (· = v)) (.holding (fun u hu => hu ▸ added) ?_) rfl
  rintro u locks rfl -
  have inside := Meets.bind
    ((tends engine S w).opening (p := { held := enrolled.2.2 }) enrolled.1 enrolled.2.1)
    (fun p => (tends engine S w).transcribe) { u with locks }
    ⟨heldOff, added.aside locks u.clock u.replies⟩
  exact inside.imp (fun _ v l => l.aside _ _ _) fun v l => l.aside _ _ _

end World.Leaves

/-- Whatever players do, and whatever comes of it, everything that authors write stays as it is, and so
does every game that is not worked on, with its log. -/
theorem Engine.rest_untouched {engine : Engine} (quiet : engine.Quiet) {a : Action}
    (players : a.ByPlayers) (w : World) :
    World.Leaves (fun k => ¬a.WorksOn engine w k) w (engine.after w a) := by
  have off {game : Identifier} (asks : a.game? = some game) (m : Int)
      (number : ((World.gameNumber game).run w).1 = .ok m) :
      ¬¬a.WorksOn engine w m ∧ ∀ g k, w.games.get? m = .ok (some g) → g.id = some k →
        ¬¬a.WorksOn engine w k :=
    ⟨not_not_intro (.asked asks number),
      fun g k found goes => not_not_intro (.record asks number found goes)⟩
  have tends := World.Leaves.tends engine (fun k => ¬a.WorksOn engine w k) w
  have looks (readOnly : ReadOnly (a.perform engine)) :
      World.Leaves (fun k => ¬a.WorksOn engine w k) w (engine.after w a) := by
    rw [Engine.after, readOnly w]
    exact .refl _ w
  -- Scripts ask nothing of the host, so the engine may as well have one that does nothing.
  have idle {α : Type} {op : Op α} {tell : α → Answer} (perform : a.perform engine.idle = tell <$> op)
      (leaves : World.Leaves (fun k => ¬a.WorksOn engine w k) w (op.run w).2) :
      World.Leaves (fun k => ¬a.WorksOn engine w k) w (engine.after w a) := by
    rw [Engine.after_of_perform ((quiet.perform_idle a).trans perform)]
    exact leaves
  cases a with
  | startGame adventure language =>
    exact idle rfl (.startGame adventure language fun _ adds => not_not_intro (.added adds))
  | takeRoute game route =>
    exact idle rfl (.onGame (off rfl) fun m held _ => tends.depart World.Leaves.move m route held)
  | executeScript game script =>
    refine idle rfl (.onGame (off rfl) fun m held _ => ?_)
    exact .bind (tends.executeStored script) fun _ => .pure fun _ kept => kept.2
  | endGame game =>
    refine idle rfl (.onGame (off rfl) fun m held outside => ?_)
    refine .skip (.finalHook _) (tends.fails held) fun hook =>
      .bind (tends.runHook (p := { held }) hook) fun p => .bind tends.transcribe fun _ =>
      .bind (Q := fun _ => World.Leaves _ w) (fun v kept => kept.drop outside) fun _ =>
      .pure fun _ kept => kept
  | recoverGame game =>
    refine idle rfl (.onGame (off rfl) fun m held _ => .ite (fun _ => ?_) fun _ =>
      .pure fun _ kept => kept.2)
    refine .bind (Q := fun _ => World.Leaves _ w) ?_ fun _ => .pure fun _ kept => kept
    exact (World.Leaves.updateGame w _).imp (fun v kept => ⟨kept.1.put rfl, kept.2⟩)
      (fun _ _ kept => kept.2) fun _ kept => kept
  | getGame _ | availableRoutes _ | contents _ _ _ | textAt _ _ | transcript _ =>
    exact looks (Action.Looks.readOnly trivial)
  | _ => exact players.elim

/-- Of two games that were started, the first one goes down the lane. -/
theorem Engine.rest_untouched_lane :
    let w := reciting.left (World.lane (.files {}))
      [.startGame (1 : Int) .null, .startGame (1 : Int) .null]
    let taken : Int → Prop := (Action.takeRoute (1 : Int) (1 : Int)).WorksOn reciting w
    let w' := reciting.after w (.takeRoute (1 : Int) (1 : Int))
    World.Leaves (fun k => ¬taken k) w w' ∧ ¬taken 2 ∧
      (w.games.get? 2).map Option.isSome = .ok true ∧ w'.games.get? 1 ≠ w.games.get? 1 := by
  intro w taken w'
  have first : (w.games.get? 1).map (Option.map (·.id)) = .ok (some (some 1)) := by decide +kernel
  have number {n : Int} (asked : ((World.gameNumber (1 : Int)).run w).1 = .ok n) : n = 1 := by
    rw [World.run_gameNumber_number] at asked
    exact (Except.ok.inj asked).symm
  have other : ¬taken 2 := by
    rintro (⟨asks, asked⟩ | ⟨asks, asked, found, goes⟩)
    · obtain rfl := Option.some.inj asks
      exact absurd (number asked) (by decide)
    · obtain rfl := Option.some.inj asks
      obtain rfl := number asked
      rw [found] at first
      have goes' := Option.some.inj (Except.ok.inj first)
      exact absurd (goes.symm.trans goes') (by decide)
  exact ⟨rest_untouched quiet_reciting (a := .takeRoute (1 : Int) (1 : Int)) trivial w, other,
    by decide +kernel, by decide +kernel⟩

/-- The lane, with two files of games, both of which go by the number 7. -/
def World.astray : World :=
  let game : Game := { adventure := 1, location := 1, language := "en", id := some 7 }
  let entry := Entry.file ((Payload.write game).toOption.getD [])
  World.lane (.files { directory := [(Folder.fileName 5, entry), (Folder.fileName 7, entry)], ids := ⟨8⟩ })

/-- The game that is asked for is 5, and the game that goes down the lane is 7. -/
theorem Engine.neighbour_touched_astray :
    ((World.gameNumber (5 : Int)).run World.astray).1 = .ok 5 ∧
      ¬∀ k, k ≠ 5 → (reciting.after World.astray (.takeRoute (5 : Int) (1 : Int))).games.get? k =
        World.astray.games.get? k := by
  refine ⟨by rw [World.run_gameNumber_number], fun untouched => ?_⟩
  have moved : (reciting.after World.astray (.takeRoute (5 : Int) (1 : Int))).games.get? 7 ≠
      World.astray.games.get? 7 := by decide +kernel
  exact moved (untouched 7 (by decide))

end TextAdventure
