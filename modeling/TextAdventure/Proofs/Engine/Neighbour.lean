import TextAdventure.Proofs.Authoring.Aside
import TextAdventure.Proofs.Engine.Operations
import TextAdventure.Proofs.Engine.Tends
import TextAdventure.Proofs.Store.Apart

/-! Games do not touch each other. While one game is played, any other one is left alone but for what
the host does, so what holds of a game and of what authors write is kept by playing its neighbours. -/

namespace TextAdventure

open Op

variable {engine : Engine} {m n : Int} {w w' w'' : World} {Y : World → Prop} {held : Held Game}

/-- From one world to another, game `n` and what authors write are left alone, and an operation that
holds the game still does. -/
structure World.Apart (n : Int) (w w' : World) : Prop where
  games : Games.Apart n w.games w'.games
  entries : w'.journal.entries n = w.journal.entries n
  held : (n, .operation) ∈ w.locks.held → (n, .operation) ∈ w'.locks.held
  story : w'.story = w.story

namespace World.Apart

theorem chains (n : Int) : Chains (World.Apart n) where
  refl _ := ⟨.refl n _, rfl, id, rfl⟩
  trans a a' := ⟨a.games.trans a'.games, a'.entries.trans a.entries, fun h => a'.held (a.held h),
    a'.story.trans a.story⟩

theorem of_games {games : Games} (a : Games.Apart n w.games games) :
    World.Apart n w { w with games } := ⟨a, rfl, id, rfl⟩

theorem clock (n : Int) (w : World) (clock : Clock) : World.Apart n w { w with clock } :=
  ⟨.refl n _, rfl, id, rfl⟩

theorem log {g : Game} (other : g.id ≠ some n) (body : Body) :
    Follows (World.Apart n) (World.log g body) := by
  intro w
  cases number : g.id with
  | none =>
    rw [World.run_log_none number]
    exact (chains n).refl w
  | some m =>
    rw [World.run_log_some number]
    have ne : n ≠ m := fun same => other (by rw [number, same])
    exact ⟨.refl n _, Journal.entries_appended_of_ne ne _ _, id, rfl⟩

theorem append {g : Game} (other : g.id ≠ some n) (copyKey text : Option Text) :
    Follows (World.Apart n) (Engine.append g copyKey text) :=
  Follows.append (chains n) (log other) copyKey text

theorem clear (ne : n ≠ m) (w : World) :
    World.Apart n w { w with journal := w.journal.clear m } :=
  ⟨.refl n _, Journal.entries_clear_of_ne ne _, id, rfl⟩

theorem addGame (claim : Claim) (other : claim ≠ .number n) (ne : n ≠ w.games.ids.next) (g : Game) :
    World.Apart n w { w with games := (w.games.add claim g).2 } := by
  refine of_games ?_
  cases hassign : w.games.ids.assign claim with
  | error e =>
    rw [Games.add_refused hassign]
    exact .refl n _
  | ok assigned =>
    obtain ⟨m, ids⟩ := assigned
    refine .add hassign ?_ g
    cases claim with
    | unset =>
      obtain ⟨rfl, -⟩ := Prod.mk.inj (Except.ok.inj hassign)
      exact ne
    | number k =>
      obtain ⟨rfl, -⟩ := Prod.mk.inj (Except.ok.inj hassign)
      exact fun same => other (by rw [same])
    | malformed => exact nomatch hassign

theorem drop (ne : n ≠ m) (w : World) : World.Apart n w (Authoring.dropGame w m) :=
  ⟨.remove ne _, Journal.entries_clear_of_ne ne _, id, rfl⟩

/-- A game is taken hold of, which must not be held yet. -/
theorem lock {timeout : Float} {locks : Locks} {holder : Holder}
    (hold : w.locks.hold timeout m holder = .ok locks) :
    World.Apart n w { w with locks } := by
  unfold Locks.hold at hold
  split at hold
  · exact nomatch hold
  split at hold
  · exact nomatch hold
  obtain rfl := Except.ok.inj hold
  exact ⟨.refl n _, rfl, fun h => List.mem_append_left _ h, rfl⟩

theorem unlock (ne : n ≠ m) (w : World) :
    World.Apart n w { w with locks := w.locks.release m } := by
  refine ⟨.refl n _, rfl, fun h => ?_, rfl⟩
  exact (List.mem_erase_of_ne fun same => ne (Prod.mk.inj same).1).2 h

theorem update (ne : n ≠ m) (c : Carried m held) (w : World) :
    World.Apart n w ((World.updateGame held).run w).2 ∧
      ∀ h, ((World.updateGame held).run w).1 = .ok h → Carried m h := by
  have shared := Games.Apart.share ne c w.games
  rw [World.run_updateGame_eq]
  cases hupdate : (w.games.share held).update held with
  | error e => exact ⟨.of_games shared, nofun⟩
  | ok updated =>
    obtain ⟨h, games⟩ := updated
    obtain ⟨stored, carried⟩ := Games.Apart.update ne c hupdate
    refine ⟨.of_games (shared.trans stored), fun a ha => ?_⟩
    obtain rfl : h = a := Except.ok.inj ha
    exact carried

end World.Apart

/-- What is held under a lock is the game of the number that was asked for before. -/
theorem Games.Own.heldGame {game : Identifier} {locks : Locks} (own : w.games.Own)
    (number : ((World.gameNumber game).run w).1 = .ok m)
    (hrun : (World.heldGame game).run { w with locks } = (.ok held, w')) :
    Carried m held ∧ w.games.held? m = .ok (some held) := by
  have found := World.held?_of_locked number hrun
  exact ⟨own.held? found, found⟩

/-- An operation on a game that is asked for: it is refused, or the game is held while it is played. -/
theorem Op.Meets.onGame {α : Type} {game : Identifier} {I E : World → Prop}
    {Q : α → World → Prop} {f : Int → Held Game → Op α} (own : ∀ w, I w → w.games.Own)
    (refused : ∀ w, I w → E w)
    (missing : ∀ w m locks, I w → ((World.gameNumber game).run w).1 = .ok m →
      w.locks.hold engine.settings.busyTimeout m = .ok locks → E { w with locks := locks.release m })
    (inside : ∀ w m locks held, I w → ((World.gameNumber game).run w).1 = .ok m →
      w.locks.hold engine.settings.busyTimeout m = .ok locks → Carried m held →
      w.games.held? m = .ok (some held) →
      Comes (fun a v => Q a { v with locks := v.locks.release m })
        (fun v => E { v with locks := v.locks.release m }) ((f m held).run { w with locks })) :
    Meets I (World.gameNumber game >>= fun m => engine.holding m (World.heldGame game >>= f m))
      Q E := by
  refine .read (.gameNumber _) refused fun m => .holding (fun w h => refused w h.1) ?_
  rintro w locks ⟨hw, hm⟩ hlocks
  have number : ((World.gameNumber game).run w).1 = .ok m := by rw [hm]
  rcases (ReadOnly.heldGame game).run_bind_cases (f m) { w with locks } with
    ⟨e, hrun⟩ | ⟨held, hheld, hrun⟩ <;> rw [hrun]
  · exact missing w m locks hw number hlocks
  · obtain ⟨carried, found⟩ := (own w hw).heldGame number hheld
    exact inside w m locks held hw number hlocks carried found

/-- `Y` holds on while game `n` is left alone, and whatever the host does. -/
structure Engine.Spares (engine : Engine) (n : Int) (Y : World → Prop) : Prop where
  own : ∀ w, Y w → w.games.Own
  apart : ∀ w w', World.Apart n w w' → Y w → Y w'
  host : ∀ request w, Y w →
    Y { (engine.host request w).2 with
      replies := (engine.host request w).2.replies ++ [(engine.host request w).1] }

namespace Engine.Spares

variable (spares : engine.Spares n Y)
include spares

theorem tends (ne : n ≠ m) : engine.Tends (fun h w => Carried m h ∧ Y w) Y where
  fails _ _ h := h.2
  changed _ _ _ _ h := ⟨h.1.put h.1.number, h.2⟩
  logged _ w body h := by
    refine ⟨h.1, spares.apart _ _ (.log (fun same => ne ?_) body w) h.2⟩
    exact (Option.some.inj (h.1.number.symm.trans same)).symm
  consulted h w request := by
    rintro ⟨carried, hw⟩
    have met := spares.apart _ _ (.of_games (.share ne carried w.games)) hw
    have left := spares.host request _ met
    exact ⟨carried.put ((spares.own _ left).current carried), left⟩
  updated h := by
    rintro w ⟨carried, hw⟩
    obtain ⟨apart, stored⟩ := World.Apart.update ne carried w
    rcases hrun : (World.updateGame h).run w with ⟨e | h', w'⟩ <;> rw [hrun] at apart stored
    · exact spares.apart _ _ apart hw
    · exact ⟨stored h' rfl, spares.apart _ _ apart hw⟩

theorem move (ne : n ≠ m) (id : Int) (place : Location) (p : Progress) :
    Meets (fun w => Carried m p.held ∧ Y w) (Engine.move id place p)
      (fun p w => Carried m p.held ∧ Y w) Y := by
  have ticks : Meets (fun w => Carried m p.held ∧ Y w) World.tick
      (fun _ w => Carried m p.held ∧ Y w) Y :=
    fun w h => ⟨h.1, spares.apart _ _ (.clock n w _) h.2⟩
  refine .bind ticks fun time => .bind (Q := fun h w => Carried m h ∧ Y w) ?_ fun h =>
    .pure fun w h => h
  exact ((spares.tends ne).updated _).imp (fun w h => ⟨h.1.put h.1.number, h.2⟩) (fun _ _ h => h)
    fun _ h => h

/-! ### Operations -/

/-- An operation on a game that is asked for, when this is not game `n`. -/
theorem onGame {α : Type} {game : Identifier} {f : Int → Held Game → Op α}
    (hf : ∀ m, n ≠ m → ∀ held,
      Meets (fun w => Carried m held ∧ Y w) (f m held) (fun _ => Y) Y) :
    Meets (fun w => Y w ∧ ∀ m, ((World.gameNumber game).run w).1 = .ok m → n ≠ m)
      (World.gameNumber game >>= fun m => engine.holding m (World.heldGame game >>= f m))
      (fun _ => Y) Y := by
  refine .onGame (fun w h => spares.own w h.1) (fun _ h => h.1) (fun w m locks h number hlocks => ?_)
    fun w m locks held h number hlocks carried found => ?_
  all_goals
    have ne := h.2 m number
    have locked := spares.apart _ _ (.lock hlocks) h.1
  · exact spares.apart _ _ (.unlock ne _) locked
  · exact (hf m ne held _ ⟨carried, locked⟩).imp
      (fun _ v hv => spares.apart _ _ (.unlock ne v) hv) fun v hv => spares.apart _ _ (.unlock ne v) hv

variable (game : Identifier)

theorem takeRoute (route : Identifier) :
    Meets (fun w => Y w ∧ ∀ m, ((World.gameNumber game).run w).1 = .ok m → n ≠ m)
      (engine.takeRoute game route) (fun _ => Y) Y :=
  spares.onGame fun m ne held => (spares.tends ne).depart (spares.move ne) m route held

theorem executeScript (script : Identifier) :
    Meets (fun w => Y w ∧ ∀ m, ((World.gameNumber game).run w).1 = .ok m → n ≠ m)
      (engine.executeScript game script) (fun _ => Y) Y :=
  spares.onGame fun _ ne _ =>
    .bind ((spares.tends ne).executeStored script) fun _ => .pure fun _ h => h.2

theorem endGame :
    Meets (fun w => Y w ∧ ∀ m, ((World.gameNumber game).run w).1 = .ok m → n ≠ m)
      (engine.endGame game) (fun _ => Y) Y := by
  refine spares.onGame fun m ne held => ?_
  have tends := spares.tends ne
  refine .skip (.finalHook _) (tends.fails held) fun hook =>
    .bind (tends.runHook (p := { held }) hook) fun p => .bind tends.transcribe fun _ =>
    .bind (Q := fun _ => Y) ?_ fun _ => .pure fun _ h => h
  exact fun w hw => spares.apart _ _ (.drop ne w) hw

theorem recoverGame :
    Meets (fun w => Y w ∧ ∀ m, ((World.gameNumber game).run w).1 = .ok m → n ≠ m)
      (engine.recoverGame game) (fun _ => Y) Y := by
  refine spares.onGame fun m ne held => .ite (fun _ => ?_) fun _ => .pure fun _ h => h.2
  refine .bind (Q := fun _ => Y) ?_ fun _ => .pure fun _ h => h
  exact ((spares.tends ne).updated _).imp (fun w h => ⟨h.1.put h.1.number, h.2⟩)
    (fun _ _ h => h.2) fun _ h => h

/-- Starting a game, when this is not game `n`. -/
theorem startGame (adventure : Identifier) (language : Json) :
    Meets (fun w => Y w ∧ n ≠ w.games.ids.next) (engine.startGame adventure language)
      (fun _ => Y) Y := by
  rintro w ⟨hw, ne⟩
  rcases startGame_cases engine adventure language w with
    ⟨e, hrun⟩ | ⟨_, held, _, i, place, -, -, -, -, hrun⟩ <;> rw [hrun]
  · exact hw
  -- The game that is added takes the next number, so it is not game `n`.
  have adds (g : Game) : Meets (fun w => Y w ∧ n ≠ w.games.ids.next) (Engine.addGame g)
      (fun h w => ∃ m, n ≠ m ∧ Carried m h ∧ Y w) Y := by
    rintro w ⟨hw, ne⟩
    have added := spares.apart _ _ (.addGame .unset nofun ne g) hw
    unfold Engine.addGame
    rw [run_of]
    rcases w.games.add_new g with ⟨h, games, hadd, -, carried, -⟩ | ⟨e, hadd⟩ <;>
      rw [hadd] at added ⊢
    · exact ⟨_, ne, carried, added⟩
    · exact added
  refine Meets.bind (adds _) (fun added => ?_) _ ⟨spares.apart _ _ (.clock n w _) hw, ne⟩
  rintro v ⟨m, ne, carried, hv⟩
  have number : added.value.id.getD 0 = m := by rw [carried.number]; rfl
  rw [number]
  refine Meets.holding (I := Y) (fun _ h => h) (fun u locks hu hlocks => ?_) v hv
  have tends := spares.tends ne
  have inside := Meets.bind
    (tends.opening (p := { held := added }) held (w.locations.hold i place))
    (fun p => tends.transcribe) { u with locks } ⟨carried, spares.apart _ _ (.lock hlocks) hu⟩
  exact inside.imp (fun _ v hv => spares.apart _ _ (.unlock ne v) hv)
    fun v hv => spares.apart _ _ (.unlock ne v) hv

end Engine.Spares

end TextAdventure
