import TextAdventure.Proofs.Engine.Execution

/-! What goes on while a game is played. `Meets` tells what holds behind an operation, whether it
succeeds or fails. What the log, the host and the store keep of a held game and of the world around
it is kept by everything that is done to play the game, whatever its scripts do. -/

namespace TextAdventure

namespace Op

variable {α β : Type} {I I' : World → Prop} {Q Q' : α → World → Prop} {R : β → World → Prop}
  {E E' : World → Prop}

/-- What an operation comes to: either it succeeds, and `Q` holds of its result and of the world
behind it, or it fails, and `E` holds of that world. -/
def Comes (Q : α → World → Prop) (E : World → Prop) : Except Error α × World → Prop
  | (.ok a, w) => Q a w
  | (.error _, w) => E w

theorem Comes.imp {r : Except Error α × World} (h : Comes Q E r) (ok : ∀ a w, Q a w → Q' a w)
    (error : ∀ w, E w → E' w) : Comes Q' E' r := by
  rcases r with ⟨_ | a, w⟩
  · exact error w h
  · exact ok a w h

theorem Comes.and {r : Except Error α × World} (h : Comes Q E r) (h' : Comes Q' E r) :
    Comes (fun a w => Q a w ∧ Q' a w) E r := by
  rcases r with ⟨_ | a, w⟩
  · exact h
  · exact ⟨h, h'⟩

/-- What the operation comes to wherever `I` holds. -/
def Meets (I : World → Prop) (op : Op α) (Q : α → World → Prop) (E : World → Prop) : Prop :=
  ∀ w, I w → Comes Q E (op.run w)

namespace Meets

theorem imp {op : Op α} (h : Meets I op Q E) (before : ∀ w, I' w → I w)
    (ok : ∀ a w, Q a w → Q' a w) (error : ∀ w, E w → E' w) : Meets I' op Q' E' :=
  fun w hw => (h w (before w hw)).imp ok error

/-- What holds behind an operation, whatever comes of it. -/
theorem after {op : Op α} {w : World} (h : Meets I op (fun _ => E) E) (hw : I w) :
    E (op.run w).2 := by
  have comes := h w hw
  rcases hrun : op.run w with ⟨_ | a, w'⟩ <;> rw [hrun] at comes <;> exact comes

theorem pure {a : α} (h : ∀ w, I w → Q a w) : Meets I (Pure.pure a) Q E := h

theorem throw {e : Error} (h : ∀ w, I w → E w) : Meets I (MonadExcept.throw e : Op α) Q E := h

theorem bind {x : Op α} {f : α → Op β} (hx : Meets I x Q E) (hf : ∀ a, Meets (Q a) (f a) R E) :
    Meets I (x >>= f) R E := by
  intro w hw
  have comes := hx w hw
  rcases hrun : x.run w with ⟨e | a, w'⟩ <;> rw [hrun] at comes
  · rw [run_bind_error hrun]
    exact comes
  · rw [run_bind_ok hrun]
    exact hf a w' comes

theorem ite {c : Prop} [Decidable c] {x y : Op α} (hx : c → Meets I x Q E)
    (hy : ¬c → Meets I y Q E) : Meets I (if c then x else y) Q E := by
  split
  · exact hx ‹_›
  · exact hy ‹_›

/-- What is read is as it is in the world that the reader meets. -/
theorem read {x : Op α} {f : α → Op β} (readOnly : ReadOnly x) (fails : ∀ w, I w → E w)
    (hf : ∀ a, Meets (fun w => I w ∧ x.run w = (.ok a, w)) (f a) R E) :
    Meets I (x >>= f) R E := by
  intro w hw
  rcases readOnly.run_bind_cases f w with ⟨e, hrun⟩ | ⟨a, hx, hrun⟩ <;> rw [hrun]
  · exact fails w hw
  · exact hf a w ⟨hw, hx⟩

/-- What is read does not matter. -/
theorem skip {x : Op α} {f : α → Op β} (readOnly : ReadOnly x) (fails : ∀ w, I w → E w)
    (hf : ∀ a, Meets I (f a) R E) : Meets I (x >>= f) R E :=
  read readOnly fails fun a => (hf a).imp (fun _ h => h.1) (fun _ _ h => h) fun _ h => h

end Meets

end Op

open Op

theorem World.holding_ok {α : Type} {timeout : Float} {game : Int} {op : Op α} {a : α} {w w' : World}
    (hrun : (World.holding timeout game op).run w = (.ok a, w')) :
    ∃ locks u, w.locks.hold timeout game = .ok locks ∧ op.run { w with locks } = (.ok a, u) ∧
      w' = { u with locks := u.locks.release game } := by
  rw [holding_eq] at hrun
  cases hlocks : w.locks.hold timeout game with
  | error e =>
    rw [hlocks] at hrun
    exact nomatch (Prod.mk.inj hrun).1
  | ok locks =>
    rw [hlocks] at hrun
    obtain ⟨answer, rfl⟩ := Prod.mk.inj hrun
    exact ⟨locks, _, rfl, Prod.ext answer rfl, rfl⟩

/-- An operation that holds a game comes to what it comes to when the game is let go again. -/
theorem Op.Meets.holding {α : Type} {I : World → Prop} {Q : α → World → Prop} {E : World → Prop}
    {timeout : Float} {game : Int} {op : Op α} (refused : ∀ w, I w → E w)
    (inside : ∀ w locks, I w → w.locks.hold timeout game = .ok locks →
      Comes (fun a v => Q a { v with locks := v.locks.release game })
        (fun v => E { v with locks := v.locks.release game }) (op.run { w with locks })) :
    Meets I (World.holding timeout game op) Q E := by
  intro w hw
  rw [World.holding_eq]
  cases hlocks : w.locks.hold timeout game with
  | error e => exact refused w hw
  | ok locks =>
    have comes := inside w locks hw hlocks
    dsimp only
    generalize op.run { w with locks } = outcome at comes
    rcases outcome with ⟨e | a, v⟩ <;> exact comes

namespace Engine

/-- How a game opens, up to the termination hook. -/
def greeting (engine : Engine) (adventure : Held Adventure) (location : Held Location)
    (p : Progress) : Op Progress := do
  let p ← engine.runHook adventure.value.initializationScript p
  let p ← showCopy (← World.adventureNow adventure).initialCopyKey p
  let place ← World.locationNow location
  let p ← showCopy place.copyKey p
  engine.runHook place.enterScript p

theorem opening_eq (engine : Engine) (adventure : Held Adventure) (location : Held Location)
    (p : Progress) : engine.opening adventure location p =
      engine.greeting adventure location p >>= fun p => do
        if (← World.locationNow location).final then
          engine.runHook (← World.adventureNow adventure).terminationScript p
        else return p := by
  simp only [opening, greeting, bind_assoc]

/-- The way from one location to another, up to the termination hook. -/
def approach (engine : Engine) (route : Route) (origin destination : Held Location) (p : Progress) :
    Op Progress := do
  let p ← showCopy route.takenCopyKey p
  let p ← engine.runHook route.takenScript p
  let p ← engine.runHook (← World.locationNow origin).exitScript p
  let place ← World.locationNow destination
  let p ← move route.destination place p
  let p ← showCopy place.copyKey p
  engine.runHook place.enterScript p

theorem travel_eq (engine : Engine) (route : Route) (origin destination : Held Location)
    (p : Progress) : engine.travel route origin destination p =
      engine.approach route origin destination p >>= fun p => do
        if (← World.locationNow destination).final then engine.terminate p else return p := by
  simp only [travel, approach, bind_assoc]

end Engine

/-- `I` tells of a held game and of the world around it. What is done to play the game keeps `I`, the
answers of the host included, and `E` holds wherever playing fails. -/
structure Engine.Tends (engine : Engine) (I : Held Game → World → Prop) (E : World → Prop) :
    Prop where
  fails : ∀ h w, I h w → E w
  changed : ∀ h w state needsRecovery, I h w →
    I { h with value := { h.value with state, needsRecovery } } w
  logged : ∀ h w body, I h w → I h ((World.log h.value body).run w).2
  consulted : ∀ h w request, I h w →
    let met := { w with games := w.games.share h }
    let reply := (engine.host request met).1
    let left := (engine.host request met).2
    I { h with value := left.games.current h } { left with replies := left.replies ++ [reply] }
  updated : ∀ h, Meets (I h) (World.updateGame h) I E

namespace Engine.Tends

variable {engine : Engine} {I J : Held Game → World → Prop} {E : World → Prop}

theorem weaken {E' : World → Prop} (tends : engine.Tends I E) (le : ∀ w, E w → E' w) :
    engine.Tends I E' :=
  ⟨fun h w i => le w (tends.fails h w i), tends.changed, tends.logged, tends.consulted,
    fun h => (tends.updated h).imp (fun _ i => i) (fun _ _ i => i) le⟩

section Playing

variable (tends : engine.Tends I E) {held : Held Game} {p : Progress}
include tends

theorem displayed (body : Body) {s : Stage World} (h : I { held with value := s.game } s.around) :
    I { held with value := (s.display engine.place body).2.game }
      (s.display engine.place body).2.around := by
  have logged := tends.logged _ _ body h
  have hplace : engine.place.log s.game body s.around = (World.log s.game body).run s.around := rfl
  unfold Stage.display
  rw [hplace]
  rcases hrun : (World.log s.game body).run s.around with ⟨e | entry, after⟩ <;>
    rw [hrun] at logged <;> exact logged

theorem stateSet (key value : Json) {s : Stage World}
    (h : I { held with value := s.game } s.around) :
    I { held with value := (s.setState key value).2.game } (s.setState key value).2.around := by
  unfold Stage.setState
  split
  · exact h
  · split
    · exact tends.changed _ _ _ s.game.needsRecovery h
    · split
      · exact tends.changed _ _ _ s.game.needsRecovery h
      · exact h
  · exact h

theorem answered (request : Request) {s : Stage World}
    (h : I { held with value := s.game } s.around) :
    I { held with value := (s.answer engine.place request).2.game }
      (s.answer engine.place request).2.around := by
  cases request with
  | emit text =>
    cases text with
    | text t => exact tends.displayed (.literal t) h
    | _ => exact h
  | emitCopy key =>
    cases key with
    | text k =>
      simp only [Stage.answer, Stage.emitCopy]
      split
      · exact h
      · exact tends.displayed (.copy k.strip) h
    | _ => exact h
  | setState key value => exact tends.stateSet key value h
  | replaceState values => exact tends.changed _ _ _ s.game.needsRecovery h
  | getState _ => exact h
  | lookUp _ => exact h
  | bearings => exact h

/-- Whatever a script does, and whatever it asks of the host. -/
theorem ran (play : Play Ending) {s : Stage World} (h : I { held with value := s.game } s.around) :
    I { held with value := (play.run engine.place (engine.consult held) s).2.game }
      (play.run engine.place (engine.consult held) s).2.around := by
  induction play generalizing s with
  | done value => exact h
  | ask request next ih => exact ih _ (tends.answered request h)
  | call request next ih => exact ih _ (tends.consulted _ _ request h)

theorem storeAgain : Meets (I held) (Engine.storeAgain held) I E :=
  .ite (fun _ => tends.updated held) fun _ => .pure fun _ h => h

theorem report (id : Int) (included : Rows Script) (emitted : List Content) (ending : Ending) :
    Meets (I held) (engine.report id included emitted held ending) (fun r w => I r.2 w) E := by
  unfold Engine.report
  split
  · exact .throw (tends.fails held)
  · exact .throw (tends.fails held)
  · exact .throw (tends.fails held)
  · exact .skip (.texts _ _ _) (tends.fails held) fun _ => .pure fun _ h => h

theorem play (id : Int) (script : Script) (runtime : Runtime) :
    Meets (I held) (engine.play held id script runtime) (fun r w => I r.2 w) E := by
  intro w hw
  rw [run_play]
  have ran : I { held with value := (engine.outcome held id script runtime w).2.game }
      (engine.outcome held id script runtime w).2.around :=
    tends.ran _ (s := { game := held.value, around := w }) hw
  generalize engine.outcome held id script runtime w = outcome at ran
  obtain ⟨ending, s⟩ := outcome
  have ended : I { held with value := afterwards s.game ending } s.around := by
    unfold afterwards
    split
    · exact tends.changed _ _ s.game.state _ ran
    · exact ran
  exact Meets.bind tends.storeAgain (fun _ => tends.report _ _ _ _) _ ended

theorem execute (id : Option Int) (script : Script) :
    Meets (I held) (engine.execute held id script) (fun r w => I r.2 w) E := by
  cases id with
  | none =>
    rw [execute_none]
    exact .ite (fun _ => .throw (tends.fails held)) fun _ => .throw (tends.fails held)
  | some id =>
    rw [execute_some]
    refine .ite (fun _ => .throw (tends.fails held)) fun _ =>
      .ite (fun _ => .throw (tends.fails held)) fun _ => ?_
    exact .skip (.runtimeFor _ _ _) (tends.fails held) fun _ => tends.play _ _ _

theorem executeStored (script : Identifier) :
    Meets (I held) (engine.executeStored held script) (fun r w => I r.2 w) E :=
  .skip (.script _) (tends.fails held) fun _ =>
    .skip (.number _ _) (tends.fails held) fun _ => tends.execute _ _

theorem runHook (script : Option Int) :
    Meets (I p.held) (engine.runHook script p) (fun p w => I p.held w) E := by
  cases script with
  | none => exact .pure fun _ h => h
  | some script => exact .bind (tends.executeStored _) fun _ => .pure fun _ h => h

theorem showCopy (key : Option Text) :
    Meets (I p.held) (Engine.showCopy key p) (fun p w => I p.held w) E := by
  cases key with
  | none => exact .pure fun _ h => h
  | some key =>
    have logs : Meets (I p.held) (World.log p.held.value (.copy key)) (fun _ => I p.held) E := by
      intro w hw
      have logged := tends.logged _ _ (.copy key) hw
      rcases hrun : (World.log p.held.value (.copy key)).run w with ⟨e | entry, w'⟩ <;>
        rw [hrun] at logged
      · exact tends.fails _ _ logged
      · exact logged
    exact .bind logs fun _ => .pure fun _ h => h

theorem terminate :
    Meets (I p.held) (engine.terminate p) (fun p w => I p.held w) E := by
  refine .skip .get (tends.fails _) fun w => ?_
  split
  · exact .pure fun _ h => h
  · exact tends.runHook _

theorem transcribe : Meets (I p.held) (engine.transcribe p) (fun _ => E) E :=
  .skip (.texts _ _ _) (tends.fails _) fun _ => .pure (tends.fails _)

theorem greeting (adventure : Held Adventure) (location : Held Location) :
    Meets (I p.held) (engine.greeting adventure location p) (fun p w => I p.held w) E :=
  .bind (tends.runHook _) fun _ => .skip (.adventureNow _) (tends.fails _) fun _ =>
    .bind (tends.showCopy _) fun _ => .skip (.locationNow _) (tends.fails _) fun _ =>
    .bind (tends.showCopy _) fun _ => tends.runHook _

theorem opening (adventure : Held Adventure) (location : Held Location) :
    Meets (I p.held) (engine.opening adventure location p) (fun p w => I p.held w) E := by
  rw [opening_eq]
  refine .bind (tends.greeting _ _) fun _ => .skip (.locationNow _) (tends.fails _) fun _ =>
    .ite (fun _ => ?_) fun _ => .pure fun _ h => h
  exact .skip (.adventureNow _) (tends.fails _) fun _ => tends.runHook _

end Playing

section Travelling

variable (leaves : engine.Tends I E) (arrives : engine.Tends J E) {route : Route}
  {origin destination : Held Location} {p : Progress}
  (moves : ∀ p place, Meets (fun w => I p.held w ∧ w.locations.current destination = place)
    (Engine.move route.destination place p) (fun p w => J p.held w) E)
include leaves arrives moves

/-- A game on its way: `I` holds until it moves, and `J` from then on. -/
theorem approach :
    Meets (I p.held) (engine.approach route origin destination p) (fun p w => J p.held w) E := by
  refine .bind (leaves.showCopy _) fun _ => .bind (leaves.runHook _) fun _ =>
    .skip (.locationNow _) (leaves.fails _) fun _ => .bind (leaves.runHook _) fun p => ?_
  refine .read (.locationNow _) (leaves.fails _) fun place => ?_
  refine .bind ((moves p place).imp (fun w h => ⟨h.1, ?_⟩) (fun _ _ h => h) fun _ h => h) fun _ =>
    .bind (arrives.showCopy _) fun _ => arrives.runHook _
  exact Except.ok.inj (Prod.mk.inj h.2).1

theorem travel :
    Meets (I p.held) (engine.travel route origin destination p) (fun p w => J p.held w) E := by
  rw [travel_eq]
  exact .bind (leaves.approach arrives moves) fun _ => .skip (.locationNow _) (arrives.fails _)
    fun _ => .ite (fun _ => arrives.terminate) fun _ => .pure fun _ h => h

end Travelling

/-- A game that may go along any route. -/
theorem depart (tends : engine.Tends I E)
    (moves : ∀ id place p, Meets (I p.held) (Engine.move id place p) (fun p w => I p.held w) E)
    (id : Int) (route : Identifier) (held : Held Game) :
    Meets (I held) (engine.depart id route held) (fun _ => E) E := by
  refine .ite (fun _ => .throw (tends.fails held)) fun _ =>
    .skip (.route _) (tends.fails held) fun way => .ite (fun _ => ?_) fun _ =>
    .skip (.location _) (tends.fails held) fun origin =>
    .skip (.location _) (tends.fails held) fun destination => ?_
  · exact .skip (.number _ _) (tends.fails held) fun _ => .throw (tends.fails held)
  refine .bind (tends.travel (p := { held }) tends fun p place => ?_) fun p => tends.transcribe
  exact (moves way.destination place p).imp (fun _ h => h.1) (fun _ _ h => h) fun _ h => h

end Engine.Tends

end TextAdventure
