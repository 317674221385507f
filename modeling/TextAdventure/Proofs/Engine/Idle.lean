import TextAdventure.Proofs.Engine.Effect
import TextAdventure.Proofs.Engine.Playing

/-! An engine whose scripts leave the host alone. What its host would do makes no difference, so its
operations may be looked at as if the host did nothing. In particular they let go of every game that
they take hold of, and an operation on one game leaves all other ones alone. -/

namespace TextAdventure

open Op

/-- The host plays no part in a script that leaves it alone. -/
theorem Play.run_host {σ α : Type} {play : Play α} (quiet : play.Quiet) (place : Place σ)
    (host host' : Json → Stage σ → Json × Stage σ) (s : Stage σ) :
    play.run place host s = play.run place host' s := by
  induction play generalizing s with
  | done value => rfl
  | ask request next ih => exact ih _ (quiet _) _
  | call request next ih => exact quiet.elim

theorem Op.ext {α : Type} {x y : Op α} (h : ∀ w, x.run w = y.run w) : x = y := funext h

/-- What follows an operation matters only for what the operation can give. -/
theorem Op.bind_congr_run {α β : Type} {x : Op α} {f g : α → Op β}
    (h : ∀ a w w', x.run w = (.ok a, w') → f a = g a) : x >>= f = x >>= g := by
  refine Op.ext fun w => ?_
  rw [run_bind, run_bind]
  rcases hrun : x.run w with ⟨e | a, w'⟩
  · rfl
  · dsimp only
    rw [h a w w' hrun]

namespace Engine

/-- The engine with a host that does nothing. -/
def idle (engine : Engine) : Engine := { engine with host := fun _ w => (.null, w) }

namespace Quiet

variable {engine : Engine} (quiet : engine.Quiet)
include quiet

theorem play_idle {runtime : Runtime} (hruntime : engine.runtime = some runtime) (held : Held Game)
    (id : Int) (script : Script) :
    engine.play held id script runtime = engine.idle.play held id script runtime := by
  refine Op.ext fun w => ?_
  have outcome : engine.outcome held id script runtime w =
      engine.idle.outcome held id script runtime w :=
    Play.run_host (quiet runtime hruntime _) _ _ _ _
  rw [run_play, run_play, outcome]
  rfl

theorem executeStored_idle (held : Held Game) (id : Identifier) :
    engine.executeStored held id = engine.idle.executeStored held id := by
  refine bind_congr fun script => bind_congr fun n => ?_
  rw [execute_some, execute_some]
  have plays : engine.runtimeFor (script.idAt n) script.type >>=
      engine.play held (script.idAt n) script =
      engine.runtimeFor (script.idAt n) script.type >>=
        engine.idle.play held (script.idAt n) script :=
    bind_congr_run fun runtime w w' hrun => quiet.play_idle (runtime_of_runtimeFor hrun) _ _ _
  rw [plays]
  rfl

theorem runHook_idle : engine.runHook = engine.idle.runHook := by
  funext script p
  cases script with
  | none => rfl
  | some script => simp only [runHook, quiet.executeStored_idle]

theorem terminate_idle : engine.terminate = engine.idle.terminate := by
  unfold terminate
  rw [quiet.runHook_idle]

theorem travel_idle : engine.travel = engine.idle.travel := by
  unfold travel
  rw [quiet.runHook_idle, quiet.terminate_idle]

theorem opening_idle : engine.opening = engine.idle.opening := by
  unfold opening
  rw [quiet.runHook_idle]

theorem perform_idle (a : Action) : a.perform engine = a.perform engine.idle := by
  have holding {α : Type} (n : Int) (op : Op α) : engine.idle.holding n op = engine.holding n op := rfl
  have transcribe : engine.idle.transcribe = engine.transcribe := rfl
  cases a with
  | startGame adventure language =>
    have language : engine.idle.gameLanguage language = engine.gameLanguage language := rfl
    simp only [Action.perform, startGame, quiet.opening_idle, holding, transcribe, language]
  | takeRoute game route =>
    simp only [Action.perform, takeRoute, depart, quiet.travel_idle, holding, transcribe]
  | executeScript game script =>
    simp only [Action.perform, executeScript, quiet.executeStored_idle, holding]
  | endGame game =>
    simp only [Action.perform, endGame, quiet.runHook_idle, holding, transcribe]
  | _ => rfl

end Quiet

end Engine

/-! ### Locks -/

/-- A game that is let go of after it was taken hold of is held as it was before. -/
theorem Locks.release_hold {locks locks' : Locks} {timeout : Float} {game : Int}
    (h : locks.hold timeout game = .ok locks') : locks'.release game = locks := by
  unfold hold at h
  split at h
  · exact nomatch h
  · split at h
    · exact nomatch h
    · rename_i free
      obtain rfl := Except.ok.inj h
      have absent : (game, Holder.operation) ∉ locks.held := by
        intro held
        exact free (List.any_eq_true.2 ⟨_, held, by simp⟩)
      rw [release, List.erase_append_right _ absent, List.erase_cons_head, List.append_nil]

/-- The same games are held by the same holders. -/
def World.SameLocks (w w' : World) : Prop := w'.locks = w.locks

namespace World.SameLocks

theorem chains : Chains SameLocks := ⟨fun _ => rfl, fun h h' => Eq.trans h' h⟩

theorem overlooks : Overlooks SameLocks := ⟨chains, fun _ _ _ _ _ _ _ => rfl⟩

theorem holding {α : Type} (timeout : Float) (game : Int) {op : Op α} (h : Follows SameLocks op) :
    Follows SameLocks (World.holding timeout game op) := by
  intro w
  rw [SameLocks, World.holding_eq]
  cases hlocks : w.locks.hold timeout game with
  | error e => rfl
  | ok locks =>
    have same : (op.run { w with locks }).2.locks = locks := h { w with locks }
    show (op.run { w with locks }).2.locks.release game = w.locks
    rw [same, Locks.release_hold hlocks]

/-- An engine plays so if its host leaves the locks as it meets them. -/
theorem carries {engine : Engine} (host : ∀ request w, (engine.host request w).2.locks = w.locks) :
    engine.Carries SameLocks where
  toChains := chains
  games _ _ := rfl
  clear _ _ := rfl
  tick _ := rfl
  log game body w := by
    cases hid : game.id with
    | none => rw [World.run_log_none hid]; rfl
    | some id => rw [World.run_log_some hid]; rfl
  holding := holding
  host := host

end World.SameLocks

/-- The host takes hold of a game, or lets go of one. -/
def Action.ByHost : Action → Prop
  | .hold _ | .release _ => True
  | _ => False

/-- Every action leaves the locks as it has met them, unless it is the host that acts. -/
theorem World.SameLocks.performed {engine : Engine} (carries : engine.Carries World.SameLocks)
    {a : Action} (h : ¬a.ByHost) : Follows World.SameLocks (a.perform engine) := by
  have removal {kind : Kind} {α : Type} {found : Op α} (readOnly : ReadOnly found)
      (asked : Identifier) (force : Bool) (belongs : Int → Game → Bool)
      {cut : Int → List Int → World → World}
      (cuts : ∀ id ids w, (cut id ids w).locks = (ids.foldl Authoring.dropGame w).locks) :
      Follows World.SameLocks (Authoring.removal kind found asked force belongs cut) := by
    intro w
    rcases Authoring.run_removal readOnly asked force belongs cut w with
      ⟨e, hrun⟩ | ⟨id, games, -, -, -, -, hrun⟩ <;> rw [hrun]
    · exact chains.refl w
    · exact (cuts id _ w).trans (by rw [Authoring.foldl_dropGame])
  have writing (h : a.IsWriting) : Follows World.SameLocks (a.perform engine) :=
    Action.writing overlooks h
  cases a with
  | removeLocation location force =>
    have follows : Follows World.SameLocks (Authoring.removeLocation location force) := by
      rw [Authoring.removeLocation_eq]
      exact removal (.location location) _ _ _ fun _ _ _ => rfl
    exact follows.map _
  | removeAdventure adventure force =>
    have follows : Follows World.SameLocks (Authoring.removeAdventure adventure force) := by
      rw [Authoring.removeAdventure_eq]
      exact removal (.adventure adventure) _ _ _ fun _ _ _ => rfl
    exact follows.map _
  | append game copyKey text => exact (Follows.append chains (carries.log game) _ _).map _
  | clearLog game => exact .map (fun w => carries.clear w game) _
  | addGame claim g => exact .map (fun w => carries.games w _) _
  | addLanguage claim l => exact (Follows.addLanguage chains (fun _ _ => rfl) _ _).map _
  | hold game => exact absurd trivial h
  | release game => exact absurd trivial h
  | startGame _ _ | takeRoute _ _ | executeScript _ _ | endGame _ | recoverGame _ | getGame _
  | availableRoutes _ | contents _ _ _ | textAt _ _ | transcript _ => exact carries.players trivial
  | _ => exact writing trivial

theorem Engine.Quiet.locks {engine : Engine} (quiet : engine.Quiet) {a : Action} (h : ¬a.ByHost)
    (w : World) : (engine.after w a).locks = w.locks := by
  rw [after, quiet.perform_idle]
  exact World.SameLocks.performed (World.SameLocks.carries fun _ _ => rfl) h w

/-! ### Other games -/

/-- The game that an operation on a stored game asks for. -/
def Action.game? : Action → Option Identifier
  | .takeRoute game _ | .executeScript game _ | .endGame game | .recoverGame game => some game
  | _ => none

/-- From one world to another, only game `n` and its log have changed in the stores. -/
structure World.Only (n : Int) (w w' : World) : Prop where
  games : ∀ k, k ≠ n → w'.games.get? k = w.games.get? k
  has : ∀ k, k ≠ n → (w'.games.Has k ↔ w.games.Has k)
  entries : ∀ k, k ≠ n → w'.journal.entries k = w.journal.entries k
  story : w'.story = w.story
  own : ∀ k g, w'.games.get? k = .ok (some g) → g.id = some k

variable {n : Int} {v w : World}

theorem Advances.only {P : Game → Prop} {added : List Content}
    (own : ∀ k g, v.games.get? k = .ok (some g) → g.id = some k) (h : Advances n P added v w) :
    World.Only n v w := by
  refine ⟨h.games.others, fun k _ => h.games.has k, h.journal.others, h.story, fun k g found => ?_⟩
  rcases h.games.of_get? found with found | ⟨rfl, stored, number, -, reads⟩
  · exact own k g found
  · exact (Games.reads_ok reads).1.trans number

theorem World.Only.drop (h : World.Only n v w) : World.Only n v (Authoring.dropGame w n) := by
  refine ⟨fun k hk => ?_, fun k hk => ?_, fun k hk => ?_, h.story, fun k g found => ?_⟩
  · exact (Games.get?_remove _ _ _).trans ((if_neg hk).trans (h.games k hk))
  · exact (Games.has_remove _ _ _).trans ((and_iff_right hk).trans (h.has k hk))
  · exact (Journal.entries_clear_of_ne hk _).trans (h.entries k hk)
  · have removed := (Games.get?_remove w.games n k).symm.trans found
    split at removed
    · exact nomatch removed
    · exact h.own k g removed

/-- An operation on game `n` leaves any other one alone. -/
theorem Engine.Quiet.only {engine : Engine} (quiet : engine.Quiet)
    (own : ∀ k g, w.games.get? k = .ok (some g) → g.id = some k) {a : Action} {game : Identifier}
    (asks : a.game? = some game) (hid : ∀ k, ((World.gameNumber game).run w).1 = .ok k → k = n) :
    World.Only n w (engine.after w a) := by
  have hold : w.games.Hold fun _ => True := fun k g found => ⟨own k g found, trivial⟩
  have lasts : OfBearings fun _ => True := fun _ _ _ _ => trivial
  have played {α : Type} {op : Op α} {tell : α → Answer} (perform : a.perform engine = tell <$> op)
      {Q : α → List Content → World → Prop} (plays : Plays n (fun _ => True) w op Q) :
      World.Only n w (engine.after w a) := by
    obtain ⟨added, advances, -⟩ := plays
    rw [Engine.after_of_perform perform]
    exact advances.only own
  cases a with
  | takeRoute asked route =>
    obtain rfl := Option.some.inj asks
    exact played rfl (Plays.takeRoute quiet lasts hold hid
      (fun _ _ _ _ _ _ _ _ _ _ _ _ _ => trivial) route)
  | executeScript asked script =>
    obtain rfl := Option.some.inj asks
    exact played rfl (Plays.executeScript quiet lasts hold hid script)
  | recoverGame asked =>
    obtain rfl := Option.some.inj asks
    exact played rfl (Plays.recoverGame lasts hold hid)
  | endGame asked =>
    obtain rfl := Option.some.inj asks
    have ends := Engine.ended quiet lasts hold hid
    rw [Engine.after_of_perform rfl]
    generalize (engine.endGame asked).run w = outcome at ends
    cases ends with
    | failed e advances => exact advances.only own
    | gone t advances told has => exact (advances.only own).drop
  | _ => exact nomatch asks

end TextAdventure
