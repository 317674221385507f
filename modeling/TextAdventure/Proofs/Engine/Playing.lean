import TextAdventure.Proofs.Actions
import TextAdventure.Proofs.Engine.Tends

/-! What holds of every script and every host. A relation between worlds that each single change
made while playing follows is followed by every operation of playing, however it ends and whatever
its scripts have the host do. -/

namespace TextAdventure

open Op

/-- A relation between worlds that every change made while playing follows, those of the host
included. -/
structure Engine.Carries (engine : Engine) (T : World → World → Prop) : Prop extends Chains T where
  games : ∀ (w : World) (games : Games), T w { w with games }
  clear : ∀ (w : World) (game : Int), T w { w with journal := w.journal.clear game }
  tick : Follows T World.tick
  log : ∀ (game : Game) (body : Body), Follows T (World.log game body)
  holding : ∀ {α : Type} (timeout : Float) (game : Int) {op : Op α}, Follows T op →
    Follows T (World.holding timeout game op)
  host : ∀ (request : Json) (w : World),
    T w { (engine.host request w).2 with
      replies := (engine.host request w).2.replies ++ [(engine.host request w).1] }

/-- Holding a game changes no more than the locks besides. -/
theorem Op.Follows.holding {α : Type} {T : World → World → Prop} (chains : Chains T)
    (locks : ∀ (w : World) (locks : Locks), T w { w with locks }) (timeout : Float) (game : Int)
    {op : Op α} (h : Follows T op) : Follows T (World.holding timeout game op) := by
  refine .bind chains (ReadOnly.get.follows chains) fun _ =>
    .bind chains ((ReadOnly.ofExcept _).follows chains) fun _ =>
    .bind chains (fun w => locks w _) fun _ w => ?_
  exact chains.trans (h w) (locks _ _)

/-- Operations that follow a relation are those that keep on along it from wherever they set out. -/
theorem Op.follows_iff {α : Type} {T : World → World → Prop} (chains : Chains T) {op : Op α} :
    Follows T op ↔ ∀ w, Meets (T w) op (fun _ => T w) (T w) := by
  refine ⟨fun h w v along => ?_, fun h w => (h w).after (chains.refl w)⟩
  have on := chains.trans along (h v)
  rcases hrun : op.run v with ⟨e | a, u⟩ <;> rw [hrun] at on <;> exact on

namespace Engine.Carries

variable {engine : Engine} {T : World → World → Prop} (carries : engine.Carries T)
include carries

theorem readOnly {α : Type} {op : Op α} (h : ReadOnly op) : Follows T op :=
  h.follows carries.toChains

theorem bind {α β : Type} {x : Op α} {f : α → Op β} (hx : Follows T x)
    (hf : ∀ a, Follows T (f a)) : Follows T (x >>= f) :=
  Follows.bind carries.toChains hx hf

theorem updateGame (h : Held Game) : Follows T (World.updateGame h) :=
  carries.bind (fun w => carries.games w _) fun _ =>
    carries.bind (carries.readOnly .get) fun _ => carries.bind (carries.readOnly (.ofExcept _))
      fun _ => carries.bind (fun w => carries.games w _) fun _ => carries.readOnly (.pure _)

theorem move (id : Int) (destination : Location) (p : Progress) :
    Follows T (Engine.move id destination p) :=
  carries.bind carries.tick fun _ =>
    carries.bind (carries.updateGame _) fun _ => carries.readOnly (.pure _)

/-- Whatever a script does, and whatever it asks of the host. -/
theorem tends (w : World) : engine.Tends (fun _ => T w) (T w) where
  fails _ _ along := along
  changed _ _ _ _ along := along
  logged h v body along := carries.trans along (carries.log h.value body v)
  consulted _ v request along :=
    carries.trans along (carries.trans (carries.games v _) (carries.host request _))
  updated h := (follows_iff carries.toChains).1 (carries.updateGame h) w

theorem executeStored (held : Held Game) (id : Identifier) :
    Follows T (engine.executeStored held id) :=
  (follows_iff carries.toChains).2 fun w => (carries.tends w).executeStored id

theorem runHook (script : Option Int) (p : Progress) : Follows T (engine.runHook script p) :=
  (follows_iff carries.toChains).2 fun w => (carries.tends w).runHook script

theorem opening (adventure : Held Adventure) (location : Held Location) (p : Progress) :
    Follows T (engine.opening adventure location p) :=
  (follows_iff carries.toChains).2 fun w => (carries.tends w).opening adventure location

theorem depart (id : Int) (route : Identifier) (held : Held Game) :
    Follows T (engine.depart id route held) :=
  (follows_iff carries.toChains).2 fun w => (carries.tends w).depart
    (fun _ _ _ => (follows_iff carries.toChains).1 (carries.move _ _ _) w) id route held

theorem startGame (adventure : Identifier) (language : Json) :
    Follows T (engine.startGame adventure language) :=
  carries.bind (carries.readOnly (.adventure _)) fun _ =>
  carries.bind (carries.readOnly (.gameLanguage _ _)) fun _ =>
  carries.bind (carries.readOnly (.number _ _)) fun _ =>
  carries.bind (carries.readOnly (.initialLocation _)) fun _ =>
  carries.bind carries.tick fun _ => carries.bind (fun w => carries.games w _) fun _ =>
    carries.holding _ _ (carries.bind (carries.opening _ _ _) fun _ => carries.readOnly (.transcribe _ _))

theorem takeRoute (game route : Identifier) : Follows T (engine.takeRoute game route) :=
  carries.bind (carries.readOnly (.gameNumber game)) fun _ => carries.holding _ _ <|
    carries.bind (carries.readOnly (.heldGame game)) fun _ => carries.depart _ _ _

theorem executeScript (game script : Identifier) : Follows T (engine.executeScript game script) :=
  carries.bind (carries.readOnly (.gameNumber game)) fun _ => carries.holding _ _ <|
    carries.bind (carries.readOnly (.heldGame game)) fun _ =>
    carries.bind (carries.executeStored _ _) fun _ => carries.readOnly (.pure _)

theorem endGame (game : Identifier) : Follows T (engine.endGame game) := by
  refine carries.bind (carries.readOnly (.gameNumber game)) fun id => carries.holding _ _ <|
    carries.bind (carries.readOnly (.heldGame game)) fun _ =>
    carries.bind (carries.readOnly (.finalHook _)) fun _ =>
    carries.bind (carries.runHook _ _) fun _ => carries.bind (carries.readOnly (.transcribe _ _)) fun _ =>
    carries.bind (fun w => ?_) fun _ => carries.readOnly (.pure _)
  exact carries.trans (carries.clear w id) (carries.games _ _)

theorem recoverGame (game : Identifier) : Follows T (engine.recoverGame game) :=
  carries.bind (carries.readOnly (.gameNumber game)) fun _ => carries.holding _ _ <|
    carries.bind (carries.readOnly (.heldGame game)) fun _ => .ite
      (carries.bind (carries.updateGame _) fun _ => carries.readOnly (.pure _))
      (carries.readOnly (.pure _))

/-- Whatever players do. -/
theorem players {a : Action} (players : a.ByPlayers) : Follows T (a.perform engine) := by
  cases a with
  | startGame adventure language => exact (carries.startGame _ _).map _
  | takeRoute game route => exact (carries.takeRoute _ _).map _
  | executeScript game script => exact (carries.executeScript _ _).map _
  | endGame game => exact (carries.endGame _).map _
  | recoverGame game => exact (carries.recoverGame _).map _
  | getGame _ | availableRoutes _ | contents _ _ _ | textAt _ _ | transcript _ =>
    exact carries.readOnly (Action.Looks.readOnly trivial)
  | _ => exact players.elim

end Engine.Carries

end TextAdventure
