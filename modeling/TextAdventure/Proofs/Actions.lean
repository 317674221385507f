import TextAdventure.Authoring.Copies
import TextAdventure.Authoring.Includes
import TextAdventure.Authoring.Removal
import TextAdventure.Proofs.Op

/-! The operations of an engine as data, what a sequence of them does to a world, and engines whose
scripts may call for further operations while they run. -/

namespace TextAdventure

/-- What an engine and its stores can be asked to do. -/
inductive Action where
  | startGame (adventure : Identifier) (language : Json)
  | takeRoute (game route : Identifier)
  | executeScript (game script : Identifier)
  | endGame (game : Identifier)
  | recoverGame (game : Identifier)
  | getGame (game : Identifier)
  | availableRoutes (game : Identifier)
  | contents (game : Identifier) (start : Int) (limit : Option Int)
  | textAt (game position : Identifier)
  | transcript (game : Identifier)
  | append (game : Game) (copyKey text : Option Text)
  | clearLog (game : Int)
  | addInclude (outer inner : Identifier) (order : Int)
  | removeScript (script : Identifier)
  | removeLocation (location : Identifier) (force : Bool)
  | removeAdventure (adventure : Identifier) (force : Bool)
  | addAdventure (claim : Claim) (adventure : Adventure)
  | addLocation (claim : Claim) (location : Location)
  | addRoute (claim : Claim) (route : Route)
  | addScript (claim : Claim) (script : Script)
  | addCopy (claim : Claim) (copy : Copy)
  | updateCopy (key language text : Text)
  | addLanguage (claim : Claim) (language : Language)
  | addGame (claim : Claim) (game : Game)
  | hold (game : Int)
  | release (game : Int)

/-- What an action answers when it succeeds. -/
inductive Answer where
  | done
  | transcript (t : Transcript)
  | scriptRun (run : ScriptRun)
  | game (game : Game)
  | routes (routes : Rows Route)
  | entries (entries : List Content)
  | entry (entry : Content)
  | text (text : Text)
  | texts (texts : List Text)
  | include (edge : Include)
  | number (id : Int)
deriving DecidableEq

namespace Op

/-- Adds a record to a table of the world, and gives its number. -/
def addTo {α : Type} (table : World → Table α) (put : Table α → World → World) (claim : Claim)
    (value : α) : Op Int := do
  let (id, t) ← ofExcept ((table (← get)).add claim value)
  modify (put t)
  return id

/-- Adds a game under the number it claims, or under a new one. -/
def addGame (claim : Claim) (game : Game) : Op (Held Game) := of fun w =>
  let (added, games) := w.games.add claim game
  (added, { w with games })

/-- Registers a language under the number it claims, or under a new one. -/
def addLanguage (claim : Claim) (language : Language) : Op Int := do
  let (id, languages) ← ofExcept ((← get).languages.add claim language)
  modify fun w => { w with languages }
  return id

/-- The host takes hold of a game. -/
def holdFor (timeout : Float) (game : Int) : Op Unit := do
  let locks ← ofExcept ((← get).locks.hold timeout game .host)
  modify fun w => { w with locks }

/-- The host lets go of a game. -/
def letGo (game : Int) : Op Unit :=
  modify fun w => { w with locks := w.locks.release game .host }

end Op

namespace Action

/-- The operation of an action. -/
def perform (engine : Engine) : Action → Op Answer
  | startGame adventure language => .transcript <$> engine.startGame adventure language
  | takeRoute game route => .transcript <$> engine.takeRoute game route
  | executeScript game script => .scriptRun <$> engine.executeScript game script
  | endGame game => .transcript <$> engine.endGame game
  | recoverGame game => .game <$> engine.recoverGame game
  | getGame game => .game <$> World.game game
  | availableRoutes game => .routes <$> Engine.availableRoutes game
  | contents game start limit => .entries <$> Engine.contents game start limit
  | textAt game position => .text <$> engine.textAt game position
  | transcript game => .texts <$> engine.transcript game
  | append game copyKey text => .entry <$> Engine.append game copyKey text
  | clearLog game => (fun _ => .done) <$> Engine.clearLog game
  | addInclude outer inner order => .include <$> Authoring.addInclude outer inner order
  | removeScript script => (fun _ => .done) <$> Authoring.removeScript script
  | removeLocation location force => (fun _ => .done) <$> Authoring.removeLocation location force
  | removeAdventure adventure force =>
    (fun _ => .done) <$> Authoring.removeAdventure adventure force
  | addAdventure claim a =>
    .number <$> Op.addTo (·.adventures) (fun t w => { w with adventures := t }) claim a
  | addLocation claim l =>
    .number <$> Op.addTo (·.locations) (fun t w => { w with locations := t }) claim l
  | addRoute claim r => .number <$> Op.addTo (·.routes) (fun t w => { w with routes := t }) claim r
  | addScript claim s =>
    .number <$> Op.addTo (·.scripts) (fun t w => { w with scripts := t }) claim s
  | addCopy claim c => .number <$> Authoring.addCopy claim c
  | updateCopy key language text => (.number ·.1) <$> Authoring.updateCopy key language text
  | addLanguage claim l => .number <$> Op.addLanguage claim l
  | addGame claim g => (fun held => .game held.value) <$> Op.addGame claim g
  | hold game => (fun _ => .done) <$> Op.holdFor engine.settings.busyTimeout game
  | release game => (fun _ => .done) <$> Op.letGo game

/-- The action plays a game, or only looks. -/
def ByPlayers : Action → Prop
  | .startGame .. | .takeRoute .. | .executeScript .. | .endGame .. | .recoverGame .. | .getGame .. |
    .availableRoutes .. | .contents .. | .textAt .. | .transcript .. => True
  | _ => False

/-- The action only looks. -/
def Looks : Action → Prop
  | .getGame .. | .availableRoutes .. | .contents .. | .textAt .. | .transcript .. => True
  | _ => False

theorem Looks.readOnly {engine : Engine} {a : Action} (looks : a.Looks) :
    Op.ReadOnly (a.perform engine) := by
  cases a with
  | getGame game => exact (Op.ReadOnly.game _).map _
  | availableRoutes game => exact (Op.ReadOnly.availableRoutes _).map _
  | contents game start limit => exact (Op.ReadOnly.contents _ _ _).map _
  | textAt game position => exact (Op.ReadOnly.textAt _ _ _).map _
  | transcript game => exact (Op.ReadOnly.transcript _ _).map _
  | _ => exact looks.elim

/-- Players act, and authors remove locations and adventures. -/
def ByPlayersOrRemoval : Action → Prop
  | .removeLocation .. | .removeAdventure .. => True
  | a => a.ByPlayers

end Action

namespace Engine

/-- What an action answers. -/
def answer (engine : Engine) (w : World) (a : Action) : Except Error Answer :=
  ((a.perform engine).run w).1

/-- The world that an action leaves. -/
def after (engine : Engine) (w : World) (a : Action) : World := ((a.perform engine).run w).2

/-- What each of a sequence of actions answers. -/
def answers (engine : Engine) : World → List Action → List (Except Error Answer)
  | _, [] => []
  | w, a :: rest => engine.answer w a :: answers engine (engine.after w a) rest

/-- The worlds on the way of a sequence of actions, with the first and the last one. -/
def worlds (engine : Engine) : World → List Action → List World
  | w, [] => [w]
  | w, a :: rest => w :: worlds engine (engine.after w a) rest

/-- The world that a sequence of actions leaves. -/
def left (engine : Engine) (w : World) (actions : List Action) : World :=
  actions.foldl engine.after w

section Perform

variable {α : Type} {engine : Engine} {a : Action} {op : Op α} {tell : α → Answer}
  (perform : a.perform engine = tell <$> op) (w : World)
include perform

/-- An action answers what its operation gives. -/
theorem answer_of_perform : engine.answer w a = (op.run w).1.map tell := by
  rw [answer, perform, Op.run_map]

theorem after_of_perform : engine.after w a = (op.run w).2 := by
  rw [after, perform, Op.run_map]

end Perform

theorem head_mem_worlds (engine : Engine) (w : World) (actions : List Action) :
    w ∈ engine.worlds w actions := by
  cases actions with
  | nil => exact List.mem_singleton.2 rfl
  | cons a rest => exact List.mem_cons_self

theorem left_mem_worlds (engine : Engine) (w : World) (actions : List Action) :
    engine.left w actions ∈ engine.worlds w actions := by
  induction actions generalizing w with
  | nil => exact List.mem_singleton.2 rfl
  | cons a rest ih => exact List.mem_cons_of_mem _ (ih _)

theorem left_concat (engine : Engine) (w : World) (actions : List Action) (a : Action) :
    engine.left w (actions ++ [a]) = engine.after (engine.left w actions) a := by
  induction actions generalizing w with
  | nil => rfl
  | cons b rest ih => exact ih _

/-- Whether `p` holds of each of a sequence of actions in the world that it meets. -/
def Throughout (engine : Engine) (p : World → Action → Prop) : World → List Action → Prop
  | _, [] => True
  | w, a :: rest => p w a ∧ Throughout engine p (engine.after w a) rest

theorem Throughout.imp {engine : Engine} {p q : World → Action → Prop} {w : World}
    {actions : List Action} (h : engine.Throughout p w actions)
    (le : ∀ v, ∀ a ∈ actions, p v a → q v a) : engine.Throughout q w actions := by
  induction actions generalizing w with
  | nil => exact trivial
  | cons a rest ih =>
    exact ⟨le w a List.mem_cons_self h.1, ih h.2 fun v b hb => le v b (List.mem_cons_of_mem _ hb)⟩

theorem throughout_true (engine : Engine) (w : World) (actions : List Action) :
    engine.Throughout (fun _ _ => True) w actions := by
  induction actions generalizing w with
  | nil => exact trivial
  | cons a rest ih => exact ⟨trivial, ih _⟩

/-- What every action keeps, as long as `p` holds of it, holds all the way. -/
theorem worlds_keep {engine : Engine} {I : World → Prop} {p : World → Action → Prop}
    (step : ∀ w a, I w → p w a → I (engine.after w a)) {w : World} {actions : List Action}
    (h : I w) (throughout : engine.Throughout p w actions) :
    ∀ w' ∈ engine.worlds w actions, I w' := by
  induction actions generalizing w with
  | nil =>
    intro w' hw'
    obtain rfl := List.mem_singleton.1 hw'
    exact h
  | cons a rest ih =>
    intro w' hw'
    rcases List.mem_cons.1 hw' with rfl | hw'
    · exact h
    · exact ih (step w a h throughout.1) throughout.2 w' hw'

/-- Where every action takes the world along a relation that chains up, so does a sequence of
them. -/
theorem worlds_follow {engine : Engine} {T : World → World → Prop} (chains : Op.Chains T)
    (each : ∀ a : Action, Op.Follows T (a.perform engine)) {w w' : World} {actions : List Action}
    (h : w' ∈ engine.worlds w actions) : T w w' := by
  induction actions generalizing w with
  | nil =>
    obtain rfl := List.mem_singleton.1 h
    exact chains.refl w'
  | cons a rest ih =>
    rcases List.mem_cons.1 h with rfl | h
    · exact chains.refl w'
    · exact chains.trans (each a w) (ih h)

/-- An engine whose scripts can call for actions while they run, and the scripts that run for those
actions can do so too, `depth` deep; further down, requests do nothing. `read` tells which action a
request asks for. What the host replies is made by `write` of the action's answer and of the worlds
that it met and left. -/
def nested (engine : Engine) (read : Json → Action)
    (write : World → Except Error Answer → World → Json) : Nat → Engine
  | 0 => { engine with host := fun _ w => (write w (.ok .done) w, w) }
  | depth + 1 =>
    { engine with
      host := fun request w =>
        let inner := nested engine read write depth
        let answer := inner.answer w (read request)
        let after := inner.after w (read request)
        (write w answer after, after) }

/-- Nested engines whose host reads requests in the light of the world that it meets. -/
def attended (engine : Engine) (read : World → Json → Action)
    (write : World → Except Error Answer → World → Json) : Nat → Engine
  | 0 => { engine with host := fun _ w => (write w (.ok .done) w, w) }
  | depth + 1 =>
    { engine with
      host := fun request w =>
        let inner := attended engine read write depth
        let action := read w request
        (write w (inner.answer w action) (inner.after w action), inner.after w action) }

theorem nested_eq_attended (engine : Engine) (read : Json → Action)
    (write : World → Except Error Answer → World → Json) (depth : Nat) :
    engine.nested read write depth = engine.attended (fun _ => read) write depth := by
  induction depth with
  | zero => rfl
  | succ depth ih => rw [nested, attended, ih]

end Engine

end TextAdventure
