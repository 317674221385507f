import TextAdventure.Proofs.Authoring.Aside
import TextAdventure.Proofs.Engine.Playing
import TextAdventure.Proofs.Engine.Quiet
import TextAdventure.Proofs.Store.Journal
import Mathlib.Logic.Relation

/-! Positions in logs have no gaps. Entries only ever go to the next position of a log, from
wherever they come, and logs are only ever dropped whole. -/

namespace TextAdventure

open Op

variable {engine : Engine} {write : World → Except Error Answer → World → Json} {w w' w'' : World}

/-- The journals on the way are numbered if the first one is. -/
theorem Journal.Numbered.moves {j j' : Journal} (h : j.Numbered)
    (moves : Relation.ReflTransGen Journal.Move j j') : j'.Numbered := by
  induction moves with
  | refl => exact h
  | tail _ move ih => exact ih.move move

theorem Journal.Numbered.trail {j j' : Journal} (h : j.Numbered)
    (moves : Relation.ReflTransGen Journal.Move j j') :
    Relation.ReflTransGen (fun j j' => Journal.Move j j' ∧ j'.Numbered) j j' := by
  induction moves with
  | refl => exact .refl
  | tail moves move ih => exact ih.tail ⟨move, h.moves (moves.tail move)⟩

/-- A reply of a host that has met numbered logs and left numbered logs. -/
def OfNumbered (write : World → Except Error Answer → World → Json) (reply : Json) : Prop :=
  ∃ met answer left, reply = write met answer left ∧ met.journal.Numbered ∧ left.journal.Numbered

/-- From one world to another the logs change by single moves, and if they are numbered, then the
host replies with numbered logs before it and behind it. -/
structure Numbers (write : World → Except Error Answer → World → Json) (w w' : World) : Prop where
  moves : Relation.ReflTransGen Journal.Move w.journal w'.journal
  replies : w.journal.Numbered →
    ∃ new, w'.replies = w.replies ++ new ∧ ∀ reply ∈ new, OfNumbered write reply

namespace Numbers

theorem still (journal : w'.journal = w.journal) (replies : w'.replies = w.replies) :
    Numbers write w w' :=
  ⟨by rw [journal], fun _ => ⟨[], by simp [replies], by simp⟩⟩

theorem move (move : Journal.Move w.journal w'.journal) (replies : w'.replies = w.replies) :
    Numbers write w w' :=
  ⟨.single move, fun _ => ⟨[], by simp [replies], by simp⟩⟩

theorem trans (h : Numbers write w w') (h' : Numbers write w' w'') : Numbers write w w'' := by
  refine ⟨h.moves.trans h'.moves, fun numbered => ?_⟩
  obtain ⟨new, hnew, each⟩ := h.replies numbered
  obtain ⟨more, hmore, eachMore⟩ := h'.replies (numbered.moves h.moves)
  refine ⟨new ++ more, by rw [hmore, hnew, List.append_assoc], fun reply hr => ?_⟩
  rcases List.mem_append.1 hr with hr | hr
  · exact each reply hr
  · exact eachMore reply hr

theorem chains : Chains (Numbers write) := ⟨fun _ => still rfl rfl, trans⟩

/-- A reply that tells of the worlds before and behind an action. -/
theorem replied (h : Numbers write w w') (answer : Except Error Answer) :
    Numbers write w { w' with replies := w'.replies ++ [write w answer w'] } := by
  refine ⟨h.moves, fun numbered => ?_⟩
  obtain ⟨new, hnew, each⟩ := h.replies numbered
  refine ⟨new ++ [write w answer w'], by simp [hnew], fun reply hr => ?_⟩
  rcases List.mem_append.1 hr with hr | hr
  · exact each reply hr
  · obtain rfl := List.mem_singleton.1 hr
    exact ⟨w, answer, w', rfl, numbered, numbered.moves h.moves⟩

/-- Whoever logs, the entry goes to the next position. -/
theorem log (game : Game) (body : Body) : Follows (Numbers write) (World.log game body) := by
  intro w
  cases hid : game.id with
  | none =>
    rw [World.run_log_none hid]
    exact still rfl rfl
  | some id =>
    rw [World.run_log_some hid]
    exact move (.append id body _ (Journal.add_next _ _ _)) rfl

theorem holding {α : Type} (timeout : Float) (game : Int) {op : Op α}
    (h : Follows (Numbers write) op) : Follows (Numbers write) (World.holding timeout game op) :=
  h.holding chains (fun _ _ => still rfl rfl) timeout game

/-- Whatever scripts do: as long as the host keeps to it, so does the engine. -/
theorem carries (host : ∀ (request : Json) (w : World), Numbers write w
      { (engine.host request w).2 with
        replies := (engine.host request w).2.replies ++ [(engine.host request w).1] }) :
    engine.Carries (Numbers write) where
  toChains := chains
  games _ _ := still rfl rfl
  clear _ game := move (.clear game) rfl
  tick _ := still rfl rfl
  log := log
  holding := holding
  host := host

/-! ### Writing -/

theorem dropGames (games : List Int) (w : World) :
    Numbers write w (games.foldl Authoring.dropGame w) := by
  induction games generalizing w with
  | nil => exact still rfl rfl
  | cons game rest ih =>
    have dropped : Numbers write w (Authoring.dropGame w game) := move (.clear game) rfl
    exact dropped.trans (ih _)

/-- What goes on aside from playing adds nothing to logs. -/
theorem aside {a : Action} (h : a.IsAside) : Follows (Numbers write) (a.perform engine) := by
  intro w
  have kept : Aside w ((a.perform engine).run w).2 := a.aside h w
  exact still kept.journal kept.replies

theorem addLanguage (claim : Claim) (language : Language) :
    Follows (Numbers write) (Op.addLanguage claim language) :=
  .addLanguage chains (fun _ _ => still rfl rfl) claim language

theorem addGame (claim : Claim) (game : Game) : Follows (Numbers write) (Op.addGame claim game) := by
  intro w
  unfold Op.addGame
  rw [run_of]
  exact still rfl rfl

theorem append (game : Game) (copyKey text : Option Text) :
    Follows (Numbers write) (Engine.append game copyKey text) :=
  .append chains (log game) copyKey text

theorem removeLocation (location : Identifier) (force : Bool) :
    Follows (Numbers write) (Authoring.removeLocation location force) :=
  .bind chains ((ReadOnly.location _).follows chains) fun _ =>
    .bind chains ((ReadOnly.number _ _).follows chains) fun _ =>
    .bind chains (ReadOnly.get.follows chains) fun _ =>
    .bind chains ((ReadOnly.ofExcept _).follows chains) fun _ =>
    .bind chains ((ReadOnly.gamesToRemove _ _ _ _).follows chains) fun _ _ =>
      trans (dropGames _ _) (still rfl rfl)

theorem removeAdventure (adventure : Identifier) (force : Bool) :
    Follows (Numbers write) (Authoring.removeAdventure adventure force) :=
  .bind chains ((ReadOnly.adventure _).follows chains) fun _ =>
    .bind chains ((ReadOnly.number _ _).follows chains) fun _ =>
    .bind chains (ReadOnly.get.follows chains) fun _ =>
    .bind chains ((ReadOnly.ofExcept _).follows chains) fun _ =>
    .bind chains ((ReadOnly.gamesToRemove _ _ _ _).follows chains) fun _ _ =>
      trans (dropGames _ _) (still rfl rfl)

end Numbers

/-! ### Runs -/

/-- Every action keeps to it, whatever its scripts do, as long as the host does. -/
theorem Action.numbers (host : ∀ (request : Json) (w : World), Numbers write w
      { (engine.host request w).2 with
        replies := (engine.host request w).2.replies ++ [(engine.host request w).1] })
    (a : Action) : Follows (Numbers write) (a.perform engine) := by
  have carries := Numbers.carries host
  cases a with
  | append game copyKey text => exact (Numbers.append _ _ _).map _
  | clearLog game => exact Follows.map (fun w => .move (.clear game) rfl) _
  | removeLocation location force => exact (Numbers.removeLocation _ _).map _
  | removeAdventure adventure force => exact (Numbers.removeAdventure _ _).map _
  | addLanguage claim l => exact (Numbers.addLanguage _ _).map _
  | addGame claim g => exact (Numbers.addGame _ _).map _
  | _ => first | exact carries.players trivial | exact Numbers.aside trivial

/-- The host of nested engines keeps to it at every depth. -/
theorem Engine.nested_numbers (engine : Engine) (read : Json → Action) (depth : Nat)
    (request : Json) (w : World) : Numbers write w
      { ((engine.nested read write depth).host request w).2 with
        replies := ((engine.nested read write depth).host request w).2.replies ++
          [((engine.nested read write depth).host request w).1] } := by
  induction depth generalizing request w with
  | zero => exact (Numbers.still rfl rfl).replied _
  | succ depth ih => exact (Action.numbers ih (read request) w).replied _

/-- In every run that starts with empty logs, whatever its scripts do and however deep the actions
nest that they call for, the logs come about by single moves, and after each move positions are
numbered without gaps. The host meets and leaves numbered logs, too, whenever a script calls it. -/
theorem Engine.logs_numbered (engine : Engine) (read : Json → Action)
    (write : World → Except Error Answer → World → Json) (depth : Nat) (w : World)
    (actions : List Action) :
    ∀ w' ∈ (engine.nested read write depth).worlds { w with journal := {} } actions,
      w'.journal.Numbered ∧
      Relation.ReflTransGen (fun j j' => Journal.Move j j' ∧ j'.Numbered) {} w'.journal ∧
      ∃ new, w'.replies = w.replies ++ new ∧ ∀ reply ∈ new, OfNumbered write reply := by
  intro w' h
  have each (a : Action) : Follows (Numbers write) (a.perform (engine.nested read write depth)) :=
    a.numbers (engine.nested_numbers read depth)
  have numbers : Numbers write { w with journal := {} } w' := worlds_follow Numbers.chains each h
  have start : Journal.Numbered {} := Journal.numbered_empty {}
  exact ⟨start.moves numbers.moves, start.trail numbers.moves, numbers.replies start⟩

/-- A word is said on the way down the lane. -/
theorem Engine.logs_numbered_lane :
    let w := World.lane (.memory {})
    let engine := Engine.reciting.nested (fun _ => .getGame (1 : Int)) (fun _ _ _ => .null) 1
    let left := engine.left { w with journal := {} }
      [.startGame (1 : Int) .null, .takeRoute (1 : Int) (1 : Int)]
    left.journal.Numbered ∧
      Relation.ReflTransGen (fun j j' => Journal.Move j j' ∧ j'.Numbered) {} left.journal ∧
      ∃ new, left.replies = w.replies ++ new ∧
        ∀ reply ∈ new, OfNumbered (fun _ _ _ => .null) reply :=
  logs_numbered _ _ _ 1 (World.lane (.memory {})) _ _ (left_mem_worlds _ _ _)

end TextAdventure
