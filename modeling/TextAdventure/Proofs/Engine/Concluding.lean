import Mathlib.Data.List.Induction
import TextAdventure.Proofs.Engine.Arriving

/-! Games that end. Ending a game runs the termination script of its adventure to completion, unless
the game has been completed before. Then the script has run to completion when the game arrived, or
the operation that took it there was cut short. -/

namespace TextAdventure

open Op
open Authoring (dropGame)

variable {engine : Engine} {w w' start : World} {n s adventure : Int} {a : Action} {P : Game → Prop}
  {Known Known' : Int → World → Prop}

/-- Game `n` is complete, in an adventure. -/
def World.Complete (w : World) (n adventure : Int) : Prop :=
  ∃ g, w.games.get? n = .ok (some g) ∧ g.InStage true adventure

theorem World.Complete.congr (complete : w.Complete n adventure)
    (same : w'.games.get? n = w.games.get? n) : w'.Complete n adventure := by
  obtain ⟨g, found, stage⟩ := complete
  exact ⟨g, same.trans found, stage⟩

/-- A world in which game `n` can be played or started. -/
structure World.Ready (n : Int) (w : World) : Prop where
  filed : w.Filed
  poised : w.Poised n fun _ => True

theorem World.Ready.unfinished (ready : w.Ready n) (incomplete : ∀ adventure, ¬w.Complete n adventure) :
    w.Poised n fun g => g.completed = false :=
  ⟨ready.poised.own, ready.poised.fresh, fun g found => Bool.eq_false_iff.2 fun complete =>
    incomplete g.adventure ⟨g, found, complete, rfl⟩⟩

/-- A game has one adventure. -/
theorem World.Ready.some_adventure (ready : w.Ready n) :
    ∃ adventure, w.Poised n fun g => g.adventure = adventure := by
  by_cases stored : ∃ g, w.games.get? n = .ok (some g)
  · obtain ⟨g, found⟩ := stored
    refine ⟨g.adventure, ready.poised.own, ready.poised.fresh, fun g' found' => ?_⟩
    obtain rfl : g = g' := Option.some.inj (Except.ok.inj (found.symm.trans found'))
    rfl
  · exact ⟨0, ready.poised.own, ready.poised.fresh, fun g found => absurd ⟨g, found⟩ stored⟩

theorem World.Poised.complete (poised : w.Poised n fun g => g.adventure = adventure)
    {adventure' : Int} (complete : w.Complete n adventure') : adventure' = adventure := by
  obtain ⟨g, found, -, rfl⟩ := complete
  exact poised.stored g found

/-- The action starts game `n`. -/
def Action.Starts (w : World) (n : Int) (a : Action) : Prop :=
  (∃ adventure language, a = .startGame adventure language) ∧ w.games.ids.next = n

namespace Engine

/-- An operation on game `n`, or the start of it, completes the game. -/
structure Completes (engine : Engine) (n adventure : Int) (w : World) (a : Action) : Prop where
  asks : a.AsksFor w n ∨ a.Starts w n
  before : ∀ adventure, ¬w.Complete n adventure
  after : (engine.after w a).Complete n adventure

/-- The action succeeds, and the last that it does is to run script `s` to completion for game `n`. -/
def Concludes (engine : Engine) (n s : Int) (w : World) (a : Action) : Prop :=
  ∃ t u, engine.answer w a = .ok (.transcript t) ∧ engine.Ran n s t u ∧
    engine.after w a = { u with locks := u.locks.release n }

namespace Attends

variable (attends : engine.Attends)
include attends

/-- An action that completes a game has concluded it, or was cut short. -/
theorem outcome (ready : w.Ready n) (completes : engine.Completes n adventure w a) {x : Adventure}
    (stored : (engine.after w a).adventures.get? adventure = some x)
    (script : x.terminationScript = some s) :
    engine.Concludes n s w a ∨ ∃ e, engine.answer w a = .error e := by
  obtain ⟨g, found, complete, rfl⟩ := completes.after
  have unfinished := ready.unfinished completes.before
  have course : OfCourse fun g => g.completed = false := fun _ _ _ _ same _ h => same.trans h
  have never (poised : (engine.after w a).Poised n fun g => g.completed = false) : False :=
    nomatch (poised.stored g found).symm.trans complete
  have concludes {op : Op Transcript} {R : Transcript → World → Prop}
      (perform : a.perform engine = .transcript <$> op)
      (comes : Comes (fun t v => ∃ u, R t u ∧ v = { u with locks := u.locks.release n })
        (World.Poised n fun _ => True) (op.run w))
      (closes : ∀ t u, R t u → engine.Closes n t u) :
      engine.Concludes n s w a ∨ ∃ e, engine.answer w a = .error e := by
    have hanswer := answer_of_perform perform w
    have hafter := after_of_perform perform w
    rcases hrun : op.run w with ⟨e | t, v⟩ <;> rw [hrun] at comes hanswer hafter
    · exact .inr ⟨e, hanswer⟩
    · obtain ⟨u, hu, rfl⟩ := comes
      rw [hafter] at found stored
      exact .inl ⟨t, u, hanswer, closes t u hu g x s found complete stored script, hafter⟩
  rcases completes.asks with asks | ⟨⟨adventure, language, rfl⟩, next⟩
  · cases a with
    | takeRoute game route =>
      exact concludes rfl (attends.takeRoute_closes route w ⟨unfinished, asks⟩) fun _ _ h => h
    | executeScript game script =>
      refine (never ?_).elim
      rw [after_of_perform rfl]
      exact (attends.executeScript_keeps course script).after ⟨unfinished, asks⟩
    | endGame game =>
      refine (never ?_).elim
      rw [after_of_perform rfl]
      exact (attends.endGame_keeps course).after ⟨unfinished, asks⟩
    | recoverGame game =>
      refine (never ?_).elim
      rw [after_of_perform rfl]
      exact (attends.recoverGame_keeps course).after ⟨unfinished, asks⟩
    | _ => exact asks.elim
  · exact concludes rfl
      (attends.startGame_closes adventure language w ⟨ready.poised, next, ready.filed⟩)
      fun _ _ h => h.1

/-- A game that an action asks for stays in its adventure. -/
theorem stays (poised : w.Poised n fun g => g.adventure = adventure) (asks : a.AsksFor w n) :
    (engine.after w a).Poised n fun g => g.adventure = adventure := by
  have course : OfCourse fun g => g.adventure = adventure := fun _ _ own _ _ _ h => own.trans h
  cases a with
  | takeRoute game route =>
    rw [after_of_perform rfl]
    exact (attends.takeRoute_keeps adventure route).after ⟨poised, asks⟩
  | executeScript game script =>
    rw [after_of_perform rfl]
    exact (attends.executeScript_keeps course script).after ⟨poised, asks⟩
  | endGame game =>
    rw [after_of_perform rfl]
    exact (attends.endGame_keeps course).after ⟨poised, asks⟩
  | recoverGame game =>
    rw [after_of_perform rfl]
    exact (attends.recoverGame_keeps course).after ⟨poised, asks⟩
  | _ => exact asks.elim

theorem ready_started (ready : w.Ready n) (starts : a.Starts w n) :
    (engine.after w a).Poised n fun _ => True := by
  obtain ⟨⟨adventure, language, rfl⟩, next⟩ := starts
  rw [after_of_perform rfl]
  refine Meets.after ((attends.startGame_closes adventure language).imp (fun _ h => h)
    (fun _ _ h => ?_) fun _ h => h) ⟨ready.poised, next, ready.filed⟩
  obtain ⟨u, ⟨-, poised⟩, rfl⟩ := h
  exact poised.congr rfl

end Attends

end Engine

/-! ### What is known of games that are complete -/

/-- On from `start`, whenever game `n` is complete, this is `Known` of its adventure. -/
structure World.Knows (n : Int) (Known : Int → World → Prop) (start w : World) : Prop
    extends World.Ready n w where
  ages : start.Ages w
  known : ∀ adventure, w.Complete n adventure → Known adventure w

/-- What stays known. -/
def Lasting (Known : Int → World → Prop) : Prop :=
  ∀ adventure w w', w.Ages w' → Known adventure w → Known adventure w'

namespace World.Knows

theorem later (knows : start.Knows n Known w) (lasting : Lasting Known) (ages : w.Ages w')
    (poised : w'.Poised n fun _ => True)
    (complete : ∀ adventure, w'.Complete n adventure → w.Complete n adventure) :
    start.Knows n Known w' :=
  ⟨⟨ages.filed knows.filed, poised⟩, knows.ages.trans ages,
    fun adventure h => lasting adventure w w' ages (knows.known adventure (complete adventure h))⟩

theorem apart (knows : start.Knows n Known w) (lasting : Lasting Known) (a : World.Apart n w w') :
    start.Knows n Known w' :=
  knows.later lasting (.story a.story) (knows.poised.apart a) fun _ complete =>
    complete.congr a.games.get?.symm

theorem imp (knows : start.Knows n Known w) (le : ∀ adventure, Known adventure w → Known' adventure w) :
    start.Knows n Known' w :=
  ⟨knows.toReady, knows.ages, fun adventure h => le adventure (knows.known adventure h)⟩

/-- After an action that is allowed, each game that is complete is known, or the action has completed
it. -/
theorem after (attends : engine.Attends) (lasting : Lasting Known)
    (spares : engine.Spares n (start.Knows n Known)) (knows : start.Knows n Known w)
    (allowed : a.ByPlayersOrRemoval) :
    start.Knows n (fun adventure u => Known adventure u ∨ engine.Completes n adventure w a)
      (engine.after w a) := by
  have ages : w.Ages (engine.after w a) := attends.ages.ages allowed w
  -- Only an operation on the game, or its start, completes it. All else leaves it alone or drops it.
  rcases Engine.after_drops engine w allowed with players | ⟨ids, games, -⟩
  · by_cases asks : a.AsksFor w n
    · obtain ⟨adventure, poised⟩ := knows.some_adventure
      have stays := attends.stays poised asks
      refine ⟨⟨ages.filed knows.filed, stays.imp fun _ _ => trivial⟩, knows.ages.trans ages,
        fun adventure' after => ?_⟩
      by_cases before : ∃ adventure, w.Complete n adventure
      · obtain ⟨adventure'', complete⟩ := before
        obtain rfl := poised.complete complete
        obtain rfl := stays.complete after
        exact .inl (lasting _ _ _ ages (knows.known _ complete))
      · exact .inr ⟨.inl asks, not_exists.1 before, after⟩
    · by_cases starts : a.Starts w n
      · refine ⟨⟨ages.filed knows.filed, attends.ready_started knows.toReady starts⟩,
          knows.ages.trans ages, fun adventure after => .inr ⟨.inr starts, ?_, after⟩⟩
        rintro adventure ⟨g, found, -⟩
        exact absurd starts.2 (Int.ne_of_gt (knows.poised.fresh (Games.has_of_get? found)))
      · refine (spares.after_other knows players asks fun adventure language same next => ?_).imp
          fun _ => .inl
        exact starts ⟨⟨adventure, language, same⟩, next.symm⟩
  · have again : w.Poised n fun g => w.games.get? n = .ok (some g) :=
      ⟨knows.poised.own, knows.poised.fresh, fun _ found => found⟩
    have left := (again.dropAll ids).congr games
    refine (knows.later lasting ages (left.imp fun _ _ => trivial) fun adventure complete => ?_).imp
      fun _ => .inl
    obtain ⟨g, found, stage⟩ := complete
    exact ⟨g, left.stored g found, stage⟩

end World.Knows

/-! ### Ending -/

namespace Engine

variable {game : Identifier} {g : Game} {t : Transcript}

/-- How a stored game ends: with the hook that is due, while it is held. -/
theorem endGame_ended (own : w.games.Own) (number : ((World.gameNumber game).run w).1 = .ok n)
    (found : w.games.get? n = .ok (some g)) (hrun : (engine.endGame game).run w = (.ok t, w')) :
    ∃ (held : Held Game) (locks : Locks) (p : Progress) (u : World), held.value = g ∧
      Carried n held ∧
      (finalHook g >>= fun hook => engine.runHook hook { held }).run { w with locks } = (.ok p, u) ∧
      t.game = p.game ∧ t.entries = p.entries ∧
      w' = { dropGame u n with locks := u.locks.release n } := by
  have keyed : (World.gameNumber game).run w = (.ok n, w) :=
    Prod.ext number (ReadOnly.gameNumber game w)
  rw [endGame_eq, run_bind_ok keyed] at hrun
  obtain ⟨locks, w'', -, deposed, rfl⟩ := World.holding_ok hrun
  obtain ⟨told, u, hfarewell, dropped⟩ := run_bind_eq_ok.1 deposed
  obtain ⟨same, rfl⟩ := Prod.mk.inj dropped
  obtain rfl := Except.ok.inj same
  obtain ⟨held, v, hheld, hend⟩ := run_bind_eq_ok.1 hfarewell
  obtain rfl : v = { w with locks } := by
    have same := ReadOnly.heldGame game { w with locks }
    rwa [hheld] at same
  obtain ⟨carried, stored⟩ := own.heldGame number hheld
  obtain rfl : held.value = g :=
    Option.some.inj (Except.ok.inj ((Games.held?_eq_some stored).2.symm.trans found))
  rw [← bind_assoc] at hend
  obtain ⟨p, v, hhook, htold⟩ := run_bind_eq_ok.1 hend
  obtain ⟨t, transcribed, sameGame, sameEntries⟩ := engine.run_transcribe p v
  obtain ⟨same, rfl⟩ := Prod.mk.inj (htold.symm.trans transcribed)
  obtain rfl := Except.ok.inj same
  exact ⟨held, locks, p, u, rfl, carried, hhook, sameGame, sameEntries, rfl⟩

/-- A game that ends after it has been completed shows nothing. If it has not been, and is not in need
of recovery, the termination script of its adventure runs to completion. -/
theorem endGame_due (own : w.games.Own) (number : ((World.gameNumber game).run w).1 = .ok n)
    (found : w.games.get? n = .ok (some g)) (sound : g.needsRecovery = false) {x : Adventure}
    (stored : w.adventures.get? g.adventure = some x) (script : x.terminationScript = some s)
    (hrun : (engine.endGame game).run w = (.ok t, w')) :
    g.completed = true ∧ t.entries = [] ∨ g.completed = false ∧
      ∃ u, engine.Ran n s t u ∧ w' = { dropGame u n with locks := u.locks.release n } := by
  obtain ⟨held, locks, p, u, rfl, carried, hhook, sameGame, sameEntries, left⟩ :=
    endGame_ended own number found hrun
  have due : (finalHook held.value).run { w with locks } =
      (.ok (if held.value.completed then none else some s), { w with locks }) := by
    unfold finalHook
    rw [run_bind_ok (run_get _), stored, sound]
    cases held.value.completed <;> simp [script]
  rw [run_bind_ok due] at hhook
  cases complete : held.value.completed with
  | true =>
    rw [complete] at hhook
    obtain ⟨hp, -⟩ := Prod.mk.inj hhook
    obtain rfl := Except.ok.inj hp
    exact .inl ⟨rfl, sameEntries⟩
  | false =>
    rw [complete] at hhook
    obtain ⟨run, hscript, entries⟩ := run_runHook hhook
    exact .inr ⟨rfl, u, ⟨_, run, p.held, _, carried.number, hscript, sameGame,
      sameEntries.trans entries⟩, left⟩

/-! ### Runs -/

/-- The world in which a script goes on when the host has replied to it. -/
def replied (engine : Engine) (request : Json) (w : World) : World :=
  let left := (engine.host request w).2
  { left with replies := left.replies ++ [(engine.host request w).1] }

variable {read : World → Json → Action} {write : World → Except Error Answer → World → Json}
  {depth : Nat} {actions : List Action}

/-- What an engine, the scripts of which nest what they ask for, has been asked for on the way from
`start` to `u`: one of the actions, or what a script has asked for, when the host has replied. -/
inductive Made (engine : Engine) (read : World → Json → Action)
    (write : World → Except Error Answer → World → Json) (depth : Nat) (start : World)
    (actions : List Action) (u : World) : Engine → World → Action → Prop
  | outside {before : List Action} {a : Action} (asked : before ++ [a] <+: actions)
      (ages : ((engine.attended read write depth).left start (before ++ [a])).Ages u) :
      Made engine read write depth start actions u (engine.attended read write depth)
        ((engine.attended read write depth).left start before) a
  | inside {k : Nat} {v : World} {request : Json} (deep : k < depth) (since : start.Ages v)
      (ages : ((engine.attended read write (k + 1)).replied request v).Ages u) :
      Made engine read write depth start actions u (engine.attended read write k) v (read v request)

theorem attended_knows (allowed : ∀ v request, (read v request).ByPlayersOrRemoval)
    (lasting : Lasting Known)
    (nested : ∀ k < depth, ∀ v request adventure, start.Ages v → v.Ready n →
      (engine.attended read write k).Completes n adventure v (read v request) →
      Known adventure ((engine.attended read write (k + 1)).replied request v)) :
    (engine.attended read write depth).Spares n (start.Knows n Known) := by
  refine spares_attended (fun _ knows => knows.poised.own)
    (fun _ _ apart knows => knows.apart lasting apart) (fun w reply knows =>
      knows.later lasting (.replied w _) (knows.poised.congr rfl) fun _ complete => complete.congr rfl)
    fun k deep spares request w knows => ?_
  intro left reply
  have after := knows.after (attended_attends allowed k) lasting spares (allowed w request)
  have aged := World.Ages.replied left [reply]
  refine ⟨⟨aged.filed after.filed, after.poised.congr rfl⟩, after.ages.trans aged,
    fun adventure complete => ?_⟩
  rcases after.known adventure (complete.congr rfl) with known | completes
  · exact lasting _ _ _ aged known
  · exact nested k deep w request adventure knows.ages knows.toReady completes

/-- Something that was asked for has completed game `n`, in an adventure. -/
def Completed (engine : Engine) (read : World → Json → Action)
    (write : World → Except Error Answer → World → Json) (depth : Nat) (n : Int) (start : World)
    (actions : List Action) (adventure : Int) (u : World) : Prop :=
  ∃ inner v a, engine.Made read write depth start actions u inner v a ∧ v.Ready n ∧
    inner.Completes n adventure v a

variable (outside : ∀ a ∈ actions, a.ByPlayersOrRemoval)
  (inside : ∀ v request, (read v request).ByPlayersOrRemoval)

theorem Made.attends {inner : Engine} {u v : World}
    (made : engine.Made read write depth start actions u inner v a)
    (inside : ∀ v request, (read v request).ByPlayersOrRemoval) : inner.Attends := by
  cases made <;> exact attended_attends inside _

theorem Made.ages {inner : Engine} {u v : World}
    (made : engine.Made read write depth start actions u inner v a) : (inner.after v a).Ages u := by
  cases made with
  | outside asked ages => rwa [left_concat] at ages
  | inside deep since ages => exact World.Ages.trans (.replied _ _) ages

theorem lasting_completed :
    Lasting (engine.Completed read write depth n start actions) := by
  rintro adventure w w' ages ⟨inner, v, a, made, ready, completes⟩
  refine ⟨inner, v, a, ?_, ready, completes⟩
  cases made with
  | outside asked aged => exact .outside asked (aged.trans ages)
  | inside deep since aged => exact .inside deep since (aged.trans ages)

include outside inside in
theorem left_knows (engine : Engine) (write : World → Except Error Answer → World → Json)
    (depth : Nat) (start : World) (ready : start.Ready n)
    (incomplete : ∀ adventure, ¬start.Complete n adventure) {done : List Action}
    (on : done <+: actions) :
    start.Knows n (engine.Completed read write depth n start actions)
      ((engine.attended read write depth).left start done) := by
  have spares : (engine.attended read write depth).Spares n
      (start.Knows n (engine.Completed read write depth n start actions)) :=
    attended_knows inside lasting_completed fun k deep v request adventure since ready completes =>
      ⟨_, v, _, .inside deep since (.refl _), ready, completes⟩
  -- On the last action, as `Made` tells an action by those that came before it.
  induction done using List.reverseRecOn with
  | nil => exact ⟨ready, .refl start, fun adventure complete => absurd complete (incomplete adventure)⟩
  | append_singleton done a ih =>
    have knows := ih ((List.prefix_append _ _).trans on)
    rw [left_concat]
    have allowed := outside a (on.subset (List.mem_append_right _ List.mem_cons_self))
    refine (knows.after (attended_attends inside depth) lasting_completed spares allowed).imp
      fun adventure known => known.elim id fun completes => ?_
    refine ⟨_, _, a, .outside on ?_, knows.toReady, completes⟩
    rw [left_concat]
    exact .refl _

/-- Game `n`, which is `g` and not in need of recovery, ends with a transcript, and the termination
script of its adventure is `s`. -/
structure Ends (engine : Engine) (n s : Int) (g : Game) (t : Transcript) (w : World)
    (game : Identifier) : Prop where
  number : ((World.gameNumber game).run w).1 = .ok n
  found : w.games.get? n = .ok (some g)
  sound : g.needsRecovery = false
  script : ∃ x, w.adventures.get? g.adventure = some x ∧ x.terminationScript = some s
  ended : engine.answer w (.endGame game) = .ok (.transcript t)

include outside inside in
/-- However the operations of players and removals are interleaved: when a game ends, the termination
script of its adventure runs to completion, or the game has been completed before and shows nothing
more. Then an operation on the game, or the start of it, has completed it. The last that this has done
is to run the termination script to completion, unless it was cut short by an error. -/
theorem ended_games (engine : Engine) (write : World → Except Error Answer → World → Json)
    (depth : Nat) (filed : start.Filed) (unfinished : start.Poised n fun g => g.completed = false)
    {g : Game} {t : Transcript} {game : Identifier}
    (ends : (engine.attended read write depth).Ends n s g t
      ((engine.attended read write depth).left start actions) game) :
    (g.completed = false ∧ ∃ u, (engine.attended read write depth).Ran n s t u ∧
      (engine.attended read write depth).after
        ((engine.attended read write depth).left start actions) (.endGame game) =
          { dropGame u n with locks := u.locks.release n }) ∨
    (g.completed = true ∧ t.entries = [] ∧ ∃ inner v a,
      engine.Made read write depth start actions
        ((engine.attended read write depth).left start actions) inner v a ∧
      inner.Completes n g.adventure v a ∧
      (inner.Concludes n s v a ∨ ∃ e, inner.answer v a = .error e)) := by
  have ready : start.Ready n := ⟨filed, unfinished.imp fun _ _ => trivial⟩
  have incomplete (adventure : Int) : ¬start.Complete n adventure := by
    rintro ⟨g, found, complete, -⟩
    exact nomatch (unfinished.stored g found).symm.trans complete
  have knows := left_knows outside inside engine write depth start ready incomplete List.prefix_rfl
  obtain ⟨x, stored, script⟩ := ends.script
  have answer := ends.ended
  have perform : (Action.endGame game).perform (engine.attended read write depth) =
    .transcript <$> (engine.attended read write depth).endGame game := rfl
  rw [answer_of_perform perform] at answer
  obtain ⟨told, hrun, same⟩ := map_ok answer
  obtain rfl := Answer.transcript.inj same
  rw [after_of_perform perform]
  rcases endGame_due knows.poised.own ends.number ends.found ends.sound stored script
    (Prod.ext hrun rfl) with ⟨complete, silent⟩ | due
  · obtain ⟨inner, v, a, made, ready, completes⟩ :=
      knows.known g.adventure ⟨g, ends.found, complete, rfl⟩
    exact .inr ⟨complete, silent, inner, v, a, made, completes, (made.attends inside).outcome ready
      completes (made.ages.stored _ x stored) script⟩
  · exact .inl due

end Engine

/-- The lane, where a word is said to part with. -/
def World.parting : World :=
  { World.lane (.memory {}) with
    adventures := { rows := [(1, { name := "Lane", terminationScript := some 1 })], ids := ⟨2⟩ } }

theorem World.filed_parting : World.parting.Filed := by
  refine ⟨fun n a found => ?_, by simp [parting, lane, Rows.Ascending]⟩
  obtain ⟨rfl, rfl⟩ := Prod.mk.inj (List.mem_singleton.1 (Rows.mem_of_get? found))
  rfl

theorem World.poised_parting : World.parting.Poised 1 P :=
  ⟨⟨fun _ _ found => (nomatch found), nofun⟩, fun has => absurd has nofun,
    fun _ found => (nomatch found)⟩

/-- The word has been said at the well, so the game that ends there has nothing left to say. -/
theorem Engine.ended_games_lane :
    let engine := Engine.reciting.attended (fun _ _ => .getGame (1 : Int)) (fun _ _ _ => .null) 1
    let actions := [.startGame (1 : Int) .null, .takeRoute (1 : Int) (1 : Int)]
    let w := engine.left World.parting actions
    engine.Ends 1 1 .arrived { game := .arrived } w (1 : Int) ∧
      ((Game.arrived.completed = false ∧ ∃ u, engine.Ran 1 1 { game := .arrived } u ∧
        engine.after w (.endGame (1 : Int)) = { dropGame u 1 with locks := u.locks.release 1 }) ∨
      (Game.arrived.completed = true ∧ Transcript.entries { game := .arrived } = [] ∧
        ∃ inner v a, Engine.reciting.Made (fun _ _ => .getGame (1 : Int)) (fun _ _ _ => .null) 1
          World.parting actions w inner v a ∧ inner.Completes 1 Game.arrived.adventure v a ∧
        (inner.Concludes 1 1 v a ∨ ∃ e, inner.answer v a = .error e))) := by
  intro engine actions w
  have ends : engine.Ends 1 1 .arrived { game := .arrived } w (1 : Int) :=
    ⟨by decide +kernel, by decide +kernel, rfl,
      ⟨{ name := "Lane", terminationScript := some 1 }, by decide +kernel, rfl⟩, by decide +kernel⟩
  have outside : ∀ a ∈ actions, a.ByPlayersOrRemoval := by
    simp [actions, Action.ByPlayersOrRemoval, Action.ByPlayers]
  have inside : World → Json → (Action.getGame (1 : Int)).ByPlayersOrRemoval := fun _ _ => trivial
  exact ⟨ends, ended_games outside inside Engine.reciting (fun _ _ _ => .null) 1
    World.filed_parting World.poised_parting ends⟩

-- When the script of the well is missing, the game is complete there, but nothing is said at parting.
example :
    let well : Location := { adventure := 1, name := "Well", final := true, enterScript := some 2 }
    let gate : Location := { adventure := 1, name := "Gate", initial := true }
    let w := Engine.reciting.left
      { World.parting with locations := { rows := [(1, gate), (2, well)], ids := ⟨3⟩ } }
      [.startGame (1 : Int) .null]
    Engine.reciting.answer w (.takeRoute (1 : Int) (1 : Int)) = .error (.notFound .script (2 : Int)) ∧
      Engine.reciting.answer (Engine.reciting.after w (.takeRoute (1 : Int) (1 : Int)))
        (.endGame (1 : Int)) = .ok (.transcript { game := .arrived }) := by
  decide +kernel

end TextAdventure
