import TextAdventure.Proofs.Engine.Beside
import TextAdventure.Proofs.Engine.Idle
import TextAdventure.Proofs.Engine.Logs

/-! Operations on different games. Either of two comes out the same whether it is done first or
second, and the same games and logs are left. One operation passes nothing on to the other one but
the time, and the time matters only where it may be too long to be written to a file. -/

namespace TextAdventure

open Op

/-- Both worlds are the same as far as game `n` goes, and time has been taken in both or in neither. -/
def World.Abreast (n : Int) (filed : Prop) (c d : Clock) (v w : World) : Prop :=
  World.Beside n filed c d v w ∨ World.Beside n filed c.tick.2 d.tick.2 v w

variable {engine : Engine} {n : Int} {filed : Prop} {c d : Clock} {v w : World} {game : Identifier}

theorem World.BesideStored.abreast (b : World.BesideStored n filed c d v w) :
    World.Abreast n filed c d v w := .inl b.toBeside

theorem World.Abreast.released (b : World.Abreast n filed c d v w) :
    World.Abreast n filed c d { v with locks := v.locks.release n }
      { w with locks := w.locks.release n } := by
  have released {c d : Clock} (b : World.Beside n filed c d v w) :
      World.Beside n filed c d { v with locks := v.locks.release n }
        { w with locks := w.locks.release n } := by
    rw [b.locks]
    exact b.locked _
  exact b.imp released released

/-! ### One operation in two worlds -/

namespace Op.Matches

/-- An operation on a game that is asked for: it is refused in both worlds, or it is done in both
with the same game held. -/
theorem onGame {α : Type} {R : α → α → Prop} {f : Int → Held Game → Op α}
    (b : World.Beside n filed c d v w) (same : w.games.get? n = v.games.get? n)
    (own : ∀ g, v.games.get? n = .ok (some g) → g.id = some n)
    (hid : ∀ k, ((World.gameNumber game).run v).1 = .ok k → k = n)
    (hf : ∀ v w h h', World.BesideStored n filed c d v w → HeldBeside n filed h h' →
      Matches (World.Abreast n filed c d) R (f n h) v (f n h') w) :
    Matches (World.Abreast n filed c d) R
      (World.gameNumber game >>= fun k => engine.holding k (World.heldGame game >>= f k)) v
      (World.gameNumber game >>= fun k => engine.holding k (World.heldGame game >>= f k)) w := by
  have asked : ((World.gameNumber game).run w).1 = ((World.gameNumber game).run v).1 :=
    World.gameNumber_filed game (b.otherKind.trans b.kind.symm)
  have hv := ReadOnly.gameNumber game v
  have hw := ReadOnly.gameNumber game w
  cases number : ((World.gameNumber game).run v).1 with
  | error e =>
    exact of_run (run_bind_error (Prod.ext number hv))
      (run_bind_error (Prod.ext (asked.trans number) hw)) (.inl b) (.error e)
  | ok k =>
    obtain rfl := hid k number
    rw [Matches, run_bind_ok (Prod.ext number hv), run_bind_ok (Prod.ext (asked.trans number) hw)]
    refine holding b (.inl b) (fun _ _ b => b.released) fun locks => ?_
    have hnumber := (World.gameNumber_locked game v locks).trans number
    have hnumber' := (World.gameNumber_locked game w locks).trans (asked.trans number)
    obtain ⟨grip, grips, run⟩ := World.heldGame_eq hnumber
    obtain ⟨grip', grips', run'⟩ := World.heldGame_eq hnumber'
    dsimp only at run run'
    rw [same] at run'
    rcases found : v.games.get? k with e | _ | g <;> rw [found] at run run'
    · exact of_run (run_bind_error run) (run_bind_error run') (.inl (b.locked locks)) (.error e)
    · exact of_run (run_bind_error run) (run_bind_error run') (.inl (b.locked locks)) (.error _)
    · rw [Matches, run_bind_ok run, run_bind_ok run']
      have held : HeldBeside k filed (grip g) (grip' g) := by
        refine ⟨by rw [(grips g).1, (grips' g).1], ?_, (grips g).2, (grips' g).2, fun _ => ?_⟩
        · rw [(grips g).1]
          exact own g found
        · rw [(grips g).1, (grips' g).1]
      exact hf _ _ _ _ ⟨b.locked locks, Games.has_of_get? found⟩ held

variable {h h' : Held Game}

theorem depart (quiet : engine.Quiet) (b : World.BesideStored n filed c d v w)
    (held : HeldBeside n filed h h')
    (long : filed → Json.isLong d.tick.1 = Json.isLong c.tick.1) (route : Identifier) :
    Matches (World.Abreast n filed c d) (fun t t' => t'.plain = t.plain)
      (engine.depart n route h) v (engine.depart n route h') w := by
  obtain ⟨time, hvalue⟩ := Game.untimed_eq held.value
  unfold Engine.depart
  rw [hvalue]
  dsimp only
  split
  · exact .throw b.abreast _
  refine .read (.route _) b.abreast b.story fun way _ => ?_
  split
  · exact .read (.number _ _) b.abreast b.story fun _ _ => .throw b.abreast _
  refine .read (.location _) b.abreast b.story fun origin _ =>
    .read (.location _) b.abreast b.story fun destination _ => ?_
  have start : ProgressBeside n filed { held := h } { held := h' } := ⟨rfl, held⟩
  refine (travel quiet b start long way origin destination).step
    (fun _ _ t => t.imp (·.toBeside) (·.toBeside)) fun p p' v w t same => ?_
  rcases t with b | b
  · exact (transcribe b same).mono (fun _ _ b => .inl b.toBeside) fun _ _ => id
  · exact (transcribe b same).mono (fun _ _ b => .inr b.toBeside) fun _ _ => id

theorem finish (quiet : engine.Quiet) (b : World.BesideStored n filed c d v w)
    (held : HeldBeside n filed h h') (hook : Option Int) :
    Matches (World.Abreast n filed c d) (fun t t' => t'.plain = t.plain)
      (do
        let transcript ← engine.transcribe (← engine.runHook hook { held := h })
        modify fun w => Authoring.dropGame w n
        return transcript) v
      (do
        let transcript ← engine.transcribe (← engine.runHook hook { held := h' })
        modify fun w => Authoring.dropGame w n
        return transcript) w := by
  have start : ProgressBeside n filed { held := h } { held := h' } := ⟨rfl, held⟩
  refine (runHook quiet b start hook).step (fun _ _ b => b.abreast) fun p p' v w b same => ?_
  refine (transcribe b same).step (fun _ _ b => b.abreast) fun t t' v w b told => ?_
  refine .of_run rfl rfl (.inl ?_) (.ok told)
  refine ⟨b.story, b.locks, (Games.filed_remove _ _).trans b.kind,
    (Games.filed_remove _ _).trans b.otherKind, ?_, ?_, ?_, b.clock, b.otherClock⟩
  · exact (Games.has_remove _ _ _).trans ((and_congr_right fun _ => b.has).trans
      (Games.has_remove _ _ _).symm)
  · show ((w.games.remove n).get? n).map _ = ((v.games.remove n).get? n).map _
    rw [Games.get?_remove, Games.get?_remove, if_pos rfl, if_pos rfl]
  · show ((w.journal.clear n).entries n).map _ = ((v.journal.clear n).entries n).map _
    rw [Journal.entries_clear_self, Journal.entries_clear_self]

theorem recover (b : World.BesideStored n filed c d v w) (held : HeldBeside n filed h h') :
    Matches (World.Abreast n filed c d) (fun g g' => g'.untimed = g.untimed)
      (if h.value.needsRecovery then do
        return (← World.updateGame { h with value := { h.value with needsRecovery := false } }).value
      else return h.value) v
      (if h'.value.needsRecovery then do
        return (← World.updateGame { h' with value := { h'.value with needsRecovery := false } }).value
      else return h'.value) w := by
  obtain ⟨time, hvalue⟩ := Game.untimed_eq held.value
  have flagged : h'.value.needsRecovery = h.value.needsRecovery := by rw [hvalue]
  rw [flagged]
  split
  · have recovered : HeldBeside n filed
        { h with value := { h.value with needsRecovery := false } }
        { h' with value := { h'.value with needsRecovery := false } } :=
      ⟨by rw [hvalue]; rfl, held.number, held.place, held.otherPlace, held.long⟩
    exact (updateGame b recovered).step (fun _ _ b => b.abreast) fun k k' v w b again =>
      .pure b.abreast again.value
  · exact .pure b.abreast held.value

end Op.Matches

/-- An operation on game `n` comes out the same in both worlds. -/
theorem Engine.Quiet.matches (quiet : engine.Quiet) {a : Action} (asks : a.game? = some game)
    (b : World.Beside n filed c d v w) (same : w.games.get? n = v.games.get? n)
    (own : ∀ g, v.games.get? n = .ok (some g) → g.id = some n)
    (hid : ∀ k, ((World.gameNumber game).run v).1 = .ok k → k = n)
    (long : filed → Json.isLong d.tick.1 = Json.isLong c.tick.1) :
    Op.Matches (World.Abreast n filed c d) (fun r r' => r'.plain = r.plain)
      (a.perform engine) v (a.perform engine) w := by
  cases a with
  | takeRoute asked route =>
    obtain rfl := Option.some.inj asks
    exact Op.Matches.map (.onGame b same own hid fun v w h h' b held =>
      .depart quiet b held long route) fun t t' told => congrArg Answer.transcript told
  | executeScript asked script =>
    obtain rfl := Option.some.inj asks
    exact Op.Matches.map (.onGame b same own hid fun v w h h' b held =>
      (Op.Matches.executeStored quiet b held script).step (fun _ _ b => b.abreast)
        fun r r' v w b run => .pure b.abreast run.run) fun r r' run => congrArg Answer.scriptRun run
  | endGame asked =>
    obtain rfl := Option.some.inj asks
    refine Op.Matches.map (.onGame b same own hid fun v w h h' b held => ?_)
      fun t t' told => congrArg Answer.transcript told
    obtain ⟨time, hvalue⟩ := Game.untimed_eq held.value
    have hook : Engine.finalHook h'.value = Engine.finalHook h.value := by
      rw [hvalue]
      rfl
    rw [hook]
    exact .read (.finalHook _) b.abreast b.story fun hook _ => .finish quiet b held hook
  | recoverGame asked =>
    obtain rfl := Option.some.inj asks
    exact Op.Matches.map (.onGame b same own hid fun v w h h' b held => .recover b held)
      fun g g' again => congrArg Answer.game again
  | _ => exact nomatch asks

/-- An operation on game `n` leaves the time alone, or takes it once, and nothing is held because of
it. -/
theorem Engine.Quiet.besides (quiet : engine.Quiet)
    (own : ∀ k g, w.games.get? k = .ok (some g) → g.id = some k) {a : Action}
    (asks : a.game? = some game) (hid : ∀ k, ((World.gameNumber game).run w).1 = .ok k → k = n) :
    ((engine.after w a).clock = w.clock ∨ (engine.after w a).clock = w.clock.tick.2) ∧
      ((engine.after w a).games.Filed ↔ w.games.Filed) ∧ (engine.after w a).locks = w.locks := by
  have start : World.Beside n w.games.Filed w.clock w.clock w w :=
    ⟨rfl, rfl, Iff.rfl, Iff.rfl, Iff.rfl, rfl, rfl, rfl, rfl⟩
  have left : World.Abreast n w.games.Filed w.clock w.clock (engine.after w a) (engine.after w a) :=
    (quiet.matches asks start rfl (own n) hid fun _ => rfl).1
  have byPlayer : ¬a.ByHost := by
    cases a with
    | takeRoute _ _ | executeScript _ _ | endGame _ | recoverGame _ => exact id
    | _ => exact nomatch asks
  have locks := quiet.locks byPlayer w
  rcases left with left | left
  · exact ⟨.inl left.clock, left.kind, locks⟩
  · exact ⟨.inr left.clock, left.kind, locks⟩

theorem Similar.plain {x y : Except Error Answer}
    (h : Similar (fun r r' => r'.plain = r.plain) x y) : y.map Answer.plain = x.map Answer.plain := by
  cases h with
  | ok same => exact congrArg Except.ok same
  | error e => rfl

theorem World.Abreast.sameGame (h : World.Abreast n filed c d v w) :
    (w.games.get? n).map (Option.map Game.untimed) = (v.games.get? n).map (Option.map Game.untimed) ∧
      (w.journal.entries n).map Content.unnumbered = (v.journal.entries n).map Content.unnumbered := by
  rcases h with h | h <;> exact ⟨h.game, h.log⟩

/-! ### One operation after another -/

namespace Engine

/-- Two actions come out the same whichever of them is done first: both answer the same, and the same
games and logs are left, but for times and the numbers of entries. -/
structure Commutes (engine : Engine) (w : World) (a b : Action) : Prop where
  first : (engine.answer (engine.after w b) a).map Answer.plain =
    (engine.answer w a).map Answer.plain
  second : (engine.answer (engine.after w a) b).map Answer.plain =
    (engine.answer w b).map Answer.plain
  games : ∀ n, ((engine.left w [b, a]).games.get? n).map (Option.map Game.untimed) =
    ((engine.left w [a, b]).games.get? n).map (Option.map Game.untimed)
  logs : ∀ n, ((engine.left w [b, a]).journal.entries n).map Content.unnumbered =
    ((engine.left w [a, b]).journal.entries n).map Content.unnumbered

section Two

variable {m : Int} (quiet : engine.Quiet) {a b : Action} {other : Identifier}
  (own : ∀ k g, w.games.get? k = .ok (some g) → g.id = some k)
include quiet own

/-- What an operation on game `n` answers after one on game `m`, and what is left of games but `m`. -/
theorem after_other (asks : a.game? = some game) (asksOther : b.game? = some other) (ne : n ≠ m)
    (hid : ∀ k, ((World.gameNumber game).run w).1 = .ok k → k = n)
    (hidOther : ∀ k, ((World.gameNumber other).run w).1 = .ok k → k = m)
    (long : w.games.Filed → Json.isLong w.clock.tick.2.tick.1 = Json.isLong w.clock.tick.1) :
    (engine.answer (engine.after w b) a).map Answer.plain = (engine.answer w a).map Answer.plain ∧
      ∀ k, k ≠ m →
        ((engine.left w [b, a]).games.get? k).map (Option.map Game.untimed) =
            ((engine.left w [a, b]).games.get? k).map (Option.map Game.untimed) ∧
          ((engine.left w [b, a]).journal.entries k).map Content.unnumbered =
            ((engine.left w [a, b]).journal.entries k).map Content.unnumbered := by
  have only := quiet.only own asks hid
  have onlyOther := quiet.only own asksOther hidOther
  obtain ⟨-, filed, -⟩ := quiet.besides own asks hid
  obtain ⟨clock, filedOther, locks⟩ := quiet.besides own asksOther hidOther
  -- The worlds before and after the other operation are the same as far as game `n` goes.
  have start : World.Beside n w.games.Filed w.clock (engine.after w b).clock w (engine.after w b) :=
    ⟨onlyOther.story, locks, Iff.rfl, filedOther, onlyOther.has n ne,
      by rw [onlyOther.games n ne], by rw [onlyOther.entries n ne], rfl, rfl⟩
  have alike : World.Abreast n w.games.Filed w.clock (engine.after w b).clock (engine.after w a)
        (engine.after (engine.after w b) a) ∧ Similar (fun r r' : Answer => r'.plain = r.plain)
      (engine.answer w a) (engine.answer (engine.after w b) a) := by
    refine quiet.matches asks start (onlyOther.games n ne) (own n) hid fun kept => ?_
    rcases clock with same | ticked
    · rw [same]
    · rw [ticked, long kept]
  refine ⟨alike.2.plain, fun k hk => ?_⟩
  have last : World.Only m (engine.after w a) (engine.left w [a, b]) :=
    quiet.only only.own asksOther fun k hk =>
      hidOther k ((World.gameNumber_filed other filed).symm.trans hk)
  rw [last.games k hk, last.entries k hk]
  by_cases here : k = n
  · subst here
    exact World.Abreast.sameGame alike.1
  · have lastOther : World.Only n (engine.after w b) (engine.left w [b, a]) :=
      quiet.only onlyOther.own asks fun k hk =>
        hid k ((World.gameNumber_filed game filedOther).symm.trans hk)
    rw [lastOther.games k here, lastOther.entries k here, onlyOther.games k hk,
      onlyOther.entries k hk, only.games k here, only.entries k here]
    exact ⟨rfl, rfl⟩

omit quiet own in
/-- Operations that ask for different games are about different numbers, even where they ask for no
game at all. -/
theorem exists_apart (different : ∀ n, ((World.gameNumber game).run w).1 = .ok n →
      ((World.gameNumber other).run w).1 ≠ .ok n) :
    ∃ n m, n ≠ m ∧ (∀ k, ((World.gameNumber game).run w).1 = .ok k → k = n) ∧
      ∀ k, ((World.gameNumber other).run w).1 = .ok k → k = m := by
  cases number : ((World.gameNumber game).run w).1 with
  | error e =>
    cases numberOther : ((World.gameNumber other).run w).1 with
    | error e' => exact ⟨0, 1, by decide, nofun, nofun⟩
    | ok m => exact ⟨m + 1, m, by omega, nofun, fun k hk => (Except.ok.inj hk).symm⟩
  | ok n =>
    cases numberOther : ((World.gameNumber other).run w).1 with
    | error e => exact ⟨n, n + 1, by omega, fun k hk => (Except.ok.inj hk).symm, nofun⟩
    | ok m =>
      refine ⟨n, m, ?_, fun k hk => (Except.ok.inj hk).symm, fun k hk => (Except.ok.inj hk).symm⟩
      rintro rfl
      exact different n number numberOther

/-- Operations on different games commute, whether they succeed or fail. Where games are kept in files,
this takes that the next two times of the clock can both be written, or neither of them. -/
theorem operations_commute (asks : a.game? = some game) (asksOther : b.game? = some other)
    (different : ∀ n, ((World.gameNumber game).run w).1 = .ok n →
      ((World.gameNumber other).run w).1 ≠ .ok n)
    (long : w.games.Filed → Json.isLong w.clock.tick.2.tick.1 = Json.isLong w.clock.tick.1) :
    engine.Commutes w a b := by
  obtain ⟨n, m, ne, hid, hidOther⟩ := exists_apart different
  obtain ⟨first, elsewhere⟩ := after_other quiet own asks asksOther ne hid hidOther long
  obtain ⟨second, here⟩ := after_other quiet own asksOther asks ne.symm hidOther hid long
  refine ⟨first, second, fun k => ?_, fun k => ?_⟩
  · by_cases hk : k = m
    · exact ((here k (hk ▸ ne.symm)).1).symm
    · exact (elsewhere k hk).1
  · by_cases hk : k = m
    · exact ((here k (hk ▸ ne.symm)).2).symm
    · exact (elsewhere k hk).2

end Two

/-- Of two games that are started, one is taken down the lane and the other one ends. -/
theorem operations_commute_lane :
    let w := reciting.left (World.lane (.files {}))
      [.startGame (1 : Int) .null, .startGame (1 : Int) .null]
    reciting.Commutes w (.takeRoute (1 : Int) (1 : Int)) (.endGame (2 : Int)) := by
  intro w
  have kept : Kept w := left_kept quiet_reciting (by simp [Action.Inside]) World.blank_lane.kept
  have different (n : Int) (first : ((World.gameNumber (1 : Int)).run w).1 = .ok n) :
      ((World.gameNumber (2 : Int)).run w).1 ≠ .ok n := by
    rw [World.run_gameNumber_number] at first ⊢
    obtain rfl := Except.ok.inj first
    decide
  exact operations_commute quiet_reciting (fun k g found => (kept.own k g found).1) rfl rfl different
    fun _ => by decide +kernel

/-- After two games were started, the clock tells the last time that can be written. Only the game that
goes down the lane first arrives. -/
theorem not_commutes_lane :
    let clock : Clock :=
      { reading := fun k => if k < 2 then 0 else Nat.pow 10 Numeral.mostDigits - 1 }
    let w := reciting.left { World.lane (.files {}) with clock }
      [.startGame (1 : Int) .null, .startGame (1 : Int) .null]
    ¬reciting.Commutes w (.takeRoute (1 : Int) (1 : Int)) (.takeRoute (2 : Int) (1 : Int)) := by
  intro clock w commutes
  have succeeds (r : Except Error Answer) : (r.map Answer.plain).toBool = r.toBool := by
    cases r <;> rfl
  have first : (reciting.answer w (.takeRoute (1 : Int) (1 : Int))).toBool = true := by
    decide +kernel
  have second : (reciting.answer (reciting.after w (.takeRoute (2 : Int) (1 : Int)))
      (.takeRoute (1 : Int) (1 : Int))).toBool = false := by decide +kernel
  have same := congrArg Except.toBool commutes.first
  rw [succeeds, succeeds, first, second] at same
  exact nomatch same

end Engine

end TextAdventure
