import TextAdventure.Proofs.Engine.Logs
import TextAdventure.Proofs.Engine.Stores
import TextAdventure.Proofs.Engine.Stopped

/-! When games are in need of recovery: from when a script of theirs was stopped until they are
recovered. In between they are at a halt, and can only be recovered, read, ended or removed. A game
that does not fit into its file when a script of it is stopped is not kept as one in need of
recovery. -/

namespace TextAdventure

open Op

variable {engine : Engine} {w w' : World} {n : Int} {a : Action} {g : Game} {game : Identifier}

/-- The action may run scripts for game `n`: the game is the one that is asked for, or the next one to
be started. -/
def Action.RunsFor (n : Int) (w : World) : Action → Prop
  | .startGame _ _ => n = w.games.ids.next
  | .takeRoute game _ | .executeScript game _ | .endGame game =>
    ((World.gameNumber game).run w).1 = .ok n
  | _ => False

/-- A script that was stopped ends what it is run in with that error alone. -/
theorem Ending.error?_stop {ending : Ending} {k : Int} {e : Error} (stopped : ending.isStop = true)
    (ended : ending.error? k = some e) : ∃ message, e = .scriptTimedOut k message := by
  rcases ending with _ | ⟨message, _ | _⟩ | _
  · exact nomatch stopped
  · exact nomatch stopped
  · exact ⟨message, (Option.some.inj ended).symm⟩
  · exact nomatch stopped

namespace Engine

/-- A script that was run for game `n` in an action was stopped. -/
def Stops (engine : Engine) (n : Int) (w : World) (a : Action) : Prop :=
  a.RunsFor n w ∧ ∃ ending, ending.isStop = true ∧ engine.BrokenBy n w a ending

/-- A game that is kept in a file was not written, since a number in it is too long for that. -/
def Unwritten (engine : Engine) (w : World) (a : Action) : Prop :=
  (engine.after w a).games.Filed ∧ engine.answer w a = .error .tooLongToWrite

/-- Game `n` was recovered, or found to be in no need of it. -/
def Recovers (engine : Engine) (n : Int) (w : World) (a : Action) : Prop :=
  ∃ game g, a = .recoverGame game ∧ ((World.gameNumber game).run w).1 = .ok n ∧
    engine.answer w a = .ok (.game g)

/-- A script of game `n` was stopped on the way, the game was written, and has not been recovered
since. -/
def StoppedSince (engine : Engine) (n : Int) (w : World) (actions : List Action) : Prop :=
  ∃ before a rest, actions = before ++ a :: rest ∧ engine.Stops n (engine.left w before) a ∧
    ¬engine.Unwritten (engine.left w before) a ∧
    engine.Throughout (fun v b => ¬engine.Recovers n v b) (engine.after (engine.left w before) a) rest

/-! ### Games that an action is not about -/

/-- An action that plays no game leaves games alone, or drops some. -/
theorem after_silent (engine : Engine) (inside : a.Inside) (silent : ¬a.Plays) (w : World) :
    (engine.after w a).games = w.games ∨ ∃ ids, Authoring.Dropped ids w (engine.after w a) := by
  have removal {α : Type} {kind : Kind} {found : Op α} {asked : Identifier} {force : Bool}
      {belongs : Int → Game → Bool} {cut : Int → List Int → World → World} (readOnly : ReadOnly found)
      (perform : a.perform engine =
        (fun _ => .done) <$> Authoring.removal kind found asked force belongs cut)
      (drops : ∀ id ids, Authoring.Dropped ids w (cut id ids w)) :
      (engine.after w a).games = w.games ∨ ∃ ids, Authoring.Dropped ids w (engine.after w a) := by
    rw [after_of_perform perform]
    rcases Authoring.run_removal readOnly asked force belongs cut w with
      ⟨e, hrun⟩ | ⟨id, games, -, -, -, -, hrun⟩ <;> rw [hrun]
    · exact .inl rfl
    · exact .inr ⟨_, drops id _⟩
  have aside (h : a.IsAside) : (engine.after w a).games = w.games := (a.aside h w).games
  have looks (h : a.Looks) : (engine.after w a).games = w.games :=
    congrArg World.games (h.readOnly w)
  cases a with
  | startGame _ _ | takeRoute _ _ | executeScript _ _ | endGame _ | recoverGame _ =>
    exact absurd trivial silent
  | getGame _ | availableRoutes _ | contents _ _ _ | textAt _ _ | transcript _ =>
    exact .inl (looks trivial)
  | removeLocation location force =>
    exact removal (.location location) rfl fun id ids => Authoring.dropped_withoutLocation id ids w
  | removeAdventure adventure force =>
    exact removal (.adventure adventure) rfl fun id ids => Authoring.dropped_withoutAdventure id ids w
  | append game copyKey text => exact inside.elim
  | clearLog game => exact inside.elim
  | addGame claim g => exact inside.elim
  | addLanguage claim l =>
    refine .inl ?_
    rw [after_of_perform rfl, Op.addLanguage, run_bind_ok (run_get w), run_bind, run_ofExcept]
    cases w.languages.add claim l <;> rfl
  | _ => exact .inl (aside trivial)

/-- What an operation asks for by an identifier is some game other than `n`. -/
theorem exists_other (other : ((World.gameNumber game).run w).1 ≠ .ok n) :
    ∃ m, n ≠ m ∧ ∀ k, ((World.gameNumber game).run w).1 = .ok k → k = m := by
  cases number : ((World.gameNumber game).run w).1 with
  | error e => exact ⟨n + 1, by omega, fun k hk => nomatch hk⟩
  | ok m => exact ⟨m, fun same => other (same ▸ number), fun k hk => (Except.ok.inj hk).symm⟩

/-- A game that an action is not about is stored as it was, if it is stored still. -/
theorem elsewhere (quiet : engine.Quiet) (kept : Kept w) (inside : a.Inside)
    (other : ¬a.RunsFor n w)
    (asked : ∀ game, a = .recoverGame game → ((World.gameNumber game).run w).1 ≠ .ok n)
    (has : (engine.after w a).games.Has n) :
    (engine.after w a).games.get? n = w.games.get? n := by
  have own (k : Int) (g : Game) (found : w.games.get? k = .ok (some g)) : g.id = some k :=
    (kept.own k g found).1
  cases a with
  | startGame adventure language =>
    have starts := started quiet (ofBearings_answers (w := w) language) adventure language
      (starts_answers language)
    rw [after_of_perform rfl] at has ⊢
    generalize (engine.startGame adventure language).run w = outcome at starts has ⊢
    cases starts with
    | refused e clock le => exact Games.get?_withIds _ _ _
    | added number holds puts ids advances told =>
      exact (advances.games.others n other).trans ((puts.get? n).trans (if_neg other))
  | takeRoute game _ | executeScript game _ | endGame game =>
    obtain ⟨m, ne, hid⟩ := exists_other other
    exact (quiet.only own rfl hid).games n ne
  | recoverGame game =>
    obtain ⟨m, ne, hid⟩ := exists_other (asked game rfl)
    exact (quiet.only own rfl hid).games n ne
  | _ =>
    rcases engine.after_silent inside nofun w with same | ⟨ids, drops⟩
    · rw [same]
    · rw [drops.get?, if_neg ((drops.has n).1 has).1]

/-! ### One action -/

theorem recoverGame_yields (own : ∀ g, w.games.get? n = .ok (some g) → g.id = some n)
    (number : (World.gameNumber game).run w = (.ok n, w)) :
    Yields (engine.recoverGame game) w (fun _ v => v.games.Clear n) fun _ v => v = w := by
  refine yields_numbered number <| .holding (fun _ _ => rfl) fun locks hold => ?_
  have restored : ({ w with locks := locks.release n } : World) = w := by
    rw [Locks.release_hold hold]
  refine .read (.heldGame _) (fun _ _ => restored) fun held hheld => ?_
  obtain ⟨-, m, hm, place, found⟩ := World.run_heldGame hheld
  rw [World.gameNumber_locked, number] at hm
  obtain rfl : n = m := Except.ok.inj hm
  split
  · refine .bind (Q := fun _ v => v.games.Clear n) ?_ fun held' v clear => .pure clear
    have number : held.value.id = some n := own held.value found
    rcases World.run_updateGame (h := { held with value := { held.value with needsRecovery := false } })
      number place (w := { w with locks }) (Games.has_of_get? found) with
      ⟨held', games, hupdate, -, -, puts, -⟩ | ⟨-, hupdate⟩
    · exact .of_run hupdate fun g found => puts.needsRecovery found
    · exact .of_run hupdate restored
  · rename_i clear
    refine .pure fun g again => ?_
    obtain rfl := Option.some.inj (Except.ok.inj (found.symm.trans again))
    exact Bool.eq_false_iff.2 clear

/-- Recovering a game succeeds, and it is in need of recovery no longer, or it changes nothing. -/
theorem recoverGame_cases (engine : Engine)
    (own : ∀ g, w.games.get? n = .ok (some g) → g.id = some n)
    (number : ((World.gameNumber game).run w).1 = .ok n) :
    engine.Recovers n w (.recoverGame game) ∧
        (engine.after w (.recoverGame game)).games.Clear n ∨
      ¬engine.Recovers n w (.recoverGame game) ∧ engine.after w (.recoverGame game) = w := by
  have yields : Yields (engine.recoverGame game) w (fun _ v => v.games.Clear n) fun _ v => v = w :=
    recoverGame_yields own (Prod.ext number (ReadOnly.gameNumber game w))
  have perform : (Action.recoverGame game).perform engine = .game <$> engine.recoverGame game := rfl
  have after := after_of_perform perform w
  have answer := answer_of_perform perform w
  rcases hrun : (engine.recoverGame game).run w with ⟨e | g, v⟩ <;> rw [hrun] at after answer
  · refine .inr ⟨?_, after.trans (yields.error hrun)⟩
    rintro ⟨_, g, -, -, answered⟩
    exact nomatch answer.symm.trans answered
  · rw [after]
    exact .inl ⟨⟨game, g, rfl, number, answer⟩, yields.ok hrun⟩

/-- A stopped script leaves its game in need of recovery, unless the game cannot be written. -/
theorem Stops.flagged (quiet : engine.Quiet) (stops : engine.Stops n w a)
    (written : ¬engine.Unwritten w a) (kept : Kept (engine.after w a)) :
    (engine.after w a).games.Flagged n := by
  obtain ⟨-, ending, stopped, e, v, breaks, answered, left⟩ := stops
  have games : (engine.after w a).games = v.games := by rw [left]
  obtain ⟨has, ⟨-, flags⟩ | ⟨filed, rfl, -⟩⟩ := breaks.cases quiet
  · obtain ⟨g, found⟩ := kept.readable n (games ▸ has)
    exact ⟨g, found, (flags g (games ▸ found)).trans stopped⟩
  · exact absurd ⟨games ▸ filed, answered⟩ written

/-- A script was stopped in an operation after which a game is in need of recovery that was not so
before. -/
theorem stops_of_yields (quiet : engine.Quiet) {α : Type} {op : Op α} {tell : α → Answer}
    (perform : a.perform engine = tell <$> op) (runs : a.RunsFor n w) (clear : w.games.Clear n)
    (yields : Yields op w (fun _ v => v.games.Clear n) (engine.Fails n w fun _ => True))
    (flagged : (engine.after w a).games.Flagged n) :
    engine.Stops n w a ∧ ¬engine.Unwritten w a ∧ engine.Waits := by
  obtain ⟨g, found, needs⟩ := flagged
  have after := after_of_perform perform w
  have answer := answer_of_perform perform w
  have still {v : World} (clear : v.games.Clear n) (found : v.games.get? n = .ok (some g)) : False :=
    absurd needs (Bool.eq_false_iff.1 (clear g found))
  rcases hrun : op.run w with ⟨e | r, v⟩ <;> rw [hrun] at after answer <;> rw [after] at found
  · have fails := yields.error hrun
    cases fails with
    | refused => exact (still clear ((Games.get?_withIds _ _ _).symm.trans found)).elim
    | checked _ clear => exact (still clear found).elim
    | @broken ending _ v' waits breaks =>
      obtain ⟨-, ⟨⟨k, ended⟩, flags⟩ | ⟨-, -, clear⟩⟩ := breaks.cases quiet
      · have stopped : ending.isStop = true := (flags g found).symm.trans needs
        refine ⟨⟨runs, ending, stopped, e, v', breaks, answer, after⟩, fun unwritten => ?_, waits⟩
        obtain ⟨message, rfl⟩ := Ending.error?_stop stopped ended
        exact nomatch answer.symm.trans unwritten.2
      · exact (still clear found).elim
  · exact (still (yields.ok hrun) found).elim

/-- A game that an action runs scripts for comes to be in need of recovery only if one of them is
stopped. -/
theorem stops_of_clear (quiet : engine.Quiet)
    (own : ∀ g, w.games.get? n = .ok (some g) → g.id = some n) (runs : a.RunsFor n w)
    (clear : w.games.Clear n) (flagged : (engine.after w a).games.Flagged n) :
    engine.Stops n w a ∧ ¬engine.Unwritten w a ∧ engine.Waits := by
  have admits {adventure : Int} {hook : Option Int} :
      engine.AdmitsHook w adventure (fun _ => True) hook := fun _ _ _ _ _ _ => trivial
  have leads (g : Game) : engine.Leads w (fun _ => True) g :=
    ⟨fun _ _ _ _ _ _ => trivial, fun _ _ _ _ => admits, fun _ _ _ _ _ _ => admits,
      fun _ _ _ _ _ _ => admits, fun _ _ => admits⟩
  have number {game : Identifier} (runs : ((World.gameNumber game).run w).1 = .ok n) :
      (World.gameNumber game).run w = (.ok n, w) := Prod.ext runs (ReadOnly.gameNumber game w)
  cases a with
  | startGame adventure language =>
    have next : n = w.games.ids.next := runs
    subst next
    exact stops_of_yields quiet rfl runs clear (startGame_yields quiet (fun _ _ => trivial)
      ⟨fun _ _ _ => admits, fun _ _ _ _ _ _ _ => admits, fun _ _ _ => admits⟩ _ _) flagged
  | takeRoute game route =>
    exact stops_of_yields quiet rfl runs clear (takeRoute_yields quiet (fun _ _ => trivial) own
      clear (fun _ _ => trivial) (number runs) (fun g _ => leads g) route) flagged
  | executeScript game script =>
    exact stops_of_yields quiet rfl runs clear (executeScript_yields quiet (fun _ _ => trivial)
      own clear (fun _ _ => trivial) (number runs) fun _ _ _ _ _ _ => trivial) flagged
  | endGame game =>
    exact stops_of_yields quiet rfl runs clear (endGame_yields quiet (fun _ _ => trivial) own
      clear (fun _ _ => trivial) (number runs) fun _ _ _ _ => admits) flagged
  | _ => exact runs.elim

section Step

variable (quiet : engine.Quiet) (kept : Kept w) (inside : a.Inside)
include quiet kept inside

/-- An action that runs no scripts for a stored game recovers it, or leaves it as it is. -/
theorem recovers_or_same (other : ¬a.RunsFor n w) (has : (engine.after w a).games.Has n) :
    engine.Recovers n w a ∧ (engine.after w a).games.Clear n ∨
      ¬engine.Recovers n w a ∧ (engine.after w a).games.get? n = w.games.get? n := by
  by_cases asked : ∃ game, a = .recoverGame game ∧ ((World.gameNumber game).run w).1 = .ok n
  · obtain ⟨game, rfl, number⟩ := asked
    rcases recoverGame_cases engine (fun g found => (kept.own n g found).1) number with
      recovered | ⟨unrecovered, same⟩
    · exact .inl recovered
    · exact .inr ⟨unrecovered, by rw [same]⟩
  · refine .inr ⟨?_, elsewhere quiet kept inside other
      (fun game h number => asked ⟨game, h, number⟩) has⟩
    rintro ⟨game, -, h, number, -⟩
    exact asked ⟨game, h, number⟩

/-- A game is in need of recovery after an action if a script of it was stopped, or it was so
before. -/
theorem stops_or_flagged (flagged : (engine.after w a).games.Flagged n) :
    (engine.Stops n w a ∧ ¬engine.Unwritten w a ∧ engine.Waits) ∨
      w.games.Flagged n ∧ ¬engine.Recovers n w a := by
  have ⟨g, found, needs⟩ := flagged
  by_cases runs : a.RunsFor n w
  · rcases w.games.clear_or n with clear | before
    · exact .inl (stops_of_clear quiet (fun g found => (kept.own n g found).1) runs clear flagged)
    · refine .inr ⟨before, ?_⟩
      rintro ⟨game, g, rfl, -⟩
      exact runs
  · rcases recovers_or_same quiet kept inside runs (Games.has_of_get? found) with
      ⟨-, clear⟩ | ⟨unrecovered, same⟩
    · exact absurd needs (Bool.eq_false_iff.1 (clear g found))
    · exact .inr ⟨⟨g, same ▸ found, needs⟩, unrecovered⟩

omit quiet inside in
/-- An action that would run scripts for a game in need of recovery changes nothing, whether the game
can be held or not, unless it ends the game. -/
theorem after_halted (flagged : w.games.Flagged n) (runs : a.RunsFor n w) :
    engine.after w a = w ∨ engine.after w a = Authoring.dropGame w n := by
  obtain ⟨g, found, needs⟩ := flagged
  have number {game : Identifier} (asked : ((World.gameNumber game).run w).1 = .ok n) :
      (World.gameNumber game).run w = (.ok n, w) := Prod.ext asked (ReadOnly.gameNumber game w)
  cases a with
  | startGame adventure language =>
    have next : n = w.games.ids.next := runs
    exact absurd next (Int.ne_of_lt (kept.fresh n (Games.has_of_get? found)))
  | takeRoute game route =>
    refine .inl ((after_of_perform rfl w).trans ?_)
    cases hold : w.locks.hold engine.settings.busyTimeout n with
    | error e => exact congrArg Prod.snd (run_refused (number runs) hold _)
    | ok locks => exact congrArg Prod.snd (run_takeRoute_flagged (number runs) found needs hold route)
  | executeScript game script =>
    refine .inl ((after_of_perform rfl w).trans ?_)
    cases hold : w.locks.hold engine.settings.busyTimeout n with
    | error e => exact congrArg Prod.snd (run_refused (number runs) hold _)
    | ok locks =>
      obtain ⟨e, run, -⟩ := run_executeScript_flagged (number runs) found needs hold script
      exact congrArg Prod.snd run
  | endGame game =>
    have left : engine.after w (.endGame game) = ((engine.endGame game).run w).2 :=
      after_of_perform rfl w
    rw [left]
    cases hold : w.locks.hold engine.settings.busyTimeout n with
    | error e =>
      rw [endGame_eq]
      exact .inl (congrArg Prod.snd (run_refused (number runs) hold _))
    | ok locks =>
      have run := run_endGame_flagged (number runs) found needs hold engine.runtime
      exact .inr (congrArg Prod.snd run)
  | _ => exact runs.elim

/-- A game in need of recovery is so until it is recovered. -/
theorem flagged_after (flagged : w.games.Flagged n) (unrecovered : ¬engine.Recovers n w a)
    (has : (engine.after w a).games.Has n) : (engine.after w a).games.Flagged n := by
  by_cases runs : a.RunsFor n w
  · have halts : engine.after w a = w ∨ engine.after w a = Authoring.dropGame w n :=
      after_halted kept flagged runs
    rcases halts with same | dropped
    · rw [same]
      exact flagged
    · rw [dropped] at has
      exact absurd rfl ((Games.has_remove w.games n n).1 has).1
  · rcases recovers_or_same quiet kept inside runs has with ⟨recovered, -⟩ | ⟨-, same⟩
    · exact absurd recovered unrecovered
    · obtain ⟨g, found, needs⟩ := flagged
      exact ⟨g, same ▸ found, needs⟩

end Step

/-! ### Runs -/

theorem stoppedSince_cons {rest : List Action} : engine.StoppedSince n w (a :: rest) ↔
    (engine.Stops n w a ∧ ¬engine.Unwritten w a ∧
      engine.Throughout (fun v b => ¬engine.Recovers n v b) (engine.after w a) rest) ∨
    engine.StoppedSince n (engine.after w a) rest := by
  constructor
  · rintro ⟨before, b, after, hactions, stops, written, since⟩
    cases before with
    | nil =>
      obtain ⟨rfl, rfl⟩ := List.cons.inj hactions
      exact .inl ⟨stops, written, since⟩
    | cons first before =>
      obtain ⟨rfl, rfl⟩ := List.cons.inj hactions
      exact .inr ⟨before, b, after, rfl, stops, written, since⟩
  · rintro (⟨stops, written, since⟩ | ⟨before, b, after, rfl, stops, written, since⟩)
    · exact ⟨[], a, rest, rfl, stops, written, since⟩
    · exact ⟨a :: before, b, after, rfl, stops, written, since⟩

section Run

variable (quiet : engine.Quiet) {actions : List Action} (inside : ∀ a ∈ actions, a.Inside)
include quiet inside

/-- The games of a run that are stored at its end are in need of recovery if a script of theirs was
stopped and they have not been recovered since, be it before or during the run. -/
theorem left_flagged (kept : Kept w) (has : (engine.left w actions).games.Has n) :
    (engine.left w actions).games.Flagged n ↔ engine.StoppedSince n w actions ∨
      w.games.Flagged n ∧ engine.Throughout (fun v b => ¬engine.Recovers n v b) w actions := by
  induction actions generalizing w with
  | nil =>
    have none : ¬engine.StoppedSince n w [] := by
      rintro ⟨before, a, rest, h, -⟩
      exact nomatch List.append_eq_nil_iff.1 h.symm
    exact ⟨fun flagged => .inr ⟨flagged, trivial⟩, fun h => (h.resolve_left none).1⟩
  | cons a rest ih =>
    have insideRest (b : Action) (hb : b ∈ rest) : b.Inside := inside b (List.mem_cons_of_mem _ hb)
    have effect := effect quiet kept a (inside a List.mem_cons_self)
    have keptAfter := effect.kept kept
    have step := ih insideRest keptAfter has
    rw [stoppedSince_cons]
    refine ⟨fun flagged => ?_, ?_⟩
    · rcases step.1 flagged with stopped | ⟨flagged, since⟩
      · exact .inl (.inr stopped)
      · rcases stops_or_flagged quiet kept (inside a List.mem_cons_self) flagged with
          ⟨stops, written, -⟩ | ⟨before, unrecovered⟩
        · exact .inl (.inl ⟨stops, written, since⟩)
        · exact .inr ⟨before, unrecovered, since⟩
    · rintro ((⟨stops, written, since⟩ | stopped) | ⟨before, unrecovered, since⟩)
      · exact step.2 (.inr ⟨stops.flagged quiet written keptAfter, since⟩)
      · exact step.2 (.inl stopped)
      · -- The game was there before, so its number cannot have been given again.
        have later := (worlds_later quiet insideRest keptAfter _ (left_mem_worlds engine _ rest)).1
        have hasAfter : (engine.after w a).games.Has n := by
          rcases later.has n has with has | le
          · exact has
          · obtain ⟨g, found, -⟩ := before
            have fresh := kept.fresh n (Games.has_of_get? found)
            have next := (effect.later kept).next
            omega
        exact step.2 (.inr
          ⟨flagged_after quiet kept (inside a List.mem_cons_self) before unrecovered hasAfter, since⟩)

/-- Where a script has come to be stopped, the timeout of the engine is one that can be waited for. -/
theorem left_waits (kept : Kept w) (flagged : (engine.left w actions).games.Flagged n) :
    engine.Waits ∨ w.games.Flagged n := by
  induction actions generalizing w with
  | nil => exact .inr flagged
  | cons a rest ih =>
    have here := inside a List.mem_cons_self
    have keptAfter := (effect quiet kept a here).kept kept
    rcases ih (fun b hb => inside b (List.mem_cons_of_mem _ hb)) keptAfter flagged with waits | after
    · exact .inl waits
    · exact (stops_or_flagged quiet kept here after).imp (·.2.2) (·.1)

omit inside in
theorem left_locks (players : ∀ a ∈ actions, ¬a.ByHost) :
    (engine.left w actions).locks = w.locks := by
  induction actions generalizing w with
  | nil => rfl
  | cons a rest ih =>
    have rest := ih (fun b hb => players b (List.mem_cons_of_mem _ hb)) (w := engine.after w a)
    exact rest.trans (quiet.locks (players a List.mem_cons_self) w)

end Run

/-- Game `n`, which is stored as `g`, is at a halt. No route is taken and no stored script is run for
it, and both change nothing at all. It can be ended, which needs no runtime and shows nothing. -/
structure Halts (engine : Engine) (n : Int) (g : Game) (w : World) : Prop where
  takeRoute : ∀ game route, ((World.gameNumber game).run w).1 = .ok n →
    engine.answer w (.takeRoute game route) = .error (.recoveryRequired (some n)) ∧
      engine.after w (.takeRoute game route) = w
  executeScript : ∀ game script s, ((World.gameNumber game).run w).1 = .ok n →
    ((World.script script).run w).1 = .ok s →
    engine.answer w (.executeScript game script) = .error (.recoveryRequired (some n)) ∧
      engine.after w (.executeScript game script) = w
  endGame : ∀ runtime game, ((World.gameNumber game).run w).1 = .ok n →
    { engine with runtime }.answer w (.endGame game) = .ok (.transcript { game := g }) ∧
      { engine with runtime }.after w (.endGame game) = Authoring.dropGame w n

theorem halts {locks : Locks} (number : g.id = some n) (found : w.games.get? n = .ok (some g))
    (needs : g.needsRecovery = true) (hold : w.locks.hold engine.settings.busyTimeout n = .ok locks) :
    engine.Halts n g w := by
  have asked {game : Identifier} (asked : ((World.gameNumber game).run w).1 = .ok n) :
      (World.gameNumber game).run w = (.ok n, w) := Prod.ext asked (ReadOnly.gameNumber game w)
  refine ⟨fun game route h => ?_, fun game script s h stored => ?_, fun runtime game h => ?_⟩
  · rw [answer_of_perform rfl, after_of_perform rfl,
      run_takeRoute_flagged (asked h) found needs hold route]
    exact ⟨rfl, rfl⟩
  · obtain ⟨e, run, refused⟩ := run_executeScript_flagged (asked h) found needs hold script
    rw [answer_of_perform rfl, after_of_perform rfl, run,
      refused s (Prod.ext stored (ReadOnly.script script w)), number]
    exact ⟨rfl, rfl⟩
  · rw [answer_of_perform rfl, after_of_perform rfl,
      run_endGame_flagged (asked h) found needs hold runtime]
    exact ⟨rfl, rfl⟩

theorem Waits.hold (waits : engine.Waits) (free : w.locks.held = []) (n : Int) :
    ∃ locks, w.locks.hold engine.settings.busyTimeout n = .ok locks := by
  unfold Locks.hold
  rw [if_neg waits, if_neg (by simp [Locks.isBusy, free])]
  exact ⟨_, rfl⟩

/-- In a run that starts without games, a stored game is in need of recovery if and only if a script of
it was stopped, and the game written then, after it was last recovered. Until it is recovered it is at
a halt. -/
theorem needsRecovery_iff (quiet : engine.Quiet) (blank : w.Blank) (free : w.locks.held = [])
    {actions : List Action} (inside : ∀ a ∈ actions, a.Inside) (players : ∀ a ∈ actions, ¬a.ByHost)
    (found : (engine.left w actions).games.get? n = .ok (some g)) :
    (g.needsRecovery = true ↔ engine.StoppedSince n w actions) ∧
      (g.needsRecovery = true → engine.Halts n g (engine.left w actions)) := by
  have unflagged : ¬w.games.Flagged n := fun ⟨_, found, _⟩ => blank.games n (Games.has_of_get? found)
  have flagged : (engine.left w actions).games.Flagged n ↔ g.needsRecovery = true := by
    refine ⟨fun ⟨h, again, needs⟩ => ?_, fun needs => ⟨g, found, needs⟩⟩
    obtain rfl := Option.some.inj (Except.ok.inj (found.symm.trans again))
    exact needs
  refine ⟨?_, fun needs => ?_⟩
  · rw [← flagged, left_flagged quiet inside blank.kept (Games.has_of_get? found)]
    exact ⟨fun h => h.resolve_right fun before => unflagged before.1, .inl⟩
  · have number := ((left_kept quiet inside blank.kept).own n g found).1
    have waits := (left_waits quiet inside blank.kept (flagged.2 needs)).resolve_right unflagged
    have locks := left_locks quiet players (w := w)
    obtain ⟨locks, hold⟩ := waits.hold (w := engine.left w actions) (by rw [locks, free]) n
    exact halts number found needs hold

end Engine

/-- A game that was stopped on the way down the lane, with what the script had noted. -/
def Game.halted : Game :=
  { adventure := 1, location := 1, language := "en", locationTimestamp := 1
    state := [("noted", .text "Onward.")], needsRecovery := true, id := some 1 }

/-- A script is stopped on the way down the lane, and the game halts. -/
theorem Engine.needsRecovery_iff_lane :
    let actions := [Action.startGame (1 : Int) .null, .takeRoute (1 : Int) (1 : Int),
      .getGame (1 : Int)]
    noting.StoppedSince 1 (World.lane (.files {})) actions ∧
      noting.Halts 1 .halted (noting.left (World.lane (.files {})) actions) := by
  intro actions
  have found : (noting.left (World.lane (.files {})) actions).games.get? 1 =
      .ok (some .halted) := by
    decide +kernel
  obtain ⟨since, halts⟩ := needsRecovery_iff quiet_noting World.blank_lane rfl
    (by simp [actions, Action.Inside]) (by simp [actions, Action.ByHost]) found
  exact ⟨since.1 rfl, halts rfl⟩

end TextAdventure
