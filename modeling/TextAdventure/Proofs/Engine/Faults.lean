import TextAdventure.Proofs.Engine.Operations
import TextAdventure.Proofs.Engine.Reading
import TextAdventure.Proofs.Engine.Tends

/-! How operations on a game fail. A script of the game that ends in a failure or an error ends the
operation with it, in the world that the script has left. Every other error comes from a check, or
from a game that cannot be written, and no game is in need of recovery for it. -/

namespace TextAdventure

open Op
open Table (HeldAt)

/-- The script was stopped. -/
def Ending.isStop : Ending → Bool
  | .failed _ true => true
  | _ => false

/-- The error that a script of a number ends an operation with. -/
def Ending.error? (id : Int) : Ending → Option Error
  | .failed message true => some (.scriptTimedOut id message)
  | .failed message false => some (.scriptFailed id message)
  | .raised e => some e
  | .result _ => none

/-- The game under a number is not in need of recovery, if it is stored. -/
def Games.Clear (n : Int) (s : Games) : Prop :=
  ∀ g, s.get? n = .ok (some g) → g.needsRecovery = false

namespace Op

variable {α β : Type} {w : World} {Q Q' : α → World → Prop} {R : β → World → Prop}
  {E E' : Error → World → Prop}

/-- An outcome with the world behind it: `Q` holds of a result, and `E` holds of an error. -/
def Results (Q : α → World → Prop) (E : Error → World → Prop) : Except Error α × World → Prop
  | (.ok a, v) => Q a v
  | (.error e, v) => E e v

/-- What an operation yields in a world. -/
def Yields (op : Op α) (w : World) (Q : α → World → Prop) (E : Error → World → Prop) : Prop :=
  Results Q E (op.run w)

namespace Yields

theorem of_run {op : Op α} {r : Except Error α × World} (hrun : op.run w = r) (h : Results Q E r) :
    Yields op w Q E := by
  rw [Yields, hrun]
  exact h

theorem ok {op : Op α} (h : Yields op w Q E) {a : α} {v : World} (hrun : op.run w = (.ok a, v)) :
    Q a v := by
  rw [Yields, hrun] at h
  exact h

theorem error {op : Op α} (h : Yields op w Q E) {e : Error} {v : World}
    (hrun : op.run w = (.error e, v)) : E e v := by
  rw [Yields, hrun] at h
  exact h

theorem pure {a : α} (h : Q a w) : Yields (Pure.pure a) w Q E := h

theorem throw {e : Error} (h : E e w) : Yields (MonadExcept.throw e : Op α) w Q E := h

theorem bind {x : Op α} {f : α → Op β} (hx : Yields x w Q E)
    (hf : ∀ a v, Q a v → Yields (f a) v R E) : Yields (x >>= f) w R E := by
  rcases hrun : x.run w with ⟨e | a, v⟩
  · exact .of_run (run_bind_error hrun) (hx.error hrun)
  · rw [Yields, run_bind_ok hrun]
    exact hf a v (hx.ok hrun)

/-- What is read is as it is in the world that the reader meets. -/
theorem read {x : Op α} {f : α → Op β} (readOnly : ReadOnly x)
    (fails : ∀ e, x.run w = (.error e, w) → E e w)
    (hf : ∀ a, x.run w = (.ok a, w) → Yields (f a) w R E) : Yields (x >>= f) w R E := by
  have same := readOnly w
  rcases hrun : x.run w with ⟨e | a, v⟩ <;> rw [hrun] at same <;> obtain rfl : v = w := same
  · exact .of_run (run_bind_error hrun) (fails e hrun)
  · rw [Yields, run_bind_ok hrun]
    exact hf a hrun

theorem imp {op : Op α} (h : Yields op w Q E) (ok : ∀ a v, Q a v → Q' a v)
    (error : ∀ e v, E e v → E' e v) : Yields op w Q' E' := by
  rcases hrun : op.run w with ⟨e | a, v⟩
  · exact .of_run hrun (error e v (h.error hrun))
  · exact .of_run hrun (ok a v (h.ok hrun))

/-- Holding a game is refused, or the operation runs with the game held, and lets go of it. -/
theorem holding {timeout : Float} {game : Int} {op : Op α}
    (refused : ∀ e, w.locks.hold timeout game = .error e → E e w)
    (inside : ∀ locks, w.locks.hold timeout game = .ok locks →
      Yields op { w with locks } (fun a v => Q a { v with locks := v.locks.release game })
        fun e v => E e { v with locks := v.locks.release game }) :
    Yields (World.holding timeout game op) w Q E := by
  rw [Yields, World.holding_eq]
  cases hlocks : w.locks.hold timeout game with
  | error e => exact refused e hlocks
  | ok locks =>
    have yields := inside locks hlocks
    rw [Yields] at yields
    dsimp only
    generalize op.run { w with locks } = outcome at yields
    rcases outcome with ⟨e | a, v⟩ <;> exact yields

end Yields

end Op

theorem Ending.isStop_of_none {ending : Ending} {id : Int} (h : ending.error? id = none) :
    ending.isStop = false := by
  rcases ending with _ | ⟨_, _ | _⟩ | _ <;> simp_all [error?, isStop]

namespace Engine

/-- What a script in play can be refused for is found out before it plays: it has to be there, to
belong to the game, and to have a runtime. -/
def scriptFor (engine : Engine) (held : Held Game) (id : Identifier) :
    Op ((Int × Script) × Runtime) := do
  let script ← World.script id
  let n ← Op.number .script id
  if held.value.needsRecovery then throw (.recoveryRequired held.value.id)
  else if script.adventure ≠ held.value.adventure then
    throw (strayScript (script.idAt n) script held.value)
  else return ((n, script), ← engine.runtimeFor (script.idAt n) script.type)

theorem executeStored_eq (engine : Engine) (held : Held Game) (id : Identifier) :
    engine.executeStored held id =
      engine.scriptFor held id >>= fun a => engine.play held (a.1.2.idAt a.1.1) a.1.2 a.2 := by
  unfold executeStored scriptFor
  simp only [bind_assoc]
  refine bind_congr fun script => bind_congr fun n => ?_
  rw [execute_some]
  split
  · rfl
  · split
    · rfl
    · simp only [bind_assoc, pure_bind]

theorem ofStory_scriptFor (engine : Engine) (held : Held Game) (id : Identifier) :
    OfStory (engine.scriptFor held id) :=
  .bind (.script id) fun _ => .bind (.number _ _) fun _ => .ite (.throw _) <| .ite (.throw _) <|
    .bind (.runtimeFor _ _ _) fun _ => .pure _

theorem scriptFor_ok {engine : Engine} {held : Held Game} {id : Identifier}
    {a : (Int × Script) × Runtime} {v w : World} (h : (engine.scriptFor held id).run w = (.ok a, v)) :
    w.scripts.get? a.1.1 = some a.1.2 ∧ engine.runtime = some a.2 := by
  obtain ⟨script, u, hscript, hrest⟩ := run_bind_eq_ok.1 h
  have same := ReadOnly.script id w
  rw [hscript] at same
  obtain rfl : u = w := same
  obtain ⟨n, hn, found⟩ := World.run_found (f := fun w n => w.scripts.get? n) hscript
  rw [run_bind_ok hn] at hrest
  split at hrest
  · exact nomatch (Prod.mk.inj hrest).1
  split at hrest
  · exact nomatch (Prod.mk.inj hrest).1
  obtain ⟨runtime, u', hruntime, hpure⟩ := run_bind_eq_ok.1 hrest
  obtain rfl := Except.ok.inj (Prod.mk.inj hpure).1
  exact ⟨found, runtime_of_runtimeFor hruntime⟩

theorem afterwards_needsRecovery (game : Game) (ending : Ending) :
    (afterwards game ending).needsRecovery = (game.needsRecovery || ending.isStop) := by
  unfold afterwards Ending.isStop
  split <;> simp

theorem run_report_error {engine : Engine} {id : Int} {ending : Ending} {e : Error}
    (h : ending.error? id = some e) (included : Rows Script) (emitted : List Content)
    (held : Held Game) (w : World) :
    (engine.report id included emitted held ending).run w = (.error e, w) := by
  unfold Ending.error? at h
  split at h
  · exact Option.some.inj h ▸ rfl
  · exact Option.some.inj h ▸ rfl
  · exact Option.some.inj h ▸ rfl
  · exact nomatch h

theorem run_report_ok (engine : Engine) {id : Int} {ending : Ending} (h : ending.error? id = none)
    (included : Rows Script) (emitted : List Content) (held : Held Game) (w : World) :
    ∃ run, run.entries = emitted ∧
      (engine.report id included emitted held ending).run w = (.ok (run, held), w) := by
  cases ending with
  | result value => exact ⟨_, rfl, rfl⟩
  | raised e => exact nomatch h
  | failed message timedOut => cases timedOut <;> exact nomatch h

end Engine

theorem Games.reads_needsRecovery {s : Games} {g g' : Game} (h : s.reads g = .ok g') :
    g'.needsRecovery = g.needsRecovery := by
  obtain ⟨language, state, rfl⟩ := reads_eq_ok h
  rfl

/-- A game that is read back where it was stored is in need of recovery if it was when it was stored. -/
theorem Games.Puts.needsRecovery {n : Int} {g g' : Game} {s s' : Games} (puts : s.Puts n g s')
    (found : s'.get? n = .ok (some g')) : g'.needsRecovery = g.needsRecovery := by
  rcases puts.get?_eq_some.1 found with ⟨-, hread⟩ | ⟨ne, -⟩
  · exact reads_needsRecovery hread
  · exact absurd rfl ne

variable {engine : Engine} {n adventure : Int} {u v w w' : World} {held : Held Game} {K : Error → Prop}

/-! ### Games in play -/

/-- Game `n` of an adventure is held and stored, and not in need of recovery. The world around it has
the story of `w`. -/
structure InPlay (n adventure : Int) (w : World) (held : Held Game) (v : World) : Prop where
  playable : Playable n (fun g => g.adventure = adventure ∧ g.needsRecovery = false) v held
  story : v.story = w.story
  clear : v.games.Clear n

namespace InPlay

theorem aside (h : InPlay n adventure w held v) {v' : World} (games : v'.games = v.games)
    (story : v'.story = v.story) : InPlay n adventure w held v' :=
  ⟨⟨h.playable.number, h.playable.place, h.playable.holds, games ▸ h.playable.stored⟩,
    story.trans h.story, games ▸ h.clear⟩

/-- The game is stored again as one that can go on. -/
theorem puts {held' : Held Game} {games : Games} (h : InPlay n adventure w held v)
    (number : held'.value.id = some n) (place : HeldAt n held')
    (holds : held'.value.adventure = adventure ∧ held'.value.needsRecovery = false)
    (puts : v.games.Puts n held'.value games) {v' : World} (hgames : v'.games = games)
    (story : v'.story = v.story) : InPlay n adventure w held' v' := by
  subst hgames
  exact ⟨⟨number, place, holds, (puts.has n).2 (.inl rfl)⟩, story.trans h.story,
    fun g found => (puts.needsRecovery found).trans holds.2⟩

end InPlay

/-! ### Scripts -/

/-- How a script of a stored game comes out. What it has emitted is in the game's log. The game is
stored as the script has left it, or it does not fit into a file. -/
theorem Engine.run_play_cases (quiet : engine.Quiet) {runtime : Runtime}
    (hruntime : engine.runtime = some runtime) {P : Game → Prop} (h : Playable n P v held) (id : Int)
    (script : Script) {ending : Ending} {s : Stage World}
    (plays : engine.outcome held id script runtime v = (ending, s)) :
    s.game = { held.value with state := s.game.state } ∧
    ∃ journal, Journal.Extends n s.emitted v.journal journal ∧
      ((∃ (held' : Held Game) (games : Games),
        held'.value = afterwards s.game ending ∧ HeldAt n held' ∧
        v.games.Puts n held'.value games ∧
        (engine.play held id script runtime).run v =
          (engine.report id (resolveIncludes v.scripts v.includes id).scripts s.emitted held'
            ending).run { v with games, journal }) ∨
      v.games.Filed ∧ ¬Payload.Fits (afterwards s.game ending) ∧
        (engine.play held id script runtime).run v = (.error .tooLongToWrite, { v with journal })) := by
  obtain ⟨added, moves⟩ := moves_outcome quiet hruntime h.number id script v
  have hrun := run_play engine held id script runtime v
  rw [plays] at moves hrun
  have game : s.game = { held.value with state := s.game.state } := moves.game
  have around : s.around = { v with journal := s.around.journal } := moves.around
  have extends' : Journal.Extends n s.emitted v.journal s.around.journal := by
    have emitted : s.emitted = added := by simpa using moves.emitted
    rw [emitted]
    exact moves.journal
  refine ⟨game, s.around.journal, extends', ?_⟩
  have number : (afterwards s.game ending).id = some n :=
    (Plays.sameBearings_played game ending).id.trans h.number
  have hsettle : (engine.settle held id (resolveIncludes v.scripts v.includes id).scripts ending s) =
      World.updateGame { held with value := afterwards s.game ending } >>= fun held =>
        engine.report id (resolveIncludes v.scripts v.includes id).scripts s.emitted held ending := by
    unfold settle storeAgain
    rw [if_pos (by simp [number])]
  have stored : s.around.games.Has n := by
    rw [around]
    exact h.stored
  rw [hsettle, run_bind] at hrun
  rcases World.run_updateGame (h := { held with value := afterwards s.game ending }) number h.place
    stored with ⟨held', games, hupdate, hvalue, place, puts, -⟩ | ⟨filed, hupdate⟩
  · rw [hupdate] at hrun
    have puts' : v.games.Puts n held'.value games := by
      rw [hvalue]
      rw [around] at puts
      exact puts
    refine .inl ⟨held', games, hvalue, place, puts', hrun.trans ?_⟩
    dsimp only
    rw [around]
  · have unfit := World.unfit_of_updateGame (h := { held with value := afterwards s.game ending })
      number h.place stored hupdate
    rw [hupdate] at hrun
    rw [around] at filed hrun
    exact .inr ⟨filed, unfit, hrun⟩

/-- A stored script of game `n` was run in a world with the story of `w`, and has ended in a failure or
an error. The operation that ran it has come to an end with that, as `e` and `v` tell. -/
inductive Engine.Breaks (engine : Engine) (n : Int) (w : World) : Ending → Error → World → Prop
  | of_play {adventure k : Int} {held : Held Game} {script : Script} {runtime : Runtime} {u v : World}
      {e e' : Error} (hruntime : engine.runtime = some runtime)
      (stored : w.scripts.get? k = some script) (inPlay : InPlay n adventure w held u)
      (fails :
        (engine.outcome held (script.idAt k) script runtime u).1.error? (script.idAt k) = some e')
      (ends : (engine.play held (script.idAt k) script runtime).run u = (.error e, v)) :
      Breaks engine n w (engine.outcome held (script.idAt k) script runtime u).1 e v

/-- What a script that ended in a failure or an error leaves: its game is stored again, in need of
recovery exactly if the script was stopped, or it did not fit into a file. -/
theorem Engine.Breaks.cases (quiet : engine.Quiet) {ending : Ending} {e : Error}
    (h : Breaks engine n w ending e v) : v.games.Has n ∧
      ((∃ k, ending.error? k = some e) ∧
          (∀ g, v.games.get? n = .ok (some g) → g.needsRecovery = ending.isStop) ∨
        v.games.Filed ∧ e = .tooLongToWrite ∧ v.games.Clear n) := by
  cases h with
  | @of_play adventure k held script runtime u v e e' hruntime stored inPlay fails ends =>
    generalize plays : engine.outcome held (script.idAt k) script runtime u = outcome at fails ⊢
    obtain ⟨ending, s⟩ := outcome
    obtain ⟨game, journal, -, ⟨held', games, hvalue, place, puts, hrun⟩ | ⟨filed, -, hrun⟩⟩ :=
      run_play_cases quiet hruntime inPlay.playable (script.idAt k) script plays
    · rw [run_report_error fails, ends] at hrun
      obtain ⟨he, rfl⟩ := Prod.mk.inj hrun
      have ended := fails.trans (congrArg some (Except.error.inj he).symm)
      refine ⟨(puts.has n).2 (.inl rfl), .inl ⟨⟨_, ended⟩, fun g found => ?_⟩⟩
      rw [puts.needsRecovery found, hvalue, afterwards_needsRecovery, game]
      simp [inPlay.playable.holds.2]
    · rw [ends] at hrun
      obtain ⟨he, rfl⟩ := Prod.mk.inj hrun
      exact ⟨inPlay.playable.stored, .inr ⟨filed, Except.error.inj he, inPlay.clear⟩⟩

/-- How an operation on game `n` fails: with a script of the game, or with an error that `K` knows. -/
inductive Engine.Fault (engine : Engine) (n : Int) (w : World) (K : Error → Prop) :
    Error → World → Prop
  | broken {ending : Ending} {e : Error} {v : World} (breaks : engine.Breaks n w ending e v) :
      Fault engine n w K e v
  | checked {e : Error} {v : World} (known : K e) (clear : v.games.Clear n) : Fault engine n w K e v

/-- A script that may be run for the games of an adventure is refused with errors that `K` knows. -/
def Engine.Admits (engine : Engine) (w : World) (adventure : Int) (K : Error → Prop)
    (id : Identifier) : Prop :=
  ∀ held e, held.value.adventure = adventure → ((engine.scriptFor held id).run w).1 = .error e → K e

/-- A hook is not set, or its script may be run. -/
def Engine.AdmitsHook (engine : Engine) (w : World) (adventure : Int) (K : Error → Prop)
    (hook : Option Int) : Prop :=
  ∀ script : Int, hook = some script → engine.Admits w adventure K script

namespace InPlay

section Steps

variable (quiet : engine.Quiet) (long : K .tooLongToWrite)
include quiet long

theorem play (h : InPlay n adventure w held v) {runtime : Runtime} {k : Int} {script : Script}
    (hruntime : engine.runtime = some runtime) (stored : w.scripts.get? k = some script) :
    Yields (engine.play held (script.idAt k) script runtime) v
      (fun r => InPlay n adventure w r.2) (engine.Fault n w K) := by
  rcases plays : engine.outcome held (script.idAt k) script runtime v with ⟨ending, s⟩
  obtain ⟨game, journal, -, ⟨held', games, hvalue, place, puts, hrun⟩ | ⟨-, -, hrun⟩⟩ :=
    Engine.run_play_cases quiet hruntime h.playable (script.idAt k) script plays
  · cases fails : ending.error? (script.idAt k) with
    | some e =>
      rw [Engine.run_report_error fails] at hrun
      exact .of_run hrun (.broken (.of_play hruntime stored h (by rw [plays]; exact fails) hrun))
    | none =>
      obtain ⟨run, -, hreport⟩ := engine.run_report_ok fails
        (resolveIncludes v.scripts v.includes (script.idAt k)).scripts s.emitted held'
        { v with games, journal }
      rw [hreport] at hrun
      have same := Plays.sameBearings_played game ending
      refine .of_run hrun (h.puts (hvalue ▸ same.id.trans h.playable.number) place
        ⟨hvalue ▸ same.adventure.trans h.playable.holds.1, ?_⟩ puts rfl rfl)
      rw [hvalue, Engine.afterwards_needsRecovery, Ending.isStop_of_none fails, Bool.or_false, game]
      exact h.playable.holds.2
  · exact .of_run hrun (.checked long h.clear)

theorem executeStored (h : InPlay n adventure w held v) {script : Identifier}
    (admits : engine.Admits w adventure K script) :
    Yields (engine.executeStored held script) v (fun r => InPlay n adventure w r.2)
      (engine.Fault n w K) := by
  rw [Engine.executeStored_eq]
  have ofStory := Engine.ofStory_scriptFor engine held script
  refine .read ofStory.readOnly (fun e he => .checked ?_ h.clear) fun a ha => ?_
  · refine admits held e h.playable.holds.1 ?_
    rw [← ofStory.same h.story, he]
  · obtain ⟨stored, hruntime⟩ := Engine.scriptFor_ok ha
    have hscripts : v.scripts = w.scripts := (congrArg World.scripts h.story :)
    exact h.play quiet long hruntime (hscripts ▸ stored)

theorem runHook {p : Progress} (h : InPlay n adventure w p.held v) {hook : Option Int}
    (admits : engine.AdmitsHook w adventure K hook) :
    Yields (engine.runHook hook p) v (fun p => InPlay n adventure w p.held) (engine.Fault n w K) := by
  cases hook with
  | none => exact .pure h
  | some script => exact .bind (h.executeStored quiet long (admits script rfl)) fun r u hr => .pure hr

omit quiet long in
theorem showCopy {p : Progress} (h : InPlay n adventure w p.held v) (key : Option Text) :
    Yields (Engine.showCopy key p) v (fun p => InPlay n adventure w p.held) (engine.Fault n w K) := by
  cases key with
  | none => exact .pure h
  | some key =>
    exact .bind (.of_run (World.run_log_some h.playable.number _ v) (h.aside rfl rfl))
      (Q := fun _ => InPlay n adventure w p.held) fun entry u hu => .pure hu

omit quiet in
theorem move {p : Progress} (h : InPlay n adventure w p.held v) (id : Int) (place : Location) :
    Yields (Engine.move id place p) v (fun p => InPlay n adventure w p.held)
      (engine.Fault n w K) := by
  have ticked : World.tick.run v = (.ok v.clock.tick.1, { v with clock := v.clock.tick.2 }) := rfl
  refine .bind (.of_run ticked (h.aside rfl rfl)) (Q := fun _ => InPlay n adventure w p.held)
    fun time u hu => ?_
  have stored : InPlay n adventure w { p.held with value := { p.game with
      location := place.idAt id, locationTimestamp := time
      completed := p.game.completed || place.final } } u :=
    ⟨⟨hu.playable.number, hu.playable.place, hu.playable.holds, hu.playable.stored⟩, hu.story, hu.clear⟩
  refine .bind (Q := fun held => InPlay n adventure w held) ?_ fun held u' hu' => .pure hu'
  rcases World.run_updateGame stored.playable.number stored.playable.place stored.playable.stored with
    ⟨held', games, hupdate, hvalue, hplace, puts, -⟩ | ⟨-, hupdate⟩
  · rw [← hvalue] at puts
    exact .of_run hupdate (stored.puts (hvalue ▸ stored.playable.number) hplace
      (hvalue ▸ stored.playable.holds) puts rfl rfl)
  · exact .of_run hupdate (.checked long hu.clear)

theorem terminate {p : Progress} (h : InPlay n adventure w p.held v)
    (admits : ∀ a, w.adventures.get? adventure = some a →
      engine.AdmitsHook w adventure K a.terminationScript) :
    Yields (engine.terminate p) v (fun p => InPlay n adventure w p.held) (engine.Fault n w K) := by
  have hadventures : v.adventures = w.adventures := (congrArg World.adventures h.story :)
  refine .read .get (fun e he => nomatch (Prod.mk.inj he).1) fun u hu => ?_
  obtain rfl : v = u := Except.ok.inj (Prod.mk.inj hu).1
  have hgame : p.game.adventure = adventure := h.playable.holds.1
  rw [hgame, hadventures]
  cases found : w.adventures.get? adventure with
  | none => exact .pure h
  | some a => exact h.runHook quiet long (admits a found)

end Steps

/-- What is read on the way from a held location is the location as it is stored. -/
theorem locationNow {α : Type} (h : InPlay n adventure w held v) (location : Held Location)
    {f : Location → Op α} {Q : α → World → Prop} {E : Error → World → Prop}
    (hf : Yields (f (w.locations.current location)) v Q E) :
    Yields (World.locationNow location >>= f) v Q E := by
  have hlocations : v.locations = w.locations := (congrArg World.locations h.story :)
  refine .read (.locationNow _) (fun e he => nomatch (Prod.mk.inj he).1) fun found hfound => ?_
  obtain rfl : v.locations.current location = found := Except.ok.inj (Prod.mk.inj hfound).1
  rw [hlocations]
  exact hf

theorem adventureNow {α : Type} (h : InPlay n adventure w held v) (a : Held Adventure)
    {f : Adventure → Op α} {Q : α → World → Prop} {E : Error → World → Prop}
    (hf : Yields (f (w.adventures.current a)) v Q E) :
    Yields (World.adventureNow a >>= f) v Q E := by
  have hadventures : v.adventures = w.adventures := (congrArg World.adventures h.story :)
  refine .read (.adventureNow _) (fun e he => nomatch (Prod.mk.inj he).1) fun found hfound => ?_
  obtain rfl : v.adventures.current a = found := Except.ok.inj (Prod.mk.inj hfound).1
  rw [hadventures]
  exact hf

end InPlay

end TextAdventure
