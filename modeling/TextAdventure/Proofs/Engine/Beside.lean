import TextAdventure.Proofs.Engine.Reading
import TextAdventure.Proofs.Engine.Tends
import TextAdventure.Proofs.Engine.Twin

/-! Two worlds that are the same as far as one game goes. An operation on that game comes out the
same in both, and leaves worlds that are the same in this way again. Neither the times that the
clock tells nor the numbers that entries are given are taken into account. -/

namespace TextAdventure

open Op
open Table (HeldAt)

/-- A game without the time at which it came to its location. -/
def Game.untimed (g : Game) : Game := { g with locationTimestamp := 0 }

/-- An entry without the number that it was given. -/
def Content.unnumbered (c : Content) : Content := { c with id := none }

def Transcript.plain (t : Transcript) : Transcript :=
  { t with game := t.game.untimed, entries := t.entries.map Content.unnumbered }

def ScriptRun.plain (run : ScriptRun) : ScriptRun :=
  { run with entries := run.entries.map Content.unnumbered }

/-- What is told of a game, without times and without the numbers of entries. -/
def Answer.plain : Answer → Answer
  | .transcript t => .transcript t.plain
  | .scriptRun run => .scriptRun run.plain
  | .game g => .game g.untimed
  | r => r

theorem Game.untimed_eq {g g' : Game} (h : g'.untimed = g.untimed) :
    ∃ time, g' = { g with locationTimestamp := time } := by
  refine ⟨g'.locationTimestamp, ?_⟩
  have fields : ({ g'.untimed with locationTimestamp := g'.locationTimestamp } : Game) =
      { g.untimed with locationTimestamp := g'.locationTimestamp } := by rw [h]
  exact fields

theorem Content.texts_unnumbered {entries entries' : List Content}
    (h : entries'.map unnumbered = entries.map unnumbered) (lookup : Lookup) (copies : Copies)
    (language : Text) : entries'.map (·.shownText lookup copies language) =
      entries.map (·.shownText lookup copies language) := by
  have texts := congrArg (List.map (·.shownText lookup copies language)) h
  rwa [List.map_map, List.map_map] at texts

theorem Journal.nextPosition_unnumbered {j j' : Journal} {game : Int}
    (h : (j'.entries game).map Content.unnumbered = (j.entries game).map Content.unnumbered) :
    j'.nextPosition game = j.nextPosition game := by
  have positions := congrArg (fun l => l.getLast?.map Content.position) h
  simp only [List.getLast?_map, Option.map_map] at positions
  have last : j'.lastPosition game = j.lastPosition game := positions
  unfold nextPosition
  rw [last]

/-! ### Stores -/

namespace Games

theorem reads_untimed {s s' : Games} (filed : s'.Filed ↔ s.Filed) (g : Game) (time : Int) :
    (s'.reads { g with locationTimestamp := time }).map Game.untimed =
      (s.reads g).map Game.untimed := by
  cases s <;> cases s'
  · rfl
  · exact (filed.1 trivial).elim
  · exact (filed.2 trivial).elim
  · show (Game.reread _).map _ = (Game.reread _).map _
    unfold Game.reread
    dsimp only
    cases Field.code "language" (.text g.language.paired) <;> rfl

end Games

/-- A game fits into a file with one time if it does so with another one that is as long. -/
theorem Payload.fits_untimed {g : Game} {time : Int}
    (long : Json.isLong time = Json.isLong g.locationTimestamp) (fits : Fits g) :
    Fits { g with locationTimestamp := time } := by
  unfold Fits fields at fits ⊢
  simp only [Json.haveWritable, Json.isWritable, long] at fits ⊢
  exact fits

/-! ### Worlds -/

/-- Both worlds have the same story and the same locks, and of game `n` the same record and log, in
stores of one kind: in files if `filed` holds. Their clocks are `c` and `d`. -/
structure World.Beside (n : Int) (filed : Prop) (c d : Clock) (v w : World) : Prop where
  story : w.story = v.story
  locks : w.locks = v.locks
  kind : v.games.Filed ↔ filed
  otherKind : w.games.Filed ↔ filed
  has : w.games.Has n ↔ v.games.Has n
  game : (w.games.get? n).map (Option.map Game.untimed) =
    (v.games.get? n).map (Option.map Game.untimed)
  log : (w.journal.entries n).map Content.unnumbered = (v.journal.entries n).map Content.unnumbered
  clock : v.clock = c
  otherClock : w.clock = d

structure World.BesideStored (n : Int) (filed : Prop) (c d : Clock) (v w : World) : Prop
    extends World.Beside n filed c d v w where
  stored : v.games.Has n

/-- Operations hold the same game, and can both write it or neither. -/
structure HeldBeside (n : Int) (filed : Prop) (h h' : Held Game) : Prop where
  value : h'.value.untimed = h.value.untimed
  number : h.value.id = some n
  place : HeldAt n h
  otherPlace : HeldAt n h'
  long : filed → Json.isLong h'.value.locationTimestamp = Json.isLong h.value.locationTimestamp

theorem HeldBeside.otherNumber {n : Int} {filed : Prop} {h h' : Held Game}
    (held : HeldBeside n filed h h') : h'.value.id = some n := by
  have same : h'.value.untimed.id = h.value.untimed.id := by rw [held.value]
  exact same.trans held.number

/-! ### Operations -/

/-- The operations have similar outcomes, and leave worlds that `T` relates. -/
def Op.Matches {α β : Type} (T : World → World → Prop) (R : α → β → Prop) (x : Op α) (v : World)
    (y : Op β) (w : World) : Prop :=
  T (x.run v).2 (y.run w).2 ∧ Similar R (x.run v).1 (y.run w).1

namespace Op.Matches

variable {α β γ δ : Type} {T T' : World → World → Prop} {R : α → β → Prop} {S : γ → δ → Prop}
  {v w : World}

theorem of_run {x : Op α} {y : Op β} {r : Except Error α × World} {q : Except Error β × World}
    (hx : x.run v = r) (hy : y.run w = q) (t : T r.2 q.2) (similar : Similar R r.1 q.1) :
    Matches T R x v y w := by
  rw [Matches, hx, hy]
  exact ⟨t, similar⟩

theorem pure {a : α} {b : β} (t : T v w) (r : R a b) :
    Matches T R (Pure.pure a) v (Pure.pure b) w := ⟨t, .ok r⟩

theorem throw (t : T v w) (e : Error) :
    Matches T R (MonadExcept.throw e) v (MonadExcept.throw e) w := ⟨t, .error e⟩

/-- One step after another, where what the first one leaves is related more closely. -/
theorem step {x : Op α} {y : Op β} {f : α → Op γ} {g : β → Op δ} (h : Matches T R x v y w)
    (le : ∀ v w, T v w → T' v w)
    (hf : ∀ a b v' w', T v' w' → R a b → Matches T' S (f a) v' (g b) w') :
    Matches T' S (x >>= f) v (y >>= g) w := by
  rcases hx : x.run v with ⟨p, v'⟩
  rcases hy : y.run w with ⟨q, w'⟩
  rw [Matches, hx, hy] at h
  obtain ⟨t, similar⟩ := h
  cases similar with
  | ok r =>
    rw [Matches, run_bind_ok hx, run_bind_ok hy]
    exact hf _ _ v' w' t r
  | error e => exact of_run (run_bind_error hx) (run_bind_error hy) (le _ _ t) (.error e)

theorem bind {x : Op α} {y : Op β} {f : α → Op γ} {g : β → Op δ} (h : Matches T R x v y w)
    (hf : ∀ a b v' w', T v' w' → R a b → Matches T S (f a) v' (g b) w') :
    Matches T S (x >>= f) v (y >>= g) w := h.step (fun _ _ => id) hf

theorem mono {x : Op α} {y : Op β} {R' : α → β → Prop} (h : Matches T R x v y w)
    (le : ∀ v w, T v w → T' v w) (imp : ∀ a b, R a b → R' a b) : Matches T' R' x v y w := by
  obtain ⟨t, similar⟩ := h
  refine ⟨le _ _ t, ?_⟩
  generalize (x.run v).1 = p at similar
  generalize (y.run w).1 = q at similar
  cases similar with
  | ok r => exact .ok (imp _ _ r)
  | error e => exact .error e

theorem map {x : Op α} {y : Op β} {f : α → γ} {g : β → δ} (h : Matches T R x v y w)
    (hf : ∀ a b, R a b → S (f a) (g b)) : Matches T S (f <$> x) v (g <$> y) w := by
  obtain ⟨t, similar⟩ := h
  rw [Matches, run_map, run_map]
  refine ⟨t, ?_⟩
  generalize (x.run v).1 = p at similar
  generalize (y.run w).1 = q at similar
  cases similar with
  | ok r => exact .ok (hf _ _ r)
  | error e => exact .error e

/-- What is read of the story is the same in both worlds. -/
theorem read {x : Op α} {f : α → Op γ} {g : α → Op δ} (ofStory : OfStory x) (t : T v w)
    (story : w.story = v.story)
    (hf : ∀ a, x.run v = (.ok a, v) → Matches T S (f a) v (g a) w) :
    Matches T S (x >>= f) v (x >>= g) w := by
  have hv := ofStory.run_eq (rfl : v.story = v.story)
  have hw := ofStory.run_eq story
  cases hx : (x.run v).1 with
  | error e =>
    rw [hx] at hv hw
    exact of_run (run_bind_error hv) (run_bind_error hw) t (.error e)
  | ok a =>
    rw [hx] at hv hw
    rw [Matches, run_bind_ok hv, run_bind_ok hw]
    exact hf a hv

end Op.Matches

variable {engine : Engine} {n : Int} {filed : Prop} {c d : Clock} {v w : World} {h h' : Held Game}

namespace World.Beside

theorem logged {journal journal' : Journal} (b : World.Beside n filed c d v w)
    (log : (journal'.entries n).map Content.unnumbered = (journal.entries n).map Content.unnumbered) :
    World.Beside n filed c d { v with journal } { w with journal := journal' } :=
  ⟨b.story, b.locks, b.kind, b.otherKind, b.has, b.game, log, b.clock, b.otherClock⟩

theorem locked (b : World.Beside n filed c d v w) (locks : Locks) :
    World.Beside n filed c d { v with locks } { w with locks } :=
  ⟨b.story, rfl, b.kind, b.otherKind, b.has, b.game, b.log, b.clock, b.otherClock⟩

end World.Beside

namespace Op.Matches

/-- A game that is stored again, in both worlds or in neither. -/
theorem updateGame (b : World.BesideStored n filed c d v w) (held : HeldBeside n filed h h') :
    Matches (World.BesideStored n filed c d) (HeldBeside n filed) (World.updateGame h) v
      (World.updateGame h') w := by
  have otherStored := b.has.2 b.stored
  obtain ⟨time, hvalue'⟩ := Game.untimed_eq held.value
  rcases World.run_updateGame held.number held.place b.stored with
    ⟨k, games, hrun, value, place, puts, -⟩ | ⟨kept, hrun⟩ <;>
  rcases World.run_updateGame held.otherNumber held.otherPlace otherStored with
    ⟨k', games', hrun', value', place', puts', -⟩ | ⟨kept', hrun'⟩
  · have has : games'.Has n ↔ games.Has n := by rw [puts.has, puts'.has, b.has]
    have game : (games'.get? n).map (Option.map Game.untimed) =
        (games.get? n).map (Option.map Game.untimed) := by
      have reads := Games.reads_untimed (b.otherKind.trans b.kind.symm) h.value time
      rw [← hvalue'] at reads
      rw [puts.get?, puts'.get?, if_pos rfl, if_pos rfl]
      generalize w.games.reads h'.value = r' at reads
      generalize v.games.reads h.value = r at reads
      cases r <;> cases r' <;> simp_all [Except.map]
    refine .of_run hrun hrun' ⟨⟨b.story, b.locks, puts.filed.trans b.kind,
      puts'.filed.trans b.otherKind, has, game, b.log, b.clock, b.otherClock⟩,
      (puts.has n).2 (.inl rfl)⟩ (.ok ?_)
    exact ⟨by rw [value, value', held.value], value ▸ held.number, place, place',
      by rw [value, value']; exact held.long⟩
  · have fits := puts.fits (b.kind.2 (b.otherKind.1 kept'))
    have long := held.long (b.otherKind.1 kept')
    rw [hvalue'] at long
    have unfit := World.unfit_of_updateGame held.otherNumber held.otherPlace otherStored hrun'
    rw [hvalue'] at unfit
    exact absurd (Payload.fits_untimed long fits) unfit
  · have fits := puts'.fits (b.otherKind.2 (b.kind.1 kept))
    have long := held.long (b.kind.1 kept)
    have unfit := World.unfit_of_updateGame held.number held.place b.stored hrun
    rw [hvalue'] at fits long
    exact absurd (Payload.fits_untimed (g := { h.value with locationTimestamp := time }) long.symm fits)
      unfit
  · exact .of_run hrun hrun' b (.error _)

theorem log (b : World.BesideStored n filed c d v w) (held : HeldBeside n filed h h') (body : Body) :
    Matches (World.BesideStored n filed c d) (fun e e' => e'.unnumbered = e.unnumbered)
      (World.log h.value body) v (World.log h'.value body) w := by
  have entry : (w.journal.nextEntry n body).unnumbered = (v.journal.nextEntry n body).unnumbered := by
    simp only [Journal.nextEntry, Content.unnumbered, Journal.nextPosition_unnumbered b.log]
  refine .of_run (World.run_log_some held.number body v) (World.run_log_some held.otherNumber body w)
    ⟨b.toBeside.logged ?_, b.stored⟩ (.ok entry)
  simp [entry, b.log]

/-- An operation that holds game `n` is refused in both worlds, or does the same in both. -/
theorem holding {α β : Type} {x : Op α} {y : Op β} {R : α → β → Prop} {T : World → World → Prop}
    {timeout : Float} (b : World.Beside n filed c d v w) (t : T v w)
    (released : ∀ v w, T v w →
      T { v with locks := v.locks.release n } { w with locks := w.locks.release n })
    (hxy : ∀ locks, Matches T R x { v with locks } y { w with locks }) :
    Matches T R (World.holding timeout n x) v (World.holding timeout n y) w := by
  rw [Matches, World.holding_eq, World.holding_eq, b.locks]
  cases v.locks.hold timeout n with
  | error e => exact ⟨t, .error e⟩
  | ok locks =>
    obtain ⟨left, similar⟩ := hxy locks
    exact ⟨released _ _ left, similar⟩

end Op.Matches

/-! ### Scripts -/

/-- A script runs for the same game in both worlds, and has emitted the same. -/
structure Stage.Beside (n : Int) (filed : Prop) (c d : Clock) (s s' : Stage World) : Prop where
  game : s'.game.untimed = s.game.untimed
  number : s.game.id = some n
  emitted : s'.emitted.map Content.unnumbered = s.emitted.map Content.unnumbered
  around : World.BesideStored n filed c d s.around s'.around

namespace Stage.Beside

variable {s s' : Stage World}

theorem display (engine : Engine) (b : Stage.Beside n filed c d s s') (body : Body) :
    (s'.display engine.place body).1 = (s.display engine.place body).1 ∧
      Stage.Beside n filed c d (s.display engine.place body).2 (s'.display engine.place body).2 := by
  have otherNumber : s'.game.id = some n := by
    have same : s'.game.untimed.id = s.game.untimed.id := by rw [b.game]
    exact same.trans b.number
  have entry : (s'.around.journal.nextEntry n body).unnumbered =
      (s.around.journal.nextEntry n body).unnumbered := by
    simp only [Journal.nextEntry, Content.unnumbered,
      Journal.nextPosition_unnumbered b.around.log]
  rw [display_eq engine b.number, display_eq engine otherNumber]
  refine ⟨rfl, b.game, b.number, ?_, b.around.toBeside.logged ?_, b.around.stored⟩
  · simp [entry, b.emitted]
  · simp [entry, b.around.log]

theorem congruence (engine : Engine) (n : Int) (filed : Prop) (c d : Clock) :
    Stage.Congruence engine (Stage.Beside n filed c d) where
  state b := by
    obtain ⟨time, hgame⟩ := Game.untimed_eq b.game
    rw [hgame]
  bearings b := by
    obtain ⟨time, hgame⟩ := Game.untimed_eq b.game
    unfold Stage.bearings
    rw [hgame]
  copies b := (congrArg World.copies b.around.story :)
  changed state b := by
    obtain ⟨time, hgame⟩ := Game.untimed_eq b.game
    exact ⟨by rw [hgame]; rfl, b.number, b.emitted, b.around⟩
  display body b := b.display engine body

end Stage.Beside

/-- The same run, and the same game held after it. -/
structure RunBeside (n : Int) (filed : Prop) (r r' : ScriptRun × Held Game) : Prop where
  run : r'.1.plain = r.1.plain
  held : HeldBeside n filed r.2 r'.2

structure ProgressBeside (n : Int) (filed : Prop) (p p' : Progress) : Prop where
  entries : p'.entries.map Content.unnumbered = p.entries.map Content.unnumbered
  held : HeldBeside n filed p.held p'.held

theorem HeldBeside.language (held : HeldBeside n filed h h') :
    h'.value.language = h.value.language := by
  obtain ⟨time, hvalue⟩ := Game.untimed_eq held.value
  rw [hvalue]

theorem HeldBeside.afterwards {g g' : Game} (held : HeldBeside n filed h h')
    (game : g'.untimed = g.untimed) (number : g.id = some n) (ending : Ending)
    (time : g.locationTimestamp = h.value.locationTimestamp)
    (time' : g'.locationTimestamp = h'.value.locationTimestamp) :
    HeldBeside n filed { h with value := Engine.afterwards g ending }
      { h' with value := Engine.afterwards g' ending } := by
  have long (kept : filed) : Json.isLong g'.locationTimestamp = Json.isLong g.locationTimestamp := by
    rw [time, time', held.long kept]
  obtain ⟨moved, rfl⟩ := Game.untimed_eq game
  unfold Engine.afterwards
  split <;> exact ⟨rfl, number, held.place, held.otherPlace, long⟩

namespace Op.Matches

theorem report (b : World.BesideStored n filed c d v w) (held : HeldBeside n filed h h') (number : Int)
    (included : Rows Script) {emitted emitted' : List Content}
    (same : emitted'.map Content.unnumbered = emitted.map Content.unnumbered) (ending : Ending) :
    Matches (World.BesideStored n filed c d) (RunBeside n filed)
      (engine.report number included emitted h ending) v
      (engine.report number included emitted' h' ending) w := by
  have copies : w.copies = v.copies := (congrArg World.copies b.story :)
  unfold Engine.report
  split
  · exact .throw b _
  · exact .throw b _
  · exact .throw b _
  · refine .of_run rfl rfl b (.ok ⟨?_, held⟩)
    simp only [ScriptRun.plain, same, held.language, copies, Content.texts_unnumbered same]

theorem play (quiet : engine.Quiet) (b : World.BesideStored n filed c d v w)
    (held : HeldBeside n filed h h') (number : Int) (script : Script) {runtime : Runtime}
    (hruntime : engine.runtime = some runtime) :
    Matches (World.BesideStored n filed c d) (RunBeside n filed)
      (engine.play h number script runtime) v (engine.play h' number script runtime) w := by
  have scripts : w.scripts = v.scripts := (congrArg World.scripts b.story :)
  have includes : w.includes = v.includes := (congrArg World.includes b.story :)
  obtain ⟨added, moves⟩ := Engine.moves_outcome quiet hruntime held.number number script v
  obtain ⟨added', moves'⟩ := Engine.moves_outcome quiet hruntime held.otherNumber number script w
  have ran : (engine.outcome h' number script runtime w).1 =
        (engine.outcome h number script runtime v).1 ∧
      Stage.Beside n filed c d (engine.outcome h number script runtime v).2
        (engine.outcome h' number script runtime w).2 := by
    unfold Engine.outcome
    rw [scripts, includes]
    have start : Stage.Beside n filed c d { game := h.value, around := v }
        { game := h'.value, around := w } := ⟨held.value, held.number, rfl, b⟩
    exact (Stage.Beside.congruence engine n filed c d).run _ _ (quiet runtime hruntime _) start
  rw [Matches, Engine.run_play, Engine.run_play, scripts, includes]
  generalize engine.outcome h number script runtime v = outcome at moves ran
  generalize engine.outcome h' number script runtime w = outcome' at moves' ran
  obtain ⟨ending, s⟩ := outcome
  obtain ⟨ending', s'⟩ := outcome'
  obtain ⟨same, beside⟩ := ran
  obtain rfl : ending' = ending := same
  have time : s.game.locationTimestamp = h.value.locationTimestamp := by rw [moves.game]
  have time' : s'.game.locationTimestamp = h'.value.locationTimestamp := by rw [moves'.game]
  have kept : HeldBeside n filed { h with value := Engine.afterwards s.game ending' }
      { h' with value := Engine.afterwards s'.game ending' } :=
    held.afterwards beside.game beside.number ending' time time'
  have settles : Matches (World.BesideStored n filed c d) (RunBeside n filed)
      (engine.settle h number (resolveIncludes v.scripts v.includes number).scripts ending' s) s.around
      (engine.settle h' number (resolveIncludes v.scripts v.includes number).scripts ending' s')
      s'.around := by
    have own : (Engine.afterwards s.game ending').id = some n := kept.number
    have other : (Engine.afterwards s'.game ending').id = some n := kept.otherNumber
    unfold Engine.settle Engine.storeAgain
    rw [if_pos (by simp [own]), if_pos (by simp [other])]
    exact (updateGame beside.around kept).bind fun k k' v w b again =>
      report b again number _ beside.emitted ending'
  exact settles

theorem executeStored (quiet : engine.Quiet) (b : World.BesideStored n filed c d v w)
    (held : HeldBeside n filed h h') (script : Identifier) :
    Matches (World.BesideStored n filed c d) (RunBeside n filed)
      (engine.executeStored h script) v (engine.executeStored h' script) w := by
  obtain ⟨time, hvalue⟩ := Game.untimed_eq held.value
  unfold Engine.executeStored
  refine .read (.script _) b b.story fun found _ => .read (.number _ _) b b.story fun number _ => ?_
  rw [Engine.execute_some, Engine.execute_some]
  have stray : Engine.strayScript (found.idAt number) found h'.value =
      Engine.strayScript (found.idAt number) found h.value := by
    rw [hvalue]
    rfl
  rw [stray, hvalue]
  dsimp only
  split
  · exact .throw b _
  split
  · exact .throw b _
  exact .read (.runtimeFor _ _ _) b b.story fun runtime hruntime =>
    play quiet b held _ _ (Engine.runtime_of_runtimeFor hruntime)

/-! ### Progress -/

variable {p p' : Progress}

theorem runHook (quiet : engine.Quiet) (b : World.BesideStored n filed c d v w)
    (same : ProgressBeside n filed p p') (hook : Option Int) :
    Matches (World.BesideStored n filed c d) (ProgressBeside n filed) (engine.runHook hook p) v
      (engine.runHook hook p') w := by
  cases hook with
  | none => exact .pure b same
  | some script =>
    refine (executeStored quiet b same.held script).bind fun r r' v w b run => .pure b ⟨?_, run.held⟩
    have entries : r'.1.entries.map Content.unnumbered = r.1.entries.map Content.unnumbered :=
      congrArg ScriptRun.entries run.run
    simp [same.entries, entries]

theorem showCopy (b : World.BesideStored n filed c d v w) (same : ProgressBeside n filed p p')
    (key : Option Text) :
    Matches (World.BesideStored n filed c d) (ProgressBeside n filed) (Engine.showCopy key p) v
      (Engine.showCopy key p') w := by
  cases key with
  | none => exact .pure b same
  | some key =>
    refine (log b same.held (.copy key)).bind fun entry entry' v w b shown => .pure b ⟨?_, same.held⟩
    simp [same.entries, shown]

/-- A move takes the next time of either clock, which can be written as well as the other one. -/
theorem move (b : World.BesideStored n filed c d v w) (same : ProgressBeside n filed p p')
    (long : filed → Json.isLong d.tick.1 = Json.isLong c.tick.1) (number : Int) (place : Location) :
    Matches (World.BesideStored n filed c.tick.2 d.tick.2) (ProgressBeside n filed)
      (Engine.move number place p) v (Engine.move number place p') w := by
  have ticked (u : World) :
      World.tick.run u = (.ok u.clock.tick.1, { u with clock := u.clock.tick.2 }) := rfl
  obtain ⟨time, hvalue⟩ := Game.untimed_eq same.held.value
  have game : p'.game = { p.game with locationTimestamp := time } := hvalue
  have later : World.BesideStored n filed c.tick.2 d.tick.2 { v with clock := v.clock.tick.2 }
      { w with clock := w.clock.tick.2 } :=
    ⟨⟨b.story, b.locks, b.kind, b.otherKind, b.has, b.game, b.log, by rw [b.clock],
      by rw [b.otherClock]⟩, b.stored⟩
  have moved : HeldBeside n filed
      { p.held with value := { p.game with
          location := place.idAt number
          locationTimestamp := v.clock.tick.1
          completed := p.game.completed || place.final } }
      { p'.held with value := { p'.game with
          location := place.idAt number
          locationTimestamp := w.clock.tick.1
          completed := p'.game.completed || place.final } } := by
    refine ⟨by rw [game]; rfl, same.held.number, same.held.place, same.held.otherPlace, fun kept => ?_⟩
    rw [b.clock, b.otherClock]
    exact long kept
  unfold Engine.move
  rw [Matches, run_bind_ok (ticked v), run_bind_ok (ticked w)]
  exact (updateGame later moved).bind fun k k' v w b held => .pure b ⟨same.entries, held⟩

theorem terminate (quiet : engine.Quiet) (b : World.BesideStored n filed c d v w)
    (same : ProgressBeside n filed p p') :
    Matches (World.BesideStored n filed c d) (ProgressBeside n filed) (engine.terminate p) v
      (engine.terminate p') w := by
  have adventures : w.adventures = v.adventures := (congrArg World.adventures b.story :)
  have game : p'.game.adventure = p.game.adventure := by
    obtain ⟨time, hvalue⟩ := Game.untimed_eq same.held.value
    show p'.held.value.adventure = p.held.value.adventure
    rw [hvalue]
  unfold Engine.terminate
  rw [Matches, run_bind_ok (run_get v), run_bind_ok (run_get w), adventures, game]
  split
  · exact pure b same
  · exact runHook quiet b same _

/-- The time is taken once on the way. -/
theorem travel (quiet : engine.Quiet) (b : World.BesideStored n filed c d v w)
    (same : ProgressBeside n filed p p')
    (long : filed → Json.isLong d.tick.1 = Json.isLong c.tick.1) (route : Route)
    (origin destination : Held Location) :
    Matches (fun v w => World.BesideStored n filed c d v w ∨
        World.BesideStored n filed c.tick.2 d.tick.2 v w) (ProgressBeside n filed)
      (engine.travel route origin destination p) v (engine.travel route origin destination p') w := by
  refine (showCopy b same _).step (fun _ _ => .inl) fun p₁ q₁ v₁ w₁ b same => ?_
  refine (runHook quiet b same _).step (fun _ _ => .inl) fun p₂ q₂ v₂ w₂ b same => ?_
  refine .read (.locationNow _) (.inl b) b.story fun here _ => ?_
  refine (runHook quiet b same _).step (fun _ _ => .inl) fun p₃ q₃ v₃ w₃ b same => ?_
  refine .read (.locationNow _) (.inl b) b.story fun there _ => ?_
  refine (move b same long _ _).step (fun _ _ => .inr) fun p₄ q₄ v₄ w₄ b same => ?_
  refine (showCopy b same _).step (fun _ _ => .inr) fun p₅ q₅ v₅ w₅ b same => ?_
  refine (runHook quiet b same _).step (fun _ _ => .inr) fun p₆ q₆ v₆ w₆ b same => ?_
  refine .read (.locationNow _) (.inr b) b.story fun last _ => ?_
  split
  · exact (terminate quiet b same).mono (fun _ _ => .inr) fun _ _ => id
  · exact .pure (.inr b) same

theorem transcribe (b : World.BesideStored n filed c d v w) (same : ProgressBeside n filed p p') :
    Matches (World.BesideStored n filed c d) (fun t t' => t'.plain = t.plain) (engine.transcribe p) v
      (engine.transcribe p') w := by
  have copies : w.copies = v.copies := (congrArg World.copies b.story :)
  have game : p'.game.untimed = p.game.untimed := same.held.value
  have language : p'.game.language = p.game.language := same.held.language
  refine .of_run rfl rfl b (.ok ?_)
  simp only [Transcript.plain, same.entries, game, language, copies,
    Content.texts_unnumbered same.entries]

end Op.Matches

end TextAdventure
