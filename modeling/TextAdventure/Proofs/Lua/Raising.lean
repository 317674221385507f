import TextAdventure.Proofs.Lua.Racing

/-! What scripts in Lua raise: errors that they have met, or a few of their own. They can keep the
errors that they meet, and raise them later on. -/

namespace TextAdventure.Lua

variable {P : Error → Prop}

/-! ### Errors that a machine keeps -/

/-- `P` knows all errors that the machine has met. -/
structure Machine.Knows (P : Error → Prop) (m : Machine) : Prop where
  objects : ∀ (place : Nat) (e : Error), m.heap.objects[place]? = some (.fault e) → P e
  latest : ∀ e, m.latest = some e → P e

namespace Machine.Knows

variable {m m' : Machine}

theorem of_alike (h : m.Knows P) (alike : m.Alike m') : m'.Knows P :=
  ⟨fun place e found => h.objects place e (alike.objects ▸ found),
    fun e met => h.latest e (alike.latest ▸ met)⟩

theorem object (h : m.Knows P) {o : Object} (new : ∀ e, o = .fault e → P e) :
    Knows P { m with heap := (m.heap.newObject o).2 } := by
  refine ⟨fun place e found => ?_, h.latest⟩
  have hit := Array.getElem?_push.symm.trans found
  split at hit
  · exact new e (Option.some.inj hit)
  · exact h.objects place e hit

end Machine.Knows

/-- Machines only ever meet errors that they come to by themselves, or that the game refuses something
with. -/
theorem invariant_knows (own : ∀ e, Arises e → P e) :
    Invariant P (fun m _ => m.Knows P) fun _ => True where
  own := own
  alike h alike := h.of_alike alike
  running := Iff.rfl
  ground _ _ := trivial
  guarded h _ _ := ⟨h.objects, h.latest⟩
  released h := ⟨h.objects, h.latest⟩
  known h found := h.objects _ _ found
  object h new := h.object new
  failed h known := by
    have kept := h.object (o := .fault _) fun e same => Object.fault.inj same ▸ known
    exact ⟨kept.objects, fun e same => Option.some.inj same ▸ known⟩

theorem knows_start : Machine.start.Knows P := by
  refine ⟨fun place e found => ?_, nofun⟩
  have found : (services.map Object.service)[place]? = some (.fault e) := by
    rw [← List.getElem?_toArray]
    exact found
  rw [List.getElem?_map] at found
  obtain ⟨service, -, ⟨⟩⟩ := Option.map_eq_some_iff.1 found

theorem load_knows {m m' : Machine} {source : Bytes} {main : Value} (h : m.Knows P)
    (loaded : m.load source = .ok (main, m')) : m'.Knows P := by
  obtain ⟨program, -, heq⟩ := map_ok loaded
  obtain rfl := (Prod.mk.inj heq).2
  exact ⟨h.objects, h.latest⟩

/-! ### What scripts are given, and what they give -/

theorem fails_bearingValues (b : Bearings) : FailsWith Arises (bearingValues b) := by
  have placed (id : Value) : FailsWith Arises (do
      let location ← Value.ofInt b.location
      let adventure ← Value.ofInt b.adventure
      let language ← Value.ofText b.language
      return [id, location, adventure, language]) :=
    .bind (Value.fails_ofInt _) fun _ => .bind (Value.fails_ofInt _) fun _ =>
      .bind (Value.fails_ofText _) fun _ => .ok _
  unfold bearingValues
  split
  · exact .bind (Value.fails_ofInt _) fun _ => placed _
  · exact placed _

theorem fails_budget (limit : Option Int) : FailsWith Arises (budget limit) := by
  unfold budget
  split
  · exact .ok _
  · split
    · exact .error trivial
    · exact .ok _

theorem fails_resultText (h : Heap) (v : Value) : FailsWith Arises (resultText h v) := by
  unfold resultText
  split
  · exact .ok _
  · exact .ok _
  · exact .ok _
  · exact .ok _
  · exact .bind (h.fails_written v) fun bytes => .bind (fails_decoded bytes) fun _ => .ok _

theorem fails_resultsText (h : Heap) (values : List Value) :
    FailsWith Arises (resultsText h values) := by
  refine .bind (.mapM fun v _ => fails_resultText h v) fun texts => ?_
  split <;> exact .ok _

theorem fails_result (m : Machine) (values : List Value) : FailsWith Arises (result m values) := by
  refine .bind (fails_resultsText m.heap values) fun returned => ?_
  split
  · exact .ok _
  · exact fails_resultText m.heap _

/-! ### Runs -/

/-- `P` knows all errors that the program has met. -/
def Leaves (P : Error → Prop) (run : Meter × Option Outcome) : Prop :=
  ∀ m r, run.2 = some (m, r) → m.Knows P

namespace Machine

variable {m : Machine} (own : ∀ e, Arises e → P e)

theorem follow_leads {move : Move} (h : move.Within P fun m _ => m.Knows P) (k : Meter)
    {go : Machine → Play (Meter × Option Outcome)}
    (goes : ∀ m, m.Knows P → (go m).LeadsTo P (Leaves P)) :
    (move.follow k go).LeadsTo P (Leaves P) := by
  induction move with
  | go m => exact goes m h
  | ask request next ih => exact fun reply refuses => ih reply (h reply refuses)
  | finished m values | failed m e =>
    obtain ⟨-, knows⟩ := h
    rintro _ _ ⟨⟩
    exact knows

include own

theorem run_leads (fuel : Nat) (k : Meter) (h : m.Knows P) :
    (run fuel k m).LeadsTo P (Leaves P) := by
  induction fuel generalizing k m with
  | zero =>
    rw [run]
    rintro _ _ ⟨⟩
  | succ fuel ih =>
    rw [run_succ]
    refine follow_leads ?_ _ fun m' knows => ih _ knows
    unfold act
    split
    · exact raise_within (invariant_knows own) h _
    · exact step_within (invariant_knows own) h

theorem launch_leads (k : Meter) (h : m.Knows P) (f : Value) (arguments : List Value) :
    (m.launch k f arguments).LeadsTo P (Leaves P) := by
  have poised : (m.poised f arguments).Knows P := by
    have called : Knows P { m with callers := [], nesting := 1 } := ⟨h.objects, h.latest⟩
    exact called.of_alike ((same_reach _ _).trans (same_setSlice _ _ _)).toAlike
  unfold launch
  exact follow_leads (call_within (invariant_knows own) poised 1 none _ (.inl trivial)) _
    fun m' knows => run_leads own _ _ knows

end Machine

/-! ### Scripts -/

/-- `Q` holds of whatever a script comes to that meets no errors but those that `P` knows. -/
structure Concludes (P : Error → Prop) (Q : Conclusion → Prop) : Prop where
  uncaught : ∀ e, P e → Q (uncaught e)
  broken : ∀ message, Q (.broken message)
  failed : ∀ message, Q (.failed message)
  returned : ∀ t : Option Text, Q (.returned ((t.map Json.text).getD .null))

section Script

variable {Q : Conclusion → Prop} (concludes : Concludes P Q) (own : ∀ e, Arises e → P e) {m : Machine}
include concludes own

theorem broken_concludes (h : m.Knows P) (v : Value) : Q (broken m v) := by
  unfold broken
  split
  · split
    · rename_i e found
      refine concludes.uncaught _ ?_
      cases met : m.latest with
      | none => exact h.objects _ _ found
      | some e' => exact h.latest e' met
    · exact concludes.broken _
  · split
    · exact concludes.broken _
    · exact concludes.uncaught _ (own _ trivial)
  · exact concludes.broken _
  · exact concludes.broken _

theorem perform_leads {k : Meter} {f : Value} {arguments : List Value}
    {failed : Machine → Value → Conclusion} {next : Meter → Machine → List Value → Play Course}
    (h : m.Knows P) (fails : ∀ m v, m.Knows P → Q (failed m v))
    (goes : ∀ k m values, m.Knows P → (next k m values).LeadsTo P fun c => Q c.conclusion) :
    (perform k m f arguments failed next).LeadsTo P fun c => Q c.conclusion := by
  refine (Machine.launch_leads own k h f arguments).bind ?_
  rintro ⟨k', _ | ⟨m', e | values⟩⟩ leaves
  · exact concludes.broken _
  · exact fails m' e (leaves m' _ rfl)
  · exact goes k' m' values (leaves m' _ rfl)

theorem performRun_leads (k : Meter) (h : m.Knows P) :
    (performRun k m).LeadsTo P fun c => Q c.conclusion := by
  have go (f : Value) : (performRun.go k m f).LeadsTo P fun c => Q c.conclusion := by
    refine perform_leads concludes own h (fun m v knows => broken_concludes concludes own knows v)
      fun k m values _ => ?_
    split
    · exact concludes.returned _
    · rename_i failed
      exact concludes.uncaught _ (own _ (fails_result m values _ failed))
  unfold performRun
  dsimp only
  split
  · exact go _
  · exact go _
  · split
    · exact concludes.failed _
    · rename_i bad _
      exact concludes.uncaught _ (own (.badBytes bad) trivial)
  · exact concludes.failed _

theorem performSource_leads (k : Meter) (h : m.Knows P) (source : Text) :
    (performSource k m source).LeadsTo P fun c => Q c.conclusion := by
  unfold performSource
  split
  · rename_i failed
    exact concludes.uncaught _ (own _ (fails_encoded source _ failed))
  · split
    · exact concludes.broken _
    · rename_i loaded
      refine perform_leads concludes own (load_knows h loaded)
        (fun m v knows => broken_concludes concludes own knows v) fun k m values knows => ?_
      split
      · exact performRun_leads concludes own k knows
      · rename_i failed
        exact concludes.uncaught _ (own _ (fails_resultsText m.heap values _ failed))

end Script

/-! ### Errors that scripts raise -/

/-- An error that a script raises in the end is one that `P` knows. -/
def Conclusion.Raises (P : Error → Prop) (conclusion : Conclusion) : Prop :=
  ∀ e, conclusion = .raised e → P e

theorem Conclusion.Raises.ending {conclusion : Conclusion} (h : conclusion.Raises P) (e : Error)
    (ended : conclusion.ending = .raised e) : P e := by
  unfold Conclusion.ending at ended
  split at ended
  · exact nomatch ended
  · split at ended <;> exact nomatch ended
  · exact nomatch ended
  · exact h e (congrArg Conclusion.raised (Ending.raised.inj ended))

theorem concludes_raises : Concludes P (Conclusion.Raises P) where
  uncaught e known := by
    unfold uncaught
    split
    · exact nofun
    · rintro _ ⟨⟩
      exact known
  broken _ := nofun
  failed _ := nofun
  returned _ := nofun

section Raising

variable (own : ∀ e, Own e → P e) {m : Machine}
include own

theorem unready_raises (h : m.Knows P) (v : Value) : (unready m v).Raises P := by
  have raises := broken_concludes concludes_raises (fun e arises => own e arises.own) h v
  unfold unready
  split
  · rintro _ ⟨⟩
    exact own _ trivial
  · rintro _ ⟨⟩
    exact own _ trivial
  · exact raises

theorem makeGame_leads (k : Meter) (bearings : List Value) {next : Meter → Machine → Play Course}
    {start : Except Refusal (Value × Machine)} (loaded : Machine.start.load gameProgram = start)
    (goes : ∀ k m, m.Knows P → (next k m).LeadsTo P fun c => c.conclusion.Raises P) :
    (makeGame k bearings next start).LeadsTo P fun c => c.conclusion.Raises P := by
  have arises (e : Error) (h : Arises e) : P e := own e h.own
  rcases start with r | ⟨main, m⟩
  · exact nofun
  · refine perform_leads concludes_raises arises (load_knows knows_start loaded)
      (fun m v knows => unready_raises own knows v) fun k m values knows => ?_
    refine perform_leads concludes_raises arises knows (fun m v knows => unready_raises own knows v)
      fun k m values knows => goes k _ ?_
    exact ⟨knows.objects, knows.latest⟩

theorem courseFor_leads (k : Meter) (source : Text) (bearings : Bearings) :
    (courseFor k source bearings).LeadsTo P fun c => c.conclusion.Raises P := by
  unfold courseFor
  split
  · rename_i failed
    intro e raised
    rw [← Conclusion.raised.inj raised]
    exact own _ (fails_bearingValues bearings _ failed).own
  · -- What is loaded is named, or else it would be computed.
    generalize loaded : Machine.start.load gameProgram = start
    refine makeGame_leads own k _ loaded fun k m knows => ?_
    exact performSource_leads concludes_raises (fun e arises => own e arises.own) k.mark knows source

theorem course_leads (k : Meter) (source : Text) :
    (course k source).LeadsTo P fun c => c.conclusion.Raises P :=
  fun bearings _ => courseFor_leads own k source bearings

theorem play_leads (limit : Option Int) (source : Text) :
    (play limit source).LeadsTo P fun ending => ∀ e, ending = .raised e → P e := by
  unfold play
  split
  · rename_i failed
    rintro _ ⟨⟩
    exact own _ (fails_budget limit _ failed).own
  · exact (course_leads own _ source).bind fun c raises e ended => raises.ending e ended

end Raising

/-- Scripts in Lua raise what they have met, or an error of their own. -/
theorem runtime_raises (own : ∀ e, Own e → P e) {limit : Option Int} {r : Runtime}
    (made : runtime limit = .ok r) (source : Text) : (r source).Raises P := by
  rw [runtime_play made]
  exact (play_leads own limit source).raises

theorem runtime_quiet {limit : Option Int} {r : Runtime} (made : runtime limit = .ok r)
    (source : Text) : (r source).Quiet := by
  rw [runtime_play made]
  exact (play_leads (fun _ _ => trivial) limit source).quiet

end TextAdventure.Lua
