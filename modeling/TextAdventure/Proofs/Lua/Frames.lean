import TextAdventure.Proofs.Lua.Exchange
import TextAdventure.Proofs.Script.Raising

/-! Calls in progress. Whatever is to hold of a machine and of what waits for it holds as long as errors
and protected calls keep it. -/

namespace TextAdventure.Lua

namespace Heap

variable {h h' : Heap}

mutual

theorem keep_objects (v : Json) (h : Heap) : (keep v h).2.objects = h.objects := by
  cases v with
  | list items => rw [keep]; exact keepItems_objects items h
  | object fields => rw [keep]; exact keepFields_objects fields h
  | _ => rfl

theorem keepItems_objects (items : List Json) (h : Heap) :
    (keepItems items h).2.objects = h.objects := by
  cases items with
  | nil => rfl
  | cons v rest =>
    rw [keepItems]
    exact (keepItems_objects rest _).trans (keep_objects v h)

theorem keepFields_objects (fields : List (Text × Json)) (h : Heap) :
    (keepFields fields h).2.objects = h.objects := by
  cases fields with
  | nil => rfl
  | cons f rest =>
    rw [keepFields]
    exact (keepFields_objects rest _).trans (keep_objects f.2 h)

end

/-- A value that is presented is nothing new, or another object of something that is no new error. -/
theorem present_cases {item : Item} {v : Value} (presented : h.present item = .ok (v, h')) :
    h' = h ∨ ∃ o, h' = (h.newObject o).2 ∧
      ∀ e, o = .fault e → ∃ place : Nat, h.objects[place]? = some (.fault e) := by
  unfold present at presented
  split at presented
  · rename_i leaf
    cases made : Value.ofLeaf leaf with
    | error e => rw [made] at presented; exact nomatch presented
    | ok v' =>
      rw [made] at presented
      exact .inl (Prod.mk.inj (Except.ok.inj presented)).2.symm
  · refine .inr ⟨_, (Prod.mk.inj (Except.ok.inj presented)).2.symm, ?_⟩
    rintro e ⟨⟩
  · split at presented
    · rename_i o found
      refine .inr ⟨o, (Prod.mk.inj (Except.ok.inj presented)).2.symm, ?_⟩
      rintro e rfl
      exact ⟨_, found⟩
    · exact .inl (Prod.mk.inj (Except.ok.inj presented)).2.symm
  · exact .inl (Prod.mk.inj (Except.ok.inj presented)).2.symm

theorem setItem_objects {part : Nat} {key v : Value} (set : h.setItem part key v = .ok h') :
    h'.objects = h.objects := by
  unfold setItem at set
  split at set
  · obtain ⟨item, -, set⟩ := ok_of_bind set
    obtain ⟨place, -, set⟩ := ok_of_bind set
    rw [← Except.ok.inj set]
  · obtain ⟨item, -, set⟩ := ok_of_bind set
    obtain ⟨k, -, set⟩ := ok_of_bind set
    rw [← Except.ok.inj set]
  · rw [← Except.ok.inj set]

end Heap

namespace Machine

/-- Machines with the same objects of the game and the same error, and as deep in calls. -/
structure Alike (m m' : Machine) : Prop where
  nesting : m'.nesting = m.nesting
  objects : m'.heap.objects = m.heap.objects
  latest : m'.latest = m.latest

/-- The same waits for both machines, too. -/
structure Same (m m' : Machine) : Prop extends Alike m m' where
  callers : m'.callers = m.callers

variable {m m' m'' : Machine}

theorem Same.refl (m : Machine) : m.Same m := ⟨⟨rfl, rfl, rfl⟩, rfl⟩

theorem Same.trans (h : m.Same m') (h' : m'.Same m'') : m.Same m'' :=
  ⟨⟨h'.nesting.trans h.nesting, h'.objects.trans h.objects, h'.latest.trans h.latest⟩,
    h'.callers.trans h.callers⟩

/-! ### What leaves the calls alone -/

theorem same_setAt (m : Machine) (place : Nat) (v : Value) : m.Same (m.setAt place v) :=
  ⟨⟨rfl, rfl, rfl⟩, rfl⟩

theorem same_reach (m : Machine) (size : Nat) : m.Same (m.reach size) := by
  unfold reach
  split <;> exact ⟨⟨rfl, rfl, rfl⟩, rfl⟩

theorem same_setSlice (m : Machine) (place : Nat) (values : List Value) :
    m.Same (m.setSlice place values) := by
  induction values generalizing m place with
  | nil => exact .refl m
  | cons v rest ih => exact (m.same_setAt place v).trans (ih _ _)

theorem same_settle (m : Machine) (values : List Value) (place : Nat) (wanted : Option Nat) :
    m.Same (m.settle values place wanted) := by
  cases wanted with
  | some count => exact m.same_setSlice _ _
  | none =>
    have same := (m.same_reach (place + values.length)).trans (same_setSlice _ place values)
    exact ⟨⟨same.nesting, same.objects, same.latest⟩, same.callers⟩

theorem same_closeFrom (m : Machine) (place : Nat) (opens : List (Nat × Nat)) :
    m.Same (m.closeFrom place opens) := by
  induction opens generalizing m with
  | nil => exact ⟨⟨rfl, rfl, rfl⟩, rfl⟩
  | cons entry rest ih =>
    unfold closeFrom
    split
    · let cells := m.heap.cells.setIfInBounds entry.2 (.closed (m.at_ entry.1))
      have closed : m.Same { m with heap := { m.heap with cells } } := ⟨⟨rfl, rfl, rfl⟩, rfl⟩
      exact closed.trans (ih _)
    · exact ⟨⟨rfl, rfl, rfl⟩, rfl⟩

theorem same_close (m : Machine) (place : Nat) : m.Same (m.close place) := by
  unfold close
  split
  · exact .refl m
  · exact m.same_closeFrom place m.opens

theorem same_setOuter (m : Machine) (u : Nat) (v : Value) : m.Same (m.setOuter u v) := by
  unfold setOuter
  dsimp only
  split <;> exact ⟨⟨rfl, rfl, rfl⟩, rfl⟩

theorem same_cellAt (m : Machine) (place : Nat) : m.Same (m.cellAt place).2 := by
  unfold cellAt
  split <;> exact ⟨⟨rfl, rfl, rfl⟩, rfl⟩

theorem same_outerCells (m : Machine) (outers : List Outer) (cells : Array Nat) :
    m.Same (m.outerCells outers cells).2 := by
  induction outers generalizing m cells with
  | nil => exact .refl m
  | cons o rest ih =>
    unfold outerCells
    split
    · exact (m.same_cellAt _).trans (ih _ _)
    · exact ih m _

end Machine

/-! ### Invariants -/

/-- Wherever a move goes on or ends, `I` holds of the machine there and of what waits for it, whatever
the game answers, as long as it refuses nothing but with errors that `P` knows. -/
def Move.Within (P : Error → Prop) (I : Machine → List Frame → Prop) : Move → Prop
  | .go m => I m m.callers
  | .ask request next => ∀ reply, request.Refuses P reply → (next reply).Within P I
  | .finished m _ | .failed m _ => ∃ frames, I m frames

/-- What can be kept of a machine and of the frames that wait for it. `P` knows all errors that are
met, and protected calls can be made above frames of which `G` holds. -/
structure Invariant (P : Error → Prop) (I : Machine → List Frame → Prop)
    (G : List Frame → Prop) : Prop where
  own : ∀ e, Arises e → P e
  alike : ∀ {m m' : Machine} {frames}, I m frames → m.Alike m' → I m' frames
  running : ∀ {m : Machine} {a frames}, I m (.running a :: frames) ↔ I m frames
  ground : ∀ frame frames, G (frame :: frames)
  guarded : ∀ {m : Machine} {place wanted frames}, I m frames → G frames →
    m.nesting + 1 < Machine.deepest →
    I { m with nesting := m.nesting + 1 } (.guard place wanted :: frames)
  released : ∀ {m : Machine} {place wanted frames}, I m (.guard place wanted :: frames) →
    I { m with nesting := m.nesting - 1 } frames
  known : ∀ {m : Machine} {frames} {place : Nat} {e}, I m frames →
    m.heap.objects[place]? = some (.fault e) → P e
  object : ∀ {m : Machine} {frames o}, I m frames → (∀ e, o = .fault e → P e) →
    I { m with heap := (m.heap.newObject o).2 } frames
  failed : ∀ {m : Machine} {frames e}, I m frames → P e →
    I { m with heap := (m.heap.newObject (.fault e)).2, latest := some e } frames

namespace Machine

variable {P : Error → Prop} {I : Machine → List Frame → Prop} {G : List Frame → Prop}
  {m m' : Machine} {frames : List Frame} (inv : Invariant P I G)
include inv

theorem present_within {item : Item} {v : Value} {heap : Heap} (h : I m frames)
    (presented : m.heap.present item = .ok (v, heap)) : I { m with heap } frames := by
  rcases Heap.present_cases presented with rfl | ⟨o, rfl, nothing⟩
  · exact h
  · refine inv.object h fun e new => ?_
    obtain ⟨place, found⟩ := nothing e new
    exact inv.known h found

/-! ### The ends of calls -/

theorem deliver_within (h : I m frames) (values : List Value) (place : Nat)
    (wanted : Option Nat) : (m.deliver values place wanted frames).Within P I := by
  induction frames generalizing m values place wanted with
  | nil => exact ⟨[], h⟩
  | cons frame callers ih =>
    cases frame with
    | running a =>
      have same := m.same_settle values place wanted
      exact inv.alike (inv.running.1 h) ⟨same.nesting, same.objects, same.latest⟩
    | guard place' wanted' => exact ih (inv.released h) _ _ _

theorem raise_within (h : I m frames) (e : Value) : (m.raise e frames).Within P I := by
  induction frames with
  | nil => exact ⟨[], h⟩
  | cons frame callers ih =>
    cases frame with
    | running a => exact ih (inv.running.1 h)
    | guard place wanted =>
      have same := m.same_close place
      have closed := inv.released (inv.alike h same.toAlike)
      rw [same.nesting] at closed
      exact deliver_within inv closed _ _ _

theorem fail_within (h : I m frames) {e : Error} (known : P e) : (m.fail e frames).Within P I :=
  raise_within inv (inv.failed h known) _

theorem complainIn_within (h : I m frames) (c : Complaint) :
    (m.complainIn frames c).Within P I := raise_within inv h _

theorem complain_within (h : I m m.callers) (c : Complaint) : (m.complain c).Within P I :=
  complainIn_within inv (inv.running.2 h) c

/-! ### Calls -/

theorem badArgument_within (h : I m frames) (place : Nat) (b : Builtin) (argument : Nat)
    (problem : String) : (m.badArgument frames place b argument problem).Within P I :=
  complainIn_within inv h _

theorem raiseArgument_within (h : I m frames) (place : Nat) (arguments : List Value) :
    (m.raiseArgument frames place arguments).Within P I := by
  unfold raiseArgument
  dsimp only
  split
  · exact badArgument_within inv h _ _ _ _
  · split <;> exact raise_within inv h _

theorem callBuiltin_within (h : I m frames) (b : Builtin) (place count : Nat)
    (wanted : Option Nat) : (m.callBuiltin b place count wanted frames).Within P I := by
  unfold callBuiltin
  dsimp only
  split
  · exact raiseArgument_within inv h _ _
  · exact badArgument_within inv h _ _ _ _
  · exact deliver_within inv h _ _ _
  · split
    · split
      · exact raise_within inv h _
      · split
        · exact deliver_within inv h _ _ _
        · rename_i failed
          exact fail_within inv h (inv.own _ (m.heap.fails_written _ _ failed))
    · exact deliver_within inv h _ _ _

/-- Something of a heap with the same objects is handed over. -/
theorem deliver_presented (h : I m frames) {heap heap' : Heap} {item : Item} {v : Value}
    (same : heap.objects = m.heap.objects) (presented : heap.present item = .ok (v, heap'))
    (place : Nat) (wanted : Option Nat) :
    ({ m with heap := heap' }.deliver [v] place wanted frames).Within P I := by
  have alike : m.Alike { m with heap } := ⟨rfl, same, rfl⟩
  exact deliver_within inv (present_within inv (inv.alike h alike) presented) _ _ _

theorem fail_presented (h : I m frames) {heap : Heap} {item : Item} {e : Error}
    (failed : heap.present item = .error e) : (m.fail e frames).Within P I :=
  fail_within inv h (inv.own e (heap.fails_present item e failed))

theorem receive_within (h : I m frames) (key : Json) (place : Nat) (wanted : Option Nat) :
    (m.receive key place wanted frames).Within P I := by
  have keeps {v : Json} {item : Item} {heap : Heap} (kept : Heap.keep v m.heap = (item, heap)) :
      heap.objects = m.heap.objects := by
    rw [← m.heap.keep_objects v, kept]
  unfold receive
  dsimp only
  split
  · split
    · rename_i presented
      exact deliver_presented inv h rfl presented _ _
    · rename_i failed
      exact fail_presented inv h failed
  · rintro (e | v) refuses
    · exact fail_within inv h (refuses e rfl)
    · dsimp only
      split <;> rename Heap.keep v m.heap = _ => kept <;> have same := keeps kept
      · split
        · rename_i presented
          exact deliver_presented inv h (by exact same) presented _ _
        · rename_i failed
          exact fail_presented inv h failed
      · split
        · rename_i presented
          exact deliver_presented inv h same presented _ _
        · rename_i failed
          exact fail_presented inv h failed

theorem put_within (h : I m frames) (key : Json) (v : Item) (place : Nat)
    (wanted : Option Nat) : (m.put key v place wanted frames).Within P I := by
  rintro (e | ⟨⟩) refuses
  · exact fail_within inv h (refuses e rfl)
  · refine deliver_within inv (inv.alike h ?_) _ _ _
    exact ⟨rfl, rfl, rfl⟩

theorem serve_within (h : I m frames) (s : Service) (arguments : List Item) (place : Nat)
    (wanted : Option Nat) : (m.serve s arguments place wanted frames).Within P I := by
  unfold serve
  dsimp only
  split
  · exact put_within inv h _ _ _ _
  · exact fail_within inv h (inv.own _ trivial)
  · rintro (e | ⟨⟩) refuses
    · exact fail_within inv h (refuses e rfl)
    · exact deliver_within inv h _ _ _
  · exact fail_within inv h (inv.own _ trivial)
  · rintro (e | ⟨⟩) refuses
    · exact fail_within inv h (refuses e rfl)
    · exact deliver_within inv h _ _ _
  · rintro (e | ⟨⟩) refuses
    · exact fail_within inv h (refuses e rfl)
    · exact deliver_within inv h _ _ _
  · exact receive_within inv h _ _ _
  · intro reply refuses
    dsimp only
    split
    · rename_i e failed
      have fails : FailsWith P (reply.bind Value.ofText) :=
        .bind refuses fun t => (Value.fails_ofText t).mono inv.own
      exact fail_within inv h (fails e failed)
    · exact deliver_within inv h _ _ _
  · exact fail_within inv h (inv.own _ trivial)

theorem callObject_within (h : I m frames) (object place count : Nat) (wanted : Option Nat) :
    (m.callObject object place count wanted frames).Within P I := by
  unfold callObject
  split
  · rename_i failed
    exact fail_within inv h
      (inv.own _ (FailsWith.mapM (fun v _ => m.heap.fails_item v) _ failed))
  · split
    · exact serve_within inv h _ _ _ _
    · exact fail_within inv h (inv.own _ trivial)

theorem enter_within (h : I m frames) (c : Closure) (place count : Nat)
    (wanted : Option Nat) : (m.enter c place count wanted frames).Within P I := by
  unfold enter
  dsimp only
  split
  · exact complainIn_within inv h _
  · refine inv.alike h ?_
    have same := (m.same_reach (place + 1 + (m.codes[c.code]?.getD {}).size)).trans
      (same_setSlice _ (place + 1 + count)
        (List.replicate ((m.codes[c.code]?.getD {}).parameters - count) .nil))
    exact ⟨same.nesting, same.objects, same.latest⟩

theorem call_within (h : I m frames) (place : Nat) (wanted : Option Nat) (count : Nat)
    (ground : G frames ∨ m.at_ place ≠ .builtin .pcall ∨ count = 0) :
    (m.call place wanted frames count).Within P I := by
  induction count generalizing m place wanted frames with
  | zero =>
    unfold call
    dsimp only
    split
    · exact complainIn_within inv h _
    · split
      · exact enter_within inv h _ _ _ _
      · rename_i impossible
        exact absurd impossible.symm (Nat.succ_ne_zero _)
      · exact callBuiltin_within inv h _ _ _ _
      · exact callObject_within inv h _ _ _ _
      · exact complainIn_within inv h _
  | succ rest ih =>
    unfold call
    dsimp only
    split
    · exact complainIn_within inv h _
    · split
      · exact enter_within inv h _ _ _ _
      · rename_i found counted
        split
        · exact deliver_within inv h _ _ _
        · rename_i shallow
          obtain rfl := Nat.succ.inj counted
          have below : G frames := ground.resolve_right fun other =>
            other.elim (fun plain => plain found) (Nat.succ_ne_zero _)
          exact ih (inv.guarded h below (by simpa using shallow)) _ _ (.inl (inv.ground _ _))
      · exact callBuiltin_within inv h _ _ _ _
      · exact callObject_within inv h _ _ _ _
      · exact complainIn_within inv h _

end Machine

end TextAdventure.Lua
