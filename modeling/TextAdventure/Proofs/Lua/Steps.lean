import TextAdventure.Proofs.Lua.Frames

/-! Steps of the machine keep what errors and protected calls keep, whatever the instruction is. -/

namespace TextAdventure.Lua.Machine

variable {m m' : Machine}

theorem insideObject_ok {object : Nat} {key v : Value} {heap : Heap}
    (found : m.insideObject object key = .ok (v, heap)) :
    ∃ item, m.heap.present item = .ok (v, heap) := by
  unfold insideObject at found
  split at found
  · obtain ⟨item, -, presented⟩ := ok_of_bind found
    exact ⟨item, presented⟩
  · obtain ⟨item, -, denied⟩ := ok_of_bind found
    split at denied <;> exact nomatch denied

theorem fails_insideObject (m : Machine) (object : Nat) (key : Value) :
    FailsWith Arises (m.insideObject object key) := by
  unfold insideObject
  split
  · exact .bind (m.heap.fails_itemAt _ _) fun item => m.heap.fails_present item
  · refine .bind (m.heap.fails_item _) fun item => ?_
    split <;> exact .error trivial

variable {P : Error → Prop} {I : Machine → List Frame → Prop} {G : List Frame → Prop}
  (inv : Invariant P I G)
include inv

theorem go_within (h : I m m.callers) (same : m.Same m') : (Move.go m').Within P I := by
  show I m' m'.callers
  rw [same.callers]
  exact inv.alike h same.toAlike

theorem result_within (h : I m m.callers) (dest : Nat) (v : Value) :
    (m.result dest v).Within P I :=
  go_within inv h (m.same_setAt _ _)

theorem underway (h : I m m.callers) : I m m.frames := inv.running.2 h

theorem index_within (h : I m m.callers) (dest : Nat) (seat : Seat) (key : Value) :
    (m.index dest seat key).Within P I := by
  unfold index
  split
  · exact result_within inv h _ _
  · exact result_within inv h _ _
  · split
    · exact complain_within inv h _
    · split
      · rename_i found
        obtain ⟨item, presented⟩ := insideObject_ok found
        have kept : I { m with heap := _ } m.callers := present_within inv h presented
        exact result_within inv kept _ _
      · rename_i failed
        exact fail_within inv (underway inv h) (inv.own _ (m.fails_insideObject _ _ _ failed))
  · exact complain_within inv h _

theorem setInside_within (h : I m m.callers) (part : Nat) (key v : Value) :
    (m.setInside part key v).Within P I := by
  unfold setInside
  split
  · rename_i failed
    exact fail_within inv (underway inv h) (inv.own _ (m.heap.fails_setItem _ _ _ _ failed))
  · rename_i heap set
    split
    · rename_i failed
      exact fail_within inv (underway inv h) (inv.own _ (heap.fails_partsOfState _ failed))
    · exact fun _ _ => go_within inv h ⟨⟨rfl, Heap.setItem_objects set, rfl⟩, rfl⟩

theorem setIndex_within (h : I m m.callers) (seat : Seat) (key v : Value) :
    (m.setIndex seat key v).Within P I := by
  unfold setIndex
  split
  · split
    · exact complain_within inv h _
    · exact complain_within inv h _
    · exact go_within inv h ⟨⟨rfl, rfl, rfl⟩, rfl⟩
  · split
    · exact complain_within inv h _
    · split
      · exact setInside_within inv h _ _ _
      · split
        · exact go_within inv h (.refl m)
        · rename_i failed
          exact fail_within inv (underway inv h) (inv.own _ (m.fails_insideObject _ _ _ failed))
  · exact complain_within inv h _

theorem arithmeticOnText_within (h : I m m.callers) (op : Option Arithmetic) (dest : Nat)
    (a b : Value) : (m.arithmeticOnText op dest a b).Within P I := by
  unfold arithmeticOnText
  split
  · exact complain_within inv h _
  · split
    · split
      · exact result_within inv h _ _
      · split
        · exact result_within inv h _ _
        · exact raise_within inv (underway inv h) _
    · exact complain_within inv h _

theorem arithmetic_within (h : I m m.callers) (op : Arithmetic) (dest : Nat)
    (left right : Operand) : (m.arithmetic op dest left right).Within P I := by
  unfold arithmetic
  dsimp only
  split
  · split
    · exact result_within inv h _ _
    · exact complain_within inv h _
  · exact arithmeticOnText_within inv h _ _ _ _
  · exact arithmeticOnText_within inv h _ _ _ _
  · exact complain_within inv h _
  · exact complain_within inv h _

theorem joined_within (h : I m m.callers) (dest register : Nat) (before : List Value)
    (done : Value) : (m.joined dest register before done).Within P I := by
  induction before generalizing register done with
  | nil => exact result_within inv h _ _
  | cons v before ih =>
    unfold joined
    split
    · exact ih _ _
    · exact complain_within inv h _
    · exact complain_within inv h _

theorem join_within (h : I m m.callers) (first count : Nat) : (m.join first count).Within P I := by
  unfold join
  split
  · exact h
  · exact joined_within inv h _ _ _ _

theorem length_within (h : I m m.callers) (dest source : Nat) :
    (m.length dest source).Within P I := by
  unfold length
  split
  · exact result_within inv h _ _
  · exact go_within inv h ⟨⟨rfl, rfl, rfl⟩, rfl⟩
  · exact complain_within inv h _

theorem negate_within (h : I m m.callers) (dest source : Nat) :
    (m.negate dest source).Within P I := by
  unfold negate
  split
  · exact result_within inv h _ _
  · exact arithmeticOnText_within inv h _ _ _ _
  · exact complain_within inv h _

theorem startCount_within (h : I m m.callers) (first target : Nat) :
    (m.startCount first target).Within P I := by
  unfold startCount
  split
  · exact complain_within inv h _
  · exact go_within inv h ⟨⟨rfl, rfl, rfl⟩, rfl⟩
  · exact go_within inv h ⟨⟨rfl, rfl, rfl⟩, rfl⟩

theorem nextCount_within (h : I m m.callers) (first target : Nat) :
    (m.nextCount first target).Within P I := by
  unfold nextCount
  split
  · split
    · exact go_within inv h ⟨⟨rfl, rfl, rfl⟩, rfl⟩
    · exact h
  · exact h

theorem call_underway (h : I m m.callers) (place : Nat) (wanted : Option Nat) (count : Nat) :
    (m.call place wanted m.frames count).Within P I :=
  call_within inv (underway inv h) place wanted count (.inl (inv.ground _ _))

theorem tailCall_within (h : I m m.callers) (function : Nat) (arguments : Option Nat) :
    (m.tailCall function arguments).Within P I := by
  unfold tailCall
  dsimp only
  split
  · split
    · exact complain_within inv h _
    · have same := m.same_close m.now.base
      rw [same.callers]
      exact enter_within inv (inv.alike h (same.trans (same_setSlice _ _ _)).toAlike) _ _ _ _
  · exact call_underway inv h _ _ _

theorem give_within (h : I m m.callers) (first : Nat) (count : Option Nat) :
    (m.give first count).Within P I := by
  have same := m.same_close m.now.base
  unfold give
  refine deliver_within inv ?_ _ _ _
  rw [same.callers]
  exact inv.alike h same.toAlike

theorem closure_within (h : I m m.callers) (dest function : Nat) :
    (m.closure dest function).Within P I := by
  have same := same_outerCells m (m.codes[function]?.getD {}).outers.toList #[]
  exact go_within inv h ⟨⟨same.nesting, same.objects, same.latest⟩, same.callers⟩

theorem fill_within (h : I m m.callers) (table offset : Nat) (count : Option Nat) :
    (m.fill table offset count).Within P I := by
  unfold fill
  split
  · exact go_within inv h ⟨⟨rfl, rfl, rfl⟩, rfl⟩
  · exact h

theorem branch_within (h : I m m.callers) (jumps : Bool) : (m.branch jumps).Within P I := by
  cases jumps with
  | true => exact h
  | false => exact go_within inv h ⟨⟨rfl, rfl, rfl⟩, rfl⟩

/-- Every instruction keeps the invariant. -/
theorem execute_within (h : I m m.callers) (i : Instruction) : (m.execute i).Within P I := by
  cases i with
  | move | load | getOuter | not => exact result_within inv h _ _
  | loadFalse => exact go_within inv h ⟨⟨rfl, rfl, rfl⟩, rfl⟩
  | loadNil => exact go_within inv h (m.same_setSlice _ _)
  | setOuter => exact go_within inv h (m.same_setOuter _ _)
  | getField => exact index_within inv h _ _ _
  | setField u key v => exact setIndex_within inv h (.outer u) (.text key) (m.operand v)
  | getIndex => exact index_within inv h _ _ _
  | setIndex => exact setIndex_within inv h _ _ _
  | newTable => exact go_within inv h ⟨⟨rfl, rfl, rfl⟩, rfl⟩
  | method dest object name =>
    have moved : (Move.go (m.setRegister (dest + 1) (m.register object))).Within P I :=
      go_within inv h (m.same_setAt _ _)
    exact index_within inv moved dest (.register object) (.text name)
  | arithmetic => exact arithmetic_within inv h _ _ _ _
  | negate => exact negate_within inv h _ _
  | length => exact length_within inv h _ _
  | join => exact join_within inv h _ _
  | close => exact go_within inv h (m.same_close _)
  | jump => exact go_within inv h ⟨⟨rfl, rfl, rfl⟩, rfl⟩
  | compare =>
    rw [execute]
    split
    · exact branch_within inv h _
    · exact complain_within inv h _
  | test => exact branch_within inv h _
  | testMove =>
    rw [execute]
    split
    · exact result_within inv h _ _
    · exact go_within inv h ⟨⟨rfl, rfl, rfl⟩, rfl⟩
  | call => exact call_underway inv h _ _ _
  | tailCall => exact tailCall_within inv h _ _
  | give => exact give_within inv h _ _
  | startCount => exact startCount_within inv h _ _
  | nextCount => exact nextCount_within inv h _ _
  | fill => exact fill_within inv h _ _ _
  | closure => exact closure_within inv h _ _
  | rest => exact go_within inv h (m.same_settle _ _ _)

theorem step_within (h : I m m.callers) : m.step.Within P I := by
  unfold step
  split
  · refine execute_within inv ?_ _
    exact inv.alike h ⟨rfl, rfl, rfl⟩
  · exact ⟨_, h⟩

end TextAdventure.Lua.Machine
