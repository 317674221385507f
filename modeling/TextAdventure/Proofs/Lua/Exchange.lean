import TextAdventure.Lua.Step
import TextAdventure.Proofs.Result

/-! What passes between programs and their game. An exchange that fails does so with one of a few errors
that only programs come to. -/

namespace TextAdventure.Lua

/-- The errors that programs come to by themselves. -/
def Arises : Error → Prop
  | .badBytes _ | .badText _ | .integerTooLarge | .accessDenied _ | .notCallable _
  | .missingArgument .. | .extraArguments .. | .missingKey _ | .outOfRange _ | .placeNotInteger _
  | .notStorable _ | .circular | .unhashable _ | .emittedNotText _ => True
  | _ => False

/-- The errors that programs come to by themselves, and those of what makes the table `game`. -/
def Own : Error → Prop
  | .foreign .lua _ | .foreign .value _ => True
  | e => Arises e

theorem Arises.own {e : Error} (h : Arises e) : Own e := by
  cases e <;> first | exact h.elim | exact h

theorem fails_encoded (t : Text) : FailsWith Arises (encoded t) := by
  unfold encoded
  split
  · exact .ok _
  · exact .error trivial

theorem fails_decoded (bytes : Bytes) : FailsWith Arises (decoded bytes) := by
  unfold decoded
  split
  · exact .ok _
  · exact .error trivial

namespace Value

theorem fails_ofText (t : Text) : FailsWith Arises (ofText t) := (fails_encoded t).map _

theorem fails_ofInt (n : Int) : FailsWith Arises (ofInt n) := by
  unfold ofInt
  split
  · exact .ok _
  · exact .error trivial

theorem fails_ofLeaf (v : Json) : FailsWith Arises (ofLeaf v) := by
  unfold ofLeaf
  split
  · exact .ok _
  · exact fails_ofInt _
  · exact .ok _
  · exact fails_ofText _
  · exact .ok _

end Value

namespace Heap

variable (h : Heap)

theorem fails_present (item : Item) : FailsWith Arises (h.present item) := by
  unfold present
  split
  · exact (Value.fails_ofLeaf _).map _
  · exact .ok _
  · split <;> exact .ok _
  · exact .ok _

theorem fails_item (v : Value) : FailsWith Arises (h.item v) := by
  unfold item
  split
  · exact .ok _
  · exact .ok _
  · exact .ok _
  · exact .ok _
  · exact (fails_decoded _).map _
  · split <;> exact .ok _
  · exact .ok _

theorem fails_whole (fuel : Nat) (item : Item) : FailsWith Arises (h.whole fuel item) := by
  induction fuel generalizing item with
  | zero =>
    cases item with
    | leaf v => exact .ok v
    | part place => exact .error trivial
    | held v => cases v with
      | number => exact .ok _
      | _ => exact .error trivial
  | succ fuel ih =>
    cases item with
    | leaf v => exact .ok v
    | part place =>
      rw [whole]
      split
      · exact .map (.mapM fun item _ => ih item) _
      · exact .map (.mapM fun f _ => .map (ih f.2) _) _
      · exact .ok _
    | held v => cases v with
      | number => exact .ok _
      | _ => exact .error trivial

theorem fails_partsOfState : FailsWith Arises h.partsOfState := by
  refine .filterMapM fun (key, item) _ => ?_
  cases item with
  | part place => exact .map (h.fails_whole _ _) _
  | leaf | held => exact .ok _

theorem fails_written (v : Value) : FailsWith Arises (h.written v) := by
  unfold written
  dsimp only
  split
  any_goals exact .ok _
  split
  · exact fails_encoded _
  · exact .bind (h.fails_whole _ _) fun _ => fails_encoded _
  · exact .ok _

theorem fails_keyOf (key : Value) : FailsWith Arises (h.keyOf key) := by
  refine .bind (h.fails_item key) fun item => ?_
  split
  · exact .ok _
  · exact .ok _
  · exact .error trivial
  · exact .ok _

theorem fails_placeIn (size : Nat) (key : Value) (assigned : Bool) :
    FailsWith Arises (h.placeIn size key assigned) := by
  have placed (n : Int) : FailsWith Arises (if 0 ≤ n ∧ n < size then pure n.toNat
      else throw (.outOfRange assigned) : Except Error Nat) := by
    split
    · exact .ok _
    · exact .error trivial
  refine .bind (h.fails_item key) fun item => ?_
  dsimp only
  split
  · exact placed _
  · exact placed _
  · exact .error trivial

theorem fails_itemAt (part : Nat) (key : Value) : FailsWith Arises (h.itemAt part key) := by
  unfold itemAt
  split
  · exact .bind (h.fails_placeIn _ _ _) fun _ => .ok _
  · refine .bind (h.fails_keyOf _) fun k => ?_
    split
    · exact .ok _
    · exact .error trivial
  · exact .ok _

theorem fails_setItem (part : Nat) (key v : Value) : FailsWith Arises (h.setItem part key v) := by
  unfold setItem
  split
  · exact .bind (h.fails_item _) fun _ => .bind (h.fails_placeIn _ _ _) fun _ => .ok _
  · exact .bind (h.fails_item _) fun _ => .bind (h.fails_keyOf _) fun _ => .ok _
  · exact .ok _

end Heap

end TextAdventure.Lua
