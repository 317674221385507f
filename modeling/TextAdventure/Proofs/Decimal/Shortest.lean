import TextAdventure.Decimal.Shortest
import Mathlib.Tactic.NormNum
import Mathlib.Tactic.SplitIfs

/-! The digits that stand for a double are never those of zero, so that a number starts with a digit
of its own. -/

namespace TextAdventure.Decimal

/-- A double that a floating point number can be: it is positive and not below the least one. -/
structure Double.Proper (x : Double) : Prop where
  mantissa : 0 < x.mantissa
  exponent : -1074 ≤ x.exponent

theorem Shape.proper_of_bits {bits : Nat} {negative : Bool} {x : Double}
    (h : Shape.ofBits bits = .finite negative x) : x.Proper := by
  unfold Shape.ofBits at h
  dsimp only at h
  split_ifs at h with special infinite small zero
  · obtain ⟨-, rfl⟩ := Shape.finite.inj h
    refine ⟨Nat.pos_of_ne_zero fun hz => zero ?_, Int.le_refl _⟩
    simpa using hz
  · obtain ⟨-, rfl⟩ := Shape.finite.inj h
    have power : bits / 0x10000000000000 % 2048 ≠ 0 := by simpa using small
    refine ⟨?_, ?_⟩
    · show 0 < 0x10000000000000 + _
      omega
    · show -1074 ≤ ((bits / 0x10000000000000 % 2048 : Nat) : Int) - 1075
      omega

theorem dropZeros_pos (fuel : Nat) {n : Nat} (h : 0 < n) : 0 < dropZeros fuel n := by
  induction fuel generalizing n with
  | zero => exact h
  | succ fuel ih =>
    simp only [dropZeros]
    split
    · rename_i hmod
      have hmod : n % 10 = 0 := by simpa using hmod
      exact ih (by omega)
    · exact h

theorem Digits.ofGrid_pos (count : Nat) {n : Nat} (h : 0 < n) (point : Int) :
    0 < (Digits.ofGrid count n point).digits := by
  unfold Digits.ofGrid
  split
  · exact Nat.one_pos
  · exact dropZeros_pos count h

namespace Ratio

theorem scale_pos {r : Ratio} (h : 0 < r.1) {base : Nat} (hbase : 0 < base) (power : Int) :
    0 < (r.scale base power).1 := by
  unfold scale
  split
  · exact Nat.mul_pos h (Nat.pow_pos hbase)
  · exact h

/-- Moved to the left by its leading zeros and one place more, a ratio is at least one, unless the
zeros are too many to be counted. -/
theorem leadingZeros_spec (fuel : Nat) (r : Ratio) :
    leadingZeros fuel r = fuel ∨ r.2 ≤ r.1 * 10 ^ (leadingZeros fuel r + 1) := by
  induction fuel generalizing r with
  | zero => exact .inl rfl
  | succ fuel ih =>
    simp only [leadingZeros]
    split
    · rcases ih (r.1 * 10, r.2) with h | h
      · exact .inl (by rw [h])
      · refine .inr (Nat.le_trans h (Nat.le_of_eq ?_))
        rw [Nat.mul_assoc, ← Nat.pow_succ']
    · rename_i h
      exact .inr (by omega)

end Ratio

namespace Double

variable {x : Double}

/-- Zero names no double. -/
theorem Proper.not_names_zero (h : x.Proper) (power : Int) : x.names power 0 = false := by
  have hlow : 0 < x.lower.1 := by
    refine Ratio.scale_pos ?_ (by decide) _
    have hm := h.mantissa
    show 0 < 4 * x.mantissa - (if x.atFoot then 1 else 2)
    split <;> omega
  have hscaled := Ratio.scale_pos hlow (by decide : 0 < 10) power
  unfold names
  dsimp only
  split
  · simp
    omega
  · simp

theorem Proper.onGrid_pos (h : x.Proper) {count : Nat} {d : Digits}
    (hd : x.onGrid? count = some d) : 0 < d.digits := by
  have named {n : Nat} {power : Int} (hn : x.names power n = true) : 0 < n := by
    refine Nat.pos_of_ne_zero fun hz => ?_
    rw [hz, h.not_names_zero] at hn
    exact Bool.false_ne_true hn
  unfold onGrid? at hd
  dsimp only at hd
  split_ifs at hd <;> obtain rfl := Option.some.inj hd <;>
    exact Digits.ofGrid_pos count (named ‹_›) _

theorem nearest_pos {r : Ratio} (hden : 0 < r.2) (h : r.2 ≤ r.1) : 0 < nearest r := by
  have hfloor : 0 < r.floor := Nat.div_pos h hden
  unfold nearest
  dsimp only
  split_ifs <;> omega

theorem Proper.ratio_bounds (h : x.Proper) :
    0 < x.ratio.1 ∧ 0 < x.ratio.2 ∧ ∀ k, 358 ≤ k → x.ratio.2 ≤ 10 ^ k := by
  refine ⟨Ratio.scale_pos h.mantissa (by decide) _, ?_⟩
  unfold ratio Ratio.scale
  split
  · exact ⟨Nat.one_pos, fun k _ => Nat.one_le_pow _ _ (by decide)⟩
  · refine ⟨by simp, fun k hk => ?_⟩
    have hexponent := h.exponent
    calc 1 * Nat.pow 2 (-x.exponent).toNat ≤ 2 ^ (3 * k) := by
          rw [Nat.one_mul]
          exact Nat.pow_le_pow_right (by decide) (by omega)
      _ = 8 ^ k := by rw [Nat.pow_mul]
      _ ≤ 10 ^ k := Nat.pow_le_pow_left (by decide) k

/-- With seventeen digits, a double is at least one on the grid of its last digit. -/
theorem Proper.le_scaled (h : x.Proper) :
    (x.ratio.scale 10 (17 - x.ratio.point)).2 ≤ (x.ratio.scale 10 (17 - x.ratio.point)).1 := by
  obtain ⟨hnum, hden, hbound⟩ := h.ratio_bounds
  generalize x.ratio = r at hnum hden hbound
  by_cases hle : r.2 ≤ r.1
  · have hpoint : r.point = (Nat.toDigits 10 r.floor).length := by simp [Ratio.point, hle]
    rw [hpoint]
    generalize hsize : (Nat.toDigits 10 r.floor).length = size
    unfold Ratio.scale
    split
    · exact Nat.le_trans hle (Nat.le_mul_of_pos_right _ (Nat.pow_pos (by decide)))
    · have hfloor : 10 ^ (size - 1) ≤ r.floor := by
        refine Nat.le_of_not_lt fun hlt => ?_
        have := (Nat.length_toDigits_le_iff (by decide) (by omega)).2 hlt
        omega
      calc r.2 * Nat.pow 10 (-(17 - (size : Int))).toNat ≤ r.2 * 10 ^ (size - 1) :=
            Nat.mul_le_mul_left _ (Nat.pow_le_pow_right (by decide) (by omega))
        _ ≤ r.2 * r.floor := Nat.mul_le_mul_left _ hfloor
        _ ≤ r.1 := Nat.mul_div_le _ _
  · have hpoint : r.point = -(Ratio.leadingZeros 400 r : Int) := by simp [Ratio.point, hle]
    have hspec := Ratio.leadingZeros_spec 400 r
    rw [hpoint]
    generalize Ratio.leadingZeros 400 r = zeros at hspec
    have hpower : (17 - -(zeros : Int)).toNat = 17 + zeros := by omega
    unfold Ratio.scale
    rw [if_pos (by omega), hpower]
    rcases hspec with hzeros | hspec
    · exact Nat.le_trans (hbound (17 + zeros) (by omega)) (Nat.le_mul_of_pos_left _ hnum)
    · exact Nat.le_trans hspec
        (Nat.mul_le_mul_left _ (Nat.pow_le_pow_right (by decide) (by omega)))

theorem Proper.rounded_pos (h : x.Proper) : 0 < (x.rounded 17).digits := by
  refine Digits.ofGrid_pos 17 (nearest_pos ?_ h.le_scaled) _
  obtain ⟨-, hden, -⟩ := h.ratio_bounds
  unfold Ratio.scale
  split
  · exact hden
  · exact Nat.mul_pos hden (Nat.pow_pos (by decide))

theorem Proper.shortest_pos (h : x.Proper) : 0 < x.shortest.digits := by
  unfold shortest
  cases hfound : (List.range 17).findSome? fun n => x.onGrid? (n + 1) with
  | none => exact h.rounded_pos
  | some d =>
    obtain ⟨n, -, hn⟩ := List.exists_of_findSome?_eq_some hfound
    exact h.onGrid_pos hn

end Double

end TextAdventure.Decimal
