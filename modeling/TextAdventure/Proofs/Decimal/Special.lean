import TextAdventure.Decimal.Shortest
import Mathlib.Tactic.SplitIfs

/-! Floating point numbers that are not written with digits of their own: there is one NaN, and two
infinities and two zeros, which their signs tell apart. -/

namespace TextAdventure.Decimal

/-- A floating point number is given by its bits. -/
theorem eq_of_toBits {x y : Float} (h : x.toBits = y.toBits) : x = y := by
  cases x with
  | ofModel m =>
    cases y with
    | ofModel n =>
      cases m
      cases n
      obtain rfl := h
      rfl

namespace Shape

variable {bits : Nat} {negative : Bool} {x : Float}

theorem of_nan (h : ofBits bits = .nan) :
    bits / 0x10000000000000 % 2048 = 2047 ∧ bits % 0x10000000000000 ≠ 0 := by
  unfold ofBits at h
  dsimp only at h
  split_ifs at h with special fraction
  exact ⟨by simpa using special, by simpa using fraction⟩

theorem of_infinite (h : ofBits bits = .infinite negative) (lt : bits < UInt64.size) :
    bits = if negative then 0xFFF0000000000000 else 0x7FF0000000000000 := by
  unfold ofBits at h
  dsimp only at h
  split_ifs at h with special fraction
  obtain rfl := infinite.inj h
  simp only [beq_iff_eq, UInt64.size] at special fraction lt ⊢
  split <;> omega

theorem of_zero (h : ofBits bits = .zero negative) (lt : bits < UInt64.size) :
    bits = if negative then 0x8000000000000000 else 0 := by
  unfold ofBits at h
  dsimp only at h
  split_ifs at h with special fraction power fraction
  obtain rfl := zero.inj h
  simp only [beq_iff_eq, UInt64.size] at special power fraction lt ⊢
  split <;> omega

/-- All that is no number is one and the same. -/
theorem eq_nan (h : ofFloat x = .nan) : x = 0.0 / 0.0 := by
  obtain ⟨exponent, mantissa⟩ := of_nan h
  have bits : x.toBits.toBitVec = Float.Model.UnpackedFloat.packedNaN .binary64 := by
    refine x.toModel.valid.eq_packedNaN ?_ fun zero => mantissa ?_
    · refine BitVec.eq_of_toNat_eq ?_
      show x.toBits.toNat >>> 52 % 2 ^ 11 = 2047
      rw [Nat.shiftRight_eq_div_pow]
      exact exponent
    · have fraction : x.toBits.toNat >>> 0 % 2 ^ 52 = 0 := congrArg BitVec.toNat zero
      exact fraction
  have same : (0.0 / 0.0 : Float).toBits.toBitVec =
    Float.Model.UnpackedFloat.packedNaN .binary64 := by decide +kernel
  exact eq_of_toBits (UInt64.toBitVec_inj.1 (bits.trans same.symm))

theorem eq_infinity (h : ofFloat x = .infinite negative) :
    x = if negative then -1.0 / 0.0 else 1.0 / 0.0 := by
  have bits := of_infinite h x.toBits.toNat_lt_size
  refine eq_of_toBits (UInt64.toNat_inj.1 (bits.trans ?_))
  cases negative <;> decide +kernel

theorem eq_zero (h : ofFloat x = .zero negative) : x = if negative then -0.0 else 0.0 := by
  have bits := of_zero h x.toBits.toNat_lt_size
  refine eq_of_toBits (UInt64.toNat_inj.1 (bits.trans ?_))
  cases negative <;> decide +kernel

end Shape

end TextAdventure.Decimal
