import TextAdventure.Proofs.Json.Quoted
import TextAdventure.Proofs.Text.Case

/-! Text without surrogates stays without them when the blanks at its ends are dropped and when it is
written in lower case. So the check of a code makes no surrogates. -/

namespace TextAdventure

/-- No letter has a surrogate for its lower case. -/
theorem CaseTable.runs_scalar : (lowerRuns.all fun r =>
    Nat.blt (r.target + (r.last - r.first)) 0xD800 || Nat.ble 0xE000 r.target) = true := by
  decide +kernel

theorem CodePoint.lower_scalar {c : CodePoint} (h : c.isSurrogate = false) :
    c.lower.isSurrogate = false := by
  unfold lower
  split
  · rename_i r hfound
    have covers : r.covers c.val = true :=
      List.find?_some (p := fun r : CaseTable.Run => r.covers c.val) hfound
    have hmem := List.mem_of_find?_eq_some hfound
    have apart := List.all_eq_true.1 CaseTable.runs_scalar r hmem
    have clear := List.all_eq_true.1 CaseTable.runs_clear r hmem
    simp only [Bool.or_eq_true, Bool.and_eq_true, Nat.blt_eq, Nat.ble_eq] at apart clear
    simp only [CaseTable.Run.covers, Bool.and_eq_true, decide_eq_true_eq] at covers
    have hval : (ofNat (r.target + (c.val - r.first))).val = r.target + (c.val - r.first) :=
      val_ofNat (by omega)
    simp only [isSurrogate, hval, Bool.and_eq_false_iff, decide_eq_false_iff_not]
    omega
  · exact h

namespace Text.Scalar

variable {t : Text}

theorem lowerFrom (h : t.Scalar) (before : Text) : (Text.lowerFrom before t).Scalar := by
  induction t generalizing before with
  | nil => exact h
  | cons c rest ih =>
    have rest (before : Text) := ih (fun d hd => h d (List.mem_cons_of_mem _ hd)) before
    rw [Text.lowerFrom]
    split
    · refine List.forall_mem_cons.2 ⟨?_, rest _⟩
      split <;> decide
    · split
      · exact List.forall_mem_cons.2 ⟨by decide, List.forall_mem_cons.2 ⟨by decide, rest _⟩⟩
      · exact List.forall_mem_cons.2
          ⟨CodePoint.lower_scalar (h c List.mem_cons_self), rest _⟩

theorem lower (h : t.Scalar) : t.lower.Scalar := h.lowerFrom []

theorem strip (h : t.Scalar) : t.strip.Scalar := by
  intro c hc
  have left {s : Text} {c : CodePoint} (hc : c ∈ s.stripLeft) : c ∈ s :=
    (List.dropWhile_suffix _).subset hc
  rw [Text.strip, List.mem_reverse] at hc
  exact h c (left (List.mem_reverse.1 (left hc)))

/-- The check of a code makes no surrogates. -/
theorem code {field : String} {code : Text} (h : t.Scalar)
    (checked : Field.code field (.text t) = .ok code) : code.Scalar := by
  obtain ⟨u, hu, -, rfl⟩ := Field.code_eq_ok.1 checked
  obtain rfl := Json.text.inj hu
  exact h.strip.lower

end Text.Scalar

end TextAdventure
