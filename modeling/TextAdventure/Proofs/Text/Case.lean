import TextAdventure.Story.Field

/-! Lower case is settled: the lower case of a text is its own lower case, and writing a text in lower
case neither makes nor removes blanks at its ends. So a code that has been checked passes its check
again and stays as it is. -/

namespace TextAdventure

namespace CaseTable

/-- Whether no lower case letter of one run lies in another run. -/
def Run.clears (r s : Run) : Bool :=
  Nat.blt (r.target + (r.last - r.first)) s.first || Nat.blt s.last r.target ||
    (Nat.beq s.stride 2 && (Nat.beq r.stride 2 || Nat.beq r.first r.last) &&
      Nat.beq ((r.target + s.first) % 2) 1)

/-- What lower case letters are apart from: the two letters with a lower case of their own kind, and
the blanks. -/
def apart : List Run := [
  ⟨0x3A3, 0x3A3, 1, 0⟩, ⟨0x130, 0x130, 1, 0⟩, ⟨9, 13, 1, 0⟩, ⟨28, 32, 1, 0⟩, ⟨0x85, 0x85, 1, 0⟩,
  ⟨0xA0, 0xA0, 1, 0⟩, ⟨0x1680, 0x1680, 1, 0⟩, ⟨0x2000, 0x200A, 1, 0⟩, ⟨0x2028, 0x2029, 1, 0⟩,
  ⟨0x202F, 0x202F, 1, 0⟩, ⟨0x205F, 0x205F, 1, 0⟩, ⟨0x3000, 0x3000, 1, 0⟩]

theorem runs_clear : (lowerRuns.all fun r => lowerRuns.all r.clears && apart.all r.clears &&
    Nat.blt (r.target + (r.last - r.first)) 0x110000) = true := by
  decide +kernel

/-- No letter with a lower case is a blank: these come behind the two letters. -/
theorem runs_visible : (lowerRuns.all fun r => (apart.drop 2).all fun blank =>
    Nat.blt r.last blank.first || Nat.blt blank.last r.first) = true := by
  decide +kernel

theorem Run.covers_range (first last target n : Nat) :
    Run.covers ⟨first, last, 1, target⟩ n = false ↔ n < first ∨ last < n := by
  simp only [covers, Nat.mod_one, beq_self_eq_true, Bool.and_true, Bool.and_eq_false_iff,
    decide_eq_false_iff_not]
  omega

theorem Run.covers_of_clears {r s : Run} (h : r.clears s = true) {n : Nat}
    (hn : r.covers n = true) : s.covers (r.target + (n - r.first)) = false := by
  simp only [clears, covers, Bool.or_eq_true, Bool.and_eq_true, Nat.blt_eq, Nat.beq_eq,
    decide_eq_true_eq, beq_iff_eq] at h hn
  refine Bool.eq_false_iff.2 fun hs => ?_
  simp only [covers, Bool.and_eq_true, decide_eq_true_eq, beq_iff_eq] at hs
  obtain ⟨⟨hfirst, hlast⟩, hstride⟩ := hn
  obtain ⟨⟨sfirst, slast⟩, sstride⟩ := hs
  rcases h with (h | h) | ⟨⟨two, even⟩, odd⟩
  · omega
  · omega
  · rw [two] at sstride
    rcases even with even | even
    · rw [even] at hstride
      omega
    · omega

end CaseTable

namespace CodePoint

/-- Characters that lower case leaves as they are. -/
structure Settled (c : CodePoint) : Prop where
  sigma : c.val ≠ 0x3A3
  dotted : c.val ≠ 0x130
  lower : c.lower = c

theorem lower_eq_self {c : CodePoint} (h : CaseTable.lowerRuns.any (·.covers c.val) = false) :
    c.lower = c := by
  have hnone : CaseTable.lowerRuns.find? (·.covers c.val) = none := by
    rw [List.find?_eq_none]
    intro r hr hc
    rw [List.any_eq_false] at h
    exact h r hr hc
  unfold lower
  rw [hnone]

/-- The lower case of a letter has itself as its lower case, and is blank only if the letter is. -/
theorem lower_settled (c : CodePoint) (sigma : c.val ≠ 0x3A3) (dotted : c.val ≠ 0x130) :
    c.lower.Settled ∧ (c.lower.isBlank = true → c.isBlank = true) := by
  cases hfound : CaseTable.lowerRuns.find? (·.covers c.val) with
  | none =>
    have hself : c.lower = c := by
      unfold lower
      rw [hfound]
    rw [hself]
    exact ⟨⟨sigma, dotted, hself⟩, id⟩
  | some r =>
    have hlower : c.lower = ofNat (r.target + (c.val - r.first)) := by
      unfold lower
      rw [hfound]
    have covers : r.covers c.val = true :=
      List.find?_some (p := fun r : CaseTable.Run => r.covers c.val) hfound
    have clear := List.all_eq_true.1 CaseTable.runs_clear r (List.mem_of_find?_eq_some hfound)
    simp only [Bool.and_eq_true, List.all_eq_true, Nat.blt_eq] at clear
    obtain ⟨⟨runs, apart⟩, small⟩ := clear
    have hval : c.lower.val = r.target + (c.val - r.first) := by
      rw [hlower]
      refine val_ofNat ?_
      simp only [CaseTable.Run.covers, Bool.and_eq_true, decide_eq_true_eq] at covers
      omega
    have outside (s : CaseTable.Run) (hs : s ∈ CaseTable.apart) : s.covers c.lower.val = false :=
      hval ▸ CaseTable.Run.covers_of_clears (apart s hs) covers
    simp only [CaseTable.apart, List.mem_cons, List.not_mem_nil, or_false, forall_eq_or_imp,
      forall_eq, CaseTable.Run.covers_range] at outside
    refine ⟨⟨by omega, by omega, lower_eq_self (List.any_eq_false.2 fun s hs => ?_)⟩, fun h => ?_⟩
    · rw [hval, CaseTable.Run.covers_of_clears (runs s hs) covers]
      exact Bool.false_ne_true
    · simp only [isBlank, Bool.or_eq_true, Bool.and_eq_true, decide_eq_true_eq, beq_iff_eq] at h
      omega

/-- Blanks have no lower case of their own. -/
theorem settled_of_isBlank {c : CodePoint} (blank : c.isBlank = true) : c.Settled := by
  simp only [isBlank, Bool.or_eq_true, Bool.and_eq_true, decide_eq_true_eq, beq_iff_eq] at blank
  refine ⟨by omega, by omega, lower_eq_self (List.any_eq_false.2 fun r hr covers => ?_)⟩
  have outside := List.all_eq_true.1 CaseTable.runs_visible r hr
  simp only [CaseTable.apart, List.drop_succ_cons, List.drop_zero, List.all_cons, List.all_nil,
    Bool.and_true, Bool.and_eq_true, Bool.or_eq_true, Nat.blt_eq] at outside
  simp only [CaseTable.Run.covers, Bool.and_eq_true, decide_eq_true_eq] at covers
  omega

end CodePoint

namespace Text

/-- What a character becomes in lower case, all but the last of it and the last of it. -/
inductive Lowered (c : CodePoint) : Text → CodePoint → Prop
  | one {d : CodePoint} (settled : d.Settled) (blank : d.isBlank = true → c.isBlank = true) :
      Lowered c [] d
  | two {d e : CodePoint} (settled : d.Settled) (settled' : e.Settled)
      (visible : d.isBlank = false) (visible' : e.isBlank = false) : Lowered c [d] e

theorem lowerFrom_cons (before : Text) (c : CodePoint) (rest : Text) :
    ∃ pre d, Lowered c pre d ∧
      lowerFrom before (c :: rest) = pre ++ d :: lowerFrom (c :: before) rest := by
  have settled {n : Nat} (h : n = 0x3C2 ∨ n = 0x3C3 ∨ n = 0x69 ∨ n = 0x307) :
      (CodePoint.ofNat n).Settled ∧ (CodePoint.ofNat n).isBlank = false := by
    rcases h with rfl | rfl | rfl | rfl <;>
      exact ⟨⟨by decide, by decide, CodePoint.lower_eq_self (by decide +kernel)⟩, by decide⟩
  rw [lowerFrom]
  split
  · obtain ⟨hs, hb⟩ := settled (n := if meetsCased before && !meetsCased rest then 0x3C2 else 0x3C3)
      (by split <;> simp)
    exact ⟨[], _, .one hs fun h => absurd h (by rw [hb]; simp), rfl⟩
  · rename_i sigma
    split
    · obtain ⟨hs, hb⟩ := settled (n := 0x69) (by simp)
      obtain ⟨hs', hb'⟩ := settled (n := 0x307) (by simp)
      exact ⟨[_], _, .two hs hs' hb hb', rfl⟩
    · rename_i dotted
      obtain ⟨hs, hb⟩ := c.lower_settled sigma dotted
      exact ⟨[], _, .one hs hb, rfl⟩

theorem lowerFrom_blank {c : CodePoint} (blank : c.isBlank = true) (before rest : Text) :
    lowerFrom before (c :: rest) = c :: lowerFrom (c :: before) rest := by
  have settled := CodePoint.settled_of_isBlank blank
  rw [lowerFrom, if_neg settled.sigma, if_neg settled.dotted, settled.lower]

theorem lowerFrom_settled (before t : Text) : ∀ c ∈ lowerFrom before t, c.Settled := by
  induction t generalizing before with
  | nil => simp [lowerFrom]
  | cons c rest ih =>
    obtain ⟨pre, d, lowered, heq⟩ := lowerFrom_cons before c rest
    intro e he
    rw [heq, List.mem_append, List.mem_cons] at he
    cases lowered with
    | one settled blank =>
      rcases he with he | rfl | he
      · exact absurd he List.not_mem_nil
      · exact settled
      · exact ih _ e he
    | two settled settled' visible visible' =>
      rcases he with he | rfl | he
      · exact List.mem_singleton.1 he ▸ settled
      · exact settled'
      · exact ih _ e he

theorem lowerFrom_of_settled {t : Text} (h : ∀ c ∈ t, c.Settled) (before : Text) :
    lowerFrom before t = t := by
  induction t generalizing before with
  | nil => rfl
  | cons c rest ih =>
    have hc := h c List.mem_cons_self
    rw [lowerFrom, if_neg hc.sigma, if_neg hc.dotted, hc.lower,
      ih fun d hd => h d (List.mem_cons_of_mem _ hd)]

/-- Text in lower case stays as it is in lower case. -/
theorem lower_lower (t : Text) : t.lower.lower = t.lower :=
  lowerFrom_of_settled (lowerFrom_settled [] t) []

/-! ### Blanks at the ends -/

/-- No blank at either end. -/
structure Trim (t : Text) : Prop where
  first : ∀ c ∈ t.head?, c.isBlank = false
  last : ∀ c ∈ t.getLast?, c.isBlank = false

theorem stripLeft_first (t : Text) : ∀ c ∈ t.stripLeft.head?, c.isBlank = false := by
  intro c hc
  have h := List.head?_dropWhile_not CodePoint.isBlank t
  unfold stripLeft at hc
  rw [hc] at h
  simpa using h

theorem stripLeft_of_first {t : Text} (h : ∀ c ∈ t.head?, c.isBlank = false) : t.stripLeft = t := by
  cases t with
  | nil => rfl
  | cons c rest => simp [stripLeft, h c rfl]

theorem Trim.strip {t : Text} (h : t.Trim) : t.strip = t := by
  have last : ∀ c ∈ t.reverse.head?, c.isBlank = false := by
    rw [List.head?_reverse]
    exact h.last
  unfold Text.strip
  rw [stripLeft_of_first h.first, stripLeft_of_first last, List.reverse_reverse]

theorem trim_strip (t : Text) : t.strip.Trim := by
  unfold strip
  refine ⟨?_, ?_⟩
  · have suffix : stripLeft (stripLeft t).reverse <:+ (stripLeft t).reverse :=
      List.dropWhile_suffix _
    obtain ⟨blanks, happend⟩ := suffix
    have hreverse := congrArg List.reverse happend
    rw [List.reverse_append, List.reverse_reverse] at hreverse
    cases hkept : (stripLeft (stripLeft t).reverse).reverse with
    | nil => simp
    | cons c rest =>
      have first := stripLeft_first t
      rw [← hreverse, hkept] at first
      exact first
  · rw [List.getLast?_reverse]
    exact stripLeft_first _

theorem Lowered.visible {c : CodePoint} {pre : Text} {d : CodePoint} (h : Lowered c pre d)
    (hc : c.isBlank = false) : (∀ e ∈ pre, e.isBlank = false) ∧ d.isBlank = false := by
  cases h with
  | one settled blank =>
    refine ⟨by simp, Bool.eq_false_iff.2 fun hd => ?_⟩
    exact Bool.false_ne_true (hc.symm.trans (blank hd))
  | two settled settled' visible visible' => exact ⟨by simp [visible], visible'⟩

/-- The last character is put in lower case behind all others. -/
theorem lowerFrom_concat (before t : Text) (c : CodePoint) :
    ∃ init ahead, lowerFrom before (t ++ [c]) = init ++ lowerFrom ahead [c] := by
  induction t generalizing before with
  | nil => exact ⟨[], before, rfl⟩
  | cons e rest ih =>
    obtain ⟨pre, d, -, heq⟩ := lowerFrom_cons before e (rest ++ [c])
    obtain ⟨init, ahead, hrest⟩ := ih (e :: before)
    refine ⟨pre ++ d :: init, ahead, ?_⟩
    rw [List.cons_append, heq, hrest, List.append_assoc, List.cons_append]

theorem lowerFrom_last (before t : Text) (c : CodePoint) (hc : c.isBlank = false) :
    ∃ init d, lowerFrom before (t ++ [c]) = init ++ [d] ∧ d.isBlank = false := by
  obtain ⟨init, ahead, heq⟩ := lowerFrom_concat before t c
  obtain ⟨pre, d, lowered, hlast⟩ := lowerFrom_cons ahead c []
  refine ⟨init ++ pre, d, ?_, (lowered.visible hc).2⟩
  rw [heq, hlast, List.append_assoc]
  rfl

theorem Trim.lower {t : Text} (h : t.Trim) : t.lower.Trim := by
  refine ⟨?_, ?_⟩
  · cases t with
    | nil => simp [Text.lower, lowerFrom]
    | cons c rest =>
      obtain ⟨pre, d, lowered, heq⟩ := lowerFrom_cons [] c rest
      have visible := lowered.visible (h.first c rfl)
      intro e he
      rw [Text.lower, heq] at he
      cases pre with
      | nil => exact Option.some.inj he ▸ visible.2
      | cons f pre => exact visible.1 e (Option.some.inj he ▸ List.mem_cons_self)
  · rcases List.eq_nil_or_concat t with rfl | ⟨init, c, rfl⟩
    · simp [Text.lower, lowerFrom]
    · rw [List.concat_eq_append]
      have hc : c.isBlank = false := h.last c (by simp)
      obtain ⟨pre, d, heq, hd⟩ := lowerFrom_last [] init c hc
      intro e he
      rw [Text.lower, heq, List.getLast?_concat] at he
      exact Option.some.inj he ▸ hd

/-- Lower case has blanks at its ends where the text has them. -/
theorem trim_of_lower {t : Text} (h : t.lower.Trim) : t.Trim := by
  refine ⟨fun c hc => Bool.eq_false_iff.2 fun blank => ?_,
    fun c hc => Bool.eq_false_iff.2 fun blank => ?_⟩
  · obtain ⟨rest, rfl⟩ := List.head?_eq_some_iff.1 hc
    have first := h.first c (by rw [Text.lower, lowerFrom_blank blank]; rfl)
    exact Bool.false_ne_true (first.symm.trans blank)
  · obtain ⟨init, rfl⟩ := List.getLast?_eq_some_iff.1 hc
    obtain ⟨lowered, ahead, heq⟩ := lowerFrom_concat [] init c
    have last := h.last c (by rw [Text.lower, heq, lowerFrom_blank blank]; simp [lowerFrom])
    exact Bool.false_ne_true (last.symm.trans blank)

/-- A code is one already: nothing is left to be taken off it, or to be put in lower case. -/
theorem strip_lower_again (t : Text) : t.strip.lower.strip.lower = t.strip.lower := by
  rw [(trim_strip t).lower.strip, lower_lower]

theorem lower_ne_nil {t : Text} (h : t ≠ []) : t.lower ≠ [] := by
  cases t with
  | nil => exact absurd rfl h
  | cons c rest =>
    obtain ⟨pre, d, -, heq⟩ := lowerFrom_cons [] c rest
    simp [lower, heq]

end Text

/-- The check of a code leaves the text between its blanks in lower case. -/
theorem Field.code_eq_ok {field : String} {v : Json} {code : Text} :
    Field.code field v = .ok code ↔ ∃ t, v = .text t ∧ t.strip ≠ [] ∧ code = t.strip.lower := by
  cases v with
  | text t =>
    simp only [Field.code, Field.name, Field.text]
    split
    · rename_i h
      simp [Except.map, h]
    · rename_i h
      simp only [Except.map, Except.ok.injEq, Json.text.injEq, exists_eq_left', ne_eq, h,
        not_false_eq_true, true_and]
      exact eq_comm
  | _ => simp [Field.code, Field.name, Field.text, Except.map]

/-- A code that has passed its check passes it again, and stays as it is. -/
theorem Field.code_again {field : String} {v : Json} {code : Text} (h : Field.code field v = .ok code)
    (other : String) : Field.code other (.text code) = .ok code := by
  obtain ⟨t, rfl, hne, rfl⟩ := Field.code_eq_ok.1 h
  have hstrip : t.strip.lower.strip = t.strip.lower := (Text.trim_strip t).lower.strip
  refine Field.code_eq_ok.2 ⟨_, rfl, ?_, ?_⟩
  · rw [hstrip]
    exact Text.lower_ne_nil hne
  · rw [hstrip, Text.lower_lower]

end TextAdventure
