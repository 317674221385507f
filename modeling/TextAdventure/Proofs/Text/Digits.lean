import TextAdventure.Decimal.Numeral
import TextAdventure.Text.Ascii
import Mathlib.Data.List.Induction
import Mathlib.Data.List.TakeWhile

/-! The decimal digits of numbers: what digits spell, how many there are, that different integers
have different texts, and which digits are read as numbers. -/

namespace TextAdventure

/-- The digit of a number below ten. -/
def CodePoint.digit (n : Nat) : CodePoint := ofChar n.digitChar

theorem CodePoint.val_digit {n : Nat} (h : n < 10) : (digit n).val = 48 + n :=
  Nat.toNat_digitChar_of_lt_ten h

theorem CodePoint.isAsciiDigit_digit {n : Nat} (h : n < 10) : (digit n).isAsciiDigit = true := by
  simp only [isAsciiDigit, val_digit h, Bool.and_eq_true, decide_eq_true_eq]
  omega

theorem CodePoint.eq_of_val {c d : CodePoint} (h : c.val = d.val) : c = d := by
  cases c
  cases d
  simpa using h

theorem CodePoint.digit_of_isAsciiDigit {c : CodePoint} (h : c.isAsciiDigit = true) :
    digit (c.val - 48) = c := by
  simp only [isAsciiDigit, Bool.and_eq_true, decide_eq_true_eq] at h
  have hval : (digit (c.val - 48)).val = c.val := by
    rw [val_digit (by omega)]
    omega
  exact eq_of_val hval

namespace Text

/-- The text consists of digits of ASCII. -/
def Digits (t : Text) : Prop := ∀ c ∈ t, c.isAsciiDigit = true

theorem ofNat_of_lt {n : Nat} (h : n < 10) : ofNat n = [CodePoint.digit n] := by
  simp [ofNat, Nat.toDigits_of_lt_base h, CodePoint.digit]

theorem ofNat_of_le {n : Nat} (h : 10 ≤ n) :
    ofNat n = ofNat (n / 10) ++ [CodePoint.digit (n % 10)] := by
  simp [ofNat, Nat.toDigits_of_base_le (by decide) h, CodePoint.digit]

theorem digits_ofNat (n : Nat) : Digits (ofNat n) := by
  induction n using Nat.strongRecOn with
  | ind n ih =>
    intro c hc
    by_cases h : n < 10
    · rw [ofNat_of_lt h, List.mem_singleton] at hc
      rw [hc]
      exact CodePoint.isAsciiDigit_digit h
    · rw [ofNat_of_le (by omega), List.mem_append] at hc
      rcases hc with hc | hc
      · exact ih (n / 10) (by omega) c hc
      · rw [List.mem_singleton.1 hc]
        exact CodePoint.isAsciiDigit_digit (by omega)

theorem ofNat_ne_nil (n : Nat) : ofNat n ≠ [] := by
  simp [ofNat, Nat.toDigits_ne_nil]

theorem digitsValue_concat (t : Text) (c : CodePoint) :
    digitsValue (t ++ [c]) = 10 * digitsValue t + (c.val - 48) := by
  simp [digitsValue]

/-- The digits of a number spell it. -/
@[simp] theorem digitsValue_ofNat (n : Nat) : digitsValue (ofNat n) = n := by
  induction n using Nat.strongRecOn with
  | ind n ih =>
    by_cases h : n < 10
    · rw [ofNat_of_lt h]
      simp [digitsValue, CodePoint.val_digit h]
    · rw [ofNat_of_le (by omega), digitsValue_concat, ih (n / 10) (by omega),
        CodePoint.val_digit (by omega)]
      omega

/-- The digits of a number do not start with a zero, unless they are one zero. -/
theorem ofNat_eq_cons {n : Nat} (h : 0 < n) :
    ∃ c rest, ofNat n = c :: rest ∧ c.isAsciiDigit = true ∧ c ≠ '0' := by
  induction n using Nat.strongRecOn with
  | ind n ih =>
    by_cases hn : n < 10
    · refine ⟨CodePoint.digit n, [], ofNat_of_lt hn, CodePoint.isAsciiDigit_digit hn, fun hc => ?_⟩
      have hval := congrArg CodePoint.val hc
      rw [CodePoint.val_digit hn] at hval
      have hzero : (CodePoint.ofChar '0').val = 48 := by decide
      omega
    · obtain ⟨c, rest, hc, hdigit, hne⟩ := ih (n / 10) (by omega) (by omega)
      exact ⟨c, rest ++ [CodePoint.digit (n % 10)], by rw [ofNat_of_le (by omega), hc]; rfl, hdigit,
        hne⟩

theorem length_ofNat_le {n k : Nat} (hk : 0 < k) : (ofNat n).length ≤ k ↔ n < Nat.pow 10 k := by
  rw [ofNat, List.length_map]
  exact Nat.length_toDigits_le_iff (by decide) hk

theorem ofNat_injective {m n : Nat} (h : ofNat m = ofNat n) : m = n := by
  rw [← digitsValue_ofNat m, h, digitsValue_ofNat]

/-- Digits of ASCII as numbers are written: no zero stands before another digit. -/
structure Canonical (t : Text) : Prop where
  digits : t.Digits
  nonempty : t ≠ []
  lead : 1 < t.length → t.head? ≠ some (CodePoint.ofChar '0')

theorem canonical_ofNat (n : Nat) : (ofNat n).Canonical := by
  refine ⟨digits_ofNat n, ofNat_ne_nil n, fun long => ?_⟩
  have positive : 0 < n := by
    by_contra h
    have short : (ofNat n).length = 1 := by
      rw [ofNat_of_lt (by omega)]
      rfl
    omega
  obtain ⟨c, rest, hc, -, hne⟩ := ofNat_eq_cons positive
  rw [hc, List.head?_cons]
  exact fun h => hne (Option.some.inj h)

/-- Digits that no zero leads are those of the number that they spell. -/
theorem Canonical.ofNat_digitsValue {t : Text} (h : t.Canonical) : ofNat t.digitsValue = t := by
  induction t using List.reverseRecOn with
  | nil => exact absurd rfl h.nonempty
  | append_singleton front c ih =>
    have hc : c.isAsciiDigit = true := h.digits c (by simp)
    have bound : c.val - 48 < 10 := by
      simp only [CodePoint.isAsciiDigit, Bool.and_eq_true, decide_eq_true_eq] at hc
      omega
    rw [digitsValue_concat]
    by_cases hfront : front = []
    · subst hfront
      have value : 10 * digitsValue [] + (c.val - 48) = c.val - 48 := by simp [digitsValue]
      rw [value, ofNat_of_lt bound, CodePoint.digit_of_isAsciiDigit hc]
      rfl
    · have long : 1 < (front ++ [c]).length := by
        have := List.length_pos_iff.2 hfront
        simp only [List.length_append, List.length_singleton]
        omega
      have lead : front.head? ≠ some (CodePoint.ofChar '0') := by
        have first : (front ++ [c]).head? = front.head? := by
          cases front with
          | nil => exact absurd rfl hfront
          | cons d rest => rfl
        rw [← first]
        exact h.lead long
      have written := ih ⟨fun d hd => h.digits d (by simp [hd]), hfront, fun _ => lead⟩
      have positive : 0 < digitsValue front := by
        by_contra none
        have zero : ofNat 0 = front := by rwa [show digitsValue front = 0 by omega] at written
        exact lead (zero ▸ rfl)
      have rest : (10 * digitsValue front + (c.val - 48)) / 10 = digitsValue front := by omega
      have last : (10 * digitsValue front + (c.val - 48)) % 10 = c.val - 48 := by omega
      rw [ofNat_of_le (by omega), rest, last, written, CodePoint.digit_of_isAsciiDigit hc]

theorem canonical_iff {t : Text} : t.Canonical ↔ ∃ n, t = ofNat n :=
  ⟨fun h => ⟨_, h.ofNat_digitsValue.symm⟩, fun ⟨n, hn⟩ => hn ▸ canonical_ofNat n⟩

/-- No digit is a minus sign. -/
theorem Digits.not_minus {t : Text} (h : Digits t) : CodePoint.ofChar '-' ∉ t := by
  intro hm
  have hdigit := h _ hm
  exact absurd hdigit (by decide)

theorem ofInt_ofNat (n : Nat) : ofInt n = ofNat n := rfl

theorem ofInt_negSucc (n : Nat) : ofInt (.negSucc n) = CodePoint.ofChar '-' :: ofNat (n + 1) := rfl

theorem ofInt_injective {m n : Int} (h : ofInt m = ofInt n) : m = n := by
  cases m with
  | ofNat m =>
    cases n with
    | ofNat n => rw [ofNat_injective h]
    | negSucc n =>
      have hm : CodePoint.ofChar '-' ∈ ofNat m := by
        rw [show ofNat m = ofInt (.negSucc n) from h, ofInt_negSucc]
        exact List.mem_cons_self
      exact absurd hm (digits_ofNat m).not_minus
  | negSucc m =>
    cases n with
    | ofNat n =>
      have hm : CodePoint.ofChar '-' ∈ ofNat n := by
        rw [show ofNat n = ofInt (.negSucc m) from h.symm, ofInt_negSucc]
        exact List.mem_cons_self
      exact absurd hm (digits_ofNat n).not_minus
    | negSucc n =>
      rw [ofInt_negSucc, ofInt_negSucc, List.cons.injEq] at h
      have hsucc := ofNat_injective h.2
      rw [show m = n by omega]

end Text

/-! ### Numerals -/

/-- The characters that are blank. -/
def CodePoint.blanks : List Nat :=
  List.range' 9 5 ++ List.range' 28 5 ++ [0x85, 0xA0, 0x1680] ++ List.range' 0x2000 11 ++
    [0x2028, 0x2029, 0x202F, 0x205F, 0x3000]

/-- No digit of any script is blank. -/
theorem CodePoint.not_blank_of_isDigit {c : CodePoint} (h : c.isDigit = true) :
    c.isBlank = false := by
  have apart : (blanks.all fun n => !(ofNat n).isDigit) = true := by decide +kernel
  refine Bool.eq_false_iff.2 fun blank => ?_
  have listed : c.val ∈ blanks := by
    simp only [isBlank, Bool.or_eq_true, Bool.and_eq_true, decide_eq_true_eq, beq_iff_eq] at blank
    simp only [blanks, List.mem_append, List.mem_range'_1, List.mem_cons, List.not_mem_nil]
    omega
  have same : ofNat c.val = c := by simp [ofNat, c.isLt]
  have clash := List.all_eq_true.1 apart c.val listed
  rw [same, h] at clash
  cases clash

/-- A text without blanks stays as it is between its blanks. -/
theorem Text.strip_of_none {t : Text} (h : ∀ c ∈ t, c.isBlank = false) : t.strip = t := by
  have none (t : Text) (h : ∀ c ∈ t, c.isBlank = false) : t.stripLeft = t := by
    cases t with
    | nil => rfl
    | cons c rest => simp [stripLeft, h c List.mem_cons_self]
  unfold strip
  rw [none t h, none t.reverse fun c hc => h c (List.mem_reverse.1 hc), List.reverse_reverse]

/-- A digit of ASCII has its own value. -/
theorem CodePoint.decimalValue_of_digit {c : CodePoint} (h : c.isAsciiDigit = true) :
    c.decimalValue? = some (c.val - 48) := by
  simp only [isAsciiDigit, Bool.and_eq_true, decide_eq_true_eq] at h
  have hfound : decimalZeros.find? (fun z => z ≤ c.val && c.val < z + 10) = some 48 := by
    rw [decimalZeros]
    apply List.find?_cons_of_pos
    simp only [Bool.and_eq_true, decide_eq_true_eq]
    omega
  unfold decimalValue?
  rw [hfound]
  rfl

namespace Numeral

theorem mark_of_digit {c : CodePoint} (h : c.isAsciiDigit = true) :
    Mark.of c = .digit (c.val - 48) := by
  rw [Mark.of, CodePoint.decimalValue_of_digit h]

theorem value_map {t : Text} (h : t.Digits) : value (t.map Mark.of) = t.digitsValue := by
  unfold value Text.digitsValue
  generalize 0 = n
  induction t generalizing n with
  | nil => rfl
  | cons c rest ih =>
    simp only [List.map_cons, List.foldl_cons, mark_of_digit (h c List.mem_cons_self)]
    exact ih (fun d hd => h d (List.mem_cons_of_mem _ hd)) _

theorem isDigit_of (c : CodePoint) : (Mark.of c).isDigit = c.decimalValue?.isSome := by
  unfold Mark.of
  cases c.decimalValue? <;> rfl

/-- Digits of any script stand as they are, without a sign. -/
theorem signed_digits {t : Text} (h : ∀ c ∈ t, c.isDigit = true) :
    signed t = (false, t.map Mark.of) := by
  unfold signed
  rw [Text.strip_of_none fun c hc => CodePoint.not_blank_of_isDigit (h c hc)]
  cases t with
  | nil => rfl
  | cons c rest =>
    have digit := h c List.mem_cons_self
    have hminus : c ≠ '-' := fun same => absurd (same ▸ digit) (by decide +kernel)
    have hplus : c ≠ '+' := fun same => absurd (same ▸ digit) (by decide +kernel)
    simp [hminus, hplus]

theorem dropUnderscores?_of_isDigit {ms : List Mark} (h : ∀ m ∈ ms, m.isDigit = true)
    (afterDigit : Bool) : dropUnderscores? afterDigit ms = some ms := by
  induction ms generalizing afterDigit with
  | nil => rfl
  | cons m rest ih =>
    have digit := h m List.mem_cons_self
    have plain : m ≠ underscore := by
      rintro rfl
      exact nomatch digit
    rw [dropUnderscores?, if_neg plain, ih fun n hn => h n (List.mem_cons_of_mem _ hn)]
    rfl

/-- Decimal digits of any scripts are read as a number, if they are not too many. -/
theorem int_decimal {t : Text} (nonempty : t ≠ [])
    (decimal : ∀ c ∈ t, c.decimalValue?.isSome = true) (short : t.length ≤ mostDigits) :
    int t = .ok (value (t.map Mark.of)) := by
  have isDigit : ∀ m ∈ t.map Mark.of, m.isDigit = true := by
    intro m hm
    obtain ⟨c, hc, rfl⟩ := List.mem_map.1 hm
    rw [isDigit_of]
    exact decimal c hc
  have digits : ∀ c ∈ t, c.isDigit = true := by
    intro c hc
    rw [CodePoint.isDigit, decimal c hc, Bool.true_or]
  have hrun : (t.map Mark.of).takeWhile (fun m => m.isDigit || m = underscore) = t.map Mark.of := by
    rw [List.takeWhile_eq_self_iff]
    intro m hm
    simp [isDigit m hm]
  have hnatural : natural? (t.map Mark.of) = some (value (t.map Mark.of)) := by
    unfold natural?
    rw [if_pos ⟨by simp [nonempty], List.all_eq_true.2 isDigit⟩]
  unfold int
  rw [signed_digits digits]
  simp only [hrun, dropUnderscores?_of_isDigit isDigit, List.length_map]
  rw [if_neg (by omega), if_pos trivial, hnatural]
  rfl

/-- Digits that are not decimal are not read as a number, nor are too many. -/
theorem int_not_decimal {t : Text} (digits : ∀ c ∈ t, c.isDigit = true)
    (h : ¬((∀ c ∈ t, c.decimalValue?.isSome = true) ∧ t.length ≤ mostDigits)) :
    ∃ fault, int t = .error fault := by
  generalize hrun : (t.map Mark.of).takeWhile (fun m => m.isDigit || m = underscore) = run
  have start : run <+: t.map Mark.of := hrun ▸ List.takeWhile_prefix _
  have isDigit : ∀ m ∈ run, m.isDigit = true := by
    intro m hm
    obtain ⟨c, hc, rfl⟩ := List.mem_map.1 (start.subset hm)
    have plain : Mark.of c ≠ underscore := by
      unfold Mark.of
      split
      · exact nofun
      · intro same
        have hunderscore : c = '_' := Mark.other.inj same
        exact absurd (hunderscore ▸ digits c hc) (by decide +kernel)
    rw [← hrun] at hm
    simpa [plain] using List.mem_takeWhile_imp hm
  unfold int
  rw [signed_digits digits]
  simp only [hrun, dropUnderscores?_of_isDigit isDigit]
  split
  · exact ⟨_, rfl⟩
  · rename_i short
    -- A run that is as long as the text is the text, which then is decimal.
    have cut : ¬run.length = (t.map Mark.of).length := by
      intro same
      have whole : run = t.map Mark.of := start.eq_of_length same
      refine h ⟨fun c hc => ?_, ?_⟩
      · rw [← isDigit_of]
        exact isDigit _ (whole ▸ List.mem_map_of_mem hc)
      · rw [whole, List.length_map] at short
        omega
    rw [if_neg cut]
    exact ⟨_, rfl⟩

/-- The digits of a number are read as that number, if they are not too many. -/
theorem int_ofNat {n : Nat} (h : (Text.ofNat n).length ≤ mostDigits) :
    int (Text.ofNat n) = .ok n := by
  have digits := Text.digits_ofNat n
  have decimal : ∀ c ∈ Text.ofNat n, c.decimalValue?.isSome = true := by
    intro c hc
    rw [CodePoint.decimalValue_of_digit (digits c hc)]
    rfl
  rw [int_decimal (Text.ofNat_ne_nil n) decimal h, value_map digits, Text.digitsValue_ofNat]

end Numeral

end TextAdventure
