import TextAdventure.Json.Written
import TextAdventure.Proofs.Decimal.Shortest
import TextAdventure.Proofs.Json.Spelling

/-! The texts of numbers are printed ASCII and are read as numbers. An integer comes back as it was; a
floating point number comes back as one that depends on nothing else. -/

namespace TextAdventure.Json

/-- Whether a text starts with a digit, after a minus sign or without one. -/
def startsAsNumber : Text → Bool
  | c :: d :: _ => c.isAsciiDigit || (c = '-' && d.isAsciiDigit)
  | [c] => c.isAsciiDigit
  | [] => false

theorem startsAsNumber_signed {c : CodePoint} (h : c.isAsciiDigit = true) (negative : Bool)
    (more : Text) : startsAsNumber (Spelling.signed negative (c :: more)) = true := by
  cases negative with
  | true => simp [Spelling.signed, startsAsNumber, h]
  | false => cases more <;> simp [Spelling.signed, startsAsNumber, h]

/-- None of the words that are values starts as a number does. -/
theorem literals_none {t : Text} (h : startsAsNumber t = true) :
    literals.find? (fun l => l.1.isPrefixOf t) = none := by
  have words : ∀ l ∈ literals, 2 ≤ l.1.length ∧ startsAsNumber l.1 = false := by decide
  refine List.find?_eq_none.2 fun l hl hprefix => ?_
  obtain ⟨hlength, hstart⟩ := words l hl
  obtain ⟨more, rfl⟩ := List.isPrefixOf_iff_prefix.1 hprefix
  match hw : l.1, hlength with
  | c :: d :: rest, _ =>
    rw [hw] at h hstart
    exact Bool.false_ne_true (hstart.symm.trans h)

/-- What begins as a number is read as one. -/
theorem atom_number {s : Spelling} (valid : s.Valid) (negative : Bool) (rest : Text) :
    atom? (Spelling.signed negative (s.text ++ rest)) =
      number? (Spelling.signed negative (s.text ++ rest)) := by
  obtain ⟨c, more, hcons, hdigit⟩ := valid.cons
  have htext : s.text ++ rest = c :: (more ++ (s.fraction ++ (s.exponent ++ rest))) := by
    simp [Spelling.text, hcons]
  unfold atom?
  rw [htext, literals_none (startsAsNumber_signed hdigit _ _)]

/-- The spelling of a natural number. -/
theorem valid_ofNat (n : Nat) : Spelling.Valid { whole := Text.ofNat n } := by
  refine ⟨Text.digits_ofNat n, ?_, by simp [Text.Digits], by simp⟩
  rcases Nat.eq_zero_or_pos n with rfl | hpos
  · exact .inl (by decide)
  · obtain ⟨c, rest, hcons, -, hne⟩ := Text.ofNat_eq_cons hpos
    exact .inr ⟨c, rest, hcons, hne⟩

theorem atom_natural {n : Nat} {rest : Text} (ends : Ends rest) (negative : Bool)
    (short : (Text.ofNat n).length ≤ Numeral.mostDigits) :
    atom? (Spelling.signed negative (Text.ofNat n ++ rest)) =
      some (.ok (.int (if negative then -n else n), rest)) := by
  have valid := valid_ofNat n
  have htext : Spelling.text { whole := Text.ofNat n } = Text.ofNat n := by
    simp [Spelling.text, Spelling.fraction, Spelling.exponent]
  have hread := valid.read ends negative
  have hatom := atom_number valid negative rest
  rw [htext] at hread hatom
  rw [hatom, hread, if_pos ⟨rfl, rfl⟩, if_neg (Nat.not_lt.2 short)]
  simp

theorem length_natAbs {n : Int} (short : isLong n = false) :
    (Text.ofNat n.natAbs).length ≤ Numeral.mostDigits := by
  have hlt : ¬Nat.pow 10 Numeral.mostDigits ≤ n.natAbs := of_decide_eq_false short
  exact (Text.length_ofNat_le (by decide)).2 (Nat.lt_of_not_le hlt)

/-- An integer is read back as it was, if it is not too long. -/
theorem atom_int {n : Int} {rest : Text} (ends : Ends rest) (short : isLong n = false) :
    atom? (Text.ofInt n ++ rest) = some (.ok (.int n, rest)) := by
  have hlength := length_natAbs short
  cases n with
  | ofNat n => exact atom_natural ends false hlength
  | negSucc n => exact atom_natural ends true hlength

/-! ### Floating point numbers -/

theorem digits_zeros (n : Nat) : Text.Digits (List.replicate n (CodePoint.ofChar '0')) := by
  intro c hc
  rw [List.eq_of_mem_replicate hc]
  decide

theorem digits_append {t u : Text} (h : t.Digits) (h' : u.Digits) : Text.Digits (t ++ u) := by
  intro c hc
  rcases List.mem_append.1 hc with hc | hc
  · exact h c hc
  · exact h' c hc

/-- With a point among its digits, a positive number is spelled with decimal places. -/
theorem positional_spelling {n : Nat} (pos : 0 < n) (point : Int) :
    ∃ s : Spelling, s.Valid ∧ s.places ≠ [] ∧ Decimal.positional (Text.ofNat n) point = s.text := by
  have digits := Text.digits_ofNat n
  obtain ⟨c, more, hcons, -, hne⟩ := Text.ofNat_eq_cons pos
  unfold Decimal.positional
  dsimp only
  split
  · refine ⟨⟨[CodePoint.ofChar '0'],
        List.replicate (-point).toNat (CodePoint.ofChar '0') ++ Text.ofNat n, none⟩,
      ⟨by simp [Text.Digits]; decide, .inl rfl, digits_append (digits_zeros _) digits, by simp⟩,
      by simp [hcons], ?_⟩
    simp [Spelling.text, Spelling.fraction, Spelling.exponent, hcons]
    rfl
  · split
    · generalize hzeros : List.replicate (point.toNat - (Text.ofNat n).length)
        (CodePoint.ofChar '0') = zeros
      have allZeros : Text.Digits zeros := hzeros ▸ digits_zeros _
      refine ⟨⟨Text.ofNat n ++ zeros, [CodePoint.ofChar '0'], none⟩,
        ⟨digits_append digits allZeros, .inr ⟨c, more ++ zeros, by rw [hcons]; rfl, hne⟩,
          digits_zeros 1, by simp⟩, by simp, ?_⟩
      simp [Spelling.text, Spelling.fraction, Spelling.exponent]
      rfl
    · obtain ⟨k, hk⟩ : ∃ k, point.toNat = k + 1 := ⟨point.toNat - 1, by omega⟩
      have hdrop : (Text.ofNat n).drop (k + 1) ≠ [] := by
        rw [Ne, List.drop_eq_nil_iff]
        omega
      rw [hk]
      refine ⟨⟨(Text.ofNat n).take (k + 1), (Text.ofNat n).drop (k + 1), none⟩,
        ⟨fun c hc => digits c (List.mem_of_mem_take hc),
          .inr ⟨c, more.take k, by rw [hcons]; rfl, hne⟩,
          fun c hc => digits c (List.mem_of_mem_drop hc), by simp⟩, hdrop, ?_⟩
      simp [Spelling.text, Spelling.fraction, Spelling.exponent, hdrop]
      rfl

/-- Without a point, it is spelled with an exponent. -/
theorem scientific_spelling (n : Nat) (power : Int) :
    ∃ s : Spelling, s.Valid ∧ s.power ≠ none ∧
      Decimal.scientific (Text.ofNat n) power = s.text := by
  have digits := Text.digits_ofNat n
  generalize hsize : (if (Text.ofNat power.natAbs).length < 2 then
    ("0" : Text) ++ Text.ofNat power.natAbs else Text.ofNat power.natAbs) = size
  have sizeDigits : Text.Digits size := by
    rw [← hsize]
    split
    · exact digits_append (digits_zeros 1) (Text.digits_ofNat _)
    · exact Text.digits_ofNat _
  have sizeSome : size ≠ [] := by
    rw [← hsize]
    split
    · simp [Text.ofString]
    · exact Text.ofNat_ne_nil _
  have hsign : ((if power < 0 then "-" else "+" : Text)) =
      [CodePoint.ofChar (if decide (power < 0) = true then '-' else '+')] := by
    split
    · rename_i h
      simp only [h, decide_true, if_true]
      rfl
    · rename_i h
      simp only [h, decide_false, Bool.false_eq_true, if_false]
      rfl
  obtain ⟨c, more, hcons⟩ := List.exists_cons_of_ne_nil (Text.ofNat_ne_nil n)
  have valid (c : CodePoint) (places : Text) (h : Text.Digits (c :: places)) :
      Spelling.Valid ⟨[c], places, some (decide (power < 0), size)⟩ := by
    refine ⟨fun d hd => h d (by simp_all), ?_, fun d hd => h d (List.mem_cons_of_mem _ hd), ?_⟩
    · by_cases hc : c = '0'
      · exact .inl (by rw [hc])
      · exact .inr ⟨c, [], rfl, hc⟩
    · intro p hp
      obtain rfl := Option.some.inj hp
      exact ⟨sizeDigits, sizeSome⟩
  refine ⟨_, valid c more (hcons ▸ digits), by simp, ?_⟩
  unfold Decimal.scientific
  dsimp only
  rw [hsize, hsign, hcons]
  cases more <;> simp [Spelling.text, Spelling.fraction, Spelling.exponent] <;> rfl

/-- A number format writes a positive number with decimal places or an exponent. -/
theorem exists_spelling (layout : Decimal.Layout) {d : Decimal.Digits} (pos : 0 < d.digits) :
    ∃ s : Spelling, s.Valid ∧ ¬(s.places = [] ∧ s.power = none) ∧ layout.number d = s.text := by
  unfold Decimal.Layout.number
  dsimp only
  split
  · obtain ⟨s, valid, places, htext⟩ := positional_spelling pos d.point
    exact ⟨s, valid, fun h => places h.1, htext⟩
  · obtain ⟨s, valid, power, htext⟩ := scientific_spelling d.digits (d.point - 1)
    exact ⟨s, valid, fun h => power h.2, htext⟩

theorem atom_spelling {s : Spelling} (valid : s.Valid) (isFloat : ¬(s.places = [] ∧ s.power = none))
    (negative : Bool) {rest : Text} (ends : Ends rest) :
    atom? ((if negative then "-" ++ s.text else s.text) ++ rest) =
      some (.ok (.float (s.float negative), rest)) := by
  have hsigned : (if negative then ("-" : Text) ++ s.text else s.text) ++ rest =
      Spelling.signed negative (s.text ++ rest) := by cases negative <;> rfl
  rw [hsigned, atom_number valid, valid.read ends, if_neg isFloat]

/-- What the text of a floating point number is read as. -/
def rereadFloat (x : Float) : Float :=
  match atom? (compact (.float x)) with
  | some (.ok (.float y, _)) => y
  | _ => x

theorem atom_float (x : Float) {rest : Text} (ends : Ends rest) :
    atom? (compact (.float x) ++ rest) = some (.ok (.float (rereadFloat x), rest)) := by
  have ofRead (h : ∃ y, ∀ rest, Ends rest →
      atom? (compact (.float x) ++ rest) = some (.ok (.float y, rest))) :
      atom? (compact (.float x) ++ rest) = some (.ok (.float (rereadFloat x), rest)) := by
    obtain ⟨y, hy⟩ := h
    have hself := hy [] Ends.nil
    rw [List.append_nil] at hself
    rw [hy rest ends, rereadFloat, hself]
  refine ofRead ?_
  unfold compact Decimal.Layout.float
  dsimp only
  cases hshape : Decimal.Shape.ofFloat x with
  | nan => exact ⟨0.0 / 0.0, fun rest _ => rfl⟩
  | infinite negative =>
    cases negative with
    | true => exact ⟨-1.0 / 0.0, fun rest _ => rfl⟩
    | false => exact ⟨1.0 / 0.0, fun rest _ => rfl⟩
  | zero negative =>
    have valid : Spelling.Valid ⟨[CodePoint.ofChar '0'], [CodePoint.ofChar '0'], none⟩ :=
      ⟨digits_zeros 1, .inl rfl, digits_zeros 1, by simp⟩
    exact ⟨_, fun rest ends => atom_spelling valid (by simp) negative ends⟩
  | finite negative value =>
    obtain ⟨s, valid, isFloat, htext⟩ := exists_spelling numbers
      (Decimal.Shape.proper_of_bits hshape).shortest_pos
    refine ⟨s.float negative, fun rest ends => ?_⟩
    dsimp only
    rw [htext]
    exact atom_spelling valid isFloat negative ends

/-! ### How they begin, and what they consist of -/

/-- What is read as a number or a word starts with a digit, with a minus sign or with the first letter
of a word. -/
theorem atom_head {c : CodePoint} {rest : Text} {step : Step Json}
    (h : atom? (c :: rest) = some step) : c.isAsciiDigit = true ∨ c ∈ ("-ntfNI" : Text) := by
  unfold atom? at h
  split at h
  · rename_i word v hfound
    have words : ∀ l ∈ literals, l.1.head?.all (· ∈ ("-ntfNI" : Text)) ∧ l.1 ≠ [] := by decide
    obtain ⟨hhead, hne⟩ := words _ (List.mem_of_find?_eq_some hfound)
    have hprefix : word.isPrefixOf (c :: rest) = true :=
      List.find?_some (p := fun l : Text × Json => l.1.isPrefixOf (c :: rest)) hfound
    obtain ⟨more, hmore⟩ := List.isPrefixOf_iff_prefix.1 hprefix
    cases word with
    | nil => exact absurd rfl hne
    | cons d word =>
      obtain rfl : d = c := (List.cons.inj hmore).1
      exact .inr (by simpa using hhead)
  · by_cases hminus : c = '-'
    · exact .inr (hminus ▸ by decide)
    · refine .inl (Bool.of_not_eq_false fun hdigit => ?_)
      have hzero : c ≠ '0' := fun hc => absurd (hc ▸ hdigit) (by decide)
      simp [number?, minus, hminus, wholePart, hzero, hdigit] at h

/-- Printed ASCII. -/
def Plain (t : Text) : Prop := ∀ c ∈ t, 32 ≤ c.val ∧ c.val < 127

instance (t : Text) : Decidable (Plain t) := inferInstanceAs (Decidable (∀ c ∈ t, _))

theorem Plain.append {t u : Text} (h : Plain t) (h' : Plain u) : Plain (t ++ u) := by
  intro c hc
  rcases List.mem_append.1 hc with hc | hc
  · exact h c hc
  · exact h' c hc

theorem Plain.digits {t : Text} (h : t.Digits) : Plain t := by
  intro c hc
  have hdigit := h c hc
  simp only [CodePoint.isAsciiDigit, Bool.and_eq_true, decide_eq_true_eq] at hdigit
  omega

theorem plain_ofInt (n : Int) : Plain (Text.ofInt n) := by
  cases n with
  | ofNat n => exact .digits (Text.digits_ofNat n)
  | negSucc n =>
    have minus : Plain ("-" : Text) := by decide
    exact minus.append (.digits (Text.digits_ofNat (n + 1)))

theorem Spelling.Valid.plain {s : Spelling} (valid : s.Valid) : Plain s.text := by
  have fraction : Plain s.fraction := by
    unfold Spelling.fraction
    split
    · simp [Plain]
    · have point : Plain ("." : Text) := by decide
      exact point.append (.digits valid.places)
  have exponent : Plain s.exponent := by
    unfold Spelling.exponent
    split
    · simp [Plain]
    · rename_i negative digits hpower
      have sign : Plain [CodePoint.ofChar 'e', CodePoint.ofChar (if negative then '-' else '+')] := by
        cases negative <;> decide
      exact sign.append (.digits (valid.power _ hpower).1)
  exact (Plain.digits valid.whole).append (fraction.append exponent)

theorem plain_float (x : Float) : Plain (compact (.float x)) := by
  have signed {t : Text} (negative : Bool) (h : Plain t) :
      Plain (if negative then "-" ++ t else t) := by
    have minus : Plain ("-" : Text) := by decide
    cases negative with
    | true => exact minus.append h
    | false => exact h
  unfold compact Decimal.Layout.float
  dsimp only
  cases hshape : Decimal.Shape.ofFloat x with
  | nan => exact (by decide : Plain ("NaN" : Text))
  | infinite negative => exact signed negative (by decide : Plain ("Infinity" : Text))
  | zero negative => exact signed negative (by decide : Plain ("0.0" : Text))
  | finite negative value =>
    obtain ⟨s, valid, -, htext⟩ := exists_spelling numbers
      (Decimal.Shape.proper_of_bits hshape).shortest_pos
    dsimp only
    rw [htext]
    exact signed negative valid.plain

end TextAdventure.Json
