import TextAdventure.Proofs.Json.Settled

/-! What is read from JSON text without surrogates is settled. Escapes can name surrogates there, but
of a high one and a low one right after it reading makes one code point. Whatever stays behind a part
that has been read is part of the text. -/

namespace TextAdventure.Json

/-! ### Texts -/

theorem unit_eq_append {t rest : Text} {n : Nat} (h : unit? t = some (n, rest)) :
    ∃ digits, digits.length = 4 ∧ t = digits ++ rest := by
  match t, h with
  | a :: b :: c :: d :: more, h =>
    unfold unit? at h
    simp only [Option.bind_eq_bind, Option.bind_eq_some_iff, Option.some.injEq, Prod.mk.injEq] at h
    obtain ⟨_, -, _, -, _, -, _, -, -, rfl⟩ := h
    exact ⟨[a, b, c, d], rfl, rfl⟩

/-- The text goes on with the escape of a low surrogate, and with more text behind it. -/
def LowNext (t : Text) : Prop :=
  ∃ digits low more, t = CodePoint.ofChar '\\' :: CodePoint.ofChar 'u' :: digits ∧
    unit? digits = some (low, more) ∧ more ≠ [] ∧ 0xDC00 ≤ low ∧ low < 0xE000

/-- An escape by number is read alone or with the one behind it. That of a high surrogate is not read
alone where that of a low one follows. -/
inductive EscapeRead (t : Text) (c : CodePoint) (after : Text) : Prop
  | alone (n : Nat) (unit : unit? t = some (n, after)) (ne : after ≠ []) (value : c = .ofNat n)
      (apart : 0xD800 ≤ n → n < 0xDC00 → ¬LowNext after)
  | pair (n : Nat) (large : 0x10000 ≤ n) (value : c = .ofNat n) (suffix : after <:+ t)

theorem escapeRead {letter t after : Text} {c : CodePoint}
    (h : unicodeEscape letter t = .ok (c, after)) : EscapeRead t c after := by
  unfold unicodeEscape at h
  split at h
  · cases h
  rename_i high rest hunit
  dsimp only at h
  split at h
  · cases h
  rename_i ne
  split at h
  · rename_i surrogate
    have here : rest <:+ t := by
      obtain ⟨digits, -, rfl⟩ := unit_eq_append hunit
      exact List.suffix_append digits rest
    split at h
    · rename_i b u digits
      split at h
      · rename_i marked
        split at h
        · cases h
        · rename_i low more hlow
          split at h
          · obtain ⟨rfl, rfl⟩ := Prod.mk.inj (Except.ok.inj h)
            refine .pair _ (by omega) rfl ?_
            obtain ⟨four, -, rfl⟩ := unit_eq_append hlow
            exact (List.suffix_append (b :: u :: four) more).trans here
          · rename_i apart
            obtain ⟨rfl, rfl⟩ := Prod.mk.inj (Except.ok.inj h)
            refine .alone high hunit ne rfl ?_
            rintro - - ⟨digits', low', more', heq, hlow', -, range⟩
            obtain ⟨-, -, rfl⟩ : b = _ ∧ u = _ ∧ digits = digits' := by simpa using heq
            obtain ⟨rfl, -⟩ := Prod.mk.inj (Option.some.inj (hlow.symm.trans hlow'))
            exact apart range
      · rename_i unmarked
        obtain ⟨rfl, rfl⟩ := Prod.mk.inj (Except.ok.inj h)
        refine .alone high hunit ne rfl ?_
        rintro - - ⟨digits', low', more', heq, -⟩
        rw [List.cons.injEq, List.cons.injEq] at heq
        exact absurd ⟨heq.1, heq.2.1⟩ unmarked
    · rename_i short
      obtain ⟨rfl, rfl⟩ := Prod.mk.inj (Except.ok.inj h)
      refine .alone high hunit ne rfl ?_
      rintro - - ⟨digits', low', more', heq, -⟩
      exact short _ _ _ heq
  · rename_i close
    obtain ⟨rfl, rfl⟩ := Prod.mk.inj (Except.ok.inj h)
    refine .alone high hunit ne rfl ?_
    rintro above below ⟨digits, low, more, heq, hlow, some, -⟩
    refine close ⟨above, below, ?_⟩
    obtain ⟨four, length, rfl⟩ := unit_eq_append hlow
    rw [heq]
    simpa [length] using some

namespace EscapeRead

variable {t after : Text} {c : CodePoint}

theorem suffix (h : EscapeRead t c after) : after <:+ t := by
  cases h with
  | alone n unit =>
    obtain ⟨digits, -, rfl⟩ := unit_eq_append unit
    exact List.suffix_append digits after
  | pair n large value suffix => exact suffix

/-- A low surrogate comes from an escape of its own. -/
theorem of_low (h : EscapeRead t c after) (low : c.isLow = true) :
    ∃ n, unit? t = some (n, after) ∧ after ≠ [] ∧ 0xDC00 ≤ n ∧ n < 0xE000 := by
  cases h with
  | alone n unit ne value apart =>
    rw [value, CodePoint.isLow_ofNat] at low
    exact ⟨n, unit, ne, low⟩
  | pair n large value suffix =>
    rw [value, CodePoint.isLow_ofNat] at low
    omega

/-- Behind the escape of a high surrogate comes none of a low one. -/
theorem of_high (h : EscapeRead t c after) (high : c.isHigh = true) : ¬LowNext after := by
  cases h with
  | alone n unit ne value apart =>
    rw [value, CodePoint.isHigh_ofNat] at high
    exact apart high.1 high.2
  | pair n large value suffix =>
    rw [value, CodePoint.isHigh_ofNat] at high
    omega

/-- Behind what is done, an escape by number makes no pair, and it leaves none to be made. -/
theorem grows {done : Text} (h : EscapeRead t c after) (unpaired : Text.Unpaired done.reverse)
    (apart : ∀ d ∈ done.head?, d.isHigh = true →
      ¬LowNext (CodePoint.ofChar '\\' :: CodePoint.ofChar 'u' :: t)) :
    Text.Unpaired (c :: done).reverse ∧
      ∀ d ∈ (c :: done).head?, d.isHigh = true → ¬LowNext after := by
  refine ⟨unpaired.grow fun d hd high => ?_, fun d hd high => ?_⟩
  · refine Bool.eq_false_iff.2 fun low => apart d hd high ?_
    obtain ⟨n, unit, ne, range⟩ := h.of_low low
    exact ⟨t, n, after, rfl, unit, ne, range⟩
  · obtain rfl : c = d := by simpa using hd
    exact h.of_high high

end EscapeRead

theorem shortEscape_scalar {e c : CodePoint} (h : shortEscape? e = some c) :
    c.isSurrogate = false := by
  unfold shortEscape? at h
  split_ifs at h with mark <;> obtain rfl := Option.some.inj h
  · rcases mark with rfl | rfl | rfl <;> decide
  all_goals decide

/-- The rest of a quoted text. What is done ends with a high surrogate only where the escape of a low
one does not follow. -/
theorem quoted_read {opened done t s rest : Text} {fuel : Nat}
    (h : quoted opened fuel done t = .ok (s, rest)) (scalar : t.Scalar)
    (unpaired : Text.Unpaired done.reverse)
    (apart : ∀ c ∈ done.head?, c.isHigh = true → ¬LowNext t) : s.Unpaired ∧ rest <:+ t := by
  induction fuel generalizing done t with
  | zero => cases h
  | succ fuel ih =>
    -- A character that is no surrogate makes no pair with its neighbours.
    have plain {c : CodePoint} {after : Text} (hc : c.isSurrogate = false) (suffix : after <:+ t)
        (h : quoted opened fuel (c :: done) after = .ok (s, rest)) : s.Unpaired ∧ rest <:+ t := by
      obtain ⟨high, low⟩ := CodePoint.plain_of_scalar hc
      obtain ⟨read, behind⟩ := ih h (scalar.of_suffix suffix)
        (Text.Unpaired.grow unpaired fun _ _ _ => low) fun d hd h => by
          obtain rfl : c = d := by simpa using hd
          exact absurd h (by simp [high])
      exact ⟨read, behind.trans suffix⟩
    cases t with
    | nil => cases h
    | cons c more =>
      rw [quoted.eq_def] at h
      dsimp only at h
      split at h
      · obtain ⟨rfl, rfl⟩ := Prod.mk.inj (Except.ok.inj h)
        exact ⟨unpaired, List.suffix_cons c more⟩
      split at h
      · rename_i backslash
        split at h
        · cases h
        · rename_i e after
          split at h
          · rename_i letter
            split at h
            · cases h
            · rename_i point behind hread
              have there : after <:+ c :: e :: after :=
                (List.suffix_cons e after).trans (List.suffix_cons c _)
              have suffix : behind <:+ after := (escapeRead hread).suffix
              rw [backslash, letter] at apart
              obtain ⟨grown, next⟩ := (escapeRead hread).grows unpaired apart
              obtain ⟨read, rests⟩ := ih h (scalar.of_suffix (suffix.trans there)) grown next
              exact ⟨read, rests.trans (suffix.trans there)⟩
          · split at h
            · rename_i point hshort
              exact plain (shortEscape_scalar hshort)
                ((List.suffix_cons e after).trans (List.suffix_cons c _)) h
            · cases h
      · split at h
        · cases h
        · exact plain (scalar c List.mem_cons_self) (List.suffix_cons c more) h

/-! ### Numbers and words -/

theorem minus_suffix (t : Text) : (minus t).2 <:+ t := by
  cases t with
  | nil => exact List.suffix_rfl
  | cons c rest =>
    rw [minus]
    split
    · exact List.suffix_cons c rest
    · exact List.suffix_rfl

theorem wholePart_read (t : Text) : Text.Digits (wholePart t).1 ∧ (wholePart t).2 <:+ t := by
  cases t with
  | nil => exact ⟨nofun, List.suffix_rfl⟩
  | cons d rest =>
    rw [wholePart]
    split
    · rename_i zero
      refine ⟨fun c hc => ?_, List.suffix_cons d rest⟩
      rw [List.mem_singleton.1 hc, zero]
      decide
    · exact ⟨fun c hc => List.mem_takeWhile_imp hc, List.dropWhile_suffix _⟩

theorem fraction_suffix {t digits rest : Text} (h : fraction? t = some (digits, rest)) :
    rest <:+ t := by
  cases t with
  | nil => cases h
  | cons point more =>
    rw [fraction?] at h
    split at h
    · obtain ⟨-, rfl⟩ := Prod.mk.inj (Option.some.inj h)
      exact (List.dropWhile_suffix _).trans (List.suffix_cons point more)
    · cases h

theorem exponent_suffix {t rest : Text} {n : Int} (h : exponent? t = some (n, rest)) :
    rest <:+ t := by
  cases t with
  | nil => cases h
  | cons e more =>
    rw [exponent?.eq_def] at h
    have read {signed : Bool × Text} (behind : signed.2 <:+ more)
        (h : (if (e = 'e' ∨ e = 'E') ∧ signed.2.takeWhile CodePoint.isAsciiDigit ≠ [] then
          let size : Int := Text.digitsValue (signed.2.takeWhile CodePoint.isAsciiDigit)
          some (if signed.1 then -size else size, signed.2.dropWhile CodePoint.isAsciiDigit)
          else none) = some (n, rest)) : rest <:+ e :: more := by
      split at h
      · obtain ⟨-, rfl⟩ := Prod.mk.inj (Option.some.inj h)
        exact ((List.dropWhile_suffix _).trans behind).trans (List.suffix_cons e more)
      · cases h
    refine read ?_ h
    cases more with
    | nil => exact List.suffix_rfl
    | cons s after =>
      dsimp only
      split_ifs
      · exact List.suffix_cons s after
      · exact List.suffix_cons s after
      · exact List.suffix_rfl

theorem digitsValue_lt {t : Text} (h : t.Digits) : t.digitsValue < Nat.pow 10 t.length := by
  induction t using List.reverseRecOn with
  | nil => decide
  | append_singleton t c ih =>
    have hc := h c (by simp)
    have ht := ih fun d hd => h d (List.mem_append_left _ hd)
    simp only [CodePoint.isAsciiDigit, Bool.and_eq_true, decide_eq_true_eq] at hc
    have size : Nat.pow 10 (t.length + 1) = Nat.pow 10 t.length * 10 := rfl
    rw [Text.digitsValue_concat, List.length_append, List.length_singleton, size]
    omega

theorem digitsValue_lt_of_le {t : Text} (h : t.Digits) {k : Nat} (length : t.length ≤ k) :
    t.digitsValue < Nat.pow 10 k :=
  Nat.lt_of_lt_of_le (digitsValue_lt h) (Nat.pow_le_pow_right (by decide) length)

/-- A number with as many digits as can be read can be written. -/
theorem isLong_digitsValue {whole : Text} (digits : whole.Digits)
    (short : whole.length ≤ Numeral.mostDigits) (negative : Bool) :
    isLong (if negative then -(whole.digitsValue : Int) else whole.digitsValue) = false := by
  have size : Int.natAbs (if negative then -(whole.digitsValue : Int) else whole.digitsValue) =
      whole.digitsValue := by cases negative <;> simp
  rw [isLong, size]
  exact decide_eq_false (Nat.not_le.2 (digitsValue_lt_of_le digits short))

theorem number_read {t rest : Text} {v : Json} (h : number? t = some (.ok (v, rest))) :
    v.Settled (fun _ => True) ∧ rest <:+ t := by
  have body := minus_suffix t
  have whole := wholePart_read (minus t).2
  generalize hminus : minus t = signed at body whole
  obtain ⟨negative, digits⟩ := signed
  generalize hwhole : wholePart digits = read at whole
  obtain ⟨whole, more⟩ := read
  rw [number?, hminus] at h
  dsimp only at h
  rw [hwhole] at h
  dsimp only at h body whole
  obtain ⟨isDigits, behind⟩ := whole
  have fraction : ((fraction? more).map (·.2)).getD more <:+ more := by
    cases hf : fraction? more with
    | none => exact List.suffix_rfl
    | some f => exact fraction_suffix hf
  generalize ((fraction? more).map (·.2)).getD more = tail at h fraction
  have exponent : ((exponent? tail).map (·.2)).getD tail <:+ tail := by
    cases he : exponent? tail with
    | none => exact List.suffix_rfl
    | some f => exact exponent_suffix he
  have suffix := ((exponent.trans fraction).trans behind).trans body
  split at h
  · cases h
  split at h
  · split at h
    · cases Option.some.inj h
    · rename_i short
      obtain ⟨rfl, rfl⟩ := Prod.mk.inj (Except.ok.inj (Option.some.inj h))
      exact ⟨.int (isLong_digitsValue isDigits (Nat.le_of_not_lt short) negative), suffix⟩
  · obtain ⟨rfl, rfl⟩ := Prod.mk.inj (Except.ok.inj (Option.some.inj h))
    exact ⟨.float trivial, suffix⟩

theorem atom_read {t rest : Text} {v : Json} (h : atom? t = some (.ok (v, rest))) :
    v.Settled (fun _ => True) ∧ rest <:+ t := by
  unfold atom? at h
  split at h
  · rename_i word u found
    obtain ⟨rfl, rfl⟩ := Prod.mk.inj (Except.ok.inj (Option.some.inj h))
    have words : ∀ l ∈ literals, l.2.Settled fun _ => True := by
      simp only [literals, List.mem_cons, List.not_mem_nil, or_false, forall_eq_or_imp, forall_eq]
      exact ⟨.null, .bool true, .bool false, .float trivial, .float trivial, .float trivial⟩
    exact ⟨words _ (List.mem_of_find?_eq_some found), List.drop_suffix _ t⟩
  · exact number_read h

theorem skipSpaces_suffix (t : Text) : skipSpaces t <:+ t := List.dropWhile_suffix _

/-! ### Values -/

/-- A value that reading keeps as it is, but for its floating point numbers. -/
abbrev Kept (v : Json) : Prop := v.Settled fun _ => True

theorem Kept.empty : Kept (.object []) :=
  .object .nil (List.forall_mem_nil _) (List.forall_mem_nil _)

theorem Kept.set {done : Fields} {key : Text} {v : Json} (h : Kept (.object done))
    (unpaired : key.Unpaired) (read : Kept v) : Kept (.object (done.set key v)) := by
  cases h with
  | object distinct names each =>
    refine .object (Fields.nodup_set distinct key v) (fun f hf => ?_) fun f hf => ?_ <;>
      rcases Fields.mem_set hf with rfl | hf
    · exact unpaired
    · exact names f hf
    · exact read
    · exact each f hf

/-- What is read with some fuel from a text without surrogates. -/
structure Reads (fuel : Nat) : Prop where
  value : ∀ {t rest v}, value fuel t = .ok (v, rest) → Text.Scalar t → Kept v ∧ rest <:+ t
  items : ∀ {done t rest v}, items fuel done t = .ok (v, rest) → Text.Scalar t →
    (∀ u ∈ done, Kept u) → Kept v ∧ rest <:+ t
  members : ∀ {done t rest v}, members fuel done t = .ok (v, rest) → Text.Scalar t →
    Kept (.object done) → Kept v ∧ rest <:+ t

/-- A quoted text at the start of a text. -/
theorem quoted_start {c : CodePoint} {t s rest : Text} {fuel : Nat}
    (h : quoted (c :: t) fuel [] t = .ok (s, rest)) (scalar : Text.Scalar (c :: t)) :
    s.Unpaired ∧ rest <:+ c :: t := by
  obtain ⟨unpaired, behind⟩ :=
    quoted_read h (scalar.of_suffix (List.suffix_cons c t)) .nil (by simp)
  exact ⟨unpaired, behind.trans (List.suffix_cons c t)⟩

theorem Reads.succ_value {fuel : Nat} (h : Reads fuel) {t rest : Text} {v : Json}
    (read : Json.value (fuel + 1) t = .ok (v, rest)) (scalar : t.Scalar) : Kept v ∧ rest <:+ t := by
  cases t with
  | nil => cases read
  | cons c more =>
    -- What stands behind an opening bracket.
    have inside {d : CodePoint} {after : Text} (spaces : skipSpaces more = d :: after) :
        d :: after <:+ c :: more ∧ after <:+ c :: more := by
      have behind := (spaces ▸ skipSpaces_suffix more).trans (List.suffix_cons c more)
      exact ⟨behind, (List.suffix_cons d after).trans behind⟩
    rw [Json.value] at read
    split at read
    · split at read
      · cases read
      · rename_i s after hquoted
        obtain ⟨rfl, rfl⟩ := Prod.mk.inj (Except.ok.inj read)
        obtain ⟨unpaired, behind⟩ := quoted_start hquoted scalar
        exact ⟨.text unpaired, behind⟩
    split at read
    · split at read
      · cases read
      · rename_i d after spaces
        obtain ⟨here, behind⟩ := inside spaces
        split at read
        · obtain ⟨rfl, rfl⟩ := Prod.mk.inj (Except.ok.inj read)
          exact ⟨.empty, behind⟩
        · obtain ⟨done, rests⟩ := h.members read (scalar.of_suffix here) .empty
          exact ⟨done, rests.trans here⟩
    split at read
    · split at read
      · cases read
      · rename_i d after spaces
        obtain ⟨here, behind⟩ := inside spaces
        split at read
        · obtain ⟨rfl, rfl⟩ := Prod.mk.inj (Except.ok.inj read)
          exact ⟨.list (List.forall_mem_nil _), behind⟩
        · obtain ⟨done, rests⟩ := h.items read (scalar.of_suffix here) (List.forall_mem_nil _)
          exact ⟨done, rests.trans here⟩
    split at read
    · rename_i step hatom
      exact atom_read (hatom.trans (congrArg some read))
    · cases read

theorem Reads.succ_items {fuel : Nat} (h : Reads fuel) {done : List Json} {t rest : Text} {v : Json}
    (read : Json.items (fuel + 1) done t = .ok (v, rest)) (scalar : t.Scalar)
    (each : ∀ u ∈ done, Kept u) : Kept v ∧ rest <:+ t := by
  rw [Json.items] at read
  split at read
  · cases read
  rename_i u more hvalue
  obtain ⟨first, behind⟩ := h.value hvalue scalar
  have all : ∀ w ∈ u :: done, Kept w := List.forall_mem_cons.2 ⟨first, each⟩
  split at read
  · cases read
  rename_i d after spaces
  have here : d :: after <:+ t := (spaces ▸ skipSpaces_suffix more).trans behind
  have there := (List.suffix_cons d after).trans here
  split at read
  · obtain ⟨rfl, rfl⟩ := Prod.mk.inj (Except.ok.inj read)
    exact ⟨.list fun w hw => all w (List.mem_reverse.1 hw), there⟩
  split at read
  · have next := (skipSpaces_suffix after).trans there
    obtain ⟨done, rests⟩ := h.items read (scalar.of_suffix next) all
    exact ⟨done, rests.trans next⟩
  · cases read

theorem Reads.succ_members {fuel : Nat} (h : Reads fuel) {done : Fields} {t rest : Text} {v : Json}
    (read : Json.members (fuel + 1) done t = .ok (v, rest)) (scalar : t.Scalar)
    (fields : Kept (.object done)) : Kept v ∧ rest <:+ t := by
  cases t with
  | nil => cases read
  | cons c more =>
    rw [Json.members] at read
    split at read
    · cases read
    split at read
    · cases read
    rename_i key tail hquoted
    obtain ⟨unpaired, behindKey⟩ := quoted_start hquoted scalar
    split at read
    · cases read
    rename_i d after spaces
    split at read
    · cases read
    have toValue : skipSpaces after <:+ c :: more :=
      (((skipSpaces_suffix after).trans (List.suffix_cons d after)).trans
        (spaces ▸ skipSpaces_suffix tail)).trans behindKey
    split at read
    · cases read
    rename_i u left hvalue
    obtain ⟨value, behindValue⟩ := h.value hvalue (scalar.of_suffix toValue)
    have set := fields.set unpaired value
    split at read
    · cases read
    rename_i e following spaces
    have there : following <:+ c :: more :=
      ((List.suffix_cons e following).trans (spaces ▸ skipSpaces_suffix left)).trans
        (behindValue.trans toValue)
    split at read
    · obtain ⟨rfl, rfl⟩ := Prod.mk.inj (Except.ok.inj read)
      exact ⟨set, there⟩
    split at read
    · have next := (skipSpaces_suffix following).trans there
      obtain ⟨done, rests⟩ := h.members read (scalar.of_suffix next) set
      exact ⟨done, rests.trans next⟩
    · cases read

theorem reads (fuel : Nat) : Reads fuel := by
  induction fuel with
  | zero =>
    refine ⟨fun read => ?_, fun read => ?_, fun read => ?_⟩
    · rw [Json.value] at read
      cases read
    · rw [Json.items] at read
      cases read
    · rw [Json.members] at read
      cases read
  | succ fuel h => exact ⟨h.succ_value, h.succ_items, h.succ_members⟩

/-- What a whole text without surrogates is read as. -/
theorem read_kept {t : Text} {v : Json} (h : read t = .ok v) (scalar : t.Scalar) : Kept v := by
  unfold read whole at h
  split at h
  · cases h
  split at h
  · cases h
  rename_i u rest hvalue
  have kept := ((reads _).value hvalue (scalar.of_suffix (skipSpaces_suffix t))).1
  split at h
  · obtain rfl := Except.ok.inj h
    exact kept
  · cases h

end TextAdventure.Json
