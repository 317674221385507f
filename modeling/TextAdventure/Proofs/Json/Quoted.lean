import TextAdventure.Json.Printer
import TextAdventure.Json.Reader
import Mathlib.Tactic.SplitIfs

/-! Texts between quotes are read back as they were written, but that a high surrogate and a low one
right after it come back as the one code point that they stand for together. -/

namespace TextAdventure

namespace CodePoint

theorem ofNat_val {c : CodePoint} {n : Nat} (h : c.val = n) : ofNat n = c := by
  subst h
  simp [ofNat, c.isLt]

def isHigh (c : CodePoint) : Bool := 0xD800 ≤ c.val && c.val < 0xDC00

def isLow (c : CodePoint) : Bool := 0xDC00 ≤ c.val && c.val < 0xE000

/-- The code point that two surrogates stand for together. -/
def joined (high low : CodePoint) : CodePoint :=
  ofNat (0x10000 + (high.val - 0xD800) * 1024 + (low.val - 0xDC00))

end CodePoint

/-- The text in which surrogates that form a pair have become one code point. -/
def Text.paired : Text → Text
  | [] => []
  | [c] => [c]
  | c :: d :: rest =>
    if c.isHigh && d.isLow then CodePoint.joined c d :: paired rest else c :: paired (d :: rest)

/-- A text of code points that are no surrogates. -/
def Text.Scalar (t : Text) : Prop := ∀ c ∈ t, c.isSurrogate = false

instance (t : Text) : Decidable (Text.Scalar t) := inferInstanceAs (Decidable (∀ c ∈ t, _))

theorem Text.Scalar.paired {t : Text} (h : t.Scalar) : t.paired = t := by
  fun_induction Text.paired t with
  | case1 => rfl
  | case2 => rfl
  | case3 c d rest hpair ih =>
    have hc := h c List.mem_cons_self
    simp only [CodePoint.isHigh, Bool.and_eq_true, decide_eq_true_eq] at hpair
    simp only [CodePoint.isSurrogate, Bool.and_eq_false_iff, decide_eq_false_iff_not] at hc
    omega
  | case4 c d rest hpair ih => rw [ih fun e he => h e (List.mem_cons_of_mem _ he)]

namespace Json

theorem hexValue_hexDigit {n : Nat} (h : n < 16) : (hexDigit n).hexValue? = some n := by
  have all : ∀ n < 16, (hexDigit n).hexValue? = some n := by decide
  exact all n h

/-- The four digits of an escape. -/
def hexDigits (n : Nat) : Text :=
  [hexDigit (n / 4096 % 16), hexDigit (n / 256 % 16), hexDigit (n / 16 % 16), hexDigit (n % 16)]

theorem escapeUnit_eq (n : Nat) :
    escapeUnit n = CodePoint.ofChar '\\' :: CodePoint.ofChar 'u' :: hexDigits n := rfl

/-- The four digits of an escape are read as their number. -/
theorem unit_hexDigits {n : Nat} (h : n < 0x10000) (rest : Text) :
    unit? (hexDigits n ++ rest) = some (n, rest) := by
  have hsum : n / 4096 % 16 * 4096 + n / 256 % 16 * 256 + n / 16 % 16 * 16 + n % 16 = n := by omega
  simp only [hexDigits, List.cons_append, List.nil_append, unit?,
    hexValue_hexDigit (Nat.mod_lt _ (by decide : 0 < 16)), Option.bind_eq_bind, Option.bind_some,
    hsum]

/-- The ways in which a character is written between quotes: by a letter after a backslash, as it
is, by its number, or by the numbers of two surrogates. -/
inductive Escaped (c : CodePoint) : Text → Prop
  | letter (e : CodePoint) (ne : e ≠ 'u') (short : shortEscape? e = some c) :
      Escaped c [CodePoint.ofChar '\\', e]
  | plain (quote : c ≠ '"') (backslash : c ≠ '\\') (printed : 32 ≤ c.val) : Escaped c [c]
  | unit (small : c.val < 0x10000) : Escaped c (escapeUnit c.val)
  | pair (large : 0x10000 ≤ c.val) :
      Escaped c (escapeUnit (0xD800 + (c.val - 0x10000) / 1024) ++
        escapeUnit (0xDC00 + (c.val - 0x10000) % 1024))

theorem escaped (c : CodePoint) : Escaped c (escape c) := by
  unfold escape
  split_ifs with quote backslash feed carriage tab back form printed small
  · exact quote ▸ .letter '"' (by decide) (by decide)
  · exact backslash ▸ .letter '\\' (by decide) (by decide)
  · exact feed ▸ .letter 'n' (by decide) (by decide)
  · exact carriage ▸ .letter 'r' (by decide) (by decide)
  · exact tab ▸ .letter 't' (by decide) (by decide)
  · exact .letter 'b' (by decide) (by rw [← CodePoint.ofNat_val back]; decide)
  · exact .letter 'f' (by decide) (by rw [← CodePoint.ofNat_val form]; decide)
  · exact .plain quote backslash printed.1
  · exact .unit small
  · exact .pair (by omega)

/-- The text does not go on with the escape of a low surrogate. -/
inductive NoLow : Text → Prop
  | other {t : Text} (h : ∀ more, t ≠ CodePoint.ofChar '\\' :: CodePoint.ofChar 'u' :: more) :
      NoLow t
  | unit {n : Nat} (small : n < 0x10000) (h : ¬(0xDC00 ≤ n ∧ n < 0xE000)) (more : Text) :
      NoLow (escapeUnit n ++ more)

theorem Escaped.noLow {c : CodePoint} {t : Text} (h : Escaped c t) (low : c.isLow = false)
    (more : Text) : NoLow (t ++ more) := by
  cases h with
  | letter e ne short =>
    refine .other fun rest heq => ne ?_
    simp only [List.cons_append, List.nil_append, List.cons.injEq] at heq
    exact heq.2.1
  | plain quote backslash printed =>
    refine .other fun rest heq => backslash ?_
    simp only [List.cons_append, List.cons.injEq] at heq
    exact heq.1
  | unit small =>
    refine .unit small ?_ more
    simpa [CodePoint.isLow] using low
  | pair large =>
    have hlt := c.isLt
    rw [List.append_assoc]
    exact .unit (by omega) (by omega) _

theorem noLow_quote (more : Text) : NoLow (CodePoint.ofChar '"' :: more) := by
  refine .other fun rest heq => ?_
  rw [List.cons.injEq] at heq
  exact absurd heq.1 (by decide)

theorem unicodeEscape_alone {n : Nat} (h : n < 0x10000) {after : Text} (ne : after ≠ [])
    (alone : ¬(0xD800 ≤ n ∧ n < 0xDC00) ∨ NoLow after) (letter : Text) :
    unicodeEscape letter (hexDigits n ++ after) = .ok (CodePoint.ofNat n, after) := by
  unfold unicodeEscape
  rw [unit_hexDigits h]
  dsimp only
  rw [if_neg ne]
  split
  · rename_i high
    rcases alone with low | low
    · exact absurd ⟨high.1, high.2.1⟩ low
    · cases low with
      | other none =>
        split
        · rename_i b u digits
          rw [if_neg]
          rintro ⟨rfl, rfl⟩
          exact none digits rfl
        · rfl
      | unit small notLow more =>
        simp only [escapeUnit_eq, List.cons_append, unit_hexDigits small, and_self, if_true,
          if_neg notLow]
  · rfl

theorem unicodeEscape_pair {high low : Nat} (h : 0xD800 ≤ high ∧ high < 0xDC00)
    (hlow : 0xDC00 ≤ low ∧ low < 0xE000) {after : Text} (ne : after ≠ []) (letter : Text) :
    unicodeEscape letter (hexDigits high ++ (escapeUnit low ++ after)) =
      .ok (CodePoint.ofNat (0x10000 + (high - 0xD800) * 1024 + (low - 0xDC00)), after) := by
  have hdrop : (escapeUnit low ++ after).drop 6 = after := rfl
  have hcons : escapeUnit low ++ after ≠ [] := by simp [escapeUnit_eq]
  unfold unicodeEscape
  rw [unit_hexDigits (by omega)]
  dsimp only
  rw [if_neg hcons, hdrop, if_pos ⟨h.1, h.2, ne⟩]
  simp only [escapeUnit_eq, List.cons_append, unit_hexDigits (show low < 0x10000 by omega),
    and_self, if_true, if_pos hlow]

variable {opened done rest after : Text} {fuel : Nat}

theorem quoted_close : quoted opened (fuel + 1) done (CodePoint.ofChar '"' :: rest) =
    .ok (done.reverse, rest) := by
  rw [quoted.eq_def]
  dsimp only
  rw [if_pos rfl]

theorem quoted_unit {letter : Text} {c : CodePoint}
    (h : unicodeEscape (CodePoint.ofChar 'u' :: letter) letter = .ok (c, after)) :
    quoted opened (fuel + 1) done (CodePoint.ofChar '\\' :: CodePoint.ofChar 'u' :: letter) =
      quoted opened fuel (c :: done) after := by
  rw [quoted.eq_def]
  dsimp only
  rw [if_neg (by decide), if_pos rfl, if_pos rfl, h]

/-- A round reads what a character was written as, unless two surrogates meet. -/
theorem Escaped.quoted {c : CodePoint} {t : Text} (h : Escaped c t) (ne : after ≠ [])
    (alone : c.isHigh = false ∨ NoLow after) :
    quoted opened (fuel + 1) done (t ++ after) = Json.quoted opened fuel (c :: done) after := by
  cases h with
  | letter e ne short =>
    have hquote : CodePoint.ofChar '\\' ≠ CodePoint.ofChar '"' := by decide
    simp only [List.cons_append, List.nil_append, Json.quoted, if_neg hquote, if_true, if_neg ne,
      short]
  | plain quote backslash printed =>
    have hcontrol : ¬c.val ≤ 0x1F := by omega
    simp only [List.cons_append, List.nil_append, Json.quoted, if_neg quote, if_neg backslash,
      if_neg hcontrol]
  | unit small =>
    have hval : CodePoint.ofNat c.val = c := CodePoint.ofNat_val rfl
    have hread := unicodeEscape_alone small ne (alone.imp_left fun h => by
      simpa [CodePoint.isHigh] using h) (CodePoint.ofChar 'u' :: (hexDigits c.val ++ after))
    rw [hval] at hread
    rw [escapeUnit_eq]
    exact quoted_unit hread
  | pair large =>
    have hlt := c.isLt
    obtain ⟨high, hhigh⟩ : ∃ n, n = 0xD800 + (c.val - 0x10000) / 1024 := ⟨_, rfl⟩
    obtain ⟨low, hlow⟩ : ∃ n, n = 0xDC00 + (c.val - 0x10000) % 1024 := ⟨_, rfl⟩
    rw [← hhigh, ← hlow]
    have hval : CodePoint.ofNat (0x10000 + (high - 0xD800) * 1024 + (low - 0xDC00)) = c :=
      CodePoint.ofNat_val (by omega)
    rw [List.append_assoc, ← hval]
    exact quoted_unit (unicodeEscape_pair (by omega) (by omega) ne _)

/-- Two surrogates of a pair are read in one round. -/
theorem quoted_joined {c d : CodePoint} (hc : c.isHigh = true) (hd : d.isLow = true)
    (ne : after ≠ []) : quoted opened (fuel + 1) done (escape c ++ (escape d ++ after)) =
      quoted opened fuel (CodePoint.joined c d :: done) after := by
  have unit {e : CodePoint} (h : 0xD800 ≤ e.val) (h' : e.val < 0x10000) :
      escape e = escapeUnit e.val := by
    have plain : ¬(32 ≤ e.val ∧ e.val < 127) := by omega
    have not (ch : Char) (hch : ch.toNat < 0xD800) : e ≠ CodePoint.ofChar ch := by
      rintro rfl
      exact absurd h (Nat.not_le.2 hch)
    rw [escape, if_neg (not '"' (by decide)), if_neg (not '\\' (by decide)),
      if_neg (not '\n' (by decide)), if_neg (not '\r' (by decide)), if_neg (not '\t' (by decide)),
      if_neg (by omega), if_neg (by omega), if_neg plain, if_pos h']
  simp only [CodePoint.isHigh, CodePoint.isLow, Bool.and_eq_true, decide_eq_true_eq] at hc hd
  rw [unit hc.1 (by omega), unit (by omega) (by omega), escapeUnit_eq c.val]
  exact quoted_unit (unicodeEscape_pair hc hd ne _)

/-- What follows the opening quote of a text is read as the text with its pairs joined. -/
theorem quoted_escape (opened rest : Text) (t : Text) {fuel : Nat} (h : t.length < fuel)
    (done : Text) : quoted opened fuel done (t.flatMap escape ++ CodePoint.ofChar '"' :: rest) =
      .ok (done.reverse ++ t.paired, rest) := by
  obtain ⟨fuel, rfl⟩ : ∃ n, fuel = n + 1 := ⟨fuel - 1, by omega⟩
  have tail (t : Text) : t.flatMap escape ++ CodePoint.ofChar '"' :: rest ≠ [] := by simp
  induction t using Text.paired.induct generalizing fuel done with
  | case1 => simpa [Text.paired] using quoted_close
  | case2 c =>
    obtain ⟨fuel, rfl⟩ : ∃ n, fuel = n + 1 := ⟨fuel - 1, by simp at h; omega⟩
    rw [List.flatMap_cons, List.flatMap_nil, List.append_assoc, List.nil_append,
      (escaped c).quoted (by simp) (.inr (noLow_quote rest)), quoted_close]
    simp [Text.paired]
  | case3 c d more hpair ih =>
    obtain ⟨fuel, rfl⟩ : ∃ n, fuel = n + 1 := ⟨fuel - 1, by simp at h; omega⟩
    have both := (Bool.and_eq_true _ _ ▸ hpair : c.isHigh = true ∧ d.isLow = true)
    rw [List.flatMap_cons, List.flatMap_cons, List.append_assoc, List.append_assoc,
      quoted_joined both.1 both.2 (tail more), ih _ _ (by simp at h; omega), Text.paired, if_pos hpair]
    simp
  | case4 c d more hpair ih =>
    obtain ⟨fuel, rfl⟩ : ∃ n, fuel = n + 1 := ⟨fuel - 1, by simp at h; omega⟩
    have alone : c.isHigh = false ∨
        NoLow ((d :: more).flatMap escape ++ CodePoint.ofChar '"' :: rest) := by
      rcases Bool.eq_false_or_eq_true c.isHigh with hc | hc
      · have hd : d.isLow = false := by simpa [hc] using hpair
        rw [List.flatMap_cons, List.append_assoc]
        exact .inr ((escaped d).noLow hd _)
      · exact .inl hc
    rw [List.flatMap_cons, List.append_assoc, (escaped c).quoted (tail (d :: more)) alone,
      ih _ _ (by simp at h ⊢; omega), Text.paired, if_neg hpair]
    simp

end Json

end TextAdventure
