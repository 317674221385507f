import TextAdventure.Json.Reader
import TextAdventure.Proofs.Text.Digits

/-! How a number is spelled: digits before the point and behind it, and perhaps an exponent. A number
that is spelled well is read up to what follows it. -/

namespace TextAdventure

/-- The digits of a text are read up to what follows them. -/
theorem Text.Digits.span {t rest : Text} (h : t.Digits)
    (stop : ∀ c ∈ rest.head?, c.isAsciiDigit = false) :
    (t ++ rest).takeWhile CodePoint.isAsciiDigit = t ∧
      (t ++ rest).dropWhile CodePoint.isAsciiDigit = rest := by
  induction t with
  | nil =>
    cases rest with
    | nil => exact ⟨rfl, rfl⟩
    | cons c more =>
      have hc : c.isAsciiDigit = false := stop c rfl
      simp [hc]
  | cons c t ih =>
    have hc := h c List.mem_cons_self
    obtain ⟨htake, hdrop⟩ := ih fun d hd => h d (List.mem_cons_of_mem _ hd)
    simp [hc, htake, hdrop]

namespace Json

/-- The text cannot go on with a number that comes before it. -/
def Ends (t : Text) : Prop :=
  ∀ c ∈ t.head?, c.isAsciiDigit = false ∧ c ≠ '.' ∧ c ≠ 'e' ∧ c ≠ 'E'

theorem Ends.nil : Ends [] := by simp [Ends]

/-- A number as it is written: its whole part, its decimal places, and the sign and the digits of
its exponent. -/
structure Spelling where
  whole : Text
  places : Text := []
  power : Option (Bool × Text) := none

namespace Spelling

/-- The whole part has no zero in front, and all parts are digits. -/
structure Valid (s : Spelling) : Prop where
  whole : s.whole.Digits
  lead : s.whole = [CodePoint.ofChar '0'] ∨ ∃ c rest, s.whole = c :: rest ∧ c ≠ '0'
  places : s.places.Digits
  power : ∀ p ∈ s.power, p.2.Digits ∧ p.2 ≠ []

/-- The decimal places behind their point. -/
def fraction (s : Spelling) : Text :=
  if s.places = [] then [] else CodePoint.ofChar '.' :: s.places

/-- The exponent behind its letter. -/
def exponent (s : Spelling) : Text :=
  match s.power with
  | none => []
  | some (negative, digits) =>
    CodePoint.ofChar 'e' :: CodePoint.ofChar (if negative then '-' else '+') :: digits

def text (s : Spelling) : Text := s.whole ++ (s.fraction ++ s.exponent)

/-- The power of ten of the exponent. -/
def scale (s : Spelling) : Int :=
  match s.power with
  | none => 0
  | some (negative, digits) =>
    if negative then -(digits.digitsValue : Int) else digits.digitsValue

/-- The floating point number that is spelled, after a minus sign or without one. -/
def float (s : Spelling) (negative : Bool) : Float :=
  Decimal.toFloat negative (Text.digitsValue (s.whole ++ s.places)) (s.scale - s.places.length)

variable {s : Spelling} {rest : Text}

theorem exponent_head (s : Spelling) (ends : Ends rest) :
    ∀ c ∈ (s.exponent ++ rest).head?, c.isAsciiDigit = false ∧ c ≠ '.' := by
  unfold exponent
  split
  · exact fun c hc => ⟨(ends c hc).1, (ends c hc).2.1⟩
  · intro c hc
    obtain rfl : CodePoint.ofChar 'e' = c := by simpa using hc
    decide

theorem tail_head (s : Spelling) (ends : Ends rest) :
    ∀ c ∈ (s.fraction ++ (s.exponent ++ rest)).head?, c.isAsciiDigit = false := by
  unfold fraction
  split
  · exact fun c hc => (s.exponent_head ends c hc).1
  · intro c hc
    obtain rfl : CodePoint.ofChar '.' = c := by simpa using hc
    decide

theorem fraction_read (valid : s.Valid) (ends : Ends rest) :
    fraction? (s.fraction ++ (s.exponent ++ rest)) =
      if s.places = [] then none else some (s.places, s.exponent ++ rest) := by
  have head := s.exponent_head ends
  unfold fraction
  split
  · rw [List.nil_append]
    cases htail : s.exponent ++ rest with
    | nil => rfl
    | cons c more =>
      have hc : c ≠ '.' := (head c (by simp [htail])).2
      simp [fraction?, hc]
  · rename_i hplaces
    obtain ⟨htake, hdrop⟩ := valid.places.span fun c hc => (head c hc).1
    simp [fraction?, htake, hdrop, hplaces]

theorem exponent_read (valid : s.Valid) (ends : Ends rest) :
    exponent? (s.exponent ++ rest) = s.power.map fun _ => (s.scale, rest) := by
  unfold exponent scale
  cases hpower : s.power with
  | none =>
    cases rest with
    | nil => rfl
    | cons c more =>
      obtain ⟨-, -, he, hE⟩ := ends c rfl
      simp [exponent?, he, hE]
  | some p =>
    obtain ⟨negative, digits⟩ := p
    obtain ⟨hdigits, hne⟩ := valid.power _ hpower
    obtain ⟨htake, hdrop⟩ := hdigits.span fun c hc => (ends c hc).1
    have hplus : CodePoint.ofChar '+' ≠ CodePoint.ofChar '-' := by decide
    cases negative <;> simp [exponent?, htake, hdrop, hne, hplus]

theorem Valid.cons (valid : s.Valid) :
    ∃ c more, s.whole = c :: more ∧ c.isAsciiDigit = true := by
  rcases valid.lead with hzero | ⟨c, more, hcons, -⟩
  · exact ⟨CodePoint.ofChar '0', [], hzero, by decide⟩
  · exact ⟨c, more, hcons, valid.whole c (by simp [hcons])⟩

theorem Valid.wholePart (valid : s.Valid) {tail : Text}
    (stop : ∀ c ∈ tail.head?, c.isAsciiDigit = false) :
    Json.wholePart (s.whole ++ tail) = (s.whole, tail) := by
  rcases valid.lead with hzero | ⟨c, more, hcons, hne⟩
  · rw [hzero]
    rfl
  · obtain ⟨htake, hdrop⟩ := valid.whole.span stop
    rw [hcons, List.cons_append] at htake hdrop ⊢
    rw [Json.wholePart, if_neg hne, htake, hdrop]

/-- A text behind a minus sign, or as it is. -/
def signed (negative : Bool) (t : Text) : Text :=
  if negative then CodePoint.ofChar '-' :: t else t

theorem Valid.minus (valid : s.Valid) (negative : Bool) (tail : Text) :
    Json.minus (signed negative (s.whole ++ tail)) = (negative, s.whole ++ tail) := by
  cases negative with
  | true => rfl
  | false =>
    obtain ⟨c, more, hcons, hdigit⟩ := valid.cons
    have hne : c ≠ '-' := fun h => absurd (h ▸ hdigit) (by decide)
    rw [hcons]
    exact if_neg hne

/-- A number is read up to what follows it. -/
theorem Valid.read (valid : s.Valid) (ends : Ends rest) (negative : Bool) :
    number? (signed negative (s.text ++ rest)) =
      if s.places = [] ∧ s.power = none then
        if Numeral.mostDigits < s.whole.length then
          some (.error ⟨.tooManyDigits s.whole.length, rest.length⟩)
        else
          let n : Int := Text.digitsValue s.whole
          some (.ok (.int (if negative then -n else n), rest))
      else some (.ok (.float (s.float negative), rest)) := by
  have hwhole : s.whole ≠ [] := by
    obtain ⟨c, more, hcons, -⟩ := valid.cons
    simp [hcons]
  have htext : s.text ++ rest = s.whole ++ (s.fraction ++ (s.exponent ++ rest)) := by simp [text]
  unfold number?
  rw [htext, valid.minus]
  dsimp only
  rw [valid.wholePart (s.tail_head ends)]
  dsimp only
  rw [if_neg hwhole, s.fraction_read valid ends]
  by_cases hplaces : s.places = []
  · have hfraction : s.fraction = [] := by simp [fraction, hplaces]
    simp only [hplaces, hfraction, if_true, Option.map_none, Option.getD_none, List.nil_append,
      s.exponent_read valid ends]
    cases hpower : s.power with
    | none =>
      have hexponent : s.exponent = [] := by simp [exponent, hpower]
      simp [hexponent]
    | some p => simp [float, hplaces]
  · simp only [hplaces, if_false, Option.map_some, Option.getD_some, s.exponent_read valid ends]
    cases hpower : s.power with
    | none =>
      have hexponent : s.exponent = [] := by simp [exponent, hpower]
      have hscale : s.scale = 0 := by simp [scale, hpower]
      simp [hexponent, float, hscale]
    | some p => simp [float]

end Spelling

end Json

end TextAdventure
