import TextAdventure.Proofs.Json.Reread
import TextAdventure.Store.Folder

/-! Whole JSON texts, compact or with one field to a line, as they are read again, also from a
file. -/

namespace TextAdventure.Json

/-- Where the value of a whole text ends, nothing but spaces may follow. -/
theorem read_of_value {t r : Text} {v : Json} (bom : t.head?.map (·.val) ≠ some 0xFEFF)
    (h : value (2 * t.length + 2) (skipSpaces t) = .ok (v, r)) (spaces : skipSpaces r = []) :
    read t = .ok v := by
  unfold read whole
  rw [if_neg bom, h]
  dsimp only
  rw [spaces]
  rfl

theorem Plain.no_mark {t : Text} (h : Plain t) : t.head?.map (·.val) ≠ some 0xFEFF := by
  cases t with
  | nil => simp
  | cons c rest =>
    have hc := h c List.mem_cons_self
    simp only [List.head?_cons, Option.map_some, ne_eq, Option.some.injEq]
    omega

theorem read_compact {v : Json} (writable : isWritable v = true) :
    read (compact v) = .ok (reread v) := by
  have spaces := Opens.skipSpaces v []
  have reads := readsBack v (2 * (compact v).length + 2) [] writable (by omega) Ends.nil
  rw [List.append_nil] at spaces reads
  refine read_of_value (r := []) (plain_compact v).no_mark ?_ rfl
  rw [spaces, reads]

/-! ### One field to a line -/

/-- A field on its line. -/
def line (f : Text × Json) : Text := "  " ++ quote f.1 ++ ": " ++ compact f.2

/-- What stands after the value of a field, with the closing brace. -/
def linesAfter : Fields → Text
  | [] => [CodePoint.ofChar '\n', CodePoint.ofChar '}']
  | f :: more => CodePoint.ofChar ',' :: CodePoint.ofChar '\n' :: (line f ++ linesAfter more)

theorem onLines_cons (f : Text × Json) (more : Fields) : onLines (f :: more) =
    CodePoint.ofChar '{' :: CodePoint.ofChar '\n' :: (line f ++ linesAfter more) := by
  have joined (f : Text × Json) : Text.join ",\n" ((f :: more).map line) ++ ("\n\x7d" : Text) =
      line f ++ linesAfter more := by
    induction more generalizing f with
    | nil => simp [Text.join, List.intercalate, linesAfter, Text.ofString]
    | cons g more ih =>
      rw [linesAfter, ← ih g]
      simp [Text.join, List.intercalate, Text.ofString]
  rw [← joined]
  show ("\x7b\n" : Text) ++ Text.join ",\n" ((f :: more).map line) ++ ("\n\x7d" : Text) = _
  rw [List.append_assoc]
  rfl

theorem line_append (k : Text) (v : Json) (rest : Text) : line (k, v) ++ rest =
    CodePoint.ofChar ' ' :: CodePoint.ofChar ' ' ::
      (quote k ++ CodePoint.ofChar ':' :: CodePoint.ofChar ' ' :: (compact v ++ rest)) := by
  unfold line
  simp only [List.append_assoc]
  rfl

theorem skipSpaces_space {c : CodePoint} (h : isSpace c = true) (t : Text) :
    skipSpaces (c :: t) = skipSpaces t := by
  simp [skipSpaces, h]

theorem skipSpaces_line (k : Text) (v : Json) (rest : Text) :
    skipSpaces (CodePoint.ofChar '\n' :: (line (k, v) ++ rest)) =
      quote k ++ CodePoint.ofChar ':' :: CodePoint.ofChar ' ' :: (compact v ++ rest) := by
  rw [line_append, skipSpaces_space (by decide), skipSpaces_space (by decide),
    skipSpaces_space (by decide), skipSpaces_quote]

theorem skipSpaces_value (v : Json) (rest : Text) :
    skipSpaces (CodePoint.ofChar ' ' :: (compact v ++ rest)) = compact v ++ rest := by
  rw [skipSpaces_space (by decide), Opens.skipSpaces]

theorem members_lines {k : Text} {v : Json} {more : Fields}
    (writable : haveWritable ((k, v) :: more) = true) {fuel : Nat}
    (h : (line (k, v) ++ linesAfter more).length < fuel) (done : Fields) :
    members fuel done (quote k ++ CodePoint.ofChar ':' :: CodePoint.ofChar ' ' ::
        (compact v ++ linesAfter more)) =
      .ok (.object (rereadFields done ((k, v) :: more)), []) := by
  induction more generalizing k v fuel done with
  | nil =>
    obtain ⟨fuel, rfl⟩ : ∃ n, fuel = n + 1 := ⟨fuel - 1, by omega⟩
    have hk := length_quote k
    rw [line_append] at h
    simp only [List.length_append, List.length_cons] at h
    rw [linesAfter, members_field (readsBack v) (haveWritable_cons.1 writable).1 (by omega)
      (by omega) (skipSpaces_value v _) (.cons (by decide) _), skipSpaces_space (by decide),
      skipSpaces_cons (by decide)]
    dsimp only
    rw [if_pos rfl]
    simp [rereadFields]
  | cons g more ih =>
    obtain ⟨l, u⟩ := g
    obtain ⟨fuel, rfl⟩ : ∃ n, fuel = n + 1 := ⟨fuel - 1, by omega⟩
    have hk := length_quote k
    rw [line_append, linesAfter] at h
    simp only [List.length_append, List.length_cons] at h
    rw [linesAfter, members_field (readsBack v) (haveWritable_cons.1 writable).1 (by omega)
      (by omega) (skipSpaces_value v _) (.cons (by decide) _), skipSpaces_cons (by decide)]
    dsimp only
    rw [if_neg (by decide), if_pos rfl, skipSpaces_line,
      ih (haveWritable_cons.1 writable).2 (by simp only [List.length_append]; omega)]
    simp [rereadFields]

/-- An object with one field to a line is read like its compact text. -/
theorem read_onLines {f : Text × Json} {more : Fields} (writable : haveWritable (f :: more) = true) :
    read (onLines (f :: more)) = .ok (.object (rereadFields [] (f :: more))) := by
  obtain ⟨k, v⟩ := f
  have bom : (onLines ((k, v) :: more)).head?.map (·.val) ≠ some 0xFEFF := by
    rw [onLines_cons, List.head?_cons]
    decide
  have hlength : (line (k, v) ++ linesAfter more).length <
      2 * (onLines ((k, v) :: more)).length + 1 := by
    rw [onLines_cons, List.length_cons, List.length_cons]
    omega
  have hmembers := members_lines writable hlength []
  refine read_of_value (r := []) bom ?_ rfl
  rw [onLines_cons, skipSpaces_cons (by decide), value, if_neg (by decide), if_pos rfl,
    skipSpaces_line]
  rw [onLines_cons] at hmembers
  rw [quote_eq, List.cons_append] at hmembers ⊢
  dsimp only
  rw [if_neg (by decide), hmembers]

/-! ### In files -/

/-- Text without carriage returns is read from a file as it was written. -/
theorem unixLines_of_none {t : Text} (h : CodePoint.ofChar '\r' ∉ t) :
    Directory.unixLines t = t := by
  fun_induction Directory.unixLines t with
  | case1 => rfl
  | case2 c =>
    rw [if_neg fun hc => h (by simp [hc])]
  | case3 rest ih => exact absurd List.mem_cons_self h
  | case4 d rest _ ih => exact absurd List.mem_cons_self h
  | case5 c d rest _ ih => rw [ih fun hm => h (List.mem_cons_of_mem _ hm)]

theorem Plain.no_return {t : Text} (h : Plain t) : CodePoint.ofChar '\r' ∉ t := by
  intro hm
  exact absurd (h _ hm) (by decide)

theorem plain_line (f : Text × Json) : Plain (line f) := by
  have indent : Plain ("  " : Text) := by decide
  have colon : Plain (": " : Text) := by decide
  exact ((indent.append (plain_quote _)).append colon).append (plain_compact _)

theorem unixLines_onLines (f : Text × Json) (more : Fields) :
    Directory.unixLines (onLines (f :: more)) = onLines (f :: more) := by
  have after : CodePoint.ofChar '\r' ∉ linesAfter more := by
    induction more with
    | nil => decide
    | cons g more ih =>
      rw [linesAfter]
      simp only [List.mem_cons, List.mem_append, not_or]
      exact ⟨by decide, by decide, (plain_line g).no_return, ih⟩
  refine unixLines_of_none ?_
  rw [onLines_cons]
  simp only [List.mem_cons, List.mem_append, not_or]
  exact ⟨by decide, by decide, (plain_line f).no_return, after⟩

end TextAdventure.Json
