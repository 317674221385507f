import TextAdventure.Proofs.Json.Number
import TextAdventure.Proofs.Json.Quoted

/-! Compact JSON text is read as the value that it was made of, but for what texts cannot hold apart:
pairs of surrogates are joined, floating point numbers are read from their digits, and of the fields
of one name the last one counts. -/

namespace TextAdventure.Json

/-- A statement about all values follows from those about the parts of lists and of objects. -/
@[elab_as_elim]
theorem induction {P : Json → Prop} (null : P .null) (bool : ∀ b, P (.bool b))
    (int : ∀ n, P (.int n)) (float : ∀ x, P (.float x)) (text : ∀ t, P (.text t))
    (list : ∀ items, (∀ v ∈ items, P v) → P (.list items))
    (object : ∀ fields, (∀ f ∈ fields, P f.2) → P (.object fields)) (v : Json) : P v :=
  match v with
  | .null => null
  | .bool b => bool b
  | .int n => int n
  | .float x => float x
  | .text t => text t
  | .list items => list items fun v _ => induction null bool int float text list object v
  | .object fields => object fields fun f _ => induction null bool int float text list object f.2
termination_by v
decreasing_by
  · rename_i h
    have := List.sizeOf_lt_of_mem h
    simp
    omega
  · rename_i h
    have := List.sizeOf_lt_of_mem h
    obtain ⟨k, v⟩ := f
    simp at this ⊢
    omega

mutual

/-- What the compact text of a value is read as. -/
def reread : Json → Json
  | null => .null
  | bool b => .bool b
  | int n => .int n
  | float x => .float (rereadFloat x)
  | text t => .text t.paired
  | list items => .list (rereadItems items)
  | object fields => .object (rereadFields [] fields)

def rereadItems : List Json → List Json
  | [] => []
  | v :: rest => reread v :: rereadItems rest

/-- The fields that are read after those `done`. -/
def rereadFields (done : Fields) : List (Text × Json) → Fields
  | [] => done
  | (k, v) :: rest => rereadFields (Fields.set k.paired (reread v) done) rest

end

/-! ### Plain text -/

theorem plain_hexDigits (n : Nat) : Plain (hexDigits n) := by
  have digit : ∀ n < 16, Plain [hexDigit n] := by decide
  intro c hc
  simp only [hexDigits, List.mem_cons, List.not_mem_nil, or_false] at hc
  rcases hc with rfl | rfl | rfl | rfl <;>
    exact digit _ (Nat.mod_lt _ (by decide)) _ (List.mem_singleton.2 rfl)

theorem plain_escapeUnit (n : Nat) : Plain (escapeUnit n) :=
  (by decide : Plain ("\\u" : Text)).append (plain_hexDigits n)

theorem plain_escape (c : CodePoint) : Plain (escape c) := by
  unfold escape
  split_ifs with quote backslash feed carriage tab back form printed small
  · decide
  · decide
  · decide
  · decide
  · decide
  · decide
  · decide
  · intro d hd
    rw [List.mem_singleton.1 hd]
    exact printed
  · exact plain_escapeUnit _
  · exact (plain_escapeUnit _).append (plain_escapeUnit _)

theorem plain_quote (t : Text) : Plain (quote t) := by
  have mark : Plain ("\"" : Text) := by decide
  have body : Plain (t.flatMap escape) := by
    intro c hc
    obtain ⟨d, -, hd⟩ := List.mem_flatMap.1 hc
    exact plain_escape d c hd
  exact (mark.append body).append mark

theorem plain_compactItems {items : List Json} (each : ∀ v ∈ items, Plain (compact v)) :
    Plain (compactItems items) := by
  induction items with
  | nil => rw [compactItems]; decide
  | cons v rest ih =>
    have comma : Plain ("," : Text) := by decide
    rw [compactItems]
    exact (comma.append (each v List.mem_cons_self)).append
      (ih fun u hu => each u (List.mem_cons_of_mem _ hu))

theorem plain_compactFields {fields : Fields} (each : ∀ f ∈ fields, Plain (compact f.2)) :
    Plain (compactFields fields) := by
  induction fields with
  | nil => rw [compactFields]; decide
  | cons f rest ih =>
    obtain ⟨k, v⟩ := f
    have comma : Plain ("," : Text) := by decide
    have colon : Plain (":" : Text) := by decide
    rw [compactFields]
    exact (((comma.append (plain_quote k)).append colon).append (each _ List.mem_cons_self)).append
      (ih fun u hu => each u (List.mem_cons_of_mem _ hu))

/-- Compact text is printed ASCII. -/
theorem plain_compact (v : Json) : Plain (compact v) := by
  induction v using Json.induction with
  | null => rw [compact]; decide
  | bool b => cases b <;> rw [compact] <;> decide
  | int n => rw [compact]; exact plain_ofInt n
  | float x => exact plain_float x
  | text t => rw [compact]; exact plain_quote t
  | list items each =>
    cases items with
    | nil => rw [compact]; decide
    | cons v rest =>
      have bracket : Plain ("[" : Text) := by decide
      rw [compact]
      exact (bracket.append (each v List.mem_cons_self)).append
        (plain_compactItems fun u hu => each u (List.mem_cons_of_mem _ hu))
  | object fields each =>
    cases fields with
    | nil => rw [compact]; decide
    | cons f rest =>
      obtain ⟨k, v⟩ := f
      have brace : Plain ("\x7b" : Text) := by decide
      have colon : Plain (":" : Text) := by decide
      rw [compact]
      exact (((brace.append (plain_quote k)).append colon).append
        (each _ List.mem_cons_self)).append
        (plain_compactFields fun u hu => each u (List.mem_cons_of_mem _ hu))

/-! ### Reading -/

theorem isSpace_lt {c : CodePoint} (h : isSpace c = true) : c.val ≤ 32 := by
  simp only [isSpace, Bool.or_eq_true, beq_iff_eq] at h
  omega

theorem Escaped.ne_nil {c : CodePoint} {t : Text} (h : Escaped c t) : t ≠ [] := by
  cases h <;> simp [escapeUnit_eq]

theorem skipSpaces_cons {c : CodePoint} (h : isSpace c = false) (t : Text) :
    skipSpaces (c :: t) = c :: t := by
  simp [skipSpaces, h]

/-- What the text of a value begins with. -/
def Opens (c : CodePoint) : Prop := c.isAsciiDigit = true ∨ c ∈ ("-ntfNI\"[\x7b" : Text)

theorem Opens.not_space {c : CodePoint} (h : Opens c) : isSpace c = false := by
  rcases h with h | h
  · refine Bool.eq_false_iff.2 fun hs => ?_
    have := isSpace_lt hs
    simp only [CodePoint.isAsciiDigit, Bool.and_eq_true, decide_eq_true_eq] at h
    omega
  · have all : ∀ c ∈ ("-ntfNI\"[\x7b" : Text), isSpace c = false := by decide
    exact all c h

theorem Opens.not_closing {c : CodePoint} (h : Opens c) : c ≠ ']' := by
  rintro rfl
  exact absurd h (by decide : ¬(_ ∨ _))

theorem opens_compact (v : Json) : ∃ c more, compact v = c :: more ∧ Opens c := by
  have ofMem {c : CodePoint} {more : Text} (h : c ∈ ("-ntfNI\"[\x7b" : Text)) :
      ∃ d rest, c :: more = d :: rest ∧ Opens d := ⟨c, more, rfl, .inr h⟩
  cases v with
  | null => rw [compact]; exact ofMem (by decide)
  | bool b => cases b <;> rw [compact] <;> exact ofMem (by decide)
  | int n =>
    rw [compact]
    cases n with
    | ofNat n =>
      obtain ⟨c, more, hcons⟩ := List.exists_cons_of_ne_nil (Text.ofNat_ne_nil n)
      exact ⟨c, more, hcons, .inl (Text.digits_ofNat n c (by simp [hcons]))⟩
    | negSucc n => exact ofMem (by decide)
  | float x =>
    have hread := atom_float x Ends.nil
    rw [List.append_nil] at hread
    cases hx : compact (.float x) with
    | nil =>
      rw [hx] at hread
      exact absurd hread (by simp [atom?, literals, Text.ofString, number?, minus, wholePart])
    | cons c more =>
      rw [hx] at hread
      refine ⟨c, more, rfl, (atom_head hread).imp_right fun h => ?_⟩
      have all : ∀ c ∈ ("-ntfNI" : Text), c ∈ ("-ntfNI\"[\x7b" : Text) := by decide
      exact all c h
  | text t => rw [compact]; exact ofMem (by decide)
  | list items => cases items <;> rw [compact] <;> exact ofMem (by decide)
  | object fields => cases fields <;> rw [compact] <;> exact ofMem (by decide)

/-- A value that is a number or a word. -/
theorem value_atom {t : Text} {step : Step Json} (h : atom? t = some step) (fuel : Nat) :
    value (fuel + 1) t = step := by
  cases t with
  | nil => exact absurd h (by simp [atom?, literals, Text.ofString, number?, minus, wholePart])
  | cons c rest =>
    have ne (ch : Char) (hdigit : (CodePoint.ofChar ch).isAsciiDigit = false)
        (hword : CodePoint.ofChar ch ∉ ("-ntfNI" : Text)) : c ≠ ch := by
      rintro rfl
      rcases atom_head h with hc | hc
      · exact Bool.false_ne_true (hdigit.symm.trans hc)
      · exact hword hc
    rw [value, if_neg (ne '"' (by decide) (by decide)), if_neg (ne '{' (by decide) (by decide)),
      if_neg (ne '[' (by decide) (by decide)), h]

theorem length_le_escape (t : Text) : t.length ≤ (t.flatMap escape).length := by
  induction t with
  | nil => exact Nat.le_refl _
  | cons c rest ih =>
    have hpos := List.length_pos_iff.2 (escaped c).ne_nil
    rw [List.flatMap_cons, List.length_append, List.length_cons]
    omega

theorem quote_eq (t : Text) : quote t =
    CodePoint.ofChar '"' :: (t.flatMap escape ++ [CodePoint.ofChar '"']) := rfl

theorem length_quote (t : Text) : t.length + 2 ≤ (quote t).length := by
  have hle := length_le_escape t
  rw [quote_eq, List.length_cons, List.length_append, List.length_singleton]
  omega

/-- A text is read with its pairs joined. -/
theorem value_quote (t rest : Text) {fuel : Nat} (h : t.length < fuel) :
    value (fuel + 1) (quote t ++ rest) = .ok (.text t.paired, rest) := by
  rw [quote_eq, List.cons_append, value, if_pos rfl, List.append_assoc, List.singleton_append,
    quoted_escape _ _ _ h]
  rfl

/-- The compact text of a value is read as far as it goes. -/
def ReadsBack (v : Json) : Prop :=
  ∀ (fuel : Nat) (rest : Text), isWritable v = true → (compact v).length < fuel → Ends rest →
    value fuel (compact v ++ rest) = .ok (reread v, rest)

theorem Ends.cons {c : CodePoint} (h : c.isAsciiDigit = false ∧ c ≠ '.' ∧ c ≠ 'e' ∧ c ≠ 'E')
    (t : Text) : Ends (c :: t) := by
  intro d hd
  obtain rfl : c = d := by simpa using hd
  exact h

theorem Opens.skipSpaces (v : Json) (rest : Text) :
    skipSpaces (compact v ++ rest) = compact v ++ rest := by
  obtain ⟨c, more, hcons, opens⟩ := opens_compact v
  rw [hcons, List.cons_append, skipSpaces_cons opens.not_space]

theorem areWritable_cons {v : Json} {more : List Json} :
    areWritable (v :: more) = true ↔ isWritable v = true ∧ areWritable more = true := by
  rw [areWritable, Bool.and_eq_true]

theorem haveWritable_cons {k : Text} {v : Json} {more : Fields} :
    haveWritable ((k, v) :: more) = true ↔ isWritable v = true ∧ haveWritable more = true := by
  rw [haveWritable, Bool.and_eq_true]

theorem compactItems_nil (rest : Text) : compactItems [] ++ rest = CodePoint.ofChar ']' :: rest := by
  rw [compactItems]
  rfl

theorem compactItems_cons (v : Json) (more : List Json) (rest : Text) :
    compactItems (v :: more) ++ rest =
      CodePoint.ofChar ',' :: (compact v ++ (compactItems more ++ rest)) := by
  rw [compactItems, List.append_assoc, List.append_assoc]
  rfl

theorem items_compact {v : Json} {more : List Json} (each : ∀ u ∈ v :: more, ReadsBack u)
    (writable : areWritable (v :: more) = true) {fuel : Nat}
    (h : (compact v ++ compactItems more).length < fuel) (done : List Json) (rest : Text) :
    items fuel done (compact v ++ (compactItems more ++ rest)) =
      .ok (.list (done.reverse ++ rereadItems (v :: more)), rest) := by
  induction more generalizing v fuel done with
  | nil =>
    obtain ⟨fuel, rfl⟩ : ∃ n, fuel = n + 1 := ⟨fuel - 1, by omega⟩
    have hlength : (compact v).length < fuel := by
      simpa [compactItems, Text.ofString] using h
    rw [compactItems_nil, items, each v List.mem_cons_self fuel _ (areWritable_cons.1 writable).1
      hlength (.cons (by decide) _)]
    dsimp only
    rw [skipSpaces_cons (by decide)]
    dsimp only
    rw [if_pos rfl]
    simp [rereadItems]
  | cons u more ih =>
    obtain ⟨fuel, rfl⟩ : ∃ n, fuel = n + 1 := ⟨fuel - 1, by omega⟩
    have hlength : (compact v).length + (1 + (compact u ++ compactItems more).length) < fuel + 1 := by
      have hcons := compactItems_cons u more []
      simp only [List.append_nil] at hcons
      rw [hcons, List.length_append, List.length_cons] at h
      omega
    rw [compactItems_cons, items, each v List.mem_cons_self fuel _ (areWritable_cons.1 writable).1
      (by omega) (.cons (by decide) _)]
    dsimp only
    rw [skipSpaces_cons (by decide)]
    dsimp only
    rw [if_neg (by decide), if_pos rfl, Opens.skipSpaces,
      ih (fun w hw => each w (List.mem_cons_of_mem _ hw)) (areWritable_cons.1 writable).2 (by omega)]
    simp [rereadItems]

/-- One field is read, and then what stands behind it. -/
theorem members_field {k : Text} {v : Json} (reads : ReadsBack v) (writable : isWritable v = true)
    {fuel : Nat} (hk : k.length < fuel) (hv : (compact v).length < fuel) {after tail : Text}
    (hafter : skipSpaces after = compact v ++ tail) (ends : Ends tail) (done : Fields) :
    members (fuel + 1) done (quote k ++ CodePoint.ofChar ':' :: after) =
      match skipSpaces tail with
      | [] => .error ⟨.comma, 0⟩
      | d :: after =>
        if d = '}' then .ok (.object (Fields.set k.paired (reread v) done), after)
        else if d = ',' then members fuel (Fields.set k.paired (reread v) done) (skipSpaces after)
        else .error ⟨.comma, after.length + 1⟩ := by
  rw [quote_eq, List.cons_append, members, if_neg (by simp), List.append_assoc,
    List.singleton_append, quoted_escape _ _ _ hk]
  dsimp only
  rw [skipSpaces_cons (by decide)]
  dsimp only
  rw [if_neg (by simp), hafter, reads fuel tail writable hv ends]
  rfl

theorem compactFields_nil (rest : Text) :
    compactFields [] ++ rest = CodePoint.ofChar '}' :: rest := by
  rw [compactFields]
  rfl

theorem compactFields_cons (k : Text) (v : Json) (more : Fields) (rest : Text) :
    compactFields ((k, v) :: more) ++ rest = CodePoint.ofChar ',' ::
      (quote k ++ CodePoint.ofChar ':' :: (compact v ++ (compactFields more ++ rest))) := by
  rw [compactFields]
  simp only [List.append_assoc]
  rfl

theorem skipSpaces_quote (k rest : Text) : skipSpaces (quote k ++ rest) = quote k ++ rest := by
  rw [quote_eq, List.cons_append, skipSpaces_cons (by decide)]

theorem length_compactFields (k : Text) (v : Json) (more : Fields) :
    (compactFields ((k, v) :: more)).length =
      (quote k).length + (compact v).length + (compactFields more).length + 2 := by
  have hcons := compactFields_cons k v more []
  simp only [List.append_nil] at hcons
  rw [hcons]
  simp only [List.length_append, List.length_cons]
  omega

theorem members_compact {k : Text} {v : Json} {more : Fields}
    (each : ∀ f ∈ (k, v) :: more, ReadsBack f.2) (writable : haveWritable ((k, v) :: more) = true)
    {fuel : Nat} (h : (quote k ++ compact v ++ compactFields more).length < fuel) (done : Fields)
    (rest : Text) :
    members fuel done
      (quote k ++ CodePoint.ofChar ':' :: (compact v ++ (compactFields more ++ rest))) =
      .ok (.object (rereadFields done ((k, v) :: more)), rest) := by
  induction more generalizing k v fuel done with
  | nil =>
    obtain ⟨fuel, rfl⟩ : ∃ n, fuel = n + 1 := ⟨fuel - 1, by omega⟩
    have reads : ReadsBack v := each (k, v) List.mem_cons_self
    have hk := length_quote k
    simp only [List.length_append] at h
    rw [compactFields_nil, members_field reads (haveWritable_cons.1 writable).1 (by omega)
      (by omega) (Opens.skipSpaces v _) (.cons (by decide) _), skipSpaces_cons (by decide)]
    dsimp only
    rw [if_pos rfl]
    simp [rereadFields]
  | cons f more ih =>
    obtain ⟨l, u⟩ := f
    obtain ⟨fuel, rfl⟩ : ∃ n, fuel = n + 1 := ⟨fuel - 1, by omega⟩
    have reads : ReadsBack v := each (k, v) List.mem_cons_self
    have hk := length_quote k
    simp only [List.length_append, length_compactFields] at h
    rw [compactFields_cons, members_field reads (haveWritable_cons.1 writable).1 (by omega)
      (by omega) (Opens.skipSpaces v _) (.cons (by decide) _), skipSpaces_cons (by decide)]
    dsimp only
    rw [if_neg (by decide), if_pos rfl, skipSpaces_quote,
      ih (fun g hg => each g (List.mem_cons_of_mem _ hg)) (haveWritable_cons.1 writable).2
        (by simp only [List.length_append]; omega)]
    simp [rereadFields]

/-! ### Values -/

/-- Fuel for more than the length of the text is fuel for a first step. -/
theorem ReadsBack.of_succ {v : Json}
    (h : ∀ (fuel : Nat) (rest : Text), isWritable v = true → (compact v).length ≤ fuel → Ends rest →
      value (fuel + 1) (compact v ++ rest) = .ok (reread v, rest)) : ReadsBack v := by
  intro fuel rest writable hlength ends
  obtain ⟨fuel, rfl⟩ : ∃ n, fuel = n + 1 := ⟨fuel - 1, by omega⟩
  exact h fuel rest writable (by omega) ends

theorem ReadsBack.of_atom {v : Json} (h : ∀ rest, isWritable v = true → Ends rest →
    atom? (compact v ++ rest) = some (.ok (reread v, rest))) : ReadsBack v :=
  .of_succ fun fuel rest writable _ ends => value_atom (h rest writable ends) fuel

theorem ReadsBack.nil : ReadsBack (.list []) := by
  refine .of_succ fun fuel rest _ _ _ => ?_
  have htext : compact (.list []) ++ rest =
      CodePoint.ofChar '[' :: CodePoint.ofChar ']' :: rest := by rw [compact]; rfl
  rw [htext, value, if_neg (by decide), if_neg (by decide), if_pos rfl, skipSpaces_cons (by decide)]
  dsimp only
  rw [if_pos rfl, reread, rereadItems]

theorem ReadsBack.cons {v : Json} {more : List Json} (each : ∀ u ∈ v :: more, ReadsBack u) :
    ReadsBack (.list (v :: more)) := by
  refine .of_succ fun fuel rest writable hfuel _ => ?_
  obtain ⟨c, tail, hcons, opens⟩ := opens_compact v
  have htext : compact (.list (v :: more)) ++ rest =
      CodePoint.ofChar '[' :: (compact v ++ (compactItems more ++ rest)) := by
    rw [compact, List.append_assoc, List.append_assoc]
    rfl
  have hlength : (compact v ++ compactItems more).length < fuel := by
    have happend := congrArg List.length htext
    simp only [List.length_append, List.length_cons] at happend ⊢
    omega
  rw [isWritable] at writable
  have hitems := items_compact each writable hlength [] rest
  rw [htext, value, if_neg (by decide), if_neg (by decide), if_pos rfl, Opens.skipSpaces]
  -- What an item begins with does not close the list.
  rw [hcons, List.cons_append] at hitems ⊢
  dsimp only
  rw [if_neg opens.not_closing, hitems, reread]
  rfl

theorem ReadsBack.noFields : ReadsBack (.object []) := by
  refine .of_succ fun fuel rest _ _ _ => ?_
  have htext : compact (.object []) ++ rest =
      CodePoint.ofChar '{' :: CodePoint.ofChar '}' :: rest := by rw [compact]; rfl
  rw [htext, value, if_neg (by decide), if_pos rfl, skipSpaces_cons (by decide)]
  dsimp only
  rw [if_pos rfl, reread, rereadFields]

theorem ReadsBack.fields {k : Text} {v : Json} {more : Fields}
    (each : ∀ f ∈ (k, v) :: more, ReadsBack f.2) : ReadsBack (.object ((k, v) :: more)) := by
  refine .of_succ fun fuel rest writable hfuel _ => ?_
  have htext : compact (.object ((k, v) :: more)) ++ rest = CodePoint.ofChar '{' ::
      (quote k ++ CodePoint.ofChar ':' :: (compact v ++ (compactFields more ++ rest))) := by
    rw [compact]
    simp only [List.append_assoc]
    rfl
  have hlength : (quote k ++ compact v ++ compactFields more).length < fuel := by
    have happend := congrArg List.length htext
    simp only [List.length_append, List.length_cons] at happend ⊢
    omega
  rw [isWritable] at writable
  have hmembers := members_compact each writable hlength [] rest
  rw [htext, value, if_neg (by decide), if_pos rfl, skipSpaces_quote]
  rw [quote_eq, List.cons_append] at hmembers ⊢
  dsimp only
  rw [if_neg (by decide), hmembers, reread]

theorem readsBack (v : Json) : ReadsBack v := by
  induction v using Json.induction with
  | null => exact .of_atom fun rest _ _ => by rw [compact, reread]; rfl
  | bool b => exact .of_atom fun rest _ _ => by cases b <;> rw [compact, reread] <;> rfl
  | int n =>
    refine .of_atom fun rest writable ends => ?_
    rw [compact, reread]
    exact atom_int ends (by simpa [isWritable] using writable)
  | float x =>
    refine .of_atom fun rest _ ends => ?_
    rw [reread]
    exact atom_float x ends
  | text t =>
    refine .of_succ fun fuel rest _ hfuel _ => ?_
    have hlength := length_quote t
    rw [compact] at hfuel
    rw [compact, reread]
    exact value_quote t rest (by omega)
  | list items each =>
    cases items with
    | nil => exact .nil
    | cons v more => exact .cons each
  | object fields each =>
    cases fields with
    | nil => exact .noFields
    | cons f more => exact .fields each

end TextAdventure.Json
