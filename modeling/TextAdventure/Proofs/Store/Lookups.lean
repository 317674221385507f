import TextAdventure.Proofs.Store.Copies

/-! What lookups show. A lookup sees nothing of a store but the texts of keys in languages, and in a
language it sees only the copy that is in it. Several keys looked up at once show what each of them
shows alone, and the placeholder that is kept for those without copy is the one that all of them
have. A new text is shown for its key alone, unless this is the key of the placeholder. -/

namespace TextAdventure

namespace Copies

variable {s s' : Copies} {key code : Text}

/-- The text that a lookup shows for a key in a language. -/
def text? (s : Copies) (key code : Text) : Option Text := (s.find? key code).map (·.2.text)

theorem text?_eq_none (h : ∀ r ∈ s.rows, r.2.key ≠ key) (code : Text) : s.text? key code = none := by
  have absent : s.find? key code = none := List.find?_eq_none.2 fun r hr => by simp [h r hr]
  rw [text?, absent]
  rfl

theorem text?_eq_none_iff (tidy : s.Tidy) : s.text? key code = none ↔ ¬s.Has key code.lower := by
  refine ⟨fun h => find?_eq_none (Option.map_eq_none_iff.1 h), fun absent => ?_⟩
  cases found : s.find? key code with
  | none => rw [text?, found, Option.map_none]
  | some r =>
    obtain ⟨stored, same⟩ := find?_eq_some tidy found
    exact absurd ⟨r.1, r.2, stored, same⟩ absent

/-- Copy is found among what is in its language. -/
theorem find?_eq_inLanguage (s : Copies) (key language : Text) :
    s.find? key language = (s.inLanguage language).find? fun r => r.2.key = key := by
  simp only [find?, inLanguage, Table.select, Rows.select, List.find?_filter, decide_eq_true_eq,
    and_comm]

theorem text?_of_inLanguage (same : s'.inLanguage code = s.inLanguage code) (key : Text) :
    s'.text? key code = s.text? key code := by
  rw [text?, text?, find?_eq_inLanguage, find?_eq_inLanguage, same]

/-- A record that changes is found where it was found before, if it still is what is looked for. -/
theorem find?_insert {rows : Rows Copy} (ascending : rows.Ascending) {n : Int} {c d : Copy}
    (found : rows.get? n = some c) {p : Int × Copy → Bool} (same : p (n, d) = p (n, c)) :
    (rows.insert n d).find? p = (rows.find? p).map fun r => if r.1 = n then (n, d) else r := by
  induction rows with
  | nil => exact nomatch found
  | cons r rest ih =>
    obtain ⟨k, e⟩ := r
    obtain ⟨later, ascending⟩ := List.pairwise_cons.1 ascending
    rw [Rows.get?] at found
    split at found
    · rename_i here
      obtain rfl := Option.some.inj found
      subst here
      have others : (rest.find? p).map (fun r => if r.1 = k then (k, d) else r) = rest.find? p := by
        cases behind : rest.find? p with
        | none => rfl
        | some r =>
          have lt := later r (List.mem_of_find?_eq_some behind)
          exact congrArg some (if_neg (Int.ne_of_gt lt))
      rw [Rows.insert, if_neg (Int.lt_irrefl k), if_pos rfl, List.find?_cons, List.find?_cons, same]
      cases p (k, e) with
      | true => simp
      | false => exact others.symm
    · rename_i ne
      have lt := later _ (Rows.mem_of_get? found)
      dsimp only at lt
      rw [Rows.insert, if_neg (by omega), if_neg (Ne.symm ne), List.find?_cons, List.find?_cons,
        ih ascending found]
      cases p (k, e) with
      | true => simp [ne]
      | false => rfl

/-- Copy that is found is shown with its new text, and other copy as before. -/
theorem text?_put (tidy : s.Tidy) {n : Int} {c : Copy} {language text : Text}
    (found : s.find? key language = some (n, c)) (other code : Text) :
    Copies.text? (s.put n { c with text }) other code =
      if other = key ∧ code.lower = language.lower then some text else s.text? other code := by
  obtain ⟨stored, hkey, hlanguage⟩ := find?_eq_some tidy found
  have after : Copies.find? (s.put n { c with text }) other code =
      (s.find? other code).map fun r => if r.1 = n then (n, { c with text }) else r :=
    find?_insert tidy.ascending stored rfl
  rw [text?, after, text?]
  split
  · rename_i here
    have same : s.find? other code = some (n, c) := by
      rw [← found, find?, find?, here.1, here.2]
    simp [same]
  · rename_i elsewhere
    cases hfind : s.find? other code with
    | none => rfl
    | some r =>
      -- Copy that is found elsewhere is another one.
      have ne : r.1 ≠ n := by
        rintro rfl
        obtain ⟨stored', hkey', hlanguage'⟩ := find?_eq_some tidy hfind
        obtain rfl := Option.some.inj (stored'.symm.trans stored)
        exact elsewhere ⟨hkey'.symm.trans hkey, hlanguage'.symm.trans hlanguage⟩
      simp [ne]

end Copies

namespace Lookup

variable {l : Lookup} {s s' : Copies} {key code spelling : Text}

theorem placeholder_eq (l : Lookup) (s : Copies) (language : Option Text) :
    l.placeholder s language = (s.text? emptyCopyKey (l.code language)).getD l.emptyCopyText := by
  unfold placeholder Copies.text?
  cases s.find? emptyCopyKey (l.code language) <;> rfl

theorem resolve_eq (l : Lookup) (s : Copies) (key : Text) (language : Option Text) :
    l.resolve s key language =
      (s.text? key (l.code language)).getD (l.placeholder s (some (l.code language))) := by
  unfold resolve Copies.text?
  cases s.find? key (l.code language) <;> rfl

theorem resolve_of_text? {code text : Text} (coded : code.Coded)
    (h : s.text? key code = some text) : l.resolve s key (some code) = text := by
  rw [resolve_eq, code_coded coded, h]
  rfl

theorem resolve_congr (same : ∀ code, s'.text? key code = s.text? key code)
    (placeholders : ∀ code, s'.text? emptyCopyKey code = s.text? emptyCopyKey code)
    (language : Option Text) : l.resolve s' key language = l.resolve s key language := by
  simp only [resolve_eq, placeholder_eq, same, placeholders]

/-! ### Several keys at once -/

/-- A text that is kept is the placeholder of a language. -/
def Keeps (l : Lookup) (s : Copies) (language held : Option Text) : Prop :=
  ∀ text, held = some text → text = l.placeholder s (some (l.code language))

theorem keeps_none (l : Lookup) (s : Copies) (language : Option Text) : l.Keeps s language none :=
  fun _ held => nomatch held

/-- A new key comes behind those that are done, with the text that it has alone. -/
theorem resolveFrom_new {language held : Option Text} {done : List (Text × Text)}
    (keeps : l.Keeps s language held) (new : (done.any fun d => d.1 = key) = false)
    (rest : List Text) :
    ∃ held', l.Keeps s language held' ∧
      l.resolveFrom s (l.code language) held done (key :: rest) =
        l.resolveFrom s (l.code language) held' (done ++ [(key, l.resolve s key language)]) rest := by
  rw [resolveFrom, new, if_neg Bool.false_ne_true, resolve]
  cases s.find? key (l.code language) with
  | some r => exact ⟨held, keeps, rfl⟩
  | none =>
    have kept : held.getD (l.placeholder s (some (l.code language))) =
        l.placeholder s (some (l.code language)) := by
      cases held with
      | none => rfl
      | some text => exact keeps text rfl
    dsimp only
    rw [kept]
    refine ⟨_, ?_, rfl⟩
    rintro text ⟨⟩
    rfl

/-- Keys that are done are passed over, and every other one comes once, where it first occurs. -/
theorem resolveFrom_eq (keys : List Text) {language held : Option Text} {done : List (Text × Text)}
    (keeps : l.Keeps s language held) : l.resolveFrom s (l.code language) held done keys =
      done ++ (keys.filter fun key => !done.any fun d => d.1 = key).eraseDups.map
        fun key => (key, l.resolve s key language) := by
  induction keys generalizing held done with
  | nil => simp [resolveFrom]
  | cons key rest ih =>
    by_cases seen : (done.any fun d => d.1 = key) = true
    · rw [resolveFrom, if_pos seen, ih keeps, List.filter_cons_of_neg (by simp [seen])]
    · obtain ⟨held', keeps', step⟩ := resolveFrom_new keeps (Bool.eq_false_iff.2 seen) rest
      -- From here on the key itself is passed over, too.
      have later (text : Text) : (rest.filter fun k => !(done ++ [(key, text)]).any (·.1 = k)) =
          (rest.filter fun k => !done.any (·.1 = k)).filter fun k => !k == key := by
        rw [List.filter_filter]
        refine List.filter_congr fun k _ => ?_
        by_cases same : k = key <;> simp [same, Ne.symm]
      rw [step, ih keeps', later, List.filter_cons_of_pos (by simp [seen]), List.eraseDups_cons,
        List.map_cons, List.append_assoc]
      rfl

/-- Several keys looked up at once: each of them, where it first occurs, with the text that it shows
alone. -/
theorem resolveAll_eq_map (l : Lookup) (copies : Copies) (keys : List Text)
    (language : Option Text) : l.resolveAll copies keys language =
      keys.eraseDups.map fun key => (key, l.resolve copies key language) := by
  have all : (keys.filter fun key => !([] : List (Text × Text)).any fun d => d.1 = key) = keys :=
    List.filter_eq_self.2 fun _ _ => rfl
  rw [resolveAll, resolveFrom_eq keys (keeps_none _ _ _), all, List.nil_append]

/-! ### One language -/

/-- A language is looked up under the code that it is spelled for. -/
theorem code_of_spelling (coded : code.Coded) (spelled : spelling.strip.lower = code) (l : Lookup) :
    l.code (some spelling) = code := by
  simp [Lookup.code, spelled, coded.2]

section InLanguage

variable (coded : code.Coded) (spelled : spelling.strip.lower = code)
  (same : s'.inLanguage code = s.inLanguage code)
include coded spelled same

theorem placeholder_of_inLanguage (l : Lookup) :
    l.placeholder s' (some spelling) = l.placeholder s (some spelling) := by
  rw [placeholder_eq, placeholder_eq, code_of_spelling coded spelled, Copies.text?_of_inLanguage same]

theorem resolve_of_inLanguage (l : Lookup) (key : Text) :
    l.resolve s' key (some spelling) = l.resolve s key (some spelling) := by
  rw [resolve_eq, resolve_eq, code_of_spelling coded spelled, Copies.text?_of_inLanguage same,
    placeholder_of_inLanguage coded coded.1 same]

theorem resolveAll_of_inLanguage (l : Lookup) (keys : List Text) :
    l.resolveAll s' keys (some spelling) = l.resolveAll s keys (some spelling) := by
  rw [resolveAll, resolveAll, resolveFrom_eq keys (keeps_none _ _ _),
    resolveFrom_eq keys (keeps_none _ _ _)]
  simp only [resolve_of_inLanguage coded spelled same]

end InLanguage

/-! ### A new text -/

/-- The default language is a code, or blank. -/
def Normal (l : Lookup) : Prop := l.defaultLanguage.strip.lower = l.defaultLanguage

theorem normal_create (defaultLanguage emptyCopyText : Text) :
    (create defaultLanguage emptyCopyText).Normal := Text.strip_lower_again _

namespace Normal

theorem code_again (normal : l.Normal) (asked : Option Text) :
    (l.code asked).strip.lower = l.code asked := by
  unfold code
  cases asked with
  | none => exact normal
  | some language =>
    dsimp only
    split
    · exact normal
    · exact Text.strip_lower_again _

theorem code_lower (normal : l.Normal) (asked : Option Text) : (l.code asked).lower = l.code asked := by
  rw [← normal.code_again asked, Text.lower_lower]

/-- The code of a language is looked up as it is, also where it is blank. -/
theorem code_code (normal : l.Normal) (asked : Option Text) :
    l.code (some (l.code asked)) = l.code asked := by
  have again := normal.code_again asked
  by_cases blank : l.code asked = []
  · have default : l.defaultLanguage = l.code asked := by
      cases asked with
      | none => rfl
      | some language =>
        by_cases none : language.strip.lower = []
        · rw [code, if_pos none]
        · rw [code, if_neg none] at blank
          exact absurd blank none
    rw [code, again, if_pos blank, default]
  · rw [code, again, if_neg blank]

theorem resolve_eq (normal : l.Normal) (s : Copies) (key : Text) (asked : Option Text) :
    l.resolve s key asked = (s.text? key (l.code asked)).getD
      ((s.text? emptyCopyKey (l.code asked)).getD l.emptyCopyText) := by
  rw [Lookup.resolve_eq, placeholder_eq, normal.code_code]

end Normal

/-- Lookups find a new text for a key in a language. Where the key is that of the placeholder, keys
without copy in that language have the text, too. Whatever else is looked up is as it was. -/
structure Rewords (l : Lookup) (s : Copies) (key language text : Text) (s' : Copies) : Prop where
  shown : ∀ asked, l.code asked = l.code (some language) → l.resolve s' key asked = text
  others : ∀ other asked, s.Has other (l.code asked) →
    (other ≠ key ∨ l.code asked ≠ l.code (some language)) →
    l.resolve s' other asked = l.resolve s other asked
  missing : ∀ other asked, ¬s.Has other (l.code asked) → l.resolve s' other asked =
    if key = emptyCopyKey ∧ l.code asked = l.code (some language) then text
    else l.resolve s other asked

/-- Copy that an update finds is the copy that lookups show: its language is looked up as it stands. -/
theorem code_of_find? (sound : s.Sound) {n : Int} {c : Copy} {language : Text}
    (found : s.find? key language = some (n, c)) (l : Lookup) :
    l.code (some language) = language.lower := by
  obtain ⟨stored, -, same⟩ := Copies.find?_eq_some sound.toTidy found
  have coded : language.lower.Coded := same ▸ sound.coded n c stored
  have trim : language.lower.Trim := coded.1 ▸ (Text.trim_strip _).lower
  exact code_of_spelling coded (by rw [(Text.trim_of_lower trim).strip]) l

theorem rewords_put (normal : l.Normal) (sound : s.Sound) {n : Int} {c : Copy} {language : Text}
    (found : s.find? key language = some (n, c)) (text : Text) :
    l.Rewords s key language text (s.put n { c with text }) := by
  have code := code_of_find? sound found l
  have after (other : Text) (asked : Option Text) :
      Copies.text? (s.put n { c with text }) other (l.code asked) =
        if other = key ∧ l.code asked = l.code (some language) then some text
        else s.text? other (l.code asked) := by
    rw [Copies.text?_put sound.toTidy found, normal.code_lower, code]
  have held {other : Text} {asked : Option Text} :
      s.text? other (l.code asked) = none ↔ ¬s.Has other (l.code asked) := by
    rw [Copies.text?_eq_none_iff sound.toTidy, normal.code_lower]
  refine ⟨fun asked same => ?_, fun other asked has apart => ?_, fun other asked absent => ?_⟩
  · rw [normal.resolve_eq, after, if_pos ⟨rfl, same⟩, Option.getD_some]
  · obtain ⟨t, ht⟩ := Option.ne_none_iff_exists'.1 fun none => held.1 none has
    have elsewhere : ¬(other = key ∧ l.code asked = l.code (some language)) :=
      fun same => apart.elim (· same.1) (· same.2)
    rw [normal.resolve_eq, normal.resolve_eq, after, if_neg elsewhere, ht, Option.getD_some,
      Option.getD_some]
  · -- The key in its language has copy, so this is not it, and the placeholder is shown.
    have elsewhere : ¬(other = key ∧ l.code asked = l.code (some language)) := by
      rintro ⟨rfl, same⟩
      obtain ⟨stored, hkey, hlanguage⟩ := Copies.find?_eq_some sound.toTidy found
      exact absent ⟨n, c, stored, hkey, hlanguage.trans (code.symm.trans same.symm)⟩
    rw [normal.resolve_eq, normal.resolve_eq, after, if_neg elsewhere, held.2 absent, Option.getD_none,
      Option.getD_none, after]
    by_cases here : key = emptyCopyKey ∧ l.code asked = l.code (some language)
    · rw [if_pos here, if_pos ⟨here.1.symm, here.2⟩, Option.getD_some]
    · rw [if_neg here, if_neg fun same => here ⟨same.1.symm, same.2⟩]

end Lookup

end TextAdventure
