import Mathlib.Data.List.Perm.Basic
import TextAdventure.Proofs.Authoring.Editing

/-! Placeholders for languages. Each language that has none gets one at the end of the store, whatever
the order of the languages and however often one is named, and what is stored stays as it is. From then
on the placeholder of each of them is read from the store, and there is nothing left to add. -/

namespace TextAdventure

open Op Authoring

variable {w : World} {s s' : Copies} {key language code text : Text} {codes codes' : List Text}
  {seeded seeded' : Rows Copy} {languages : List Language}

namespace Copies

theorem has_iff_mem (tidy : s.Tidy) :
    s.Has key language ↔ ∃ r ∈ s.rows, r.2.key = key ∧ r.2.language = language := by
  constructor
  · rintro ⟨n, c, found, same⟩
    exact ⟨(n, c), Rows.mem_of_get? found, same⟩
  · rintro ⟨⟨n, c⟩, stored, same⟩
    exact ⟨n, c, tidy.ascending.get?_of_mem stored, same⟩

/-- `s'` is `s` with a placeholder at its end for each code of a list that had none. -/
structure Seeds (text : Text) (codes : List Text) (s : Copies) (seeded : Rows Copy) (s' : Copies) :
    Prop where
  rows : s'.rows = s.rows ++ seeded
  written : ∀ r ∈ seeded, r.2 = placeholder r.2.language text
  distinct : (seeded.map (·.2.language)).Nodup
  missing : ∀ code, code ∈ seeded.map (·.2.language) ↔ code ∈ codes ∧ ¬s.Has emptyCopyKey code
  tidy : s'.Tidy

namespace Seeds

theorem refl (tidy : s.Tidy) (text : Text) : s.Seeds text [] [] s :=
  ⟨(List.append_nil _).symm, by simp, List.nodup_nil, by simp, tidy⟩

/-- A language that has its placeholder is passed over. -/
theorem skip (has : s.Has emptyCopyKey code) (h : s.Seeds text codes seeded s') :
    s.Seeds text (code :: codes) seeded s' := by
  refine { h with missing := fun other => ?_ }
  rw [h.missing, List.mem_cons]
  constructor
  · exact fun ⟨named, absent⟩ => ⟨.inr named, absent⟩
  · rintro ⟨rfl | named, absent⟩
    · exact absurd has absent
    · exact ⟨named, absent⟩

/-- A language that has none gets one, which those after it find. -/
theorem cons (tidy : s.Tidy) (absent : ¬s.Has emptyCopyKey code)
    (h : (s.added (placeholder code text)).Seeds text codes seeded s') :
    s.Seeds text (code :: codes) ((s.ids.next, placeholder code text) :: seeded) s' := by
  have has (other : Text) : (s.added (placeholder code text)).Has emptyCopyKey other ↔
      s.Has emptyCopyKey other ∨ code = other := by
    rw [tidy.has_added]
    exact or_congr_right (and_iff_right rfl)
  -- Those after it are seeded where it is not the same language again.
  have missing (other : Text) : other ∈ seeded.map (·.2.language) ↔
      other ∈ codes ∧ ¬s.Has emptyCopyKey other ∧ code ≠ other := by
    rw [h.missing, has, not_or]
  refine { h with rows := ?_, written := ?_, distinct := ?_, missing := fun other => ?_ }
  · rw [h.rows, tidy.rows_added, List.append_assoc, List.singleton_append]
  · intro r hr
    rcases List.mem_cons.1 hr with rfl | hr
    · rfl
    · exact h.written r hr
  · refine List.nodup_cons.2 ⟨fun again => ?_, h.distinct⟩
    exact ((missing code).1 again).2.2 rfl
  · show other ∈ code :: seeded.map (·.2.language) ↔ _
    rw [List.mem_cons, List.mem_cons, missing]
    constructor
    · rintro (rfl | ⟨named, free, -⟩)
      · exact ⟨.inl rfl, absent⟩
      · exact ⟨.inr named, free⟩
    · rintro ⟨rfl | named, free⟩
      · exact .inl rfl
      · by_cases same : other = code
        · exact .inl same
        · exact .inr ⟨named, free, Ne.symm same⟩

/-- Every language that was named has its placeholder. -/
theorem has (h : s.Seeds text codes seeded s') (tidy : s.Tidy) (named : code ∈ codes) :
    s'.Has emptyCopyKey code := by
  rw [has_iff_mem h.tidy, h.rows]
  by_cases before : s.Has emptyCopyKey code
  · obtain ⟨r, stored, same⟩ := (has_iff_mem tidy).1 before
    exact ⟨r, List.mem_append_left _ stored, same⟩
  · obtain ⟨r, new, rfl⟩ := List.mem_map.1 ((h.missing code).2 ⟨named, before⟩)
    refine ⟨r, List.mem_append_right _ new, ?_, rfl⟩
    rw [h.written r new]
    rfl

/-- The order in which languages are named does not matter for which of them get a placeholder. -/
theorem perm {s'' : Copies} {text' : Text} (h : s.Seeds text codes seeded s')
    (h' : s.Seeds text' codes' seeded' s'') (same : ∀ code, code ∈ codes' ↔ code ∈ codes) :
    (seeded'.map (·.2.language)).Perm (seeded.map (·.2.language)) := by
  refine (List.perm_ext_iff_of_nodup h'.distinct h.distinct).2 fun code => ?_
  rw [h.missing, h'.missing, same]

end Seeds

end Copies

/-! ### Running -/

/-- What is stored for a language is copy as it is made from the language's code. -/
theorem create_placeholder (coded : code.Coded) (text : Text) :
    Copy.create (.text emptyCopyKey) (.text code) (.text text) (.text "empty") =
      .ok (placeholder code text) := by
  have visible : code.strip ≠ [] := fun blank => coded.2 (by rw [← coded.1, blank]; rfl)
  have hcode : Field.code "language" (.text code) = .ok code :=
    Field.code_eq_ok.2 ⟨code, rfl, visible, coded.1.symm⟩
  have hkey : (if emptyCopyKey.strip = [] then emptyCopyKey else emptyCopyKey.strip) = emptyCopyKey := by
    decide +kernel
  simp only [Copy.create, hcode, Field.text, bind, Except.bind, pure, Except.pure, hkey, placeholder]

theorem Copies.Seeding.seeds (h : Seeding text languages s seeded s') (tidy : s.Tidy) :
    s.Seeds text (languages.map (·.code)) seeded s' := by
  induction h with
  | done s => exact .refl tidy text
  | skip has _ ih => exact (ih tidy).skip has
  | @add l languages s seeded s' absent _ ih =>
    exact (ih (tidy.added (placeholder l.code text))).cons tidy absent

/-- Where all languages have their placeholders nothing is stored. -/
theorem Copies.Seeding.idle (h : Seeding text languages s seeded s')
    (has : ∀ l ∈ languages, s.Has emptyCopyKey l.code) : seeded = [] ∧ s' = s := by
  induction h with
  | done s => exact ⟨rfl, rfl⟩
  | skip _ _ ih => exact ih fun l hl => has l (List.mem_cons_of_mem _ hl)
  | add absent _ ih => exact absurd (has _ List.mem_cons_self) absent

/-- Languages get their placeholders. One is added for each code that had none, and nothing that is
stored changes; making the new copy changes neither key nor code. Then the placeholder of each language is
a text of the store, however it is asked for, and languages that are named again get no more. In another
order the same languages get one. -/
theorem seedEmptyCopy_seeds (text : Text) (made : ∀ l ∈ languages, l.Made) (tidy : w.copies.Tidy) :
    ∃ seeded copies, (seedEmptyCopy text languages).run w = (.ok seeded, { w with copies }) ∧
      w.copies.Seeds text (languages.map (·.code)) seeded copies ∧
      (∀ l ∈ languages, Copy.create (.text emptyCopyKey) (.text l.code) (.text text)
        (.text "empty") = .ok (placeholder l.code text)) ∧
      (∀ l ∈ languages, ∀ (lookup : Lookup) (asked : Option Text), lookup.code asked = l.code →
        ∃ n copy, copies.get? n = some copy ∧ copy.key = emptyCopyKey ∧ copy.language = l.code ∧
          lookup.placeholder copies asked = copy.text) ∧
      (∀ (text' : Text) (again : List Language), again ⊆ languages →
        (seedEmptyCopy text' again).run { w with copies } = (.ok [], { w with copies })) ∧
      (∀ order : List Language, order.Perm languages →
        ∃ seeded' copies', (seedEmptyCopy text order).run w =
            (.ok seeded', { w with copies := copies' }) ∧
          (seeded'.map (·.2.language)).Perm (seeded.map (·.2.language))) := by
  have coded : ∀ l ∈ languages, l.code.Coded := fun l hl => (made l hl).coded
  obtain ⟨seeded, copies, hrun, seeding⟩ := seeding_of_run text coded tidy
  have seeds := seeding.seeds tidy
  have has : ∀ l ∈ languages, copies.Has emptyCopyKey l.code := fun l hl =>
    seeds.has tidy (List.mem_map_of_mem hl)
  refine ⟨seeded, copies, hrun, seeds, ?_, ?_, ?_, ?_⟩
  · exact fun l hl => create_placeholder (coded l hl) text
  · intro l hl lookup asked same
    obtain ⟨⟨n, copy⟩, found⟩ := Option.isSome_iff_exists.1
      ((Copies.find?_isSome_iff seeds.tidy (coded l hl)).2 (has l hl))
    obtain ⟨stored, hkey, hlanguage⟩ := Copies.find?_eq_some seeds.tidy found
    refine ⟨n, copy, stored, hkey, hlanguage.trans (coded l hl).lower, ?_⟩
    rw [Lookup.placeholder, same, found]
  · intro text' again subset
    obtain ⟨seeded', copies', hrun', seeding'⟩ := seeding_of_run (w := { w with copies }) text'
      (fun l hl => coded l (subset hl)) seeds.tidy
    obtain ⟨rfl, rfl⟩ := seeding'.idle fun l hl => has l (subset hl)
    exact hrun'
  · intro order perm
    obtain ⟨seeded', copies', hrun', seeding'⟩ :=
      seeding_of_run (w := w) text (fun l hl => coded l (perm.subset hl)) tidy
    exact ⟨seeded', copies', hrun',
      seeds.perm (seeding'.seeds tidy) fun code => (perm.map _).mem_iff⟩

/-- Spanish has its placeholder under a number of its own, and English is named twice. -/
theorem seedEmptyCopy_seeds_repeated :
    let start : World := { clock := { reading := fun _ => 0 }, keys := { key := fun _ => [] } }
    let w := CopyEdit.left start [.add (.number 7) (placeholder "es" "nada"),
      .add .unset { key := "door", language := "en", text := "A door." }]
    let english : Language := { name := "English", code := "en" }
    let spanish : Language := { name := "Spanish", code := "es" }
    let languages := [english, spanish, english]
    (∀ l ∈ languages, l.Made) ∧ w.copies.Tidy ∧
      ∃ copies, (seedEmptyCopy "empty copy" languages).run w =
          (.ok [(9, placeholder "en" "empty copy")], { w with copies }) ∧
        w.copies.Seeds "empty copy" (languages.map (·.code)) [(9, placeholder "en" "empty copy")]
          copies := by
  intro start w english spanish languages
  have made : ∀ l ∈ languages, l.Made := by
    have english_made : english.Made := ⟨.text " English", .text "EN ", by decide +kernel⟩
    have spanish_made : spanish.Made := ⟨.text "Spanish", .text "es", by decide +kernel⟩
    simp [languages, english_made, spanish_made]
  have tidy : w.copies.Tidy := CopyEdit.tidy_left Copies.tidy_empty _
  obtain ⟨seeded, copies, hrun, seeds, -⟩ := seedEmptyCopy_seeds "empty copy" made tidy
  have outcome : ((seedEmptyCopy "empty copy" languages).run w).1 =
      .ok [(9, placeholder "en" "empty copy")] := by decide +kernel
  rw [hrun] at outcome
  obtain rfl := Except.ok.inj outcome
  exact ⟨made, tidy, copies, hrun, seeds⟩

end TextAdventure
