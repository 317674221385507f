import TextAdventure.Proofs.Store.Table
import TextAdventure.Proofs.Text.Case
import TextAdventure.Store.Copies

/-! Copy by key and language. Where a key and a language name at most one copy, a lookup shows this
one. A store does not see to that by itself: of several copies the one with the least number is found. -/

namespace TextAdventure

/-- Texts that are codes of languages as they are stored. -/
def Text.Coded (code : Text) : Prop := code.strip.lower = code ∧ code ≠ []

theorem Text.Coded.lower {code : Text} (h : code.Coded) : code.lower = code := by
  rw [← h.1, Text.lower_lower]

theorem Text.coded_of_code {field : String} {v : Json} {code : Text}
    (h : Field.code field v = .ok code) : code.Coded := by
  obtain ⟨t, ht, ne, hcode⟩ := Field.code_eq_ok.1 (Field.code_again h field)
  obtain rfl := Json.text.inj ht
  refine ⟨hcode.symm, ?_⟩
  rw [hcode]
  exact Text.lower_ne_nil ne

theorem Lookup.code_coded {code : Text} (h : code.Coded) (l : Lookup) : l.code (some code) = code := by
  simp [Lookup.code, h.1, h.2]

namespace Copies

variable {s : Copies} {key language : Text} {c d : Copy} {m n : Int}

/-- Copy of a key in a language is stored. -/
def Has (s : Copies) (key language : Text) : Prop :=
  ∃ n c, s.get? n = some c ∧ c.key = key ∧ c.language = language

/-- A key and a language name at most one copy. -/
def Unique (s : Copies) : Prop :=
  ∀ m n c d, s.get? m = some c → s.get? n = some d → c.key = d.key → c.language = d.language → m = n

/-- No copy but the one under a number has the key and the language of `c`. -/
def Clear (s : Copies) (n : Int) (c : Copy) : Prop :=
  ∀ m d, s.get? m = some d → d.key = c.key → d.language = c.language → m = n

/-- Copies stand in the order of their numbers, and new ones come after them. -/
structure Tidy (s : Copies) : Prop where
  ascending : s.rows.Ascending
  fresh : ∀ n c, s.get? n = some c → n < s.ids.next

/-- Copies are tidy, and in languages that are codes. -/
structure Sound (s : Copies) : Prop extends s.Tidy where
  coded : ∀ n c, s.get? n = some c → c.language.Coded

theorem tidy_empty : Tidy {} := ⟨List.Pairwise.nil, nofun⟩

theorem sound_empty : Sound {} := ⟨tidy_empty, nofun⟩

/-! ### Finding -/

theorem find?_eq_some (tidy : s.Tidy) (h : s.find? key language = some (n, c)) :
    s.get? n = some c ∧ c.key = key ∧ c.language = language.lower := by
  have satisfied := List.find?_some h
  have found := tidy.ascending.get?_of_mem (List.mem_of_find?_eq_some h)
  simp only [Bool.decide_and, Bool.and_eq_true, decide_eq_true_eq] at satisfied
  exact ⟨found, satisfied⟩

theorem find?_eq_none : s.find? key language = none → ¬s.Has key language.lower := by
  rintro h ⟨n, c, found, hkey, hlanguage⟩
  have refused := List.find?_eq_none.1 h (n, c) (Rows.mem_of_get? found)
  simp [hkey, hlanguage] at refused

theorem find?_isSome_iff (tidy : s.Tidy) (coded : language.Coded) :
    (s.find? key language).isSome ↔ s.Has key language := by
  constructor
  · intro some
    obtain ⟨⟨n, c⟩, found⟩ := Option.isSome_iff_exists.1 some
    obtain ⟨stored, hkey, hlanguage⟩ := find?_eq_some tidy found
    exact ⟨n, c, stored, hkey, hlanguage.trans coded.lower⟩
  · intro has
    rw [← coded.lower] at has
    exact Option.isSome_iff_ne_none.2 fun none => find?_eq_none none has

/-- The only copy of its key and language is the one that is found. -/
theorem find?_of_unique (tidy : s.Tidy) (unique : s.Unique) (found : s.get? n = some c)
    (coded : c.language.Coded) : s.find? c.key c.language = some (n, c) := by
  cases hfind : s.find? c.key c.language with
  | none =>
    refine absurd ⟨n, c, found, rfl, ?_⟩ (find?_eq_none hfind)
    rw [coded.lower]
  | some r =>
    obtain ⟨m, d⟩ := r
    obtain ⟨found', hkey, hlanguage⟩ := find?_eq_some tidy hfind
    rw [coded.lower] at hlanguage
    obtain rfl := unique m n d c found' found hkey hlanguage
    obtain rfl := Option.some.inj (found'.symm.trans found)
    rfl

/-! ### Adding -/

theorem unique_place_iff : Unique (s.place n c) ↔ Unique (s.remove n) ∧ s.Clear n c := by
  have kept {m : Int} {d : Copy} (ne : m ≠ n) : (s.place n c).get? m = some d ↔ s.get? m = some d := by
    rw [Table.get?_place, if_neg ne]
  have self : (s.place n c).get? n = some c := by simp
  constructor
  · refine fun unique => ⟨fun m k d e hd he => ?_, fun m d hd hkey hlanguage => ?_⟩
    · rw [Table.get?_remove_eq_some] at hd he
      exact unique m k d e ((kept hd.1).2 hd.2) ((kept he.1).2 he.2)
    · refine Decidable.byContradiction fun ne => ne ?_
      exact unique m n d c ((kept ne).2 hd) self hkey hlanguage
  · rintro ⟨unique, clear⟩ m k d e hd he hkey hlanguage
    by_cases hm : m = n <;> by_cases hk : k = n
    · rw [hm, hk]
    · subst hm
      obtain rfl := Option.some.inj (self.symm.trans hd)
      exact (clear k e ((kept hk).1 he) hkey.symm hlanguage.symm).symm
    · subst hk
      obtain rfl := Option.some.inj (self.symm.trans he)
      exact clear m d ((kept hm).1 hd) hkey hlanguage
    · have hd := Table.get?_remove_eq_some.2 ⟨hm, (kept hm).1 hd⟩
      have he := Table.get?_remove_eq_some.2 ⟨hk, (kept hk).1 he⟩
      exact unique m k d e hd he hkey hlanguage

theorem Unique.remove (unique : s.Unique) (n : Int) : Unique (s.remove n) := by
  intro m k d e hd he
  exact unique m k d e (Table.get?_remove_eq_some.1 hd).2 (Table.get?_remove_eq_some.1 he).2

/-- The store with a new copy. -/
def added (s : Copies) (c : Copy) : Copies := { s.place s.ids.next c with ids := ⟨s.ids.next + 1⟩ }

theorem get?_added (s : Copies) (c : Copy) (n : Int) :
    (s.added c).get? n = if n = s.ids.next then some c else s.get? n := Table.get?_place s _ _ _

theorem Tidy.get?_next (tidy : s.Tidy) : s.get? s.ids.next = none := by
  cases found : s.get? s.ids.next with
  | none => rfl
  | some c => exact absurd (tidy.fresh _ c found) (Int.lt_irrefl _)

theorem Tidy.added (tidy : s.Tidy) (c : Copy) : (s.added c).Tidy := by
  refine ⟨Table.ascending_place tidy.ascending _ _, fun n d found => ?_⟩
  show n < s.ids.next + 1
  rw [get?_added] at found
  split at found
  · omega
  · have := tidy.fresh n d found
    omega

theorem Tidy.remove_next (tidy : s.Tidy) : s.remove s.ids.next = s := by
  simp [Table.remove, tidy.get?_next]

theorem Tidy.remove (tidy : s.Tidy) (n : Int) : Tidy (s.remove n) := by
  refine ⟨Table.ascending_remove tidy.ascending n, fun m c found => ?_⟩
  rw [Table.ids_remove]
  exact tidy.fresh m c (Table.get?_remove_eq_some.1 found).2

theorem insert_last {rows : Rows Copy} {n : Int} (lt : ∀ r ∈ rows, r.1 < n) (c : Copy) :
    rows.insert n c = rows ++ [(n, c)] := by
  induction rows with
  | nil => rfl
  | cons r rest ih =>
    have first : r.1 < n := lt r List.mem_cons_self
    rw [Rows.insert, if_neg (by omega), if_neg (by omega),
      ih fun r hr => lt r (List.mem_cons_of_mem _ hr), List.cons_append]

/-- New copy goes to the end. -/
theorem Tidy.rows_added (tidy : s.Tidy) (c : Copy) :
    (s.added c).rows = s.rows ++ [(s.ids.next, c)] := by
  show ((s.remove s.ids.next).rows).insert s.ids.next c = _
  rw [tidy.remove_next]
  exact insert_last (fun r hr => tidy.fresh r.1 r.2 (tidy.ascending.get?_of_mem hr)) c

theorem Tidy.has_added (tidy : s.Tidy) (c : Copy) :
    (s.added c).Has key language ↔ s.Has key language ∨ c.key = key ∧ c.language = language := by
  constructor
  · rintro ⟨n, d, found, hkey, hlanguage⟩
    rw [get?_added] at found
    split at found
    · obtain rfl := Option.some.inj found
      exact .inr ⟨hkey, hlanguage⟩
    · exact .inl ⟨n, d, found, hkey, hlanguage⟩
  · rintro (⟨n, d, found, same⟩ | same)
    · have lt := tidy.fresh n d found
      refine ⟨n, d, ?_, same⟩
      rw [get?_added, if_neg (by omega)]
      exact found
    · refine ⟨s.ids.next, c, ?_, same⟩
      rw [get?_added, if_pos rfl]

/-- New copy hides behind older copy, or is the only one. -/
theorem Tidy.unique_added_iff (tidy : s.Tidy) (c : Copy) :
    (s.added c).Unique ↔ s.Unique ∧ ¬s.Has c.key c.language := by
  have place : (s.added c).Unique ↔ s.Unique ∧ s.Clear s.ids.next c := by
    have := unique_place_iff (s := s) (n := s.ids.next) (c := c)
    rwa [tidy.remove_next] at this
  rw [place]
  refine and_congr_right fun _ => ⟨?_, fun absent m d found hkey hlanguage => ?_⟩
  · rintro clear ⟨m, d, found, hkey, hlanguage⟩
    have lt := tidy.fresh m d found
    have eq := clear m d found hkey hlanguage
    omega
  · exact absurd ⟨m, d, found, hkey, hlanguage⟩ absent

/-- What is found stays found when copy is added. -/
theorem Tidy.find?_added (tidy : s.Tidy) (c : Copy) {r : Int × Copy}
    (found : s.find? key language = some r) : (s.added c).find? key language = some r := by
  rw [find?, tidy.rows_added, List.find?_append]
  simp only [find?] at found
  rw [found]
  rfl

/-! ### Texts -/

theorem Tidy.put (tidy : s.Tidy) (found : s.get? n = some c) (d : Copy) : Tidy (s.put n d) := by
  refine ⟨tidy.ascending.insert n d, fun m e hm => ?_⟩
  rcases Table.get?_put_eq_some.1 hm with ⟨rfl, -⟩ | ⟨-, hm⟩
  · exact tidy.fresh m c found
  · exact tidy.fresh m e hm

/-- A new text leaves copy under its key and in its language. -/
theorem unique_put (unique : s.Unique) (found : s.get? n = some c) (hkey : d.key = c.key)
    (hlanguage : d.language = c.language) : Unique (s.put n d) := by
  have stood {m : Int} {e : Copy} (hm : (s.put n d).get? m = some e) :
      ∃ e', s.get? m = some e' ∧ e'.key = e.key ∧ e'.language = e.language := by
    rcases Table.get?_put_eq_some.1 hm with ⟨rfl, rfl⟩ | ⟨-, hm⟩
    · exact ⟨c, found, hkey.symm, hlanguage.symm⟩
    · exact ⟨e, hm, rfl, rfl⟩
  intro m k e f he hf sameKey sameLanguage
  obtain ⟨e', he', hkey, hlanguage⟩ := stood he
  obtain ⟨f', hf', hkey', hlanguage'⟩ := stood hf
  exact unique m k e' f' he' hf' (hkey.trans (sameKey.trans hkey'.symm))
    (hlanguage.trans (sameLanguage.trans hlanguage'.symm))

end Copies

end TextAdventure
