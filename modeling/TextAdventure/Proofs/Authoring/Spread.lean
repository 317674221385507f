import TextAdventure.Proofs.Authoring.Copies
import TextAdventure.Proofs.Store.Lookups

/-! New copy in several languages. A lookup sees nothing of a store but the texts of keys in
languages, so what new copy does is told by what becomes of those. Under a fresh key every language
that was asked for can be read, and other keys read as before. The text itself is stored, and shown
in the language of the copy, if and only if that language was asked for, too. -/

namespace TextAdventure

open Op Authoring

namespace Copies

variable {s s' : Copies} {key code : Text} {c : Copy} {n : Int}

/-- The text that copy has for a key in a language. -/
def ownText? (c : Copy) (key code : Text) : Option Text :=
  if c.key = key ∧ c.language = code.lower then some c.text else none

theorem text?_added (tidy : s.Tidy) (c : Copy) (key code : Text) :
    (s.added c).text? key code = (s.text? key code).or (ownText? c key code) := by
  have appended : (s.added c).find? key code = (s.find? key code).or
      (if c.key = key ∧ c.language = code.lower then some (s.ids.next, c) else none) := by
    simp only [find?, tidy.rows_added, List.find?_append, List.find?_singleton, decide_eq_true_eq]
  rw [text?, appended, text?, ownText?]
  cases s.find? key code with
  | some r => rfl
  | none => split <;> rfl

section Inserting

variable {rows : Rows Copy} {p : Int × Copy → Bool}

theorem find?_insert_of_not (free : ∀ r ∈ rows, r.1 ≠ n) (h : p (n, c) = false) :
    (rows.insert n c).find? p = rows.find? p := by
  induction rows with
  | nil => simp [Rows.insert, h]
  | cons r rest ih =>
    obtain ⟨k, d⟩ := r
    have ne : n ≠ k := (free (k, d) List.mem_cons_self).symm
    rw [Rows.insert, if_neg ne]
    split
    · rw [List.find?_cons_of_neg (by simp [h])]
    · rw [List.find?_cons, List.find?_cons, ih fun r hr => free r (List.mem_cons_of_mem _ hr)]

theorem find?_insert_of_none (none : ∀ r ∈ rows, p r = false) (h : p (n, c) = true) :
    (rows.insert n c).find? p = some (n, c) := by
  induction rows with
  | nil => simp [Rows.insert, h]
  | cons r rest ih =>
    obtain ⟨k, d⟩ := r
    have no : p (k, d) = false := none (k, d) List.mem_cons_self
    rw [Rows.insert]
    split
    · rw [List.find?_cons_of_pos h]
    split
    · rw [List.find?_cons_of_pos h]
    · rw [List.find?_cons_of_neg (by simp [no]), ih fun r hr => none r (List.mem_cons_of_mem _ hr)]

end Inserting

/-- Copy under a new key is shown wherever it is stored. What stood under its number is gone, and
other keys read as they do without that. -/
theorem text?_place (tidy : s.Tidy) (new : ∀ r ∈ s.rows, r.2.key ≠ c.key) (n : Int)
    (key code : Text) : Copies.text? (s.place n c) key code =
      if key = c.key then ownText? c key code else Copies.text? (s.remove n) key code := by
  have free : ∀ r ∈ (s.remove n).rows, r.1 ≠ n := by
    intro r hr same
    have found := (Table.ascending_remove tidy.ascending n).get?_of_mem hr
    have gone := Table.get?_remove s n r.1
    rw [if_pos same] at gone
    exact nomatch found.symm.trans gone
  have rows : (s.place n c).rows = (s.remove n).rows.insert n c := rfl
  have other {r : Int × Copy} (hr : r ∈ (s.remove n).rows) : r.2.key ≠ c.key :=
    new r (Table.mem_remove hr)
  unfold text? find? ownText?
  rw [rows]
  split
  · rename_i same
    subst same
    by_cases here : c.language = code.lower
    · rw [find?_insert_of_none (fun r hr => by simp [other hr]) (by simp [here])]
      simp [here]
    · rw [find?_insert_of_not free (by simp [here])]
      have absent : (s.remove n).rows.find?
          (fun r => r.2.key = c.key ∧ r.2.language = code.lower) = none :=
        List.find?_eq_none.2 fun r hr => by simp [other hr]
      rw [absent]
      simp [here]
  · rename_i ne
    rw [find?_insert_of_not free (by simp [Ne.symm ne])]

end Copies

variable {w : World} {l : Lookup}

/-! ### An entry for each language -/

/-- The text that the entries of copy have for a key in a language. -/
def Copy.entryText? (copy : Copy) (languages : List Language) (key code : Text) : Option Text :=
  if copy.key = key ∧ code.lower ∈ languages.map (·.code) then
    some (if code.lower = copy.language then copy.text else [])
  else none

theorem Copy.entryText?_cons (copy : Copy) (l : Language) (rest : List Language)
    (key code : Text) : copy.entryText? (l :: rest) key code =
      (Copies.ownText? { copy with
          language := l.code, text := if l.code = copy.language then copy.text else [] }
        key code).or (copy.entryText? rest key code) := by
  unfold entryText? Copies.ownText?
  by_cases hkey : copy.key = key
  · by_cases here : l.code = code.lower
    · simp [hkey, here]
    · simp [hkey, here, Ne.symm here]
  · simp [hkey]

/-- The entries are shown where nothing has been shown before. The one that is handed back is stored
if and only if one of them is in the language of the copy. -/
theorem run_addEntries_texts (copy : Copy) (languages : List Language) (own : Option Int × Copy)
    (tidy : w.copies.Tidy) :
    ∃ own' copies, (addEntries copy own languages).run w = (.ok own', { w with copies }) ∧
      (∀ key code, copies.text? key code =
        (w.copies.text? key code).or (copy.entryText? languages key code)) ∧
      (copy.language ∈ languages.map (·.code) → own'.1.isSome ∧
        own'.2 = copy) ∧
      (copy.language ∉ languages.map (·.code) → own' = own) := by
  induction languages generalizing w own with
  | nil =>
    refine ⟨own, w.copies, rfl, fun key code => ?_, fun h => absurd h List.not_mem_nil, fun _ => rfl⟩
    simp [Copy.entryText?]
  | cons l rest ih =>
    let entry : Copy :=
      { copy with language := l.code, text := if l.code = copy.language then copy.text else [] }
    let own₁ : Option Int × Copy :=
      if l.code = copy.language then (some w.copies.ids.next, entry) else own
    obtain ⟨own', copies, hrun, texts, listed, unlisted⟩ :=
      ih (w := { w with copies := w.copies.added entry }) own₁ (tidy.added entry)
    refine ⟨own', copies, ?_, fun key code => ?_, fun h => ?_, fun h => ?_⟩
    · unfold addEntries
      rw [run_bind_ok (run_addCopy_unset entry w)]
      exact hrun
    · rw [texts, Copies.text?_added tidy, Option.or_assoc, Copy.entryText?_cons]
    · by_cases later : copy.language ∈ rest.map (·.code)
      · exact listed later
      · have here : l.code = copy.language := by
          rcases List.mem_cons.1 h with h | h
          · exact h.symm
          · exact absurd h later
        have same : entry = copy := by
          simp only [entry, here, if_pos]
        rw [unlisted later, show own₁ = (some w.copies.ids.next, entry) from if_pos here, same]
        exact ⟨rfl, rfl⟩
    · rw [List.map_cons, List.mem_cons, not_or] at h
      rw [unlisted h.2]
      exact if_neg (Ne.symm h.1)

/-- Copy that is new to a store, in languages: what is handed back, and the texts that are there
afterwards. -/
structure Spreads (copy : Copy) (languages : List Language) (s : Copies) (given : Option Int × Copy)
    (copies : Copies) : Prop where
  handed : given.2 = copy
  listed_iff : given.1.isSome ↔ copy.language ∈ languages.map (·.code)
  stored : ∀ n, given.1 = some n → copies.get? n = some given.2
  under : ∀ code, copies.text? copy.key code = copy.entryText? languages copy.key code
  beside : ∀ {key}, key ≠ copy.key → ∀ code, copies.text? key code = s.text? key code

theorem run_addEntries_spreads {c : Copy} (tidy : w.copies.Tidy)
    (new : ∀ r ∈ w.copies.rows, r.2.key ≠ c.key) (languages : List Language) :
    ∃ given copies, (addEntries c (none, c) languages).run w = (.ok given, { w with copies }) ∧
      Spreads c languages w.copies given copies := by
  obtain ⟨given, copies, hrun, texts, here, elsewhere⟩ :=
    run_addEntries_texts c languages (none, c) tidy
  have unstored : c.StoredAs w.copies (none, c) := fun n hn => nomatch hn
  obtain ⟨given', copies', hrun', -, stored, -⟩ := run_addEntries c languages tidy unstored
  obtain ⟨hgiven, hw⟩ := Prod.mk.inj (hrun.symm.trans hrun')
  obtain rfl : given = given' := Except.ok.inj hgiven
  obtain rfl : copies = copies' := congrArg World.copies hw
  refine ⟨given, copies, hrun, ?_, ?_, fun n hn => (stored n hn).1, fun code => ?_,
    fun {key} ne code => ?_⟩
  · by_cases listed : c.language ∈ languages.map (·.code)
    · exact (here listed).2
    · rw [elsewhere listed]
  · by_cases listed : c.language ∈ languages.map (·.code)
    · exact iff_of_true (here listed).1 listed
    · refine iff_of_false ?_ listed
      rw [elsewhere listed]
      exact Bool.false_ne_true
  -- The entries have the new key for themselves, and no other.
  · rw [texts, Copies.text?_eq_none new, Option.none_or]
  · rw [texts, Copy.entryText?, if_neg fun h => ne h.1.symm, Option.or_none]

/-! ### Copy under a fresh key -/

/-- The store without what new copy takes the place of: only copy that goes under a number it brings
along may find another one there. -/
def Copies.vacated (s : Copies) : Claim → Option (List Language) → Copies
  | .number n, none => s.remove n
  | _, _ => s

theorem Copies.vacated_some (s : Copies) (claim : Claim) (listed : List Language) :
    s.vacated claim (some listed) = s := by
  cases claim <;> rfl

theorem Copies.Tidy.vacated_none {s : Copies} (tidy : s.Tidy) {claim : Claim} {n : Int}
    {ids : IdSequence} (assigned : s.ids.assign claim = .ok (n, ids)) :
    s.vacated claim none = s.remove n := by
  cases claim with
  | unset =>
    obtain ⟨rfl, -⟩ := Prod.mk.inj (Except.ok.inj assigned)
    exact tidy.remove_next.symm
  | number k =>
    obtain ⟨rfl, -⟩ := Prod.mk.inj (Except.ok.inj assigned)
    rfl
  | malformed => exact nomatch assigned

/-- What comes of new copy under a fresh key: what is handed back, and what lookups find. -/
structure Publishes (l : Lookup) (w : World) (claim : Claim) (copy : Copy)
    (languages : Option (List Language)) (given : Option Int × Copy) (copies : Copies) : Prop where
  handed : given.2 = { copy with key := w.keys.fresh.1 }
  /-- It is stored if and only if its own language was asked for, or none in particular. -/
  stored_iff : given.1.isSome ↔
    ∀ listed, languages = some listed → copy.language ∈ listed.map (·.code)
  shown : ∀ n, given.1 = some n → copies.get? n = some given.2 ∧
    l.resolve copies w.keys.fresh.1 (some copy.language) = copy.text
  lost : given.1 = none → ¬copies.Has w.keys.fresh.1 copy.language ∧
    l.resolve copies w.keys.fresh.1 (some copy.language) =
      l.placeholder w.copies (some copy.language)
  blank : ∀ listed, languages = some listed → ∀ x ∈ listed, x.code ≠ copy.language →
    l.resolve copies w.keys.fresh.1 (some x.code) = []
  others : ∀ key, key ≠ w.keys.fresh.1 → ∀ language,
    l.resolve copies key language = l.resolve (w.copies.vacated claim languages) key language

section Fresh

variable {copy : Copy} (tidy : w.copies.Tidy) (made : copy.Made)
  (new : ∀ r ∈ w.copies.rows, r.2.key ≠ w.keys.fresh.1) (real : w.keys.fresh.1 ≠ emptyCopyKey)
include tidy made new real

theorem publishes_listed (l : Lookup) (claim : Claim) {listed : List Language}
    (madeAll : ∀ x ∈ listed, x.Made) :
    ∃ given copies, (addEntries { copy with key := w.keys.fresh.1 }
        (none, { copy with key := w.keys.fresh.1 }) listed).run { w with keys := w.keys.fresh.2 } =
      (.ok given, { w with keys := w.keys.fresh.2, copies }) ∧
    Publishes l w claim copy (some listed) given copies := by
  let fresh : Copy := { copy with key := w.keys.fresh.1 }
  obtain ⟨given, copies, hrun, spreads⟩ := run_addEntries_spreads
    (w := { w with keys := w.keys.fresh.2 }) (c := fresh) tidy new listed
  refine ⟨given, copies, hrun, spreads.handed, ?_, fun n hn => ?_, fun hn => ?_,
    fun _ hlisted x hx ne => ?_, fun key ne language => ?_⟩
  · rw [spreads.listed_iff]
    constructor
    · rintro h _ ⟨⟩
      exact h
    · intro h
      exact h listed rfl
  · refine ⟨spreads.stored n hn, Lookup.resolve_of_text? made.coded ?_⟩
    have member := spreads.listed_iff.1 (by rw [hn]; rfl)
    rw [spreads.under, Copy.entryText?, made.coded.lower, if_pos ⟨rfl, member⟩, if_pos rfl]
  · have absent : copy.language ∉ listed.map (·.code) := fun member => by
      have := spreads.listed_iff.2 member
      rw [hn] at this
      exact nomatch this
    have unread : copies.text? w.keys.fresh.1 copy.language = none := by
      rw [spreads.under, Copy.entryText?, made.coded.lower, if_neg fun h => absent h.2]
    constructor
    · have absent := Copies.find?_eq_none (Option.map_eq_none_iff.1 unread)
      rwa [made.coded.lower] at absent
    · rw [Lookup.resolve_eq, Lookup.code_coded made.coded, unread, Option.getD_none,
        Lookup.placeholder_eq, Lookup.placeholder_eq, spreads.beside real.symm]
  · cases hlisted
    have coded := (madeAll x hx).coded
    refine Lookup.resolve_of_text? coded ?_
    rw [spreads.under, Copy.entryText?, coded.lower, if_pos ⟨rfl, List.mem_map_of_mem hx⟩, if_neg ne]
  · rw [Copies.vacated_some]
    exact Lookup.resolve_congr (spreads.beside ne) (spreads.beside real.symm) language

theorem publishes_claimed (l : Lookup) {claim : Claim} {n : Int} {ids : IdSequence}
    (assigned : w.copies.ids.assign claim = .ok (n, ids)) :
    Publishes l w claim copy none (some n, { copy with key := w.keys.fresh.1 })
      { w.copies.place n { copy with key := w.keys.fresh.1 } with ids } := by
  let fresh : Copy := { copy with key := w.keys.fresh.1 }
  have text (key code : Text) : Copies.text? { w.copies.place n fresh with ids } key code =
      if key = w.keys.fresh.1 then Copies.ownText? fresh key code
      else Copies.text? (w.copies.remove n) key code := Copies.text?_place tidy new n key code
  have beside {key : Text} (ne : key ≠ w.keys.fresh.1) (code : Text) :
      Copies.text? { w.copies.place n fresh with ids } key code =
        (w.copies.vacated claim none).text? key code := by
    rw [text, if_neg ne, tidy.vacated_none assigned]
  refine ⟨rfl, iff_of_true rfl nofun, fun m hm => ?_, nofun, nofun, fun key ne language => ?_⟩
  · obtain rfl := Option.some.inj hm
    refine ⟨(Table.get?_place _ _ _ _).trans (if_pos rfl), Lookup.resolve_of_text? made.coded ?_⟩
    rw [text, if_pos rfl, Copies.ownText?, if_pos ⟨rfl, made.coded.lower.symm⟩]
  · exact Lookup.resolve_congr (beside ne) (beside real.symm) language

end Fresh

/-- New copy without a key gets a fresh one, which can be read afterwards in every language that was
asked for, while other keys read as before. Its text is stored and shown if and only if its own
language was asked for, or none in particular. Copy that brings along a number takes the place of
what stands under that number, and copy whose number is none is refused. -/
theorem createCopy_publishes (l : Lookup) (tidy : w.copies.Tidy) {copy : Copy} (made : copy.Made)
    (blank : copy.key = emptyCopyKey) {languages : Option (List Language)}
    (madeAll : ∀ listed, languages = some listed → ∀ x ∈ listed, x.Made)
    (new : ∀ r ∈ w.copies.rows, r.2.key ≠ w.keys.fresh.1) (real : w.keys.fresh.1 ≠ emptyCopyKey)
    (claim : Claim) :
    (∃ given copies, (createCopy claim copy languages).run w =
        (.ok given, { w with keys := w.keys.fresh.2, copies }) ∧
      Publishes l w claim copy languages given copies) ∨
    (claim = .malformed ∧ languages = none ∧ (createCopy claim copy languages).run w =
      (.error .malformedIdentity, { w with keys := w.keys.fresh.2 })) := by
  have keyed : (withKey copy).run w =
      (.ok { copy with key := w.keys.fresh.1 }, { w with keys := w.keys.fresh.2 }) := by
    rw [withKey, if_pos blank]
    rfl
  unfold createCopy
  rw [run_bind_ok keyed]
  cases languages with
  | some listed =>
    exact .inl (publishes_listed tidy made new real l claim (madeAll listed rfl))
  | none =>
    cases assigned : w.copies.ids.assign claim with
    | error e =>
      have refused := run_addCopy_error (w := { w with keys := w.keys.fresh.2 }) assigned
        { copy with key := w.keys.fresh.1 }
      cases claim with
      | malformed =>
        obtain rfl : Error.malformedIdentity = e := Except.error.inj assigned
        exact .inr ⟨rfl, rfl, run_bind_error refused⟩
      | _ => exact nomatch assigned
    | ok found =>
      obtain ⟨n, ids⟩ := found
      have placed := run_addCopy_ok (w := { w with keys := w.keys.fresh.2 }) assigned
        { copy with key := w.keys.fresh.1 }
      exact .inl ⟨_, _, run_bind_ok placed, publishes_claimed tidy made new real l assigned⟩

/-- A door creaks in English, and is spread over French and German: its text is lost. -/
theorem createCopy_publishes_door :
    let w : World := { clock := { reading := fun _ => 0 }, keys := { key := fun _ => "door" } }
    let copy : Copy := { key := emptyCopyKey, language := "en", text := "A door creaks." }
    let listed : List Language := [⟨"French", "fr"⟩, ⟨"German", "de"⟩]
    ∃ given copies, (createCopy .unset copy (some listed)).run w =
        (.ok given, { w with keys := w.keys.fresh.2, copies }) ∧ given.1 = none ∧
      Publishes (Lookup.create "en" "empty copy") w .unset copy (some listed) given copies := by
  intro w copy listed
  have code : Field.code "language" (.text "en") = .ok "en" := by decide +kernel
  have made : copy.Made := by
    refine ⟨.text [], .text "en", .text "A door creaks.", .text [], none, none, ?_⟩
    simp only [Copy.create, code, Field.text, bind, Except.bind, pure, Except.pure]
    rfl
  have french : Language.Made ⟨"French", "fr"⟩ :=
    ⟨.text "French", .text "fr", by decide +kernel⟩
  have german : Language.Made ⟨"German", "de"⟩ :=
    ⟨.text "German", .text "de", by decide +kernel⟩
  have tidy : w.copies.Tidy :=
    ⟨List.Pairwise.nil, fun _ _ found => absurd found.symm (Option.some_ne_none _)⟩
  have new : ∀ r ∈ w.copies.rows, r.2.key ≠ w.keys.fresh.1 := fun _ h => absurd h List.not_mem_nil
  have absent : ¬∀ given, some listed = some given → copy.language ∈ given.map (·.code) := by
    intro h
    exact absurd (h listed rfl) (by decide +kernel)
  have madeAll : ∀ given, some listed = some given → ∀ x ∈ given, x.Made := by
    rintro _ ⟨⟩
    simp [listed, french, german]
  rcases createCopy_publishes (Lookup.create "en" "empty copy") tidy made rfl madeAll new
      (by decide +kernel) .unset with ⟨given, copies, hrun, publishes⟩ | ⟨malformed, -⟩
  · refine ⟨given, copies, hrun, ?_, publishes⟩
    exact Option.not_isSome_iff_eq_none.1 fun stored => absent (publishes.stored_iff.1 stored)
  · exact Claim.noConfusion malformed

end TextAdventure
