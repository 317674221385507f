import TextAdventure.Engine.Opening
import TextAdventure.Proofs.Op
import TextAdventure.Proofs.Store.Copies
import TextAdventure.Proofs.Store.Folder

/-! Writing copy. Placeholders and new texts leave each key and language with at most one copy. New
copy does so where its key and language are free, and nothing looks after that: it is stored all the
same, and a lookup goes on to show the older one. -/

namespace TextAdventure

open Op Authoring

/-- A language that has passed its checks. -/
def Language.Made (l : Language) : Prop := ∃ name code, Language.create name code = .ok l

/-- Copy that has passed its checks. -/
def Copy.Made (c : Copy) : Prop :=
  ∃ key language text name adventure script,
    Copy.create key language text name adventure script = .ok c

theorem Language.Made.coded {l : Language} (made : l.Made) : l.code.Coded := by
  obtain ⟨name, code, h⟩ := made
  obtain ⟨name, -, h⟩ := ok_of_bind h
  obtain ⟨code, hcode, h⟩ := ok_of_bind h
  obtain rfl := Except.ok.inj h
  exact Text.coded_of_code hcode

theorem Copy.Made.coded {c : Copy} (made : c.Made) : c.language.Coded := by
  obtain ⟨key, language, text, name, adventure, script, h⟩ := made
  obtain ⟨key, -, h⟩ := ok_of_bind h
  obtain ⟨language, hlanguage, h⟩ := ok_of_bind h
  obtain ⟨text, -, h⟩ := ok_of_bind h
  obtain rfl := Except.ok.inj h
  exact Text.coded_of_code hlanguage

/-- What writes copy. -/
inductive CopyRequest where
  | seed (languages : Option (List Language))
  | create (claim : Claim) (copy : Copy) (languages : Option (List Language))
  | update (key language text : Text)

namespace CopyRequest

/-- What is handed over has passed its checks. -/
def Checked : CopyRequest → Prop
  | seed languages => ∀ given, languages = some given → ∀ l ∈ given, l.Made
  | create _ copy languages => copy.Made ∧ ∀ given, languages = some given → ∀ l ∈ given, l.Made
  | update _ _ _ => True

/-- Without languages, placeholders are for all that are registered. -/
def perform (engine : Engine) : CopyRequest → Op Unit
  | seed languages => do
    let registered := (← get).languages.list.map (·.2)
    let _ ← seedEmptyCopy engine.settings.emptyCopyText (languages.getD registered)
  | create claim copy languages => do let _ ← createCopy claim copy languages
  | update key language text => do let _ ← updateCopy key language text

/-- The world that a request leaves. -/
def after (engine : Engine) (w : World) (r : CopyRequest) : World := ((r.perform engine).run w).2

/-- The worlds on the way of a sequence of requests, with the first and the last one. -/
def worlds (engine : Engine) : World → List CopyRequest → List World
  | w, [] => [w]
  | w, r :: rest => w :: worlds engine (r.after engine w) rest

/-- Whether `p` holds of each request in the world that it meets. -/
def Throughout (engine : Engine) (p : World → CopyRequest → Prop) : World → List CopyRequest → Prop
  | _, [] => True
  | w, r :: rest => p w r ∧ Throughout engine p (r.after engine w) rest

end CopyRequest

/-- The key that new copy is stored under: its own, or the next fresh one. -/
def World.keyFor (w : World) (copy : Copy) : Text :=
  if copy.key = emptyCopyKey then w.keys.fresh.1 else copy.key

/-- New copy would be stored beside older copy of the same key and language, or twice itself. What
stands under a number that is claimed does not count, since it gives way. -/
def CopyRequest.Clashes (w : World) : CopyRequest → Prop
  | create claim copy none =>
    ∃ n ids, w.copies.ids.assign claim = .ok (n, ids) ∧
      ¬w.copies.Clear n { copy with key := w.keyFor copy }
  | create _ copy (some languages) =>
    ¬(languages.map (·.code)).Nodup ∨ ∃ l ∈ languages, w.copies.Has (w.keyFor copy) l.code
  | _ => False

variable {w : World} {engine : Engine}

/-! ### Writing -/

theorem run_addCopy_unset (copy : Copy) (w : World) :
    (addCopy .unset copy).run w =
      (.ok w.copies.ids.next, { w with copies := w.copies.added copy }) := rfl

theorem run_addCopy_ok {claim : Claim} {n : Int} {ids : IdSequence}
    (assigned : w.copies.ids.assign claim = .ok (n, ids)) (copy : Copy) :
    (addCopy claim copy).run w =
      (.ok n, { w with copies := { w.copies.place n copy with ids } }) := by
  unfold addCopy Table.add
  rw [run_bind_ok (run_get _), assigned]
  rfl

theorem run_addCopy_error {claim : Claim} {e : Error}
    (refused : w.copies.ids.assign claim = .error e) (copy : Copy) :
    (addCopy claim copy).run w = (.error e, w) := by
  unfold addCopy Table.add
  rw [run_bind_ok (run_get _), refused]
  rfl

theorem run_updateCopy_found {key language : Text} {n : Int}
    {copy : Copy} (found : w.copies.find? key language = some (n, copy)) (text : Text) :
    (updateCopy key language text).run w =
      (.ok (n, { copy with text }), { w with copies := w.copies.put n { copy with text } }) := by
  unfold updateCopy
  rw [run_bind_ok (run_get w), found]
  rfl

theorem run_updateCopy_missing {key language : Text}
    (missing : w.copies.find? key language = none) (text : Text) :
    (updateCopy key language text).run w =
      (.error (.notFound .copy (.name (key ++ ":" ++ language))), w) := by
  unfold updateCopy
  rw [run_bind_ok (run_get w), missing]
  rfl

/-! ### Placeholders -/

/-- What becomes of a store as languages get their placeholders, one after the other. -/
inductive Copies.Seeding (text : Text) : List Language → Copies → Rows Copy → Copies → Prop
  | done (s : Copies) : Seeding text [] s [] s
  | skip {l : Language} {languages : List Language} {s s' : Copies} {seeded : Rows Copy}
      (has : s.Has emptyCopyKey l.code) (rest : Seeding text languages s seeded s') :
      Seeding text (l :: languages) s seeded s'
  | add {l : Language} {languages : List Language} {s s' : Copies} {seeded : Rows Copy}
      (absent : ¬s.Has emptyCopyKey l.code)
      (rest : Seeding text languages (s.added (placeholder l.code text)) seeded s') :
      Seeding text (l :: languages) s ((s.ids.next, placeholder l.code text) :: seeded) s'

theorem seeding_of_run (text : Text) {languages : List Language}
    (coded : ∀ l ∈ languages, l.code.Coded) (tidy : w.copies.Tidy) :
    ∃ seeded copies, (seedEmptyCopy text languages).run w = (.ok seeded, { w with copies }) ∧
      Copies.Seeding text languages w.copies seeded copies := by
  induction languages generalizing w with
  | nil => exact ⟨[], w.copies, rfl, .done w.copies⟩
  | cons l rest ih =>
    have here : (w.copies.find? emptyCopyKey l.code).isSome ↔ w.copies.Has emptyCopyKey l.code :=
      Copies.find?_isSome_iff tidy (coded l List.mem_cons_self)
    have later : ∀ l ∈ rest, l.code.Coded := fun l hl => coded l (List.mem_cons_of_mem _ hl)
    unfold seedEmptyCopy
    rw [run_bind_ok (run_get w)]
    by_cases has : (w.copies.find? emptyCopyKey l.code).isSome
    · obtain ⟨seeded, copies, hrun, seeding⟩ := ih later tidy
      rw [if_pos has, hrun]
      exact ⟨seeded, copies, rfl, .skip (here.1 has) seeding⟩
    · let copy := placeholder l.code text
      obtain ⟨seeded, copies, hrun, seeding⟩ :=
        ih (w := { w with copies := w.copies.added copy }) later (tidy.added copy)
      rw [if_neg has, run_bind_ok (run_addCopy_unset copy w), run_bind_ok hrun]
      exact ⟨_, copies, rfl, .add (fun there => has (here.2 there)) seeding⟩

theorem Copies.Seeding.keeps {s s' : Copies} {text : Text} {languages : List Language}
    {seeded : Rows Copy} (h : Seeding text languages s seeded s') (tidy : s.Tidy) :
    s'.Tidy ∧ (s.Unique → s'.Unique) := by
  induction h with
  | done s => exact ⟨tidy, id⟩
  | skip _ _ ih => exact ih tidy
  | @add l languages s seeded s' absent _ ih =>
    let copy := placeholder l.code text
    obtain ⟨tidy', unique⟩ := ih (tidy.added copy)
    exact ⟨tidy', fun before => unique ((tidy.unique_added_iff copy).2 ⟨before, absent⟩)⟩

/-- Placeholders leave everything else as it is, and copy as it should be. -/
theorem run_seedEmptyCopy (text : Text) {languages : List Language}
    (coded : ∀ l ∈ languages, l.code.Coded) (tidy : w.copies.Tidy) :
    ∃ seeded copies, (seedEmptyCopy text languages).run w = (.ok seeded, { w with copies }) ∧
      copies.Tidy ∧ (w.copies.Unique → copies.Unique) := by
  obtain ⟨seeded, copies, hrun, seeding⟩ := seeding_of_run text coded tidy
  exact ⟨seeded, copies, hrun, seeding.keeps tidy⟩

/-! ### New copy -/

theorem run_withKey (copy : Copy) (w : World) : ∃ keys,
    (withKey copy).run w = (.ok { copy with key := w.keyFor copy }, { w with keys }) := by
  unfold withKey World.keyFor
  split
  · exact ⟨_, rfl⟩
  · exact ⟨w.keys, rfl⟩

/-- What `stored` stands for is stored under its number, and is `copy` in its own language. -/
def Copy.StoredAs (copy : Copy) (copies : Copies) (stored : Option Int × Copy) : Prop :=
  ∀ n, stored.1 = some n → copies.get? n = some stored.2 ∧ stored.2.key = copy.key ∧
    stored.2.language = copy.language ∧ stored.2.text = copy.text

/-- `copies'` has all copy of `copies` and finds it first. -/
structure Copies.Grows (copies copies' : Copies) : Prop where
  get? : ∀ n c, copies.get? n = some c → copies'.get? n = some c
  find? : ∀ key language r, copies.find? key language = some r → copies'.find? key language = some r

theorem Copies.Tidy.grows {s : Copies} (tidy : s.Tidy) (c : Copy) : s.Grows (s.added c) := by
  refine ⟨fun n d found => ?_, fun _ _ _ found => tidy.find?_added c found⟩
  have lt := tidy.fresh n d found
  rw [Copies.get?_added, if_neg (by omega)]
  exact found

theorem Copies.Grows.trans {s s' s'' : Copies} (h : s.Grows s') (h' : s'.Grows s'') : s.Grows s'' :=
  ⟨fun n c found => h'.get? n c (h.get? n c found),
    fun key language r found => h'.find? key language r (h.find? key language r found)⟩

/-- An entry for each language: all of them are stored, and there is one copy of each key and language
if and only if there was one and the languages differ and are free. -/
theorem run_addEntries (copy : Copy) (languages : List Language) {own : Option Int × Copy}
    (tidy : w.copies.Tidy) (stored : copy.StoredAs w.copies own) :
    ∃ own' copies, (addEntries copy own languages).run w = (.ok own', { w with copies }) ∧
      copies.Tidy ∧ copy.StoredAs copies own' ∧ w.copies.Grows copies ∧
      (copies.Unique ↔ w.copies.Unique ∧ (languages.map (·.code)).Nodup ∧
        ∀ l ∈ languages, ¬w.copies.Has copy.key l.code) := by
  induction languages generalizing w own with
  | nil =>
    exact ⟨own, w.copies, rfl, tidy, stored, ⟨fun _ _ h => h, fun _ _ _ h => h⟩, by simp⟩
  | cons l rest ih =>
    let entry : Copy :=
      { copy with language := l.code, text := if l.code = copy.language then copy.text else [] }
    let own' : Option Int × Copy :=
      if l.code = copy.language then (some w.copies.ids.next, entry) else own
    have grows := tidy.grows entry
    have stored' : copy.StoredAs (w.copies.added entry) own' := by
      intro n hn
      by_cases same : l.code = copy.language
      · rw [show own' = (some w.copies.ids.next, entry) from if_pos same] at hn ⊢
        obtain rfl := Option.some.inj hn
        exact ⟨by rw [Copies.get?_added, if_pos rfl], rfl, same, if_pos same⟩
      · rw [show own' = own from if_neg same] at hn ⊢
        exact (stored n hn).imp_left (grows.get? n _)
    obtain ⟨final, copies, hrun, tidyFinal, storedFinal, growsFinal, unique⟩ :=
      ih (w := { w with copies := w.copies.added entry }) (tidy.added entry) stored'
    refine ⟨final, copies, ?_, tidyFinal, storedFinal, grows.trans growsFinal, ?_⟩
    · unfold addEntries
      rw [run_bind_ok (run_addCopy_unset entry w)]
      exact hrun
    · -- The rest of the languages are free of the new entry if and only if they differ from its own.
      have free : (∀ l' ∈ rest, ¬(w.copies.added entry).Has copy.key l'.code) ↔
          (∀ l' ∈ rest, ¬w.copies.Has copy.key l'.code) ∧ l.code ∉ rest.map (·.code) := by
        simp only [tidy.has_added, not_or, List.mem_map, not_exists, not_and]
        constructor
        · refine fun h => ⟨fun l' hl' => (h l' hl').1, fun l' hl' same => ?_⟩
          exact (h l' hl').2 rfl same.symm
        · exact fun h l' hl' => ⟨h.1 l' hl', fun _ same => h.2 l' hl' same.symm⟩
      rw [unique, tidy.unique_added_iff, free, List.map_cons, List.nodup_cons, List.forall_mem_cons]
      constructor
      · rintro ⟨⟨before, absent⟩, nodup, absentRest, ne⟩
        exact ⟨before, ⟨ne, nodup⟩, absent, absentRest⟩
      · rintro ⟨before, ⟨ne, nodup⟩, absent, absentRest⟩
        exact ⟨⟨before, absent⟩, nodup, absentRest, ne⟩

/-- Copy goes under the number that it claims, and another one that is there gives way. -/
theorem Copies.Tidy.claim {s : Copies} (tidy : s.Tidy) {claim : Claim} {n : Int} {ids : IdSequence}
    (assigned : s.ids.assign claim = .ok (n, ids)) (c : Copy) :
    Tidy { s.place n c with ids } ∧ (s.Unique → (Unique { s.place n c with ids } ↔ s.Clear n c)) := by
  have lt := IdSequence.of_assign assigned
  refine ⟨⟨Table.ascending_place tidy.ascending n c, fun m d found => ?_⟩, fun unique => ?_⟩
  · rcases Table.get?_place_eq_some.1 found with ⟨rfl, -⟩ | ⟨-, found⟩
    · exact lt.1
    · exact Int.lt_of_lt_of_le (tidy.fresh m d found) lt.2
  · exact Copies.unique_place_iff.trans (and_iff_right (unique.remove n))

/-- Storing new copy has come to `outcome` and left `copies`. There is one copy of each key and
language then if and only if the request does not clash. -/
structure Copy.Creates (copy : Copy) (claim : Claim) (languages : Option (List Language)) (w : World)
    (outcome : Except Error (Option Int × Copy)) (copies : Copies) : Prop where
  tidy : copies.Tidy
  unique : w.copies.Unique →
    (copies.Unique ↔ ¬(CopyRequest.create claim copy languages).Clashes w)
  stored : ∀ own, outcome = .ok own → ({ copy with key := w.keyFor copy } : Copy).StoredAs copies own
  grows : claim = .unset → w.copies.Grows copies

section Creating

variable {claim : Claim} {copy : Copy}

/-- An entry for each language that is given. -/
theorem creates_entries {given : List Language} (tidy : w.copies.Tidy) (keys : Keys) :
    ∃ own copies, (addEntries { copy with key := w.keyFor copy }
        (none, { copy with key := w.keyFor copy }) given).run { w with keys } =
          (.ok own, { w with keys, copies }) ∧
      copy.Creates claim (some given) w (.ok own) copies := by
  have none : ({ copy with key := w.keyFor copy } : Copy).StoredAs w.copies
      (none, { copy with key := w.keyFor copy }) := nofun
  obtain ⟨own, copies, hrun, tidy', stored, grows, iff⟩ :=
    run_addEntries (w := { w with keys }) { copy with key := w.keyFor copy } given tidy none
  refine ⟨own, copies, hrun, tidy', fun unique => ?_, fun s hs => ?_, fun _ => grows⟩
  · rw [iff, CopyRequest.Clashes]
    simp only [not_or, not_exists, not_and, Decidable.not_not]
    exact and_iff_right unique
  · obtain rfl := Except.ok.inj hs
    exact stored

/-- A number that is refused. -/
theorem creates_refused {e : Error} (tidy : w.copies.Tidy)
    (refused : w.copies.ids.assign claim = .error e) :
    copy.Creates claim none w (.error e) w.copies where
  tidy := tidy
  unique unique := by
    refine iff_of_true unique ?_
    rintro ⟨n, ids, assigned, -⟩
    exact nomatch refused.symm.trans assigned
  stored := nofun
  grows _ := ⟨fun _ _ h => h, fun _ _ _ h => h⟩

/-- A number that is assigned. -/
theorem creates_assigned {n : Int} {ids : IdSequence} (tidy : w.copies.Tidy)
    (assigned : w.copies.ids.assign claim = .ok (n, ids)) :
    copy.Creates claim none w (.ok (some n, { copy with key := w.keyFor copy }))
      { w.copies.place n { copy with key := w.keyFor copy } with ids } := by
  obtain ⟨tidy', iff⟩ := tidy.claim assigned { copy with key := w.keyFor copy }
  refine ⟨tidy', fun unique => ?_, fun s hs m hm => ?_, fun unset => ?_⟩
  · rw [iff unique]
    constructor
    · rintro clear ⟨m, ids', assigned', clash⟩
      obtain ⟨rfl, -⟩ := Prod.mk.inj (Except.ok.inj (assigned.symm.trans assigned'))
      exact clash clear
    · intro free
      by_contra clash
      exact free ⟨n, ids, assigned, clash⟩
  · obtain rfl := Except.ok.inj hs
    obtain rfl := Option.some.inj hm
    exact ⟨(Table.get?_place _ _ _ _).trans (if_pos rfl), rfl, rfl, rfl⟩
  · subst unset
    obtain ⟨rfl, rfl⟩ := Prod.mk.inj (Except.ok.inj assigned)
    exact tidy.grows _

end Creating

/-- What comes of storing new copy: it is refused for its claim, or it is stored. -/
theorem run_createCopy (claim : Claim) (copy : Copy) (languages : Option (List Language))
    (tidy : w.copies.Tidy) :
    ∃ outcome keys copies, (createCopy claim copy languages).run w =
        (outcome, { w with keys, copies }) ∧ copy.Creates claim languages w outcome copies := by
  obtain ⟨keys, hkey⟩ := run_withKey copy w
  unfold createCopy
  rw [run_bind_ok hkey]
  cases languages with
  | some given =>
    obtain ⟨own, copies, hrun, creates⟩ := creates_entries tidy keys
    exact ⟨.ok own, keys, copies, hrun, creates⟩
  | none =>
    cases assigned : w.copies.ids.assign claim with
    | error e =>
      have refused := run_addCopy_error (w := { w with keys }) assigned
        { copy with key := w.keyFor copy }
      exact ⟨.error e, keys, w.copies, run_bind_error refused, creates_refused tidy assigned⟩
    | ok given =>
      obtain ⟨n, ids⟩ := given
      have placed := run_addCopy_ok (w := { w with keys }) assigned
        { copy with key := w.keyFor copy }
      exact ⟨_, keys, _, run_bind_ok placed, creates_assigned tidy assigned⟩

/-! ### Requests -/

theorem mem_list {languages : Languages} {p : Int × Language} (h : p ∈ languages.list) :
    p ∈ languages.entries := List.mem_mergeSort.1 h

namespace CopyRequest

theorem head_mem_worlds (engine : Engine) (requests : List CopyRequest) :
    w ∈ worlds engine w requests := by
  cases requests <;> simp [worlds]

/-- After a request there is one copy of each key and language if and only if it does not clash. -/
theorem unique_after_iff (engine : Engine) {r : CopyRequest} (checked : r.Checked) (tidy : w.copies.Tidy)
    (registered : ∀ e ∈ w.languages.entries, e.2.code.Coded) :
    (r.after engine w).copies.Tidy ∧ (r.after engine w).languages = w.languages ∧
      (w.copies.Unique → ((r.after engine w).copies.Unique ↔ ¬r.Clashes w)) := by
  cases r with
  | seed languages =>
    have coded : ∀ l ∈ languages.getD (w.languages.list.map (·.2)), l.code.Coded := by
      intro l hl
      cases languages with
      | some given => exact (checked given rfl l hl).coded
      | none =>
        obtain ⟨p, hp, rfl⟩ := List.mem_map.1 hl
        exact registered p (mem_list hp)
    obtain ⟨seeded, copies, hrun, tidy', unique'⟩ :=
      run_seedEmptyCopy engine.settings.emptyCopyText coded tidy
    rw [after, perform, run_bind_ok (run_get w), run_bind_ok hrun]
    exact ⟨tidy', rfl, fun unique => iff_of_true (unique' unique) id⟩
  | create claim copy languages =>
    obtain ⟨outcome, keys, copies, hrun, tidy', iff, -⟩ :=
      run_createCopy claim copy languages tidy
    rw [after, perform, run_bind, hrun]
    cases outcome <;> exact ⟨tidy', rfl, iff⟩
  | update key language text =>
    rw [after, perform]
    cases found : w.copies.find? key language with
    | none =>
      rw [run_bind_error (run_updateCopy_missing found text)]
      exact ⟨tidy, rfl, fun unique => iff_of_true unique id⟩
    | some r =>
      rw [run_bind_ok (run_updateCopy_found found text)]
      obtain ⟨stored, -⟩ := Copies.find?_eq_some tidy found
      exact ⟨tidy.put stored _, rfl, fun unique =>
        iff_of_true (Copies.unique_put unique stored rfl rfl) id⟩

/-- Requests keep each key and language to one copy if and only if none of them clashes. -/
theorem worlds_unique_iff {requests : List CopyRequest} (checked : ∀ r ∈ requests, r.Checked)
    (tidy : w.copies.Tidy) (unique : w.copies.Unique)
    (registered : ∀ e ∈ w.languages.entries, e.2.code.Coded) :
    (∀ v ∈ worlds engine w requests, v.copies.Unique) ↔
      Throughout engine (fun v r => ¬r.Clashes v) w requests := by
  induction requests generalizing w with
  | nil => simp [worlds, Throughout, unique]
  | cons r rest ih =>
    obtain ⟨tidy', languages, iff⟩ :=
      unique_after_iff engine (checked r List.mem_cons_self) tidy registered
    have rest' (unique' : (r.after engine w).copies.Unique) :=
      ih (fun b hb => checked b (List.mem_cons_of_mem _ hb)) tidy' unique' (by rwa [languages])
    rw [worlds, Throughout, List.forall_mem_cons]
    constructor
    · rintro ⟨-, along⟩
      have unique' := along _ (head_mem_worlds engine rest)
      exact ⟨(iff unique).1 unique', (rest' unique').1 along⟩
    · rintro ⟨free, along⟩
      exact ⟨unique, (rest' ((iff unique).2 free)).2 along⟩

theorem worlds_tidy {requests : List CopyRequest} (checked : ∀ r ∈ requests, r.Checked)
    (tidy : w.copies.Tidy) (registered : ∀ e ∈ w.languages.entries, e.2.code.Coded) :
    ∀ v ∈ worlds engine w requests, v.copies.Tidy := by
  induction requests generalizing w with
  | nil => simpa [worlds] using tidy
  | cons r rest ih =>
    obtain ⟨tidy', languages, -⟩ :=
      unique_after_iff engine (checked r List.mem_cons_self) tidy registered
    rw [worlds, List.forall_mem_cons]
    exact ⟨tidy, ih (fun b hb => checked b (List.mem_cons_of_mem _ hb)) tidy' (by rwa [languages])⟩

end CopyRequest

/-! ### A fresh engine -/

theorem coded_register {languages registered : Languages} {given : List (Claim × Language)}
    (made : ∀ l ∈ given, l.2.Made) (coded : ∀ e ∈ languages.entries, e.2.code.Coded)
    (h : languages.register given = .ok registered) : ∀ e ∈ registered.entries, e.2.code.Coded := by
  induction given generalizing languages with
  | nil =>
    obtain rfl := Except.ok.inj h
    exact coded
  | cons l rest ih =>
    obtain ⟨claim, language⟩ := l
    obtain ⟨added, hadd, h⟩ := ok_of_bind h
    refine ih (fun l hl => made l (List.mem_cons_of_mem _ hl)) ?_ h
    unfold Languages.add at hadd
    split at hadd
    · exact nomatch hadd
    split at hadd
    · exact nomatch hadd
    obtain rfl := Except.ok.inj hadd
    intro e he
    rcases List.mem_append.1 he with he | he
    · exact coded e he
    · obtain rfl := List.mem_singleton.1 he
      exact (made _ List.mem_cons_self).coded

/-- An engine opens with a placeholder for each of its languages. -/
theorem Engine.open_copies {settings : Settings} {runtime : Except Error (Option Runtime)}
    {languages : Option (List (Claim × Language))} {directory : Option Directory} {clock : Clock}
    {keys : Keys}
    (opens : Engine.open settings runtime languages directory clock keys = .ok (engine, w))
    (made : ∀ given, languages = some given → ∀ l ∈ given, l.2.Made) :
    w.copies.Tidy ∧ w.copies.Unique ∧ ∀ e ∈ w.languages.entries, e.2.code.Coded := by
  obtain ⟨given, madeGiven, registered, games, hregistered, hw⟩ :
      ∃ given : List (Claim × Language), (∀ l ∈ given, l.2.Made) ∧ ∃ registered games,
        Languages.register {} given = .ok registered ∧
        w = ((seedEmptyCopy settings.emptyCopyText (registered.list.map (·.2))).run
          { games, languages := registered, clock, keys }).2 := by
    unfold Engine.open at opens
    cases languages
    all_goals
      obtain ⟨given, hgiven, opens⟩ := ok_of_bind opens
      obtain ⟨games, -, opens⟩ := ok_of_bind opens
      obtain ⟨registered, hregistered, opens⟩ := ok_of_bind opens
      obtain ⟨runtime, -, opens⟩ := ok_of_bind opens
      obtain ⟨-, -, opens⟩ := ok_of_bind opens
      obtain ⟨seeded, -, opens⟩ := ok_of_bind opens
      refine ⟨given, ?_, registered, games, hregistered, (Prod.mk.inj (Except.ok.inj opens)).2.symm⟩
    · obtain ⟨l, hl, rfl⟩ := map_ok hgiven
      intro p hp
      obtain rfl := List.mem_singleton.1 hp
      exact ⟨_, _, hl⟩
    · obtain rfl := Except.ok.inj hgiven
      exact made _ rfl
  have coded := coded_register madeGiven (fun e he => absurd he List.not_mem_nil) hregistered
  have codedList : ∀ l ∈ registered.list.map (·.2), l.code.Coded := by
    intro l hl
    obtain ⟨p, hp, rfl⟩ := List.mem_map.1 hl
    exact coded p (mem_list hp)
  obtain ⟨seeded, copies, hrun, tidy, unique⟩ := run_seedEmptyCopy
    (w := { games, languages := registered, clock, keys }) settings.emptyCopyText codedList
    Copies.tidy_empty
  rw [hw, hrun]
  exact ⟨tidy, unique nofun, coded⟩

theorem Lookup.resolve_of_find? {l : Lookup} {copies : Copies} {key language : Text}
    {r : Int × Copy} (coded : language.Coded) (found : copies.find? key language = some r) :
    l.resolve copies key (some language) = r.2.text := by
  rw [resolve, Lookup.code_coded coded, found]

/-- However copy is written from a fresh engine on, each key and language names at most one copy if and
only if no new copy clashes. New copy that does not clash is shown. Where older copy of its key and
language is found, this is still what is shown. -/
theorem copies_unique_iff {settings : Settings} {runtime : Except Error (Option Runtime)}
    {languages : Option (List (Claim × Language))} {directory : Option Directory} {clock : Clock}
    {keys : Keys}
    (opens : Engine.open settings runtime languages directory clock keys = .ok (engine, w))
    (made : ∀ given, languages = some given → ∀ l ∈ given, l.2.Made)
    {requests : List CopyRequest} (checked : ∀ r ∈ requests, r.Checked) :
    ((∀ v ∈ CopyRequest.worlds engine w requests, v.copies.Unique) ↔
      CopyRequest.Throughout engine (fun v r => ¬r.Clashes v) w requests) ∧
    ∀ v ∈ CopyRequest.worlds engine w requests, ∀ claim copy given n stored v', copy.Made →
      (createCopy claim copy given).run v = (.ok (some n, stored), v') →
      stored.key = v.keyFor copy ∧ stored.language = copy.language ∧
      (v.copies.Unique → ¬(CopyRequest.create claim copy given).Clashes v →
        engine.lookup.resolve v'.copies stored.key (some stored.language) = copy.text) ∧
      ∀ m older, claim = .unset → v.copies.find? stored.key stored.language = some (m, older) →
        engine.lookup.resolve v'.copies stored.key (some stored.language) = older.text := by
  obtain ⟨tidy, unique, registered⟩ := Engine.open_copies opens made
  refine ⟨CopyRequest.worlds_unique_iff checked tidy unique registered,
    fun v hv claim copy given n stored v' madeCopy hrun => ?_⟩
  have tidyHere := CopyRequest.worlds_tidy checked tidy registered v hv
  obtain ⟨outcome, keys', copies, hcreate, tidyAfter, iff, storedAs, grows⟩ :=
    run_createCopy claim copy given tidyHere
  obtain ⟨rfl, rfl⟩ := Prod.mk.inj (hcreate.symm.trans hrun)
  obtain ⟨found, hkey, hlanguage, htext⟩ := storedAs _ rfl n rfl
  have coded : stored.language.Coded := by
    rw [hlanguage]
    exact madeCopy.coded
  refine ⟨hkey, hlanguage, fun uniqueHere free => ?_, fun m older hclaim hfound => ?_⟩
  · have uniqueAfter : copies.Unique := (iff uniqueHere).2 free
    have shown := Copies.find?_of_unique tidyAfter uniqueAfter found coded
    exact (Lookup.resolve_of_find? coded shown).trans htext
  · exact Lookup.resolve_of_find? coded ((grows hclaim).find? _ _ _ hfound)

/-- A greeting is written, and written once more under the same key. -/
theorem copies_unique_iff_greeting :
    ∃ engine w, Engine.open {} (.ok none) none none { reading := fun _ => 0 } { key := fun _ => [] } =
        .ok (engine, w) ∧
      let greeting : Copy := { key := "greeting", language := "en", text := "Hello." }
      let again : Copy := { key := "greeting", language := "en", text := "Welcome." }
      let requests : List CopyRequest :=
        [.create .unset greeting none, .seed none, .create .unset again none]
      ((∀ v ∈ CopyRequest.worlds engine w requests, v.copies.Unique) ↔
        CopyRequest.Throughout engine (fun v r => ¬r.Clashes v) w requests) := by
  have made (text : Text) : Copy.Made { key := "greeting", language := "en", text } := by
    refine ⟨.text "greeting", .text "en", .text text, .text [], none, none, ?_⟩
    have code : Field.code "language" (.text "en") = .ok "en" := by decide +kernel
    have strip : Text.strip "greeting" = "greeting" := by decide +kernel
    simp only [Copy.create, code, Field.text, strip, bind, Except.bind, pure, Except.pure]
    rfl
  cases opens : Engine.open {} (.ok none) none none { reading := fun _ => 0 } { key := fun _ => [] } with
  | error e =>
    have succeeds : (Engine.open {} (.ok none) none none { reading := fun _ => 0 }
      { key := fun _ => [] }).toBool = true := by decide +kernel
    rw [opens] at succeeds
    cases succeeds
  | ok opened =>
    refine ⟨opened.1, opened.2, rfl, (copies_unique_iff opens (by simp) ?_).1⟩
    simp [CopyRequest.Checked, made]

end TextAdventure
