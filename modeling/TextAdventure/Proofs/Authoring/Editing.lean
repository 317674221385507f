import TextAdventure.Engine.Reading
import TextAdventure.Proofs.Authoring.Copies
import TextAdventure.Proofs.Store.Games
import TextAdventure.Proofs.Store.Lookups

/-! Stored copy that is edited. Lookups in a language see nothing of what happens to copy of other
languages. A new text is what is shown from then on for its key in its language, even where the store
has more copy of them. -/

namespace TextAdventure

open Op Authoring

variable {w : World} {s s' : Copies} {key language text code : Text}

/-! ### Edits -/

/-- What changes stored copy. -/
inductive CopyEdit where
  | add (claim : Claim) (copy : Copy)
  | reword (key language text : Text)
  | remove (id : Int)

namespace CopyEdit

def perform : CopyEdit → Op Unit
  | add claim copy => do let _ ← addCopy claim copy
  | reword key language text => do let _ ← updateCopy key language text
  | remove id => modify fun w => { w with copies := w.copies.remove id }

/-- The world that an edit leaves. -/
def after (w : World) (e : CopyEdit) : World := (e.perform.run w).2

/-- The world that a sequence of edits leaves. -/
def left (w : World) (edits : List CopyEdit) : World := edits.foldl after w

/-- What an edit makes of a store: it is refused, or it does what it says. -/
inductive Makes (s : Copies) : CopyEdit → Copies → Prop
  | refused {claim : Claim} {copy : Copy} {e : Error} (h : s.ids.assign claim = .error e) :
    Makes s (add claim copy) s
  | added {claim : Claim} {copy : Copy} {n : Int} {ids : IdSequence}
    (h : s.ids.assign claim = .ok (n, ids)) : Makes s (add claim copy) { s.place n copy with ids }
  | missing {key language text : Text} (h : s.find? key language = none) :
    Makes s (reword key language text) s
  | reworded {key language text : Text} {n : Int} {copy : Copy}
    (h : s.find? key language = some (n, copy)) :
    Makes s (reword key language text) (s.put n { copy with text })
  | removed {id : Int} : Makes s (remove id) (s.remove id)

theorem makes_after (w : World) (e : CopyEdit) : Makes w.copies e (e.after w).copies := by
  unfold after perform
  cases e with
  | add claim copy =>
    cases assigned : w.copies.ids.assign claim with
    | error e =>
      rw [run_bind_error (run_addCopy_error assigned copy)]
      exact .refused assigned
    | ok r =>
      rw [run_bind_ok (run_addCopy_ok assigned copy)]
      exact .added assigned
  | reword key language text =>
    cases found : w.copies.find? key language with
    | none =>
      rw [run_bind_error (run_updateCopy_missing found text)]
      exact .missing found
    | some r =>
      rw [run_bind_ok (run_updateCopy_found found text)]
      exact .reworded found
  | remove id => exact .removed

/-- New copy has passed its checks. -/
def Checked : CopyEdit → Prop
  | add _ copy => copy.Made
  | _ => True

namespace Makes

variable {e : CopyEdit}

theorem tidy (h : Makes s e s') (tidy : s.Tidy) : s'.Tidy := by
  cases h with
  | refused _ | missing _ => exact tidy
  | added assigned => exact (tidy.claim assigned _).1
  | reworded found => exact tidy.put (Copies.find?_eq_some tidy found).1 _
  | removed => exact tidy.remove _

theorem sound (h : Makes s e s') (sound : s.Sound) (checked : e.Checked) : s'.Sound := by
  refine ⟨h.tidy sound.toTidy, fun n c stored => ?_⟩
  cases h with
  | refused _ | missing _ => exact sound.coded n c stored
  | added assigned =>
    rcases Table.get?_place_eq_some.1 stored with ⟨-, rfl⟩ | ⟨-, stored⟩
    · exact Copy.Made.coded checked
    · exact sound.coded n c stored
  | reworded found =>
    rcases Table.get?_put_eq_some.1 stored with ⟨-, rfl⟩ | ⟨-, stored⟩
    · have coded := sound.coded _ _ (Copies.find?_eq_some sound.toTidy found).1
      exact coded
    · exact sound.coded n c stored
  | removed => exact sound.coded n c (Table.get?_remove_eq_some.1 stored).2

end Makes

theorem tidy_left (tidy : w.copies.Tidy) (edits : List CopyEdit) : (left w edits).copies.Tidy := by
  induction edits generalizing w with
  | nil => exact tidy
  | cons e rest ih => exact ih ((makes_after w e).tidy tidy)

/-- Copy that is added after its checks, reworded and removed in any order stays sound. -/
theorem sound_left (sound : w.copies.Sound) {edits : List CopyEdit}
    (checked : ∀ e ∈ edits, e.Checked) : (left w edits).copies.Sound := by
  induction edits generalizing w with
  | nil => exact sound
  | cons e rest ih =>
    exact ih ((makes_after w e).sound sound (checked e List.mem_cons_self)) fun b hb =>
      checked b (List.mem_cons_of_mem _ hb)

/-! ### Other languages -/

/-- The edit touches no copy in a language: neither new copy nor what it changes or removes is in it,
nor what gives way to new copy. -/
def Spares (code : Text) (s : Copies) : CopyEdit → Prop
  | add (.number n) copy => copy.language ≠ code ∧ ∀ c ∈ s.get? n, c.language ≠ code
  | add _ copy => copy.language ≠ code
  | reword key language _ => ∀ r ∈ s.find? key language, r.2.language ≠ code
  | remove id => ∀ c ∈ s.get? id, c.language ≠ code

instance (code : Text) (s : Copies) (e : CopyEdit) : Decidable (e.Spares code s) :=
  match e with
  | add (.number n) copy =>
    inferInstanceAs (Decidable (copy.language ≠ code ∧ ∀ c ∈ s.get? n, c.language ≠ code))
  | add .unset copy | add .malformed copy => inferInstanceAs (Decidable (copy.language ≠ code))
  | reword key language _ =>
    inferInstanceAs (Decidable (∀ r ∈ s.find? key language, r.2.language ≠ code))
  | remove id => inferInstanceAs (Decidable (∀ c ∈ s.get? id, c.language ≠ code))

/-- Each of a sequence of edits touches no copy in a language, in the world that it meets. -/
def AllSpare (code : Text) : World → List CopyEdit → Prop
  | _, [] => True
  | w, e :: rest => e.Spares code w.copies ∧ AllSpare code (e.after w) rest

/-- What is in a language stays as it is, with its numbers, while other copy is edited. -/
theorem Makes.inLanguage {e : CopyEdit} (h : Makes s e s') (tidy : s.Tidy) (coded : code.Coded)
    (spares : e.Spares code s) : s'.inLanguage code = s.inLanguage code := by
  have outside {c : Copy} (ne : c.language ≠ code) : decide (c.language = code.lower) = false := by
    rw [coded.lower]
    exact decide_eq_false ne
  cases h with
  | refused _ | missing _ => rfl
  | @added claim copy n ids assigned =>
    have free : copy.language ≠ code ∧ ∀ c ∈ s.get? n, c.language ≠ code := by
      cases claim with
      | unset =>
        obtain ⟨rfl, -⟩ := Prod.mk.inj (Except.ok.inj assigned)
        refine ⟨spares, fun c stored => ?_⟩
        exact nomatch tidy.get?_next.symm.trans stored
      | number k =>
        obtain ⟨rfl, -⟩ := Prod.mk.inj (Except.ok.inj assigned)
        exact spares
      | malformed => exact nomatch assigned
    exact Table.select_place tidy.ascending (outside free.1) fun c stored => outside (free.2 c stored)
  | reworded found =>
    have ne := spares _ found
    obtain ⟨stored, -⟩ := Copies.find?_eq_some tidy found
    refine Table.select_put (outside ne) fun c stored' => ?_
    obtain rfl := Option.some.inj (stored.symm.trans stored')
    exact outside ne
  | removed => exact Table.select_remove tidy.ascending fun c stored => outside (spares c stored)

theorem inLanguage_left (tidy : w.copies.Tidy) (coded : code.Coded) {edits : List CopyEdit}
    (spared : AllSpare code w edits) :
    (left w edits).copies.inLanguage code = w.copies.inLanguage code := by
  induction edits generalizing w with
  | nil => rfl
  | cons e rest ih =>
    have makes := makes_after w e
    exact (ih (makes.tidy tidy) spared.2).trans (makes.inLanguage tidy coded spared.1)

/-- However copy of other languages is added, reworded and removed, whatever is looked up in a language
shows the same, however the language is spelled. -/
theorem lookups_spared (tidy : w.copies.Tidy) (coded : code.Coded) {edits : List CopyEdit}
    (spared : AllSpare code w edits) {spelling : Text} (spelled : spelling.strip.lower = code)
    (l : Lookup) :
    (∀ key, l.resolve (left w edits).copies key (some spelling) =
      l.resolve w.copies key (some spelling)) ∧
    (∀ keys, l.resolveAll (left w edits).copies keys (some spelling) =
      l.resolveAll w.copies keys (some spelling)) ∧
    l.placeholder (left w edits).copies (some spelling) = l.placeholder w.copies (some spelling) := by
  have same := inLanguage_left tidy coded spared
  exact ⟨Lookup.resolve_of_inLanguage coded spelled same l,
    Lookup.resolveAll_of_inLanguage coded spelled same l,
    Lookup.placeholder_of_inLanguage coded spelled same l⟩

/-- An English text stays while a Spanish one comes, changes and goes. -/
theorem lookups_spared_door :
    let start : World := { clock := { reading := fun _ => 0 }, keys := { key := fun _ => [] } }
    let w := left start [.add .unset { key := "door", language := "en", text := "A door." }]
    let edits : List CopyEdit :=
      [.add .unset { key := "door", language := "es", text := "Una puerta." },
        .reword "door" "ES" "La puerta.", .remove 2]
    let l := Lookup.create "en" "empty copy"
    Text.Coded "en" ∧ AllSpare "en" w edits ∧ Text.lower (Text.strip " EN ") = "en" ∧
      (∀ key, l.resolve (left w edits).copies key (some " EN ") =
        l.resolve w.copies key (some " EN ")) ∧
      (∀ keys, l.resolveAll (left w edits).copies keys (some " EN ") =
        l.resolveAll w.copies keys (some " EN ")) ∧
      l.placeholder (left w edits).copies (some " EN ") =
        l.placeholder w.copies (some " EN ") := by
  intro start w edits l
  have coded : Text.Coded "en" := ⟨by decide +kernel, by decide⟩
  have tidy : w.copies.Tidy := tidy_left Copies.tidy_empty _
  have spared : AllSpare "en" w edits :=
    ⟨by decide +kernel, by decide +kernel, by decide +kernel, trivial⟩
  have spelled : Text.lower (Text.strip " EN ") = "en" := by decide +kernel
  exact ⟨coded, spared, spelled, lookups_spared tidy coded spared spelled l⟩

end CopyEdit

/-! ### New texts -/

/-- The text at a position of a game's log: that of the entry there, in the language of the game. -/
theorem Engine.textAt_eq (engine : Engine) (game position : Int) (w : World) :
    ((engine.textAt game position).run w).1 =
      match w.games.get? game, w.journal.get? game position with
      | .error e, _ => .error e
      | .ok none, _ => .error (.notFound .game game)
      | .ok (some _), none =>
        .error (.notFound .content (.name (Text.ofInt game ++ ":" ++ Text.ofInt position)))
      | .ok (some g), some entry => .ok (entry.shownText engine.lookup w.copies g.language) := by
  have read : (position : Identifier).key?.bind (w.journal.get? game) =
      w.journal.get? game position := rfl
  unfold textAt
  rw [run_bind, World.run_game_eq]
  rcases w.games.get? game with e | _ | g
  · rfl
  · rfl
  · dsimp only
    rw [run_bind_ok (World.run_gameNumber_number game w), run_bind_ok (run_get w), read]
    cases w.journal.get? game position <;> rfl

/-- Texts that are logged as they are read the same, whatever becomes of copy. -/
theorem Engine.textAt_literal (engine : Engine) {game position : Int} {entry : Content}
    (logged : w.journal.get? game position = some entry) (literal : entry.body = .literal text)
    (copies : Copies) : ((engine.textAt game position).run { w with copies }).1 =
      ((engine.textAt game position).run w).1 := by
  have kept (copies : Copies) (language : Text) :
      entry.shownText engine.lookup copies language = text := by rw [Content.shownText, literal]
  rw [textAt_eq, textAt_eq]
  dsimp only
  rw [logged]
  rcases w.games.get? game with e | _ | g
  · rfl
  · rfl
  · exact congrArg Except.ok ((kept _ _).trans (kept _ _).symm)

/-- A new text is found for its key in its language, and nothing else that is looked up or has been
logged as a text changes; keys without copy have the new text if it is that of the placeholder. Where
there is no copy of the key in the language nothing changes at all. -/
theorem updateCopy_rewords (engine : Engine) (sound : w.copies.Sound) (key language text : Text) :
    (∃ n copy copies, w.copies.find? key language = some (n, copy) ∧
      (updateCopy key language text).run w = (.ok (n, { copy with text }), { w with copies }) ∧
      engine.lookup.Rewords w.copies key language text copies ∧
      ∀ (game position : Int) (entry : Content) (shown : Text),
        w.journal.get? game position = some entry → entry.body = .literal shown →
        ((engine.textAt game position).run { w with copies }).1 =
          ((engine.textAt game position).run w).1) ∨
    ¬w.copies.Has key language.lower ∧ (updateCopy key language text).run w =
      (.error (.notFound .copy (.name (key ++ ":" ++ language))), w) := by
  cases found : w.copies.find? key language with
  | none => exact .inr ⟨Copies.find?_eq_none found, run_updateCopy_missing found text⟩
  | some r =>
    obtain ⟨n, copy⟩ := r
    have normal : engine.lookup.Normal := Lookup.normal_create _ _
    have rewords := Lookup.rewords_put normal sound found text
    exact .inl ⟨n, copy, _, rfl, run_updateCopy_found found text, rewords,
      fun _ _ _ _ logged literal => engine.textAt_literal logged literal _⟩

/-- Of two texts for a door the first is the one that is shown, and the one that changes. -/
theorem updateCopy_rewords_door :
    let start : World := { clock := { reading := fun _ => 0 }, keys := { key := fun _ => [] } }
    let first : Copy := { key := "door", language := "en", text := "A door." }
    let second : Copy := { key := "door", language := "en", text := "The door." }
    let w := CopyEdit.left start [.add .unset first, .add .unset second]
    let engine : Engine := {}
    ∃ n copy copies, w.copies.find? "door" "EN" = some (n, copy) ∧
      (updateCopy "door" "EN" "An old door.").run w =
        (.ok (n, { copy with text := "An old door." }), { w with copies }) ∧
      engine.lookup.Rewords w.copies "door" "EN" "An old door." copies := by
  intro start first second w engine
  have made : first.Made ∧ second.Made :=
    ⟨⟨.text "door", .text "en", .text "A door.", .text [], none, none, by decide +kernel⟩,
      ⟨.text "door", .text "en", .text "The door.", .text [], none, none, by decide +kernel⟩⟩
  have sound : w.copies.Sound := by
    refine CopyEdit.sound_left Copies.sound_empty ?_
    simp [CopyEdit.Checked, made]
  have found : (w.copies.find? "door" "EN").isSome := by decide +kernel
  rcases updateCopy_rewords engine sound "door" "EN" "An old door." with
    ⟨n, copy, copies, here, run, rewords, -⟩ | ⟨absent, -⟩
  · exact ⟨n, copy, copies, here, run, rewords⟩
  · obtain ⟨r, hr⟩ := Option.isSome_iff_exists.1 found
    obtain ⟨stored, same⟩ := Copies.find?_eq_some sound.toTidy hr
    exact absurd ⟨r.1, r.2, stored, same⟩ absent

end TextAdventure
