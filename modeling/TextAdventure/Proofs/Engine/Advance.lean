import TextAdventure.Proofs.Engine.Quiet
import TextAdventure.Proofs.Store.Games

/-! How operations play a game on. Whatever comes of one, the game has at most been stored again in
its place, its log has been extended, and time has passed. Operations that succeed tell exactly what
was added to the log. -/

namespace TextAdventure

open Op
open Table (HeldAt)

variable {α β : Type} {id : Int} {P P' : Game → Prop} {added more : List Content}
  {w w' w'' : World}

/-- The world apart from the games and what changes while they are played. -/
def World.story (w : World) : World :=
  { w with games := .memory {}, journal := {}, locks := {}, clock := { reading := fun _ => 0 } }

/-- `s'` is `s`, but for the game under a number: it may have been stored again, in a form of which
`P` holds. -/
structure Games.Rewrites (id : Int) (P : Game → Prop) (s s' : Games) : Prop where
  self : s'.get? id = s.get? id ∨
    ∃ g, g.id = some id ∧ P g ∧ s'.get? id = (s.reads g).map some
  others : ∀ n, n ≠ id → s'.get? n = s.get? n
  has : ∀ n, s'.Has n ↔ s.Has n
  tidy : s.Tidy → s'.Tidy
  ids : s'.ids = s.ids
  reads : s'.reads = s.reads
  lists : s'.Lists = s.Lists

namespace Games.Rewrites

variable {s s' s'' : Games}

theorem refl (id : Int) (P : Game → Prop) (s : Games) : Rewrites id P s s :=
  ⟨.inl rfl, fun _ _ => rfl, fun _ => Iff.rfl, fun tidy => tidy, rfl, rfl, rfl⟩

theorem trans (h : Rewrites id P s s') (h' : Rewrites id P s' s'') : Rewrites id P s s'' where
  self := by
    rcases h'.self with same | ⟨g, hid, hg, found⟩
    · rw [same]
      exact h.self
    · rw [h.reads] at found
      exact .inr ⟨g, hid, hg, found⟩
  others n ne := (h'.others n ne).trans (h.others n ne)
  has n := (h'.has n).trans (h.has n)
  tidy tidy := h'.tidy (h.tidy tidy)
  ids := h'.ids.trans h.ids
  reads := h'.reads.trans h.reads
  lists := h'.lists.trans h.lists

/-- What is found has been there, or it is the game that is stored again, as it is read back. -/
theorem of_get? {n : Int} {found : Game} (h : Rewrites id P s s')
    (hfound : s'.get? n = .ok (some found)) : s.get? n = .ok (some found) ∨
      n = id ∧ ∃ g, g.id = some id ∧ P g ∧ s.reads g = .ok found := by
  by_cases hn : n = id
  · subst hn
    rcases h.self with same | ⟨g, hid, hg, again⟩
    · exact .inl (same.symm.trans hfound)
    · exact .inr ⟨rfl, g, hid, hg, map_some_eq_ok.1 (again.symm.trans hfound)⟩
  · exact .inl ((h.others n hn).symm.trans hfound)

theorem weaken (h : Rewrites id P' s s') (le : ∀ g, P' g → P g) : Rewrites id P s s' := by
  refine { h with self := h.self.imp_right ?_ }
  rintro ⟨g, hid, hg, found⟩
  exact ⟨g, hid, le g hg, found⟩

/-- Storing a game again, where one is stored. -/
theorem of_puts {g : Game} (h : Puts id g s s') (hid : g.id = some id) (hg : P g)
    (has : s.Has id) (ids : s'.ids = s.ids) : Rewrites id P s s' where
  self := .inr ⟨g, hid, hg, by rw [h.get?, if_pos rfl]⟩
  others n ne := by rw [h.get?, if_neg ne]
  has n := by
    rw [h.has]
    refine ⟨?_, .inr⟩
    rintro (rfl | hn)
    · exact has
    · exact hn
  tidy := h.tidy
  ids
  reads := h.reads
  lists := h.lists

end Games.Rewrites

/-- From one world to another, game `id` has been played on: `added` has gone to the end of its log,
if the game is stored at all. -/
structure Advances (id : Int) (P : Game → Prop) (added : List Content) (w w' : World) : Prop where
  games : Games.Rewrites id P w.games w'.games
  journal : Journal.Extends id added w.journal w'.journal
  story : w'.story = w.story
  stored : added ≠ [] → w.games.Has id

namespace Advances

theorem refl (id : Int) (P : Game → Prop) (w : World) : Advances id P [] w w :=
  ⟨.refl id P _, .refl id _, rfl, fun ne => absurd rfl ne⟩

theorem trans (h : Advances id P added w w') (h' : Advances id P more w' w'') :
    Advances id P (added ++ more) w w'' := by
  refine ⟨h.games.trans h'.games, h.journal.trans h'.journal, h'.story.trans h.story, fun ne => ?_⟩
  by_cases hadded : added = []
  · subst hadded
    exact (h.games.has id).1 (h'.stored ne)
  · exact h.stored hadded

theorem weaken (h : Advances id P' added w w') (le : ∀ g, P' g → P g) : Advances id P added w w' :=
  ⟨h.games.weaken le, h.journal, h.story, h.stored⟩

/-- If only stored games have logs, that is still so. -/
theorem logged (h : Advances id P added w w')
    (logged : ∀ n, w.journal.entries n ≠ [] → w.games.Has n) {n : Int}
    (hn : w'.journal.entries n ≠ []) : w'.games.Has n := by
  rw [h.games.has]
  by_cases same : n = id
  · subst same
    rw [h.journal.self] at hn
    by_cases hadded : added = []
    · subst hadded
      rw [List.append_nil] at hn
      exact logged n hn
    · exact h.stored hadded
  · rw [h.journal.others n same] at hn
    exact logged n hn

end Advances

/-- A game is held by one operation at a time: either the operation is refused, or it runs with the
game held. -/
theorem World.run_holding (timeout : Float) (game : Int) (op : Op α) (w : World) :
    (∃ e, (World.holding timeout game op).run w = (.error e, w)) ∨
      ∃ locks, (World.holding timeout game op).run w =
        ((op.run { w with locks }).1, { (op.run { w with locks }).2 with
          locks := (op.run { w with locks }).2.locks.release game }) := by
  rw [World.holding_eq]
  cases w.locks.hold timeout game with
  | error e => exact .inl ⟨e, rfl⟩
  | ok locks => exact .inr ⟨locks, rfl⟩

/-- Whatever comes of `op`, it plays game `id` on, and if it succeeds, then `Q` holds of its result,
of what it has added to the log and of the world that it leaves. -/
def Plays (id : Int) (P : Game → Prop) (w : World) (op : Op α)
    (Q : α → List Content → World → Prop) : Prop :=
  ∃ added, Advances id P added w (op.run w).2 ∧
    ∀ a, (op.run w).1 = .ok a → Q a added (op.run w).2

namespace Plays

variable {Q : α → List Content → World → Prop} {R : β → List Content → World → Prop}

theorem pure {a : α} (h : Q a [] w) : Plays id P w (Pure.pure a) Q := by
  refine ⟨[], .refl id P w, fun b hb => ?_⟩
  obtain rfl : a = b := Except.ok.inj hb
  exact h

theorem throw (e : Error) : Plays id P w (MonadExcept.throw e : Op α) Q :=
  ⟨[], .refl id P w, fun _ h => nomatch h⟩

theorem bind {x : Op α} {f : α → Op β} (hx : Plays id P w x Q)
    (hf : ∀ a added w', Advances id P added w w' → Q a added w' →
      Plays id P w' (f a) fun b more w'' => R b (added ++ more) w'') :
    Plays id P w (x >>= f) R := by
  obtain ⟨added, advances, result⟩ := hx
  rcases hrun : x.run w with ⟨e | a, w'⟩ <;> rw [hrun] at advances result
  · rw [Plays, run_bind_error hrun]
    exact ⟨added, advances, fun b h => nomatch h⟩
  · obtain ⟨more, advances', result'⟩ := hf a added w' advances (result a rfl)
    rw [Plays, run_bind_ok hrun]
    exact ⟨added ++ more, advances.trans advances', result'⟩

/-- What is read on the way is as it is in the world that the reader meets. -/
theorem read {x : Op α} {f : α → Op β} (readOnly : ReadOnly x)
    (hf : ∀ a, x.run w = (.ok a, w) → Plays id P w (f a) R) : Plays id P w (x >>= f) R := by
  rcases readOnly.run_bind_cases f w with ⟨e, hrun⟩ | ⟨a, hx, hrun⟩ <;> rw [Plays, hrun]
  · exact ⟨[], .refl id P w, fun b h => nomatch h⟩
  · exact hf a hx

theorem weaken {op : Op α} (h : Plays id P' w op Q) (le : ∀ g, P' g → P g) : Plays id P w op Q := by
  obtain ⟨added, advances, result⟩ := h
  exact ⟨added, advances.weaken le, result⟩

theorem mono {op : Op α} {Q' : α → List Content → World → Prop} (h : Plays id P w op Q)
    (imp : ∀ a added w', Advances id P added w w' → Q a added w' → Q' a added w') :
    Plays id P w op Q' := by
  obtain ⟨added, advances, result⟩ := h
  exact ⟨added, advances, fun a ha => imp a added _ advances (result a ha)⟩

/-- Holding a game for the time of an operation. -/
theorem holding {Q : α → List Content → Prop} {op : Op α} (timeout : Float) (game : Int)
    (h : ∀ locks, Plays id P { w with locks } op fun a added _ => Q a added) :
    Plays id P w (World.holding timeout game op) fun a added _ => Q a added := by
  rcases World.run_holding timeout game op w with ⟨e, hrun⟩ | ⟨locks, hrun⟩ <;> rw [Plays, hrun]
  · exact ⟨[], .refl id P w, fun a ha => nomatch ha⟩
  · obtain ⟨added, advances, result⟩ := h locks
    exact ⟨added, ⟨advances.games, advances.journal, advances.story, advances.stored⟩, result⟩

end Plays

end TextAdventure
