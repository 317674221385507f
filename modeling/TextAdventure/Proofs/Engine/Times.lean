import TextAdventure.Proofs.Engine.Arriving
import TextAdventure.Proofs.Store.Contents

/-! When games come to where they are. From one world to a later one, every game rests where it was, or
has come to its location since, at a time that the clock has told meanwhile. What is done to play one
game keeps to this, whatever its scripts have the host do to others. -/

namespace TextAdventure

open Op
open Authoring (dropGame)

variable {engine : Engine} {told : World → Json → Prop} {u v w w' : World} {n till till' : Int}
  {g g' : Game} {P : Int → Game → Prop}

/-- A game is still where another one is, since the same time. -/
def Game.Rests (g g' : Game) : Prop :=
  g'.location = g.location ∧ g'.locationTimestamp = g.locationTimestamp

/-- A game has come to its location after one time and not after another. -/
def Game.Came (since till : Int) (g : Game) : Prop :=
  since < g.locationTimestamp ∧ g.locationTimestamp ≤ till

theorem Game.ofCourse_came (since till : Int) : OfCourse (Game.Came since till) := by
  intro g g' _ _ _ time came
  unfold Came
  rwa [time]

/-- Game `n` rests as it is in `v`, or has come to its location since then. -/
def World.Dates (v : World) (n till : Int) (g : Game) : Prop :=
  (∃ g₀, v.games.get? n = .ok (some g₀) ∧ g₀.Rests g) ∨ g.Came v.clock.last till

namespace World.Dates

theorem mono (dates : v.Dates n till g) (le : till ≤ till') : v.Dates n till' g :=
  dates.imp_right fun came => ⟨came.1, came.2.trans le⟩

theorem rests (dates : v.Dates n till g) (rests : g.Rests g') : v.Dates n till g' := by
  rcases dates with ⟨g₀, found, before⟩ | came
  · exact .inl ⟨g₀, found, rests.1.trans before.1, rests.2.trans before.2⟩
  · refine .inr ?_
    unfold Game.Came
    rwa [rests.2]

theorem ofCourse (v : World) (n till : Int) : OfCourse (v.Dates n till) :=
  fun _ _ _ location _ time dates => dates.rests ⟨location, time⟩

end World.Dates

/-- Games go by the numbers that they are stored under, and no new game gets one of these. -/
structure Games.Numbered (s : Games) : Prop where
  own : s.Own
  fresh : ∀ n, s.Has n → n < s.ids.next

namespace Games.Numbered

variable {s s' : Games}

theorem refresh (numbered : s.Numbered) (r : s.Refreshes n g s') : s'.Numbered := by
  refine ⟨r.own numbered.own, fun k has => ?_⟩
  rw [r.ids]
  exact numbered.fresh k ((r.has k).1 has)

theorem remove (numbered : s.Numbered) (n : Int) : (s.remove n).Numbered := by
  refine ⟨numbered.own.remove n, fun k has => ?_⟩
  rw [Games.ids_remove]
  exact numbered.fresh k ((Games.has_remove s n k).1 has).2

theorem puts (numbered : s.Numbered) (own : s'.Own) (puts : s.Puts s.ids.next g s')
    (ids : s'.ids.next = s.ids.next + 1) : s'.Numbered := by
  refine ⟨own, fun k has => ?_⟩
  rw [ids]
  rcases (puts.has k).1 has with rfl | has
  · exact Int.lt_succ _
  · exact Int.lt_trans (numbered.fresh k has) (Int.lt_succ _)

/-- The next number is used up, and no game is added. -/
theorem withIds (numbered : s.Numbered) (own : (s.withIds ⟨s.ids.next + 1⟩).Own) :
    (s.withIds ⟨s.ids.next + 1⟩).Numbered := by
  refine ⟨own, fun k has => ?_⟩
  rw [Games.ids_withIds]
  exact Int.lt_trans (numbered.fresh k ((Games.has_withIds s _ k).1 has)) (Int.lt_succ _)

theorem empty : (Games.memory {}).Numbered := by
  have own : Table.Own {} := ⟨fun _ _ found => (nomatch found), nofun⟩
  exact ⟨own, fun _ has => absurd has (by simp [Has, Table.get?])⟩

/-- So do games in files that are opened again. -/
theorem opened {f : Folder} {m : Folder.Contents} (keeps : f.Keeps m) :
    ∃ f', Folder.open f.directory = .ok f' ∧ (Games.files f').Numbered := by
  obtain ⟨f', hopen, keeps⟩ := keeps.open
  refine ⟨f', hopen, fun n g found => ?_, fun n has => ?_⟩
  · exact keeps.own n g (Except.ok.inj ((keeps.found n).symm.trans found))
  · obtain ⟨entry, hentry⟩ := Option.isSome_iff_exists.1 has
    cases entry with
    | folder => exact absurd hentry (keeps.tidy.files n)
    | file t =>
      have found := keeps.found n
      unfold Folder.get? Directory.text? at found
      rw [hentry] at found
      obtain ⟨g, -, same⟩ := map_ok found
      exact keeps.fresh n g same.symm

end Games.Numbered

/-! ### Worlds -/

/-- From one world to another time does not go back, and every game that is stored rests, or has come
to its location meanwhile. -/
structure World.Timed (v w : World) : Prop where
  numbered : w.games.Numbered
  clock : v.clock.last ≤ w.clock.last
  stored : ∀ n g, w.games.get? n = .ok (some g) → v.Dates n w.clock.last g

namespace World.Timed

theorem refl (numbered : w.games.Numbered) : w.Timed w :=
  ⟨numbered, le_rfl, fun _ g found => .inl ⟨g, found, rfl, rfl⟩⟩

theorem trans (t : u.Timed v) (t' : v.Timed w) : u.Timed w := by
  refine ⟨t'.numbered, t.clock.trans t'.clock, fun n g found => ?_⟩
  rcases t'.stored n g found with ⟨g₀, found₀, rests⟩ | came
  · exact ((t.stored n g₀ found₀).mono t'.clock).rests rests
  · exact .inr ⟨t.clock.trans_lt came.1, came.2⟩

theorem congr (t : v.Timed w) (games : w'.games = w.games) (clock : w.clock.last ≤ w'.clock.last) :
    v.Timed w' :=
  ⟨games ▸ t.numbered, t.clock.trans clock, fun n g found =>
    (t.stored n g (games ▸ found)).mono clock⟩

theorem poised (t : v.Timed w) (n : Int) : w.Poised n (v.Dates n w.clock.last) :=
  ⟨t.numbered.own, t.numbered.fresh n, t.stored n⟩

/-- A game is stored again. -/
theorem refresh {games : Games} (t : v.Timed w) (r : w.games.Refreshes n g games)
    (dates : w.games.Has n → v.Dates n w.clock.last g) : v.Timed { w with games } := by
  refine ⟨t.numbered.refresh r, t.clock, fun k found stored => ?_⟩
  rcases r.of_get? stored with before | ⟨rfl, hread⟩
  · exact t.stored k found before
  · have has := (r.has k).1 (Games.has_of_get? stored)
    exact (World.Dates.ofCourse v k _).read (dates has) hread

theorem drop (t : v.Timed w) (m : Int) : v.Timed (dropGame w m) := by
  refine ⟨t.numbered.remove m, t.clock, fun n g found => ?_⟩
  exact t.stored n g (Games.get?_remove_eq_some.1 found).2

theorem dropAll (t : v.Timed w) (ids : List Int) : v.Timed (ids.foldl dropGame w) := by
  induction ids generalizing w with
  | nil => exact t
  | cons id rest ih => exact ih (t.drop id)

/-- A game is added that has come to its location just now. -/
theorem puts {games : Games} (t : v.Timed w) (own : games.Own)
    (puts : w.games.Puts w.games.ids.next g games) (ids : games.ids.next = w.games.ids.next + 1)
    (came : g.Came v.clock.last w.clock.last) : v.Timed { w with games } := by
  refine ⟨t.numbered.puts own puts ids, t.clock, fun k found stored => ?_⟩
  rcases puts.get?_eq_some.1 stored with ⟨-, hread⟩ | ⟨-, before⟩
  · exact .inr ((Game.ofCourse_came _ _).read came hread)
  · exact t.stored k found before

theorem withIds (t : v.Timed w) (own : (w.games.withIds ⟨w.games.ids.next + 1⟩).Own) :
    v.Timed { w with games := w.games.withIds ⟨w.games.ids.next + 1⟩ } :=
  ⟨t.numbered.withIds own, t.clock, fun n g found =>
    t.stored n g ((Games.get?_withIds _ _ n).symm.trans found)⟩

end World.Timed

/-- On the way from one world to another, the host has replied in worlds that were on the way, and
`told` tells what it has replied there. -/
structure World.Proceeds (told : World → Json → Prop) (v w : World) : Prop
    extends World.Timed v w where
  replies : ∃ new, w.replies = v.replies ++ new ∧ ∀ reply ∈ new, ∃ met, v.Timed met ∧ told met reply

namespace World.Proceeds

theorem refl (numbered : w.games.Numbered) : w.Proceeds told w :=
  ⟨.refl numbered, [], by simp, by simp⟩

theorem next (p : v.Proceeds told w) (timed : v.Timed w') (replies : w'.replies = w.replies) :
    v.Proceeds told w' := by
  refine ⟨timed, ?_⟩
  rw [replies]
  exact p.replies

theorem locked (p : v.Proceeds told w) (locks : Locks) : v.Proceeds told { w with locks } :=
  p.next (p.toTimed.congr rfl le_rfl) rfl

theorem trans (p : u.Proceeds told v) (p' : v.Proceeds told w) : u.Proceeds told w := by
  obtain ⟨new, hnew, each⟩ := p.replies
  obtain ⟨more, hmore, eachMore⟩ := p'.replies
  refine ⟨p.toTimed.trans p'.toTimed, new ++ more, by rw [hmore, hnew, List.append_assoc],
    fun reply hr => ?_⟩
  rcases List.mem_append.1 hr with hr | hr
  · exact each reply hr
  · obtain ⟨met, timed, hmet⟩ := eachMore reply hr
    exact ⟨met, p.toTimed.trans timed, hmet⟩

theorem imp {told' : World → Json → Prop} (p : v.Proceeds told w)
    (le : ∀ met reply, told met reply → told' met reply) : v.Proceeds told' w := by
  obtain ⟨new, hnew, each⟩ := p.replies
  refine ⟨p.toTimed, new, hnew, fun reply hr => ?_⟩
  obtain ⟨met, timed, htold⟩ := each reply hr
  exact ⟨met, timed, le met reply htold⟩

/-- The host replies in the world that it has met first. -/
theorem replied {reply : Json} (p : v.Proceeds told w) (hreply : told v reply)
    (numbered : v.games.Numbered) :
    v.Proceeds told { w with replies := w.replies ++ [reply] } := by
  obtain ⟨new, hnew, each⟩ := p.replies
  refine ⟨p.toTimed.congr rfl le_rfl, new ++ [reply], by simp [hnew], fun r hr => ?_⟩
  rcases List.mem_append.1 hr with hr | hr
  · exact each r hr
  · obtain rfl := List.mem_singleton.1 hr
    exact ⟨v, .refl numbered, hreply⟩

end World.Proceeds

/-! ### Playing -/

/-- A game in the hands of an operation, on the way from `v`. `P` tells of the game what the clock
bears out. -/
structure World.InTime (told : World → Json → Prop) (v start : World) (n : Int)
    (P : Int → Game → Prop) (h : Held Game) (w : World) : Prop extends World.Proceeds told v w where
  hands : ∃ till ≤ w.clock.last, start.InHands n (P till) h w

/-- What engines give to operations: whatever is asked for meanwhile, games come to their locations
as time goes on. -/
structure Engine.Times (engine : Engine) (told : World → Json → Prop) : Prop
    extends engine.Attends where
  proceeds : ∀ request w, w.games.Numbered → World.Proceeds told w
    { (engine.host request w).2 with
      replies := (engine.host request w).2.replies ++ [(engine.host request w).1] }

namespace Engine.Times

variable (times : engine.Times told) {start : World}
include times

theorem tends (course : ∀ till, OfCourse (P till)) (dates : ∀ till g, P till g → v.Dates n till g)
    (start : World) : engine.Tends (World.InTime told v start n P) (World.Proceeds told v) where
  fails _ _ i := i.toProceeds
  changed h w state needsRecovery i := by
    obtain ⟨till, le, hands⟩ := i.hands
    exact ⟨i.toProceeds, till, le,
      (times.toAttends.tends (course till) n start).changed h w state needsRecovery hands⟩
  logged h w body i := by
    obtain ⟨till, le, hands⟩ := i.hands
    obtain ⟨journal, hrun⟩ := World.run_log h.value body w
    have logged := (times.toAttends.tends (course till) n start).logged h w body hands
    rw [hrun] at logged ⊢
    exact ⟨i.next (i.toTimed.congr rfl le_rfl) rfl, till, le, logged⟩
  consulted h w request i := by
    obtain ⟨till, le, hands⟩ := i.hands
    have met : v.Timed { w with games := w.games.share h } :=
      i.refresh (.share hands.carried w.games) fun has =>
        (dates till h.value (hands.value has)).mono le
    have left := times.proceeds request _ met.numbered
    exact ⟨(i.next met rfl).trans left, till, le.trans left.clock,
      times.toAttends.consulted (course till) hands request⟩
  updated h := by
    intro w i
    obtain ⟨till, le, hands⟩ := i.hands
    have timed {games : Games} (r : w.games.Refreshes n h.value games) : v.Timed { w with games } :=
      i.refresh r fun has => (dates till h.value (hands.value has)).mono le
    rcases World.run_updateGame_firm hands.carried hands.place with
      ⟨games, hrun, -, refreshes, -⟩ | ⟨e, games, hrun, refreshes⟩ <;> rw [hrun]
    · exact ⟨i.next (timed refreshes) rfl, till, le, hands.refreshed (course till) refreshes⟩
    · exact i.next (timed refreshes) rfl

omit times in
/-- The game moves on, and the clock tells when. -/
theorem move (id : Int) (place : Location) (p : Progress) :
    Meets (World.InTime told v start n (v.Dates n) p.held) (Engine.move id place p)
      (fun p w => World.InTime told v start n (Game.Came v.clock.last) p.held w)
      (World.Proceeds told v) := by
  intro w i
  obtain ⟨till, le, hands⟩ := i.hands
  have later : w.clock.last < w.clock.tick.1 := Int.lt_of_lt_of_le (Int.lt_succ _) (le_max_left _ _)
  have came : (p.game.moved id place w.clock.tick.1).Came v.clock.last w.clock.tick.1 :=
    ⟨i.clock.trans_lt later, le_rfl⟩
  have ticks : v.Timed { w with clock := w.clock.tick.2 } := i.toTimed.congr rfl later.le
  have timed {games : Games} (r : w.games.Refreshes n (p.game.moved id place w.clock.tick.1) games) :
      v.Timed { w with clock := w.clock.tick.2, games } := ticks.refresh r fun _ => .inr came
  have ticked : start.InHands n (v.Dates n till) p.held { w with clock := w.clock.tick.2 } :=
    hands.congr rfl hands.held (.story rfl)
  have goes : (p.game.moved id place w.clock.tick.1).id = some n := hands.carried.number
  rcases Engine.run_move id place hands.carried hands.place with
    ⟨games, hrun, refreshes, again⟩ | ⟨e, games, hrun, refreshes⟩ <;> rw [hrun]
  · have moved := ticked.stored_as (Game.ofCourse_came _ _) goes (fun _ => came) refreshes again
    exact ⟨i.next (timed refreshes) rfl, w.clock.tick.1, le_rfl, moved⟩
  · exact i.next (timed refreshes) rfl

/-- A route that is taken to its end brings the game on. -/
theorem depart (n : Int) (route : Identifier) (held : Held Game) :
    Meets (World.InTime told v start n (v.Dates n) held) (engine.depart n route held)
      (fun _ w => World.Proceeds told v w ∧ w.Poised n (Game.Came v.clock.last w.clock.last))
      (World.Proceeds told v) := by
  have leaves := times.tends (World.Dates.ofCourse v n) (fun _ _ dates => dates) start
  have arrives := times.tends (n := n) (v := v) (Game.ofCourse_came v.clock.last)
    (fun _ _ came => .inr came) start
  refine .ite (fun _ => .throw (leaves.fails held)) fun _ =>
    .skip (.route _) (leaves.fails held) fun way => .ite (fun _ => ?_) fun _ =>
    .skip (.location _) (leaves.fails held) fun origin =>
    .skip (.location _) (leaves.fails held) fun destination => ?_
  · exact .skip (.number _ _) (leaves.fails held) fun _ => .throw (leaves.fails held)
  refine .bind (leaves.travel (p := { held }) arrives fun p place => ?_) fun p => ?_
  · exact (move way.destination place p).imp (fun _ h => h.1) (fun _ _ h => h) fun _ h => h
  · intro w i
    obtain ⟨t, told, -⟩ := engine.run_transcribe p w
    obtain ⟨till, le, hands⟩ := i.hands
    rw [told]
    exact ⟨i.toProceeds, hands.poised.imp fun g came => ⟨came.1, came.2.trans le⟩⟩

end Engine.Times

end TextAdventure
