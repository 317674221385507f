import TextAdventure.Proofs.Engine.Ages
import TextAdventure.Proofs.Engine.Busy

/-! What an operation can rely on while it holds a game. Whatever players and removals do meanwhile,
the game that is stored is the one that is held, as it was stored before, unless it is gone. -/

namespace TextAdventure

open Op
open Authoring (dropGame numbers)

variable {engine : Engine} {w w' : World} {n : Int} {P P' : Game → Prop} {h : Held Game} {a : Action}

/-- A player acts, or a removal drops games, and lets go of none. -/
theorem Engine.after_drops (engine : Engine) (w : World) (allowed : a.ByPlayersOrRemoval) :
    a.ByPlayers ∨ ∃ ids : List Int, (engine.after w a).games = (ids.foldl dropGame w).games ∧
      (engine.after w a).locks = (ids.foldl dropGame w).locks := by
  have removal {α : Type} {kind : Kind} {found : Op α} {asked : Identifier} {force : Bool}
      {belongs : Int → Game → Bool} {cut : Int → List Int → World → World}
      (perform : a.perform engine =
        (fun _ => .done) <$> Authoring.removal kind found asked force belongs cut)
      (readOnly : ReadOnly found)
      (cuts : ∀ id ids, (cut id ids w).games = (ids.foldl dropGame w).games ∧
        (cut id ids w).locks = (ids.foldl dropGame w).locks) :
      ∃ ids : List Int, (engine.after w a).games = (ids.foldl dropGame w).games ∧
        (engine.after w a).locks = (ids.foldl dropGame w).locks := by
    rw [after_of_perform perform]
    rcases Authoring.run_removal readOnly asked force belongs cut w with
      ⟨e, hrun⟩ | ⟨id, taken, -, -, -, -, hrun⟩ <;> rw [hrun]
    · exact ⟨[], rfl, rfl⟩
    · exact ⟨numbers taken, cuts id _⟩
  cases a with
  | removeLocation location force =>
    exact .inr (removal rfl (.location location) fun _ _ => ⟨rfl, rfl⟩)
  | removeAdventure adventure force =>
    exact .inr (removal rfl (.adventure adventure) fun _ _ => ⟨rfl, rfl⟩)
  | _ => exact .inl allowed

/-- An operation holds game `n`. If the game is stored, this is the one that is held, and `P` holds of
it, both as it is held and as it is stored. -/
structure World.Keeps (n : Int) (P : Game → Prop) (h : Held Game) (w : World) : Prop where
  own : w.games.Own
  next : n < w.games.ids.next
  held : (n, .operation) ∈ w.locks.held
  place : w.games.Has n → h.place = (w.games.edition n).map fun e => (n, e)
  value : w.games.Has n → P h.value
  stored : ∀ g, w.games.get? n = .ok (some g) → P g

namespace World.Keeps

theorem apart (k : w.Keeps n P h) (a : World.Apart n w w') : w'.Keeps n P h := by
  refine ⟨a.games.own k.own, Int.lt_of_lt_of_le k.next a.games.next, a.held k.held, fun has => ?_,
    fun has => k.value (a.games.has.1 has), fun g found => k.stored g (a.games.get?.symm.trans found)⟩
  rw [a.games.edition]
  exact k.place (a.games.has.1 has)

theorem congr (k : w.Keeps n P h) (games : w'.games = w.games)
    (held : (n, .operation) ∈ w'.locks.held) : w'.Keeps n P h :=
  ⟨games ▸ k.own, games ▸ k.next, held, games ▸ k.place, games ▸ k.value, games ▸ k.stored⟩

theorem drop (k : w.Keeps n P h) (id : Int) : (dropGame w id).Keeps n P h := by
  by_cases same : n = id
  · subst same
    have gone : ¬(w.games.remove n).Has n := fun has => ((Games.has_remove w.games n n).1 has).1 rfl
    refine ⟨k.own.remove n, ?_, k.held, fun has => absurd has gone, fun has => absurd has gone,
      fun g found => absurd (Games.has_of_get? found) gone⟩
    show n < (w.games.remove n).ids.next
    rw [Games.ids_remove]
    exact k.next
  · exact k.apart (.drop same w)

theorem dropAll (k : w.Keeps n P h) (ids : List Int) : (ids.foldl dropGame w).Keeps n P h := by
  induction ids generalizing w with
  | nil => exact k
  | cons id rest ih => exact ih (k.drop id)

theorem after (spares : engine.Spares n (World.Keeps n P h)) (k : w.Keeps n P h)
    (allowed : a.ByPlayersOrRemoval) : (engine.after w a).Keeps n P h := by
  have players (players : a.ByPlayers) : (engine.after w a).Keeps n P h :=
    spares.after k k.held k.next players
  rcases Engine.after_drops engine w allowed with acts | ⟨ids, games, locks⟩
  · exact players acts
  · have left := k.dropAll ids
    exact left.congr games (locks ▸ left.held)

end World.Keeps

theorem Engine.attended_keeps {read : World → Json → Action}
    {write : World → Except Error Answer → World → Json}
    (allowed : ∀ v request, (read v request).ByPlayersOrRemoval) (depth : Nat) (n : Int)
    (P : Game → Prop) (h : Held Game) :
    (engine.attended read write depth).Spares n (World.Keeps n P h) :=
  spares_attended (fun _ k => k.own) (fun _ _ apart k => k.apart apart)
    (fun _ _ k => k.congr rfl k.held) fun _ _ spares request w k =>
    have left := k.after spares (allowed w request)
    left.congr rfl left.held

/-! ### The game itself -/

theorem Locks.mem_of_hold {timeout : Float} {locks locks' : Locks} {holder : Holder}
    (hold : locks.hold timeout n holder = .ok locks') : (n, holder) ∈ locks'.held := by
  unfold Locks.hold at hold
  split at hold
  · exact nomatch hold
  split at hold
  · exact nomatch hold
  obtain rfl := Except.ok.inj hold
  exact List.mem_append_right _ List.mem_cons_self

/-- A held game that is stored is now as the stored one is. -/
theorem Games.current_stored {s : Games} (has : s.Has n)
    (place : h.place = (s.edition n).map fun e => (n, e)) :
    s.current h = h.value ∨ s.get? n = .ok (some (s.current h)) := by
  cases s with
  | files f => exact .inl rfl
  | memory t =>
    obtain ⟨g, found⟩ := Option.isSome_iff_exists.1 has
    refine .inr ?_
    have place : h.place = some (n, t.edition n) := place
    show Except.ok (t.get? n) = .ok (some (t.current h))
    simp [Table.current, place, Table.keeps, found]

/-- `P` tells of a game what its scripts cannot change. -/
def OfCourse (P : Game → Prop) : Prop :=
  ∀ g g', g'.adventure = g.adventure → g'.location = g.location → g'.completed = g.completed →
    g'.locationTimestamp = g.locationTimestamp → P g → P g'

theorem OfCourse.read {s : Games} {g g' : Game} (course : OfCourse P) (hg : P g)
    (h : s.reads g = .ok g') : P g' := by
  obtain ⟨-, adventure, location⟩ := Games.reads_ok h
  exact course g g' adventure location (Games.reads_completed h) (Games.reads_timestamp h) hg

/-- A game goes by a number that is not given again, and `P` holds of it, if it is stored. -/
structure World.Poised (n : Int) (P : Game → Prop) (w : World) : Prop where
  own : w.games.Own
  fresh : w.games.Has n → n < w.games.ids.next
  stored : ∀ g, w.games.get? n = .ok (some g) → P g

namespace World.Poised

theorem imp (poised : w.Poised n P) (le : ∀ g, P g → P' g) : w.Poised n P' :=
  ⟨poised.own, poised.fresh, fun g found => le g (poised.stored g found)⟩

theorem congr (poised : w.Poised n P) (games : w'.games = w.games) : w'.Poised n P :=
  ⟨games ▸ poised.own, games ▸ poised.fresh, games ▸ poised.stored⟩

theorem apart (poised : w.Poised n P) (a : World.Apart n w w') : w'.Poised n P :=
  ⟨a.games.own poised.own,
    fun has => Int.lt_of_lt_of_le (poised.fresh (a.games.has.1 has)) a.games.next,
    fun g found => poised.stored g (a.games.get?.symm.trans found)⟩

theorem drop (poised : w.Poised n P) (id : Int) : (dropGame w id).Poised n P := by
  refine ⟨poised.own.remove id, fun has => ?_, fun g found => ?_⟩
  · show n < (w.games.remove id).ids.next
    rw [Games.ids_remove]
    exact poised.fresh ((Games.has_remove w.games id n).1 has).2
  · exact poised.stored g (Games.get?_remove_eq_some.1 found).2

theorem dropAll (poised : w.Poised n P) (ids : List Int) : (ids.foldl dropGame w).Poised n P := by
  induction ids generalizing w with
  | nil => exact poised
  | cons id rest ih => exact ih (poised.drop id)

end World.Poised

/-- What engines give to operations that hold games: whatever is asked for meanwhile, games are kept
for them, and worlds only age. -/
structure Engine.Attends (engine : Engine) : Prop where
  keeps : ∀ n P h, engine.Spares n (World.Keeps n P h)
  ages : engine.Carries World.Ages

theorem Engine.attended_attends {read : World → Json → Action}
    {write : World → Except Error Answer → World → Json}
    (allowed : ∀ v request, (read v request).ByPlayersOrRemoval) (depth : Nat) :
    (engine.attended read write depth).Attends :=
  ⟨attended_keeps allowed depth, attended_ages allowed depth⟩

/-- A game in the hands of an operation, in a world that is later than `start`. -/
structure World.InHands (n : Int) (P : Game → Prop) (start : World) (h : Held Game) (w : World) :
    Prop extends World.Keeps n P h w where
  carried : Carried n h
  ages : start.Ages w

namespace World.InHands

variable {start : World}

theorem poised (i : start.InHands n P h w) : w.Poised n P := ⟨i.own, fun _ => i.next, i.stored⟩

/-- The game changes, but is still one of which `P` holds. -/
theorem changed (i : start.InHands n P h w) {g : Game} (number : g.id = h.value.id)
    (value : P h.value → P g) : start.InHands n P { h with value := g } w :=
  ⟨⟨i.own, i.next, i.held, i.place, fun has => value (i.value has), i.stored⟩,
    i.carried.put (number.trans i.carried.number), i.ages⟩

/-- The game is stored as another one, of which `P'` holds, and so it is held from then on. -/
theorem stored_again {g : Game} {games : Games} (i : start.InHands n P h w) (number : g.id = some n)
    (value : w.games.Has n → P' g) (r : w.games.Refreshes n g games)
    (again : ∀ found, games.get? n = .ok (some found) → P' found) :
    start.InHands n P' { h with value := g } { w with games } := by
  refine ⟨⟨r.own i.own, ?_, i.held, fun has => ?_, fun has => value ((r.has n).1 has), again⟩,
    i.carried.put number, i.ages.trans (.story rfl)⟩
  · rw [r.ids]
    exact i.next
  · rw [r.edition]
    exact i.place ((r.has n).1 has)

/-- The game is stored as another one, which is found again under its number. -/
theorem stored_as {g : Game} {games : Games} (course : OfCourse P') (i : start.InHands n P h w)
    (number : g.id = some n) (value : w.games.Has n → P' g) (r : w.games.Refreshes n g games)
    (again : games.get? n = (w.games.reads g).map some) :
    start.InHands n P' { h with value := g } { w with games } := by
  refine i.stored_again number value r fun found stored => ?_
  have hread : w.games.reads g = .ok found := map_some_eq_ok.1 (again.symm.trans stored)
  exact course.read (value ((r.has n).1 (Games.has_of_get? stored))) hread

theorem refreshed {games : Games} (course : OfCourse P) (i : start.InHands n P h w)
    (r : w.games.Refreshes n h.value games) : start.InHands n P h { w with games } := by
  refine i.stored_again i.carried.number i.value r fun g found => ?_
  rcases r.of_get? found with before | ⟨-, hread⟩
  · exact i.stored g before
  · exact course.read (i.value ((r.has n).1 (Games.has_of_get? found))) hread

theorem congr (i : start.InHands n P h w) (games : w'.games = w.games)
    (held : (n, .operation) ∈ w'.locks.held) (ages : w.Ages w') : start.InHands n P h w' :=
  ⟨i.toKeeps.congr games held, i.carried, i.ages.trans ages⟩

end World.InHands

/-- A game that has come to a location at a time. -/
def Game.moved (g : Game) (id : Int) (place : Location) (time : Int) : Game :=
  { g with
    location := place.idAt id
    locationTimestamp := time
    completed := g.completed || place.final }

/-- What moving a held game comes to, if it is held as it stands. -/
theorem Engine.run_move (id : Int) (place : Location) {p : Progress} (c : Carried n p.held)
    (firm : w.games.Has n → p.held.place = (w.games.edition n).map fun e => (n, e)) :
    let g := p.game.moved id place w.clock.tick.1
    (∃ games, (Engine.move id place p).run w = (.ok { p with held := { p.held with value := g } },
        { w with clock := w.clock.tick.2, games }) ∧
      w.games.Refreshes n g games ∧ games.get? n = (w.games.reads g).map some) ∨
    ∃ e games, (Engine.move id place p).run w =
        (.error e, { w with clock := w.clock.tick.2, games }) ∧ w.games.Refreshes n g games := by
  intro g
  have ticked : World.tick.run w = (.ok w.clock.tick.1, { w with clock := w.clock.tick.2 }) := rfl
  have carried : Carried n { p.held with value := g } := c.put c.number
  unfold Engine.move
  rw [run_bind_ok ticked]
  dsimp only
  rcases World.run_updateGame_firm (w := { w with clock := w.clock.tick.2 }) carried firm with
    ⟨games, hrun, -, refreshes, again⟩ | ⟨e, games, hrun, refreshes⟩
  · exact .inl ⟨games, run_bind_ok hrun, refreshes, again⟩
  · exact .inr ⟨e, games, run_bind_error hrun, refreshes⟩

theorem World.run_log (g : Game) (body : Body) (w : World) :
    ∃ journal, ((World.log g body).run w).2 = { w with journal } := by
  cases number : g.id with
  | none => exact ⟨w.journal, by rw [World.run_log_none number]⟩
  | some id => exact ⟨_, by rw [World.run_log_some number]⟩

namespace Engine.Attends

variable (attends : engine.Attends) {start : World}
include attends

theorem consulted (course : OfCourse P) (i : start.InHands n P h w) (request : Json) :
    let reply := (engine.host request { w with games := w.games.share h }).1
    let left := (engine.host request { w with games := w.games.share h }).2
    start.InHands n P { h with value := left.games.current h }
      { left with replies := left.replies ++ [reply] } := by
  have met := i.refreshed course (.share i.carried w.games)
  intro reply left
  have keeps := (attends.keeps n P h).host request _ met.toKeeps
  have ages := met.ages.trans (attends.ages.host request _)
  have number : (left.games.current h).id = some n := keeps.own.current i.carried
  refine ⟨⟨keeps.own, keeps.next, keeps.held, keeps.place, fun has => ?_, keeps.stored⟩,
    i.carried.put number, ages⟩
  -- The game is read again once the host has replied: from memory as it is stored then, and from a
  -- file as it has been held all along.
  rcases Games.current_stored has (keeps.place has) with same | found
  · show P (left.games.current h)
    rw [same]
    exact keeps.value has
  · exact keeps.stored _ found

theorem tends (course : OfCourse P) (n : Int) (start : World) :
    engine.Tends (start.InHands n P) (World.Poised n P) where
  fails _ _ i := i.poised
  changed h w state needsRecovery i :=
    i.changed rfl (course h.value { h.value with state, needsRecovery } rfl rfl rfl rfl)
  logged h w body i := by
    obtain ⟨journal, hrun⟩ := World.run_log h.value body w
    rw [hrun]
    exact i.congr rfl i.held (.story rfl)
  consulted h w request i := attends.consulted course i request
  updated h := by
    intro w i
    rcases World.run_updateGame_firm i.carried i.place with
      ⟨games, hrun, -, refreshes, -⟩ | ⟨e, games, hrun, refreshes⟩ <;> rw [hrun]
    · exact i.refreshed course refreshes
    · exact (i.refreshed course refreshes).poised

end Engine.Attends

end TextAdventure
