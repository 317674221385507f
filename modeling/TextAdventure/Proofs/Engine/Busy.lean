import TextAdventure.Proofs.Authoring.Aside
import TextAdventure.Proofs.Authoring.Removal
import TextAdventure.Proofs.Engine.Neighbour

/-! Games that are held. While an operation holds a game, whatever asks for the game is refused, and
so are removals that would take it along unless they are forced. Forced ones go through: then the game
and its log are gone. Nothing else that goes on meanwhile touches either. -/

namespace TextAdventure

open Op
open Authoring (numbers)

variable {engine : Engine} {n : Int} {w w' : World} {a : Action}
  {record : Except Error (Option Game)} {log : List Content} {taken : Prop}

/-- The error that holding a game which is held comes to. It is told first when the timeout is past
all waiting. -/
def Engine.refusal (engine : Engine) (n : Int) : Error :=
  if 0.0 < engine.settings.busyTimeout ∧ Locks.isTooLong engine.settings.busyTimeout then
    .busyTimeoutTooLong
  else .gameBusy n

/-- A game is listed among those that belong to a stored record, which is asked for. -/
def World.GoesWith {α : Type} (w : World) (n : Int) (kind : Kind) (found : Op α) (asked : Identifier)
    (belongs : Int → Game → Bool) : Prop :=
  ∃ value id games, found.run w = (.ok value, w) ∧ ((Op.number kind asked).run w).1 = .ok id ∧
    w.games.select (belongs id) = .ok games ∧ n ∈ numbers games

namespace Action

/-- The action is an operation on the game of a number. -/
def AsksFor (w : World) (n : Int) : Action → Prop
  | .takeRoute game _ | .executeScript game _ | .endGame game | .recoverGame game =>
    ((World.gameNumber game).run w).1 = .ok n
  | _ => False

/-- The action removes a stored record that a game goes with. -/
def Takes (w : World) (n : Int) : Action → Prop
  | .removeLocation location _ =>
    w.GoesWith n .location (World.location location) location fun id g => g.location = id
  | .removeAdventure adventure _ =>
    w.GoesWith n .adventure (World.adventure adventure) adventure fun id g => g.adventure = id
  | _ => False

/-- The action is a removal by force. -/
def Forced : Action → Prop
  | .removeLocation _ force | .removeAdventure _ force => force = true
  | _ => False

/-- The action does not write past the operations into the record or the log of a game. -/
def Respects (n : Int) : Action → Prop
  | .append game _ _ => game.id ≠ some n
  | .clearLog game => game ≠ n
  | .addGame claim _ => claim ≠ .number n
  | _ => True

end Action

/-! ### Refusal -/

theorem Locks.hold_held {locks : Locks} (held : (n, .operation) ∈ locks.held) :
    locks.hold engine.settings.busyTimeout n = .error (engine.refusal n) := by
  have busy : locks.isBusy n = true := List.any_eq_true.2 ⟨_, held, by simp⟩
  unfold Locks.hold Engine.refusal
  rw [busy]
  split <;> rfl

/-- An operation that asks for a game that is held is refused before it reads or writes anything. -/
theorem Engine.refused {α : Type} {game : Identifier} (held : (n, .operation) ∈ w.locks.held)
    (number : ((World.gameNumber game).run w).1 = .ok n) (op : Int → Op α) :
    (World.gameNumber game >>= fun m => engine.holding m (op m)).run w =
      (.error (engine.refusal n), w) := by
  have same := ReadOnly.gameNumber game w
  rcases hnumber : (World.gameNumber game).run w with ⟨e | m, v⟩ <;> rw [hnumber] at same number
  · exact nomatch number
  obtain rfl : v = w := same
  obtain rfl : m = n := Except.ok.inj number
  rw [run_bind_ok hnumber, Engine.holding, World.holding_eq, Locks.hold_held held]

theorem Action.AsksFor.refused (held : (n, .operation) ∈ w.locks.held) (asks : a.AsksFor w n) :
    engine.answer w a = .error (engine.refusal n) ∧ engine.after w a = w := by
  have run {α : Type} {op : Op α} {tell : α → Answer} (perform : a.perform engine = tell <$> op)
      (h : op.run w = (.error (engine.refusal n), w)) :
      engine.answer w a = .error (engine.refusal n) ∧ engine.after w a = w := by
    rw [Engine.answer_of_perform perform, Engine.after_of_perform perform, h]
    exact ⟨rfl, rfl⟩
  cases a with
  | takeRoute game route => exact run rfl (Engine.refused held asks _)
  | executeScript game script => exact run rfl (Engine.refused held asks _)
  | endGame game => exact run rfl (Engine.refused held asks _)
  | recoverGame game => exact run rfl (Engine.refused held asks _)
  | _ => exact asks.elim

namespace Engine

/-- How an engine answers what would touch game `n`, while an operation holds it. An operation on the
game is refused, and so is a removal that would take it along. A removal by force is not: the game
and its log are gone then. -/
structure Refuses (engine : Engine) (n : Int) (w : World) : Prop where
  asked : ∀ a, a.AsksFor w n →
    engine.answer w a = .error (engine.refusal n) ∧ engine.after w a = w
  unforced : ∀ a, a.Takes w n → ¬a.Forced →
    (∃ kind id ids, n ∈ ids ∧ engine.answer w a = .error (.resourceInUse kind id ids)) ∧
      engine.after w a = w
  forced : ∀ a, a.Takes w n → a.Forced → engine.answer w a = .ok .done ∧
    (engine.after w a).games.get? n = .ok none ∧ (engine.after w a).journal.entries n = []

section Removal

variable {α : Type} {kind : Kind} {found : Op α} {asked : Identifier} {belongs : Int → Game → Bool}
  {cut : Int → List Int → World → World}

theorem removal_unforced
    (perform : a.perform engine =
      (fun _ => .done) <$> Authoring.removal kind found asked false belongs cut)
    (goes : w.GoesWith n kind found asked belongs) :
    (∃ kind id ids, n ∈ ids ∧ engine.answer w a = .error (.resourceInUse kind id ids)) ∧
      engine.after w a = w := by
  obtain ⟨value, id, games, stored, number, selected, some⟩ := goes
  have listed : games ≠ [] := fun none => by simp [numbers, none] at some
  have hrun : (Authoring.removal kind found asked false belongs cut).run w =
      (.error (.resourceInUse kind id (numbers games)), w) := by
    rw [Authoring.run_removal_found stored number selected]
    unfold Authoring.gamesToRemove
    rw [if_pos (by simpa using listed)]
    rfl
  rw [answer_of_perform perform, after_of_perform perform, hrun]
  exact ⟨⟨kind, id, _, some, rfl⟩, rfl⟩

theorem removal_forced
    (perform : a.perform engine =
      (fun _ => .done) <$> Authoring.removal kind found asked true belongs cut)
    (drops : ∀ id ids, Authoring.Dropped ids w (cut id ids w))
    (goes : w.GoesWith n kind found asked belongs) : engine.answer w a = .ok .done ∧
      (engine.after w a).games.get? n = .ok none ∧
      (engine.after w a).journal.entries n = [] := by
  obtain ⟨value, id, games, stored, number, selected, some⟩ := goes
  have hrun : (Authoring.removal kind found asked true belongs cut).run w =
      (.ok (), cut id (numbers games) w) := by
    rw [Authoring.run_removal_found stored number selected]
    simp [Authoring.gamesToRemove, numbers]
  have dropped := drops id (numbers games)
  rw [answer_of_perform perform, after_of_perform perform, hrun]
  refine ⟨rfl, ?_, ?_⟩
  · show (cut id (numbers games) w).games.get? n = _
    rw [dropped.get?, if_pos some]
  · show (cut id (numbers games) w).journal.entries n = _
    rw [dropped.entries, if_pos some]

end Removal

theorem refuses (held : (n, .operation) ∈ w.locks.held) : engine.Refuses n w := by
  refine ⟨fun _ asks => asks.refused held, fun a takes free => ?_, fun a takes forced => ?_⟩
  · cases a with
    | removeLocation location force =>
      obtain rfl : force = false := Bool.eq_false_iff.2 free
      exact removal_unforced rfl takes
    | removeAdventure adventure force =>
      obtain rfl : force = false := Bool.eq_false_iff.2 free
      exact removal_unforced rfl takes
    | _ => exact takes.elim
  · cases a with
    | removeLocation location force =>
      obtain rfl : force = true := forced
      exact removal_forced rfl (fun id ids => Authoring.dropped_withoutLocation id ids w) takes
    | removeAdventure adventure force =>
      obtain rfl : force = true := forced
      exact removal_forced rfl (fun id ids => Authoring.dropped_withoutAdventure id ids w) takes
    | _ => exact takes.elim

end Engine

/-! ### What is left alone -/

/-- Game `n` is held by an operation. It is as it was when `record` was stored and `log` was its log,
or it has been taken. -/
structure World.Guarded (n : Int) (record : Except Error (Option Game)) (log : List Content)
    (taken : Prop) (w : World) : Prop where
  own : w.games.Own
  held : (n, .operation) ∈ w.locks.held
  next : n < w.games.ids.next
  kept : w.games.get? n = record ∧ w.journal.entries n = log ∨
    w.games.get? n = .ok none ∧ w.journal.entries n = [] ∧ taken

namespace World.Guarded

theorem apart (h : w.Guarded n record log taken) (a : World.Apart n w w') :
    w'.Guarded n record log taken := by
  refine ⟨a.games.own h.own, a.held h.held, Int.lt_of_lt_of_le h.next a.games.next, ?_⟩
  rw [a.games.get?, a.entries]
  exact h.kept

/-- The numbers of games that go may be those that are taken. -/
theorem drop {ids : List Int} (h : w.Guarded n record log taken) (drops : n ∈ ids → taken) :
    (ids.foldl Authoring.dropGame w).Guarded n record log taken := by
  induction ids generalizing w with
  | nil => exact h
  | cons id rest ih =>
    refine ih ?_ fun hn => drops (List.mem_cons_of_mem _ hn)
    by_cases hn : n = id
    · subst hn
      refine ⟨h.own.remove n, h.held, ?_, .inr ⟨?_, Journal.entries_clear_self _ n,
        drops List.mem_cons_self⟩⟩
      · show n < (w.games.remove n).ids.next
        rw [Games.ids_remove]
        exact h.next
      · show (w.games.remove n).get? n = _
        rw [Games.get?_remove, if_pos rfl]
    · exact h.apart (.drop hn w)

/-- What else goes on in the world. -/
theorem congr (h : w.Guarded n record log taken) (games : w'.games = w.games)
    (journal : w'.journal = w.journal)
    (held : (n, .operation) ∈ w.locks.held → (n, .operation) ∈ w'.locks.held) :
    w'.Guarded n record log taken := by
  refine ⟨?_, held h.held, ?_, ?_⟩ <;> rw [games]
  · exact h.own
  · exact h.next
  · rw [journal]
    exact h.kept

theorem overlooks : Overlooks fun w w' : World =>
    w.Guarded n record log taken → w'.Guarded n record log taken :=
  ⟨⟨fun _ h => h, fun h h' hw => h' (h hw)⟩, fun _ _ _ _ _ _ _ h => h.congr rfl rfl id⟩

theorem addLanguage (claim : Claim) (language : Language) : Follows (fun w w' : World =>
    w.Guarded n record log taken → w'.Guarded n record log taken) (Op.addLanguage claim language) :=
  .addLanguage overlooks.toChains (fun _ _ h => h.congr rfl rfl id) claim language

theorem holdFor (timeout : Float) (game : Int) : Follows (fun w w' : World =>
    w.Guarded n record log taken → w'.Guarded n record log taken) (Op.holdFor timeout game) := by
  intro w h
  unfold Op.holdFor
  rw [run_bind_ok (run_get w), run_bind, run_ofExcept]
  cases hlocks : w.locks.hold timeout game .host with
  | error e => exact h
  | ok locks =>
    refine h.congr rfl rfl fun held => ?_
    exact (World.Apart.lock (n := n) hlocks).held held

theorem letGo (game : Int) : Follows (fun w w' : World =>
    w.Guarded n record log taken → w'.Guarded n record log taken) (Op.letGo game) := by
  have other : (n, Holder.operation) ≠ (game, .host) := fun same => nomatch (Prod.mk.inj same).2
  exact fun _ h => h.congr rfl rfl fun held => (List.mem_erase_of_ne other).2 held

theorem removal {α : Type} {kind : Kind} {found : Op α} {asked : Identifier} {force : Bool}
    {belongs : Int → Game → Bool} {cut : Int → List Int → World → World}
    (h : w.Guarded n record log taken) (readOnly : ReadOnly found)
    (cuts : ∀ id ids, (cut id ids w).games = (ids.foldl Authoring.dropGame w).games ∧
      (cut id ids w).journal = (ids.foldl Authoring.dropGame w).journal ∧
      (cut id ids w).locks = (ids.foldl Authoring.dropGame w).locks)
    (takes : w.GoesWith n kind found asked belongs → force = true → taken) :
    ((Authoring.removal kind found asked force belongs cut).run w).2.Guarded n record log taken := by
  rcases Authoring.run_removal readOnly asked force belongs cut w with
    ⟨e, hrun⟩ | ⟨id, games, number, selected, ⟨value, stored⟩, forced, hrun⟩ <;> rw [hrun]
  · exact h
  obtain ⟨hgames, hjournal, hlocks⟩ := cuts id (numbers games)
  refine (h.drop fun hn => ?_).congr hgames hjournal fun held => hlocks ▸ held
  rcases forced with forced | none
  · exact takes ⟨value, id, games, stored, number, selected, hn⟩ forced
  · rw [none] at hn
    exact nomatch hn

end World.Guarded

/-! ### Actions -/

/-- What players do to other games leaves a game alone. -/
theorem Engine.Spares.after_other {Y : World → Prop} (spares : engine.Spares n Y) (h : Y w)
    (players : a.ByPlayers) (other : ¬a.AsksFor w n)
    (old : ∀ adventure language, a = .startGame adventure language → n ≠ w.games.ids.next) :
    Y (engine.after w a) := by
  have readOnly (readOnly : ReadOnly (a.perform engine)) : Y (engine.after w a) := by
    have same : engine.after w a = w := readOnly w
    rw [same]
    exact h
  have asked {α : Type} {game : Identifier} {op : Op α} {tell : α → Answer}
      (perform : a.perform engine = tell <$> op)
      (asks : ((World.gameNumber game).run w).1 = .ok n → a.AsksFor w n)
      (meets : Meets (fun w => Y w ∧ ∀ m, ((World.gameNumber game).run w).1 = .ok m → n ≠ m) op
        (fun _ => Y) Y) : Y (engine.after w a) := by
    rw [Engine.after_of_perform perform]
    exact meets.after ⟨h, fun m hm ne => other (asks (ne ▸ hm))⟩
  cases a with
  | startGame adventure language =>
    rw [Engine.after_of_perform rfl]
    exact (spares.startGame adventure language).after ⟨h, old adventure language rfl⟩
  | takeRoute game route => exact asked rfl id (spares.takeRoute game route)
  | executeScript game script => exact asked rfl id (spares.executeScript game script)
  | endGame game => exact asked rfl id (spares.endGame game)
  | recoverGame game => exact asked rfl id (spares.recoverGame game)
  | getGame _ | availableRoutes _ | contents _ _ _ | textAt _ _ | transcript _ =>
    exact readOnly (Action.Looks.readOnly trivial)
  | _ => exact players.elim

/-- While an operation holds a game, players cannot but leave it alone. -/
theorem Engine.Spares.after {Y : World → Prop} (spares : engine.Spares n Y) (h : Y w)
    (held : (n, .operation) ∈ w.locks.held) (next : n < w.games.ids.next) (players : a.ByPlayers) :
    Y (engine.after w a) := by
  by_cases asks : a.AsksFor w n
  · rw [(asks.refused held).2]
    exact h
  · exact spares.after_other h players asks fun _ _ _ => Int.ne_of_lt next

/-- What is kept however deep scripts nest what they ask for. -/
theorem Engine.spares_attended {read : World → Json → Action}
    {write : World → Except Error Answer → World → Json} {Y : World → Prop} {depth : Nat}
    (own : ∀ w, Y w → w.games.Own) (apart : ∀ w w', World.Apart n w w' → Y w → Y w')
    (idle : ∀ w reply, Y w → Y { w with replies := w.replies ++ [reply] })
    (host : ∀ k < depth, (engine.attended read write k).Spares n Y → ∀ request w, Y w →
      let left := (engine.attended read write k).after w (read w request)
      let reply := write w ((engine.attended read write k).answer w (read w request)) left
      Y { left with replies := left.replies ++ [reply] }) :
    (engine.attended read write depth).Spares n Y := by
  induction depth with
  | zero => exact ⟨own, apart, fun _ w => idle w _⟩
  | succ depth ih =>
    have spares := ih fun k hk => host k (Nat.lt_succ_of_lt hk)
    exact ⟨own, apart, host depth (Nat.lt_succ_self depth) spares⟩

/-- Whatever is done leaves the game alone, or takes it by force. -/
theorem World.Guarded.after (spares : engine.Spares n (World.Guarded n record log taken))
    (h : w.Guarded n record log taken) (respects : a.Respects n)
    (takes : a.Takes w n → a.Forced → taken) : (engine.after w a).Guarded n record log taken := by
  have players (players : a.ByPlayers) : (engine.after w a).Guarded n record log taken :=
    spares.after h h.held h.next players
  have writing (writes : a.IsWriting) : (engine.after w a).Guarded n record log taken :=
    a.writing World.Guarded.overlooks writes w h
  cases a with
  | append game copyKey text =>
    rw [Engine.after_of_perform rfl]
    exact h.apart (.append respects copyKey text w)
  | clearLog game =>
    rw [Engine.after_of_perform rfl]
    exact h.apart (.clear (Ne.symm respects) w)
  | removeLocation location force =>
    rw [Engine.after_of_perform rfl]
    exact h.removal (.location location) (fun _ _ => ⟨rfl, rfl, rfl⟩) takes
  | removeAdventure adventure force =>
    rw [Engine.after_of_perform rfl]
    exact h.removal (.adventure adventure) (fun _ _ => ⟨rfl, rfl, rfl⟩) takes
  | addLanguage claim language =>
    rw [Engine.after_of_perform rfl]
    exact World.Guarded.addLanguage claim language w h
  | addGame claim game =>
    rw [Engine.after_of_perform rfl]
    exact h.apart (.addGame claim respects (Int.ne_of_lt h.next) game)
  | hold game =>
    rw [Engine.after_of_perform rfl]
    exact World.Guarded.holdFor _ game w h
  | release game =>
    rw [Engine.after_of_perform rfl]
    exact World.Guarded.letGo game w h
  | _ => first | exact players trivial | exact writing trivial

namespace Engine

variable {read : World → Json → Action} {write : World → Except Error Answer → World → Json}

theorem attended_guarded (respects : ∀ v request, (read v request).Respects n)
    (takes : ∀ v request, (read v request).Takes v n → (read v request).Forced → taken)
    (depth : Nat) :
    (engine.attended read write depth).Spares n (World.Guarded n record log taken) :=
  spares_attended (fun _ h => h.own) (fun _ _ apart h => h.apart apart)
    (fun _ _ h => h.congr rfl rfl id) fun _ _ spares request w h =>
    (h.after spares (respects w request) (takes w request)).congr rfl rfl id

variable {actions : List Action} (respects : ∀ v request, (read v request).Respects n)
  (own : w.games.Own) (held : (n, .operation) ∈ w.locks.held) (next : n < w.games.ids.next)
include respects own held next

theorem guarded_worlds (write : World → Except Error Answer → World → Json) (depth : Nat)
    (takes : ∀ v request, (read v request).Takes v n → (read v request).Forced → taken)
    (throughout : (engine.attended read write depth).Throughout
      (fun v a => a.Respects n ∧ (a.Takes v n → a.Forced → taken)) w actions) :
    ∀ w' ∈ (engine.attended read write depth).worlds w actions,
      w'.Guarded n (w.games.get? n) (w.journal.entries n) taken := by
  have spares : (engine.attended read write depth).Spares n
      (World.Guarded n (w.games.get? n) (w.journal.entries n) taken) :=
    attended_guarded respects takes depth
  exact worlds_keep (fun v a h allowed => h.after spares allowed.1 allowed.2)
    ⟨own, held, next, .inl ⟨rfl, rfl⟩⟩ throughout

/-- While an operation holds game `n`, whatever is asked for meanwhile, however often and however deep
scripts nest it: the game stays held, and what would touch it is refused unless it is a removal by
force. The record of the game and its log stay as they are or are gone together, and they stay as
long as no removal by force takes the game. -/
theorem held_guarded (engine : Engine) (write : World → Except Error Answer → World → Json)
    (depth : Nat) (outside : ∀ a ∈ actions, a.Respects n) :
    ∀ w' ∈ (engine.attended read write depth).worlds w actions,
      (n, .operation) ∈ w'.locks.held ∧ (engine.attended read write depth).Refuses n w' ∧
      (w'.games.get? n = w.games.get? n ∧ w'.journal.entries n = w.journal.entries n ∨
        w'.games.get? n = .ok none ∧ w'.journal.entries n = []) ∧
      ((∀ v request, (read v request).Takes v n → ¬(read v request).Forced) →
        (engine.attended read write depth).Throughout (fun v a => a.Takes v n → ¬a.Forced)
          w actions →
        w'.games.get? n = w.games.get? n ∧ w'.journal.entries n = w.journal.entries n) := by
  intro w' hw'
  -- The same invariant serves twice: first any removal by force may take the game, then none does.
  have guarded : w'.Guarded n (w.games.get? n) (w.journal.entries n) True := by
    refine guarded_worlds respects own held next write depth (fun _ _ _ _ => trivial) ?_ w' hw'
    exact (throughout_true _ w actions).imp fun _ a ha _ => ⟨outside a ha, fun _ _ => trivial⟩
  refine ⟨guarded.held, refuses guarded.held, guarded.kept.imp_right fun gone => ⟨gone.1, gone.2.1⟩,
    fun unforced calm => ?_⟩
  have spared : w'.Guarded n (w.games.get? n) (w.journal.entries n) False := by
    refine guarded_worlds respects own held next write depth unforced ?_ w' hw'
    exact calm.imp fun v a ha free => ⟨outside a ha, free⟩
  exact spared.kept.resolve_right fun gone => gone.2.2

end Engine

/-- A game at the gate of the lane. -/
def Game.waiting : Game := { adventure := 1, location := 1, language := "en", id := some 1 }

theorem Games.own_waiting : Games.Own (.memory { rows := [(1, .waiting)], ids := ⟨2⟩ }) := by
  refine ⟨fun k g found => ?_, fun d hd => nomatch hd⟩
  obtain ⟨rfl, rfl⟩ := Prod.mk.inj (List.mem_singleton.1 (Rows.mem_of_get? found))
  rfl

/-- The gate is removed by force from under a game that is held. Before this the game can be neither
played nor ended. -/
theorem Engine.held_guarded_lane :
    let w : World := { World.lane (.memory { rows := [(1, .waiting)], ids := ⟨2⟩ }) with
      locks := ⟨[(1, .operation)]⟩ }
    let engine := Engine.reciting.attended (fun _ _ => .endGame (1 : Int)) (fun _ _ _ => .null) 3
    ∀ w' ∈ engine.worlds w
        [.takeRoute (1 : Int) (1 : Int), .endGame (1 : Int), .removeLocation (1 : Int) true],
      (1, .operation) ∈ w'.locks.held ∧ engine.Refuses 1 w' ∧
      (w'.games.get? 1 = w.games.get? 1 ∧ w'.journal.entries 1 = w.journal.entries 1 ∨
        w'.games.get? 1 = .ok none ∧ w'.journal.entries 1 = []) ∧
      ((∀ v, Json → (Action.endGame (1 : Int)).Takes v 1 → ¬(Action.endGame (1 : Int)).Forced) →
        engine.Throughout (fun v a => a.Takes v 1 → ¬a.Forced) w
          [.takeRoute (1 : Int) (1 : Int), .endGame (1 : Int), .removeLocation (1 : Int) true] →
        w'.games.get? 1 = w.games.get? 1 ∧ w'.journal.entries 1 = w.journal.entries 1) := by
  intro w engine
  have outside : ∀ a ∈ [Action.takeRoute (1 : Int) (1 : Int), .endGame (1 : Int),
      .removeLocation (1 : Int) true], a.Respects 1 := by simp [Action.Respects]
  have inside : World → Json → (Action.endGame (1 : Int)).Respects 1 := fun _ _ => trivial
  exact held_guarded inside Games.own_waiting
    (List.mem_singleton.2 rfl) (by decide) Engine.reciting (fun _ _ _ => .null) 3 outside

end TextAdventure
