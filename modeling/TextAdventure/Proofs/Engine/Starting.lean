import TextAdventure.Proofs.Engine.Failing
import TextAdventure.Proofs.Engine.Untouched

/-! How the start of a game fails before its scripts are run. Where a check refuses it, nothing has
been added. But the game is added before it is held: where its number is held by someone else, the
start is refused as well, and the game stays. -/

namespace TextAdventure

open Op

variable {engine : Engine} {adventure : Identifier} {language : Json} {w w' : World} {e : Error}

namespace Engine

/-- The game has been added and is held, and then its opening fails. -/
def OpeningFails (engine : Engine) (adventure : Identifier) (language : Json) (w : World)
    (e : Error) : Prop :=
  ∃ enrolled v locks u, (engine.enrol adventure language).run w = (.ok enrolled, v) ∧
    v.locks.hold engine.settings.busyTimeout (enrolled.2.2.value.id.getD 0) = .ok locks ∧
    (engine.opening enrolled.1 enrolled.2.1 { held := enrolled.2.2 }).run { v with locks } =
      (.error e, u)

/-- Up to where the game is added, only the clock and the store of games change. A check that fails
comes before either. -/
theorem enrol_yields (engine : Engine) (adventure : Identifier) (language : Json) (w : World) :
    Yields (engine.enrol adventure language) w
      (fun enrolled v => enrolled.2.2.value.id = some w.games.ids.next ∧
        ∃ games, v = { w with clock := w.clock.tick.2, games } ∧
          w.games.Puts w.games.ids.next enrolled.2.2.value games)
      (fun e v => e.OfStart adventure ∧ v = w ∨ e = .tooLongToWrite ∧ w.games.Filed ∧
        v = { w with clock := w.clock.tick.2
                     games := w.games.withIds ⟨w.games.ids.next + 1⟩ }) := by
  refine .read (.adventure _) (fun e he => .inl ⟨.adventure ?_, rfl⟩) fun held _ => ?_
  · exact World.found_error (f := fun v n => v.adventures.held? n) he
  refine .read (.gameLanguage _ _) (fun e he => .inl ⟨gameLanguage_error adventure he, rfl⟩)
    fun code _ => ?_
  refine .read (.number _ _) (fun e he => .inl ⟨.adventure (number_error he), rfl⟩) fun k _ => ?_
  refine .read (.initialLocation _) (fun e he => .inl ⟨initialLocation_error adventure he, rfl⟩)
    fun initial _ => ?_
  have ticked : World.tick.run w = (.ok w.clock.tick.1, { w with clock := w.clock.tick.2 }) := rfl
  rw [Yields, run_bind_ok ticked]
  refine Yields.bind ((addGame_yields _).imp ?_ fun e v unfit => .inr unfit)
    fun game v added => .pure added
  rintro game v ⟨hvalue, -, games, rfl, puts⟩
  refine ⟨?_, games, rfl, puts⟩
  rw [hvalue]

/-- Where the number of the new game is not to be had, its opening is not begun. -/
theorem not_openingFails_of_held {refusal : Error}
    (held : w.locks.hold engine.settings.busyTimeout w.games.ids.next = .error refusal) :
    ¬engine.OpeningFails adventure language w e := by
  rintro ⟨enrolled, v, locks, u, henrol, hlocks, -⟩
  obtain ⟨number, games, rfl, -⟩ := (enrol_yields engine adventure language w).ok henrol
  rw [number, Option.getD_some] at hlocks
  exact nomatch held.symm.trans hlocks

/-- What has been shown at the opening can be told. -/
theorem transcribe_yields (engine : Engine) (p : Progress) (w : World) :
    Yields (engine.transcribe p) w (fun _ _ => True) (fun _ _ => False) :=
  .read (.texts _ _ _) (fun _ he => nomatch (Prod.mk.inj he).1) fun _ _ => .pure trivial

/-- Where a start fails and its opening does not, only the clock and the store of games may have
changed, so nothing has been added to the content of any game. A failed check leaves all as it was,
and a game that does not fit into its file has used up its number. Where the next number is held
already, the game has been added by then, and it stays. -/
theorem startGame_refused (fails : (engine.startGame adventure language).run w = (.error e, w'))
    (unscripted : ¬engine.OpeningFails adventure language w e) :
    w' = { w with clock := w'.clock, games := w'.games } ∧
    (e.OfStart adventure ∧ w' = w ∨
      e = .tooLongToWrite ∧ w.games.Filed ∧
        w'.games = w.games.withIds ⟨w.games.ids.next + 1⟩ ∨
      w.locks.hold engine.settings.busyTimeout w.games.ids.next = .error e ∧
        ∃ g, g.id = some w.games.ids.next ∧ w.games.Puts w.games.ids.next g w'.games) := by
  rw [startGame_eq] at fails
  have enrols := enrol_yields engine adventure language w
  rcases run_bind_eq_error.1 fails with henrol | ⟨enrolled, v, henrol, hholding⟩
  · rcases enrols.error henrol with ⟨known, rfl⟩ | ⟨rfl, filed, rfl⟩
    · exact ⟨rfl, .inl ⟨known, rfl⟩⟩
    · exact ⟨rfl, .inr (.inl ⟨rfl, filed, rfl⟩)⟩
  obtain ⟨number, games, rfl, puts⟩ := enrols.ok henrol
  rw [holding, World.holding_eq, number, Option.getD_some] at hholding
  cases hlocks : w.locks.hold engine.settings.busyTimeout w.games.ids.next with
  | error refusal =>
    rw [hlocks] at hholding
    obtain ⟨herror, rfl⟩ := Prod.mk.inj hholding
    obtain rfl := Except.error.inj herror
    exact ⟨rfl, .inr (.inr ⟨rfl, _, number, puts⟩)⟩
  | ok locks =>
    rw [hlocks] at hholding
    -- What fails while the game is held is the opening, since telling it cannot fail.
    have herror := (Prod.mk.inj hholding).1
    rcases run_bind_eq_error.1 (Prod.ext herror rfl) with hopening | ⟨p, u, -, htold⟩
    · refine absurd ⟨enrolled, _, locks, _, henrol, ?_, hopening⟩ unscripted
      rw [number]
      exact hlocks
    · exact ((transcribe_yields engine p u).error htold).elim

/-- The host holds number 1 when the first game is started, which is refused and stays. -/
theorem startGame_refused_lane :
    let w : World := { World.lane (.memory {}) with locks := ⟨[(1, .host)]⟩ }
    let left := ((reciting.startGame (1 : Int)).run w).2
    (reciting.startGame (1 : Int)).run w = (.error (.gameBusy 1), left) ∧
      ¬reciting.OpeningFails (1 : Int) .null w (.gameBusy 1) ∧
      left.journal = w.journal ∧ w.games.get? 1 = .ok none ∧
      ∃ g, g.id = some 1 ∧ left.games.get? 1 = .ok (some g) := by
  intro w left
  have held : w.locks.hold reciting.settings.busyTimeout w.games.ids.next =
      .error (.gameBusy 1) := by decide +kernel
  have fails : (reciting.startGame (1 : Int)).run w = (.error (.gameBusy 1), left) :=
    Prod.ext (by decide +kernel) rfl
  have unscripted : ¬reciting.OpeningFails (1 : Int) .null w (.gameBusy 1) :=
    not_openingFails_of_held held
  obtain ⟨same, refused | ⟨long, -⟩ | ⟨-, g, number, puts⟩⟩ := startGame_refused fails unscripted
  · exact nomatch refused.1
  · exact nomatch long
  · have found : left.games.get? 1 = .ok (some g) := puts.get? 1
    exact ⟨fails, unscripted, (congrArg World.journal same :), rfl, g, number, found⟩

end Engine

end TextAdventure
