import TextAdventure.Proofs.Engine.Faults

/-! How whole operations fail: taking a route, running a script, ending a game and starting one. An
operation that is refused leaves games as they are. One that fails later on has been ended by a script
of its game, or by an error of which no reference of the story is the cause. -/

namespace TextAdventure

open Op
open Table (HeldAt)

/-- A reference leads nowhere, or to a script that cannot be run for the game. -/
inductive Error.Dangling : Error → Prop
  | script (id : Identifier) : Dangling (.notFound .script id)
  | location (id : Identifier) : Dangling (.notFound .location id)
  | stray (id : Int) (script : Script) (game : Game) : Dangling (Engine.strayScript id script game)
  | runtime (id : Int) : Dangling (.scriptFailed id
      ("no runtime registered for script type '" ++ ScriptType.luaName ++ "'"))

theorem Error.tooLongToWrite_not_dangling : ¬Error.tooLongToWrite.Dangling :=
  nofun

/-! ### Looking up -/

/-- The errors of looking up a record of a kind. -/
def Error.OfLookUp (kind : Kind) (id : Identifier) (e : Error) : Prop :=
  e = .notFound kind id ∨ ∃ json, e = .unhashable json

theorem Error.OfLookUp.not_dangling {kind : Kind} {id : Identifier} {e : Error} (h : e.OfLookUp kind id)
    (script : kind ≠ .script) (location : kind ≠ .location) : ¬e.Dangling := by
  rintro ⟨⟩ <;> simp_all [OfLookUp, Engine.strayScript]

theorem Op.lookUpKey_error {id : Identifier} {e : Error} {w w' : World}
    (h : (Op.lookUpKey id).run w = (.error e, w')) : ∃ json, e = .unhashable json := by
  unfold Op.lookUpKey at h
  split at h
  · exact ⟨_, (Except.error.inj (Prod.mk.inj h).1).symm⟩
  · exact ⟨_, (Except.error.inj (Prod.mk.inj h).1).symm⟩
  · exact nomatch (Prod.mk.inj h).1

theorem Op.required_error {α : Type} {kind : Kind} {id : Identifier} {found : Option α} {e : Error}
    {w w' : World} (h : (Op.required kind id found).run w = (.error e, w')) :
    e = .notFound kind id := by
  cases found with
  | none => exact (Except.error.inj (Prod.mk.inj h).1).symm
  | some value => exact nomatch (Prod.mk.inj h).1

theorem Op.number_error {kind : Kind} {id : Identifier} {e : Error} {w w' : World}
    (h : (Op.number kind id).run w = (.error e, w')) : e.OfLookUp kind id := by
  unfold Op.number at h
  rcases run_bind_eq_error.1 h with hkey | ⟨_, u, -, hfound⟩
  · exact .inr (lookUpKey_error hkey)
  · exact .inl (required_error hfound)

theorem World.found_error {α : Type} {kind : Kind} {id : Identifier} {f : World → Int → Option α}
    {e : Error} {w w' : World}
    (h : (get >>= fun v => Op.number kind id >>= fun n =>
      Op.required kind id (f v n)).run w = (.error e, w')) : e.OfLookUp kind id := by
  rw [run_bind_ok (run_get w)] at h
  rcases run_bind_eq_error.1 h with hnumber | ⟨n, u, -, hfound⟩
  · exact number_error hnumber
  · exact .inl (required_error hfound)

theorem World.gameNumber_error {id : Identifier} {e : Error} {w w' : World}
    (h : (World.gameNumber id).run w = (.error e, w')) : ¬e.Dangling := by
  unfold World.gameNumber at h
  rcases run_bind_eq_error.1 h with hkey | ⟨_, u, -, hrest⟩
  · obtain ⟨json, rfl⟩ := lookUpKey_error hkey
    nofun
  · rw [run_bind_ok (run_get u)] at hrest
    split at hrest
    · obtain rfl := Except.error.inj (Prod.mk.inj hrest).1
      nofun
    · obtain rfl := Except.error.inj (Prod.mk.inj hrest).1
      nofun
    · rw [required_error hrest]
      nofun

/-- A game that cannot be held cannot be read, or it is not there. -/
theorem World.heldGame_error {id : Identifier} {n : Int} {e : Error} {w w' : World}
    (h : (World.heldGame id).run w = (.error e, w'))
    (number : ((World.gameNumber id).run w).1 = .ok n) :
    w.games.get? n = .error e ∨ ¬e.Dangling := by
  obtain ⟨grip, -, hrun⟩ := World.heldGame_eq number
  rw [hrun] at h
  generalize w.games.get? n = found at h
  rcases found with e' | _ | g
  · obtain rfl : e' = e := Except.error.inj (Prod.mk.inj h).1
    exact .inl rfl
  · obtain rfl := Except.error.inj (Prod.mk.inj h).1
    exact .inr nofun
  · exact nomatch (Prod.mk.inj h).1

/-- The errors of starting a game up to where it is added. -/
inductive Error.OfStart (asked : Identifier) : Error → Prop
  | adventure {e : Error} (lookUp : e.OfLookUp .adventure asked) : OfStart asked e
  | language (code : Text) : OfStart asked (.notFound .language (.name code))
  | codeless (kind : Json.Kind) : OfStart asked (.noMember kind "strip")
  | nowhere (adventure : Int) : OfStart asked (.noInitialLocation adventure)
  | ambiguous (adventure : Int) (locations : List Int) :
      OfStart asked (.ambiguousInitialLocation adventure locations)

theorem Error.OfStart.not_dangling {asked : Identifier} {e : Error} (h : e.OfStart asked) :
    ¬e.Dangling := by
  cases h with
  | adventure lookUp => exact lookUp.not_dangling nofun nofun
  | language | codeless | nowhere | ambiguous => nofun

variable {engine : Engine} {n adventure : Int} {u v w w' : World} {held : Held Game} {K : Error → Prop}
  {game : Identifier}

/-- The routes that leave the place of a game lead on: both ends are there, and the hooks on the way
may be run. -/
structure Engine.Leads (engine : Engine) (w : World) (K : Error → Prop) (g : Game) : Prop where
  ends : ∀ k route e, w.routes.get? k = some route → route.origin = g.location →
    (((World.location route.origin).run w).1 = .error e ∨
      ((World.location route.destination).run w).1 = .error e) → K e
  taken : ∀ k route, w.routes.get? k = some route → route.origin = g.location →
    engine.AdmitsHook w g.adventure K route.takenScript
  exit : ∀ k route l, w.routes.get? k = some route → route.origin = g.location →
    w.locations.get? route.origin = some l → engine.AdmitsHook w g.adventure K l.exitScript
  enter : ∀ k route l, w.routes.get? k = some route → route.origin = g.location →
    w.locations.get? route.destination = some l → engine.AdmitsHook w g.adventure K l.enterScript
  final : ∀ a, w.adventures.get? g.adventure = some a →
    engine.AdmitsHook w g.adventure K a.terminationScript

namespace InPlay

variable (quiet : engine.Quiet) (known : ∀ e : Error, ¬e.Dangling → K e)
include quiet known

theorem travel {p : Progress} (h : InPlay n adventure w p.held v) {route : Route}
    {origin destination : Held Location}
    (taken : engine.AdmitsHook w adventure K route.takenScript)
    (exit : engine.AdmitsHook w adventure K (w.locations.current origin).exitScript)
    (enter : engine.AdmitsHook w adventure K (w.locations.current destination).enterScript)
    (final : ∀ a, w.adventures.get? adventure = some a →
      engine.AdmitsHook w adventure K a.terminationScript) :
    Yields (engine.travel route origin destination p) v (fun p => InPlay n adventure w p.held)
      (engine.Fault n w K) := by
  have long : K .tooLongToWrite := known _ Error.tooLongToWrite_not_dangling
  refine .bind (h.showCopy _) fun p₁ v₁ h₁ => .bind (h₁.runHook quiet long taken)
    fun p₂ v₂ h₂ => h₂.locationNow _ ?_
  refine .bind (h₂.runHook quiet long exit) fun p₃ v₃ h₃ => h₃.locationNow _ ?_
  refine .bind (h₃.move long _ _) fun p₄ v₄ h₄ => .bind (h₄.showCopy _) fun p₅ v₅ h₅ => ?_
  refine .bind (h₅.runHook quiet long enter) fun p₆ v₆ h₆ => h₆.locationNow _ ?_
  split
  · exact h₆.terminate quiet long final
  · exact .pure h₆

theorem opening {p : Progress} (h : InPlay n adventure w p.held v) {a : Held Adventure}
    {place : Held Location} (first : engine.AdmitsHook w adventure K a.value.initializationScript)
    (enter : engine.AdmitsHook w adventure K (w.locations.current place).enterScript)
    (final : engine.AdmitsHook w adventure K (w.adventures.current a).terminationScript) :
    Yields (engine.opening a place p) v (fun p => InPlay n adventure w p.held)
      (engine.Fault n w K) := by
  have long : K .tooLongToWrite := known _ Error.tooLongToWrite_not_dangling
  refine .bind (h.runHook quiet long first) fun p₁ v₁ h₁ => h₁.adventureNow _ ?_
  refine .bind (h₁.showCopy _) fun p₂ v₂ h₂ => h₂.locationNow _ ?_
  refine .bind (h₂.showCopy _) fun p₃ v₃ h₃ => .bind (h₃.runHook quiet long enter)
    fun p₄ v₄ h₄ => h₄.locationNow _ ?_
  split
  · exact h₄.adventureNow _ (h₄.runHook quiet long final)
  · exact .pure h₄

omit quiet known in
/-- What has been shown can be told. -/
theorem transcribe {p : Progress} (h : InPlay n adventure w p.held v) :
    Yields (engine.transcribe p) v (fun _ v => v.games.Clear n) (engine.Fault n w K) :=
  .read (.texts _ _ _) (fun _ he => nomatch (Prod.mk.inj he).1) fun _ _ => .pure h.clear

theorem depart (h : InPlay n held.value.adventure w held v) (leads : engine.Leads w K held.value)
    (id : Int) (route : Identifier) :
    Yields (engine.depart id route held) v (fun _ v => v.games.Clear n) (engine.Fault n w K) := by
  unfold Engine.depart
  rw [if_neg (by simp [h.playable.holds.2])]
  refine .read (.route _) (fun e he => .checked (known e
    ((World.found_error (f := fun v n => v.routes.get? n) he).not_dangling nofun nofun)) h.clear)
    fun way hway => ?_
  obtain ⟨k, -, found⟩ := World.run_found (f := fun v n => v.routes.get? n) hway
  have hroutes : v.routes = w.routes := (congrArg World.routes h.story :)
  have hlocations : v.locations = w.locations := (congrArg World.locations h.story :)
  rw [hroutes] at found
  split
  · exact .read (.number _ _) (fun e he => .checked (known e
      ((number_error he).not_dangling nofun nofun)) h.clear) fun m _ =>
      .throw (.checked (known _ nofun) h.clear)
  rename_i hhere
  have here : way.origin = held.value.location := Decidable.not_not.1 hhere
  refine .read (.location _) (fun e he => .checked (leads.ends k way e found here (.inl ?_)) h.clear)
    fun origin horigin => .read (.location _)
    (fun e he => .checked (leads.ends k way e found here (.inr ?_)) h.clear)
    fun destination hdestination => ?_
  · rw [← (OfStory.location way.origin).same h.story, he]
  · rw [← (OfStory.location way.destination).same h.story, he]
  obtain ⟨origin', foundOrigin⟩ := World.run_location horigin
  obtain ⟨destination', foundDestination⟩ := World.run_location hdestination
  rw [hlocations] at origin' foundOrigin destination' foundDestination
  refine .bind (h.travel quiet known (p := { held }) (leads.taken k way found here)
    (origin' ▸ leads.exit k way _ found here foundOrigin)
    (destination' ▸ leads.enter k way _ found here foundDestination) leads.final) fun p v' h' => ?_
  exact h'.transcribe

end InPlay

/-! ### Whole operations -/

/-- The timeout of the engine is one that can be waited for. -/
def Engine.Waits (engine : Engine) : Prop :=
  ¬(0.0 < engine.settings.busyTimeout ∧ Locks.isTooLong engine.settings.busyTimeout)

theorem Locks.hold_error {locks : Locks} {timeout : Float} {e : Error}
    (h : locks.hold timeout n = .error e) : ¬e.Dangling := by
  unfold hold at h
  split at h
  · obtain rfl := Except.error.inj h
    nofun
  · split at h
    · obtain rfl := Except.error.inj h
      nofun
    · exact nomatch h

theorem Locks.waits_of_hold {locks locks' : Locks}
    (h : locks.hold engine.settings.busyTimeout n = .ok locks') : engine.Waits := by
  unfold hold at h
  split at h
  · exact nomatch h
  · rename_i waits
    exact waits

/-- How a whole operation on game `n` fails: it is refused, and games are as they were, though a number
may have been used up; or it has played the game, and fails with an error that `K` knows; or a script
of the game has ended it. -/
inductive Engine.Fails (engine : Engine) (n : Int) (w : World) (K : Error → Prop) :
    Error → World → Prop
  | refused {e : Error} {clock : Clock} {ids : IdSequence} (known : K e) :
      Fails engine n w K e { w with clock, games := w.games.withIds ids }
  | checked {e : Error} {v : World} (known : K e) (clear : v.games.Clear n) : Fails engine n w K e v
  | broken {ending : Ending} {e : Error} {v : World} (waits : engine.Waits)
      (breaks : engine.Breaks n w ending e v) :
      Fails engine n w K e { v with locks := v.locks.release n }

theorem Engine.Fails.still {e : Error} (known : K e) : engine.Fails n w K e w := by
  have same : ({ w with games := w.games.withIds w.games.ids } : World) = w := by
    rw [show w.games.withIds w.games.ids = w.games by cases w.games <;> rfl]
  have refused : engine.Fails n w K e { w with games := w.games.withIds w.games.ids } :=
    .refused known
  rwa [same] at refused

/-- What fails while game `n` is held fails as a whole. -/
theorem Engine.Fault.holding {α : Type} {op : Op α} (known : ∀ e : Error, ¬e.Dangling → K e)
    (refused : ∀ e, K e → engine.Fails n w K e u)
    (inside : ∀ locks, Yields op { u with locks } (fun _ v => v.games.Clear n)
      (engine.Fault n w K)) :
    Yields (engine.holding n op) u (fun _ v => v.games.Clear n) (engine.Fails n w K) := by
  refine .holding (fun e he => refused e (known e (Locks.hold_error he))) fun locks hlocks => ?_
  refine (inside locks).imp (fun _ _ clear => clear) fun e v fault => ?_
  cases fault with
  | broken breaks => exact .broken (Locks.waits_of_hold hlocks) breaks
  | checked known clear => exact .checked known clear

namespace Engine

section Stored

variable (quiet : engine.Quiet) (known : ∀ e : Error, ¬e.Dangling → K e)
  (own : ∀ g, w.games.get? n = .ok (some g) → g.id = some n) (clear : w.games.Clear n)
  (reads : ∀ e, w.games.get? n = .error e → K e)
  (number : (World.gameNumber game).run w = (.ok n, w))
include known own clear reads number

omit known own clear reads in
/-- An operation that asks for game `n` does so before anything else. -/
theorem yields_numbered {α : Type} {f : Int → Op α} {Q : α → World → Prop} {E : Error → World → Prop}
    (hf : Yields (f n) w Q E) : Yields (World.gameNumber game >>= f) w Q E := by
  rw [Yields, run_bind_ok number]
  exact hf

theorem yields_heldGame {α : Type} {f : Held Game → Op α} {Q : α → World → Prop} {locks : Locks}
    (hf : ∀ held, InPlay n held.value.adventure w held { w with locks } →
      w.games.get? n = .ok (some held.value) →
      Yields (f held) { w with locks } Q (engine.Fault n w K)) :
    Yields (World.heldGame game >>= f) { w with locks } Q (engine.Fault n w K) := by
  have hnumber := (World.gameNumber_locked game w locks).trans (congrArg Prod.fst number)
  refine .read (.heldGame _) (fun e he => .checked ?_ clear) fun held hheld => ?_
  · rcases World.heldGame_error he hnumber with unread | other
    · exact reads e unread
    · exact known e other
  · obtain ⟨-, m, hm, place, found⟩ := World.run_heldGame hheld
    obtain rfl : n = m := Except.ok.inj (hnumber.symm.trans hm)
    exact hf held
      ⟨⟨own _ found, place, ⟨rfl, clear _ found⟩, Games.has_of_get? found⟩, rfl, clear⟩ found

include quiet

theorem takeRoute_yields (leads : ∀ g, w.games.get? n = .ok (some g) → engine.Leads w K g)
    (route : Identifier) :
    Yields (engine.takeRoute game route) w (fun _ v => v.games.Clear n) (engine.Fails n w K) :=
  yields_numbered number <| Fault.holding known (fun _ => .still) fun _ =>
    yields_heldGame known own clear reads number fun _ inPlay found =>
      inPlay.depart quiet known (leads _ found) _ _

theorem executeScript_yields {script : Identifier}
    (admits : ∀ g, w.games.get? n = .ok (some g) → engine.Admits w g.adventure K script) :
    Yields (engine.executeScript game script) w (fun _ v => v.games.Clear n) (engine.Fails n w K) := by
  refine yields_numbered number <| Fault.holding known (fun _ => .still) fun _ =>
    yields_heldGame known own clear reads number fun held inPlay found => ?_
  have long : K .tooLongToWrite := known _ Error.tooLongToWrite_not_dangling
  exact .bind (inPlay.executeStored quiet long (admits _ found)) fun r v hr => .pure hr.clear

theorem endGame_yields
    (final : ∀ g, w.games.get? n = .ok (some g) → ∀ a, w.adventures.get? g.adventure = some a →
      engine.AdmitsHook w g.adventure K a.terminationScript) :
    Yields (engine.endGame game) w (fun _ v => v.games.Clear n) (engine.Fails n w K) := by
  rw [endGame_eq]
  refine yields_numbered number <| Fault.holding known (fun _ => .still) fun locks => ?_
  have gone (v : World) : (Authoring.dropGame v n).games.Clear n := by
    intro g found
    have hnone : (v.games.remove n).get? n = .ok (some g) := found
    rw [Games.get?_remove, if_pos rfl] at hnone
    exact nomatch hnone
  refine .bind (Q := fun _ v => v.games.Clear n) ?_ fun t v _ => gone v
  refine yields_heldGame known own clear reads number fun held inPlay found => ?_
  refine .read (.finalHook _) (fun e he => nomatch (Prod.mk.inj he).1) fun hook hhook => ?_
  refine .bind (inPlay.runHook quiet (known _ nofun) (p := { held }) fun script hscript => ?_)
    fun p v h => h.transcribe
  have hvalue : (if held.value.needsRecovery ∨ held.value.completed then none
      else (w.adventures.get? held.value.adventure).bind (·.terminationScript)) = hook :=
    Except.ok.inj (Prod.mk.inj hhook).1
  rw [hscript] at hvalue
  split at hvalue
  · exact nomatch hvalue
  · obtain ⟨a, hadventure, hset⟩ := Option.bind_eq_some_iff.1 hvalue
    exact final _ found a hadventure script hset

end Stored

/-- The hooks of an opening game may be run. -/
structure Opens (engine : Engine) (w : World) (K : Error → Prop) : Prop where
  first : ∀ k a, w.adventures.get? k = some a →
    engine.AdmitsHook w (a.idAt k) K a.initializationScript
  enter : ∀ k a m place, w.adventures.get? k = some a → (m, place) ∈ w.locations.rows →
    place.adventure = a.idAt k →
    engine.AdmitsHook w (a.idAt k) K (w.locations.current (w.locations.hold m place)).enterScript
  final : ∀ k a, w.adventures.get? k = some a →
    engine.AdmitsHook w (a.idAt k) K a.terminationScript

theorem gameLanguage_error (asked : Identifier) {language : Json} {e : Error}
    (h : (engine.gameLanguage language).run w = (.error e, w')) : e.OfStart asked := by
  rw [gameLanguage_eq] at h
  rcases run_bind_eq_error.1 h with hasked | ⟨code, u, -, hregistered⟩
  · unfold askedCode at hasked
    split at hasked
    · exact nomatch (Prod.mk.inj hasked).1
    · exact nomatch (Prod.mk.inj hasked).1
    · obtain rfl := Except.error.inj (Prod.mk.inj hasked).1
      exact .codeless _
  · unfold registeredCode at hregistered
    rw [run_bind_ok (run_get u)] at hregistered
    split at hregistered
    · obtain rfl := Except.error.inj (Prod.mk.inj hregistered).1
      exact .language code
    · exact nomatch (Prod.mk.inj hregistered).1

theorem initialLocation_error (asked : Identifier) {e : Error}
    (h : (initialLocation adventure).run w = (.error e, w')) : e.OfStart asked := by
  unfold initialLocation at h
  rw [run_bind_ok (run_get w)] at h
  dsimp only at h
  split at h
  · obtain rfl := Except.error.inj (Prod.mk.inj h).1
    exact .nowhere adventure
  · exact nomatch (Prod.mk.inj h).1
  · obtain rfl := Except.error.inj (Prod.mk.inj h).1
    exact .ambiguous adventure _

theorem addGame_yields (g : Game) :
    Yields (addGame g) w
      (fun held v => held.value = { g with id := some w.games.ids.next } ∧
        HeldAt w.games.ids.next held ∧
        ∃ games, v = { w with games } ∧ w.games.Puts w.games.ids.next held.value games)
      (fun e v => e = .tooLongToWrite ∧ w.games.Filed ∧
        v = { w with games := w.games.withIds ⟨w.games.ids.next + 1⟩ }) := by
  have assigned : w.games.ids.assign .unset = .ok (w.games.ids.next, ⟨w.games.ids.next + 1⟩) := rfl
  rw [addGame, Yields, run_of]
  dsimp only
  rcases Games.add_assigned assigned g with ⟨held, games, hadd, hvalue, place, puts, -⟩ |
    ⟨filed, hadd⟩
  · rw [hadd]
    rw [← hvalue] at puts
    exact ⟨hvalue, place, games, rfl, puts⟩
  · rw [hadd]
    exact ⟨rfl, filed, rfl⟩

theorem startGame_yields (quiet : engine.Quiet) (known : ∀ e : Error, ¬e.Dangling → K e)
    (opens : engine.Opens w K) (asked : Identifier) (language : Json) :
    Yields (engine.startGame asked language) w (fun _ v => v.games.Clear w.games.ids.next)
      (engine.Fails w.games.ids.next w K) := by
  unfold startGame
  refine .read (.adventure _) (fun e he => .still (known e
    ((World.found_error (f := fun v n => v.adventures.held? n) he).not_dangling nofun nofun)))
    fun a ha => ?_
  obtain ⟨k, hk, found⟩ := World.run_found (f := fun v n => v.adventures.held? n) ha
  obtain ⟨hcurrent, hadventure⟩ := Table.current_held found
  refine .read (.gameLanguage _ _) (fun e he => .still (known e
    (gameLanguage_error asked he).not_dangling)) fun code hcode => ?_
  rw [Yields, run_bind_ok hk]
  refine Yields.read (.initialLocation _)
    (fun e he => .still (known e (initialLocation_error asked he).not_dangling))
    fun initial hinitial => ?_
  obtain ⟨m, place, hrow, hplace, hm, hheld⟩ :=
    initialLocation_eq (m := initial.1) (h := initial.2) hinitial
  have ticked : World.tick.run w = (.ok w.clock.tick.1, { w with clock := w.clock.tick.2 }) := rfl
  refine .bind (.of_run ticked rfl)
    (Q := fun _ v => v = { w with clock := w.clock.tick.2 }) fun time v hv => ?_
  subst hv
  refine .bind (Q := fun held v => held.value.id = some w.games.ids.next ∧
    InPlay w.games.ids.next (a.value.idAt k) w held v) ?_ fun held v added => ?_
  · apply (addGame_yields _).imp
    · rintro held v ⟨hvalue, hat, games, rfl, puts⟩
      have number : held.value.id = some w.games.ids.next := by rw [hvalue]
      have holds : held.value.adventure = a.value.idAt k ∧ held.value.needsRecovery = false := by
        rw [hvalue]
        exact ⟨rfl, rfl⟩
      exact ⟨number, ⟨number, hat, holds, (puts.has _).2 (.inl rfl)⟩, rfl,
        fun g found => (puts.needsRecovery found).trans holds.2⟩
    · rintro e v ⟨rfl, -, rfl⟩
      exact .refused (known _ Error.tooLongToWrite_not_dangling)
  obtain ⟨number, inPlay⟩ := added
  rw [number]
  refine Fault.holding known (fun e he => .checked he inPlay.clear) fun locks => ?_
  have next : InPlay w.games.ids.next (a.value.idAt k) w held { v with locks } :=
    inPlay.aside rfl rfl
  refine .bind (next.opening quiet known (opens.first k _ hadventure) ?_ ?_)
    fun p u hp => hp.transcribe
  · rw [hheld]
    exact opens.enter k _ m place hadventure hrow hplace
  · rw [hcurrent]
    exact opens.final k _ hadventure

end Engine

end TextAdventure
