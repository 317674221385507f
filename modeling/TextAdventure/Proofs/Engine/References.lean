import TextAdventure.Proofs.Engine.Busy
import TextAdventure.Proofs.Engine.Stopped
import TextAdventure.Proofs.Engine.WellFormed

/-! Operations follow references that nobody has checked: hooks to scripts, routes to locations, games
to adventures. In a world whose references are well-formed each of them leads somewhere, so that no
operation fails for one. The same error can only be what a script has ended with by itself. -/

namespace TextAdventure

open Op

variable {engine : Engine} {w w' : World} {n : Int} {a : Action} {e : Error}

/-! ### Reading stored games -/

namespace Error

/-- A result that is no failure for a reference that dangles. -/
def Sound {α : Type} (r : Except Error α) : Prop := ∀ e, r = .error e → ¬e.Dangling

namespace Sound

variable {α β : Type}

theorem ok (a : α) : Sound (.ok a) := fun _ h => nomatch h

theorem error (h : ¬e.Dangling) : Sound (.error e : Except Error α) := by
  intro e' he
  obtain rfl := Except.error.inj he
  exact h

theorem bind {r : Except Error α} {f : α → Except Error β} (hr : Sound r) (hf : ∀ a, Sound (f a)) :
    Sound (r >>= f) := by
  cases r with
  | error e => exact .error (hr e rfl)
  | ok a => exact hf a

theorem map {r : Except Error α} (hr : Sound r) (f : α → β) : Sound (r.map f) := by
  cases r with
  | error e => exact .error (hr e rfl)
  | ok a => exact .ok (f a)

theorem code (field : String) (v : Json) : Sound (Field.code field v) := by
  refine .map ?_ _
  unfold Field.name Field.text
  split
  · rename_i e hv
    split at hv
    · exact nomatch hv
    · exact .error (Except.error.inj hv ▸ nofun)
  · split
    · exact .error nofun
    · exact .ok _

theorem toInt (v : Json) : Sound (Payload.toInt v) := by
  unfold Payload.toInt
  split
  · exact .ok _
  · exact .ok _
  · split
    · exact .ok _
    · exact .error nofun
    · exact .error nofun
  · split
    · exact .ok _
    · split <;> exact .error nofun
  · exact .error nofun

theorem required (name : String) (object : Fields) : Sound (Payload.required name object) := by
  unfold Payload.required
  split
  · exact .ok _
  · exact .error nofun

theorem stateField (object : Fields) : Sound (Payload.stateField object) := by
  unfold Payload.stateField
  split
  · exact .ok _
  · exact .ok _
  · exact .ok _
  · exact .error nofun

theorem loadState (game : Game) (payload : Option Text) : Sound (game.loadState payload) := by
  refine .map ?_ _
  unfold Game.readState
  split
  · exact .ok _
  · split
    · exact .ok _
    · split
      · exact .error nofun
      · exact .ok _
      · exact .error nofun

theorem read (t : Text) : Sound (Payload.read t) := by
  unfold Payload.read
  split
  · exact .error nofun
  · exact .bind (required _ _) fun _ => .bind (toInt _) fun _ => .bind (required _ _) fun _ =>
      .bind (toInt _) fun _ => .bind (required _ _) fun _ => .bind (toInt _) fun _ =>
      .bind (required _ _) fun _ => .bind (toInt _) fun _ =>
      .bind (.bind (code _ _) fun _ => .ok _) fun _ => .bind (stateField _) fun _ => loadState _ _
  · exact .error nofun

end Sound

end Error

/-- A stored game that cannot be read is not looked for in vain. -/
theorem Games.sound_get? (s : Games) (n : Int) : Error.Sound (s.get? n) := by
  cases s with
  | memory t => exact .ok _
  | files f =>
    show Error.Sound (f.get? n)
    unfold Folder.get?
    split
    · exact .map (.read _) _
    · exact .ok _

/-! ### Well-formed references -/

/-- Every hook names a script of its own adventure, every route joins locations of one adventure, and
every game is at a location of its adventure. Records go by the numbers that they are stored under. -/
structure World.Referenced (w : World) : Prop extends World.Laid w where
  adventure_scripts : ∀ n a, w.adventures.get? n = some a →
    ∀ s, a.initializationScript = some s ∨ a.terminationScript = some s → w.ScriptOf n s
  location_scripts : ∀ n l, w.locations.get? n = some l →
    ∀ s, l.enterScript = some s ∨ l.exitScript = some s → w.ScriptOf l.adventure s
  route_script : ∀ n r o, w.routes.get? n = some r → w.locations.get? r.origin = some o →
    ∀ s, r.takenScript = some s → w.ScriptOf o.adventure s
  games : w.games.Hold w.Houses

theorem WellFormed.referenced (h : WellFormed w) : w.Referenced :=
  ⟨h.laid, h.adventure_scripts, h.location_scripts, h.route_script, h.games⟩

theorem World.run_number {α : Type} {kind : Kind} {f : World → Int → Option α} {value : α}
    (found : f w n = some value) :
    (get >>= fun v => Op.number kind n >>= fun m => Op.required kind n (f v m)).run w =
      (.ok value, w) := by
  have number : (Op.number kind n).run w = (.ok n, w) := rfl
  rw [run_bind_ok (run_get w), run_bind_ok number, found]
  rfl

/-- A stored script may be run for the games of its adventure. -/
theorem Engine.admits {runtime : Runtime} (registered : engine.runtime = some runtime)
    {script : Identifier} {s : Script} (stored : (World.script script).run w = (.ok s, w)) :
    engine.Admits w s.adventure (fun e => ¬e.Dangling) script := by
  intro held e same refused
  obtain ⟨k, number, -⟩ := World.run_found (f := fun v n => v.scripts.get? n) stored
  unfold scriptFor at refused
  rw [run_bind_ok stored, run_bind_ok number] at refused
  split at refused
  · obtain rfl := Except.error.inj refused
    nofun
  · rw [if_neg (not_not.2 same.symm)] at refused
    unfold runtimeFor at refused
    split at refused
    · exact nomatch refused
    · rename_i unregistered lua
      rw [lua, registered] at unregistered
      exact nomatch unregistered
    · obtain rfl := Except.error.inj refused
      nofun

namespace World.Referenced

variable (h : w.Referenced) {runtime : Runtime} (registered : engine.runtime = some runtime)
include h registered

omit h in
theorem admitsHook {adventure : Int} {hook : Option Int}
    (scripts : ∀ s, hook = some s → w.ScriptOf adventure s) :
    engine.AdmitsHook w adventure (fun e => ¬e.Dangling) hook := by
  intro script hset
  obtain ⟨s, found, rfl⟩ := scripts script hset
  exact engine.admits registered (World.run_number (f := fun v n => v.scripts.get? n) found)

theorem final {adventure : Int} (a : Adventure) (found : w.adventures.get? adventure = some a) :
    engine.AdmitsHook w adventure (fun e => ¬e.Dangling) a.terminationScript :=
  admitsHook registered fun s hs => h.adventure_scripts _ a found s (.inr hs)

/-- Whichever way a game goes, the way leads on. -/
theorem leads {g : Game} (found : w.games.get? n = .ok (some g)) :
    engine.Leads w (fun e => ¬e.Dangling) g := by
  obtain ⟨-, -, here, hhere, own⟩ := h.games n g found
  have ends (k : Int) (route : Route) (hroute : w.routes.get? k = some route)
      (leaves : route.origin = g.location) :
      w.locations.get? route.origin = some here ∧
        ∃ there, w.locations.get? route.destination = some there ∧ there.adventure = g.adventure := by
    obtain ⟨o, d, ho, hd, same⟩ := h.route_ends k route hroute
    obtain rfl : here = o := Option.some.inj (hhere.symm.trans (leaves ▸ ho))
    exact ⟨ho, d, hd, same.symm.trans own⟩
  have stands (m : Int) (l : Location) (hl : w.locations.get? m = some l) (e : Error) :
      ((World.location m).run w).1 ≠ .error e := by
    have held : w.locations.held? m = some (w.locations.hold m l) := by simp [Table.held?, hl]
    rw [World.location, World.run_number (f := fun v n => v.locations.held? n) held]
    intro missing
    cases missing
  refine ⟨fun k route e hroute leaves missing => ?_, fun k route hroute leaves => ?_,
    fun k route l hroute leaves hl => ?_, fun k route l hroute leaves hl => ?_,
    fun a found => h.final registered a found⟩ <;>
    obtain ⟨horigin, there, hthere, same⟩ := ends k route hroute leaves
  · rcases missing with missing | missing
    · exact absurd missing (stands _ _ horigin e)
    · exact absurd missing (stands _ _ hthere e)
  · exact admitsHook registered fun s hs => own ▸ h.route_script k route _ hroute horigin s hs
  · obtain rfl := Option.some.inj (horigin.symm.trans hl)
    exact admitsHook registered fun s hs => own ▸ h.location_scripts _ _ hl s (.inr hs)
  · obtain rfl := Option.some.inj (hthere.symm.trans hl)
    exact admitsHook registered fun s hs => same ▸ h.location_scripts _ _ hl s (.inl hs)

theorem opens : engine.Opens w (fun e => ¬e.Dangling) := by
  have own (k : Int) (a : Adventure) (found : w.adventures.get? k = some a) : a.idAt k = k := by
    rw [Adventure.idAt, h.adventure_id k a found]
    rfl
  refine ⟨fun k a found => ?_, fun k a m place found row inside => ?_, fun k a found => ?_⟩
  · rw [own k a found]
    exact admitsHook registered fun s hs => h.adventure_scripts _ a found s (.inl hs)
  · have stored := h.locations_ascending.get?_of_mem row
    rw [Table.current_hold stored, ← inside]
    exact admitsHook registered fun s hs => h.location_scripts m place stored s (.inl hs)
  · rw [own k a found]
    exact h.final registered a found

end World.Referenced

/-! ### Operations -/

/-- Starting a game, taking a route, ending a game, or running a stored script of the adventure of the
game. -/
def Action.Refers (w : World) : Action → Prop
  | .startGame _ _ | .takeRoute _ _ | .endGame _ => True
  | .executeScript game script => ∀ g, ((World.game game).run w).1 = .ok g →
    ∃ s, ((World.script script).run w).1 = .ok s ∧ s.adventure = g.adventure
  | _ => False

namespace World.Referenced

variable (h : w.Referenced) {runtime : Runtime} (registered : engine.runtime = some runtime)
  (quiet : engine.Quiet) {game : Identifier} (number : (World.gameNumber game).run w = (.ok n, w))
include h registered quiet

theorem startGame (adventure : Identifier) (language : Json) :
    Yields (engine.startGame adventure language) w (fun _ _ => True)
      (engine.Fails w.games.ids.next w fun e => ¬e.Dangling) :=
  (Engine.startGame_yields quiet (fun _ => id) (h.opens registered) adventure language).imp
    (fun _ _ _ => trivial) fun _ _ => id

include number

theorem takeRoute (route : Identifier) :
    Yields (engine.takeRoute game route) w (fun _ _ => True)
      (engine.Fails n w fun e => ¬e.Dangling) := by
  rcases w.games.clear_or n with clear | ⟨g, found, flagged⟩
  · exact (Engine.takeRoute_yields quiet (fun _ => id) (fun g found => (h.games n g found).1) clear
      (w.games.sound_get? n) number (fun g found => h.leads registered found) route).imp
      (fun _ _ _ => trivial) fun _ _ => id
  · cases hold : w.locks.hold engine.settings.busyTimeout n with
    | error e => exact .of_run (Engine.run_refused number hold _) (.still (Locks.hold_error hold))
    | ok locks =>
      exact .of_run (Engine.run_takeRoute_flagged number found flagged hold route) (.still nofun)

theorem endGame :
    Yields (engine.endGame game) w (fun _ _ => True) (engine.Fails n w fun e => ¬e.Dangling) := by
  rcases w.games.clear_or n with clear | ⟨g, found, flagged⟩
  · exact (Engine.endGame_yields quiet (fun _ => id) (fun g found => (h.games n g found).1) clear
      (w.games.sound_get? n) number fun g found a => h.final registered a).imp
      (fun _ _ _ => trivial) fun _ _ => id
  · cases hold : w.locks.hold engine.settings.busyTimeout n with
    | error e => exact .of_run (Engine.run_refused number hold _) (.still (Locks.hold_error hold))
    | ok locks =>
      exact .of_run (Engine.run_endGame_flagged number found flagged hold engine.runtime) trivial

theorem executeScript {script : Identifier} (refers : Action.Refers w (.executeScript game script)) :
    Yields (engine.executeScript game script) w (fun _ _ => True)
      (engine.Fails n w fun e => ¬e.Dangling) := by
  have stored (g : Game) (found : w.games.get? n = .ok (some g)) :
      ∃ s, (World.script script).run w = (.ok s, w) ∧ s.adventure = g.adventure := by
    obtain ⟨held, hheld, rfl, -⟩ := World.run_heldGame_locked number found w.locks
    have hgame : (World.game game).run w = (.ok held.value, w) := run_bind_ok hheld
    obtain ⟨s, hs, same⟩ := refers held.value (by rw [hgame])
    exact ⟨s, Prod.ext hs (ReadOnly.script script w), same⟩
  rcases w.games.clear_or n with clear | ⟨g, found, flagged⟩
  · refine (Engine.executeScript_yields quiet (fun _ => id) (fun g found => (h.games n g found).1)
      clear (w.games.sound_get? n) number fun g found => ?_).imp (fun _ _ _ => trivial) fun _ _ => id
    obtain ⟨s, hs, same⟩ := stored g found
    exact same ▸ Engine.admits registered hs
  · cases hold : w.locks.hold engine.settings.busyTimeout n with
    | error e => exact .of_run (Engine.run_refused number hold _) (.still (Locks.hold_error hold))
    | ok locks =>
      obtain ⟨s, hs, -⟩ := stored g found
      obtain ⟨e, hrun, refused⟩ := Engine.run_executeScript_flagged number found flagged hold script
      exact .of_run hrun (.still (refused s hs ▸ nofun))

end World.Referenced

namespace Engine

/-- An operation that fails for a reference that dangles has been ended with that by a script. -/
theorem brokenBy_of_fails (quiet : engine.Quiet) {α : Type} {op : Op α} {tell : α → Answer}
    {Q : α → World → Prop} (perform : a.perform engine = tell <$> op)
    (yields : Yields op w Q (engine.Fails n w fun e => ¬e.Dangling))
    (answered : engine.answer w a = .error e) (dangling : e.Dangling) :
    ∃ ending k, engine.BrokenBy n w a ending ∧ ending.error? k = some e := by
  have after := after_of_perform perform w
  have answer := answer_of_perform perform w
  rcases hrun : op.run w with ⟨e' | r, v⟩ <;> rw [hrun] at answer after <;> rw [answer] at answered
  · obtain rfl : e' = e := Except.error.inj answered
    have fails := yields.error hrun
    cases fails with
    | refused known => exact absurd dangling known
    | checked known => exact absurd dangling known
    | @broken ending _ v' waits breaks =>
      obtain ⟨-, ⟨⟨k, ended⟩, -⟩ | ⟨-, rfl, -⟩⟩ := breaks.cases quiet
      · exact ⟨ending, k, ⟨e', v', breaks, answer, after⟩, ended⟩
      · exact nomatch dangling
  · exact nomatch answered

/-- In a world whose references are well-formed, and with a runtime, no operation fails because a
script or a location is not there, because a script belongs to another adventure, or because there is
no runtime. Where the error of an operation reads like that, a script has ended with it by itself. -/
theorem references_resolve (quiet : engine.Quiet) {runtime : Runtime}
    (registered : engine.runtime = some runtime) (h : w.Referenced) (refers : a.Refers w)
    (answered : engine.answer w a = .error e) (dangling : e.Dangling) :
    ∃ n ending k, engine.BrokenBy n w a ending ∧ ending.error? k = some e := by
  -- An operation on a game that is not found out about fails before it follows any reference.
  have numbered {α : Type} {game : Identifier} {f : Int → Op α} {tell : α → Answer}
      (perform : a.perform engine = tell <$> (World.gameNumber game >>= f)) :
      ∃ n, (World.gameNumber game).run w = (.ok n, w) := by
    have same := ReadOnly.gameNumber game w
    rcases hnumber : (World.gameNumber game).run w with ⟨e' | n, v⟩ <;> rw [hnumber] at same
    · rw [answer_of_perform perform, run_bind_error hnumber] at answered
      obtain rfl : e' = e := Except.error.inj answered
      exact absurd dangling (World.gameNumber_error hnumber)
    · exact ⟨n, by rw [← same]⟩
  cases a with
  | startGame adventure language =>
    exact ⟨_, brokenBy_of_fails quiet rfl (h.startGame registered quiet adventure language) answered
      dangling⟩
  | takeRoute game route =>
    obtain ⟨n, number⟩ := numbered rfl
    exact ⟨n, brokenBy_of_fails quiet rfl (h.takeRoute registered quiet number route) answered
      dangling⟩
  | executeScript game script =>
    obtain ⟨n, number⟩ := numbered rfl
    exact ⟨n, brokenBy_of_fails quiet rfl (h.executeScript registered quiet number refers) answered
      dangling⟩
  | endGame game =>
    obtain ⟨n, number⟩ := numbered (congrArg (Answer.transcript <$> ·) (endGame_eq engine game))
    exact ⟨n, brokenBy_of_fails quiet rfl (h.endGame registered quiet number) answered dangling⟩
  | _ => exact refers.elim

/-- An engine whose scripts end in an error that reads as if a script were not there. -/
def raising : Engine :=
  { runtime := some fun _ => .done (.raised (.notFound .script (7 : Int))) }

theorem quiet_raising : raising.Quiet := by
  intro runtime hruntime source
  rw [← Option.some.inj hruntime]
  exact trivial

end Engine

theorem World.referenced_lane :
    (World.lane (.memory { rows := [(1, .waiting)], ids := ⟨2⟩ })).Referenced := by
  have joined := World.joined_lane (.memory { rows := [(1, .waiting)], ids := ⟨2⟩ })
  refine ⟨joined.laid, joined.adventure_scripts, joined.location_scripts, joined.route_script,
    fun n g found => ?_⟩
  have row : (n, g) ∈ [(1, Game.waiting)] := Rows.mem_of_get? (Except.ok.inj found)
  obtain ⟨rfl, rfl⟩ := Prod.mk.inj (List.mem_singleton.1 row)
  exact ⟨rfl, rfl, _, rfl, rfl⟩

/-- The word on the way down the lane is there, and it is the word that says that a script is not. -/
theorem Engine.references_resolve_lane :
    ∃ n ending k, raising.BrokenBy n (World.lane (.memory { rows := [(1, .waiting)], ids := ⟨2⟩ }))
      (.takeRoute (1 : Int) (1 : Int)) ending ∧
        ending.error? k = some (.notFound .script (7 : Int)) :=
  references_resolve quiet_raising rfl World.referenced_lane trivial (by decide +kernel) (.script _)

end TextAdventure
