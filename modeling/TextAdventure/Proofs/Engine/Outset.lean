import TextAdventure.Proofs.Engine.Journeys
import TextAdventure.Proofs.Engine.Recovery
import TextAdventure.Proofs.Engine.Starting
import TextAdventure.Proofs.Text.Case

/-! The start of a game. Once the game is added, how it opens is a journey that goes nowhere: steps
that show something or run a script, up to the first one that fails. -/

namespace TextAdventure

open Op
open Table (HeldAt)

variable {engine : Engine} {n : Int} {v w : World} {locks : Locks} {j : Journey}
  {p : Progress} {g : Game} {e : Error}

/-! ### Journeys elsewhere -/

namespace Games

variable {s s' : Games}

/-- Which games a store refuses hangs on nothing but whether it keeps them in files. -/
theorem refusal?_congr (filed : s'.Filed ↔ s.Filed) (g : Game) : s'.refusal? g = s.refusal? g := by
  cases s' with
  | memory t' =>
    cases s with
    | memory t => rfl
    | files f => exact (filed.2 trivial).elim
  | files f' =>
    cases s with
    | memory t => exact (filed.1 trivial).elim
    | files f => rfl

end Games

theorem Leg.number (quiet : engine.Quiet) (number : j.game.id = some n) (w : World) (leg : Leg) :
    (leg.go engine w j).2.game.id = some n := by
  cases leg with
  | copy key => exact number
  | hook script => exact (Leg.rests_hook quiet number script).number number
  | move location final => exact (Leg.moves engine w location final j).number.trans number

section Echoes

variable (quiet : engine.Quiet) (story : v.story = w.story) (filed : v.games.Filed ↔ w.games.Filed)
include quiet story filed

theorem Journey.play_echoes (number : j.game.id = some n) {runtime : Runtime}
    (hruntime : engine.runtime = some runtime) (id : Int) (script : Script) :
    j.play engine v id script runtime = j.play engine w id script runtime := by
  have number : ({ value := j.game } : Held Game).value.id = some n := number
  obtain ⟨ending, echoes⟩ := Engine.outcome_echoes quiet hruntime number story id script
  unfold Journey.play
  dsimp only
  rw [ending, echoes.game, echoes.shown, settle, settle, Games.refusal?_congr filed]

/-- What a step comes to hangs on the story and on the kind of the store, for a game of a number. -/
theorem Leg.go_echoes (number : j.game.id = some n) (leg : Leg) :
    leg.go engine v j = leg.go engine w j := by
  cases leg with
  | copy key => rfl
  | hook script =>
    have ofStory := Engine.ofStory_scriptFor engine { value := j.game } script
    have read := congrArg Prod.fst (ofStory.run_eq story)
    cases ready : ((engine.scriptFor { value := j.game } script).run w).1 with
    | error e => rw [go_hook_error ready, go_hook_error (read.trans ready)]
    | ok a =>
      obtain ⟨-, hruntime⟩ := Engine.scriptFor_ok (Prod.ext ready (ofStory.readOnly w))
      rw [go_hook_ok ready, go_hook_ok (read.trans ready),
        Journey.play_echoes quiet story filed number hruntime]
  | move location final =>
    unfold go
    dsimp only
    rw [Journey.settle, Journey.settle, Games.refusal?_congr filed]

theorem Engine.travelled_echoes (number : j.game.id = some n) (legs : List Leg) :
    engine.travelled v legs j = engine.travelled w legs j := by
  induction legs generalizing j with
  | nil => rfl
  | cons leg legs ih =>
    have onward := Leg.number quiet number w leg
    have same := Leg.go_echoes quiet story filed number leg
    rcases h : leg.go engine w j with ⟨_ | e, j'⟩ <;> rw [h] at same onward
    · rw [travelled_cons_ok same, travelled_cons_ok h, ih onward]
    · rw [travelled_cons_error same, travelled_cons_error h]

end Echoes

/-! ### How a game opens -/

namespace Engine

/-- The steps of an opening. Steps that are not set are left out, and the last one is taken at a
final location only. -/
def overture (a : Adventure) (place : Location) : List Leg :=
  (a.initializationScript.map Leg.hook).toList ++ ((a.initialCopyKey.map Leg.copy).toList ++
    ((place.copyKey.map Leg.copy).toList ++ ((place.enterScript.map Leg.hook).toList ++
      ((if place.final then a.terminationScript else none).map Leg.hook).toList)))

theorem still_overture (a : Adventure) (place : Location) :
    ∀ leg ∈ overture a place, leg.Still := by
  intro leg hleg
  simp only [overture, List.mem_append, Option.mem_toList, Option.map_eq_some_iff] at hleg
  rcases hleg with ⟨_, -, rfl⟩ | ⟨_, -, rfl⟩ | ⟨_, -, rfl⟩ | ⟨_, -, rfl⟩ | ⟨_, -, rfl⟩ <;> trivial

end Engine

namespace Arrives

variable {adventure : Int}

/-- What is read of a held adventure is the adventure as it is stored. -/
theorem adventureNow (h : Underway n adventure w locks j p v) (held : Held Adventure)
    {f : Adventure → Op Progress} {gone : Option Error × Journey}
    (hf : Arrives n adventure w locks ((f (w.adventures.current held)).run v) gone) :
    Arrives n adventure w locks ((World.adventureNow held >>= f).run v) gone := by
  have hadventures : v.adventures = w.adventures := (congrArg World.adventures h.tracks.story :)
  have read : (World.adventureNow held).run v = (.ok (w.adventures.current held), v) := by
    rw [← hadventures]
    rfl
  rw [run_bind_ok read]
  exact hf

/-- A game opens step by step. -/
theorem opening (quiet : engine.Quiet) (h : Underway n adventure w locks j p v)
    {held : Held Adventure} (current : w.adventures.current held = held.value)
    (location : Held Location) :
    Arrives n adventure w locks ((engine.opening held location p).run v)
      (engine.travelled w (Engine.overture held.value (w.locations.current location)) j) := by
  unfold Engine.overture
  refine (runHook quiet h _).bind fun p v j h => ?_
  refine adventureNow h _ ?_
  rw [current]
  refine (showCopy h _).bind fun p v j h => ?_
  refine locationNow h _ <| (showCopy h _).bind fun p v j h => ?_
  refine (runHook quiet h _).bind fun p v j h => ?_
  refine locationNow h _ ?_
  cases final : (w.locations.current location).final with
  | false => exact .on h
  | true =>
    refine adventureNow h _ ?_
    rw [current]
    exact runHook quiet h _

end Arrives

/-! ### Beginning -/

/-- A game that cannot be added is one that the store refuses under the number it would have got. -/
theorem Games.refusal?_of_add {s s' : Games} (refused : s.add .unset g = (.error e, s')) :
    s.refusal? { g with id := some s.ids.next } = some e := by
  cases s with
  | memory t => cases (Prod.mk.inj refused).1
  | files f =>
    have assigned : f.ids.assign .unset = .ok (f.ids.next, ⟨f.ids.next + 1⟩) := rfl
    have answer := congrArg Prod.fst refused
    simp only [add, Folder.add, Folder.write, assigned] at answer
    rcases Payload.write_eq { g with id := some f.ids.next } with ⟨-, written⟩ | ⟨unfit, written⟩
    · rw [written] at answer
      cases answer
    · rw [written] at answer
      exact refusal?_eq_some.2 ⟨trivial, unfit, (Except.error.inj answer).symm⟩

namespace Engine

variable {adventure : Identifier} {language : Json} {k i : Int} {a : Adventure} {place : Location}
  {code : Text}

/-- A game can be started: the adventure is stored and has one initial location, and the code of the
language asked for is registered. -/
structure Begins (engine : Engine) (w : World) (adventure : Identifier) (language : Json) (k : Int)
    (a : Adventure) (i : Int) (place : Location) (code : Text) : Prop where
  number : (Op.number .adventure adventure).run w = (.ok k, w)
  found : w.adventures.get? k = some a
  initial : w.locations.select (fun l => l.adventure = a.idAt k ∧ l.initial) = [(i, place)]
  stored : w.locations.get? i = some place
  asked : (engine.askedCode language).run w = (.ok code, w)
  registered : ∃ l ∈ w.languages.entries, l.2.code = code

/-- The game that is added then, under the next number and at the next time. -/
def newcomer (w : World) (k : Int) (a : Adventure) (i : Int) (place : Location) (code : Text) :
    Game :=
  { adventure := a.idAt k, location := place.idAt i, language := code
    locationTimestamp := w.clock.tick.1, completed := place.final, id := some w.games.ids.next }

/-- A journey begins with a game as it is added. -/
def outset (w : World) (g : Game) : Journey := { game := g, clock := w.clock.tick.2 }

theorem askedCode_again (asked : (engine.askedCode language).run w = (.ok code, w)) :
    code.strip.lower = code := by
  unfold askedCode at asked
  split at asked
  · obtain rfl := Except.ok.inj (Prod.mk.inj asked).1
    exact Text.strip_lower_again _
  · obtain rfl := Except.ok.inj (Prod.mk.inj asked).1
    exact Text.strip_lower_again _
  · exact nomatch (Prod.mk.inj asked).1

namespace Begins

theorem run_adventure (begins : engine.Begins w adventure language k a i place code) :
    (World.adventure adventure).run w = (.ok (w.adventures.hold k a), w) := by
  unfold World.adventure
  rw [run_bind_ok (run_get w), run_bind_ok begins.number, Table.held?, begins.found]
  rfl

theorem run_gameLanguage (begins : engine.Begins w adventure language k a i place code) :
    (engine.gameLanguage language).run w = (.ok code, w) := by
  rw [gameLanguage_eq, run_bind_ok begins.asked]
  unfold registeredCode
  rw [run_bind_ok (run_get w)]
  cases hfound : w.languages.byCode? code with
  | none =>
    obtain ⟨l, hl, hcode⟩ := begins.registered
    have other := List.find?_eq_none.1 hfound l hl
    rw [askedCode_again begins.asked] at other
    exact absurd hcode (of_decide_eq_false (Bool.eq_false_iff.2 other))
  | some l =>
    have same : l.2.code = code.strip.lower := of_decide_eq_true (List.find?_some hfound :)
    rw [askedCode_again begins.asked] at same
    rw [← same]
    rfl

theorem run_initialLocation (begins : engine.Begins w adventure language k a i place code) :
    (initialLocation (a.idAt k)).run w = (.ok (place.idAt i, w.locations.hold i place), w) := by
  unfold initialLocation
  rw [run_bind_ok (run_get w)]
  dsimp only
  rw [begins.initial]
  rfl

/-- The start of a game comes to the point where the game is added, unless the store refuses it. -/
theorem run_enrol (begins : engine.Begins w adventure language k a i place code) :
    let n := w.games.ids.next
    let g := newcomer w k a i place code
    (w.games.refusal? g = none ∧ ∃ held games,
      (engine.enrol adventure language).run w =
        (.ok (w.adventures.hold k a, w.locations.hold i place, held),
          { w with clock := w.clock.tick.2, games }) ∧
      held.value = g ∧ HeldAt n held ∧ w.games.Puts n g games) ∨
    ∃ e, w.games.refusal? g = some e ∧ (engine.enrol adventure language).run w =
      (.error e, { w with clock := w.clock.tick.2, games := w.games.withIds ⟨n + 1⟩ }) := by
  intro n g
  have ticked : World.tick.run w = (.ok w.clock.tick.1, { w with clock := w.clock.tick.2 }) := rfl
  have enrols (added : Except Error (Held Game) × Games)
      (hadd : w.games.add .unset { g with id := none } = added) :
      (engine.enrol adventure language).run w =
        (added.1.map fun held => (w.adventures.hold k a, w.locations.hold i place, held),
          { w with clock := w.clock.tick.2, games := added.2 }) := by
    subst hadd
    unfold enrol
    rw [run_bind_ok begins.run_adventure, run_bind_ok begins.run_gameLanguage,
      run_bind_ok begins.number]
    refine (run_bind_ok begins.run_initialLocation).trans ((run_bind_ok ticked).trans ?_)
    exact run_map _ (addGame { g with id := none }) { w with clock := w.clock.tick.2 }
  rcases w.games.add_new { g with id := none } with
    ⟨held, games, hadd, value, carried, -, puts, -⟩ | ⟨e, hadd⟩
  · exact .inl ⟨Games.refusal?_of_fits puts.fits, held, games, enrols _ hadd, value, carried.place,
      puts⟩
  · exact .inr ⟨e, Games.refusal?_of_add hadd, enrols _ hadd⟩

end Begins

end Engine

/-! ### Games that are started -/

/-- From `w` on, game `n` has been added as `g` and has come along a journey. Its log is what the
journey has shown. Its record is the game as the journey has stored it, or as it was added if the
journey has not. But for the clock nothing else has changed. -/
structure World.Gains (n : Int) (w : World) (g : Game) (j : Journey) (added : List Content)
    (v : World) : Prop where
  story : v.story = w.story
  locks : v.locks = w.locks
  clock : v.clock = j.clock
  fresh : ¬w.games.Has n
  has : ∀ m, v.games.Has m ↔ m = n ∨ w.games.Has m
  record : ∃ read, w.games.reads (j.stored.getD g) = .ok read ∧ v.games.get? n = .ok (some read)
  others : ∀ m, m ≠ n → v.games.get? m = w.games.get? m
  log : v.journal.entries n = added
  positions : added.map Content.position = List.range added.length
  shown : added.map Content.body = j.shown
  logs : ∀ m, m ≠ n → v.journal.entries m = w.journal.entries m

namespace World.Tracks

/-- What a game that has just been added comes to is what has come of its start. -/
theorem gains {clock : Clock} {games : Games} {added : List Content} (kept : Kept w)
    (puts : w.games.Puts w.games.ids.next g games)
    (tracks : World.Tracks w.games.ids.next { w with clock, games } w.locks j added v)
    (after : Kept v) : World.Gains w.games.ids.next w g j added v := by
  have fresh : ¬w.games.Has w.games.ids.next := fun has => Int.lt_irrefl _ (kept.fresh _ has)
  have none : w.journal.entries w.games.ids.next = [] := by
    by_contra logged
    exact fresh (kept.logged _ logged)
  have has (m : Int) : v.games.Has m ↔ m = w.games.ids.next ∨ w.games.Has m :=
    (tracks.has m).trans (puts.has m)
  have log : v.journal.entries w.games.ids.next = added := by
    rw [tracks.journal.self, none, List.nil_append]
  have record : v.games.get? w.games.ids.next = (w.games.reads (j.stored.getD g)).map some := by
    rw [tracks.record]
    cases j.stored with
    | none => exact (puts.get? _).trans (if_pos rfl)
    | some game => rw [puts.reads, Option.getD_some]
  obtain ⟨found, readable⟩ := after.readable _ ((has _).2 (.inl rfl))
  have hread := map_some_eq_ok.1 (record.symm.trans readable)
  refine ⟨tracks.story, tracks.locks, tracks.clock, fresh, has, ⟨found, hread, readable⟩,
    fun m ne => ?_, log, ?_, tracks.shown, tracks.journal.others⟩
  · exact (tracks.others m ne).trans ((puts.get? m).trans (if_neg ne))
  · rw [← log]
    exact after.numbered.positions _

end World.Tracks

namespace Engine

variable {adventure : Identifier} {language : Json} {k i : Int} {a : Adventure} {place : Location}
  {code : Text}

/-- A game is started, and comes along a journey. What comes of the journey is answered. -/
def Launches (engine : Engine) (w : World) (adventure : Identifier) (language : Json) (g : Game)
    (gone : Option Error × Journey) : Prop :=
  ∃ added v, World.Gains w.games.ids.next w g gone.2 added v ∧
    (engine.startGame adventure language).run w = (engine.recount w added gone, v)

namespace Begins

variable (begins : engine.Begins w adventure language k a i place code)
include begins

theorem launches (quiet : engine.Quiet) (kept : Kept w) {gone : Option Error × Journey}
    (taken : w.games.refusal? (newcomer w k a i place code) = none)
    (goes : ∀ held games, held.value = newcomer w k a i place code →
      HeldAt w.games.ids.next held →
      w.games.Puts w.games.ids.next (newcomer w k a i place code) games →
      let u : World := { w with clock := w.clock.tick.2, games }
      ∃ added v, World.Tracks w.games.ids.next u w.locks gone.2 added v ∧
        (engine.holding w.games.ids.next (engine.opening (w.adventures.hold k a)
          (w.locations.hold i place) { held } >>= engine.transcribe)).run u =
            (engine.recount u added gone, v)) :
    engine.Launches w adventure language (newcomer w k a i place code) gone := by
  rcases begins.run_enrol with ⟨-, held, games, enrols, value, here, puts⟩ | ⟨e, refused, -⟩
  · obtain ⟨added, v, tracks, holding⟩ := goes held games value here puts
    have number : held.value.id.getD 0 = w.games.ids.next := by
      rw [value]
      rfl
    have starts : (engine.startGame adventure language).run w =
        (engine.recount w added gone, v) := by
      rw [startGame_eq, run_bind_ok enrols, number]
      exact holding
    have after := (effect quiet kept (.startGame adventure language) trivial).kept kept
    rw [after_of_perform rfl, starts] at after
    exact ⟨added, v, tracks.gains kept puts after, starts⟩
  · exact nomatch refused.symm.trans taken

/-- Where the number of the new game cannot be waited for, the game is added, and that is all. -/
theorem launches_jammed (quiet : engine.Quiet) (kept : Kept w)
    (taken : w.games.refusal? (newcomer w k a i place code) = none) (jams : ¬engine.Waits) :
    let g := newcomer w k a i place code
    engine.Launches w adventure language g (some .busyTimeoutTooLong, outset w g) := by
  refine begins.launches quiet kept taken fun held games value here puts => ?_
  refine ⟨[], _, tracks_setOut _ _ _ _, ?_⟩
  rw [holding, World.holding_eq, Locks.hold, if_pos (not_not.1 jams)]
  rfl

/-- Otherwise the game opens step by step. -/
theorem launches_free (quiet : engine.Quiet) (kept : Kept w)
    (taken : w.games.refusal? (newcomer w k a i place code) = none) (waits : engine.Waits)
    (free : w.locks.held = []) :
    let g := newcomer w k a i place code
    engine.Launches w adventure language g
      (engine.travelled w (overture a place) (outset w g)) := by
  intro g
  refine begins.launches quiet kept taken fun held games value here puts => ?_
  intro u
  obtain ⟨locks, hold⟩ := waits.hold free w.games.ids.next
  have stored : u.games.Has w.games.ids.next := (puts.has _).2 (.inl rfl)
  have underway := underway_setOut value rfl here stored locks
  have adventure : u.adventures.current (w.adventures.hold k a) = a :=
    Table.current_hold begins.found
  have location : u.locations.current (w.locations.hold i place) = place :=
    Table.current_hold begins.stored
  obtain ⟨added, v, tracks, run⟩ :=
    recounts (Arrives.opening quiet underway adventure (w.locations.hold i place))
  -- The steps go in the world in which the game has been added as they go in the one before.
  have story : u.story = w.story := rfl
  have number : (setOut u g).game.id = some w.games.ids.next := rfl
  rw [location, travelled_echoes quiet story puts.filed number] at tracks run
  exact ⟨added, _, tracks_release hold tracks, run_held hold run⟩

theorem refused
    (refusal : w.games.refusal? (newcomer w k a i place code) = some e) :
    (engine.startGame adventure language).run w =
      (.error e, { w with clock := w.clock.tick.2
                          games := w.games.withIds ⟨w.games.ids.next + 1⟩ }) := by
  rcases begins.run_enrol with ⟨taken, -⟩ | ⟨e', refusal', enrols⟩
  · exact nomatch refusal.symm.trans taken
  · obtain rfl : e = e' := Option.some.inj (refusal.symm.trans refusal')
    rw [startGame_eq, run_bind_error enrols]

end Begins

/-- In a run that starts without games, a game is started at the one initial location of its
adventure, under a number that is not taken. Then it opens step by step, up to the first step that
fails. What the steps have shown is its log, and what comes of the last one is answered. The game
stays where it is, and it is stored as the steps have left it, unless it does not fit into a file. A
game that does not fit as it is added is not started, and where its number cannot be waited for it
does not open. -/
theorem startGame_launches {w₀ : World} (quiet : engine.Quiet) (blank : w₀.Blank)
    {actions : List Action} (inside : ∀ a ∈ actions, a.Inside)
    (free : (engine.left w₀ actions).locks.held = [])
    (begins : engine.Begins (engine.left w₀ actions) adventure language k a i place code) :
    let w := engine.left w₀ actions
    let g := newcomer w k a i place code
    let legs := overture a place
    let steps := engine.reached w legs (outset w g)
    let gone := engine.travelled w legs (outset w g)
    (w.games.refusal? g = none → engine.Waits → engine.Launches w adventure language g gone) ∧
    (w.games.refusal? g = none → ¬engine.Waits →
      engine.Launches w adventure language g (some .busyTimeoutTooLong, outset w g)) ∧
    (∀ e, w.games.refusal? g = some e → (engine.startGame adventure language).run w =
      (.error e, { w with clock := w.clock.tick.2
                          games := w.games.withIds ⟨w.games.ids.next + 1⟩ })) ∧
    steps.map (·.1) <+: legs ∧ (gone.1 = none → steps.map (·.1) = legs) ∧
    (∀ s ∈ steps, (outset w g).Rests s.2) ∧ (outset w g).Rests gone.2 ∧
    (gone.2.stored.getD g = gone.2.game ∨
      w.games.Filed ∧ ¬Payload.Fits gone.2.game ∧ gone.1 = some .tooLongToWrite) := by
  intro w g legs steps gone
  have kept : Kept w := left_kept quiet inside blank.kept
  obtain ⟨ordered, all⟩ := reached_legs engine w legs (outset w g)
  obtain ⟨rests, resting⟩ := travelled_rests (w := w) (j := outset w g) quiet rfl
    (still_overture a place)
  refine ⟨fun taken waits => begins.launches_free quiet kept taken waits free,
    fun taken jams => begins.launches_jammed quiet kept taken jams, fun e => begins.refused,
    ordered, all, resting, rests, ?_⟩
  refine (travelled_stored (j := outset w g) (g := g) rfl engine w legs).imp_right ?_
  rintro ⟨e, refused, failed⟩
  obtain ⟨filed, unfit, rfl⟩ := Games.refusal?_eq_some.1 refused
  exact ⟨filed, unfit, failed⟩

end Engine

/-- The lane, with a word and some copy for those who come to it, and a word for the end. -/
def Adventure.porch : Adventure :=
  { name := "Lane", initializationScript := some 1, initialCopyKey := some "lane"
    terminationScript := some 1 }

/-- A second game is started at the gate. The word is said and the copy is asked for. The gate is
not the end. -/
theorem Engine.startGame_launches_porch :
    let w := reciting.left { World.lane (.files {}) with
      adventures := { rows := [(1, .porch)], ids := ⟨2⟩ } } [.startGame (1 : Int) .null]
    let g : Game := { Game.waiting with locationTimestamp := 2, id := some 2 }
    ∃ added v, (reciting.startGame (1 : Int)).run w =
        (.ok { game := g, entries := added, texts := ["Onward.", "empty copy"] }, v) ∧
      v.journal.entries 2 = added ∧ added.map Content.position = [0, 1] ∧
      v.games.get? 2 = .ok (some g) := by
  intro w g
  let gate : Location := { adventure := 1, name := "Gate", initial := true }
  have begins : reciting.Begins w (1 : Int) .null 1 .porch 1 gate "en" :=
    ⟨rfl, by decide +kernel, by decide +kernel, by decide +kernel, Prod.ext (by decide +kernel) rfl,
      ⟨(1, { name := "en", code := "en" }), by decide +kernel, rfl⟩⟩
  have same : newcomer w 1 .porch 1 gate "en" = g := by decide +kernel
  have blank : World.Blank { World.lane (.files {}) with
      adventures := { rows := [(1, .porch)], ids := ⟨2⟩ } } :=
    ⟨World.blank_lane.games, World.blank_lane.logs, World.blank_lane.languages⟩
  obtain ⟨launches, -⟩ := startGame_launches quiet_reciting blank (by simp [Action.Inside])
    (by decide +kernel) begins
  obtain ⟨added, v, gains, run⟩ := launches (by decide +kernel) (by unfold Waits; decide +kernel)
  have next : w.games.ids.next = 2 := by decide +kernel
  rw [same] at gains run
  rw [next] at gains
  generalize hgone : reciting.travelled w (overture .porch gate) (outset w g) = gone at gains run
  have through : gone = (none, gone.2) := Prod.ext (by rw [← hgone]; decide +kernel) rfl
  have game : gone.2.game = g := by rw [← hgone]; decide +kernel
  have stored : gone.2.stored = some g := by rw [← hgone]; decide +kernel
  have shown : gone.2.shown = [.literal "Onward.", .copy "lane"] := by rw [← hgone]; decide +kernel
  obtain ⟨said, rest, rfl, hsaid, hrest⟩ := List.map_eq_cons_iff.1 (gains.shown.trans shown)
  obtain ⟨asked, rfl, hasked⟩ := List.map_eq_singleton_iff.1 hrest
  have word : said.shownText reciting.lookup w.copies g.language = "Onward." := by
    rw [Content.shownText, hsaid]
  have copy : asked.shownText reciting.lookup w.copies g.language = "empty copy" := by
    rw [Content.shownText, hasked]
    decide +kernel
  have reads : w.games.reads g = .ok g := by decide +kernel
  obtain ⟨read, hread, found⟩ := gains.record
  rw [stored, Option.getD_some, reads] at hread
  obtain rfl := Except.ok.inj hread
  rw [through, recount, game, List.map_cons, List.map_singleton, word, copy] at run
  exact ⟨[said, asked], v, run, gains.log, gains.positions, found⟩

end TextAdventure
