import TextAdventure.Proofs.Engine.WellFormed

/-! Games that removals strand. A removal takes along the games that are listed, and a game in a file
under a negative number is not. This is all that can keep a world from staying well-formed. -/

namespace TextAdventure

open Op
open Authoring (Dropped numbers)

variable {engine : Engine} {w w' : World} {n : Int}

/-- A game of which `p` holds is stored, but listed nowhere. -/
def World.Misses (w : World) (p : Game → Prop) : Prop :=
  ∃ n g, ¬w.games.Lists n ∧ w.games.get? n = .ok (some g) ∧ p g

namespace WellFormed

theorem mem_numbers (h : WellFormed w) {p : Game → Bool} {games : List Game} {g : Game}
    (selected : w.games.select p = .ok games) (found : w.games.get? n = .ok (some g)) :
    n ∈ numbers games ↔ w.games.Lists n ∧ p g = true := by
  constructor
  · intro hn
    obtain ⟨k, hk, number⟩ := List.mem_map.1 hn
    obtain ⟨hp, m, lists, hget⟩ := (Games.mem_select h.tidy selected).1 hk
    have own : m = n := by
      rw [(h.games m k hget).1] at number
      exact number
    subst own
    obtain rfl : k = g := Option.some.inj (Except.ok.inj (hget.symm.trans found))
    exact ⟨lists, hp⟩
  · rintro ⟨lists, hp⟩
    refine List.mem_map.2 ⟨g, (Games.mem_select h.tidy selected).2 ⟨hp, n, lists, found⟩, ?_⟩
    rw [(h.games n g found).1]
    rfl

/-- A removal takes along the games that are listed. Any other one of those that it should take is
left nowhere. -/
theorem remove (h : WellFormed w) {p : Game → Bool} {games : List Game}
    (selected : w.games.select p = .ok games) (joined : Joined w')
    (drops : Dropped (numbers games) w w')
    (houses : ∀ g, w'.Houses g ↔ w.Houses g ∧ ¬p g = true) :
    WellFormed w' ↔ ¬w.Misses fun g => p g = true := by
  constructor
  · rintro h' ⟨n, g, unlisted, found, hp⟩
    have left : n ∉ numbers games := fun hn => unlisted ((h.mem_numbers selected found).1 hn).1
    have stored : w'.games.get? n = .ok (some g) := drops.get?_eq_some.2 ⟨left, found⟩
    exact ((houses g).1 (h'.games n g stored).2).2 hp
  · intro none
    refine Stays.wellFormed (h.drop joined drops fun n g left found => ?_)
    refine (houses g).2 ⟨(h.games n g found).2, ?_⟩
    intro hp
    refine left ((h.mem_numbers selected found).2 ⟨?_, hp⟩)
    by_contra unlisted
    exact none ⟨n, g, unlisted, found, hp⟩

end WellFormed

/-! ### Runs -/

/-- What may be added to a well-formed world: records that go by the numbers that they are stored
under, and refer to what is there. No other record may stand where a location or a script is added. -/
def Admissible (w : World) : Action → Prop
  | .addAdventure claim a => a.otherId = none ∧
    ∀ id ids, w.adventures.ids.assign claim = .ok (id, ids) →
      ∀ s, a.initializationScript = some s ∨ a.terminationScript = some s → w.ScriptOf id s
  | .addLocation claim l => l.otherId = none ∧ (w.adventures.get? l.adventure).isSome ∧
    (∀ s, l.enterScript = some s ∨ l.exitScript = some s → w.ScriptOf l.adventure s) ∧
      ∀ id ids, w.locations.ids.assign claim = .ok (id, ids) → w.locations.get? id = none
  | .addRoute _ r => r.otherId = none ∧ ∃ o d, w.locations.get? r.origin = some o ∧
    w.locations.get? r.destination = some d ∧ o.adventure = d.adventure ∧
      ∀ s, r.takenScript = some s → w.ScriptOf o.adventure s
  | .addScript claim s => s.otherId = none ∧
    ∀ id ids, w.scripts.ids.assign claim = .ok (id, ids) → w.scripts.get? id = none
  | .addCopy _ c => ∀ s, c.script = some s → (w.scripts.get? s).isSome
  | .addGame _ g => w.Houses g
  | .append g _ _ => ∀ n, g.id = some n → w.games.Has n
  | _ => True

namespace Engine

/-- A removal that strands a game: it succeeds, and a game that it should have taken along is listed
nowhere. -/
def Strands (engine : Engine) (w : World) : Action → Prop
  | .removeLocation location force =>
    engine.answer w (.removeLocation location force) = .ok .done ∧
      w.Misses fun g => ((Op.number .location location).run w).1 = .ok g.location
  | .removeAdventure adventure force =>
    engine.answer w (.removeAdventure adventure force) = .ok .done ∧
      w.Misses fun g => ((Op.number .adventure adventure).run w).1 = .ok g.adventure
  | _ => False

/-- What an action comes to: games are listed as before, and the world is well-formed unless the
action strands a game. -/
structure Leaves (engine : Engine) (w : World) (a : Action) : Prop where
  lists : (engine.after w a).games.Lists = w.games.Lists
  wellFormed : WellFormed (engine.after w a) ↔ ¬engine.Strands w a

theorem leaves_of_stays {a : Action} (h : Stays w (engine.after w a)) (safe : ¬engine.Strands w a) :
    engine.Leaves w a := ⟨h.lists, iff_of_true h.wellFormed safe⟩

/-- A removal strands a game if it succeeds, and a game that belongs to the record is listed
nowhere. `key` is the number of the record that a game belongs to. -/
theorem leaves_removal (h : WellFormed w) (key : Game → Int) {a : Action} {α : Type} {kind : Kind}
    {found : Op α} {asked : Identifier} {force : Bool} {cut : Int → List Int → World → World}
    (perform : a.perform engine =
      (fun _ => .done) <$> Authoring.removal kind found asked force (fun id g => key g = id) cut)
    (strands : engine.Strands w a ↔ engine.answer w a = .ok .done ∧
      w.Misses fun g => ((Op.number kind asked).run w).1 = .ok (key g))
    (readOnly : ReadOnly found) (joined : ∀ id ids, Joined (cut id ids w))
    (drops : ∀ id ids, Dropped ids w (cut id ids w))
    (houses : ∀ id ids g, (cut id ids w).Houses g ↔ w.Houses g ∧ ¬key g = id) :
    engine.Leaves w a := by
  have hanswer := answer_of_perform perform w
  have hafter := after_of_perform perform w
  rcases Authoring.run_removal readOnly asked force (fun id g => key g = id) cut w with
    ⟨e, hrun⟩ | ⟨id, games, hid, selected, -, -, hrun⟩ <;> rw [hrun] at hanswer hafter
  · refine leaves_of_stays (hafter ▸ h.stays) fun stranded => ?_
    exact nomatch hanswer.symm.trans (strands.1 stranded).1
  · have removed := h.remove selected (joined id (numbers games)) (drops id (numbers games))
      fun g => by simpa using houses id (numbers games) g
    refine ⟨by rw [hafter]; exact (drops id (numbers games)).lists, ?_⟩
    rw [hafter, removed, strands]
    simp [hanswer, hid, Except.map, World.Misses, eq_comm]

theorem leaves_of_run {α : Type} {a : Action} {op : Op α} {tell : α → Answer}
    (perform : a.perform engine = tell <$> op) (h : Stays w (op.run w).2)
    (safe : ¬engine.Strands w a) : engine.Leaves w a := by
  refine leaves_of_stays ?_ safe
  rw [after_of_perform perform]
  exact h

theorem leaves_of_readOnly {a : Action} (h : WellFormed w) (readOnly : ReadOnly (a.perform engine))
    (safe : ¬engine.Strands w a) : engine.Leaves w a := by
  refine leaves_of_stays ?_ safe
  have hafter : engine.after w a = w := readOnly w
  rw [hafter]
  exact h.stays

/-- One action. Those that play a game keep the world well-formed by playing it on in places where it
may be, and those of authors by what they add and remove. -/
theorem leaves (quiet : engine.Quiet) (h : WellFormed w) (a : Action) (admissible : Admissible w a) :
    engine.Leaves w a := by
  have holds := w.ofBearings_houses
  cases a with
  | startGame adventure language =>
    exact leaves_of_run rfl (h.startGame quiet adventure language) nofun
  | takeRoute game route =>
    exact leaves_of_run rfl
      (h.plays fun id hid => .takeRoute quiet holds h.games hid h.ways route) nofun
  | executeScript game script =>
    exact leaves_of_run rfl
      (h.plays fun id hid => .executeScript quiet holds h.games hid script) nofun
  | endGame game => exact leaves_of_run rfl (h.endGame quiet game) nofun
  | recoverGame game =>
    exact leaves_of_run rfl (h.plays fun id hid => .recoverGame holds h.games hid) nofun
  | getGame _ | availableRoutes _ | contents _ _ _ | textAt _ _ | transcript _ =>
    exact leaves_of_readOnly h (Action.Looks.readOnly trivial) nofun
  | append game copyKey text => exact leaves_of_run rfl (h.append admissible copyKey text) nofun
  | clearLog game => exact leaves_of_run rfl (h.clearLog game) nofun
  | addInclude outer inner order => exact leaves_of_run rfl (h.addInclude outer inner order) nofun
  | removeScript script => exact leaves_of_run rfl (h.removeScript script) nofun
  | removeLocation location force =>
    exact leaves_removal h (·.location) rfl .rfl (.location location)
      h.toJoined.withoutLocation (fun id ids => Authoring.dropped_withoutLocation id ids w)
      fun id ids g => World.Laid.houses_withoutLocation id ids w g
  | removeAdventure adventure force =>
    exact leaves_removal h (·.adventure) rfl .rfl (.adventure adventure)
      h.toJoined.withoutAdventure (fun id ids => Authoring.dropped_withoutAdventure id ids w)
      h.toJoined.laid.houses_withoutAdventure
  | addAdventure claim a => exact leaves_of_run rfl (h.addAdventure admissible.1 admissible.2) nofun
  | addLocation claim l =>
    obtain ⟨number, adventure, scripts, fresh⟩ := admissible
    exact leaves_of_run rfl (h.addLocation number adventure scripts fresh) nofun
  | addRoute claim r => exact leaves_of_run rfl (h.addRoute claim admissible.1 admissible.2) nofun
  | addScript claim s => exact leaves_of_run rfl (h.addScript admissible.1 admissible.2) nofun
  | addCopy claim c => exact leaves_of_run rfl (h.addCopy claim admissible) nofun
  | updateCopy key language text => exact leaves_of_run rfl (h.updateCopy key language text) nofun
  | addLanguage claim l => exact leaves_of_run rfl (h.addLanguage claim l) nofun
  | addGame claim g => exact leaves_of_run rfl (h.addOwnGame claim admissible) nofun
  | hold game => exact leaves_of_run rfl (h.holdFor engine.settings.busyTimeout game) nofun
  | release game => exact leaves_of_run rfl (h.letGo game) nofun

theorem not_strands {a : Action} (all : ∀ n, w.games.Lists n) : ¬engine.Strands w a := by
  intro strands
  cases a with
  | removeLocation location force =>
    obtain ⟨-, n, g, unlisted, -⟩ := strands
    exact unlisted (all n)
  | removeAdventure adventure force =>
    obtain ⟨-, n, g, unlisted, -⟩ := strands
    exact unlisted (all n)
  | _ => exact strands.elim

section Runs

variable (quiet : engine.Quiet) {actions : List Action}
include quiet

theorem throughout_not_strands (h : WellFormed w) (all : ∀ n, w.games.Lists n)
    (admissible : engine.Throughout Admissible w actions) :
    engine.Throughout (fun v a => ¬engine.Strands v a) w actions := by
  induction actions generalizing w with
  | nil => trivial
  | cons a rest ih =>
    have leaves := leaves quiet h a admissible.1
    have safe : ¬engine.Strands w a := not_strands all
    exact ⟨safe, ih (leaves.wellFormed.2 safe) (leaves.lists ▸ all) admissible.2⟩

theorem worlds_wellFormed (h : WellFormed w) (admissible : engine.Throughout Admissible w actions) :
    (∀ w' ∈ engine.worlds w actions, WellFormed w') ↔
      engine.Throughout (fun v a => ¬engine.Strands v a) w actions := by
  induction actions generalizing w with
  | nil =>
    refine iff_of_true (fun w' hw' => ?_) trivial
    obtain rfl := List.mem_singleton.1 hw'
    exact h
  | cons a rest ih =>
    have leaves := leaves quiet h a admissible.1
    constructor
    · intro all
      have next (w' : World) (hw' : w' ∈ engine.worlds (engine.after w a) rest) : WellFormed w' :=
        all w' (List.mem_cons_of_mem _ hw')
      have after : WellFormed (engine.after w a) := next _ (head_mem_worlds engine _ rest)
      exact ⟨leaves.wellFormed.1 after, (ih after admissible.2).1 next⟩
    · rintro ⟨safe, later⟩ w' hw'
      rcases List.mem_cons.1 hw' with rfl | hw'
      · exact h
      · exact (ih (leaves.wellFormed.2 safe) admissible.2).2 later w' hw'

/-- A world stays well-formed whatever is done while its games are in memory. In files it does so
exactly as long as no removal strands a game, which takes a game under a negative number. -/
theorem wellFormed_iff (h : WellFormed w) (admissible : engine.Throughout Admissible w actions) :
    ((∃ t, w.games = .memory t) → ∀ w' ∈ engine.worlds w actions, WellFormed w') ∧
      ((∀ w' ∈ engine.worlds w actions, WellFormed w') ↔
        engine.Throughout (fun v a => ¬engine.Strands v a) w actions) := by
  refine ⟨?_, worlds_wellFormed quiet h admissible⟩
  rintro ⟨t, memory⟩
  have all (n : Int) : w.games.Lists n := by
    rw [memory]
    trivial
  exact (worlds_wellFormed quiet h admissible).2 (throughout_not_strands quiet h all admissible)

end Runs

end Engine

/-- A game under a negative number, at the gate of the lane. -/
def Game.unlisted : Game :=
  { adventure := 1, location := 1, language := "en", locationTimestamp := 0, id := some (-5) }

/-- A game under a negative number outlives the place that it is at. -/
theorem Engine.wellFormed_iff_lane :
    ¬∀ w ∈ Engine.reciting.worlds (World.lane (.files {}))
      [.addGame (.number (-5)) .unlisted, .removeLocation (1 : Int) true], WellFormed w := by
  intro all
  have admissible : Engine.reciting.Throughout Admissible (World.lane (.files {}))
      [.addGame (.number (-5)) .unlisted, .removeLocation (1 : Int) true] :=
    ⟨⟨rfl, { adventure := 1, name := "Gate", initial := true }, rfl, rfl⟩, trivial, trivial⟩
  have safe := ((wellFormed_iff quiet_reciting World.wellFormed_lane admissible).2).1 all
  have removed : Engine.reciting.answer
      (Engine.reciting.after (World.lane (.files {})) (.addGame (.number (-5)) .unlisted))
      (.removeLocation (1 : Int) true) = .ok .done := by decide +kernel
  have stored : (Engine.reciting.after (World.lane (.files {}))
      (.addGame (.number (-5)) .unlisted)).games.get? (-5) = .ok (some .unlisted) := by
    decide +kernel
  have unlisted : ¬(Engine.reciting.after (World.lane (.files {}))
      (.addGame (.number (-5)) .unlisted)).games.Lists (-5) := by
    rw [(leaves quiet_reciting World.wellFormed_lane _ admissible.1).lists]
    show ¬(0 : Int) ≤ -5
    omega
  exact safe.2.1 ⟨removed, -5, .unlisted, unlisted, stored, rfl⟩

end TextAdventure
