import Mathlib.Data.List.Forall2
import TextAdventure.Proofs.Authoring.Joined

/-! What refers to scripts, and what is left of it when a script is removed. Adventures, copy and
include edges lose every reference. Locations and routes lose those of the script's own adventure:
where another adventure uses the script, its reference is left behind. Nothing else changes. -/

namespace TextAdventure

open Op

variable {w : World} {id script other : Int}

/-! ### References -/

def Adventure.Uses (a : Adventure) (script : Int) : Prop :=
  a.initializationScript = some script ∨ a.terminationScript = some script

def Location.Uses (l : Location) (script : Int) : Prop :=
  l.enterScript = some script ∨ l.exitScript = some script

def Route.Uses (r : Route) (script : Int) : Prop := r.takenScript = some script

def Copy.Uses (c : Copy) (script : Int) : Prop := c.script = some script

def Include.Touches (e : Include) (script : Int) : Prop :=
  e.including = script ∨ e.included = script

theorem Adventure.uses_withoutScript {a : Adventure} :
    (a.withoutScript script).Uses other ↔ a.Uses other ∧ other ≠ script := by
  simp only [Uses, withoutScript, dropReference_eq_some]
  tauto

theorem Location.uses_withoutScript {l : Location} :
    (l.withoutScript script).Uses other ↔ l.Uses other ∧ other ≠ script := by
  simp only [Uses, withoutScript, dropReference_eq_some]
  tauto

theorem Route.uses_withoutScript {r : Route} :
    (r.withoutScript script).Uses other ↔ r.Uses other ∧ other ≠ script := dropReference_eq_some

theorem Copy.uses_withoutScript {c : Copy} :
    (c.withoutScript script).Uses other ↔ c.Uses other ∧ other ≠ script := dropReference_eq_some

/-- No record of the table satisfies `p`. -/
def Table.Lacks {α : Type} (t : Table α) (p : α → Prop) : Prop := ∀ n v, t.get? n = some v → ¬p v

theorem Table.lacks_revise {α : Type} {t : Table α} {f : Int → α → α} {p : α → Prop} :
    (t.revise f).Lacks p ↔ ∀ n v, t.get? n = some v → ¬p (f n v) := by
  refine forall_congr' fun n => ?_
  rw [get?_revise]
  cases t.get? n <;> simp

/-- The numbers that the locations of an adventure go by. -/
def World.placesOf (w : World) (adventure : Int) : List Int :=
  List.map (fun l => l.2.idAt l.1) (w.locations.select fun l => l.adventure = adventure)

theorem Table.lacks_remove {α : Type} {t : Table α} {id : Int} {p : α → Prop} :
    (t.remove id).Lacks p ↔ ∀ n v, t.get? n = some v → p v → n = id := by
  refine forall_congr' fun n => ?_
  rw [get?_remove]
  by_cases hn : n = id <;> simp [hn]

theorem Table.lacks_removeAll {α : Type} {t : Table α} {ids : List Int} {p : α → Prop} :
    (t.removeAll ids).Lacks p ↔ ∀ n v, t.get? n = some v → p v → n ∈ ids := by
  refine forall_congr' fun n => ?_
  rw [get?_removeAll]
  by_cases hn : n ∈ ids <;> simp [hn]

/-- Nothing that is stored refers to a script. -/
structure World.FreeOf (w : World) (script : Int) : Prop where
  adventures : w.adventures.Lacks (·.Uses script)
  locations : w.locations.Lacks (·.Uses script)
  routes : w.routes.Lacks (·.Uses script)
  copies : w.copies.Lacks (·.Uses script)
  includes : ∀ e ∈ w.includes.edges, ¬e.Touches script

/-! ### What rows keep -/

/-- `reference'` is `reference`, or nothing where `reference` is to the script. -/
def Loses (script : Int) (reference reference' : Option Int) : Prop :=
  reference' = reference ∨ reference = some script ∧ reference' = none

theorem loses_dropReference (script : Int) (reference : Option Int) :
    Loses script reference (dropReference script reference) := by
  unfold Loses dropReference
  split
  · rename_i h
    exact .inr ⟨h, rfl⟩
  · exact .inl rfl

/-- The adventures differ at most in references to the script, which `a'` has lost. -/
def Adventure.Sheds (script : Int) (a a' : Adventure) : Prop :=
  ∃ initialization termination,
    a' = { a with initializationScript := initialization, terminationScript := termination } ∧
      Loses script a.initializationScript initialization ∧
      Loses script a.terminationScript termination

def Location.Sheds (script : Int) (l l' : Location) : Prop :=
  ∃ enter exit, l' = { l with enterScript := enter, exitScript := exit } ∧
    Loses script l.enterScript enter ∧ Loses script l.exitScript exit

def Route.Sheds (script : Int) (r r' : Route) : Prop :=
  ∃ taken, r' = { r with takenScript := taken } ∧ Loses script r.takenScript taken

def Copy.Sheds (script : Int) (c c' : Copy) : Prop :=
  ∃ owner, c' = { c with script := owner } ∧ Loses script c.script owner

/-- The tables have rows under the same numbers, and `change` relates those of a number. -/
structure Table.Changes {α : Type} (change : α → α → Prop) (t t' : Table α) : Prop where
  rows : List.Forall₂ (fun r r' => r'.1 = r.1 ∧ change r.2 r'.2) t.rows t'.rows
  rest : t' = { t with rows := t'.rows }

/-- `w'` is `w` without a script. Rows and edges lose no more than their references to it. -/
structure World.Sheds (script : Int) (w w' : World) : Prop where
  adventures : w.adventures.Changes (Adventure.Sheds script) w'.adventures
  locations : w.locations.Changes (Location.Sheds script) w'.locations
  routes : w.routes.Changes (Route.Sheds script) w'.routes
  copies : w.copies.Changes (Copy.Sheds script) w'.copies
  edges : w'.includes.edges.Sublist w.includes.edges
  apart : ∀ e ∈ w.includes.edges, ¬e.Touches script → e ∈ w'.includes.edges
  scripts : ∀ n, w'.scripts.get? n = if n = script then none else w.scripts.get? n
  ids : w'.scripts.ids = w.scripts.ids
  rest : w' = { w with
    adventures := w'.adventures, locations := w'.locations, routes := w'.routes
    copies := w'.copies, includes := w'.includes, scripts := w'.scripts }

theorem Table.changes_revise {α : Type} {change : α → α → Prop} (t : Table α) {f : Int → α → α}
    (h : ∀ n v, change v (f n v)) : t.Changes change (t.revise f) := by
  refine ⟨?_, rfl⟩
  show List.Forall₂ _ t.rows (List.map (fun r => (r.1, f r.1 r.2)) t.rows)
  rw [List.forall₂_map_right_iff, List.forall₂_same]
  exact fun r _ => ⟨rfl, h r.1 r.2⟩

/-- What amounts to a number is looked up by it. -/
theorem Op.run_number_of_key {kind : Kind} {asked : Identifier} (number : asked.key? = some id)
    (w : World) : (Op.number kind asked).run w = (.ok id, w) := by
  have key : (lookUpKey asked).run w = (.ok (), w) := by
    cases asked with
    | number n => rfl
    | other v => cases v <;> first | rfl | exact nomatch number
  unfold Op.number
  rw [run_bind_ok key, number]
  rfl

namespace Authoring

theorem sheds_withoutScript (id : Int) (found : Script) (w : World) :
    w.Sheds id (withoutScript id found w) where
  adventures := Table.changes_revise _ fun _ _ =>
    ⟨_, _, rfl, loses_dropReference id _, loses_dropReference id _⟩
  locations := by
    refine Table.changes_revise _ fun n l => ?_
    split
    · exact ⟨_, _, rfl, loses_dropReference id _, loses_dropReference id _⟩
    · exact ⟨_, _, rfl, .inl rfl, .inl rfl⟩
  routes := by
    refine Table.changes_revise _ fun n r => ?_
    split
    · exact ⟨_, rfl, loses_dropReference id _⟩
    · exact ⟨_, rfl, .inl rfl⟩
  copies := Table.changes_revise _ fun _ _ => ⟨_, rfl, loses_dropReference id _⟩
  edges := List.filter_sublist
  apart := fun _ he apart => Includes.mem_removeScript.2 ⟨he, not_or.1 apart⟩
  scripts := Table.get?_remove w.scripts id
  ids := Table.ids_remove w.scripts id
  rest := rfl

/-! ### What is left behind -/

/-- The numbers under which the locations of an adventure are stored. -/
theorem mem_stored (ascending : w.locations.rows.Ascending) {adventure n : Int} {l : Location}
    (stored : w.locations.get? n = some l) :
    (List.map (·.1) (w.locations.select fun l => l.adventure = adventure)).contains n = true ↔
      l.adventure = adventure := by
  rw [List.contains_iff_mem, Table.mem_numbers_select ascending fun _ _ _ => rfl]
  simp [stored]

/-- The locations of the script's adventure lose their references to it, and only these do. -/
theorem locations_lack_iff (ascending : w.locations.rows.Ascending) {found : Script} :
    (withoutScript id found w).locations.Lacks (·.Uses id) ↔
      ∀ n l, w.locations.get? n = some l → l.Uses id → l.adventure = found.adventure := by
  rw [locations_withoutScript, Table.lacks_revise]
  refine forall_congr' fun n => forall_congr' fun l => forall_congr' fun stored => ?_
  simp only [mem_stored ascending stored]
  by_cases own : l.adventure = found.adventure <;> simp [own, Location.uses_withoutScript]

/-- Routes lose their references if they leave locations of the script's adventure. -/
theorem routes_lack_iff {found : Script} :
    (withoutScript id found w).routes.Lacks (·.Uses id) ↔
      ∀ n r, w.routes.get? n = some r → r.Uses id → r.origin ∈ w.placesOf found.adventure := by
  have routes : (withoutScript id found w).routes = w.routes.revise fun _ r =>
      if (w.placesOf found.adventure).contains r.origin then r.withoutScript id else r := rfl
  rw [routes, Table.lacks_revise]
  refine forall_congr' fun n => forall_congr' fun r => forall_congr' fun _ => ?_
  split
  · rename_i there
    simp [Route.uses_withoutScript, List.contains_iff_mem.1 there]
  · rename_i apart
    simp [mt List.contains_iff_mem.2 apart]

/-- A script that is stored is removed, and nothing but references to it goes along. No adventure,
copy or edge refers to it then. Nothing at all does if and only if the locations that refer to it are
of its own adventure, and the routes that do leave locations of its own adventure. -/
theorem removeScript_freeOf_iff (ascending : w.locations.rows.Ascending) {asked : Identifier}
    {found : Script} (number : asked.key? = some id) (stored : w.scripts.get? id = some found) :
    ∃ w', (removeScript asked).run w = (.ok (), w') ∧ w.Sheds id w' ∧
      w'.adventures.Lacks (·.Uses id) ∧ w'.copies.Lacks (·.Uses id) ∧
      (∀ e ∈ w'.includes.edges, ¬e.Touches id) ∧
      (w'.FreeOf id ↔
        (∀ n l, w.locations.get? n = some l → l.Uses id → l.adventure = found.adventure) ∧
          ∀ n r, w.routes.get? n = some r → r.Uses id →
            r.origin ∈ w.placesOf found.adventure) := by
  have adventures : (withoutScript id found w).adventures.Lacks (·.Uses id) := by
    rw [adventures_withoutScript, Table.lacks_revise]
    simp [Adventure.uses_withoutScript]
  have copies : (withoutScript id found w).copies.Lacks (·.Uses id) :=
    Table.lacks_revise.2 fun n c _ => by simp [Copy.uses_withoutScript]
  have includes : ∀ e ∈ (withoutScript id found w).includes.edges, ¬e.Touches id := fun e he =>
    not_or.2 (Includes.mem_removeScript.1 he).2
  refine ⟨withoutScript id found w, ?_, sheds_withoutScript id found w, adventures, copies, includes,
    ?_⟩
  · have key : (Op.number .script asked).run w = (.ok id, w) := run_number_of_key number w
    have script : (World.script asked).run w = (.ok found, w) := by
      unfold World.script
      rw [run_bind_ok (run_get w), run_bind_ok key, stored]
      rfl
    unfold removeScript
    rw [run_bind_ok script, run_bind_ok key]
    rfl
  · rw [← locations_lack_iff ascending, ← routes_lack_iff]
    exact ⟨fun h => ⟨h.locations, h.routes⟩, fun h => ⟨adventures, h.1, h.2, copies, includes⟩⟩

/-- A gate and a cave of two adventures, which both use the script of the first one. A path leads from
the cave to the gate. -/
def shared : World :=
  { adventures := { rows := [(1, { name := "Lane" }), (2, { name := "Hill" })], ids := ⟨3⟩ }
    locations :=
      { rows := [(1, { adventure := 1, name := "Gate", initial := true, enterScript := some 1 }),
          (2, { adventure := 2, name := "Cave", initial := true, enterScript := some 1 })], ids := ⟨3⟩ }
    routes := { rows := [(1, { origin := 2, destination := 1 })], ids := ⟨2⟩ }
    scripts := { rows := [(1, { adventure := 1, name := "Word" })], ids := ⟨2⟩ }
    clock := { reading := fun _ => 0 }, keys := { key := fun _ => [] } }

/-- The gate is rid of the script that is removed, and the cave is not. -/
theorem removeScript_freeOf_iff_shared :
    shared.locations.rows.Ascending ∧
      ∃ w', (removeScript (1 : Int)).run shared = (.ok (), w') ∧ shared.Sheds 1 w' ∧
        ¬w'.FreeOf 1 := by
  have ascending : shared.locations.rows.Ascending := by
    unfold Rows.Ascending
    decide
  have number : ((1 : Int) : Identifier).key? = some 1 := rfl
  have stored : shared.scripts.get? 1 = some { adventure := 1, name := "Word" } := rfl
  obtain ⟨w', run, sheds, -, -, -, free⟩ := removeScript_freeOf_iff ascending number stored
  refine ⟨ascending, w', run, sheds, fun h => ?_⟩
  have own := (free.1 h).1 2 { adventure := 2, name := "Cave", initial := true, enterScript := some 1 }
    rfl (.inl rfl)
  exact absurd own (by decide)

end Authoring

end TextAdventure
