import TextAdventure.Proofs.Authoring.Removal
import TextAdventure.Proofs.Engine.Advance
import TextAdventure.Proofs.Engine.Playing

/-! What time does to a world in which players act and authors remove. Records leave, but whoever
holds one knows it as it was, and adventures that are still there have been there all along. -/

namespace TextAdventure

open Op

variable {engine : Engine} {w w' w'' : World} {a : Action}

/-- From one world to a later one, records may have left. -/
structure World.Ages (w w' : World) : Prop where
  locations : ∀ h, w'.locations.current h = w.locations.current h
  adventures : ∀ h, w'.adventures.current h = w.adventures.current h
  stored : ∀ n a, w'.adventures.get? n = some a → w.adventures.get? n = some a
  ascending : w.locations.rows.Ascending → w'.locations.rows.Ascending
  replies : w.replies <+: w'.replies

namespace World.Ages

theorem refl (w : World) : w.Ages w :=
  ⟨fun _ => rfl, fun _ => rfl, fun _ _ h => h, id, List.prefix_rfl⟩

theorem trans (h : w.Ages w') (h' : w'.Ages w'') : w.Ages w'' :=
  ⟨fun k => (h'.locations k).trans (h.locations k),
    fun k => (h'.adventures k).trans (h.adventures k),
    fun n a found => h.stored n a (h'.stored n a found), fun rows => h'.ascending (h.ascending rows),
    h.replies.trans h'.replies⟩

theorem chains : Chains World.Ages := ⟨refl, trans⟩

theorem story (same : w'.story = w.story) : w.Ages w' := by
  have locations : w'.locations = w.locations := (congrArg World.locations same :)
  have adventures : w'.adventures = w.adventures := (congrArg World.adventures same :)
  have replies : w'.replies = w.replies := (congrArg World.replies same :)
  exact
    { locations := fun _ => by rw [locations]
      adventures := fun _ => by rw [adventures]
      stored := fun _ _ found => adventures ▸ found
      ascending := fun rows => locations ▸ rows
      replies := ⟨[], by rw [replies, List.append_nil]⟩ }

theorem replied (w : World) (replies : List Json) :
    w.Ages { w with replies := w.replies ++ replies } :=
  ⟨fun _ => rfl, fun _ => rfl, fun _ _ h => h, id, List.prefix_append _ _⟩

theorem withoutLocation (id : Int) (games : List Int) (w : World) :
    w.Ages (Authoring.withoutLocation id games w) := by
  unfold Authoring.withoutLocation
  rw [Authoring.foldl_dropGame]
  exact ⟨Table.current_remove _ id, fun _ => rfl, fun _ _ h => h,
    fun rows => Table.ascending_remove rows id, List.prefix_rfl⟩

theorem withoutAdventure (id : Int) (games : List Int) (w : World) :
    w.Ages (Authoring.withoutAdventure id games w) := by
  unfold Authoring.withoutAdventure
  rw [Authoring.foldl_dropGame]
  exact ⟨Table.current_removeAll _ _, Table.current_remove _ id,
    fun _ _ found => (Table.get?_remove_eq_some.1 found).2,
    fun rows => Table.ascending_removeAll rows _, List.prefix_rfl⟩

theorem removal {α : Type} {kind : Kind} {found : Op α} {asked : Identifier} {force : Bool}
    {belongs : Int → Game → Bool} {cut : Int → List Int → World → World} (readOnly : ReadOnly found)
    (ages : ∀ id games w, World.Ages w (cut id games w)) :
    Follows World.Ages (Authoring.removal kind found asked force belongs cut) := by
  intro w
  rcases Authoring.run_removal readOnly asked force belongs cut w with
    ⟨e, hrun⟩ | ⟨id, games, -, -, -, -, hrun⟩ <;> rw [hrun]
  · exact refl w
  · exact ages id _ w

end World.Ages

/-- Adventures go by the numbers that they are stored under, and locations stand in the order of
theirs. -/
structure World.Filed (w : World) : Prop where
  number : ∀ n a, w.adventures.get? n = some a → a.otherId = none
  ascending : w.locations.rows.Ascending

theorem World.Ages.filed (h : w.Ages w') (filed : w.Filed) : w'.Filed :=
  ⟨fun n a found => filed.number n a (h.stored n a found), h.ascending filed.ascending⟩

namespace Engine

theorem carries_ages (host : ∀ (request : Json) (w : World), w.Ages
      { (engine.host request w).2 with
        replies := (engine.host request w).2.replies ++ [(engine.host request w).1] }) :
    engine.Carries World.Ages where
  toChains := World.Ages.chains
  games _ _ := .story rfl
  clear _ _ := .story rfl
  tick _ := .story rfl
  log g body w := by
    cases number : g.id with
    | none =>
      rw [World.run_log_none number]
      exact .refl w
    | some id =>
      rw [World.run_log_some number]
      exact .story rfl
  holding _ _ _ h := .holding World.Ages.chains (fun _ _ => .story rfl) _ _ h
  host := host

/-- Whatever players and removals do. -/
theorem Carries.ages (carries : engine.Carries World.Ages) (allowed : a.ByPlayersOrRemoval) :
    Follows World.Ages (a.perform engine) := by
  cases a with
  | removeLocation location force =>
    exact (World.Ages.removal (.location location) World.Ages.withoutLocation).map _
  | removeAdventure adventure force =>
    exact (World.Ages.removal (.adventure adventure) World.Ages.withoutAdventure).map _
  | _ => exact carries.players allowed

theorem attended_ages {read : World → Json → Action}
    {write : World → Except Error Answer → World → Json}
    (allowed : ∀ v request, (read v request).ByPlayersOrRemoval) (depth : Nat) :
    (engine.attended read write depth).Carries World.Ages := by
  induction depth with
  | zero => exact carries_ages fun _ w => .replied w _
  | succ depth ih =>
    refine carries_ages fun request w => World.Ages.trans ?_ (.replied _ _)
    exact ih.ages (allowed w request) w

end Engine

end TextAdventure
