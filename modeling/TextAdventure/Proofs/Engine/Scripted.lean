import TextAdventure.Engine.Opening
import TextAdventure.Proofs.Engine.Quiet
import TextAdventure.Proofs.Lua.Raising
import TextAdventure.Proofs.Script.Refusing

/-! Engines whose scripts are in Lua. Such scripts leave the host alone, and what they raise is what
they have met, or an error of their own. Where an engine plays, scripts are refused nothing but what
they have handed over. -/

namespace TextAdventure

/-- The scripts of an engine raise no errors but those that `P` knows, as long as they meet no
others. -/
def Engine.Raises (engine : Engine) (P : Error → Prop) : Prop :=
  ∀ runtime, engine.runtime = some runtime → ∀ source, (runtime source).Raises P

namespace Engine

/-- Logs refuse what they are given, and copy is always found. -/
theorem place_objects (engine : Engine) : engine.place.Objects where
  log game body w e failed := by
    change ((World.log game body).run w).1 = .error e at failed
    cases hid : game.id with
    | none =>
      rw [World.run_log_none hid] at failed
      cases failed
      rfl
    | some id =>
      rw [World.run_log_some hid] at failed
      cases failed
  lookUp game key w e failed := by
    unfold place at failed
    dsimp only at failed
    split at failed <;> cases failed

variable {engine : Engine} {limit : Option Int} {r : Runtime}

theorem quiet_lua (made : Lua.runtime limit = .ok r) (runs : engine.runtime = some r) :
    engine.Quiet := by
  intro runtime given source
  obtain rfl := Option.some.inj (runs.symm.trans given)
  exact Lua.runtime_quiet made source

theorem raises_lua (made : Lua.runtime limit = .ok r) (runs : engine.runtime = some r)
    {P : Error → Prop} (own : ∀ e, Lua.Own e → P e) : engine.Raises P := by
  intro runtime given source
  obtain rfl := Option.some.inj (runs.symm.trans given)
  exact Lua.runtime_raises own made source

variable {settings : Settings} {languages : Option (List (Claim × Language))}
  {directory : Option Directory} {clock : Clock} {keys : Keys} {w : World}

theorem openWithLua_runtime
    (opened : openWithLua settings languages directory clock keys = .ok (engine, w)) :
    ∃ r, Lua.runtime settings.maxInstructions = .ok r ∧ engine.runtime = some r := by
  unfold openWithLua Engine.open at opened
  cases languages
  all_goals
    obtain ⟨_, -, opened⟩ := ok_of_bind opened
    obtain ⟨_, -, opened⟩ := ok_of_bind opened
    obtain ⟨_, -, opened⟩ := ok_of_bind opened
    obtain ⟨runtime, made, opened⟩ := ok_of_bind opened
    obtain ⟨_, -, opened⟩ := ok_of_bind opened
    obtain ⟨_, -, opened⟩ := ok_of_bind opened
    obtain ⟨r, found, rfl⟩ := map_ok made
    obtain rfl := (Prod.mk.inj (Except.ok.inj opened)).1
    exact ⟨r, found, rfl⟩

/-- The scripts of an engine that is opened with Lua leave its host alone, and they raise errors of
programs alone, besides what they meet. -/
theorem openWithLua_scripts
    (opened : openWithLua settings languages directory clock keys = .ok (engine, w)) :
    engine.Quiet ∧ ∀ {P : Error → Prop}, (∀ e, Lua.Own e → P e) → engine.Raises P := by
  obtain ⟨r, made, runs⟩ := openWithLua_runtime opened
  exact ⟨quiet_lua made runs, raises_lua made runs⟩

end Engine

end TextAdventure
