import TextAdventure.Authoring.Removal
import TextAdventure.Engine.Lifecycle
import TextAdventure.Engine.Reading

/-! How operations run: what each primitive answers and leaves, and what a sequence of operations
does. An operation that only reads leaves the world as it is. -/

namespace TextAdventure

namespace Engine

/-- The code to look for when a language is asked for. -/
def askedCode (engine : Engine) (language : Json) : Op Text :=
  match language.truthy, language with
  | false, _ => pure engine.settings.defaultLanguage.strip.lower
  | true, .text l => pure l.strip.lower
  | true, v => throw (.noMember v.kind "strip")

/-- The code of a language as it is registered. -/
def registeredCode (code : Text) : Op Text := do
  match (← get).languages.byCode? code with
  | none => throw (.notFound .language (.name code))
  | some (_, found) => return found.code

theorem gameLanguage_eq (engine : Engine) (language : Json) :
    engine.gameLanguage language = engine.askedCode language >>= registeredCode := by
  unfold gameLanguage askedCode
  generalize language.truthy = truthy
  cases truthy with
  | false => rfl
  | true => cases language <;> rfl

end Engine

namespace Op

variable {α β : Type} {w w' : World}

@[simp] theorem run_pure (a : α) (w : World) : (pure a : Op α).run w = (.ok a, w) := rfl

@[simp] theorem run_throw (e : Error) (w : World) : (throw e : Op α).run w = (.error e, w) := rfl

@[simp] theorem run_of (f : World → Except Error α × World) (w : World) : (of f).run w = f w := rfl

@[simp] theorem run_ofExcept (r : Except Error α) (w : World) : (ofExcept r).run w = (r, w) := rfl

@[simp] theorem run_get (w : World) : (get : Op World).run w = (.ok w, w) := rfl

@[simp] theorem run_set (v w : World) : (set v : Op PUnit).run w = (.ok ⟨⟩, v) := rfl

@[simp] theorem run_modify (f : World → World) (w : World) :
    (modify f : Op PUnit).run w = (.ok ⟨⟩, f w) := rfl

@[simp] theorem run_modifyGet (f : World → α × World) (w : World) :
    (modifyGet f : Op α).run w = (.ok (f w).1, (f w).2) := rfl

/-- A sequence goes on from where its first operation has succeeded. -/
theorem run_bind (x : Op α) (f : α → Op β) (w : World) :
    (x >>= f).run w =
      match x.run w with
      | (.ok a, w') => (f a).run w'
      | (.error e, w') => (.error e, w') := by
  show StateT.run (ExceptT.run (x >>= f)) w =
    match StateT.run (ExceptT.run x) w with
    | (.ok a, w') => StateT.run (ExceptT.run (f a)) w'
    | (.error e, w') => (.error e, w')
  rw [ExceptT.run_bind, StateT.run_bind]
  show (let (a, s) := StateT.run (ExceptT.run x) w; _) = _
  rcases StateT.run (ExceptT.run x) w with ⟨_ | a, w'⟩ <;> rfl

theorem run_bind_ok {x : Op α} {f : α → Op β} {a : α} (h : x.run w = (.ok a, w')) :
    (x >>= f).run w = (f a).run w' := by rw [run_bind, h]

theorem run_bind_error {x : Op α} {f : α → Op β} {e : Error} (h : x.run w = (.error e, w')) :
    (x >>= f).run w = (.error e, w') := by rw [run_bind, h]

/-- A sequence that succeeds has come through both of its operations. -/
theorem run_bind_eq_ok {x : Op α} {f : α → Op β} {b : β} :
    (x >>= f).run w = (.ok b, w') ↔ ∃ a u, x.run w = (.ok a, u) ∧ (f a).run u = (.ok b, w') := by
  rw [run_bind]
  rcases x.run w with ⟨e | a, u⟩
  · exact ⟨nofun, fun ⟨_, _, hx, _⟩ => nomatch (Prod.mk.inj hx).1⟩
  · refine ⟨fun h => ⟨a, u, rfl, h⟩, ?_⟩
    rintro ⟨_, _, ⟨⟩, h⟩
    exact h

/-- A sequence that fails has failed in its first operation or in its second one. -/
theorem run_bind_eq_error {x : Op α} {f : α → Op β} {e : Error} :
    (x >>= f).run w = (.error e, w') ↔
      x.run w = (.error e, w') ∨ ∃ a u, x.run w = (.ok a, u) ∧ (f a).run u = (.error e, w') := by
  rw [run_bind]
  rcases x.run w with ⟨e' | a, u⟩
  · refine ⟨fun h => .inl (by simpa using h), ?_⟩
    rintro (h | ⟨_, _, hx, _⟩)
    · simpa using h
    · exact nomatch (Prod.mk.inj hx).1
  · refine ⟨fun h => .inr ⟨a, u, rfl, h⟩, ?_⟩
    rintro (h | ⟨_, _, ⟨⟩, h⟩)
    · exact nomatch (Prod.mk.inj h).1
    · exact h

/-- The operation leaves the world as it is, whatever comes of it. -/
def ReadOnly (op : Op α) : Prop := ∀ w, (op.run w).2 = w

namespace ReadOnly

@[simp] theorem pure (a : α) : ReadOnly (Pure.pure a : Op α) := fun _ => rfl

@[simp] theorem throw (e : Error) : ReadOnly (MonadExcept.throw e : Op α) := fun _ => rfl

@[simp] theorem ofExcept (r : Except Error α) : ReadOnly (Op.ofExcept r) := fun _ => rfl

@[simp] theorem get : ReadOnly (MonadState.get : Op World) := fun _ => rfl

@[simp] theorem bind {x : Op α} {f : α → Op β} (hx : ReadOnly x) (hf : ∀ a, ReadOnly (f a)) :
    ReadOnly (x >>= f) := by
  intro w
  rw [run_bind]
  have h := hx w
  rcases hr : x.run w with ⟨e | a, w'⟩
  · rw [hr] at h
    exact h
  · rw [hr] at h
    exact (hf a w').trans h

@[simp] theorem ite {c : Prop} [Decidable c] {x y : Op α} (hx : ReadOnly x) (hy : ReadOnly y) :
    ReadOnly (if c then x else y) := by
  split
  · exact hx
  · exact hy

@[simp] theorem required (kind : Kind) (id : Identifier) (found : Option α) :
    ReadOnly (Op.required kind id found) := by
  cases found
  · exact throw _
  · exact pure _

theorem lookUpKey (id : Identifier) : ReadOnly (Op.lookUpKey id) := by
  unfold Op.lookUpKey
  split
  · exact throw _
  · exact throw _
  · exact pure _

theorem number (kind : Kind) (id : Identifier) : ReadOnly (Op.number kind id) :=
  bind (lookUpKey id) fun _ => required _ _ _

theorem gameNumber (id : Identifier) : ReadOnly (World.gameNumber id) := by
  refine bind (lookUpKey id) fun _ => bind get fun w => ?_
  split
  · exact throw _
  · exact throw _
  · exact required _ _ _

theorem heldGame (id : Identifier) : ReadOnly (World.heldGame id) :=
  bind get fun _ => bind (gameNumber id) fun _ => bind (ofExcept _) fun _ => required _ _ _

theorem game (id : Identifier) : ReadOnly (World.game id) := bind (heldGame id) fun _ => pure _

theorem adventure (id : Identifier) : ReadOnly (World.adventure id) :=
  bind get fun _ => bind (number _ id) fun _ => required _ _ _

theorem location (id : Identifier) : ReadOnly (World.location id) :=
  bind get fun _ => bind (number _ id) fun _ => required _ _ _

theorem route (id : Identifier) : ReadOnly (World.route id) :=
  bind get fun _ => bind (number _ id) fun _ => required _ _ _

theorem script (id : Identifier) : ReadOnly (World.script id) :=
  bind get fun _ => bind (number _ id) fun _ => required _ _ _

theorem locationNow (h : Held Location) : ReadOnly (World.locationNow h) :=
  bind get fun _ => pure _

theorem adventureNow (h : Held Adventure) : ReadOnly (World.adventureNow h) :=
  bind get fun _ => pure _

theorem texts (engine : Engine) (entries : List Content) (language : Text) :
    ReadOnly (engine.texts entries language) :=
  bind get fun _ => pure _

theorem transcribe (engine : Engine) (p : Progress) : ReadOnly (engine.transcribe p) :=
  bind (texts _ _ _) fun _ => pure _

theorem runtimeFor (engine : Engine) (id : Int) (type : ScriptType) :
    ReadOnly (engine.runtimeFor id type) := by
  unfold Engine.runtimeFor
  split
  · exact pure _
  · exact throw _
  · exact throw _

theorem initialLocation (adventure : Int) : ReadOnly (Engine.initialLocation adventure) := by
  refine bind get fun w => ?_
  dsimp only
  split
  · exact throw _
  · exact pure _
  · exact throw _

theorem askedCode (engine : Engine) (language : Json) : ReadOnly (engine.askedCode language) := by
  unfold Engine.askedCode
  split
  · exact pure _
  · exact pure _
  · exact throw _

theorem gameLanguage (engine : Engine) (language : Json) :
    ReadOnly (engine.gameLanguage language) := by
  rw [Engine.gameLanguage_eq]
  refine bind (askedCode _ _) fun code => bind get fun w => ?_
  split
  · exact throw _
  · exact pure _

theorem finalHook (game : Game) : ReadOnly (Engine.finalHook game) := bind get fun _ => pure _

theorem contents (game : Identifier) (start : Int) (limit : Option Int) :
    ReadOnly (Engine.contents game start limit) :=
  bind (Op.ReadOnly.game _) fun _ => bind get fun _ => bind (gameNumber _) fun _ => ofExcept _

theorem textAt (engine : Engine) (game position : Identifier) :
    ReadOnly (engine.textAt game position) := by
  refine bind (Op.ReadOnly.game _) fun _ => bind (gameNumber _) fun _ => bind get fun w => ?_
  split
  · exact throw _
  · exact pure _

theorem transcript (engine : Engine) (game : Identifier) : ReadOnly (engine.transcript game) :=
  bind (Op.ReadOnly.game _) fun _ => bind (gameNumber _) fun _ => bind get fun _ => texts _ _ _

theorem availableRoutes (game : Identifier) : ReadOnly (Engine.availableRoutes game) :=
  bind (Op.ReadOnly.game _) fun _ => bind get fun _ => pure _

theorem gamesToRemove (kind : Kind) (id : Int) (force : Bool) (games : List Game) :
    ReadOnly (Authoring.gamesToRemove kind id force games) := by
  unfold Authoring.gamesToRemove
  dsimp only
  split
  · exact bind (throw _) fun _ => pure _
  · exact pure _

end ReadOnly

theorem ReadOnly.run_cases {x : Op α} (h : ReadOnly x) (w : World) :
    (∃ e, x.run w = (.error e, w)) ∨ ∃ a, x.run w = (.ok a, w) := by
  have hw := h w
  rcases hrun : x.run w with ⟨e | a, w'⟩ <;> rw [hrun] at hw <;> obtain rfl : w' = w := hw
  · exact .inl ⟨e, rfl⟩
  · exact .inr ⟨a, rfl⟩

/-- A reader that fails leaves it at that, and one that succeeds goes on in the world that it met. -/
theorem ReadOnly.run_bind_cases {x : Op α} (h : ReadOnly x) (f : α → Op β) (w : World) :
    (∃ e, (x >>= f).run w = (.error e, w)) ∨
      ∃ a, x.run w = (.ok a, w) ∧ (x >>= f).run w = (f a).run w := by
  rcases h.run_cases w with ⟨e, hrun⟩ | ⟨a, hrun⟩
  · exact .inl ⟨e, run_bind_error hrun⟩
  · exact .inr ⟨a, hrun, run_bind_ok hrun⟩

/-! ### Relations that operations follow -/

/-- Whatever comes of the operation, it takes the world along `T`. -/
def Follows (T : World → World → Prop) (op : Op α) : Prop := ∀ w, T w (op.run w).2

/-- A relation between worlds that chains up: it holds of a world and itself, and across a third
one. -/
structure Chains (T : World → World → Prop) : Prop where
  refl : ∀ w, T w w
  trans : ∀ {a b c}, T a b → T b c → T a c

section Follows

variable {T : World → World → Prop} (chains : Chains T)
include chains

theorem ReadOnly.follows {op : Op α} (h : ReadOnly op) : Follows T op := by
  intro w
  rw [h w]
  exact chains.refl w

theorem Follows.bind {x : Op α} {f : α → Op β} (hx : Follows T x) (hf : ∀ a, Follows T (f a)) :
    Follows T (x >>= f) := by
  intro w
  have h := hx w
  rw [run_bind]
  rcases hr : x.run w with ⟨e | a, w'⟩
  · rw [hr] at h
    exact h
  · rw [hr] at h
    exact chains.trans h (hf a w')

end Follows

theorem Follows.ite {T : World → World → Prop} {c : Prop} [Decidable c] {x y : Op α}
    (hx : Follows T x) (hy : Follows T y) : Follows T (if c then x else y) := by
  split
  · exact hx
  · exact hy

@[simp] theorem run_map (f : α → β) (x : Op α) (w : World) :
    (f <$> x).run w = ((x.run w).1.map f, (x.run w).2) := by
  show (x >>= fun a => Pure.pure (f a)).run w = _
  rw [run_bind]
  rcases x.run w with ⟨e | a, w'⟩ <;> rfl

theorem ReadOnly.map {x : Op α} (h : ReadOnly x) (f : α → β) : ReadOnly (f <$> x) := by
  intro w
  rw [run_map]
  exact h w

theorem Follows.map {T : World → World → Prop} {x : Op α} (h : Follows T x) (f : α → β) :
    Follows T (f <$> x) := by
  intro w
  rw [run_map]
  exact h w

end Op

namespace World

open Op

/-- A record that is found is the one under the number of its identifier. -/
theorem run_found {α : Type} {w : World} {kind : Kind} {asked : Identifier}
    {f : World → Int → Option α} {a : α} {w' : World}
    (hrun : (get >>= fun v => Op.number kind asked >>= fun n =>
      Op.required kind asked (f v n)).run w = (.ok a, w')) :
    ∃ n, (Op.number kind asked).run w = (.ok n, w) ∧ f w n = some a := by
  rw [run_bind_ok (run_get w), run_bind] at hrun
  have hsame := ReadOnly.number kind asked w
  rcases hnumber : (Op.number kind asked).run w with ⟨e | n, v⟩ <;> rw [hnumber] at hrun hsame
  · exact nomatch (Prod.mk.inj hrun).1
  · obtain rfl : v = w := hsame
    refine ⟨n, rfl, ?_⟩
    dsimp only at hrun
    cases found : f v n with
    | none =>
      rw [found] at hrun
      exact nomatch (Prod.mk.inj hrun).1
    | some b =>
      rw [found] at hrun
      rw [Except.ok.inj (Prod.mk.inj hrun).1]

end World

end TextAdventure
