import TextAdventure.Proofs.Engine.Advance

/-! Operations that read the story alone: adventures, locations, routes, scripts, copy, languages. What
they give hangs neither on games and logs nor on time and locks. -/

namespace TextAdventure

namespace Op

variable {α β : Type}

/-- The operation leaves the world as it is, and gives the same in worlds of one story. -/
structure OfStory (op : Op α) : Prop where
  readOnly : ReadOnly op
  same : ∀ {v w : World}, v.story = w.story → (op.run v).1 = (op.run w).1

namespace OfStory

theorem pure (a : α) : OfStory (Pure.pure a : Op α) := ⟨.pure a, fun _ => rfl⟩

theorem throw (e : Error) : OfStory (MonadExcept.throw e : Op α) := ⟨.throw e, fun _ => rfl⟩

theorem ofExcept (r : Except Error α) : OfStory (Op.ofExcept r) := ⟨.ofExcept r, fun _ => rfl⟩

/-- What such an operation gives, in the world that it has met. -/
theorem run_eq {op : Op α} (h : OfStory op) {v w : World} (story : v.story = w.story) :
    op.run v = ((op.run w).1, v) := Prod.ext (h.same story) (h.readOnly v)

theorem bind {x : Op α} {f : α → Op β} (hx : OfStory x) (hf : ∀ a, OfStory (f a)) :
    OfStory (x >>= f) := by
  refine ⟨.bind hx.readOnly fun a => (hf a).readOnly, fun {v w} story => ?_⟩
  have hv := hx.run_eq story
  have hw := hx.run_eq (rfl : w.story = w.story)
  rw [run_bind, run_bind, hv, hw]
  cases (x.run w).1 with
  | error e => rfl
  | ok a => exact (hf a).same story

theorem ite {c : Prop} [Decidable c] {x y : Op α} (hx : OfStory x) (hy : OfStory y) :
    OfStory (if c then x else y) := by
  split
  · exact hx
  · exact hy

/-- What is read of the world is a part of the story. -/
theorem get {f : World → Op α} (part : ∀ v w : World, v.story = w.story → f v = f w)
    (hf : ∀ w, OfStory (f w)) : OfStory (MonadState.get >>= f) := by
  refine ⟨.bind .get fun w => (hf w).readOnly, fun {v w} story => ?_⟩
  rw [run_bind_ok (run_get v), run_bind_ok (run_get w), part v w story]
  exact (hf w).same story

theorem required (kind : Kind) (id : Identifier) (found : Option α) :
    OfStory (Op.required kind id found) := by
  cases found
  · exact throw _
  · exact pure _

theorem lookUpKey (id : Identifier) : OfStory (Op.lookUpKey id) := by
  unfold Op.lookUpKey
  split
  · exact throw _
  · exact throw _
  · exact pure _

theorem number (kind : Kind) (id : Identifier) : OfStory (Op.number kind id) :=
  bind (lookUpKey id) fun _ => required _ _ _

/-- A record that is looked up in a table of the story. -/
theorem looked {γ : Type} {kind : Kind} {id : Identifier} {table : World → γ}
    {find : γ → Int → Option α} (part : ∀ v w : World, v.story = w.story → table v = table w) :
    OfStory (MonadState.get >>= fun w => Op.number kind id >>= fun n =>
      Op.required kind id (find (table w) n)) :=
  get (fun v w story => by rw [part v w story]) fun _ => bind (number _ _) fun _ => required _ _ _

theorem adventure (id : Identifier) : OfStory (World.adventure id) :=
  looked fun _ _ story => (congrArg World.adventures story :)

theorem location (id : Identifier) : OfStory (World.location id) :=
  looked fun _ _ story => (congrArg World.locations story :)

theorem route (id : Identifier) : OfStory (World.route id) :=
  looked fun _ _ story => (congrArg World.routes story :)

theorem script (id : Identifier) : OfStory (World.script id) :=
  looked fun _ _ story => (congrArg World.scripts story :)

theorem locationNow (h : Held Location) : OfStory (World.locationNow h) := by
  refine get (fun v w story => ?_) fun _ => pure _
  rw [show v.locations = w.locations from (congrArg World.locations story :)]

theorem adventureNow (h : Held Adventure) : OfStory (World.adventureNow h) := by
  refine get (fun v w story => ?_) fun _ => pure _
  rw [show v.adventures = w.adventures from (congrArg World.adventures story :)]

theorem texts (engine : Engine) (entries : List Content) (language : Text) :
    OfStory (engine.texts entries language) := by
  refine get (fun v w story => ?_) fun _ => pure _
  rw [show v.copies = w.copies from (congrArg World.copies story :)]

theorem transcribe (engine : Engine) (p : Progress) : OfStory (engine.transcribe p) :=
  bind (texts _ _ _) fun _ => pure _

theorem finalHook (game : Game) : OfStory (Engine.finalHook game) := by
  refine get (fun v w story => ?_) fun _ => pure _
  rw [show v.adventures = w.adventures from (congrArg World.adventures story :)]

theorem runtimeFor (engine : Engine) (id : Int) (type : ScriptType) :
    OfStory (engine.runtimeFor id type) := by
  unfold Engine.runtimeFor
  split
  · exact pure _
  · exact throw _
  · exact throw _

end OfStory

end Op

end TextAdventure
