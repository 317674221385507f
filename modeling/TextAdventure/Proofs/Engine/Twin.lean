import TextAdventure.Proofs.Engine.Reciting

/-! Two worlds that are the same, but that one keeps its games in memory and the other in files. An
operation agrees in both: it has the same outcome and leaves worlds that are the same again, unless
a game does not fit into its file. -/

namespace TextAdventure

open Op
open Table (HeldAt)

variable {α β γ δ : Type} {engine : Engine} {id : Int} {v v' w w' : World}

/-- The same world with games in memory and with games in files. -/
structure Alike (w w' : World) : Prop where
  same : w' = { w with games := w'.games }
  games : w.games.Mirrors w'.games
  scalar : w.Scalar

/-- Both worlds have a game under a number. -/
structure Twin (id : Int) (w w' : World) : Prop extends Alike w w' where
  stored : w.games.Has id

/-- Operations hold the same game, which is lasting. -/
structure SameHeld (id : Int) (h h' : Held Game) : Prop where
  value : h'.value = h.value
  number : h.value.id = some id
  place : HeldAt id h
  otherPlace : HeldAt id h'
  lasting : h.value.Lasting

/-- One outcome is as the other. -/
inductive Similar (R : α → β → Prop) : Except Error α → Except Error β → Prop
  | ok {a : α} {b : β} (h : R a b) : Similar R (.ok a) (.ok b)
  | error (e : Error) : Similar R (.error e) (.error e)

/-- The operations have similar outcomes and leave worlds that `T` relates, or the second one comes
upon a game that does not fit into its file. -/
def Agree (T : World → World → Prop) (R : α → β → Prop) (x : Op α) (w : World) (y : Op β)
    (w' : World) : Prop :=
  (y.run w').1 = .error .tooLongToWrite ∨
    T (x.run w).2 (y.run w').2 ∧ Similar R (x.run w).1 (y.run w').1

/-- An operation that has nothing to do with games. -/
def Op.Apart (x : Op α) : Prop :=
  ∀ w games, x.run { w with games } = ((x.run w).1, { (x.run w).2 with games })

namespace Op.Apart

theorem pure (a : α) : Apart (Pure.pure a : Op α) := fun _ _ => rfl

theorem throw (e : Error) : Apart (MonadExcept.throw e : Op α) := fun _ _ => rfl

theorem ofExcept (r : Except Error α) : Apart (Op.ofExcept r) := fun _ _ => rfl

theorem bind {x : Op α} {f : α → Op β} (hx : Apart x) (hf : ∀ a, Apart (f a)) : Apart (x >>= f) := by
  intro w games
  rw [run_bind, hx, run_bind]
  rcases x.run w with ⟨e | a, w'⟩
  · rfl
  · exact hf a w' games

/-- What is read may hang on anything but games. -/
theorem get {f : World → Op α} (same : ∀ w games, f { w with games } = f w)
    (hf : ∀ w, Apart (f w)) : Apart (MonadState.get >>= f) := by
  intro w games
  rw [run_bind_ok (run_get _), run_bind_ok (run_get _), same]
  exact hf w w games

theorem required (kind : Kind) (asked : Identifier) (found : Option α) :
    Apart (Op.required kind asked found) := by
  cases found
  · exact throw _
  · exact pure _

theorem number (kind : Kind) (asked : Identifier) : Apart (Op.number kind asked) := by
  refine bind ?_ fun _ => required _ _ _
  unfold Op.lookUpKey
  split
  · exact throw _
  · exact throw _
  · exact pure _

theorem gameNumber (n : Int) : Apart (World.gameNumber n) := by
  intro w games
  rw [World.run_gameNumber_number, World.run_gameNumber_number]

theorem script (asked : Identifier) : Apart (World.script asked) :=
  get (fun _ _ => rfl) fun _ => bind (number _ _) fun _ => required _ _ _

theorem route (asked : Identifier) : Apart (World.route asked) :=
  get (fun _ _ => rfl) fun _ => bind (number _ _) fun _ => required _ _ _

theorem location (asked : Identifier) : Apart (World.location asked) :=
  get (fun _ _ => rfl) fun _ => bind (number _ _) fun _ => required _ _ _

theorem adventure (asked : Identifier) : Apart (World.adventure asked) :=
  get (fun _ _ => rfl) fun _ => bind (number _ _) fun _ => required _ _ _

theorem locationNow (h : Held Location) : Apart (World.locationNow h) :=
  get (fun _ _ => rfl) fun _ => pure _

theorem adventureNow (h : Held Adventure) : Apart (World.adventureNow h) :=
  get (fun _ _ => rfl) fun _ => pure _

theorem texts (engine : Engine) (entries : List Content) (language : Text) :
    Apart (engine.texts entries language) := get (fun _ _ => rfl) fun _ => pure _

theorem finalHook (game : Game) : Apart (Engine.finalHook game) :=
  get (fun _ _ => rfl) fun _ => pure _

theorem runtimeFor (engine : Engine) (id : Int) (type : ScriptType) :
    Apart (engine.runtimeFor id type) := by
  unfold Engine.runtimeFor
  split
  · exact pure _
  · exact throw _
  · exact throw _

theorem initialLocation (adventure : Int) : Apart (Engine.initialLocation adventure) := by
  refine get (fun _ _ => rfl) fun w => ?_
  dsimp only
  split
  · exact throw _
  · exact pure _
  · exact throw _

theorem gameLanguage (engine : Engine) (language : Json) : Apart (engine.gameLanguage language) := by
  rw [Engine.gameLanguage_eq]
  refine bind ?_ fun code => get (fun _ _ => rfl) fun w => ?_
  · unfold Engine.askedCode
    split
    · exact pure _
    · exact pure _
    · exact throw _
  · split
    · exact throw _
    · exact pure _

theorem log (game : Game) (body : Body) : Apart (World.log game body) := by
  intro w games
  unfold World.log
  rw [run_of, run_of]
  cases game.id <;> rfl

end Op.Apart

/-! ### Worlds -/

theorem Alike.locked (h : Alike w w') (locks : Locks) : Alike { w with locks } { w' with locks } :=
  ⟨congrArg (fun u : World => { u with locks }) h.same, h.games, h.scalar.story rfl⟩

theorem Alike.clocked (h : Alike w w') (clock : Clock) : Alike { w with clock } { w' with clock } :=
  ⟨congrArg (fun u : World => { u with clock }) h.same, h.games, h.scalar.story rfl⟩

theorem Alike.rewrite (h : Alike w w') {games games' : Games} (mirrors : games.Mirrors games') :
    Alike { w with games } { w' with games := games' } :=
  ⟨congrArg (fun u : World => { u with games := games' }) h.same, mirrors, h.scalar.story rfl⟩

theorem Alike.dropGame (h : Alike w w') (n : Int) :
    Alike (Authoring.dropGame w n) (Authoring.dropGame w' n) :=
  ⟨congrArg (fun u => Authoring.dropGame u n) h.same, h.games.remove n, h.scalar.story rfl⟩

theorem Twin.locked (h : Twin id w w') (locks : Locks) :
    Twin id { w with locks } { w' with locks } := ⟨h.toAlike.locked locks, h.stored⟩

/-- An operation that has nothing to do with games, and leaves what authors write as it is. -/
theorem Alike.apart (h : Alike w w') {x : Op α} (apart : Apart x)
    (story : (x.run w).2.story = w.story) :
    (x.run w').1 = (x.run w).1 ∧ (x.run w).2.games = w.games ∧ Alike (x.run w).2 (x.run w').2 := by
  have own : (x.run w).2.games = w.games := by
    have hrun := apart w w.games
    exact congrArg (fun r => r.2.games) hrun
  have other : x.run w' = ((x.run w).1, { (x.run w).2 with games := w'.games }) := by
    rw [← apart w w'.games, ← h.same]
  refine ⟨by rw [other], own, ?_⟩
  rw [other]
  refine ⟨rfl, ?_, h.scalar.story story⟩
  rw [own]
  exact h.games

/-! ### Agreement -/

namespace Agree

variable {T T' : World → World → Prop} {R : α → β → Prop} {S : γ → δ → Prop}

theorem pure {a : α} {b : β} (t : T w w') (r : R a b) :
    Agree T R (Pure.pure a) w (Pure.pure b) w' := .inr ⟨t, .ok r⟩

theorem throw (t : T w w') (e : Error) :
    Agree T R (MonadExcept.throw e) w (MonadExcept.throw e) w' := .inr ⟨t, .error e⟩

theorem bind {x : Op α} {y : Op β} {f : α → Op γ} {g : β → Op δ} (h : Agree T R x w y w')
    (hf : ∀ a b v v', T v v' → R a b → Agree T S (f a) v (g b) v') :
    Agree T S (x >>= f) w (y >>= g) w' := by
  rcases hx : x.run w with ⟨p, v⟩
  rcases hy : y.run w' with ⟨q, v'⟩
  rw [Agree, hx, hy] at h
  rcases h with refused | ⟨t, similar⟩
  · obtain rfl : q = .error .tooLongToWrite := refused
    exact .inl (by rw [run_bind_error hy])
  · cases similar with
    | ok r =>
      rw [Agree, run_bind_ok hx, run_bind_ok hy]
      exact hf _ _ v v' t r
    | error e =>
      rw [Agree, run_bind_error hx, run_bind_error hy]
      exact .inr ⟨t, .error e⟩

theorem mono {x : Op α} {y : Op β} {R' : α → β → Prop} (h : Agree T R x w y w')
    (le : ∀ v v', T v v' → T' v v') (imp : ∀ a b, R a b → R' a b) : Agree T' R' x w y w' := by
  refine h.imp_right fun ⟨t, similar⟩ => ⟨le _ _ t, ?_⟩
  generalize (x.run w).1 = p at similar
  generalize (y.run w').1 = q at similar
  cases similar with
  | ok r => exact .ok (imp _ _ r)
  | error e => exact .error e

theorem map {x : Op α} {y : Op β} {f : α → γ} {g : β → δ} (h : Agree T R x w y w')
    (hf : ∀ a b, R a b → S (f a) (g b)) : Agree T S (f <$> x) w (g <$> y) w' := by
  rw [Agree, run_map, run_map]
  rcases h with refused | ⟨t, similar⟩
  · rw [refused]
    exact .inl rfl
  · refine .inr ⟨t, ?_⟩
    generalize (x.run w).1 = p at similar
    generalize (y.run w').1 = q at similar
    cases similar with
    | ok r => exact .ok (hf _ _ r)
    | error e => exact .error e

/-- What is read on the way, and has nothing to do with games, is the same in both worlds. -/
theorem read {x : Op α} {f : α → Op γ} {g : α → Op δ} (alike : Alike w w') (t : T w w')
    (readOnly : ReadOnly x) (apart : Apart x)
    (hf : ∀ a, x.run w = (.ok a, w) → Agree T S (f a) w (g a) w') :
    Agree T S (x >>= f) w (x >>= g) w' := by
  have story : (x.run w).2.story = w.story := by rw [readOnly w]
  obtain ⟨outcome, -⟩ := alike.apart apart story
  have own := readOnly w
  have other := readOnly w'
  rcases hx : x.run w with ⟨e | a, v⟩ <;> rcases hy : x.run w' with ⟨q, v'⟩ <;>
    rw [hx, hy] at outcome <;> rw [hx] at own <;> rw [hy] at other
  · obtain rfl : v = w := own
    obtain rfl : v' = w' := other
    obtain rfl : q = .error e := outcome
    rw [Agree, run_bind_error hx, run_bind_error hy]
    exact .inr ⟨t, .error e⟩
  · obtain rfl : v = w := own
    obtain rfl : v' = w' := other
    obtain rfl : q = .ok a := outcome
    rw [Agree, run_bind_ok hx, run_bind_ok hy]
    exact hf a hx

/-! ### Games -/

/-- A game is asked for by its number. -/
theorem gameNumber {f : Int → Op γ} {g : Int → Op δ} (n : Int) (h : Agree T S (f n) w (g n) w') :
    Agree T S (World.gameNumber n >>= f) w (World.gameNumber n >>= g) w' := by
  rw [Agree, run_bind_ok (World.run_gameNumber_number n w),
    run_bind_ok (World.run_gameNumber_number n w')]
  exact h

/-- Both worlds hold the same game, or both have none of that number. -/
theorem heldGame {f : Held Game → Op γ} {g : Held Game → Op δ} (n : Int) (alike : Alike w w')
    (t : T w w') (hf : ∀ h h', Twin n w w' → SameHeld n h h' → Agree T S (f h) w (g h') w') :
    Agree T S (World.heldGame n >>= f) w (World.heldGame n >>= g) w' := by
  cases found : w.games.get? n with
  | error e =>
    cases hgames : w.games with
    | files _ => exact absurd (by rw [hgames]; trivial) alike.games.memory
    | memory t =>
      rw [hgames] at found
      exact nomatch found
  | ok stored =>
    have other := (alike.games.get? n).trans found
    cases stored with
    | none =>
      rw [Agree, run_bind_error (World.heldGame_of_none found),
        run_bind_error (World.heldGame_of_none other)]
      exact .inr ⟨t, .error _⟩
    | some game =>
      obtain ⟨h, hrun, hvalue⟩ := World.heldGame_of_get? found
      obtain ⟨h', hrun', hvalue'⟩ := World.heldGame_of_get? other
      obtain ⟨-, m, hm, place, -⟩ := World.run_heldGame hrun
      obtain ⟨-, m', hm', otherPlace, -⟩ := World.run_heldGame hrun'
      rw [World.run_gameNumber_number] at hm hm'
      obtain rfl : n = m := Except.ok.inj hm
      obtain rfl : n = m' := Except.ok.inj hm'
      obtain ⟨number, lasting⟩ := alike.games.lasting n game found
      rw [Agree, run_bind_ok hrun, run_bind_ok hrun']
      exact hf h h' ⟨alike, Games.has_of_get? found⟩
        ⟨hvalue'.trans hvalue.symm, hvalue ▸ number, place, otherPlace, hvalue ▸ lasting⟩

theorem game {f : Game → Op γ} {g : Game → Op δ} (n : Int) (alike : Alike w w') (t : T w w')
    (hf : ∀ found, Agree T S (f found) w (g found) w') :
    Agree T S (World.game n >>= f) w (World.game n >>= g) w' := by
  unfold World.game
  rw [bind_assoc, bind_assoc]
  refine heldGame n alike t fun h h' _ held => ?_
  rw [pure_bind, pure_bind, held.value]
  exact hf h.value

/-- A game that is stored again, in the place where it was. -/
theorem updateGame {h h' : Held Game} (twin : Twin id w w') (held : SameHeld id h h') :
    Agree (Twin id) (SameHeld id) (World.updateGame h) w (World.updateGame h') w' := by
  have number' : h'.value.id = some id := held.value ▸ held.number
  have natural := (twin.games.natural id twin.stored).1
  rcases World.run_updateGame number' held.otherPlace ((twin.games.has id).2 twin.stored) with
    ⟨k', games', hrun', value', place', puts', ids'⟩ | ⟨-, hrun'⟩
  · rcases World.run_updateGame held.number held.place twin.stored with
      ⟨k, games, hrun, value, place, puts, ids⟩ | ⟨filed, -⟩
    · rw [Agree, hrun, hrun']
      rw [held.value] at puts' value'
      have mirrors := twin.games.puts puts puts' held.number natural held.lasting
        (by rw [ids, ids', twin.games.ids]) (by rw [ids]; exact twin.games.next)
      refine .inr ⟨⟨twin.toAlike.rewrite mirrors, (puts.has id).2 (.inl rfl)⟩, .ok ?_⟩
      exact ⟨value'.trans value.symm, value ▸ held.number, place, place', value ▸ held.lasting⟩
    · exact absurd filed twin.games.memory
  · exact .inl (by rw [hrun'])

theorem log {h h' : Held Game} (twin : Twin id w w') (held : SameHeld id h h') (body : Body) :
    Agree (Twin id) (· = ·) (World.log h.value body) w (World.log h'.value body) w' := by
  have story : ((World.log h.value body).run w).2.story = w.story := by
    rw [World.run_log_some held.number]
    rfl
  obtain ⟨outcome, own, alike⟩ := twin.toAlike.apart (Apart.log h.value body) story
  rw [Agree, held.value, outcome]
  refine .inr ⟨⟨alike, own ▸ twin.stored⟩, ?_⟩
  cases ((World.log h.value body).run w).1 with
  | ok entry => exact .ok rfl
  | error e => exact .error e

theorem tick {f : Int → Op γ} {g : Int → Op δ} (alike : Alike w w')
    (hf : ∀ time clock, Agree T S (f time) { w with clock } (g time) { w' with clock }) :
    Agree T S (World.tick >>= f) w (World.tick >>= g) w' := by
  have clock : w'.clock = w.clock := (congrArg World.clock alike.same :)
  have hrun (u : World) :
      World.tick.run u = (.ok u.clock.tick.1, { u with clock := u.clock.tick.2 }) := rfl
  rw [Agree, run_bind_ok (hrun w), run_bind_ok (hrun w'), clock]
  exact hf _ _

theorem holding {x : Op α} {y : Op β} (alike : Alike w w') (timeout : Float) (n : Int)
    (h : ∀ locks, Agree Alike R x { w with locks } y { w' with locks }) :
    Agree Alike R (World.holding timeout n x) w (World.holding timeout n y) w' := by
  have locks : w'.locks = w.locks := (congrArg World.locks alike.same :)
  unfold World.holding
  rw [Agree, run_bind_ok (run_get w), run_bind_ok (run_get w'), run_bind, run_bind, run_ofExcept,
    run_ofExcept, locks]
  cases w.locks.hold timeout n with
  | error e => exact .inr ⟨alike, .error e⟩
  | ok taken =>
    rcases h taken with refused | ⟨after, similar⟩
    · exact .inl refused
    · have same : (y.run { w' with locks := taken }).2.locks =
          (x.run { w with locks := taken }).2.locks := (congrArg World.locks after.same :)
      generalize hx : x.run { w with locks := taken } = outcome at after similar same
      generalize hy : y.run { w' with locks := taken } = other at after similar same
      have released : Alike { outcome.2 with locks := outcome.2.locks.release n }
          { other.2 with locks := other.2.locks.release n } := by
        rw [same]
        exact after.locked _
      rw [← hx, ← hy] at released similar
      exact .inr ⟨released, similar⟩

theorem addGame {f : Held Game → Op γ} {g : Held Game → Op δ} (alike : Alike w w') {new : Game}
    (lasting : new.Lasting)
    (hf : ∀ h h' games games', Twin w.games.ids.next { w with games } { w' with games := games' } →
      SameHeld w.games.ids.next h h' →
      Agree Alike S (f h) { w with games } (g h') { w' with games := games' }) :
    Agree Alike S (Engine.addGame new >>= f) w (Engine.addGame new >>= g) w' := by
  have hassign : w.games.ids.assign .unset = .ok (w.games.ids.next, ⟨w.games.ids.next + 1⟩) := rfl
  have hassign' : w'.games.ids.assign .unset = .ok (w.games.ids.next, ⟨w.games.ids.next + 1⟩) := by
    rw [alike.games.ids]
    rfl
  have hadd (u : World) : (Engine.addGame new).run u =
      ((u.games.add .unset new).1, { u with games := (u.games.add .unset new).2 }) := rfl
  have natural := alike.games.next
  rcases Games.add_assigned hassign' new with
    ⟨h', games', hrun', value', place', puts', ids'⟩ | ⟨-, hrun'⟩
  · rcases Games.add_assigned hassign new with
      ⟨h, games, hrun, value, place, puts, ids⟩ | ⟨filed, -⟩
    · have stored : Game.Lasting { new with id := some w.games.ids.next } :=
        ⟨lasting.language, lasting.scalar, lasting.state⟩
      have mirrors := alike.games.puts puts puts' rfl natural stored (by rw [ids, ids'])
        (by rw [ids]; show 0 ≤ w.games.ids.next + 1; omega)
      have run : (Engine.addGame new).run w = (.ok h, { w with games }) := by rw [hadd, hrun]
      have run' : (Engine.addGame new).run w' = (.ok h', { w' with games := games' }) := by
        rw [hadd, hrun']
      rw [Agree, run_bind_ok run, run_bind_ok run']
      refine hf h h' games games' ⟨alike.rewrite mirrors, (puts.has _).2 (.inl rfl)⟩ ?_
      exact ⟨value'.trans value.symm, by rw [value], place, place', value ▸ stored⟩
    · exact absurd filed alike.games.memory
  · have refused : (Engine.addGame new).run w' = (.error .tooLongToWrite,
        { w' with games := w'.games.withIds ⟨w.games.ids.next + 1⟩ }) := by rw [hadd, hrun']
    exact .inl (by rw [run_bind_error refused])

theorem dropGame {f : PUnit → Op γ} {g : PUnit → Op δ} (alike : Alike w w') (n : Int)
    (hf : Alike (Authoring.dropGame w n) (Authoring.dropGame w' n) →
      Agree T S (f ⟨⟩) (Authoring.dropGame w n) (g ⟨⟩) (Authoring.dropGame w' n)) :
    Agree T S (modify (fun u => Authoring.dropGame u n) >>= f) w
      (modify (fun u => Authoring.dropGame u n) >>= g) w' :=
  hf (alike.dropGame n)

end Agree

end TextAdventure
