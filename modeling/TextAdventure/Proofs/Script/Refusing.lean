import TextAdventure.Proofs.Script.Raising
import TextAdventure.Script.Stage

/-! What scripts are refused where they are played. A place that only objects to what it is given
refuses a script nothing for another reason. -/

namespace TextAdventure

/-- Whatever fails in the place fails because of what it was given. -/
structure Place.Objects {σ : Type} (place : Place σ) : Prop where
  log : ∀ game body around e, (place.log game body around).1 = .error e → e.isArgument = true
  lookUp : ∀ game key around e, place.lookUp game key around = .error e → e.isArgument = true

theorem Request.Refuses.mono {P P' : Error → Prop} {request : Request} {reply : request.Reply}
    (h : request.Refuses P reply) (weaker : ∀ e, P e → P' e) : request.Refuses P' reply := by
  cases request with
  | emit | emitCopy | setState | getState | lookUp => exact fun e refused => weaker e (h e refused)
  | replaceState | bearings => trivial

namespace Stage

variable {σ : Type} {place : Place σ} (objects : place.Objects) (s : Stage σ)

include objects in
theorem display_objects (body : Body) {e : Error} (h : (s.display place body).1 = .error e) :
    e.isArgument = true := by
  have logged := objects.log s.game body s.around
  unfold display at h
  split at h
  · exact nomatch h
  · rename_i e' around failed
    obtain rfl := Except.error.inj h
    exact logged _ (by rw [failed])

theorem getState_objects {key : Json} {e : Error} (h : s.getState key = .error e) :
    e.isArgument = true := by
  unfold getState at h
  split at h <;> cases h <;> rfl

theorem setState_objects {key value : Json} {e : Error} (h : (s.setState key value).1 = .error e) :
    e.isArgument = true := by
  unfold setState at h
  split at h
  · cases h
    rfl
  · split at h
    · exact nomatch h
    · split at h <;> cases h
      rfl
  · cases h
    rfl

include objects in
/-- What a script is refused, it is refused because of what it has handed over. -/
theorem answer_objects (request : Request) :
    request.Refuses (·.isArgument = true) (s.answer place request).1 := by
  cases request with
  | emit text =>
    intro e h
    cases text with
    | text t => exact s.display_objects objects _ h
    | _ =>
      cases h
      rfl
  | emitCopy key =>
    intro e h
    change (s.emitCopy place key).1 = .error e at h
    unfold emitCopy at h
    split at h
    · split at h
      · cases h
        rfl
      · exact s.display_objects objects _ h
    · cases h
      rfl
  | getState key => exact fun e => s.getState_objects
  | setState key value => exact fun e => s.setState_objects
  | lookUp key => exact fun e => objects.lookUp s.game key s.around e
  | replaceState | bearings => trivial

end Stage

namespace Play

variable {σ : Type} {place : Place σ} {host : Json → Stage σ → Json × Stage σ} {s : Stage σ}
  {P : Error → Prop}
  (refuses : ∀ (s : Stage σ) (request : Request), request.Refuses P (s.answer place request).1)
include refuses

/-- Step by step, a script meets no errors but those that `P` knows. It comes to what it leads to. -/
theorem LeadsTo.run {α : Type} {Q : α → Prop} {play : Play α} (h : play.LeadsTo P Q) :
    Q (play.run place host s).1 := by
  induction play generalizing s with
  | done a => exact h
  | ask request next ih => exact ih _ (h _ (refuses s request))
  | call request next ih => exact h.elim

/-- Step by step, a script meets no errors but those that `P` knows, and so it raises no others. -/
theorem Raises.run {play : Play Ending} (h : play.Raises P) {e : Error}
    (ended : (play.run place host s).1 = .raised e) : P e := by
  induction play generalizing s with
  | done ending => exact h e ended
  | ask request next ih => exact ih _ (h _ (refuses s request)) ended
  | call request next ih => exact ih _ (h _) ended

end Play

end TextAdventure
