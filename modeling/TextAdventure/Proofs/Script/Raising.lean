import TextAdventure.Script.Play

/-! What scripts come to that meet errors where their game refuses something. Such a script may raise
what it has met, and other errors that are its own. -/

namespace TextAdventure

/-- A request that is refused is refused with an error that `P` knows. -/
def Request.Refuses (P : Error → Prop) : (request : Request) → request.Reply → Prop
  | .emit _, reply | .emitCopy _, reply | .setState _ _, reply => ∀ e, reply = .error e → P e
  | .getState _, reply => ∀ e, reply = .error e → P e
  | .lookUp _, reply => ∀ e, reply = .error e → P e
  | _, _ => True

theorem Request.refuses_any {P : Error → Prop} (all : ∀ e, P e) (request : Request)
    (reply : request.Reply) : request.Refuses P reply := by
  cases request with
  | emit | emitCopy | setState | getState | lookUp => exact fun e _ => all e
  | replaceState | bearings => trivial

namespace Play

variable {α β : Type} {P : Error → Prop} {Q : α → Prop} {R : β → Prop}

/-- A script that raises no errors but those that `P` knows, as long as it meets no others. -/
def Raises (P : Error → Prop) : Play Ending → Prop
  | .done ending => ∀ e, ending = .raised e → P e
  | .ask request next => ∀ reply, request.Refuses P reply → (next reply).Raises P
  | .call _ next => ∀ reply, (next reply).Raises P

/-- A script that leaves the host alone, and comes to something of which `Q` holds, as long as it meets
no errors but those that `P` knows. -/
def LeadsTo (P : Error → Prop) (Q : α → Prop) : Play α → Prop
  | .done a => Q a
  | .ask request next => ∀ reply, request.Refuses P reply → (next reply).LeadsTo P Q
  | .call _ _ => False

theorem LeadsTo.bind {p : Play α} {f : α → Play β} (h : p.LeadsTo P Q)
    (hf : ∀ a, Q a → (f a).LeadsTo P R) : (p.bind f).LeadsTo P R := by
  induction p with
  | done a => exact hf a h
  | ask request next ih => exact fun reply refuses => ih reply (h reply refuses)
  | call request next ih => exact h.elim

theorem LeadsTo.quiet {p : Play α} (h : p.LeadsTo (fun _ => True) Q) : p.Quiet := by
  induction p with
  | done a => trivial
  | ask request next ih =>
    exact fun reply => ih reply (h reply (request.refuses_any (fun _ => trivial) reply))
  | call request next ih => exact h

theorem LeadsTo.raises {p : Play Ending}
    (h : p.LeadsTo P fun ending => ∀ e, ending = .raised e → P e) : p.Raises P := by
  induction p with
  | done ending => exact h
  | ask request next ih => exact fun reply refuses => ih reply (h reply refuses)
  | call request next ih => exact h.elim

end Play

end TextAdventure
