import TextAdventure.Proofs.Engine.Quiet
import TextAdventure.Proofs.Http.Sending
import Mathlib.Data.List.Forall2

/-! Replies to players. What the engine has done for a request stays done, whatever becomes of the
reply. The reply tells of it, unless a text in it holds a surrogate, and it carries the state of the
game as it is, unless a number in the state is not finite. -/

namespace TextAdventure.Http

open Op

variable {engine : Engine} {w : World}

/-! ### Turns -/

/-- What players ask for: a game that starts, a route that is taken, a game that recovers, one that
they look at, and one that ends. -/
inductive Turn where
  | start (adventure : Int) (language : Option Text)
  | take (game route : Int)
  | recover (game : Int)
  | show (game : Int)
  | finish (game : Int)

/-- What the engine gives for a turn. -/
inductive Told where
  | record (g : Game)
  | transcript (t : Transcript)
deriving DecidableEq

def Told.game : Told → Game
  | record g => g
  | transcript t => t.game

def Told.view : Told → Json
  | record g => gameView g
  | transcript t => transcriptView t

namespace Turn

def task : Turn → Task
  | start adventure language => .start adventure language
  | take game route => .take game route
  | recover game => .recover game
  | «show» game => .show game
  | finish game => .finish game

/-- The engine's part in a turn. -/
def call (engine : Engine) : Turn → Op Told
  | start adventure language => .transcript <$> engine.startGame adventure (optionalText language)
  | take game route => .transcript <$> engine.takeRoute game route
  | recover game => .record <$> engine.recoverGame game
  | «show» game => .record <$> World.game game
  | finish game => .transcript <$> engine.endGame game

/-- The status of the reply to a turn that is done. -/
def status : Turn → Nat
  | start .. => 201
  | _ => 200

theorem perform_task (engine : Engine) (turn : Turn) :
    perform engine turn.task = (fun told => (turn.status, told.view)) <$> turn.call engine := by
  have tells {α : Type} (op : Op α) (tell : α → Told) (status : Nat) :
      (do return (status, (tell (← op)).view) : Op (Nat × Json)) =
        (fun told => (status, told.view)) <$> tell <$> op := by
    rw [← comp_map]
    exact bind_pure_comp _ _
  cases turn with
  | start adventure language => exact tells _ .transcript 201
  | take game route => exact tells _ .transcript 200
  | recover game => exact tells _ .record 200
  | «show» game => exact tells _ .record 200
  | finish game => exact tells _ .transcript 200

end Turn

/-- The request is for a turn. -/
def Request.Asks (r : Request) (turn : Turn) : Prop :=
  ∃ resource, Resource.ofTarget? r.target = some resource ∧
    task? r r.method.toString.toUpper resource = some (.ok turn.task)

/-! ### Bodies -/

/-- The state in a body, which is that of a game or has a game in it. -/
def stateIn : Json → Option Json
  | .object fields =>
    match Fields.get? "game" fields with
    | some (.object game) => Fields.get? "state" game
    | _ => Fields.get? "state" fields
  | _ => none

/-- The body carries the state of a game as it is. -/
def Carries (body : Json) (g : Game) : Prop := stateIn body = some (.object g.state)

/-- All texts of what the engine gives can be sent: the language of the game, the texts of its
state, and the texts and the keys of the entries that are shown. -/
def Told.Clean (told : Told) : Prop :=
  told.game.language.Scalar ∧ (Json.object told.game.state).Encodable ∧
    match told with
    | record _ => True
    | transcript t => ∀ entry ∈ t.entries.zip t.texts,
        entry.2.Scalar ∧ ∀ key, entry.1.body.copyKey? = some key → key.Scalar

theorem stateIn_nulled (told : Told) :
    stateIn told.view.nulled = some (Json.object told.game.state).nulled := by
  cases told <;> rfl

@[simp] theorem encodable_optionalInt (n : Option Int) : (optionalInt n).Encodable := by
  cases n <;> simp [optionalInt]

@[simp] theorem encodable_optionalText {t : Option Text} :
    (optionalText t).Encodable ↔ ∀ text, t = some text → text.Scalar := by
  cases t <;> simp [optionalText]

/-- The names of the fields in bodies hold no surrogates. -/
theorem scalar_names : ∀ name ∈ (["id", "adventure_id", "location_id", "language",
    "location_update_timestamp", "completed", "needs_recovery", "state", "position", "text",
    "copy_key", "game", "contents"] : List Text), name.Scalar := by decide

theorem encodable_gameView (g : Game) :
    (gameView g).Encodable ↔ g.language.Scalar ∧ (Json.object g.state).Encodable := by
  have names := scalar_names
  rw [gameView, Json.encodable_object]
  simp only [List.forall_mem_cons] at names ⊢
  simp [names]

theorem encodable_entryView (position : Int) (text : Text) (copyKey : Option Text) :
    (entryView position text copyKey).Encodable ↔
      text.Scalar ∧ ∀ key, copyKey = some key → key.Scalar := by
  have names := scalar_names
  rw [entryView, Json.encodable_object]
  simp only [List.forall_mem_cons] at names ⊢
  simp [names]

theorem encodable_entriesView (entries : List Content) (texts : List Text) :
    (entriesView entries texts).Encodable ↔ ∀ entry ∈ entries.zip texts,
      entry.2.Scalar ∧ ∀ key, entry.1.body.copyKey? = some key → key.Scalar := by
  have zipped : entriesView entries texts = .list ((entries.zip texts).map fun entry =>
      entryView entry.1.position entry.2 entry.1.body.copyKey?) :=
    congrArg Json.list (List.map_uncurry_zip_eq_zipWith ..).symm
  rw [zipped, Json.encodable_list, List.forall_mem_map]
  exact forall₂_congr fun entry _ => encodable_entryView _ _ _

theorem encodable_view (told : Told) : told.view.Encodable ↔ told.Clean := by
  cases told with
  | record g => exact (encodable_gameView g).trans (by simp [Told.Clean, Told.game])
  | transcript t =>
    have names := scalar_names
    rw [Told.view, transcriptView, Json.encodable_object]
    simp only [List.forall_mem_cons] at names ⊢
    simp [names, encodable_gameView, encodable_entriesView, Told.Clean, Told.game, and_assoc]

/-! ### Replies -/

/-- How a turn is answered, in view of what the engine made of it. -/
structure Answers (turn : Turn) (outcome : Except Error Told) (answer : Except Error Response) :
    Prop where
  carried : ∀ told, outcome = .ok told →
    ((∃ body, answer = .ok (.reply turn.status body) ∧ Carries body told.game) ↔
      told.Clean ∧ (Json.object told.game.state).Finite)
  nulled : ∀ told, outcome = .ok told → told.Clean →
    answer = .ok (.reply turn.status told.view.nulled)
  lost : ∀ told, outcome = .ok told → ¬told.Clean → ∃ fault, answer = .error (.badReply fault)
  failed : ∀ e, outcome = .error e → ∀ status body, answer = .ok (.reply status body) → 400 ≤ status

/-- The reply that the outcome of a call is turned into. -/
def deliver (status : Nat) : Except Error Told → Except Error Response
  | .ok told =>
    match sent told.view with
    | .ok body => .ok (.reply status body)
    | .error fault => .error (.badReply fault)
  | .error e =>
    match status? e with
    | some status => errorReply status e.message
    | none => .error e

theorem carries_nulled (told : Told) :
    Carries told.view.nulled told.game ↔ (Json.object told.game.state).Finite := by
  rw [Carries, stateIn_nulled, Option.some.injEq, Json.nulled_eq_iff]

/-- The statuses that tell of errors. -/
theorem status_of_error {e : Error} {status : Nat} (h : status? e = some status) :
    400 ≤ status := by
  unfold status? at h
  split at h <;> cases h <;> decide

/-- What the engine gives is told with the state of the game, as far as its texts and numbers let
it. -/
theorem answers_told (turn : Turn) (told : Told) :
    Answers turn (.ok told) (deliver turn.status (.ok told)) := by
  rw [deliver]
  rcases sends told.view with ⟨encodable, result⟩ | ⟨bad, fault, result⟩ <;> rw [result]
  · have clean := (encodable_view told).1 encodable
    refine ⟨?_, ?_, ?_, nofun⟩
    · rintro _ ⟨⟩
      rw [and_iff_right clean, ← carries_nulled]
      refine ⟨?_, fun carries => ⟨_, rfl, carries⟩⟩
      rintro ⟨body, same, carries⟩
      obtain ⟨-, rfl⟩ := Response.reply.inj (Except.ok.inj same)
      exact carries
    · rintro _ ⟨⟩ -
      rfl
    · rintro _ ⟨⟩ dirty
      exact absurd clean dirty
  · have dirty : ¬told.Clean := fun clean => bad ((encodable_view told).2 clean)
    refine ⟨?_, ?_, ?_, nofun⟩
    · rintro _ ⟨⟩
      refine ⟨?_, fun h => absurd h.1 dirty⟩
      rintro ⟨body, same, -⟩
      exact nomatch same
    · rintro _ ⟨⟩ clean
      exact absurd clean dirty
    · rintro _ ⟨⟩ -
      exact ⟨fault, rfl⟩

theorem answers_error (turn : Turn) (e : Error) :
    Answers turn (.error e) (deliver turn.status (.error e)) := by
  refine ⟨nofun, nofun, nofun, ?_⟩
  rintro _ ⟨⟩ status body same
  rw [deliver] at same
  split at same
  · rename_i code told
    unfold errorReply at same
    dsimp only at same
    split at same
    · obtain ⟨rfl, -⟩ := Response.reply.inj (Except.ok.inj same)
      exact status_of_error told
    · exact nomatch same
  · exact nomatch same

theorem answers_deliver (turn : Turn) (outcome : Except Error Told) :
    Answers turn outcome (deliver turn.status outcome) := by
  cases outcome with
  | ok told => exact answers_told turn told
  | error e => exact answers_error turn e

/-- A request leaves what the engine's part in it leaves, whatever becomes of the reply. -/
theorem run_serve {r : Request} {turn : Turn} (asks : r.Asks turn) (engine : Engine) (w : World) :
    (serve engine r).run w =
      (deliver turn.status ((turn.call engine).run w).1, ((turn.call engine).run w).2) := by
  obtain ⟨resource, hresource, htask⟩ := asks
  have serves : (serve engine r).run w = (respond engine turn.task).run w := by
    unfold serve
    rw [hresource]
    dsimp only
    rw [htask]
  rw [serves, respond, run_of, Turn.perform_task, run_map]
  rcases (turn.call engine).run w with ⟨e | told, v⟩
  · show (match status? e with
      | some status => (errorReply status e.message, v)
      | none => (.error e, v)) = (deliver turn.status (.error e), v)
    rw [deliver]
    cases status? e <;> rfl
  · show (match sent told.view with
      | .ok body => (.ok (.reply turn.status body), v)
      | .error fault => (.error (.badReply fault), v)) = (deliver turn.status (.ok told), v)
    rw [deliver]
    cases sent told.view <;> rfl

/-! ### Sequences of requests -/

/-- Serves requests one after another. Gives the answers and the world that is left. -/
def serveAll (engine : Engine) : World → List Request → List (Except Error Response) × World
  | w, [] => ([], w)
  | w, r :: rest =>
    let (answer, v) := (serve engine r).run w
    let (answers, u) := serveAll engine v rest
    (answer :: answers, u)

/-- Takes turns one after another. Gives the turns with their outcomes, and the world that is
left. -/
def callAll (engine : Engine) : World → List Turn → List (Turn × Except Error Told) × World
  | w, [] => ([], w)
  | w, turn :: rest =>
    let (outcome, v) := (turn.call engine).run w
    let (outcomes, u) := callAll engine v rest
    ((turn, outcome) :: outcomes, u)

theorem serveAll_eq {requests : List Request} {turns : List Turn}
    (asks : List.Forall₂ Request.Asks requests turns) (engine : Engine) (w : World) :
    serveAll engine w requests =
      ((callAll engine w turns).1.map fun call => deliver call.1.status call.2,
        (callAll engine w turns).2) := by
  induction asks generalizing w with
  | nil => rfl
  | cons asks _ ih =>
    rw [serveAll, run_serve asks engine w]
    dsimp only
    rw [ih]
    rfl

/-- However players go on, the engine does what they ask for as if no replies were sent. What it has
done for a request is answered with the state of the game, unless a surrogate stands in a text or a
number in the state is not finite. Numbers that are not finite are told as null; a surrogate ends
the request in an error. -/
theorem serveAll_answers {requests : List Request} {turns : List Turn}
    (asks : List.Forall₂ Request.Asks requests turns) (engine : Engine) (w : World) :
    (serveAll engine w requests).2 = (callAll engine w turns).2 ∧
      List.Forall₂ (fun call answer => Answers call.1 call.2 answer) (callAll engine w turns).1
        (serveAll engine w requests).1 := by
  rw [serveAll_eq asks]
  refine ⟨rfl, ?_⟩
  refine List.forall₂_map_right_iff.2 (List.forall₂_same.2 ?_)
  exact fun call _ => answers_deliver call.1 call.2

/-- An engine whose scripts store half of a surrogate pair. -/
def muttering : Engine :=
  { runtime := some fun _ => .ask (.setState (.text "word") (.text [CodePoint.ofNat 0xD800]))
      fun _ => .done (.result .null) }

/-- A game starts, its player takes the route and looks at the game: the last two requests end in
errors, though the route was taken. -/
theorem serveAll_answers_lane :
    let w := World.lane (.memory {})
    let requests : List Request :=
      [{ method := "POST", target := { path := "/api/adventures/1/games", query := [] } },
        { method := "POST", target := { path := "/api/games/1/routes/1", query := [] } },
        { method := "GET", target := { path := "/api/games/1", query := [] } }]
    let turns : List Turn := [.start 1 none, .take 1 1, .show 1]
    (serveAll muttering w requests).1.map Except.toBool = [true, false, false] ∧
      (callAll muttering w turns).1.map (·.2.toBool) = [true, true, true] ∧
      (serveAll muttering w requests).2 = (callAll muttering w turns).2 ∧
      List.Forall₂ (fun call answer => Answers call.1 call.2 answer) (callAll muttering w turns).1
        (serveAll muttering w requests).1 := by
  intro w requests turns
  have asks : List.Forall₂ Request.Asks requests turns :=
    .cons ⟨.games "1", by decide +kernel, by decide +kernel⟩ <|
      .cons ⟨.route "1" "1", by decide +kernel, by decide +kernel⟩ <|
        .cons ⟨.game "1", by decide +kernel, by decide +kernel⟩ .nil
  exact ⟨by decide +kernel, by decide +kernel, serveAll_answers asks muttering w⟩

end TextAdventure.Http
