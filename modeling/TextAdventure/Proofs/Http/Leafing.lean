import TextAdventure.Proofs.Engine.Logs
import TextAdventure.Proofs.Engine.Numbering
import TextAdventure.Proofs.Http.Answering
import TextAdventure.Proofs.Store.Paging

/-! The ways of reading a log agree. Pages are parts of the log, single entries stand at their places
in it, and over HTTP come the same positions, texts and copy keys, as long as they hold no surrogates. -/

namespace TextAdventure

open Op

variable {engine : Engine} {w : World} {game : Int} {g : Game}

namespace Op

/-- Reading one thing after another in the world as it is. -/
theorem run_mapM {α β : Type} {f : α → Op β} {r : α → β} (each : ∀ a, (f a).run w = (.ok (r a), w))
    (l : List α) : (l.mapM f).run w = (.ok (l.map r), w) := by
  induction l with
  | nil => rfl
  | cons a rest ih =>
    rw [List.mapM_cons, run_bind_ok (each a), run_bind_ok ih]
    rfl

end Op

/-! ### Logs as they are shown -/

/-- An entry with the text that it shows. -/
abbrev Shown := Content × Text

/-- The log of a game, shown in a language. -/
def Engine.shownLog (engine : Engine) (w : World) (game : Int) (language : Text) : List Shown :=
  (w.journal.entries game).map fun entry =>
    (entry, entry.shownText engine.lookup w.copies language)

namespace Engine

theorem shownLog_entries (engine : Engine) (w : World) (game : Int) (language : Text) :
    (engine.shownLog w game language).map (·.1) = w.journal.entries game := by
  rw [shownLog, List.map_map]
  exact List.map_id _

theorem run_game (found : w.games.get? game = .ok (some g)) :
    (World.game game).run w = (.ok g, w) := by rw [World.run_game_eq, found]

section Reading

variable (found : w.games.get? game = .ok (some g)) (numbered : w.journal.Numbered)
include found

theorem run_shown : (engine.transcript game).run w =
    (.ok ((engine.shownLog w game g.language).map (·.2)), w) := by
  rw [run_transcript found, shownLog, List.map_map]
  rfl

include numbered

theorem run_page (start : Nat) (limit : Option Nat) :
    (contents game start (limit.map Int.ofNat)).run w =
      (.ok (Journal.upTo limit ((w.journal.entries game).drop start)), w) := by
  unfold contents
  rw [run_bind_ok (run_game found), run_bind_ok (run_get w),
    run_bind_ok (World.run_gameNumber_number game w), run_ofExcept, numbered.slice]

theorem run_textAt (place : Nat) (entry : Content)
    (here : (w.journal.entries game)[place]? = some entry) :
    (engine.textAt game (place : Int)).run w =
      (.ok (entry.shownText engine.lookup w.copies g.language), w) := by
  have read : ((place : Int) : Identifier).key?.bind (w.journal.get? game) = some entry :=
    (numbered.get?_nat game place).trans here
  unfold textAt
  rw [run_bind_ok (run_game found), run_bind_ok (World.run_gameNumber_number game w),
    run_bind_ok (run_get w), read]
  rfl

omit numbered in
theorem run_textAt_none {position : Int} (none : w.journal.get? game position = none) :
    (engine.textAt game position).run w =
      (.error (.notFound .content (.name (Text.ofInt game ++ ":" ++ Text.ofInt position))), w) := by
  have read : (position : Identifier).key?.bind (w.journal.get? game) = .none := none
  unfold textAt
  rw [run_bind_ok (run_game found), run_bind_ok (World.run_gameNumber_number game w),
    run_bind_ok (run_get w), read]
  rfl

end Reading

end Engine

theorem Journal.Numbered.get?_outside {j : Journal} (numbered : j.Numbered) {position : Int}
    (outside : position < 0 ∨ (j.entries game).length ≤ position) :
    j.get? game position = none := by
  rcases outside with neg | past
  · exact numbered.get?_neg game neg
  · obtain ⟨place, rfl⟩ := Int.eq_ofNat_of_zero_le (by omega : 0 ≤ position)
    exact (numbered.get?_nat game place).trans (List.getElem?_eq_none (Int.ofNat_le.1 past))

/-! ### Over HTTP -/

namespace Http

/-- The request is for a task. -/
def Request.Poses (r : Request) (task : Task) : Prop :=
  ∃ resource, Resource.ofTarget? r.target = some resource ∧
    task? r r.method.toString.toUpper resource = some (.ok task)

theorem run_serve_poses {r : Request} {task : Task} (poses : r.Poses task) (engine : Engine)
    (w : World) : (serve engine r).run w = (respond engine task).run w := by
  obtain ⟨resource, hresource, htask⟩ := poses
  unfold serve
  rw [hresource]
  dsimp only
  rw [htask]

def shownView (s : Shown) : Json := entryView s.1.position s.2 s.1.body.copyKey?

def pageView (game start : Int) (limit : Option Int) (page : List Shown) : Json := .object
  [("game_id", .int game), ("start", .int start), ("limit", optionalInt limit),
    ("data", .list (page.map shownView))]

/-- What is shown can be sent: no text and no key holds a surrogate. -/
def Sendable (page : List Shown) : Prop :=
  ∀ s ∈ page, s.2.Scalar ∧ ∀ key, s.1.body.copyKey? = some key → key.Scalar

theorem encodable_pageView (game start : Int) (limit : Option Int) (page : List Shown) :
    (pageView game start limit page).Encodable ↔ Sendable page := by
  have names : ∀ name ∈ (["game_id", "start", "limit", "data"] : List Text), name.Scalar := by
    decide
  rw [pageView, Json.encodable_object]
  simp only [List.forall_mem_cons] at names ⊢
  simp only [names, Json.encodable_int, encodable_optionalInt, Json.encodable_list,
    List.forall_mem_map, true_and, List.not_mem_nil, false_implies, implies_true, and_true]
  exact forall₂_congr fun s _ => encodable_entryView _ _ _

theorem encodable_shownView (s : Shown) : (shownView s).Encodable ↔ Sendable [s] :=
  (encodable_entryView _ _ _).trans (by simp [Sendable])

/-- Entries hold no floating point numbers. -/
theorem finite_shownView (s : Shown) : (shownView s).Finite := by
  have key (t : Option Text) : (optionalText t).Finite := by
    cases t with
    | none => exact .null
    | some t => exact .text trivial
  refine Json.all_object_iff.2 ?_
  simp only [List.forall_mem_cons, true_and]
  exact ⟨.int _, .text trivial, key _, nofun⟩

theorem finite_pageView (game start : Int) (limit : Option Int) (page : List Shown) :
    (pageView game start limit page).Finite := by
  have cut (n : Option Int) : (optionalInt n).Finite := by
    cases n with
    | none => exact .null
    | some n => exact .int n
  refine Json.all_object_iff.2 ?_
  simp only [List.forall_mem_cons, true_and]
  refine ⟨.int _, .int _, cut _, .list ?_, nofun⟩
  exact List.forall_mem_map.2 fun s _ => finite_shownView s

/-- The reply is this body, if what it shows can be sent, and an error otherwise. The world stays as
it is. -/
structure Delivers (served : Except Error Response × World) (w : World) (page : List Shown)
    (body : Json) : Prop where
  sent : Sendable page → served = (.ok (.reply 200 body), w)
  lost : ¬Sendable page → ∃ fault, served = (.error (.badReply fault), w)

theorem delivers {task : Task} {page : List Shown} {body : Json}
    (performed : (perform engine task).run w = (.ok (200, body), w))
    (finite : body.Finite) (sendable : body.Encodable ↔ Sendable page) {r : Request}
    (poses : r.Poses task) : Delivers ((serve engine r).run w) w page body := by
  rw [run_serve_poses poses, respond, run_of, performed]
  dsimp only
  rcases sends body with ⟨encodable, result⟩ | ⟨bad, fault, result⟩ <;> rw [result]
  · refine ⟨fun _ => ?_, fun dirty => absurd (sendable.1 encodable) dirty⟩
    rw [(Json.nulled_eq_iff body).2 finite]
  · exact ⟨fun clean => absurd (sendable.2 clean) bad, fun _ => ⟨fault, rfl⟩⟩

/-- An error in plain words is told as it is. -/
theorem errorReply_plain (status : Nat) {text : Text} (plain : Json.Plain text) :
    errorReply status text = .ok (detail status text) := by
  have escaped : Json.Plain (text.flatMap fun c => if c.val < 128 then Json.escape c else [c]) := by
    intro c hc
    obtain ⟨d, hd, hc⟩ := List.mem_flatMap.1 hc
    rw [if_pos (Nat.lt_trans (plain d hd).2 (by decide))] at hc
    exact Json.plain_escape d c hc
  have opening : Json.Plain ("\x7b\"detail\":\"" : Text) := by decide
  have closing : Json.Plain ("\"\x7d" : Text) := by decide
  have scalar := ((opening.append escaped).append closing).scalar
  rcases checkText_cases _ with ⟨-, checked⟩ | ⟨bad, -⟩
  · unfold errorReply
    dsimp only
    rw [checked]
  · exact absurd scalar bad

/-- The words for an entry that is not there. -/
def missing (game position : Int) : Text :=
  "content '" ++ (Text.ofInt game ++ ":" ++ Text.ofInt position) ++ "' does not exist"

theorem plain_missing (game position : Int) : Json.Plain (missing game position) := by
  have opening : Json.Plain ("content '" : Text) := by decide
  have colon : Json.Plain (":" : Text) := by decide
  have closing : Json.Plain ("' does not exist" : Text) := by decide
  have place := ((Json.plain_ofInt game).append colon).append (Json.plain_ofInt position)
  exact (opening.append place).append closing

section Serving

variable (found : w.games.get? game = .ok (some g)) (numbered : w.journal.Numbered)
include found numbered

theorem perform_contents (start : Nat) (limit : Option Nat) :
    (perform engine (.contents game start (limit.map Int.ofNat))).run w =
      (.ok (200, pageView game start (limit.map Int.ofNat)
        (Journal.upTo limit ((engine.shownLog w game g.language).drop start))), w) := by
  have texts (entries : List Content) : (engine.texts entries g.language).run w =
      (.ok (entries.map fun e => e.shownText engine.lookup w.copies g.language), w) := rfl
  unfold perform
  rw [run_bind_ok (Engine.run_game found), run_bind_ok (Engine.run_page found numbered start limit),
    run_bind_ok (texts _), run_pure, Engine.shownLog, ← List.map_drop, Journal.upTo_map]
  unfold pageView entriesView
  rw [List.zipWith_map_right, List.zipWith_self, List.map_map]
  rfl

theorem perform_content (place : Nat) (entry : Content)
    (here : (w.journal.entries game)[place]? = some entry) :
    (perform engine (.content game place)).run w =
      (.ok (200, shownView (entry, entry.shownText engine.lookup w.copies g.language)), w) := by
  have read : w.journal.get? game place = some entry := (numbered.get?_nat game place).trans here
  have position : (place : Int) = entry.position := by
    have holds := List.find?_some read
    exact (of_decide_eq_true holds).symm
  unfold perform
  rw [run_bind_ok (Engine.run_textAt found numbered place entry here), run_bind_ok (run_get w), read]
  rw [run_pure, shownView, position]
  rfl

theorem serve_missing {position : Int}
    (outside : position < 0 ∨ (w.journal.entries game).length ≤ position) {r : Request}
    (poses : r.Poses (.content game position)) :
    (serve engine r).run w = (.ok (detail 404 (missing game position)), w) := by
  have absent : (engine.textAt game position).run w = _ :=
    Engine.run_textAt_none found (numbered.get?_outside outside)
  have performed : (perform engine (.content game position)).run w = _ := run_bind_error absent
  rw [run_serve_poses poses, respond, run_of, performed]
  show (errorReply 404 (missing game position), w) = _
  rw [errorReply_plain 404 (plain_missing game position)]

end Serving

end Http

/-! ### Agreement -/

/-- All ways of reading the log of a game give the same: the log, its texts, any part of it from a
place on, its pages put together, and single texts by their places; and over HTTP its pages and
entries, unless a surrogate stands in what is shown. -/
structure Recounts (engine : Engine) (w : World) (game : Int) (log : List Shown) : Prop where
  transcript : (engine.transcript game).run w = (.ok (log.map (·.2)), w)
  contents : ∀ (start : Nat) (limit : Option Nat),
    (Engine.contents game start (limit.map Int.ofNat)).run w =
      (.ok ((Journal.upTo limit (log.drop start)).map (·.1)), w)
  pages : ∀ size count : Nat, log.length ≤ count * size → ∃ pages,
    ((List.range count).mapM fun page : Nat =>
      Engine.contents game (page * size : Nat) (some (size : Int))).run w = (.ok pages, w) ∧
    pages.flatten = log.map (·.1)
  textAt : ∀ (place : Nat) (inside : place < log.length),
    (engine.textAt game (place : Int)).run w = (.ok log[place].2, w)
  outside : ∀ position : Int, position < 0 ∨ log.length ≤ position →
    (engine.textAt game position).run w =
      (.error (.notFound .content (.name (Text.ofInt game ++ ":" ++ Text.ofInt position))), w)
  served : ∀ (start : Nat) (limit : Option Nat) (r : Http.Request),
    r.Poses (.contents game start (limit.map Int.ofNat)) →
    let page := Journal.upTo limit (log.drop start)
    Http.Delivers ((Http.serve engine r).run w) w page
      (Http.pageView game start (limit.map Int.ofNat) page)
  servedAt : ∀ (place : Nat) (inside : place < log.length) (r : Http.Request),
    r.Poses (.content game place) →
    Http.Delivers ((Http.serve engine r).run w) w [log[place]] (Http.shownView log[place])
  servedOutside : ∀ (position : Int), position < 0 ∨ log.length ≤ position → ∀ r : Http.Request,
    r.Poses (.content game position) →
    (Http.serve engine r).run w = (.ok (Http.detail 404 (Http.missing game position)), w)

theorem recounts (found : w.games.get? game = .ok (some g)) (numbered : w.journal.Numbered) :
    Recounts engine w game (engine.shownLog w game g.language) := by
  have entries := engine.shownLog_entries w game g.language
  have length : (engine.shownLog w game g.language).length = (w.journal.entries game).length :=
    List.length_map _
  have at_place (place : Nat) (inside : place < (engine.shownLog w game g.language).length) :
      ∃ entry, (w.journal.entries game)[place]? = some entry ∧
        (engine.shownLog w game g.language)[place] =
          (entry, entry.shownText engine.lookup w.copies g.language) :=
    ⟨_, List.getElem?_eq_getElem (length ▸ inside), List.getElem_map _⟩
  have part (start : Nat) (limit : Option Nat) :
      (Journal.upTo limit ((engine.shownLog w game g.language).drop start)).map (·.1) =
        Journal.upTo limit ((w.journal.entries game).drop start) := by
    rw [← Journal.upTo_map, List.map_drop, entries]
  refine ⟨Engine.run_shown found, fun start limit => ?_, fun size count covers => ?_,
    fun place inside => ?_, fun position outside => ?_, fun start limit r poses => ?_,
    fun place inside r poses => ?_, fun position outside r poses => ?_⟩
  · rw [Engine.run_page found numbered, part]
  · refine ⟨_, run_mapM (fun page => Engine.run_page found numbered (page * size) (some size)) _, ?_⟩
    show ((List.range count).map fun page =>
      ((w.journal.entries game).drop (page * size)).take size).flatten = _
    rw [Journal.take_pages, List.take_of_length_le (length ▸ covers), entries]
  · obtain ⟨entry, here, shown⟩ := at_place place inside
    rw [shown]
    exact Engine.run_textAt found numbered place entry here
  · rw [length] at outside
    exact Engine.run_textAt_none found (numbered.get?_outside outside)
  · exact Http.delivers (Http.perform_contents found numbered start limit)
      (Http.finite_pageView _ _ _ _) (Http.encodable_pageView _ _ _ _) poses
  · obtain ⟨entry, here, shown⟩ := at_place place inside
    rw [shown]
    exact Http.delivers (Http.perform_content found numbered place entry here)
      (Http.finite_shownView _) (Http.encodable_shownView _) poses
  · rw [length] at outside
    exact Http.serve_missing found numbered outside poses

/-- In every run that starts with empty logs, whatever scripts do and however deep the actions nest
that they call for, all ways of reading the log of a stored game agree. -/
theorem Engine.readings_agree (engine : Engine) (read : Json → Action)
    (write : World → Except Error Answer → World → Json) (depth : Nat) (w : World)
    (actions : List Action) :
    ∀ w' ∈ (engine.nested read write depth).worlds { w with journal := {} } actions,
      ∀ game g, w'.games.get? game = .ok (some g) →
        Recounts (engine.nested read write depth) w' game
          ((engine.nested read write depth).shownLog w' game g.language) := by
  intro w' h game g found
  have each (a : Action) : Follows (Numbers write) (a.perform (engine.nested read write depth)) :=
    a.numbers (engine.nested_numbers read depth)
  have numbers : Numbers write { w with journal := {} } w' := worlds_follow Numbers.chains each h
  exact recounts found ((Journal.numbered_empty {}).moves numbers.moves)

/-- A word is said on the way down the lane, and its player asks for one entry of the log. -/
theorem Engine.readings_agree_lane :
    let engine := Engine.reciting.nested (fun _ => .getGame (1 : Int)) (fun _ _ _ => .null) 1
    let left := engine.left { World.lane (.memory {}) with journal := {} }
      [.startGame (1 : Int) .null, .takeRoute (1 : Int) (1 : Int)]
    let page : Http.Request :=
      { method := "GET", target := { path := "/api/games/1/contents", query := [("limit", "1")] } }
    page.Poses (.contents 1 0 (some 1)) ∧
      ∃ g, left.games.get? 1 = .ok (some g) ∧
        (engine.shownLog left 1 g.language).map (·.2) = ["Onward."] ∧
        Recounts engine left 1 (engine.shownLog left 1 g.language) := by
  intro engine left page
  have stored : ((left.games.get? 1).toOption.join.map (·.language)) = some "en" := by
    decide +kernel
  have said : (engine.shownLog left 1 "en").map (·.2) = ["Onward."] := by decide +kernel
  obtain ⟨g, found, language⟩ : ∃ g, left.games.get? 1 = .ok (some g) ∧ g.language = "en" := by
    rcases hread : left.games.get? 1 with e | _ | g <;> rw [hread] at stored
    · exact nomatch stored
    · exact nomatch stored
    · exact ⟨g, rfl, Option.some.inj stored⟩
  refine ⟨⟨.contents "1", by decide +kernel, by decide +kernel⟩, g, found, ?_, ?_⟩
  · rw [language]
    exact said
  · exact readings_agree _ _ _ 1 (World.lane (.memory {})) _ _ (left_mem_worlds _ _ _) 1 g found

end TextAdventure
