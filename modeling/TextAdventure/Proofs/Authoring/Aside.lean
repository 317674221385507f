import TextAdventure.Proofs.Actions

/-! Authoring goes on aside from playing: the operations of an author, and those of a host that holds
games, leave games, logs, languages and replies as they are. Removals with games are apart. -/

namespace TextAdventure

open Op

namespace Op.Follows

variable {T : World → World → Prop} (chains : Chains T)
include chains

/-- Registering a language changes the languages alone. -/
theorem addLanguage (languages : ∀ (w : World) languages, T w { w with languages })
    (claim : Claim) (language : Language) : Follows T (Op.addLanguage claim language) :=
  .bind chains (ReadOnly.get.follows chains) fun _ =>
    .bind chains ((ReadOnly.ofExcept _).follows chains) fun _ =>
    .bind chains (fun w => languages w _) fun _ => (ReadOnly.pure _).follows chains

/-- The host that takes hold of a game changes the locks alone. -/
theorem holdFor (locks : ∀ (w : World) locks, T w { w with locks }) (timeout : Float) (game : Int) :
    Follows T (Op.holdFor timeout game) :=
  .bind chains (ReadOnly.get.follows chains) fun _ =>
    .bind chains ((ReadOnly.ofExcept _).follows chains) fun _ w => locks w _

/-- An entry that is appended is logged, if anything is done at all. -/
theorem append {game : Game} (log : ∀ body, Follows T (World.log game body))
    (copyKey text : Option Text) : Follows T (Engine.append game copyKey text) := by
  have logged : Follows T (do World.log game (← Op.ofExcept (Body.ofParts copyKey text))) :=
    .bind chains ((ReadOnly.ofExcept _).follows chains) fun _ => log _
  exact .ite (.bind chains ((ReadOnly.throw _).follows chains) fun _ => logged) logged

end Op.Follows

/-- A relation between worlds that does not see what authors write. -/
structure Op.Overlooks (T : World → World → Prop) : Prop extends Chains T where
  written : ∀ (w : World) adventures locations routes scripts includes copies,
    T w { w with adventures, locations, routes, scripts, includes, copies }

namespace Op.Overlooks

variable {T : World → World → Prop} (overlooks : Overlooks T)
include overlooks

theorem addTo {α : Type} (table : World → Table α) {put : Table α → World → World}
    (kept : ∀ t w, T w (put t w)) (claim : Claim) (value : α) :
    Follows T (Op.addTo table put claim value) :=
  .bind overlooks.toChains (ReadOnly.get.follows overlooks.toChains) fun _ =>
    .bind overlooks.toChains ((ReadOnly.ofExcept _).follows overlooks.toChains) fun _ =>
    .bind overlooks.toChains (fun w => kept _ w) fun _ =>
    (ReadOnly.pure _).follows overlooks.toChains

theorem addCopy (claim : Claim) (copy : Copy) : Follows T (Authoring.addCopy claim copy) :=
  .bind overlooks.toChains (ReadOnly.get.follows overlooks.toChains) fun _ =>
    .bind overlooks.toChains ((ReadOnly.ofExcept _).follows overlooks.toChains) fun _ =>
    .bind overlooks.toChains (fun w => overlooks.written w _ _ _ _ _ _) fun _ =>
    (ReadOnly.pure _).follows overlooks.toChains

theorem updateCopy (key language text : Text) :
    Follows T (Authoring.updateCopy key language text) := by
  refine .bind overlooks.toChains (ReadOnly.get.follows overlooks.toChains) fun _ => ?_
  split
  · exact (ReadOnly.throw _).follows overlooks.toChains
  · exact .bind overlooks.toChains (fun w => overlooks.written w _ _ _ _ _ _) fun _ =>
      (ReadOnly.pure _).follows overlooks.toChains

theorem addInclude (outer inner : Identifier) (order : Int) :
    Follows T (Authoring.addInclude outer inner order) := by
  have readOnly {α : Type} {op : Op α} (h : ReadOnly op) : Follows T op :=
    h.follows overlooks.toChains
  refine .bind overlooks.toChains (readOnly (.script _)) fun _ =>
    .bind overlooks.toChains (readOnly (.script _)) fun _ =>
    .bind overlooks.toChains (readOnly (.number _ _)) fun _ =>
    .bind overlooks.toChains (readOnly (.number _ _)) fun _ =>
    .bind overlooks.toChains (readOnly .get) fun _ =>
    .ite (readOnly (.throw _)) <| .ite (readOnly (.throw _)) <| .ite (readOnly (.throw _)) ?_
  exact .bind overlooks.toChains (fun w => overlooks.written w _ _ _ _ _ _) fun _ =>
    readOnly (.pure _)

theorem removeScript (script : Identifier) : Follows T (Authoring.removeScript script) :=
  .bind overlooks.toChains ((ReadOnly.script _).follows overlooks.toChains) fun _ =>
    .bind overlooks.toChains ((ReadOnly.number _ _).follows overlooks.toChains) fun _ w =>
    overlooks.written w _ _ _ _ _ _

end Op.Overlooks

/-- What authors do other than removing games. -/
def Action.IsWriting : Action → Prop
  | .addInclude .. | .removeScript .. | .addAdventure .. | .addLocation .. | .addRoute .. | .addScript ..
  | .addCopy .. | .updateCopy .. => True
  | _ => False

theorem Action.writing {engine : Engine} {T : World → World → Prop} (overlooks : Overlooks T)
    {a : Action} (h : a.IsWriting) : Follows T (a.perform engine) := by
  cases a with
  | addInclude outer inner order => exact (overlooks.addInclude _ _ _).map _
  | removeScript script => exact (overlooks.removeScript _).map _
  | addAdventure claim a =>
    exact .map (overlooks.addTo _ (fun _ w => overlooks.written w _ _ _ _ _ _) _ _) _
  | addLocation claim l =>
    exact .map (overlooks.addTo _ (fun _ w => overlooks.written w _ _ _ _ _ _) _ _) _
  | addRoute claim r =>
    exact .map (overlooks.addTo _ (fun _ w => overlooks.written w _ _ _ _ _ _) _ _) _
  | addScript claim s =>
    exact .map (overlooks.addTo _ (fun _ w => overlooks.written w _ _ _ _ _ _) _ _) _
  | addCopy claim c => exact (overlooks.addCopy _ _).map _
  | updateCopy key language text => exact (overlooks.updateCopy _ _ _).map _
  | _ => exact h.elim

/-- The worlds differ in what authors write and in who holds which game, and in nothing else that is
played with. -/
structure Aside (w w' : World) : Prop where
  games : w'.games = w.games
  journal : w'.journal = w.journal
  languages : w'.languages = w.languages
  replies : w'.replies = w.replies

namespace Aside

theorem chains : Chains Aside where
  refl _ := ⟨rfl, rfl, rfl, rfl⟩
  trans h h' := ⟨h'.games.trans h.games, h'.journal.trans h.journal, h'.languages.trans h.languages,
    h'.replies.trans h.replies⟩

theorem overlooks : Overlooks Aside := ⟨chains, fun _ _ _ _ _ _ _ => ⟨rfl, rfl, rfl, rfl⟩⟩

theorem holdFor (timeout : Float) (game : Int) : Follows Aside (Op.holdFor timeout game) :=
  .holdFor chains (fun _ _ => ⟨rfl, rfl, rfl, rfl⟩) timeout game

theorem letGo (game : Int) : Follows Aside (Op.letGo game) := fun _ => ⟨rfl, rfl, rfl, rfl⟩

end Aside

/-- The actions that go on aside from playing. -/
def Action.IsAside : Action → Prop
  | .addInclude .. | .removeScript .. | .addAdventure .. | .addLocation .. | .addRoute .. | .addScript ..
  | .addCopy .. | .updateCopy .. | .hold .. | .release .. => True
  | _ => False

theorem Action.aside {engine : Engine} {a : Action} (h : a.IsAside) :
    Follows Aside (a.perform engine) := by
  cases a with
  | hold game => exact (Aside.holdFor _ _).map _
  | release game => exact (Aside.letGo _).map _
  | _ => exact Action.writing Aside.overlooks h

end TextAdventure
