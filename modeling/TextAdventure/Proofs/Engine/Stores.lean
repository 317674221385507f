import TextAdventure.Proofs.Authoring.Removal
import TextAdventure.Proofs.Engine.InStep

/-! Games in memory and games in files make no difference to what an engine answers. Whatever an
operation makes of a game it stores, also where it fails, so that a file is never behind. -/

namespace TextAdventure

open Op

variable {engine : Engine} {id : Int} {w w' : World} {h h' : Held Game}

/-- An action that plays, reads or removes games, and asks for a game by its number. -/
def Action.ByNumber : Action → Prop
  | .startGame _ _ | .removeLocation _ _ | .removeAdventure _ _ => True
  | .takeRoute game _ | .executeScript game _ | .endGame game | .recoverGame game | .getGame game
  | .availableRoutes game | .contents game _ _ | .textAt game _ | .transcript game =>
    ∃ n : Int, game = n
  | _ => False

theorem Similar.eq {α : Type} {r r' : Except Error α} (h : Similar (· = ·) r r') : r = r' := by
  cases h with
  | ok h => rw [h]
  | error e => rfl

/-! ### Removals -/

/-- A change that does not look at games. -/
theorem Alike.change (h : Alike w w') {f : World → World}
    (apart : ∀ u games, f { u with games } = { f u with games }) (scalar : (f w).Scalar) :
    Alike (f w) (f w') := by
  have own : (f w).games = w.games :=
    calc (f w).games
      _ = ({ f w with games := w.games } : World).games := congrArg World.games (apart w w.games)
      _ = w.games := rfl
  have other : f w' = { f w with games := w'.games } := by rw [← apart, ← h.same]
  rw [other]
  refine ⟨rfl, ?_, scalar⟩
  rw [own]
  exact h.games

theorem Alike.dropGames (h : Alike w w') (games : List Int) :
    Alike (games.foldl Authoring.dropGame w) (games.foldl Authoring.dropGame w') := by
  induction games generalizing w w' with
  | nil => exact h
  | cons n rest ih => exact ih (h.dropGame n)

theorem Alike.withoutLocation (h : Alike w w') (location : Int) (games : List Int) :
    Alike (Authoring.withoutLocation location games w)
      (Authoring.withoutLocation location games w') := by
  have dropped := h.dropGames games
  exact dropped.change (f := Authoring.withoutLocation location []) (fun _ _ => rfl)
    ⟨dropped.scalar.scripts, dropped.scalar.copies, dropped.scalar.languages⟩

theorem Copy.text_withoutScripts (scripts : List Int) (c : Copy) :
    (scripts.foldl (fun c s => c.withoutScript s) c).text = c.text := by
  induction scripts generalizing c with
  | nil => rfl
  | cons s rest ih => exact ih (c.withoutScript s)

theorem Alike.withoutAdventure (h : Alike w w') (adventure : Int) (games : List Int) :
    Alike (Authoring.withoutAdventure adventure games w)
      (Authoring.withoutAdventure adventure games w') := by
  have dropped := h.dropGames games
  refine dropped.change (f := Authoring.withoutAdventure adventure []) (fun _ _ => rfl)
    ⟨fun s hs => ?_, fun c hc => ?_, dropped.scalar.languages⟩
  · exact dropped.scalar.scripts s (Table.mem_removeAll hs)
  · obtain ⟨d, hd, rfl⟩ := List.mem_map.1 hc
    rw [Copy.text_withoutScripts]
    exact dropped.scalar.copies d hd

namespace Agree

theorem alike {α β : Type} {R : α → β → Prop} {x : Op α} {y : Op β}
    (h : Agree (Twin id) R x w y w') : Agree Alike R x w y w' :=
  h.mono (fun _ _ twin => twin.toAlike) fun _ _ same => same

/-- Where games are stored makes no difference to a reader that has nothing to do with them. -/
theorem reader {α : Type} (alike : Alike w w') {x : Op α} (readOnly : ReadOnly x)
    (apart : Apart x) : Agree Alike (· = ·) x w x w' := by
  have agree : Agree Alike (· = ·) (x >>= Pure.pure) w (x >>= Pure.pure) w' :=
    .read alike alike readOnly apart fun a _ => .pure alike rfl
  rwa [bind_pure] at agree

theorem removal {α : Type} {kind : Kind} {found : Op α} (alike : Alike w w')
    (readOnly : ReadOnly found) (apart : Apart found) (asked : Identifier) (force : Bool)
    (belongs : Int → Game → Bool) {cut : Int → List Int → World → World}
    (hcut : ∀ id games, Alike (cut id games w) (cut id games w')) :
    Agree Alike (· = ·) (Authoring.removal kind found asked force belongs cut) w
      (Authoring.removal kind found asked force belongs cut) w' := by
  refine .read alike alike readOnly apart fun _ _ => ?_
  refine .read alike alike (.number _ _) (.number _ _) fun id _ => ?_
  rw [Agree, run_bind_ok (run_get w), run_bind_ok (run_get w'), alike.games.select]
  refine read alike alike (.ofExcept _) (.ofExcept _) fun games _ => ?_
  have counted : Apart (Authoring.gamesToRemove kind id force games) := by
    unfold Authoring.gamesToRemove
    dsimp only
    split
    · exact .bind (.throw _) fun _ => .pure _
    · exact .pure _
  exact .read alike alike (.gamesToRemove _ _ _ _) counted fun ids _ => .inr ⟨hcut id ids, .ok rfl⟩

/-! ### Operations -/

section Playing

variable (quiet : engine.Quiet) (lasting : engine.Lasting)
include quiet lasting

theorem startGame (alike : Alike w w') (adventure : Identifier) (language : Json) :
    Agree Alike (· = ·) (engine.startGame adventure language) w
      (engine.startGame adventure language) w' := by
  refine .read alike alike (.adventure _) (.adventure _) fun held _ => ?_
  refine .read alike alike (.gameLanguage _ _) (.gameLanguage _ _) fun code hcode => ?_
  refine .read alike alike (.number _ _) (.number _ _) fun n _ => ?_
  refine .read alike alike (.initialLocation _) (.initialLocation _) fun ⟨m, location⟩ _ => ?_
  refine .tick alike fun time clock => ?_
  obtain ⟨l, hl, rfl⟩ := Engine.gameLanguage_registered (congrArg Prod.fst hcode)
  obtain ⟨proper, scalar⟩ := alike.scalar.languages l hl
  have empty : Json.Lasting (.object []) := .object List.nodup_nil nofun nofun
  refine .addGame (alike.clocked clock) ⟨proper.lasting, scalar, empty⟩
    fun h h' games games' twin held' => ?_
  rw [held'.value]
  refine .holding twin.toAlike _ _ fun locks => ?_
  have start : SameProgress w.games.ids.next { held := h } { held := h' } := ⟨rfl, held'⟩
  have opened := opening quiet lasting (twin.locked locks) start held location
  exact (opened.bind fun p p' v v' after same => transcribe after same).alike

theorem depart (twin : Twin id w w') (held : SameHeld id h h') (route : Identifier) :
    Agree (Twin id) (· = ·) (engine.depart id route h) w (engine.depart id route h') w' := by
  have alike := twin.toAlike
  unfold Engine.depart
  rw [held.value]
  split
  · exact .throw twin _
  refine .read alike twin (.route _) (.route _) fun way _ => ?_
  split
  · exact .read alike twin (.number _ _) (.number _ _) fun _ _ => .throw twin _
  refine .read alike twin (.location _) (.location _) fun origin _ => ?_
  refine .read alike twin (.location _) (.location _) fun destination _ => ?_
  have start : SameProgress id { held := h } { held := h' } := ⟨rfl, held⟩
  have travelled := travel quiet lasting twin start way origin destination
  exact travelled.bind fun p p' v v' after same => transcribe after same

theorem takeRoute (alike : Alike w w') (n : Int) (route : Identifier) :
    Agree Alike (· = ·) (engine.takeRoute n route) w (engine.takeRoute n route) w' := by
  refine .gameNumber n (.holding alike _ _ fun locks => ?_)
  refine .heldGame n (alike.locked locks) (alike.locked locks) fun h h' twin held => ?_
  exact (depart quiet lasting twin held route).alike

theorem executeScript (alike : Alike w w') (n : Int) (script : Identifier) :
    Agree Alike (· = ·) (engine.executeScript n script) w (engine.executeScript n script) w' := by
  refine .gameNumber n (.holding alike _ _ fun locks => ?_)
  refine .heldGame n (alike.locked locks) (alike.locked locks) fun h h' twin held => ?_
  exact (executeStored quiet lasting twin held script).alike.bind fun r r' v v' after same =>
    .pure after same.run.symm

theorem endGame (alike : Alike w w') (n : Int) :
    Agree Alike (· = ·) (engine.endGame n) w (engine.endGame n) w' := by
  refine .gameNumber n (.holding alike _ _ fun locks => ?_)
  refine .heldGame n (alike.locked locks) (alike.locked locks) fun h h' twin held => ?_
  rw [held.value]
  refine .read twin.toAlike twin.toAlike (.finalHook _) (.finalHook _) fun hook _ => ?_
  have start : SameProgress n { held := h } { held := h' } := ⟨rfl, held⟩
  have hooked := runHook quiet lasting twin start hook
  have told : Agree (Twin n) (· = ·) (engine.runHook hook { held := h } >>= engine.transcribe)
      { w with locks } (engine.runHook hook { held := h' } >>= engine.transcribe)
      { w' with locks } := hooked.bind fun p p' v v' after same => transcribe after same
  rw [← bind_assoc, ← bind_assoc]
  refine told.alike.bind fun t t' v v' after same => ?_
  obtain rfl := same
  exact .dropGame after n fun dropped => .pure dropped rfl

omit quiet lasting in
theorem recoverGame (alike : Alike w w') (n : Int) :
    Agree Alike (· = ·) (engine.recoverGame n) w (engine.recoverGame n) w' := by
  refine .gameNumber n (.holding alike _ _ fun locks => ?_)
  refine .heldGame n (alike.locked locks) (alike.locked locks) fun h h' twin held => ?_
  rw [held.value]
  split
  · have recovered : SameHeld n { h with value := { h.value with needsRecovery := false } }
        { h' with value := { h.value with needsRecovery := false } } :=
      ⟨rfl, held.number, held.place, held.otherPlace,
        ⟨held.lasting.language, held.lasting.scalar, held.lasting.state⟩⟩
    exact (updateGame twin recovered).alike.bind fun k k' v v' after again =>
      .pure after again.value.symm
  · exact .pure twin.toAlike rfl

end Playing

/-! ### Reading -/

/-- What is read of a game, and of what has nothing to do with where it is stored. -/
theorem reads {α : Type} {f : Game → Op α} (alike : Alike w w') (n : Int)
    (readOnly : ∀ g, ReadOnly (f g)) (apart : ∀ g, Apart (f g)) :
    Agree Alike (· = ·) (World.game n >>= f) w (World.game n >>= f) w' :=
  .game n alike alike fun g => .reader alike (readOnly g) (apart g)

theorem getGame (alike : Alike w w') (n : Int) :
    Agree Alike (· = ·) (World.game n) w (World.game n) w' := by
  have agree := reads (f := Pure.pure) alike n (fun _ => .pure _) fun _ => .pure _
  rwa [bind_pure] at agree

theorem availableRoutes (alike : Alike w w') (n : Int) :
    Agree Alike (· = ·) (Engine.availableRoutes n) w (Engine.availableRoutes n) w' :=
  .reads alike n (fun _ => .bind .get fun _ => .pure _) fun _ =>
    .get (fun _ _ => rfl) fun _ => .pure _

theorem contents (alike : Alike w w') (n start : Int) (limit : Option Int) :
    Agree Alike (· = ·) (Engine.contents n start limit) w (Engine.contents n start limit) w' :=
  .reads alike n (fun _ => .bind .get fun _ => .bind (.gameNumber _) fun _ => .ofExcept _) fun _ =>
    .get (fun _ _ => rfl) fun _ => .bind (.gameNumber n) fun _ => .ofExcept _

theorem textAt (alike : Alike w w') (n : Int) (position : Identifier) :
    Agree Alike (· = ·) (engine.textAt n position) w (engine.textAt n position) w' := by
  refine .reads alike n (fun _ => ?_) fun _ => ?_
  · refine .bind (.gameNumber _) fun _ => .bind .get fun w => ?_
    split
    · exact .throw _
    · exact .pure _
  · refine .bind (.gameNumber n) fun _ => .get (fun _ _ => rfl) fun w => ?_
    split
    · exact .throw _
    · exact .pure _

theorem transcript (alike : Alike w w') (n : Int) :
    Agree Alike (· = ·) (engine.transcript n) w (engine.transcript n) w' :=
  .reads alike n (fun _ => .bind (.gameNumber _) fun _ => .bind .get fun _ => .texts _ _ _) fun _ =>
    .bind (.gameNumber n) fun _ => .get (fun _ _ => rfl) fun _ => .texts _ _ _

end Agree

theorem Alike.perform (quiet : engine.Quiet) (lasting : engine.Lasting) (alike : Alike w w')
    {a : Action} (byNumber : a.ByNumber) :
    Agree Alike (· = ·) (a.perform engine) w (a.perform engine) w' := by
  have same {α : Type} {f : α → Answer} (a b : α) (h : a = b) : f a = f b := congrArg f h
  cases a with
  | startGame adventure language => exact (Agree.startGame quiet lasting alike _ _).map same
  | takeRoute game route =>
    obtain ⟨n, rfl⟩ := byNumber
    exact (Agree.takeRoute quiet lasting alike n route).map same
  | executeScript game script =>
    obtain ⟨n, rfl⟩ := byNumber
    exact (Agree.executeScript quiet lasting alike n script).map same
  | endGame game =>
    obtain ⟨n, rfl⟩ := byNumber
    exact (Agree.endGame quiet lasting alike n).map same
  | recoverGame game =>
    obtain ⟨n, rfl⟩ := byNumber
    exact (Agree.recoverGame alike n).map same
  | getGame game =>
    obtain ⟨n, rfl⟩ := byNumber
    exact (Agree.getGame alike n).map same
  | availableRoutes game =>
    obtain ⟨n, rfl⟩ := byNumber
    exact (Agree.availableRoutes alike n).map same
  | contents game start limit =>
    obtain ⟨n, rfl⟩ := byNumber
    exact (Agree.contents alike n start limit).map same
  | textAt game position =>
    obtain ⟨n, rfl⟩ := byNumber
    exact (Agree.textAt alike n position).map same
  | transcript game =>
    obtain ⟨n, rfl⟩ := byNumber
    exact (Agree.transcript alike n).map same
  | removeLocation location force =>
    exact (Agree.removal alike (.location _) (.location _) location force _
      alike.withoutLocation).map same
  | removeAdventure adventure force =>
    exact (Agree.removal alike (.adventure _) (.adventure _) adventure force _
      alike.withoutAdventure).map same
  | _ => exact byNumber.elim

/-- Worlds that are alike get the same answers to the end, as long as every game fits into its
file. -/
theorem Alike.answers (quiet : engine.Quiet) (lasting : engine.Lasting) (alike : Alike w w')
    {actions : List Action} (byNumber : ∀ a ∈ actions, a.ByNumber)
    (fits : .error .tooLongToWrite ∉ engine.answers w' actions) :
    engine.answers w actions = engine.answers w' actions := by
  induction actions generalizing w w' with
  | nil => rfl
  | cons a rest ih =>
    rw [Engine.answers, List.mem_cons, not_or] at fits
    have here := byNumber a List.mem_cons_self
    rcases alike.perform quiet lasting here with refused | ⟨after, similar⟩
    · exact absurd refused.symm fits.1
    · have later := ih after (fun b hb => byNumber b (List.mem_cons_of_mem _ hb)) fits.2
      have now : engine.answer w a = engine.answer w' a := similar.eq
      rw [Engine.answers, Engine.answers, now]
      exact congrArg _ later

theorem World.Scalar.alike (h : w.Scalar) :
    Alike { w with games := .memory {} } { w with games := .files {} } :=
  ⟨rfl, Games.mirrors_empty, h.story rfl⟩

/-- An engine whose games are kept in files, in a directory that is empty at first, answers as one
that keeps them in memory, as long as no game holds a number that is too long to be written. -/
theorem Engine.stores_agree (quiet : engine.Quiet) (lasting : engine.Lasting) (scalar : w.Scalar)
    {actions : List Action} (byNumber : ∀ a ∈ actions, a.ByNumber)
    (fits : .error .tooLongToWrite ∉ engine.answers { w with games := .files {} } actions) :
    engine.answers { w with games := .memory {} } actions =
      engine.answers { w with games := .files {} } actions :=
  scalar.alike.answers quiet lasting byNumber fits

/-- An engine whose scripts note their sources in the state of the game, and are stopped then. -/
def Engine.noting : Engine :=
  { runtime := some fun source =>
      .ask (.setState (.text "noted") (.text source)) fun _ => .done (.failed "stopped" true) }

theorem Engine.quiet_noting : Engine.noting.Quiet := by
  intro runtime hruntime source
  rw [← Option.some.inj hruntime]
  intro reply
  exact trivial

theorem Engine.lasting_noting : Engine.noting.Lasting := by
  refine ⟨by decide, fun runtime hruntime source scalar => ?_⟩
  rw [← Option.some.inj hruntime]
  exact ⟨⟨by decide, .text scalar⟩, fun _ _ => trivial⟩

theorem World.scalar_lane (games : Games) : (World.lane games).Scalar := by
  refine ⟨fun s hs => ?_, nofun, fun l hl => ?_⟩
  · obtain rfl := List.mem_singleton.1 hs
    show Text.Scalar "Onward."
    decide
  · obtain rfl := List.mem_singleton.1 hl
    refine ⟨⟨⟨.text "en", .text "en", ?_⟩, ?_⟩, ?_⟩ <;> decide

/-- A script is stopped on the way down the lane, and what it has noted is there when the game is
read, recovered and ended. -/
theorem Engine.stores_agree_lane :
    Engine.noting.answers (World.lane (.memory {}))
        [.startGame (1 : Int) .null, .takeRoute (1 : Int) (1 : Int), .getGame (1 : Int),
          .recoverGame (1 : Int), .removeLocation (1 : Int) false, .endGame (1 : Int)] =
      Engine.noting.answers (World.lane (.files {}))
        [.startGame (1 : Int) .null, .takeRoute (1 : Int) (1 : Int), .getGame (1 : Int),
          .recoverGame (1 : Int), .removeLocation (1 : Int) false, .endGame (1 : Int)] := by
  have fits : .error .tooLongToWrite ∉ Engine.noting.answers (World.lane (.files {}))
      [.startGame (1 : Int) .null, .takeRoute (1 : Int) (1 : Int), .getGame (1 : Int),
        .recoverGame (1 : Int), .removeLocation (1 : Int) false, .endGame (1 : Int)] := by
    decide +kernel
  exact stores_agree quiet_noting lasting_noting (World.scalar_lane (.files {}))
    (by simp [Action.ByNumber]) fits

end TextAdventure
