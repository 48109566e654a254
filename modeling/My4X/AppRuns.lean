/-
**Runs of the application.**

From the start of the application on, through menus, turns, battles, saves and loads, no frame
fails. What every change of a frame keeps, a whole run keeps; so the two accounts of the player
never differ.

Main definitions:

* `My4X.AppState.appStep` — one frame, as a step of a run;
* `My4X.GameState.shownResources` — the account that the player is shown.

Main results:

* `My4X.AppState.run_ready` — **from one change to a whole run**;
* `My4X.AppState.application_never_fails` — no run of the application fails;
* `My4X.AppState.shownResources_run` — the shown account is the common one.
-/

import My4X.AppChanges
import My4X.KeepsRules
import My4X.Lib.Runs
import My4X.Peace
import My4X.WireFormat

set_option relaxedAutoImplicit false
set_option autoImplicit false

namespace My4X

open GameState

variable {codec : Codec} {queue : CostQueue} {draws : ℕ → TerrainType} {saves : SavesDirectory}

namespace AppState

/-! ### Runs -/

/-- A frame as a step of a run. -/
def appStep (codec : Codec) (queue : CostQueue) (app : AppState) (i : FrameInput) :
    Option AppState :=
  (frame codec queue app i).toOption

theorem appStep_eq_some {app app' : AppState} {i : FrameInput} :
    appStep codec queue app i = some app' ↔ frame codec queue app i = .ok app' := by
  rw [appStep]
  cases frame codec queue app i with
  | error e => simp [Except.toOption]
  | ok out => simp [Except.toOption]

/-- **The application starts**, and is ready for its first frame. -/
theorem start_ready (draws : ℕ → TerrainType) (hsaves : ∀ file ∈ saves.files, file.Readable codec) :
    ∃ app, start draws saves = .ok app ∧ Ready codec app := by
  obtain ⟨map, hmap⟩ : ∃ map, Map.create appMapRows appMapCols draws = .ok map :=
    ⟨_, dif_pos (by decide)⟩
  have hcreate : GameState.create appMapRows appMapCols draws =
      .ok { map, fog := FogOfWar.create appMapRows appMapCols } := by
    rw [GameState.create, hmap]
    rfl
  obtain ⟨hheight, hwidth⟩ := Map.create_size hmap
  refine ⟨_, by rw [start, hcreate]; rfl, ⟨sound_create hcreate, ⟨hheight, hwidth⟩, hsaves⟩,
    Or.inl rfl, le_rfl, by simp, fun _ => ⟨rfl, rfl, rfl⟩, fun h => ?_⟩
  cases h

/-- The state that the application starts in. -/
theorem ready_of_start (hsaves : ∀ file ∈ saves.files, file.Readable codec) {app : AppState}
    (hstart : start draws saves = .ok app) : Ready codec app := by
  obtain ⟨app', hok, hready⟩ := start_ready draws hsaves
  obtain rfl := Except.ok.inj (hstart.symm.trans hok)
  exact hready

/-- **From one change to a whole run**: what every change keeps, a run of fair frames keeps; and it
comes to its end. -/
theorem run_ready (hcodec : codec.Exact) (queue : CostQueue) {P : FrameInput → Prop}
    {I : AppState → Prop}
    (hI : ∀ i app app', P i → Kept codec app → I app → Change codec i app app' → I app')
    (inputs : List FrameInput) (hfair : ∀ i ∈ inputs, i.Fair codec ∧ P i) {app : AppState}
    (h : Ready codec app) (hstart : I app) :
    ∃ app', Runs.run (appStep codec queue) app inputs = some app' ∧ Ready codec app' ∧ I app' := by
  induction inputs generalizing app with
  | nil => exact ⟨app, rfl, h, hstart⟩
  | cons i inputs ih =>
      obtain ⟨hi, hP⟩ := hfair i List.mem_cons_self
      obtain ⟨app₁, hframe, hready, hchanges⟩ := frame_ok hcodec hi queue h
      -- the invariant goes along the changes together with what they rely on
      have hkeeps := kept_of_changes (I := fun app => Kept codec app ∧ I app)
        (fun a a' hchange ha => ⟨hchange.kept hcodec hi ha.1, hI i a a' hP ha.1 ha.2 hchange⟩)
        hchanges ⟨h.kept, hstart⟩
      obtain ⟨app', hrun, hrest⟩ :=
        ih (fun j hj => hfair j (List.mem_cons_of_mem i hj)) hready hkeeps.2
      exact ⟨app', Runs.run_cons.2 ⟨app₁, appStep_eq_some.2 hframe, hrun⟩, hrest⟩

/-- What a run that reached a state has kept. -/
theorem of_run (hcodec : codec.Exact) {P : FrameInput → Prop} {I : AppState → Prop}
    (hI : ∀ i app app', P i → Kept codec app → I app → Change codec i app app' → I app')
    {inputs : List FrameInput} (hfair : ∀ i ∈ inputs, i.Fair codec ∧ P i) {app app' : AppState}
    (h : Ready codec app) (hstart : I app)
    (hrun : Runs.run (appStep codec queue) app inputs = some app') : Ready codec app' ∧ I app' := by
  obtain ⟨app'', hrun', hrest⟩ := run_ready hcodec queue hI inputs hfair h hstart
  obtain rfl := Option.some_inj.1 (hrun.symm.trans hrun')
  exact hrest

/-! ### A new game -/

/-- A new game is entered. -/
def enterGame : List FrameInput :=
  [{ transitionEnds := true }, { menuAction := .newGame }, { transitionEnds := true }]

/-- A frame without a tile under the mouse is fair, unless its write stops midway. -/
theorem fair_of_idle {i : FrameInput} (hhovered : i.hoveredTile = none)
    (hlisting : i.listing = SavesDirectory.files) (hdone : i.outcome = .done) :
    i.Fair codec where
  hovered tile htile := by
    rw [hhovered] at htile
    cases htile
  listing directory := by rw [hlisting]
  cut written hcut := by
    rw [hdone] at hcut
    cases hcut

/-- A directory with one save. -/
def oneSave (data : List UInt8) : SavesDirectory where
  made := true
  files := [{ path := SaveFiles.generateSavePath "2026-01-30_18-00-00", data, lastWriteTime := 2 }]
  nodup := List.nodup_singleton _
  unmade h := by cases h

/-- A new game is entered.  A save of it stops midway, and the game of the older save is loaded;
then a unit is clicked on, and the turn ends. -/
def playFrames : List FrameInput :=
  enterGame ++
    [{ hoveredTile := some ⟨10, 5⟩
       transitionEnds := true
       f5 := true
       time := "2026-01-31_12-00-00"
       writeTime := 1
       outcome := .cut 20 },
      { f9 := true }, { hoveredTile := some ⟨10, 4⟩, leftPressed := true }, { space := true }]

theorem playFrames_fair (hcodec : codec.CutsShort) : ∀ i ∈ playFrames, i.Fair codec := by
  have hover : ∀ {i : FrameInput} {tile : TileCoord}, i.hoveredTile = some tile →
      InBounds tile.row tile.col appMapRows appMapCols → i.listing = SavesDirectory.files →
      i.Fair codec := by
    intro i tile hhovered hin hlisting
    refine ⟨fun tile' htile' => ?_, fun directory => by rw [hlisting], fun _ _ => hcodec⟩
    obtain rfl := Option.some_inj.1 (hhovered.symm.trans htile')
    exact hin
  simp only [playFrames, enterGame, List.cons_append, List.nil_append, List.forall_mem_cons]
  exact ⟨fair_of_idle rfl rfl rfl, fair_of_idle rfl rfl rfl, fair_of_idle rfl rfl rfl,
    hover rfl (by decide) rfl, fair_of_idle rfl rfl rfl, hover rfl (by decide) rfl,
    fair_of_idle rfl rfl rfl, fun i hi => by cases hi⟩

/-- **A message is a save of the game that is entered.** -/
structure SavedDemo (m : Proto.GameState) (s : GameState) : Prop where
  sound : s.Sound
  size : s.OfAppSize
  setUp : ∃ fresh, start (fun _ => .plains) .empty = .ok fresh ∧ setupDemoState fresh.state = .ok s
  message : toMessage s = .ok m

theorem exists_savedDemo : ∃ m s, SavedDemo m s := by
  obtain ⟨fresh, hstart, hready⟩ := @start_ready hamletCodec .empty (fun _ => .plains)
    fun file hfile => by cases hfile
  obtain ⟨s, hsetup, hsound, hmap, -⟩ := setupDemoState_ok hready.kept.sound hready.kept.size
  obtain ⟨m, hm⟩ := exists_toMessage hsound.savable.units
  exact ⟨m, s, hsound, hready.kept.size.of_map hmap, ⟨fresh, hstart, hsetup⟩, hm⟩

namespace SavedDemo

variable {m : Proto.GameState} {s : GameState} (h : SavedDemo m s)

include h

theorem readable : ∀ file ∈ (oneSave (Wire.gameState m)).files, file.Readable (Codec.only m) := by
  intro file hfile
  rw [List.mem_singleton.1 hfile]
  exact ⟨rfl, rfl, loadsSoundly_of_serialize (Codec.only_exact m) h.sound h.size
    (serialize_only h.message)⟩

/-- The application comes to the end of these frames. -/
theorem reached : ∃ started app', start (fun _ => .plains) (oneSave (Wire.gameState m)) =
    .ok started ∧
    Runs.run (appStep (Codec.only m) .firstLeast) started playFrames = some app' := by
  obtain ⟨started, hstart, hready⟩ := start_ready (fun _ => .plains) h.readable
  obtain ⟨app', hrun, -⟩ := run_ready (P := fun _ => True) (I := fun _ => True) (Codec.only_exact m)
    .firstLeast (fun _ _ _ _ _ _ _ => trivial) playFrames
    (fun i hi => ⟨playFrames_fair (Codec.only_cutsShort m) i hi, trivial⟩) hready trivial
  exact ⟨started, app', hstart, hrun⟩

end SavedDemo

/-! ### No run fails -/

/-- **No run of the application fails**: with saves that can be loaded and frames that point into
the map it starts, and goes on as long as there are frames. -/
theorem application_never_fails (hcodec : codec.Exact) (queue : CostQueue)
    (draws : ℕ → TerrainType) (hsaves : ∀ file ∈ saves.files, file.Readable codec)
    (inputs : List FrameInput) (hfair : ∀ i ∈ inputs, i.Fair codec) :
    ∃ app, start draws saves = .ok app ∧
      ∃ app', Runs.run (appStep codec queue) app inputs = some app' ∧ Ready codec app' := by
  obtain ⟨app, hstart, hready⟩ := start_ready draws hsaves
  obtain ⟨app', hrun, hready', -⟩ := run_ready (P := fun _ => True) (I := fun _ => True) hcodec
    queue (fun _ _ _ _ _ _ _ => trivial) inputs
    (fun i hi => ⟨hfair i hi, trivial⟩) hready trivial
  exact ⟨app, hstart, app', hrun, hready'⟩

/-- A game is entered, saved, loaded and played on. -/
theorem playFrames_never_fail : ∃ m started,
    start (fun _ => .plains) (oneSave (Wire.gameState m)) = .ok started ∧
      ∃ app', Runs.run (appStep (Codec.only m) .firstLeast) started playFrames = some app' ∧
        Ready (Codec.only m) app' := by
  obtain ⟨m, s, hdemo⟩ := exists_savedDemo
  exact ⟨m, application_never_fails (Codec.only_exact m) .firstLeast (fun _ => .plains)
    hdemo.readable playFrames (playFrames_fair (Codec.only_cutsShort m))⟩

/-! ### War -/

/-- Nobody is at war where no relation was set. -/
theorem areAtWar_empty (f g : FactionId) : DiplomacyManager.empty.areAtWar f g = false := by
  rw [DiplomacyManager.areAtWar, getRelation_empty]
  rfl

/-- **An action that is told of in the log is one of a war.** -/
theorem war_of_executes {s s' : GameState} {action : GameAction}
    (hex : action.execute s = .ok (s', true)) (hfights : ∀ a, action ≠ .move a) :
    ∃ f g, s.diplomacy.areAtWar f g = true := by
  cases action with
  | move a => exact absurd rfl (hfights a)
  | attack a =>
      obtain ⟨r, hex, hexecuted⟩ := GameAction.execute_attack.1 hex
      obtain ⟨hvalidation, ⟨hrefused, -⟩ | ⟨-, hvalid, p, q, attacker, target, hround, -⟩⟩ :=
        AttackAction.execute_cases hex
      · rw [hrefused] at hexecuted
        cases hexecuted
      · exact ⟨_, _, AttackAction.areAtWar_of_valid (hvalidation.symm.trans hvalid) hround.checked⟩
  | capture a =>
      obtain ⟨r, hex, hexecuted⟩ := GameAction.execute_capture.1 hex
      obtain ⟨hvalidation, ⟨hrefused, -⟩ | ⟨-, hvalid, p, i, city, htaken, -⟩⟩ :=
        CaptureAction.execute_cases hex
      · rw [hrefused] at hexecuted
        cases hexecuted
      · exact ⟨_, _, CaptureAction.areAtWar_of_valid (hvalidation.symm.trans hvalid) htaken⟩

/-- What is loaded leaves nobody at war. -/
theorem diplomacy_of_loadLatest {app : AppState} {i : FrameInput} {t : GameState}
    (h : loadLatest codec app i = .ok t) : t.diplomacy = DiplomacyManager.empty := by
  obtain ⟨draws, proto, fresh, reg, hloaded⟩ := loaded_of_loadLatest h
  exact hloaded.diplomacy

end AppState

/-! ### Accounts -/

/-- **The resources that the player is shown**: the stockpile of the faction of the player, or the
common account when it is not registered. -/
def GameState.shownResources (s : GameState) : Resource :=
  match s.factionRegistry.findFaction playerFactionId with
  | some f => f.stockpile
  | none => s.factionResources

namespace FactionRegistry

/-- A change of the first element with a property is found in its place. -/
theorem find?_modify_first {α : Type} {p : α → Bool} {g : α → α}
    (hg : ∀ a, p a = true → p (g a) = true) : ∀ {l : List α} {i : ℕ}, l.findIdx? p = some i →
      (l.modify i g).find? p = (l.find? p).map g := by
  intro l
  induction l with
  | nil => intro i h; cases h
  | cons a l ih =>
      intro i h
      rw [List.findIdx?_cons] at h
      split at h
      · next ha =>
          obtain rfl := Option.some_inj.1 h
          rw [List.modify_zero_cons, List.find?_cons_of_pos ha, List.find?_cons_of_pos (hg a ha)]
          rfl
      · next ha =>
          obtain ⟨j, hj, rfl⟩ := Option.map_eq_some_iff.1 h
          rw [List.modify_succ_cons, List.find?_cons_of_neg ha, List.find?_cons_of_neg ha]
          exact ih hj

/-- What goes into a stockpile is found there. -/
theorem findFaction_addResources (reg : FactionRegistry) (id : FactionId) (amount : Resource) :
    (reg.addResources id amount).findFaction id =
      (reg.findFaction id).map fun f => { f with stockpile := f.stockpile + amount } := by
  rw [addResources, findFaction, findFaction]
  split
  · next hnone =>
      have hnot := List.findIdx?_eq_none_iff.1 hnone
      rw [List.find?_eq_none.2 fun f hf => by rw [hnot f hf]; decide]
      rfl
  · next i hi =>
      refine find?_modify_first
        (g := fun f : Faction => { f with stockpile := f.stockpile + amount }) (fun f hf => ?_) hi
      exact hf

end FactionRegistry

namespace AppState

/-- **The two accounts agree**, and are empty until the game is entered. -/
structure AccountsAgree (app : AppState) : Prop where
  shown : app.state.shownResources = app.state.factionResources
  fresh : app.gameInitialized = false →
    app.state.factionRegistry = {} ∧ app.state.factionResources = {}

/-- A change of what the accounts do not depend on. -/
theorem AccountsAgree.of_eq {app app' : AppState} (h : AccountsAgree app)
    (hregistry : app'.state.factionRegistry = app.state.factionRegistry)
    (hresources : app'.state.factionResources = app.state.factionResources)
    (hentered : app'.gameInitialized = app.gameInitialized) : AccountsAgree app' where
  shown := by
    have hshown := h.shown
    rw [shownResources] at hshown ⊢
    rw [hregistry, hresources]
    exact hshown
  fresh hfresh := by
    rw [hregistry, hresources]
    exact h.fresh (hentered.symm.trans hfresh)

/-- The accounts of a game that is played. -/
theorem AccountsAgree.of_shown {app : AppState}
    (h : app.state.shownResources = app.state.factionResources)
    (hentered : app.gameInitialized = true) : AccountsAgree app where
  shown := h
  fresh hfresh := by
    rw [hentered] at hfresh
    cases hfresh

/-- **The end of a turn pays into both accounts.** -/
theorem shownResources_turnEnded {s s' : GameState} (hended : TurnEnded s s')
    (h : s.shownResources = s.factionResources) : s'.shownResources = s'.factionResources := by
  have hfound := s.factionRegistry.findFaction_addResources playerFactionId
    (totalYield s'.buildings)
  rw [shownResources] at h ⊢
  rw [hended.factionRegistry, hended.factionResources, hfound]
  cases hplayer : s.factionRegistry.findFaction playerFactionId with
  | none => rfl
  | some f =>
      rw [hplayer] at h
      exact congrArg (· + totalYield s'.buildings) h

/-- What is loaded has no factions. -/
theorem registry_of_loadLatest {app : AppState} {i : FrameInput} {t : GameState}
    (h : loadLatest codec app i = .ok t) : t.factionRegistry = {} := by
  obtain ⟨draws, proto, fresh, reg, hloaded⟩ := loaded_of_loadLatest h
  exact hloaded.factions

/-- **Every change keeps the two accounts together.** -/
theorem AccountsAgree.change {i : FrameInput} {app app' : AppState} (h : AccountsAgree app)
    (hkept : Kept codec app) (hchange : Change codec i app app') : AccountsAgree app' := by
  cases hchange with
  | rests state log saves entered =>
      exact h.of_eq (congrArg GameState.factionRegistry state)
        (congrArg GameState.factionResources state) entered
  | plays playing play =>
      cases play with
      | rests state log saves entered =>
          exact h.of_eq (congrArg GameState.factionRegistry state)
            (congrArg GameState.factionResources state) entered
      | @acts action s fog events player executes view state reported quiet log saves entered =>
          have hrest := execute_rest executes
          refine h.of_eq ?_ ?_ entered
          · rw [state]
            exact (congrArg GameState.factionRegistry hrest :)
          · rw [state]
            exact (congrArg GameState.factionResources hrest :)
      | orders found queued state log saves entered =>
          refine h.of_eq ?_ ?_ entered
          · rw [state]
            rfl
          · rw [state]
            rfl
      | ends completes log saves entered =>
          obtain ⟨s', hturn, -, hended⟩ := hkept.sound.processTurn
          obtain rfl := (Prod.mk.inj (completes.symm.trans hturn)).1
          exact .of_shown (shownResources_turnEnded hended h.shown) (entered.trans playing)
  | saves playing asked state log saves entered =>
      exact h.of_eq (congrArg GameState.factionRegistry state)
        (congrArg GameState.factionResources state) (entered.trans playing.symm)
  | @loads t fog playing asked loaded view state log saves entered =>
      have hnone := registry_of_loadLatest loaded
      refine .of_shown ?_ entered
      rw [state, shownResources]
      dsimp only
      rw [hnone]
      rfl
  | begins fresh setUp log saves entered =>
      obtain ⟨hregistry, hresources⟩ := h.fresh fresh
      obtain ⟨s', hok, -, -, -, hfactions, hcommon, -⟩ := setupDemoState_ok hkept.sound hkept.size
      obtain rfl := Except.ok.inj (setUp.symm.trans hok)
      refine .of_shown ?_ entered
      rw [shownResources, hfactions, hcommon, hregistry, hresources]
      decide

theorem accountsAgree_of_start {app : AppState} (hstart : start draws saves = .ok app) :
    AccountsAgree app := by
  obtain ⟨state, hcreate, hstart⟩ := Except.bind_eq_ok.1 hstart
  obtain ⟨map, -, hcreate⟩ := Except.bind_eq_ok.1 hcreate
  obtain rfl := Except.ok.inj hcreate
  obtain rfl := Except.ok.inj hstart
  exact ⟨rfl, fun _ => ⟨rfl, rfl⟩⟩

/-- **In every run the player is shown the common account**, whether the game was loaded or not. -/
theorem shownResources_run (hcodec : codec.Exact)
    (hsaves : ∀ file ∈ saves.files, file.Readable codec) {app app' : AppState}
    (hstart : start draws saves = .ok app) {inputs : List FrameInput}
    (hfair : ∀ i ∈ inputs, i.Fair codec)
    (hrun : Runs.run (appStep codec queue) app inputs = some app') :
    app'.state.shownResources = app'.state.factionResources :=
  (of_run (P := fun _ => True) (I := AccountsAgree) hcodec
    (fun _ _ _ _ hkept ha hchange => ha.change hkept hchange)
    (fun i hi => ⟨hfair i hi, trivial⟩) (ready_of_start hsaves hstart)
    (accountsAgree_of_start hstart) hrun).2.shown

/-- What the player of a game is shown that was loaded. -/
theorem playFrames_shownResources :
    ∃ app' : AppState, app'.state.shownResources = app'.state.factionResources := by
  obtain ⟨m, s, hdemo⟩ := exists_savedDemo
  obtain ⟨started, app', hstart, hrun⟩ := hdemo.reached
  exact ⟨app', shownResources_run (Codec.only_exact m) hdemo.readable hstart
    (playFrames_fair (Codec.only_cutsShort m)) hrun⟩

end AppState

end My4X
