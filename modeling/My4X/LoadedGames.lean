/-
**Loaded games.**

A game that is loaded knows no factions and no relations.  What is loaded is the game that was saved
last, whatever was played since; and nobody fights in it.

Main definitions:

* `My4X.AppState.savedBy`, `My4X.AppState.loadedBy` — the game that a frame saves, and the one it
  loads;
* `My4X.AppState.Peaceful` — a game in which nobody can be at war.

Main results:

* `My4X.AppState.frame_of_atKeys` — what a frame does that comes to the keys of saves;
* `My4X.AppState.loaded_at_peace` — **after a game was loaded nothing is ever fought again**.
-/

import My4X.AppRuns
import My4X.WireFormat

set_option relaxedAutoImplicit false
set_option autoImplicit false

namespace My4X

open GameState

variable {codec : Codec} {queue : CostQueue} {draws : ℕ → TerrainType} {saves : SavesDirectory}

namespace AppState

/-! ### Loaded games -/

/-- The state in which the keys that save and load are read, if a frame comes to that. -/
def atKeys (app : AppState) (i : FrameInput) : Option AppState :=
  if app.quitRequested then none
  else do
    let app ← (changeScreen (fade app i)).toOption
    if app.currentScreen ≠ .inGame then none
    else
      let app := updateCinematic app i
      if app.transition.active ∨ app.cinematicActive then none
      else (handleInput app i).toOption

/-- The game that a frame loads. -/
def loadedBy (codec : Codec) (app : AppState) (i : FrameInput) : Option GameState := do
  let app ← atKeys app i
  if i.f9 then (loadLatest codec (if i.f5 then quickSave codec app i else app) i).toOption
  else none

/-- **A frame that comes to the keys** ends with what they do and the button that ends the turn. -/
theorem frame_of_atKeys {app app₁ : AppState} {i : FrameInput} (h : atKeys app i = some app₁) :
    frame codec queue app i = (do
      let app ← handleSaveLoad codec app₁ i
      let app ← endTurnIf i.endTurnReleased app
      let movementRange ← shownRange queue app
      return { app with movementRange }) := by
  rw [atKeys] at h
  split at h
  · cases h
  · next hstays =>
      rw [frame, if_neg hstays]
      cases hscreen : changeScreen (fade app i) with
      | error e =>
          rw [hscreen] at h
          cases h
      | ok app₂ =>
          rw [hscreen] at h
          change (if app₂.currentScreen ≠ .inGame then none else _) = some app₁ at h
          split at h
          · cases h
          · next hgame =>
              rw [not_not] at hgame
              split at h
              · cases h
              · next hfree =>
                  rw [Except.ok_bind, updateScreen, hgame]
                  dsimp only
                  rw [updateInGame, act, if_neg hfree]
                  cases hinput : handleInput (updateCinematic app₂ i) i with
                  | error e =>
                      rw [hinput] at h
                      cases h
                  | ok app₃ =>
                      rw [hinput] at h
                      obtain rfl := Option.some_inj.1 h
                      rw [Except.ok_bind]
                      cases handleSaveLoad codec app₃ i with
                      | error e => rfl
                      | ok app₄ => rfl

/-- The game that a frame saves. -/
def savedBy (app : AppState) (i : FrameInput) : Option GameState := do
  let app ← atKeys app i
  if i.f5 then some app.state else none

/-- A change of the screen leaves the saves as they are. -/
theorem changeScreen_saves {app app' : AppState} (h : changeScreen app = .ok app') :
    app'.saves = app.saves := by
  rw [changeScreen] at h
  split at h
  · rw [handleTransitionComplete] at h
    dsimp only at h
    split at h
    · obtain ⟨s, -, h⟩ := Except.bind_eq_ok.1 h
      obtain rfl := Except.ok.inj h
      rfl
    · obtain rfl := Except.ok.inj h
      rfl
  · obtain rfl := Except.ok.inj h
    rfl

/-- **The state in which the keys are read** is one of a game that is played, with the saves that
the frame began with. -/
theorem atKeys_kept (hcodec : codec.Exact) {i : FrameInput} (hfair : i.Fair codec)
    {app app₁ : AppState} (h : Ready codec app) (hkeys : atKeys app i = some app₁) :
    Kept codec app₁ ∧ app₁.gameInitialized = true ∧ app₁.saves = app.saves ∧
      Relation.ReflTransGen (Change codec i) app app₁ := by
  rw [atKeys] at hkeys
  split at hkeys
  · cases hkeys
  · next hstays =>
      have hfaded : Change codec i app (AppState.fade app i) := .rests rfl rfl rfl rfl
      obtain ⟨app₂, hscreen, hready, hchanges⟩ :=
        changeScreen_ok hcodec hfair (h.fade i) (Bool.eq_false_iff.2 hstays)
      rw [hscreen] at hkeys
      change (if app₂.currentScreen ≠ .inGame then none else _) = some app₁ at hkeys
      split at hkeys
      · cases hkeys
      · next hgame =>
          rw [not_not] at hgame
          split at hkeys
          · cases hkeys
          · obtain ⟨hflown, hselects⟩ := updateCinematic_follows app₂ i hready.selects
            obtain ⟨app₃, hinput, hplayed, -⟩ :=
              handleInput_ok hfair (hflown.kept hready.kept) hselects
            have hfollows := hflown.trans hplayed
            have hplaying := hready.screen.1 hgame
            rw [hinput] at hkeys
            obtain rfl := Option.some_inj.1 hkeys
            refine ⟨hfollows.kept hready.kept, hfollows.entered.trans hplaying, ?_, ?_⟩
            · exact (rest_of_plays hfollows.changes).1.trans (changeScreen_saves hscreen :)
            · exact (Relation.ReflTransGen.head hfaded hchanges).trans
                (changes_of_plays hplaying hfollows.changes)

/-- The state that a game is loaded into. -/
theorem loadedBy_eq_some {app : AppState} {i : FrameInput} {t : GameState} :
    loadedBy codec app i = some t ↔ i.f9 = true ∧ ∃ app₁, atKeys app i = some app₁ ∧
      loadLatest codec (if i.f5 then quickSave codec app₁ i else app₁) i = .ok t := by
  have hopt : ∀ out : Except Fault GameState, out.toOption = some t ↔ out = .ok t := by
    intro out
    cases out with
    | error e => simp [Except.toOption]
    | ok s => simp [Except.toOption]
  rw [loadedBy]
  constructor
  · intro h
    obtain ⟨app₁, hkeys, h⟩ := Option.bind_eq_some_iff.1 h
    split at h
    · next hasked => exact ⟨hasked, app₁, hkeys, (hopt _).1 h⟩
    · cases h
  · rintro ⟨hasked, app₁, hkeys, h⟩
    refine Option.bind_eq_some_iff.2 ⟨app₁, hkeys, ?_⟩
    rw [if_pos hasked]
    exact (hopt _).2 h

/-- **A frame that loads a game** goes on with it, with a new view and without a selection; the turn
may end in the same frame. -/
theorem frame_loads (hcodec : codec.Exact) {i : FrameInput} (hfair : i.Fair codec)
    {app app' : AppState} (h : Ready codec app) {t : GameState}
    (hload : loadedBy codec app i = some t) (hframe : frame codec queue app i = .ok app') :
    ∃ loaded ended fog, loaded.state = { t with fog } ∧ loaded.selectedUnit = noSelection ∧
      Kept codec loaded ∧ loaded.gameInitialized = true ∧
      endTurnIf i.endTurnReleased loaded = .ok ended ∧
      app' = { ended with movementRange := app'.movementRange } := by
  obtain ⟨hasked, app₁, hkeys, hlatest⟩ := loadedBy_eq_some.1 hload
  obtain ⟨hkept, hplaying, -⟩ := atKeys_kept hcodec hfair h hkeys
  -- what was saved just before can be loaded too
  have hsaved : Follows (Change codec i) app₁ (if i.f5 then quickSave codec app₁ i else app₁) := by
    split
    · next hf5 => exact Follows.single (.saves hplaying hf5 rfl rfl rfl hplaying) rfl rfl
    · exact Follows.refl app₁
  have hkept₁ := kept_of_changes (fun _ _ hchange => hchange.kept hcodec hfair) hsaved.changes hkept
  have hplaying₁ := hsaved.entered.trans hplaying
  obtain ⟨hsound, -⟩ := sound_of_loadLatest hkept₁ hfair hlatest
  obtain ⟨fog, hfog, -⟩ := hsound.recalculateFog playerFactionId
  have hchange : Change codec i (if i.f5 then quickSave codec app₁ i else app₁)
      { (if i.f5 then quickSave codec app₁ i else app₁) with
        state := { t with fog }, selectedUnit := noSelection } :=
    .loads hplaying₁ hasked hlatest hfog rfl rfl rfl hplaying₁
  have hquick : handleSaveLoad codec app₁ i = .ok
      { (if i.f5 then quickSave codec app₁ i else app₁) with
        state := { t with fog }, selectedUnit := noSelection } := by
    rw [handleSaveLoad]
    dsimp only
    rw [if_pos hasked, quickLoad, hlatest]
    dsimp only
    rw [hfog]
    rfl
  rw [frame_of_atKeys hkeys, hquick, Except.ok_bind] at hframe
  obtain ⟨ended, hended, hframe⟩ := Except.bind_eq_ok.1 hframe
  obtain ⟨range, -, hframe⟩ := Except.bind_eq_ok.1 hframe
  obtain rfl := Except.ok.inj hframe
  exact ⟨_, ended, fog, rfl, rfl, hchange.kept hcodec hfair hkept₁, hplaying₁, hended, rfl⟩

/-! ### The last save -/

/-- **A game that was saved under the latest time is loaded**, by every order of the directory. -/
theorem loadLatest_saved (hcodec : codec.Exact) {i j : FrameInput} (hj : j.Fair codec)
    (saved app : AppState) (hkept : Kept codec saved)
    (hwritten : (SaveFiles.saveGame codec saved.saves saved.state
      (SaveFiles.generateSavePath i.time) i.writeTime i.outcome).2 = true)
    (hnewest : ∀ file ∈ saved.saves.files, file.path ≠ SaveFiles.generateSavePath i.time →
      file.lastWriteTime < i.writeTime)
    (hsaves : app.saves = (quickSave codec saved i).saves)
    (hreadable : ∀ file ∈ app.saves.files, file.Readable codec) :
    ∃ t, loadLatest codec app j = .ok t ∧ Restored saved.state t := by
  obtain ⟨data, hdata, hdirectory⟩ := SaveFiles.saveGame_done hwritten
  rw [quickSave, hdirectory] at hsaves
  obtain ⟨file, hfile, hpath, hcontent, htime⟩ := SaveFiles.exists_mem_writeTo saved.saves.files
    (SaveFiles.generateSavePath i.time) data i.writeTime
  have hmem : file ∈ app.saves.files := by
    rw [hsaves]
    exact hfile
  have hsave : SaveFiles.isSave file = true := by
    rw [SaveFiles.isSave, (hreadable file hmem).regular, hpath,
      SaveFiles.hasSaveExtension_generateSavePath]
    rfl
  have hlatest := SaveFiles.latestSavePath_of_newest (hj.listing app.saves) hmem hsave
    fun other hother hne => by
      rw [hsaves] at hother
      rw [hpath] at hne
      rcases SaveFiles.mem_writeTo.1 hother with ⟨hold, -⟩ | ⟨hsame, -⟩
      · rw [htime]
        exact hnewest other hold hne
      · exact absurd hsame hne
  obtain ⟨t, ht, hrestored, -⟩ := exists_restored hcodec hkept.sound hdata j.draws
  refine ⟨t, ?_, hrestored⟩
  rw [loadLatest, hlatest, Except.ok_bind, SaveFiles.loadGame, SaveFiles.find_of_mem hmem]
  dsimp only
  rw [if_neg (by simp [(hreadable file hmem).readable]), hcontent,
    if_neg (hkept.sound.savable.serialize_ne_nil hcodec hdata)]
  exact ht

/-- Loading leaves the saves as they are. -/
theorem quickLoad_saves {app app' : AppState} {i : FrameInput}
    (h : quickLoad codec app i = .ok app') : app'.saves = app.saves := by
  rw [quickLoad] at h
  split at h
  · cases h
  · obtain rfl := Except.ok.inj h
    rfl
  · obtain ⟨s, -, h⟩ := Except.bind_eq_ok.1 h
    obtain rfl := Except.ok.inj h
    rfl

/-- Nor does the end of a turn change them. -/
theorem endTurnIf_saves {asked : Bool} {app app' : AppState} (h : endTurnIf asked app = .ok app') :
    app'.saves = app.saves := by
  rw [endTurnIf] at h
  split at h
  · rw [endTurn] at h
    split at h
    · cases h
    · obtain rfl := Except.ok.inj h
      rfl
  · obtain rfl := Except.ok.inj h
    rfl

/-- **A frame that saves a game** ends with the saves that this leaves. -/
theorem frame_saves {app app₁ app' : AppState} {i : FrameInput} (hkeys : atKeys app i = some app₁)
    (hasked : i.f5 = true) (hframe : frame codec queue app i = .ok app') :
    app'.saves = (quickSave codec app₁ i).saves := by
  rw [frame_of_atKeys hkeys] at hframe
  obtain ⟨app₂, hsaveLoad, hframe⟩ := Except.bind_eq_ok.1 hframe
  obtain ⟨ended, hended, hframe⟩ := Except.bind_eq_ok.1 hframe
  obtain ⟨range, -, hframe⟩ := Except.bind_eq_ok.1 hframe
  obtain rfl := Except.ok.inj hframe
  refine (endTurnIf_saves hended).trans ?_
  rw [handleSaveLoad, if_pos hasked] at hsaveLoad
  split at hsaveLoad
  · exact quickLoad_saves hsaveLoad
  · obtain rfl := Except.ok.inj hsaveLoad
    rfl

/-- Without the key that saves, no change touches the saves. -/
theorem Change.saves_eq {i : FrameInput} {app app' : AppState} (h : Change codec i app app')
    (hquiet : i.f5 = false) : app'.saves = app.saves := by
  cases h with
  | rests state log saves entered => exact saves
  | plays playing play => exact play.rest.1
  | saves playing asked state log saves entered =>
      rw [asked] at hquiet
      cases hquiet
  | loads playing asked loaded view state log saves entered => exact saves
  | begins fresh setUp log saves entered => exact saves

/-! ### A game that is saved and loaded -/

/-- The screen has come up, the mouse is over the capital, and the game is saved. -/
def saveFrame : FrameInput :=
  { hoveredTile := some ⟨10, 5⟩, transitionEnds := true, f5 := true, time := "2026-01-31_12-00-00"
    writeTime := 1 }

theorem saveFrame_fair : saveFrame.Fair codec where
  hovered tile htile := by
    obtain rfl := Option.some_inj.1 htile
    decide
  listing directory := List.Perm.refl _
  cut written hcut := by cases hcut

/-- The game is loaded. -/
def loadFrame : FrameInput := { f9 := true }

/-- The game has been entered, and the screen comes up. -/
def entered (s : GameState) : AppState :=
  { state := s
    currentScreen := .inGame
    pendingScreen := .inGame
    gameInitialized := true
    transition := Transition.start .fadeIn }

/-- A new game is entered once it can be set up. -/
theorem run_enterGame (codec : Codec) (queue : CostQueue) {started : AppState}
    (hstart : start draws saves = .ok started) {s : GameState}
    (hsetup : setupDemoState started.state = .ok s) :
    Runs.run (appStep codec queue) started enterGame = some { entered s with saves } := by
  obtain ⟨state, -, hstart⟩ := Except.bind_eq_ok.1 hstart
  obtain rfl := Except.ok.inj hstart
  -- the second screen is black, and the game is set up
  have henter : changeScreen
      { state
        pendingScreen := .inGame
        transition := { direction := .fadeOut, complete := true }
        saves } = .ok { entered s with saves } := by
    change (do let state ← setupDemoState state; return _) = _
    rw [hsetup]
    rfl
  refine Runs.run_cons.2 ⟨_, rfl, Runs.run_cons.2 ⟨_, rfl,
    Runs.run_cons.2 ⟨{ entered s with saves }, ?_, rfl⟩⟩⟩
  refine appStep_eq_some.2 ?_
  change (do
    let app ← changeScreen
      { state
        pendingScreen := .inGame
        transition := { direction := .fadeOut, complete := true }
        saves }
    updateScreen codec queue app { transitionEnds := true }) = _
  rw [henter]
  rfl

/-- **A new game is entered**, by whatever codec. -/
theorem enterGame_run (draws : ℕ → TerrainType) : ∃ started s, start draws .empty = .ok started ∧
    s.Sound ∧ s.OfAppSize ∧ (∃ capital ∈ s.cities, capital.ownedBy playerFactionId = true ∧
      (⟨10, 5⟩ : TileCoord) ∈ capital.tiles) ∧
    (∃ fog : FogOfWar, fog.Fits s.map ∧
      fog.recalculate playerFactionId s.units s.cities s.map = .ok s.fog) ∧
    ∀ codec queue, Runs.run (appStep codec queue) started enterGame = some (entered s) := by
  obtain ⟨started, hstart, hready⟩ := @start_ready hamletCodec .empty draws
    fun file hfile => by cases hfile
  obtain ⟨s, hsetup, hsound, hmap, -, -, -, hview, capital, hcapital, howner, htile⟩ :=
    setupDemoState_ok hready.kept.sound hready.kept.size
  have hplayer : started.state.factionRegistry.nextFactionId = playerFactionId := by
    rw [(hready.fresh ?_).2.1]
    · rfl
    · obtain ⟨state, -, hstart⟩ := Except.bind_eq_ok.1 hstart
      obtain rfl := Except.ok.inj hstart
      rfl
  rw [hplayer] at hview howner
  refine ⟨started, s, hstart, hsound, hready.kept.size.of_map hmap,
    ⟨capital, hcapital, ?_, htile⟩, ⟨started.state.fog, ?_, hview⟩, fun codec queue => ?_⟩
  · rw [City.ownedBy, howner]
    rfl
  · rw [hmap]
    exact hready.kept.sound.fits
  exact run_enterGame codec queue hstart hsetup

/-- The mouse alone does nothing. -/
theorem handleLeftClick_idle (app : AppState) {i : FrameInput} (h : i.leftPressed = false) :
    handleLeftClick app i = .ok app := by
  rw [handleLeftClick]
  split
  · rfl
  · rw [if_pos (by simp [h])]

/-- The input of a frame in which only saving and loading is asked for. -/
theorem handleInput_idle (app : AppState) (hsound : app.state.Sound)
    (hcity : app.selectedCity = none)
    {i : FrameInput} (hi : i = { hoveredTile := i.hoveredTile, transitionEnds := i.transitionEnds
                                 cinematicEnds := i.cinematicEnds
                                 f5 := i.f5, f9 := i.f9, time := i.time
                                 writeTime := i.writeTime }) :
    handleInput app i = .ok app := by
  rw [handleInput, removeDeadUnits_of_living hsound.living]
  dsimp only
  rw [handleLeftClick_idle _ (by rw [hi]), hi]
  cases app
  obtain rfl := hcity
  simp [clearSelection, buildActions, endTurnIf, updatePanels, scrollLog]

/-- The game after it was saved by a codec. -/
def savedGame (codec : Codec) (s : GameState) : AppState :=
  { entered s with
    transition := { complete := true }
    saves := (SaveFiles.saveGame codec .empty s (SaveFiles.generateSavePath saveFrame.time)
      saveFrame.writeTime saveFrame.outcome).1 }

/-- The keys are read of the game as it was entered. -/
theorem atKeys_entered {s : GameState} (h : s.Sound) : atKeys (entered s) saveFrame =
    some { entered s with transition := { complete := true } } := by
  have hinput := handleInput_idle { entered s with transition := { complete := true } } h rfl
    (i := saveFrame) rfl
  rw [atKeys]
  change (handleInput { entered s with transition := { complete := true } } saveFrame).toOption = _
  rw [hinput]
  rfl

theorem atKeys_savedGame {s : GameState} (h : s.Sound) :
    atKeys (savedGame codec s) loadFrame = some (savedGame codec s) := by
  have hinput := handleInput_idle (savedGame codec s) h rfl (i := loadFrame) rfl
  rw [atKeys]
  change (handleInput (savedGame codec s) loadFrame).toOption = _
  rw [hinput]
  rfl

theorem saveFrame_step {s : GameState} (h : s.Sound) :
    appStep codec queue (entered s) saveFrame = some (savedGame codec s) := by
  rw [appStep_eq_some, frame_of_atKeys (atKeys_entered h)]
  rfl

/-- The codec of the message of a state writes it. -/
theorem only_written {s : GameState} {proto : Proto.GameState} (hproto : toMessage s = .ok proto) :
    (SaveFiles.saveGame (Codec.only proto) .empty s (SaveFiles.generateSavePath saveFrame.time)
      saveFrame.writeTime saveFrame.outcome).2 = true := by
  rw [SaveFiles.saveGame, serialize_only hproto]
  rfl

/-- **What was saved can be loaded in the next frame.** -/
theorem loadedBy_savedGame {s : GameState} (hsound : s.Sound) (hsize : s.OfAppSize)
    {proto : Proto.GameState} (hproto : toMessage s = .ok proto) :
    ∃ t, loadedBy (Codec.only proto) (savedGame (Codec.only proto) s) loadFrame = some t := by
  have hcodec := Codec.only_exact proto
  have hreadable := @readable_saveGame _ saveFrame hcodec saveFrame_fair .empty
    (fun file hfile => by cases hfile) _ hsound hsize (SaveFiles.generateSavePath saveFrame.time)
  obtain ⟨t, hlatest, -⟩ := loadLatest_saved hcodec (i := saveFrame) (j := loadFrame)
    (fair_of_idle rfl rfl rfl) (entered s) (savedGame _ s)
    ⟨hsound, hsize, fun file hfile => by cases hfile⟩ (only_written hproto)
    (fun file hfile => by cases hfile) rfl hreadable
  exact ⟨t, loadedBy_eq_some.2 ⟨rfl, _, atKeys_savedGame hsound, hlatest⟩⟩

/-- The frames of a game that is saved, loaded, and played on. -/
def saveAndLoad : List FrameInput := enterGame ++ [saveFrame] ++ [loadFrame] ++ [{ space := true }]

theorem saveAndLoad_fair : ∀ k ∈ saveAndLoad, k.Fair codec := by
  simp only [saveAndLoad, enterGame, List.cons_append, List.nil_append, List.forall_mem_cons]
  exact ⟨fair_of_idle rfl rfl rfl, fair_of_idle rfl rfl rfl, fair_of_idle rfl rfl rfl,
    saveFrame_fair, fair_of_idle rfl rfl rfl, fair_of_idle rfl rfl rfl,
    fun k hk => by cases hk⟩

/-- **A game that is saved and loaded**, by the codec of its message. -/
theorem saveAndLoad_run : ∃ codec started s app₃ app₄ t, codec.Exact ∧ GameState.Sound s ∧
    start (fun _ => .plains) .empty = .ok started ∧
    Runs.run (appStep codec .firstLeast) started enterGame = some (entered s) ∧
    Runs.run (appStep codec .firstLeast) started (enterGame ++ [saveFrame]) =
      some (savedGame codec s) ∧
    appStep codec .firstLeast (savedGame codec s) loadFrame = some app₃ ∧
    Runs.run (appStep codec .firstLeast) app₃ [{ space := true }] = some app₄ ∧
    loadedBy codec (savedGame codec s) loadFrame = some t ∧
    (SaveFiles.saveGame codec .empty s (SaveFiles.generateSavePath saveFrame.time)
      saveFrame.writeTime saveFrame.outcome).2 = true := by
  obtain ⟨started, s, hstart, hsound, hsize, -, -, henter⟩ := enterGame_run fun _ => .plains
  obtain ⟨proto, hproto⟩ := exists_toMessage hsound.savable.units
  have hcodec := Codec.only_exact proto
  have hsaved : Runs.run (appStep (Codec.only proto) .firstLeast) started
      (enterGame ++ [saveFrame]) = some (savedGame (Codec.only proto) s) :=
    Runs.run_append.2 ⟨_, henter _ _, Runs.run_cons.2 ⟨_, saveFrame_step hsound, rfl⟩⟩
  obtain ⟨app₄, hrun, -⟩ := run_ready (P := fun _ => True) (I := fun _ => True) hcodec .firstLeast
    (fun _ _ _ _ _ _ _ => trivial) saveAndLoad (fun k hk => ⟨saveAndLoad_fair k hk, trivial⟩)
    (ready_of_start (fun file hfile => by cases hfile) hstart) trivial
  obtain ⟨app₃, hloadRun, hend⟩ := Runs.run_append.1 hrun
  obtain ⟨app, hsaved', hload⟩ := Runs.run_append.1 hloadRun
  obtain rfl := Option.some_inj.1 (hsaved.symm.trans hsaved')
  obtain ⟨loaded, hstep, hsame⟩ := Runs.run_cons.1 hload
  obtain rfl := Option.some_inj.1 hsame
  obtain ⟨t, ht⟩ := loadedBy_savedGame hsound hsize hproto
  exact ⟨_, started, s, loaded, app₄, t, hcodec, hsound, hstart, henter _ _, hsaved, hstep,
    hend, ht,
    only_written hproto⟩

/-- **The game that was saved last is the one that is loaded**, whatever was played in between: the
turn, the terrain, the cities, buildings and units are those of the save, the player is shown the
same resources, and nothing is selected. -/
theorem last_save_loaded (hcodec : codec.Exact)
    (hsaves : ∀ file ∈ saves.files, file.Readable codec)
    {started app app₁ app₂ app₃ : AppState} (hstart : start draws saves = .ok started)
    {before between : List FrameInput} {i j : FrameInput}
    (hfair : ∀ k ∈ before ++ i :: (between ++ [j]), k.Fair codec)
    (hbefore : Runs.run (appStep codec queue) started before = some app)
    -- a frame saves the game, under a later time than the other saves have
    {s : GameState} (hsaved : savedBy app i = some s)
    (hwritten : (SaveFiles.saveGame codec app.saves s (SaveFiles.generateSavePath i.time)
      i.writeTime i.outcome).2 = true)
    (hnewest : ∀ file ∈ app.saves.files, file.path ≠ SaveFiles.generateSavePath i.time →
      file.lastWriteTime < i.writeTime)
    (hframe : appStep codec queue app i = some app₁)
    -- the game is played without saving
    (hbetween : Runs.run (appStep codec queue) app₁ between = some app₂)
    (hquiet : ∀ k ∈ between, k.f5 = false)
    -- a frame comes to the key that loads
    (hkeys : (atKeys app₂ j).isSome) (hload : j.f9 = true) (honly : j.f5 = false)
    (hstays : j.endTurnReleased = false) (hframe' : appStep codec queue app₂ j = some app₃) :
    ∃ t fog, loadedBy codec app₂ j = some t ∧ Restored s t ∧
      t.shownResources = s.shownResources ∧ app₃.state = { t with fog } ∧
      app₃.selectedUnit = noSelection := by
  have hi := hfair i (List.mem_append_right _ List.mem_cons_self)
  have hj := hfair j (List.mem_append_right _ (List.mem_cons_of_mem _
    (List.mem_append_right _ (List.mem_singleton.2 rfl))))
  have hready₀ := ready_of_start hsaves hstart
  obtain ⟨hready, haccounts⟩ := of_run (P := fun _ => True) (I := AccountsAgree) hcodec
    (fun _ _ _ _ hkept ha hchange => ha.change hkept hchange)
    (fun k hk => ⟨hfair k (List.mem_append_left _ hk), trivial⟩) hready₀
    (accountsAgree_of_start hstart) hbefore
  -- the frame that saves
  have hok := appStep_eq_some.1 hframe
  obtain ⟨app₁', hok', hready₁, -⟩ := frame_ok hcodec hi queue hready
  obtain rfl := Except.ok.inj (hok.symm.trans hok')
  obtain ⟨saved, hsavedKeys, hsaved⟩ := Option.bind_eq_some_iff.1 hsaved
  split at hsaved
  · next hasked =>
      obtain rfl := Option.some_inj.1 hsaved
      obtain ⟨hkept, -, hbegan, hchanges⟩ := atKeys_kept hcodec hi hready hsavedKeys
      have hagree := (kept_of_changes (I := fun x => Kept codec x ∧ AccountsAgree x)
        (fun _ _ hchange hx => ⟨hchange.kept hcodec hi hx.1, hx.2.change hx.1 hchange⟩)
        hchanges ⟨hready.kept, haccounts⟩).2
      rw [← hbegan] at hwritten hnewest
      have hleft := frame_saves hsavedKeys hasked hok
      -- the frames between
      obtain ⟨hready₂, hsame⟩ := of_run (P := fun k => k.f5 = false)
        (I := fun x => x.saves = app₁.saves) hcodec
        (fun _ _ _ hk _ ha hchange => (hchange.saves_eq hk).trans ha)
        (fun k hk => ⟨hfair k (List.mem_append_right _ (List.mem_cons_of_mem _
          (List.mem_append_left _ hk))), hquiet k hk⟩) hready₁ rfl hbetween
      -- the frame that loads
      obtain ⟨keys, hkeys⟩ := Option.isSome_iff_exists.1 hkeys
      obtain ⟨hkept', -, hbegan', -⟩ := atKeys_kept hcodec hj hready₂ hkeys
      obtain ⟨t, hlatest, hrestored⟩ := loadLatest_saved hcodec hj saved keys hkept hwritten hnewest
        (hbegan'.trans (hsame.trans hleft)) hkept'.saves
      have hloaded : loadedBy codec app₂ j = some t :=
        loadedBy_eq_some.2 ⟨hload, keys, hkeys, by rw [honly]; exact hlatest⟩
      obtain ⟨loaded, ended, fog, hstate, hselected, -, -, hended, happ⟩ :=
        frame_loads hcodec hj hready₂ hloaded (appStep_eq_some.1 hframe')
      rw [hstays] at hended
      obtain rfl := Except.ok.inj hended
      refine ⟨t, fog, hloaded, hrestored, ?_, ?_, ?_⟩
      · have hnone := registry_of_loadLatest hlatest
        calc t.shownResources = t.factionResources := by
              rw [shownResources, hnone]
              rfl
          _ = saved.state.factionResources := hrestored.factionResources
          _ = saved.state.shownResources := hagree.shown.symm
      · rw [happ]
        exact hstate
      · rw [happ]
        exact hselected
  · cases hsaved

/-- A new game, saved and loaded. -/
theorem saveAndLoad_last : ∃ codec s t app₃, ∃ fog : FogOfWar,
    loadedBy codec (savedGame codec s) loadFrame = some t ∧ Restored s t ∧
      t.shownResources = s.shownResources ∧ AppState.state app₃ = { t with fog } ∧
      app₃.selectedUnit = noSelection := by
  obtain ⟨codec, started, s, app₃, app₄, t, hcodec, hsound, hstart, henter, -, hload, -, -,
    hwritten⟩ :=
    saveAndLoad_run
  have hkeys : (atKeys (savedGame codec s) loadFrame).isSome := by
    rw [atKeys_savedGame hsound]
    rfl
  have hsaved : savedBy (entered s) saveFrame = some s := by
    rw [savedBy, atKeys_entered hsound]
    rfl
  obtain ⟨t, fog, h⟩ := last_save_loaded hcodec (fun file hfile => by cases hfile)
    hstart (fun k hk => saveAndLoad_fair k (List.mem_append_left [{ space := true }] hk)) henter
    hsaved hwritten (fun file hfile => by cases hfile) (saveFrame_step hsound) rfl
    (fun k hk => by cases hk) hkeys rfl rfl rfl hload
  exact ⟨codec, s, t, app₃, fog, h⟩

end AppState

/-! ### Peace -/

/-- **The end of a turn leaves everybody alone.** -/
theorem GameState.TurnEnded.leavesAlone {s s' : GameState} (h : TurnEnded s s') (f : FactionId) :
    LeavesAlone f s s' where
  diplomacy := h.diplomacy
  units p hp hf := by
    have hmem : ⟨p.ref, p.unit.startTurn⟩ ∈ s'.units.list := by
      rw [h.units]
      exact List.mem_map.2 ⟨p, hp, rfl⟩
    refine ⟨_, hmem, rfl, ?_, ?_, ?_⟩
    · rw [Unit.startTurn]
      split
      · exact hf
      · exact hf
    · rw [Unit.startTurn]
      split <;> rfl
    · rw [Unit.startTurn]
      split <;> rfl
  cities k city hcity _ := by
    obtain ⟨hlength, hsites⟩ := List.forall₂_iff_get.1 h.cities
    obtain ⟨hk, hget⟩ := List.getElem?_eq_some_iff.1 hcity
    have hk' : k < s'.cities.length := hlength ▸ hk
    have hsite := hsites k hk hk'
    rw [List.get_eq_getElem, List.get_eq_getElem, hget] at hsite
    exact ⟨s'.cities[k], List.getElem?_eq_getElem hk', hsite.id, hsite.factionId⟩

namespace AppState

/-- **A game in which nobody can be at war**: it is played, and no relation is set. -/
structure Peaceful (app : AppState) : Prop where
  diplomacy : app.state.diplomacy = DiplomacyManager.empty
  entered : app.gameInitialized = true

/-- Every faction is at peace. -/
theorem Peaceful.atPeace {app : AppState} (h : Peaceful app) (f : FactionId) :
    app.state.AtPeace f := fun g => by
  rw [h.diplomacy]
  exact areAtWar_empty f g

/-- **What the player does in peace** is not told of in the log, and leaves everybody alone. -/
theorem Peaceful.play {i : FrameInput} {app app' : AppState} (h : Peaceful app)
    (hsound : app.state.Sound)
    (hplay : Play i app app') : Peaceful app' ∧ app'.combatLog = app.combatLog ∧
    ∀ f, LeavesAlone f app.state app'.state := by
  cases hplay with
  | rests state log saves entered =>
      rw [state]
      refine ⟨⟨?_, entered.trans h.entered⟩, log, fun f => LeavesAlone.refl f _⟩
      rw [state]
      exact h.diplomacy
  | @acts action s fog events player executes view state reported quiet log saves entered =>
      have halone : ∀ f, LeavesAlone f app.state app'.state := by
        intro f
        have hacted := GameAction.execute_leavesAlone executes (h.atPeace f)
        rw [state]
        exact ⟨hacted.diplomacy, hacted.units, hacted.cities⟩
      have hnone : events = [] := by
        by_contra hevents
        obtain ⟨f, g, hwar⟩ := war_of_executes executes fun a ha => hevents (quiet a ha)
        rw [h.atPeace f g] at hwar
        cases hwar
      rw [hnone] at log
      exact ⟨⟨(halone 0).diplomacy.trans h.diplomacy, entered.trans h.entered⟩, log, halone⟩
  | @orders k city queue found queued state log saves entered =>
      have halone : ∀ f, LeavesAlone f app.state app'.state := by
        intro f
        rw [state]
        exact LeavesAlone.of_set found rfl rfl rfl rfl fun p hp hf => ⟨p, hp, rfl, hf, rfl, rfl⟩
      exact ⟨⟨(halone 0).diplomacy.trans h.diplomacy, entered.trans h.entered⟩, log, halone⟩
  | ends completes log saves entered =>
      obtain ⟨s', hturn, -, hended⟩ := hsound.processTurn
      obtain rfl := (Prod.mk.inj (completes.symm.trans hturn)).1
      exact ⟨⟨hended.diplomacy.trans h.diplomacy, entered.trans h.entered⟩, log, hended.leavesAlone⟩

/-- **In peace no change is told of in the log**, and but for loading they leave everybody alone. -/
theorem Peaceful.change {i : FrameInput} {app app' : AppState} (h : Peaceful app)
    (hsound : app.state.Sound) (hchange : Change codec i app app') : Peaceful app' ∧
    app'.combatLog = app.combatLog ∧ (i.f9 = false → ∀ f, LeavesAlone f app.state app'.state) := by
  have hsame : ∀ hstate : app'.state = app.state, app'.gameInitialized = true →
      app'.combatLog = app.combatLog → Peaceful app' ∧ app'.combatLog = app.combatLog ∧
        (i.f9 = false → ∀ f, LeavesAlone f app.state app'.state) := by
    intro hstate hentered hlog
    refine ⟨⟨?_, hentered⟩, hlog, fun _ f => ?_⟩
    · rw [hstate]
      exact h.diplomacy
    · rw [hstate]
      exact LeavesAlone.refl f _
  cases hchange with
  | rests state log saves entered => exact hsame state (entered.trans h.entered) log
  | plays playing play =>
      obtain ⟨hpeaceful, hlog, halone⟩ := h.play hsound play
      exact ⟨hpeaceful, hlog, fun _ => halone⟩
  | saves playing asked state log saves entered => exact hsame state entered log
  | @loads t fog playing asked loaded view state log saves entered =>
      have hnone := diplomacy_of_loadLatest loaded
      refine ⟨⟨?_, entered⟩, log, fun hnot => ?_⟩
      · rw [state]
        exact hnone
      · rw [asked] at hnot
        cases hnot
  | begins fresh setUp log saves entered =>
      rw [h.entered] at fresh
      cases fresh

/-- **After a game was loaded nothing is ever fought again**: nobody is at war, the log stays as it
is, and until another game is loaded no unit is hurt and no city changes hands. -/
theorem loaded_at_peace (hcodec : codec.Exact)
    (hsaves : ∀ file ∈ saves.files, file.Readable codec) {started app app₁ app₂ : AppState}
    (hstart : start draws saves = .ok started) {before after : List FrameInput} {i : FrameInput}
    (hfair : ∀ j ∈ before ++ i :: after, j.Fair codec)
    (hbefore : Runs.run (appStep codec queue) started before = some app)
    (hload : (loadedBy codec app i).isSome)
    (hframe : appStep codec queue app i = some app₁)
    (hafter : Runs.run (appStep codec queue) app₁ after = some app₂) :
    (∀ f g, app₂.state.diplomacy.areAtWar f g = false) ∧ app₂.combatLog = app₁.combatLog ∧
      ((∀ j ∈ after, j.f9 = false) → ∀ f, LeavesAlone f app₁.state app₂.state) := by
  obtain ⟨t, hload⟩ := Option.isSome_iff_exists.1 hload
  obtain ⟨hready, -⟩ := of_run (P := fun _ => True) (I := fun _ => True) hcodec
    (fun _ _ _ _ _ _ _ => trivial)
    (fun j hj => ⟨hfair j (List.mem_append_left _ hj), trivial⟩)
    (ready_of_start hsaves hstart) trivial hbefore
  have hi := hfair i (List.mem_append_right _ List.mem_cons_self)
  have hok := appStep_eq_some.1 hframe
  obtain ⟨app₁', hok', hready₁, -⟩ := frame_ok hcodec hi queue hready
  obtain rfl := Except.ok.inj (hok.symm.trans hok')
  -- the frame itself ends in peace
  have hpeaceful : Peaceful app₁ := by
    obtain ⟨-, _, -, hlatest⟩ := loadedBy_eq_some.1 hload
    have hnone := diplomacy_of_loadLatest hlatest
    obtain ⟨loaded, ended, fog, hstate, -, hkept, hplaying, hended, happ⟩ :=
      frame_loads hcodec hi hready hload hok
    have hloaded : Peaceful loaded := ⟨by rw [hstate]; exact hnone, hplaying⟩
    rw [happ]
    rw [endTurnIf] at hended
    split at hended
    · rw [endTurn] at hended
      obtain ⟨s', hturn, -, hturnEnded⟩ := hkept.sound.processTurn
      rw [hturn] at hended
      obtain rfl := Except.ok.inj hended
      exact ⟨hturnEnded.diplomacy.trans hloaded.diplomacy, hplaying⟩
    · obtain rfl := Except.ok.inj hended
      exact ⟨hloaded.diplomacy, hplaying⟩
  obtain ⟨-, hpeaceful₂, hlog, halone⟩ := of_run
    (P := fun j => (∀ j ∈ after, j.f9 = false) → j.f9 = false)
    (I := fun x => Peaceful x ∧ x.combatLog = app₁.combatLog ∧
      ((∀ j ∈ after, j.f9 = false) → ∀ f, LeavesAlone f app₁.state x.state))
    hcodec (fun j a a' hj hkept ha hchange => by
      obtain ⟨hpeace, hlog, halone⟩ := ha
      obtain ⟨hpeace', hlog', halone'⟩ := hpeace.change hkept.sound hchange
      exact ⟨hpeace', hlog'.trans hlog,
        fun hnone f => (halone hnone f).trans (halone' (hj hnone) f)⟩)
    (fun j hj => ⟨hfair j (List.mem_append_right _ (List.mem_cons_of_mem _ hj)),
      fun hnone => hnone j hj⟩)
    hready₁ ⟨hpeaceful, rfl, fun _ f => LeavesAlone.refl f _⟩ hafter
  exact ⟨fun f g => hpeaceful₂.atPeace f g, hlog, halone⟩

/-- A new game, saved, loaded, and played on. -/
theorem saveAndLoad_peace : ∃ app₃ app₄ : AppState,
    (∀ f g, app₄.state.diplomacy.areAtWar f g = false) ∧ app₄.combatLog = app₃.combatLog ∧
      ((∀ j ∈ [({ space := true } : FrameInput)], j.f9 = false) →
        ∀ f, LeavesAlone f app₃.state app₄.state) := by
  obtain ⟨codec, started, s, app₃, app₄, t, hcodec, hsound, hstart, -, hsaved, hload, hend,
    ht, -⟩ :=
    saveAndLoad_run
  refine ⟨app₃, app₄, loaded_at_peace hcodec (fun file hfile => by cases hfile) hstart
    (fun k hk => saveAndLoad_fair k ?_) hsaved ?_ hload hend⟩
  · rw [saveAndLoad, List.append_assoc]
    exact hk
  · rw [ht]
    rfl

end AppState

end My4X
