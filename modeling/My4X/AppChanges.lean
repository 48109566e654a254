/-
**What a frame of the application can do.**

A frame of the game is a sequence of few kinds of changes: an action of a unit of the player, an
order for a city, the end of a turn, a save, a load, and what happens to the selection and the
panels.  This module says what each of them changes, shows that a frame is made of nothing else, and
that it never fails: what every change keeps, the next one relies on.

Main definitions:

* `My4X.AppState.Play`, `My4X.AppState.Change` — what the player can do, and what a frame can do;
* `My4X.AppState.Ready` — what the application relies on from frame to frame;
* `My4X.FrameInput.Fair` — what a frame may expect of the mouse and the disk.

Main results:

* `My4X.AppState.Change.kept` — **every change keeps the game sound and the saves readable**;
* `My4X.AppState.frame_ok` — **a frame does not fail**, it makes changes only, and leaves the
  application ready for the next one.
-/

import My4X.AppState
import My4X.SaveContents
import Mathlib.Logic.Relation

set_option relaxedAutoImplicit false
set_option autoImplicit false

namespace My4X

/-! ### Fair frames -/

/-- **What a frame may expect of the mouse and the disk**: the tile under the mouse is one of the
map, the directory is gone through in some order of its files, and a write stops midway only where
the codec reads nothing but cut off messages of what was written. -/
structure FrameInput.Fair (codec : Codec) (i : FrameInput) : Prop where
  hovered : ∀ tile, i.hoveredTile = some tile → InBounds tile.row tile.col appMapRows appMapCols
  listing : ∀ directory, (i.listing directory).Perm directory.files
  cut : ∀ written, i.outcome = .cut written → codec.CutsShort

namespace AppState

/-! ### Changes -/

/-- **The view after an action**: it is computed anew, or the action is a capture, which comes right
after a move and leaves the view as it is. -/
inductive Viewed (s : GameState) (action : GameAction) (s' : GameState) (fog : FogOfWar) : Prop
  | anew (computed : s'.recalculateFog playerFactionId = .ok { s' with fog })
  | late {a : CaptureAction} (capture : action = .capture a) (same : fog = s'.fog)
      (moved : ∃ s₀ : GameState, s₀.Sound ∧ s₀.recalculateFog playerFactionId = .ok s)

/-- A view that is computed anew fits the map. -/
theorem fits_of_recalculateFog {s : GameState} (h : s.Sound) {fog : FogOfWar}
    (hfog : s.recalculateFog playerFactionId = .ok { s with fog }) : fog.Fits s.map := by
  obtain ⟨fog', hfog', hsound⟩ := h.recalculateFog playerFactionId
  have hsame : fog = fog' := congrArg GameState.fog (Except.ok.inj (hfog.symm.trans hfog'))
  rw [hsame]
  exact hsound.fits

theorem Viewed.fits {s s' : GameState} {action : GameAction} {fog : FogOfWar}
    (h : Viewed s action s' fog) (hsound : s'.Sound) : fog.Fits s'.map := by
  cases h with
  | anew computed => exact fits_of_recalculateFog hsound computed
  | late capture same moved =>
      rw [same]
      exact hsound.fits

/-- **What the log is told of an action**: events of the turn, and of a capture one that names the
tile of the unit. -/
structure Reported (s : GameState) (action : GameAction) (events : List CombatEvent) : Prop where
  turn : ∀ e ∈ events, e.turn = s.turn
  capture : ∀ a p, action = .capture a → s.units.get? a.unitIndex = some p →
    ∃ e, events = [e] ∧ e.isCaptureEvent = true ∧ e.tileRow = p.unit.row ∧ e.tileCol = p.unit.col

/-- **What the keys of a frame make of a queue**: its first order is cancelled, or a building is
ordered on the tile under the mouse. -/
inductive Requeued (i : FrameInput) (q : BuildQueue) : BuildQueue → Prop
  | cancels (asked : i.keyX = true) : Requeued i q q.cancel
  | enqueues {factory : BuildingFactory} (known : factory ∈ builtinFactories) {tile : TileCoord}
      (hovered : i.hoveredTile = some tile) : Requeued i q (q.enqueue factory tile.row tile.col)

/-- **What the player can do to the game** in a frame: a unit of the player acts, a city gets an
order, the turn ends; or only the selection and the panels change.  The saves stay as they are. -/
inductive Play (i : FrameInput) : AppState → AppState → Prop
  /-- The selection or the panels change. -/
  | rests {app app' : AppState} (state : app'.state = app.state)
      (log : app'.combatLog = app.combatLog) (saves : app'.saves = app.saves)
      (entered : app'.gameInitialized = app.gameInitialized) : Play i app app'
  /-- A unit of the player acts; the log tells of attacks and captures. -/
  | acts {app app' : AppState} {action : GameAction} {s : GameState} {fog : FogOfWar}
      {events : List CombatEvent}
      (player : ∃ p, app.state.units.get? action.actorIndex = some p ∧
        p.unit.factionId = playerFactionId)
      (executes : action.execute app.state = .ok (s, true)) (view : Viewed app.state action s fog)
      (state : app'.state = { s with fog })
      (reported : Reported app.state action events)
      (quiet : ∀ a, action = .move a → events = [])
      (log : app'.combatLog = events.foldl CombatLog.append app.combatLog)
      (saves : app'.saves = app.saves)
      (entered : app'.gameInitialized = app.gameInitialized) : Play i app app'
  /-- A city gets an order, or loses its first one. -/
  | orders {app app' : AppState} {k : ℕ} {city : City} {queue : BuildQueue}
      (found : app.state.cities[k]? = some city)
      (queued : Requeued i city.buildQueue queue)
      (state : app'.state = app.state.setCity k (city.setBuildQueue queue))
      (log : app'.combatLog = app.combatLog) (saves : app'.saves = app.saves)
      (entered : app'.gameInitialized = app.gameInitialized) : Play i app app'
  /-- The turn ends. -/
  | ends {app app' : AppState} (completes : processTurn app.state = (app'.state, none))
      (log : app'.combatLog = app.combatLog) (saves : app'.saves = app.saves)
      (entered : app'.gameInitialized = app.gameInitialized) : Play i app app'

variable (codec : Codec) (i : FrameInput)

/-- **A change that a frame can make.**  The game is played, saved and loaded once it is entered. -/
inductive Change : AppState → AppState → Prop
  /-- The screens change. -/
  | rests {app app' : AppState} (state : app'.state = app.state)
      (log : app'.combatLog = app.combatLog) (saves : app'.saves = app.saves)
      (entered : app'.gameInitialized = app.gameInitialized) : Change app app'
  /-- The player acts. -/
  | plays {app app' : AppState} (playing : app.gameInitialized = true) (play : Play i app app') :
      Change app app'
  /-- The game is saved. -/
  | saves {app app' : AppState} (playing : app.gameInitialized = true) (asked : i.f5 = true)
      (state : app'.state = app.state) (log : app'.combatLog = app.combatLog)
      (saves : app'.saves = (SaveFiles.saveGame codec app.saves app.state
        (SaveFiles.generateSavePath i.time) i.writeTime i.outcome).1)
      (entered : app'.gameInitialized = true) : Change app app'
  /-- A game is loaded. -/
  | loads {app app' : AppState} {t : GameState} {fog : FogOfWar}
      (playing : app.gameInitialized = true) (asked : i.f9 = true)
      (loaded : loadLatest codec app i = .ok t)
      (view : t.recalculateFog playerFactionId = .ok { t with fog })
      (state : app'.state = { t with fog }) (log : app'.combatLog = app.combatLog)
      (saves : app'.saves = app.saves) (entered : app'.gameInitialized = true) : Change app app'
  /-- The game is entered for the first time. -/
  | begins {app app' : AppState} (fresh : app.gameInitialized = false)
      (setUp : setupDemoState app.state = .ok app'.state) (log : app'.combatLog = app.combatLog)
      (saves : app'.saves = app.saves) (entered : app'.gameInitialized = true) : Change app app'

/-- The game is sound and of the right size, and the saves can be loaded. -/
structure Kept (app : AppState) : Prop where
  sound : app.state.Sound
  size : app.state.OfAppSize
  saves : ∀ file ∈ app.saves.files, file.Readable codec

variable {codec i}

/-- A change of nothing that is kept. -/
theorem Kept.of_eq {app app' : AppState} (h : Kept codec app) (hstate : app'.state = app.state)
    (hsaves : app'.saves = app.saves) : Kept codec app' where
  sound := by
    rw [hstate]
    exact h.sound
  size := by
    rw [hstate]
    exact h.size
  saves := by
    rw [hsaves]
    exact h.saves

/-- A change of the game. -/
theorem Kept.of_state {app app' : AppState} (h : Kept codec app) (hsound : app'.state.Sound)
    (hmap : app'.state.map = app.state.map) (hsaves : app'.saves = app.saves) :
    Kept codec app' where
  sound := hsound
  size := h.size.of_map hmap
  saves := by
    rw [hsaves]
    exact h.saves

/-- Another view. -/
theorem sound_view {s : GameState} (h : s.Sound) {fog : FogOfWar} (hfits : fog.Fits s.map) :
    ({ s with fog } : GameState).Sound :=
  ⟨h.living, h.inside, h.coherent.of_eq rfl rfl, hfits, h.templates, h.cities⟩

/-- **A save leaves every file one that can be loaded.** -/
theorem readable_saveGame (hcodec : codec.Exact) (hfair : i.Fair codec) {directory : SavesDirectory}
    (hfiles : ∀ file ∈ directory.files, file.Readable codec) {s : GameState} (hsound : s.Sound)
    (hsize : s.OfAppSize) (path : String) :
    ∀ file ∈ (SaveFiles.saveGame codec directory s path i.writeTime i.outcome).1.files,
      file.Readable codec := by
  have hwrite : ∀ data, LoadsSoundly codec data →
      ∀ file ∈ (SaveFiles.write directory path data i.writeTime).files, file.Readable codec := by
    intro data hdata file hfile
    rcases SaveFiles.mem_writeTo.1 hfile with ⟨hold, -⟩ | ⟨-, hcontent, -, hfile⟩
    · exact hfiles file hold
    · rcases hfile with ⟨old, hold, -, rfl⟩ | ⟨-, rfl⟩
      · exact ⟨(hfiles old hold).regular, (hfiles old hold).readable, hdata⟩
      · exact ⟨rfl, rfl, hdata⟩
  rw [SaveFiles.saveGame]
  cases hdata : serializeGameState codec s with
  | error e => exact hfiles
  | ok data =>
      have hloads := loadsSoundly_of_serialize hcodec hsound hsize hdata
      cases houtcome : i.outcome with
      | fails => exact hfiles
      | cut written => exact hwrite _ (loadsSoundly_of_cut (hfair.cut written houtcome) hsound hsize
          hdata written)
      | done => exact hwrite _ hloads

/-- What holds of the contents of the files and of what is written holds after a save. -/
theorem forall_data_saveGame {P : List UInt8 → Prop} {directory : SavesDirectory}
    (hfiles : ∀ file ∈ directory.files, P file.data) {s : GameState} (path : String)
    (hwhole : ∀ data, serializeGameState codec s = .ok data → P data)
    (hcut : ∀ written, i.outcome = .cut written → ∀ data, serializeGameState codec s = .ok data →
      P (data.take written)) :
    ∀ file ∈ (SaveFiles.saveGame codec directory s path i.writeTime i.outcome).1.files,
      P file.data := by
  have hwrite : ∀ data, P data →
      ∀ file ∈ (SaveFiles.write directory path data i.writeTime).files, P file.data := by
    intro data hdata file hfile
    rcases SaveFiles.mem_writeTo.1 hfile with ⟨hold, -⟩ | ⟨-, hcontent, -⟩
    · exact hfiles file hold
    · rw [hcontent]
      exact hdata
  rw [SaveFiles.saveGame]
  cases hdata : serializeGameState codec s with
  | error e => exact hfiles
  | ok data =>
      cases houtcome : i.outcome with
      | fails => exact hfiles
      | cut written => exact hwrite _ (hcut written houtcome data hdata)
      | done => exact hwrite _ (hwhole data hdata)

/-- What is loaded is what the file gives on a newly drawn map. -/
theorem loaded_of_loadLatest {app : AppState} {t : GameState}
    (hload : loadLatest codec app i = .ok t) :
    ∃ draws proto fresh reg, Loaded draws proto fresh reg t := by
  obtain ⟨path, -, hload⟩ := Except.bind_eq_ok.1 hload
  rw [SaveFiles.loadGame] at hload
  split at hload
  · cases hload
  · split at hload
    · cases hload
    · split at hload
      · cases hload
      · obtain ⟨proto, fresh, reg, -, hloaded⟩ := loaded_of_deserialize hload
        exact ⟨_, proto, fresh, reg, hloaded⟩

/-- What is loaded is what one of the files gives. -/
theorem exists_file_of_loadLatest {app : AppState} (h : Kept codec app) (hfair : i.Fair codec)
    {t : GameState} (hload : loadLatest codec app i = .ok t) :
    ∃ file ∈ app.saves.files, deserializeGameState codec i.draws file.data = .ok t := by
  obtain ⟨path, hpath, hload⟩ := Except.bind_eq_ok.1 hload
  obtain ⟨file, hfile, -, rfl, -⟩ := SaveFiles.latestSavePath_eq_ok (hfair.listing _) hpath
  rw [SaveFiles.loadGame, SaveFiles.find_of_mem hfile] at hload
  dsimp only at hload
  rw [if_neg (by simp [(h.saves file hfile).readable])] at hload
  split at hload
  · cases hload
  · exact ⟨file, hfile, hload⟩

/-- What is loaded is a sound state of the right size. -/
theorem sound_of_loadLatest {app : AppState} (h : Kept codec app) (hfair : i.Fair codec)
    {t : GameState} (hload : loadLatest codec app i = .ok t) : t.Sound ∧ t.OfAppSize := by
  obtain ⟨file, hfile, hload⟩ := exists_file_of_loadLatest h hfair hload
  exact ((h.saves file hfile).loads i.draws).2 t hload

/-- **What the player does keeps the game sound.** -/
theorem Play.kept {app app' : AppState} (hplay : Play i app app') (h : Kept codec app) :
    Kept codec app' := by
  cases hplay with
  | rests state log saves entered => exact h.of_eq state saves
  | @acts action s fog events player executes view state reported quiet log saves entered =>
      have hsound := h.sound.execute executes
      refine h.of_state ?_ ?_ saves
      · rw [state]
        exact sound_view hsound (view.fits hsound)
      · rw [state]
        exact (GameAction.execute_map executes : s.map = app.state.map)
  | @orders k city queue found queued state log saves entered =>
      have hcity := h.sound.cities city (List.mem_of_getElem? found)
      refine h.of_state ?_ ?_ saves
      · rw [state]
        refine h.sound.setCity k ?_
        cases queued with
        | cancels asked => exact hcity.cancel
        | @enqueues factory known tile hovered => exact hcity.enqueue known tile.row tile.col
      · rw [state]
        rfl
  | ends completes log saves entered =>
      obtain ⟨s', hturn, hsound, hended⟩ := h.sound.processTurn
      obtain rfl := (Prod.mk.inj (completes.symm.trans hturn)).1
      exact h.of_state hsound hended.map saves

/-- **Every change keeps the game sound and the saves readable.** -/
theorem Change.kept (hcodec : codec.Exact) (hfair : i.Fair codec) {app app' : AppState}
    (hchange : Change codec i app app') (h : Kept codec app) : Kept codec app' := by
  cases hchange with
  | rests state log saves entered => exact h.of_eq state saves
  | plays playing play => exact play.kept h
  | saves playing asked state log saves entered =>
      refine ⟨?_, ?_, ?_⟩
      · rw [state]
        exact h.sound
      · rw [state]
        exact h.size
      · rw [saves]
        exact readable_saveGame hcodec hfair h.saves h.sound h.size _
  | @loads t fog playing asked loaded view state log saves entered =>
      obtain ⟨hsound, hsize⟩ := sound_of_loadLatest h hfair loaded
      refine ⟨?_, ?_, ?_⟩
      · rw [state]
        exact sound_view hsound (fits_of_recalculateFog hsound view)
      · rw [state]
        exact hsize.of_map rfl
      · rw [saves]
        exact h.saves
  | begins fresh setUp log saves entered =>
      obtain ⟨s', hok, hsound, hmap, -⟩ := setupDemoState_ok h.sound h.size
      obtain rfl := Except.ok.inj (setUp.symm.trans hok)
      exact h.of_state hsound hmap saves

/-- What every change keeps, several of them keep. -/
theorem kept_of_changes {R : AppState → AppState → Prop} {I : AppState → Prop}
    (hR : ∀ app app', R app app' → I app → I app') {app app' : AppState}
    (h : Relation.ReflTransGen R app app') (hI : I app) : I app' := by
  induction h with
  | refl => exact hI
  | tail _ hstep ih => exact hR _ _ hstep ih

/-! ### Selections -/

/-- An access within the list. -/
theorem at_eq_ok {units : UnitVec} {index : ℤ} {p : OwnedUnit} :
    units.at index = .ok p ↔ ∃ k : ℕ, index = k ∧ units.get? k = some p := by
  rw [UnitVec.at]
  constructor
  · intro h
    split at h
    · cases h
    · next hnonneg =>
        split at h
        · next q hq =>
            obtain rfl := Except.ok.inj h
            exact ⟨index.toNat, (Int.toNat_of_nonneg (not_lt.1 hnonneg)).symm, hq⟩
        · cases h
  · rintro ⟨k, rfl, hp⟩
    rw [if_neg (by omega), Int.toNat_natCast, hp]

/-- Nothing is selected, or a unit of the list. -/
def Selects (app : AppState) : Prop :=
  app.selectedUnit = noSelection ∨ ∃ k : ℕ, app.selectedUnit = k ∧ k < app.state.units.size

theorem selects_of_at {app : AppState} {p : OwnedUnit}
    (h : app.state.units.at app.selectedUnit = .ok p) : app.Selects := by
  obtain ⟨k, hk, hp⟩ := at_eq_ok.1 h
  exact Or.inr ⟨k, hk, UnitVec.get?_lt hp⟩

theorem Selects.of_size {app app' : AppState} (h : app.Selects)
    (hselected : app'.selectedUnit = app.selectedUnit)
    (hsize : app'.state.units.size = app.state.units.size) : app'.Selects := by
  rw [Selects, hselected, hsize]
  exact h

theorem Selects.exists_at {app : AppState} (h : app.Selects)
    (hsome : app.selectedUnit ≠ noSelection) :
    ∃ k : ℕ, ∃ p, app.selectedUnit = k ∧ app.state.units.get? k = some p := by
  rcases h with hnone | ⟨k, hk, hlt⟩
  · exact absurd hnone hsome
  · obtain ⟨p, hp⟩ := UnitVec.exists_get?_of_lt hlt
    exact ⟨k, p, hk, hp⟩

/-- The unit that is found on a tile is one of the list. -/
theorem findUnitAtTile_cases (s : GameState) (row col : ℤ) :
    findUnitAtTile s row col = noSelection ∨
      ∃ k : ℕ, ∃ p, findUnitAtTile s row col = k ∧ s.units.get? k = some p := by
  rw [findUnitAtTile]
  cases hfind : s.units.list.findIdx? fun p =>
      p.unit.isAlive && decide (p.unit.row = row) && decide (p.unit.col = col) with
  | none => exact Or.inl rfl
  | some k =>
      obtain ⟨hlt, -⟩ := List.findIdx?_eq_some_iff_getElem.1 hfind
      exact Or.inr ⟨k, _, rfl, List.getElem?_eq_getElem hlt⟩

/-! ### Steps -/

/-- What the menus are about. -/
def shell (app : AppState) : Screen × Screen × Transition × Bool × Bool :=
  (app.currentScreen, app.pendingScreen, app.transition, app.gameInitialized, app.quitRequested)

/-- **One state follows another by changes of a kind**, on the same screen. -/
structure Follows (R : AppState → AppState → Prop) (app app' : AppState) : Prop where
  changes : Relation.ReflTransGen R app app'
  shell : app'.shell = app.shell
  scroll : 0 ≤ app.combatLogScroll → 0 ≤ app'.combatLogScroll

section Steps

variable {R : AppState → AppState → Prop} {app app' app'' : AppState}

theorem Follows.refl (app : AppState) : Follows R app app :=
  ⟨Relation.ReflTransGen.refl, rfl, id⟩

theorem Follows.trans (h : Follows R app app') (h' : Follows R app' app'') :
    Follows R app app'' where
  changes := h.changes.trans h'.changes
  shell := h'.shell.trans h.shell
  scroll hscroll := h'.scroll (h.scroll hscroll)

/-- A single change. -/
theorem Follows.single (h : R app app') (hshell : app'.shell = app.shell)
    (hscroll : app'.combatLogScroll = app.combatLogScroll) : Follows R app app' where
  changes := Relation.ReflTransGen.single h
  shell := hshell
  scroll h := by
    rw [hscroll]
    exact h

/-- Nothing but the selection changes. -/
theorem follows_select (app : AppState) (selectedUnit : ℤ) (selectedCity : Option CityId) :
    Follows (Play i) app { app with selectedUnit, selectedCity } :=
  Follows.single (.rests rfl rfl rfl rfl) rfl rfl

/-- A computation succeeds by changes of a kind, and leaves a selection of the list. -/
def Succeeds (R : AppState → AppState → Prop) (app : AppState)
    (out : Except Fault AppState) : Prop :=
  ∃ app', out = .ok app' ∧ Follows R app app' ∧ app'.Selects

/-- The same of a click, which also tells whether it is used up. -/
def ClickSucceeds (i : FrameInput) (app : AppState) (out : Except Fault (AppState × Bool)) : Prop :=
  ∃ app' used, out = .ok (app', used) ∧ Follows (Play i) app app' ∧ app'.Selects

theorem Succeeds.bind {out : Except Fault AppState} {f : AppState → Except Fault AppState}
    (h : Succeeds R app out)
    (hf : ∀ app', Follows R app app' → app'.Selects → Succeeds R app' (f app')) :
    Succeeds R app (out >>= f) := by
  obtain ⟨app', rfl, hfollows, hselects⟩ := h
  obtain ⟨app'', hout, hfollows', hselects'⟩ := hf app' hfollows hselects
  exact ⟨app'', hout, hfollows.trans hfollows', hselects'⟩

/-- What the player does keeps the game sound. -/
theorem Follows.kept (h : Follows (Play i) app app') (hkept : Kept codec app) : Kept codec app' :=
  kept_of_changes (fun _ _ hplay => hplay.kept) h.changes hkept

/-- What the player does leaves the saves as they are. -/
theorem Play.rest (h : Play i app app') :
    app'.saves = app.saves ∧ app'.gameInitialized = app.gameInitialized := by
  cases h with
  | rests state log saves entered => exact ⟨saves, entered⟩
  | acts player executes view state reported quiet log saves entered => exact ⟨saves, entered⟩
  | orders found queued state log saves entered => exact ⟨saves, entered⟩
  | ends completes log saves entered => exact ⟨saves, entered⟩

theorem rest_of_plays (h : Relation.ReflTransGen (Play i) app app') :
    app'.saves = app.saves ∧ app'.gameInitialized = app.gameInitialized := by
  induction h with
  | refl => exact ⟨rfl, rfl⟩
  | tail _ hplay ih => exact ⟨hplay.rest.1.trans ih.1, hplay.rest.2.trans ih.2⟩

/-- **What the player does is a change**, once the game is entered. -/
theorem changes_of_plays (hplaying : app.gameInitialized = true)
    (h : Relation.ReflTransGen (Play i) app app') :
    Relation.ReflTransGen (Change codec i) app app' := by
  induction h with
  | refl => exact Relation.ReflTransGen.refl
  | tail hplays hplay ih =>
      exact ih.tail (.plays ((rest_of_plays hplays).2.trans hplaying) hplay)

theorem Follows.asChanges (h : Follows (Play i) app app') (hplaying : app.gameInitialized = true) :
    Follows (Change codec i) app app' :=
  ⟨changes_of_plays hplaying h.changes, h.shell, h.scroll⟩

/-- The game stays entered. -/
theorem Follows.entered (h : Follows R app app') : app'.gameInitialized = app.gameInitialized :=
  congrArg (fun x : Screen × Screen × Transition × Bool × Bool => x.2.2.2.1) h.shell

end Steps

/-! ### Clicks -/

/-- **The selection after an attack** follows its unit, past the one that died. -/
theorem selection_after (combat : CombatResult) {k l size size' : ℕ} (hk : k < size) (hl : l < size)
    (hne : k ≠ l) (hsize : size' + AttackAction.deaths combat = size) :
    (if combat.attackerDied then noSelection
      else if combat.defenderDied ∧ (l : ℤ) < k then (k : ℤ) - 1 else k) = noSelection ∨
    ∃ j : ℕ, (if combat.attackerDied then noSelection
      else if combat.defenderDied ∧ (l : ℤ) < k then (k : ℤ) - 1 else k) = j ∧ j < size' := by
  rw [AttackAction.deaths] at hsize
  cases hattacker : combat.attackerDied with
  | true => exact Or.inl (if_pos rfl)
  | false =>
      rw [if_neg (by decide)]
      rw [hattacker] at hsize
      cases hdefender : combat.defenderDied with
      | false =>
          rw [hdefender] at hsize
          rw [if_neg (by simp)]
          exact Or.inr ⟨k, rfl, by simpa [← hsize] using hk⟩
      | true =>
          rw [hdefender] at hsize
          by_cases hlt : (l : ℤ) < k
          · rw [if_pos ⟨rfl, hlt⟩]
            refine Or.inr ⟨k - 1, by omega, ?_⟩
            simp only [if_true, Bool.false_eq_true, if_false] at hsize
            omega
          · rw [if_neg fun hboth => hlt hboth.2]
            refine Or.inr ⟨k, rfl, ?_⟩
            simp only [if_true, Bool.false_eq_true, if_false] at hsize
            omega

section Clicks

variable {app : AppState} (h : Kept codec app)

include h

/-- **An attack by the selected unit**; unless it comes to an attack nothing changes. -/
theorem tryAttack_ok {k l : ℕ} {p q : OwnedUnit} (hselected : app.selectedUnit = k)
    (hp : app.state.units.get? k = some p) (hplayer : p.unit.factionId = playerFactionId)
    (hq : app.state.units.get? l = some q) (hne : k ≠ l) :
    ∃ app' attacked, tryAttack app l = .ok (app', attacked) ∧ Follows (Play i) app app' ∧
      app'.Selects ∧ (attacked = false → app' = app) := by
  have hat : app.state.units.at app.selectedUnit = .ok p := at_eq_ok.2 ⟨k, hselected, hp⟩
  have hat' : app.state.units.at (l : ℤ) = .ok q := at_eq_ok.2 ⟨l, rfl, hq⟩
  rw [tryAttack, hat, Except.ok_bind, hat', Except.ok_bind]
  dsimp only
  split
  · exact ⟨app, false, rfl, Follows.refl app, selects_of_at hat, fun _ => rfl⟩
  · obtain ⟨⟨s', r⟩, hout⟩ := AttackAction.execute_of_inside
      ⟨app.selectedUnit.toNat, (l : ℤ).toNat⟩ h.sound.inside
    have hindex : app.selectedUnit.toNat = k := by omega
    rw [hout, Except.ok_bind]
    obtain ⟨-, ⟨hrefused, -, rfl⟩ | ⟨hexecuted, -, p', q', attacker, target, hround, rfl⟩⟩ :=
      AttackAction.execute_cases hout
    · rw [if_pos (by simp [hrefused])]
      exact ⟨_, false, rfl, Follows.refl app, selects_of_at hat, fun _ => rfl⟩
    · rw [if_neg (by simp [hexecuted])]
      have hsound := h.sound.attack hout
      obtain ⟨fog, hfog, -⟩ := hsound.recalculateFog playerFactionId
      rw [hfog]
      refine ⟨_, true, rfl, Follows.single ?_ rfl rfl, ?_, fun hfalse => by cases hfalse⟩
      · refine @Play.acts i app _ (.attack _) _ fog [_] ⟨p, ?_, hplayer⟩
          (GameAction.execute_attack.2 ⟨r, hout, hexecuted⟩) (.anew hfog) rfl
          ⟨fun e he => ?_, fun _ _ hcapture => by cases hcapture⟩
          (fun _ hmove => by cases hmove) rfl rfl rfl
        · exact (congrArg app.state.units.get? hindex).trans hp
        · rw [List.mem_singleton.1 he, attackEvent]
      · have hsize := AttackAction.outcome_size hround
        have hnext := selection_after r.combat (UnitVec.get?_lt hp) (UnitVec.get?_lt hq)
          hne hsize
        rw [← hselected] at hnext
        exact hnext

/-- **A move of the selected unit**, and the capture at its end. -/
theorem tryMoveUnit_ok {k : ℕ} {p : OwnedUnit} (hselected : app.selectedUnit = k)
    (hp : app.state.units.get? k = some p) (hplayer : p.unit.factionId = playerFactionId)
    {tile : TileCoord}
    (htile : InBounds tile.row tile.col app.state.map.height app.state.map.width) :
    ClickSucceeds i app (tryMoveUnit app tile) := by
  have hat : app.state.units.at app.selectedUnit = .ok p := at_eq_ok.2 ⟨k, hselected, hp⟩
  have hindex : app.selectedUnit.toNat = k := by omega
  have hreturns : ∃ out, MoveAction.execute ⟨app.selectedUnit.toNat, tile.row, tile.col⟩ app.state =
      .ok out := by
    obtain ⟨⟨s', executed⟩, hout⟩ := (MoveAction.returns_iff
      ⟨app.selectedUnit.toNat, tile.row, tile.col⟩ app.state).2 fun _ => htile
    obtain ⟨r, hex, -⟩ := GameAction.execute_move.1 hout
    exact ⟨_, hex⟩
  obtain ⟨⟨s', r⟩, hout⟩ := hreturns
  rw [tryMoveUnit, hat, Except.ok_bind]
  dsimp only
  rw [hout, Except.ok_bind]
  obtain ⟨-, ⟨hrefused, -, rfl⟩ | ⟨hexecuted, -, p', u, t, hp', -, hmove, rfl⟩⟩ :=
    MoveAction.execute_cases hout
  · rw [if_pos (by simp [hrefused])]
    exact ⟨_, false, rfl, Follows.refl app, selects_of_at hat⟩
  · rw [if_neg (by simp [hexecuted])]
    have hex := GameAction.execute_move.2 ⟨r, hout, hexecuted⟩
    have hsound := h.sound.execute hex
    obtain ⟨fog, hfog, -⟩ := hsound.recalculateFog playerFactionId
    obtain ⟨⟨s'', c⟩, hcapture⟩ := CaptureAction.execute_returns ⟨app.selectedUnit.toNat⟩
      { app.state.relocate app.selectedUnit.toNat p' u with fog }
    rw [hfog, Except.ok_bind, hcapture, Except.ok_bind]
    have hmoved : Play i app
        { app with state := { app.state.relocate app.selectedUnit.toNat p' u with fog } } := by
      refine @Play.acts i app _ (.move _) _ fog [] ⟨p, ?_, hplayer⟩ hex (.anew hfog) rfl
        ⟨fun e he => absurd he List.not_mem_nil, fun _ _ hcapture => by cases hcapture⟩
        (fun _ _ => rfl) rfl rfl rfl
      exact (congrArg app.state.units.get? hindex).trans hp
    have hselects :
        ({ app with state := { app.state.relocate app.selectedUnit.toNat p' u with fog } } :
        AppState).Selects := (selects_of_at hat).of_size rfl (UnitVec.size_set ..)
    refine ⟨_, true, rfl, ?_⟩
    obtain ⟨-, ⟨hnot, -, rfl⟩ | ⟨hdone, -, o, j, city, htaken, rfl⟩⟩ :=
      CaptureAction.execute_cases hcapture
    · rw [if_neg (by simp [hnot])]
      exact ⟨Follows.single hmoved rfl rfl, hselects⟩
    · rw [if_pos (by simp [hdone])]
      refine ⟨(Follows.single hmoved rfl rfl).trans (Follows.single ?_ rfl rfl), hselects⟩
      refine @Play.acts i _ _ (.capture _) _ fog [_] ⟨⟨p'.ref, u⟩, ?_, ?_⟩
        (GameAction.execute_capture.2 ⟨c, hcapture, hdone⟩) (.late rfl rfl ⟨_, hsound, hfog⟩) rfl
        ⟨fun e he => ?_, fun a q hsame hq => ?_⟩ (fun _ hmove => by cases hmove) rfl rfl rfl
      · change (app.state.units.set app.selectedUnit.toNat u).get? app.selectedUnit.toNat = _
        rw [UnitVec.get?_set, if_pos rfl, hp']
        rfl
      · have hsame : some p' = some p :=
          hp'.symm.trans ((congrArg app.state.units.get? hindex).trans hp)
        obtain rfl := Option.some_inj.1 hsame
        obtain ⟨-, -, -, -, -, -, hfaction, -⟩ := Unit.moveTo_eq_ok hmove
        exact hfaction.trans hplayer
      · rw [List.mem_singleton.1 he, captureEvent]
        rfl
      · -- the unit has moved to the tile that was clicked
        obtain rfl := GameAction.capture.inj hsame
        have hset : (app.state.units.set app.selectedUnit.toNat u).get? app.selectedUnit.toNat =
            some q := hq
        rw [UnitVec.get?_set, if_pos rfl, hp'] at hset
        obtain rfl := Option.some_inj.1 hset
        obtain ⟨-, -, hrow, hcol, -⟩ := Unit.moveTo_eq_ok hmove
        exact ⟨_, rfl, rfl, hrow.symm, hcol.symm⟩

/-- The end of a click with a selected unit of the player. -/
theorem moveOrDeselect_ok {k : ℕ} {p : OwnedUnit} (hselected : app.selectedUnit = k)
    (hp : app.state.units.get? k = some p) (hplayer : p.unit.factionId = playerFactionId)
    {tile : TileCoord} (htile : InBounds tile.row tile.col app.state.map.height app.state.map.width)
    (clickedUnit : ℤ) : ClickSucceeds i app (moveOrDeselect app tile clickedUnit) := by
  rw [moveOrDeselect]
  split
  · exact tryMoveUnit_ok h hselected hp hplayer htile
  · split
    · exact ⟨_, true, rfl, follows_select app noSelection app.selectedCity, Or.inl rfl⟩
    · exact ⟨app, false, rfl, Follows.refl app, Or.inr ⟨k, hselected, UnitVec.get?_lt hp⟩⟩

/-- **A click when a unit is selected.** -/
theorem handleSelectedUnitClick_ok {k : ℕ} {p : OwnedUnit} (hselected : app.selectedUnit = k)
    (hp : app.state.units.get? k = some p)
    {tile : TileCoord} (htile : InBounds tile.row tile.col app.state.map.height app.state.map.width)
    {clickedUnit : ℤ} (hclicked : clickedUnit = noSelection ∨
      ∃ l : ℕ, ∃ q, clickedUnit = l ∧ app.state.units.get? l = some q) :
    ClickSucceeds i app (handleSelectedUnitClick app tile clickedUnit) := by
  have hat : app.state.units.at app.selectedUnit = .ok p := at_eq_ok.2 ⟨k, hselected, hp⟩
  have hselects : app.Selects := selects_of_at hat
  rw [handleSelectedUnitClick, hat, Except.ok_bind]
  split
  · -- a foreign unit is selected: the click selects another unit, or none
    rcases hclicked with rfl | ⟨l, q, rfl, hq⟩
    · rw [if_neg (by simp)]
      exact ⟨_, false, rfl, follows_select app noSelection app.selectedCity, Or.inl rfl⟩
    · rw [if_pos (by simp [noSelection])]
      exact ⟨_, true, rfl, follows_select app l app.selectedCity,
        Or.inr ⟨l, rfl, UnitVec.get?_lt hq⟩⟩
  · next hplayer =>
      rw [not_not] at hplayer
      split
      · next hother =>
          obtain ⟨l, q, rfl, hq⟩ := hclicked.resolve_left hother.1
          have hne : k ≠ l := fun heq => hother.2 (by rw [hselected, heq])
          obtain ⟨app', attacked, hattack, hfollows, hselects', hnone⟩ :=
            tryAttack_ok h hselected hp hplayer hq hne
          rw [hattack, Except.ok_bind]
          cases attacked with
          | true => exact ⟨app', true, rfl, hfollows, hselects'⟩
          | false =>
              obtain rfl := hnone rfl
              rw [if_neg (by simp), at_eq_ok.2 ⟨l, rfl, hq⟩, Except.ok_bind]
              split
              · exact ⟨_, true, rfl, follows_select app' l app'.selectedCity,
                  Or.inr ⟨l, rfl, UnitVec.get?_lt hq⟩⟩
              · exact moveOrDeselect_ok h hselected hp hplayer htile l
      · exact moveOrDeselect_ok h hselected hp hplayer htile clickedUnit

/-- **A click on a tile of the map.** -/
theorem handleUnitClick_ok (hselects : app.Selects) {tile : TileCoord}
    (htile : InBounds tile.row tile.col app.state.map.height app.state.map.width) :
    ClickSucceeds i app (handleUnitClick app tile) := by
  have hclicked := findUnitAtTile_cases app.state tile.row tile.col
  rw [handleUnitClick]
  split
  · next hsome =>
      obtain ⟨k, p, hselected, hp⟩ := hselects.exists_at hsome
      rw [at_eq_ok.2 ⟨k, hselected, hp⟩]
      dsimp only
      rw [if_neg (by simp [h.sound.living p (UnitVec.mem_list_of_get? hp)])]
      exact handleSelectedUnitClick_ok h hselected hp htile hclicked
  · split
    · next hfound =>
        obtain ⟨l, q, hl, hq⟩ := hclicked.resolve_left hfound
        exact ⟨_, true, rfl, follows_select app _ app.selectedCity,
          Or.inr ⟨l, hl, UnitVec.get?_lt hq⟩⟩
    · exact ⟨app, false, rfl, Follows.refl app, hselects⟩

/-- **The left mouse button.** -/
theorem handleLeftClick_ok (hfair : i.Fair codec) (hselects : app.Selects) :
    Succeeds (Play i) app (handleLeftClick app i) := by
  rw [handleLeftClick]
  cases htile : i.hoveredTile with
  | none => exact ⟨app, rfl, Follows.refl app, hselects⟩
  | some tile =>
      dsimp only
      split
      · exact ⟨app, rfl, Follows.refl app, hselects⟩
      · have hin := hfair.hovered tile htile
        rw [← h.size.height, ← h.size.width] at hin
        obtain ⟨app', used, hclick, hfollows, hselects'⟩ :=
          handleUnitClick_ok h hselects hin
        rw [hclick, Except.ok_bind]
        cases used with
        | true => exact ⟨app', rfl, hfollows, hselects'⟩
        | false =>
            exact ⟨_, rfl, hfollows.trans (follows_select app' app'.selectedUnit _), hselects'⟩

end Clicks

/-! ### Keys -/

/-- **What the keys for a city do to the game**: one queue is changed, or nothing. -/
theorem handleBuildActions_cases (s : GameState) (cityId : CityId) (i : FrameInput) :
    handleBuildActions s cityId i = s ∨
      ∃ k city queue, s.cities[k]? = some city ∧ Requeued i city.buildQueue queue ∧
        handleBuildActions s cityId i = s.setCity k (city.setBuildQueue queue) := by
  have hchange : ∀ f : BuildQueue → BuildQueue, (∀ q, Requeued i q (f q)) →
      changeQueue s cityId f = s ∨ ∃ k city queue, s.cities[k]? = some city ∧
        Requeued i city.buildQueue queue ∧
        changeQueue s cityId f = s.setCity k (city.setBuildQueue queue) := by
    intro f hf
    rw [changeQueue]
    split
    · exact Or.inl rfl
    · next k hk =>
        split
        · exact Or.inl rfl
        · next city hcity => exact Or.inr ⟨k, city, _, hcity, hf city.buildQueue, rfl⟩
  rw [handleBuildActions]
  split
  · exact Or.inl rfl
  · split
    · next hcancel => exact hchange _ fun q => .cancels hcancel.1
    · split
      · exact Or.inl rfl
      · next tile htile =>
          have henqueue : ∀ factory ∈ builtinFactories, ∀ q : BuildQueue,
              Requeued i q (q.enqueue factory tile.row tile.col) :=
            fun factory hfactory q => .enqueues hfactory htile
          dsimp only
          split
          · exact hchange _ (henqueue makeFarm (by simp [builtinFactories]))
          · split
            · exact hchange _ (henqueue makeMine (by simp [builtinFactories]))
            · split
              · exact hchange _ (henqueue makeMarket (by simp [builtinFactories]))
              · exact Or.inl rfl

/-- The keys for the selected city. -/
theorem buildActions_follows (app : AppState) (i : FrameInput) (hselects : app.Selects) :
    Follows (Play i) app (buildActions app i) ∧ (buildActions app i).Selects := by
  rw [buildActions]
  split
  · exact ⟨Follows.refl app, hselects⟩
  · next cityId _ =>
      rcases handleBuildActions_cases app.state cityId i with hsame | ⟨k, city, queue, hcity,
        hqueue, h⟩
      · rw [hsame]
        exact ⟨Follows.refl app, hselects⟩
      · rw [h]
        exact ⟨Follows.single (.orders hcity hqueue rfl rfl rfl rfl) rfl rfl, hselects⟩

/-- **The end of a turn.** -/
theorem endTurn_ok {app : AppState} (h : Kept codec app) (hselects : app.Selects) :
    Succeeds (Play i) app (endTurn app) := by
  obtain ⟨s', hturn, -, hended⟩ := h.sound.processTurn
  rw [endTurn, hturn]
  refine ⟨_, rfl, Follows.single (.ends hturn rfl rfl rfl) rfl rfl, hselects.of_size rfl ?_⟩
  rw [UnitVec.size, UnitVec.size]
  dsimp only
  rw [hended.units, UnitVec.mapUnits]
  exact List.length_map ..

/-- The end of a turn, if it is asked for. -/
theorem endTurnIf_ok (asked : Bool) {app : AppState} (h : Kept codec app)
    (hselects : app.Selects) : Succeeds (Play i) app (endTurnIf asked app) := by
  rw [endTurnIf]
  split
  · exact endTurn_ok h hselects
  · exact ⟨app, rfl, Follows.refl app, hselects⟩

theorem scrollLog_nonneg {scroll : ℤ} (h : 0 ≤ scroll) (i : FrameInput) :
    0 ≤ scrollLog scroll i := by
  rw [scrollLog]
  split_ifs <;> omega

/-- The panels change. -/
theorem updatePanels_follows (app : AppState) (i : FrameInput) (hselects : app.Selects) :
    Follows (Play i) app (updatePanels app i) ∧ (updatePanels app i).Selects :=
  ⟨⟨Relation.ReflTransGen.single (.rests rfl rfl rfl rfl), rfl, fun h => scrollLog_nonneg h i⟩,
    hselects⟩

/-- **What the mouse and the keys do.** -/
theorem handleInput_ok (hfair : i.Fair codec) {app : AppState} (h : Kept codec app)
    (hselects : app.Selects) : Succeeds (Play i) app (handleInput app i) := by
  rw [handleInput, GameState.removeDeadUnits_of_living h.sound.living]
  refine (handleLeftClick_ok h hfair hselects).bind fun app₁ hclicked hselects₁ => ?_
  have hcleared : Follows (Play i) app₁ (clearSelection app₁ i) ∧
    (clearSelection app₁ i).Selects := by
    rw [clearSelection]
    split
    · exact ⟨follows_select app₁ noSelection none, Or.inl rfl⟩
    · exact ⟨Follows.refl app₁, hselects₁⟩
  obtain ⟨hbuilt, hselects₂⟩ := buildActions_follows _ i hcleared.2
  have hfollows := hcleared.1.trans hbuilt
  have hturn : Succeeds (Play i) app₁
      (endTurnIf i.space (buildActions (clearSelection app₁ i) i)) := by
    obtain ⟨app', hout, hended, hselects'⟩ :=
      endTurnIf_ok i.space (hfollows.kept (hclicked.kept h)) hselects₂
    exact ⟨app', hout, hfollows.trans hended, hselects'⟩
  refine hturn.bind fun app₂ _ hselects₃ => ?_
  obtain ⟨hpanels, hselects₄⟩ := updatePanels_follows app₂ i hselects₃
  exact ⟨_, rfl, hpanels, hselects₄⟩

/-! ### Saves -/

/-- **Loading does not fail**: an exception is caught, and the game goes on. -/
theorem quickLoad_ok (hfair : i.Fair codec) {app : AppState} (h : Kept codec app)
    (hselects : app.Selects) (hplaying : app.gameInitialized = true) (hasked : i.f9 = true) :
    Succeeds (Change codec i) app (quickLoad codec app i) := by
  rw [quickLoad]
  cases hload : loadLatest codec app i with
  | error e =>
      -- nothing that is read of a file fails an assertion
      have hcaught : e ≠ .assertion := by
        rintro rfl
        rw [loadLatest] at hload
        cases hpath : SaveFiles.latestSavePath app.saves (i.listing app.saves) with
        | error e =>
            rw [hpath] at hload
            obtain rfl := Except.error.inj hload
            rw [SaveFiles.latestSavePath] at hpath
            split at hpath
            · cases hpath
            · split at hpath <;> cases hpath
        | ok path =>
            rw [hpath, Except.ok_bind] at hload
            obtain ⟨file, hfile, -, rfl, -⟩ :=
              SaveFiles.latestSavePath_eq_ok (hfair.listing _) hpath
            rw [SaveFiles.loadGame, SaveFiles.find_of_mem hfile] at hload
            dsimp only at hload
            split at hload
            · cases hload
            · split at hload
              · cases hload
              · exact ((h.saves file hfile).loads i.draws).1 hload
      cases e with
      | assertion => exact absurd rfl hcaught
      | _ => exact ⟨app, rfl, Follows.refl app, hselects⟩
  | ok t =>
      obtain ⟨hsound, -⟩ := sound_of_loadLatest h hfair hload
      obtain ⟨fog, hfog, -⟩ := hsound.recalculateFog playerFactionId
      dsimp only
      rw [hfog, Except.ok_bind]
      refine ⟨_, rfl, Follows.single ?_ rfl rfl, Or.inl rfl⟩
      exact .loads hplaying hasked hload hfog rfl rfl rfl hplaying

/-- The keys that save and load. -/
theorem handleSaveLoad_ok (hcodec : codec.Exact) (hfair : i.Fair codec) {app : AppState}
    (h : Kept codec app) (hselects : app.Selects) (hplaying : app.gameInitialized = true) :
    Succeeds (Change codec i) app (handleSaveLoad codec app i) := by
  have hsaved : Follows (Change codec i) app (if i.f5 then quickSave codec app i else app) ∧
      (if i.f5 then quickSave codec app i else app).Selects := by
    split
    · next hasked =>
        exact ⟨Follows.single (.saves hplaying hasked rfl rfl rfl hplaying) rfl rfl, hselects⟩
    · exact ⟨Follows.refl app, hselects⟩
  have hkept := kept_of_changes (fun _ _ hchange => hchange.kept hcodec hfair) hsaved.1.changes h
  rw [handleSaveLoad]
  split
  · next hasked =>
      obtain ⟨app', hout, hloaded, hselects'⟩ :=
        quickLoad_ok hfair hkept hsaved.2 (hsaved.1.entered.trans hplaying) hasked
      exact ⟨app', hout, hsaved.1.trans hloaded, hselects'⟩
  · exact ⟨_, rfl, hsaved⟩

/-! ### Frames -/

/-- **The player acts.** -/
theorem act_ok (hcodec : codec.Exact) (hfair : i.Fair codec) {app : AppState} (h : Kept codec app)
    (hselects : app.Selects) (hplaying : app.gameInitialized = true) :
    Succeeds (Change codec i) app (act codec app i) := by
  rw [act]
  split
  · exact ⟨app, rfl, Follows.refl app, hselects⟩
  · obtain ⟨app₁, hinput, hplayed, hselects₁⟩ := handleInput_ok hfair h hselects
    have hplaying₁ := hplayed.entered.trans hplaying
    obtain ⟨app₂, hsaveLoad, hsaved, hselects₂⟩ :=
      handleSaveLoad_ok hcodec hfair (hplayed.kept h) hselects₁ hplaying₁
    have hkept := kept_of_changes (fun _ _ hchange => hchange.kept hcodec hfair) hsaved.changes
      (hplayed.kept h)
    obtain ⟨app₃, hturn, hended, hselects₃⟩ := endTurnIf_ok i.endTurnReleased hkept hselects₂
    rw [hinput, Except.ok_bind, hsaveLoad, Except.ok_bind, hturn]
    have hplaying₂ := hsaved.entered.trans hplaying₁
    exact ⟨app₃, rfl, ((hplayed.asChanges hplaying).trans hsaved).trans
      (hended.asChanges hplaying₂),
      hselects₃⟩

/-- The range of the selected unit can be shown. -/
theorem shownRange_ok (queue : CostQueue) {app : AppState} (hselects : app.Selects) :
    ∃ range, shownRange queue app = .ok range := by
  rw [shownRange]
  split
  · exact ⟨[], rfl⟩
  · next hsome =>
      obtain ⟨k, p, hselected, hp⟩ := hselects.exists_at hsome
      rw [at_eq_ok.2 ⟨k, hselected, hp⟩, Except.ok_bind]
      split
      · obtain ⟨range, hrange, -⟩ := computeMovementRange_spec p.unit.movementRemaining
          app.state.map
          app.state.registry app.state.units p.unit.factionId queue p.unit.row p.unit.col
        exact ⟨range, hrange⟩
      · exact ⟨[], rfl⟩

/-- A camera flight may end. -/
theorem updateCinematic_follows (app : AppState) (i : FrameInput) (hselects : app.Selects) :
    Follows (Play i) app (updateCinematic app i) ∧ (updateCinematic app i).Selects := by
  rw [updateCinematic]
  split
  · exact ⟨Follows.single (.rests rfl rfl rfl rfl) rfl rfl, hselects⟩
  · exact ⟨Follows.refl app, hselects⟩

/-- **A frame of the game.** -/
theorem updateInGame_ok (hcodec : codec.Exact) (hfair : i.Fair codec) (queue : CostQueue)
    {app : AppState} (h : Kept codec app) (hselects : app.Selects)
    (hplaying : app.gameInitialized = true) :
    Succeeds (Change codec i) app (updateInGame codec queue app i) := by
  obtain ⟨hflown, hselects₁⟩ := updateCinematic_follows app i hselects
  obtain ⟨app', hact, hacted, hselects'⟩ :=
    act_ok hcodec hfair (hflown.kept h) hselects₁ (hflown.entered.trans hplaying)
  obtain ⟨range, hrange⟩ := shownRange_ok queue hselects'
  rw [updateInGame, hact, Except.ok_bind, hrange, Except.ok_bind]
  refine ⟨_, rfl, ((hflown.asChanges hplaying).trans hacted).trans (Follows.single ?_ rfl rfl),
    hselects'⟩
  exact .rests rfl rfl rfl rfl

/-- **What the application relies on from frame to frame.**  Until the game is entered it is empty,
and a screen that goes black is one that changes. -/
structure Ready (codec : Codec) (app : AppState) : Prop where
  kept : Kept codec app
  selects : app.Selects
  scroll : 0 ≤ app.combatLogScroll
  screen : app.currentScreen = .inGame ↔ app.gameInitialized = true
  fresh : app.gameInitialized = false → app.selectedUnit = noSelection ∧
    app.state.factionRegistry = {} ∧ app.state.factionResources = {}
  fading : app.gameInitialized = true → app.quitRequested = false ∧
    app.transition.direction = .fadeIn

/-- The fade goes on. -/
theorem Ready.fade {app : AppState} (h : Ready codec app) (i : FrameInput) :
    Ready codec (AppState.fade app i) := by
  have hdirection : (app.transition.update i.transitionEnds).direction =
    app.transition.direction := by
    rw [Transition.update]
    split <;> rfl
  refine ⟨h.kept.of_eq rfl rfl, h.selects, h.scroll, h.screen, h.fresh, fun hentered => ?_⟩
  exact ⟨(h.fading hentered).1, hdirection.trans (h.fading hentered).2⟩

/-- **The screen changes**; the game is set up when it is entered, and is never left. -/
theorem changeScreen_ok (hcodec : codec.Exact) (hfair : i.Fair codec) {app : AppState}
    (h : Ready codec app) (hstays : app.quitRequested = false) :
    ∃ app', changeScreen app = .ok app' ∧ Ready codec app' ∧
      Relation.ReflTransGen (Change codec i) app app' := by
  rw [changeScreen]
  split
  · next hcovers =>
      -- the game does not fade out, so it has not been entered
      have hout : app.gameInitialized = false := by
        cases hentered : app.gameInitialized with
        | false => rfl
        | true =>
            rw [Transition.covers, (h.fading hentered).2] at hcovers
            simp at hcovers
      rw [handleTransitionComplete]
      dsimp only
      by_cases hgame : app.pendingScreen = .inGame
      · rw [if_pos ⟨hgame, by simp [hout]⟩]
        obtain ⟨s', hsetup, -⟩ := setupDemoState_ok h.kept.sound h.kept.size
        have hbegins : Change codec i app
            { app with
              currentScreen := app.pendingScreen
              transition := Transition.start .fadeIn
              state := s'
              gameInitialized := true } := .begins hout hsetup rfl rfl rfl
        rw [hsetup, Except.ok_bind]
        refine ⟨_, rfl, ⟨hbegins.kept hcodec hfair h.kept, Or.inl (h.fresh hout).1, h.scroll,
          iff_of_true hgame rfl, fun hfresh => absurd hfresh (by simp), fun _ => ⟨hstays, rfl⟩⟩,
          Relation.ReflTransGen.single hbegins⟩
      · rw [if_neg fun hboth => hgame hboth.1]
        refine ⟨_, rfl, ⟨h.kept.of_eq rfl rfl, h.selects, h.scroll, ?_, h.fresh,
          fun hentered => ?_⟩,
          Relation.ReflTransGen.single (.rests rfl rfl rfl rfl)⟩
        · dsimp only
          rw [hout]
          exact iff_of_false hgame (by decide)
        · dsimp only at hentered
          rw [hout] at hentered
          cases hentered
  · exact ⟨app, rfl, h, Relation.ReflTransGen.refl⟩

/-- A menu is shown, and the game has not been entered. -/
theorem updateMenu_ready (app' : AppState) {app : AppState} (h : Ready codec app)
    (hmenu : app.currentScreen ≠ .inGame) (hsame : app' = { app with
      pendingScreen := app'.pendingScreen
      transition := app'.transition
      quitRequested := app'.quitRequested }) :
    Ready codec app' ∧
      Relation.ReflTransGen (Change codec i) app app' := by
  have hout : app.gameInitialized = false := by
    cases hentered : app.gameInitialized with
    | false => rfl
    | true => exact absurd (h.screen.2 hentered) hmenu
  rw [hsame]
  refine ⟨⟨h.kept.of_eq rfl rfl, h.selects, h.scroll, h.screen, h.fresh, fun hentered => ?_⟩,
    Relation.ReflTransGen.single (.rests rfl rfl rfl rfl)⟩
  dsimp only at hentered
  rw [hout] at hentered
  cases hentered

/-- **A frame does not fail**; it makes changes only, and leaves the application ready for the next
one. -/
theorem frame_ok (hcodec : codec.Exact) (hfair : i.Fair codec) (queue : CostQueue) {app : AppState}
    (h : Ready codec app) :
    ∃ app', frame codec queue app i = .ok app' ∧ Ready codec app' ∧
      Relation.ReflTransGen (Change codec i) app app' := by
  rw [frame]
  split
  · exact ⟨app, rfl, h, Relation.ReflTransGen.refl⟩
  · next hstays =>
      have hfaded : Change codec i app (AppState.fade app i) := .rests rfl rfl rfl rfl
      obtain ⟨app₁, hchange, h₁, hchanges₁⟩ :=
        changeScreen_ok hcodec hfair (h.fade i) (Bool.eq_false_iff.2 hstays)
      have hchanges := Relation.ReflTransGen.head hfaded hchanges₁
      rw [hchange, Except.ok_bind, updateScreen]
      cases hscreen : app₁.currentScreen with
      | mainMenu =>
          obtain ⟨hready, hmenu⟩ := updateMenu_ready (i := i) (updateMainMenu app₁ i) h₁
            (by simp [hscreen]) (by
              rw [updateMainMenu]
              split
              · rfl
              · split <;> rfl)
          exact ⟨_, rfl, hready, hchanges.trans hmenu⟩
      | settings =>
          obtain ⟨hready, hmenu⟩ := updateMenu_ready (i := i) (updateSettings app₁ i) h₁
            (by simp [hscreen]) (by
              rw [updateSettings]
              split
              · rfl
              · split <;> rfl)
          exact ⟨_, rfl, hready, hchanges.trans hmenu⟩
      | inGame =>
          obtain ⟨app₂, hgame, hfollows, hselects⟩ :=
            updateInGame_ok hcodec hfair queue h₁.kept h₁.selects (h₁.screen.1 hscreen)
          have hkept := kept_of_changes (fun _ _ hchange => hchange.kept hcodec hfair)
            hfollows.changes h₁.kept
          have hshell := hfollows.shell
          rw [shell, shell] at hshell
          simp only [Prod.mk.injEq] at hshell
          obtain ⟨hscreen', -, htransition, hentered', hquit⟩ := hshell
          have hentered : app₁.gameInitialized = true := h₁.screen.1 hscreen
          refine ⟨app₂, hgame, ⟨hkept, hselects,
            hfollows.scroll h₁.scroll, ?_, fun hfresh => ?_, fun _ => ?_⟩,
            hchanges.trans hfollows.changes⟩
          · rw [hscreen', hentered']
            exact h₁.screen
          · rw [hentered', hentered] at hfresh
            cases hfresh
          · rw [hquit, htransition]
            exact h₁.fading hentered

end AppState

end My4X
