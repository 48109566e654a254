/-
**The application.**

The application is a loop over frames.  A frame reads the keys, the mouse and the clock, and
depending on the screen it is on it follows the menus or lets the player act: select and move units,
attack, queue buildings, end the turn, save and load.  The length of a fade and of a camera flight
is time; of it a frame is only told whether the running one ends.

Main definitions:

* `My4X.AppState` — what the loop keeps from frame to frame;
* `My4X.FrameInput` — what a frame reads;
* `My4X.AppState.tryAttack`, `My4X.AppState.tryMoveUnit`, `My4X.AppState.handleUnitClick` — what a
  click does;
* `My4X.AppState.handleInput`, `My4X.AppState.handleSaveLoad` — what the keys do;
* `My4X.AppState.frame` — one turn of the loop.
-/

import My4X.CombatLog
import My4X.DemoSetup
import My4X.MovementRange
import My4X.SaveFiles

set_option relaxedAutoImplicit false
set_option autoImplicit false

namespace My4X

/-! ### Screens -/

inductive Screen
  | mainMenu
  | settings
  | inGame
  deriving DecidableEq, Repr

/-- What a button of a menu asks for. -/
inductive MenuAction
  | none
  | newGame
  | loadGame
  | settings
  | quit
  | backToMenu
  | applySettings
  deriving DecidableEq, Repr

inductive TransitionDir
  | fadeIn
  | fadeOut
  deriving DecidableEq, Repr

/-- A fade of the screen. -/
structure Transition where
  direction : TransitionDir := .fadeIn
  active : Bool := false
  complete : Bool := false
  deriving DecidableEq, Repr

namespace Transition

def start (direction : TransitionDir) : Transition := { direction, active := true }

/-- The fade goes on; it may come to its end. -/
def update (t : Transition) (ends : Bool) : Transition :=
  if t.active ∧ ends then { t with active := false, complete := true } else t

/-- The fade is complete and leaves the screen black: `isComplete() && alpha() >= 1`. -/
def covers (t : Transition) : Bool := t.complete && t.direction = .fadeOut

end Transition

/-! ### The state and the input -/

/-- What a frame reads: the mouse and the keys, the button of a menu that was clicked, whether the
running fade and the running camera flight end, and what the clock and the disk do. -/
structure FrameInput where
  hoveredTile : Option TileCoord := none
  leftPressed : Bool := false
  rightPressed : Bool := false
  escape : Bool := false
  space : Bool := false
  keyX : Bool := false
  keyF : Bool := false
  keyM : Bool := false
  keyK : Bool := false
  f1 : Bool := false
  f5 : Bool := false
  f9 : Bool := false
  pageUp : Bool := false
  pageDown : Bool := false
  endTurnReleased : Bool := false
  menuAction : MenuAction := .none
  transitionEnds : Bool := false
  cinematicEnds : Bool := false
  time : String := ""
  writeTime : ℤ := 0
  outcome : WriteOutcome := .done
  listing : SavesDirectory → List SaveFile := SavesDirectory.files
  draws : ℕ → TerrainType := fun _ => .plains

/-- No unit is selected, `NO_SELECTION`. -/
def noSelection : ℤ := -1

/-- The log of the application, for a thousand events. -/
def newCombatLog : CombatLog := CombatLog.create 1000 (by decide)

/-- What the loop keeps. -/
structure AppState where
  currentScreen : Screen := .mainMenu
  pendingScreen : Screen := .mainMenu
  transition : Transition := {}
  gameInitialized : Bool := false
  quitRequested : Bool := false
  state : GameState
  selectedUnit : ℤ := noSelection
  selectedCity : Option CityId := none
  cinematicActive : Bool := false
  combatLog : CombatLog := newCombatLog
  combatLogScroll : ℤ := 0
  movementRange : List ReachableTile := []
  debugNoFog : Bool := false
  saves : SavesDirectory := .empty

/-- The unit at an index that is an `int`; an access out of range fails. -/
def UnitVec.at (units : UnitVec) (index : ℤ) : Except Fault OwnedUnit :=
  if index < 0 then .error (.outOfRange "vector::at")
  else
    match units.get? index.toNat with
    | some p => .ok p
    | none => .error (.outOfRange "vector::at")

/-- The name of a faction, empty when it is not registered. -/
def GameState.factionName (s : GameState) (factionId : FactionId) : String :=
  ((s.factionRegistry.findFaction factionId).map (·.name)).getD ""

namespace AppState

/-! ### Clicks -/

/-- The index of the first living unit on a tile. -/
def findUnitAtTile (state : GameState) (row col : ℤ) : ℤ :=
  match state.units.list.findIdx? fun p =>
      p.unit.isAlive && decide (p.unit.row = row) && decide (p.unit.col = col) with
  | some i => i
  | none => noSelection

/-- Selects the first city with a tile in its footprint, or none. -/
def handleCityClick (app : AppState) (tile : TileCoord) : AppState :=
  { app with
    selectedCity := (app.state.cities.find? (·.containsTile tile.row tile.col)).map (·.id) }

/-- What the log says of an attack. -/
def attackEvent (state : GameState) (attackerIndex defenderIndex : ℤ) (attacker defender : Unit)
    (combat : CombatResult) : CombatEvent where
  attackerUnitIndex := attackerIndex.toNat
  defenderUnitIndex := defenderIndex.toNat
  attackerFactionId := attacker.factionId
  defenderFactionId := defender.factionId
  damageToDefender := combat.damageToDefender
  damageToAttacker := combat.damageToAttacker
  defenderDied := combat.defenderDied
  attackerDied := combat.attackerDied
  turn := state.turn
  tileRow := defender.row
  tileCol := defender.col
  attackerName := attacker.template.name
  defenderName := defender.template.name
  attackerFactionName := state.factionName attacker.factionId
  defenderFactionName := state.factionName defender.factionId

/-- What the log says of the capture of a city. -/
def captureEvent (state : GameState) (tile : TileCoord) (capture : CaptureResult) :
    CombatEvent where
  isCaptureEvent := true
  capturedCityName := capture.capturedCityName
  attackerFactionId := capture.newOwner
  defenderFactionId := capture.previousOwner
  turn := state.turn
  tileRow := tile.row
  tileCol := tile.col
  attackerFactionName := state.factionName capture.newOwner
  defenderFactionName := state.factionName capture.previousOwner

/-- **Attacks a unit with the selected one**, if they are at war; the flag says whether it came to
an attack.  The selection follows its unit. -/
def tryAttack (app : AppState) (clickedUnit : ℤ) : Except Fault (AppState × Bool) := do
  let sel ← app.state.units.at app.selectedUnit
  let target ← app.state.units.at clickedUnit
  let isEnemy := decide (target.unit.factionId ≠ sel.unit.factionId) &&
    app.state.diplomacy.areAtWar sel.unit.factionId target.unit.factionId
  if ¬ isEnemy then return (app, false)
  else do
    let action : AttackAction :=
      { attackerIndex := app.selectedUnit.toNat, targetIndex := clickedUnit.toNat }
    let out ← action.execute app.state
    if ¬ out.2.executed then return ({ app with state := out.1 }, false)
    else do
      let event := attackEvent app.state app.selectedUnit clickedUnit sel.unit target.unit
        out.2.combat
      let state ← out.1.recalculateFog playerFactionId
      let selectedUnit :=
        if out.2.combat.attackerDied then noSelection
        else if out.2.combat.defenderDied ∧ clickedUnit < app.selectedUnit then
          app.selectedUnit - 1
        else app.selectedUnit
      return ({ app with
        state
        selectedUnit
        combatLog := app.combatLog.append event
        cinematicActive := true }, true)

/-- **Moves the selected unit to a tile**, and lets it capture the city whose centre that is; the
flag says whether it moved. -/
def tryMoveUnit (app : AppState) (tile : TileCoord) : Except Fault (AppState × Bool) := do
  let _ ← app.state.units.at app.selectedUnit
  let action : MoveAction :=
    { unitIndex := app.selectedUnit.toNat, destRow := tile.row, destCol := tile.col }
  let out ← action.execute app.state
  if ¬ out.2.executed then return ({ app with state := out.1 }, false)
  else do
    let state ← out.1.recalculateFog playerFactionId
    let capture ← ({ unitIndex := app.selectedUnit.toNat } : CaptureAction).execute state
    let combatLog :=
      if capture.2.executed then
        app.combatLog.append (captureEvent capture.1 tile capture.2)
      else app.combatLog
    return ({ app with state := capture.1, combatLog }, true)

/-- The end of a click on a tile with a selected unit of the player: a move to a tile without a
unit, or the end of the selection. -/
def moveOrDeselect (app : AppState) (tile : TileCoord) (clickedUnit : ℤ) :
    Except Fault (AppState × Bool) := do
  if clickedUnit = noSelection then tryMoveUnit app tile
  else if clickedUnit = app.selectedUnit then
    return ({ app with selectedUnit := noSelection }, true)
  else return (app, false)

/-- **A click when a unit is selected.**  The flag says whether the click is used up. -/
def handleSelectedUnitClick (app : AppState) (tile : TileCoord) (clickedUnit : ℤ) :
    Except Fault (AppState × Bool) := do
  let sel ← app.state.units.at app.selectedUnit
  if sel.unit.factionId ≠ playerFactionId then
    if clickedUnit ≠ noSelection then return ({ app with selectedUnit := clickedUnit }, true)
    else return ({ app with selectedUnit := noSelection }, false)
  else if clickedUnit ≠ noSelection ∧ clickedUnit ≠ app.selectedUnit then do
    let attack ← tryAttack app clickedUnit
    if attack.2 then return attack
    else do
      let target ← attack.1.state.units.at clickedUnit
      if target.unit.factionId = sel.unit.factionId then
        return ({ attack.1 with selectedUnit := clickedUnit }, true)
      else moveOrDeselect attack.1 tile clickedUnit
  else moveOrDeselect app tile clickedUnit

/-- **A click on a tile.** -/
def handleUnitClick (app : AppState) (tile : TileCoord) : Except Fault (AppState × Bool) :=
  let clickedUnit := findUnitAtTile app.state tile.row tile.col
  if app.selectedUnit ≠ noSelection then
    match app.state.units.at app.selectedUnit with
    | .error _ => .ok ({ app with selectedUnit := noSelection }, false)
    | .ok sel =>
        if ¬ sel.unit.isAlive then .ok ({ app with selectedUnit := noSelection }, false)
        else handleSelectedUnitClick app tile clickedUnit
  else if clickedUnit ≠ noSelection then .ok ({ app with selectedUnit := clickedUnit }, true)
  else .ok (app, false)

/-! ### Keys -/

/-- Changes the build queue of the first city with an identifier. -/
def changeQueue (state : GameState) (cityId : CityId) (f : BuildQueue → BuildQueue) : GameState :=
  match state.cities.findIdx? (·.id = cityId) with
  | none => state
  | some i =>
      match state.cities[i]? with
      | none => state
      | some city => state.setCity i (city.setBuildQueue (f city.buildQueue))

/-- **The keys for the selected city**: the first order is cancelled, or a building is ordered on
the tile under the mouse. -/
def handleBuildActions (state : GameState) (cityId : CityId) (i : FrameInput) : GameState :=
  match state.findCity cityId with
  | none => state
  | some city =>
      if i.keyX ∧ city.buildQueue.queue ≠ [] then changeQueue state cityId BuildQueue.cancel
      else
        match i.hoveredTile with
        | none => state
        | some tile =>
            let enqueue (factory : BuildingFactory) : GameState :=
              changeQueue state cityId fun q => q.enqueue factory tile.row tile.col
            if i.keyF then enqueue makeFarm
            else if i.keyM then enqueue makeMine
            else if i.keyK then enqueue makeMarket
            else state

/-- The end of the turn; what it throws ends the application. -/
def endTurn (app : AppState) : Except Fault AppState :=
  match processTurn app.state with
  | (_, some e) => .error e
  | (state, none) => .ok { app with state }

/-- The end of the turn, if it is asked for. -/
def endTurnIf (asked : Bool) (app : AppState) : Except Fault AppState :=
  if asked then endTurn app else .ok app

/-- The left mouse button. -/
def handleLeftClick (app : AppState) (i : FrameInput) : Except Fault AppState :=
  match i.hoveredTile with
  | none => .ok app
  | some tile =>
      if ¬ i.leftPressed then .ok app
      else do
        let click ← handleUnitClick app tile
        if click.2 then return click.1 else return handleCityClick click.1 tile

/-- The right button and the escape key end the selection. -/
def clearSelection (app : AppState) (i : FrameInput) : AppState :=
  if i.rightPressed ∨ i.escape then
    { app with selectedUnit := noSelection, selectedCity := none }
  else app

/-- The keys for a city reach the selected one. -/
def buildActions (app : AppState) (i : FrameInput) : AppState :=
  match app.selectedCity with
  | none => app
  | some cityId => { app with state := handleBuildActions app.state cityId i }

/-- The keys that scroll the log: back in time, and forth to its end. -/
def scrollLog (scroll : ℤ) (i : FrameInput) : ℤ :=
  let scroll := if i.pageUp then scroll + 1 else scroll
  if i.pageDown ∧ 0 < scroll then scroll - 1 else scroll

/-- The keys of the panels: the fog is switched off and on, and the log is scrolled. -/
def updatePanels (app : AppState) (i : FrameInput) : AppState :=
  { app with
    debugNoFog := if i.f1 then !app.debugNoFog else app.debugNoFog
    combatLogScroll := scrollLog app.combatLogScroll i }

/-- **What the mouse and the keys do in the game.** -/
def handleInput (app : AppState) (i : FrameInput) : Except Fault AppState := do
  let sweep := app.state.removeDeadUnits (some app.selectedUnit)
  let app := { app with
    state := sweep.state, selectedUnit := sweep.selectedIndex.getD app.selectedUnit }
  let app ← handleLeftClick app i
  let app := buildActions (clearSelection app i) i
  let app ← endTurnIf i.space app
  return updatePanels app i

/-! ### Saves -/

variable (codec : Codec)

/-- Saves the game under the time of the frame. -/
def quickSave (app : AppState) (i : FrameInput) : AppState :=
  { app with
    saves := (SaveFiles.saveGame codec app.saves app.state (SaveFiles.generateSavePath i.time)
      i.writeTime i.outcome).1 }

/-- The game of the save that was written last. -/
def loadLatest (app : AppState) (i : FrameInput) : Except Fault GameState := do
  let path ← SaveFiles.latestSavePath app.saves (i.listing app.saves)
  SaveFiles.loadGame codec i.draws app.saves path

/-- Loads the save that was written last.  An exception is caught, and the game goes on as it was; a
failed assertion is not. -/
def quickLoad (app : AppState) (i : FrameInput) : Except Fault AppState :=
  match loadLatest codec app i with
  | .error .assertion => .error .assertion
  | .error _ => .ok app
  | .ok state => do
      let state ← state.recalculateFog playerFactionId
      return { app with state, selectedUnit := noSelection }

/-- **The keys that save and load.** -/
def handleSaveLoad (app : AppState) (i : FrameInput) : Except Fault AppState :=
  let app := if i.f5 then quickSave codec app i else app
  if i.f9 then quickLoad codec app i else .ok app

/-! ### Frames -/

/-- The camera flight after an attack: a key ends it, or it ends by itself. -/
def updateCinematic (app : AppState) (i : FrameInput) : AppState :=
  if app.cinematicActive ∧ (i.escape ∨ i.space ∨ i.cinematicEnds) then
    { app with cinematicActive := false }
  else app

/-- The tiles that are shown as the range of the selected unit. -/
def shownRange (queue : CostQueue) (app : AppState) : Except Fault (List ReachableTile) :=
  if app.selectedUnit = noSelection then .ok []
  else do
    let sel ← app.state.units.at app.selectedUnit
    if sel.unit.isAlive ∧ sel.unit.factionId = playerFactionId then
      app.state.movementRange queue sel.unit
    else return []

/-- The player acts, unless the screen fades or the camera flies. -/
def act (app : AppState) (i : FrameInput) : Except Fault AppState :=
  if app.transition.active ∨ app.cinematicActive then .ok app
  else do
    let app ← handleInput app i
    let app ← handleSaveLoad codec app i
    endTurnIf i.endTurnReleased app

/-- **A frame of the game.** -/
def updateInGame (queue : CostQueue) (app : AppState) (i : FrameInput) : Except Fault AppState := do
  let app ← act codec (updateCinematic app i) i
  let movementRange ← shownRange queue app
  return { app with movementRange }

/-- A frame of the main menu. -/
def updateMainMenu (app : AppState) (i : FrameInput) : AppState :=
  if app.transition.active then app
  else
    match i.menuAction with
    | .newGame => { app with pendingScreen := .inGame, transition := Transition.start .fadeOut }
    | .settings => { app with pendingScreen := .settings, transition := Transition.start .fadeOut }
    | .quit => { app with quitRequested := true }
    | _ => app

/-- A frame of the settings. -/
def updateSettings (app : AppState) (i : FrameInput) : AppState :=
  if app.transition.active then app
  else
    match i.menuAction with
    | .backToMenu => { app with
        pendingScreen := .mainMenu
        transition := Transition.start .fadeOut }
    | _ => app

/-- The screen is changed while it is black; the first time the game is entered it is set up. -/
def handleTransitionComplete (app : AppState) : Except Fault AppState :=
  let app := { app with
    currentScreen := app.pendingScreen, transition := Transition.start .fadeIn }
  if app.currentScreen = .inGame ∧ ¬ app.gameInitialized then do
    let state ← setupDemoState app.state
    return { app with state, gameInitialized := true }
  else .ok app

/-- The fade of the screen goes on. -/
def fade (app : AppState) (i : FrameInput) : AppState :=
  { app with transition := app.transition.update i.transitionEnds }

/-- A screen that has gone black changes. -/
def changeScreen (app : AppState) : Except Fault AppState :=
  if app.transition.covers then handleTransitionComplete app else .ok app

/-- A frame of the screen that is shown. -/
def updateScreen (queue : CostQueue) (app : AppState) (i : FrameInput) : Except Fault AppState :=
  match app.currentScreen with
  | .mainMenu => .ok (updateMainMenu app i)
  | .settings => .ok (updateSettings app i)
  | .inGame => updateInGame codec queue app i

/-- **One turn of the loop**; after the player has quit the loop is left. -/
def frame (queue : CostQueue) (app : AppState) (i : FrameInput) : Except Fault AppState :=
  if app.quitRequested then .ok app
  else do
    let app ← changeScreen (fade app i)
    updateScreen codec queue app i

/-- The state that the application starts in, on a newly drawn map; the saves are those of the
disk. -/
def start (draws : ℕ → TerrainType) (saves : SavesDirectory) : Except Fault AppState := do
  let state ← GameState.create appMapRows appMapCols draws
  return { state, transition := Transition.start .fadeIn, saves }

end AppState

end My4X
