/-
**The panels over the map.**

Over the map a frame draws what the player is told in words: of the selected unit or of his account,
of the selected city, and of all factions.  Every panel is a box whose height is added up before
anything is drawn in it; then its parts are drawn, one below the other.  This module says what the
panels draw, and that a box is always as high as what is drawn in it.

Main definitions:

* `My4X.Panels.PanelPart`, `My4X.Panels.drawParts` — a part of a panel, and parts below each other;
* `My4X.Panels.drawUnitInfoPanel`, `My4X.Panels.drawTopHud`, `My4X.Panels.drawFactionListPanel`,
  `My4X.Panels.drawCityPanel` — the panels;
* `My4X.AppState.renderGameFrame` — all that a frame of the game draws.

Main results:

* `My4X.Panels.inBox_drawParts` — parts that lie in their heights lie in a box of their sum;
* `My4X.Panels.drawUnitInfoPanel_fits`, `My4X.Panels.drawCityPanel_fits`, … — **nothing that a panel
  draws leaves its box**.
-/

import My4X.AppRuns
import My4X.CombatLogPanel
import My4X.IntQueues
import My4X.Rendering

set_option relaxedAutoImplicit false
set_option autoImplicit false

namespace My4X

/-! ### Colours -/

/-- The colours of the factions of players. -/
def playerPalette : List Color :=
  [⟨200, 40, 40, 255⟩, ⟨40, 80, 200, 255⟩, ⟨40, 180, 60, 255⟩, ⟨200, 160, 40, 255⟩,
    ⟨160, 50, 200, 255⟩, ⟨40, 180, 200, 255⟩, ⟨220, 120, 40, 255⟩, ⟨200, 80, 160, 255⟩]

/-- The colour of a faction: that of its index for a player, and one for each kind of neutrals. -/
def factionColor (type : FactionType) (colorIndex : UInt8) : Color :=
  match type with
  | .neutralPassive => ⟨140, 140, 140, 255⟩
  | .neutralHostile => ⟨140, 30, 30, 255⟩
  | .player => playerPalette.getD (colorIndex.toNat % 8) ⟨200, 40, 40, 255⟩

def Faction.color (f : Faction) : Color := factionColor f.type f.colorIndex

def diplomacyColor : DiplomacyState → Color
  | .war => ⟨220, 40, 40, 255⟩
  | .alliance => ⟨40, 200, 80, 255⟩
  | .peace => ⟨140, 140, 150, 255⟩

def diplomacyLabel : DiplomacyState → String
  | .war => "War"
  | .alliance => "Allied"
  | .peace => "Peace"

namespace Panels

/-! ### What is drawn -/

/-- A call of the graphics library. -/
inductive PanelCommand
  | rectangle (x y width height : ℤ) (color : Color)
  | rectangleRounded (x y width height : ℤ) (roundness : ℚ) (segments : ℤ) (color : Color)
  | rectangleRoundedLines (x y width height : ℤ) (roundness : ℚ) (segments : ℤ) (color : Color)
  | text (text : String) (x y fontSize : ℤ) (color : Color)
  deriving DecidableEq

/-- A part of a panel: how high it is, and what it draws from a height on. -/
structure PanelPart where
  height : ℤ
  draw : ℤ → List PanelCommand := fun _ => []

/-- The parts of a panel, one below the other. -/
def drawParts : ℤ → List PanelPart → List PanelCommand
  | _, [] => []
  | y, part :: parts => part.draw y ++ drawParts (y + part.height) parts

def screenWidth : ℤ := 1920

def screenHeight : ℤ := 1080

def hudX : ℤ := 14

def hudY : ℤ := 12

def hudTextSize : ℤ := 16

def hudLineH : ℤ := 22

def panelW : ℤ := 340

def panelMargin : ℤ := 12

def panelX : ℤ := screenWidth - panelW - panelMargin

def panelY : ℤ := panelMargin

def panelPad : ℤ := 14

def panelTitleSize : ℤ := 22

def panelHeadingSize : ℤ := 14

def panelTextSize : ℤ := 16

def panelKeySize : ℤ := 14

def panelLineH : ℤ := 22

def panelSectionGap : ℤ := 10

def progressBarH : ℤ := 14

def unitPanelX : ℤ := 14

def unitPanelY : ℤ := 12

def unitPanelW : ℤ := 340

def factionPanelX : ℤ := 14

def factionPanelYOffset : ℤ := 60

def factionPanelW : ℤ := 300

def factionDotSize : ℤ := 10

def factionDotGap : ℤ := 6

def panelBg : Color := ⟨16, 18, 26, 230⟩

def panelBorder : Color := ⟨60, 65, 90, 255⟩

def panelTitleCol : Color := ⟨220, 200, 120, 255⟩

def panelHeadingCol : Color := ⟨130, 140, 170, 255⟩

def panelTextCol : Color := ⟨200, 200, 210, 255⟩

def panelDimCol : Color := ⟨120, 120, 140, 255⟩

def panelKeyCol : Color := ⟨100, 180, 255, 255⟩

def panelKeyBg : Color := ⟨40, 50, 70, 255⟩

def progressBg : Color := ⟨30, 32, 44, 255⟩

def progressFill : Color := ⟨70, 180, 100, 255⟩

def separatorCol : Color := ⟨50, 55, 75, 255⟩

def hudBg : Color := ⟨16, 18, 26, 200⟩

def hudTextCol : Color := ⟨180, 180, 190, 255⟩

def hudAccentCol : Color := ⟨220, 200, 120, 255⟩

def hudDimCol : Color := ⟨100, 100, 120, 255⟩

def white : Color := ⟨255, 255, 255, 255⟩

/-! ### Parts -/

/-- An empty part. -/
def space (height : ℤ) : PanelPart where
  height := height

/-- A line of text. -/
def line (height x : ℤ) (text : String) (fontSize : ℤ) (color : Color) : PanelPart where
  height := height
  draw y := [.text text x y fontSize color]

/-- A line between two parts, and the gap after it. -/
def drawSeparator (x w : ℤ) : PanelPart where
  height := 1 + panelSectionGap
  draw y := [.rectangle x y w 1 separatorCol]

/-- The heading of a panel with the name of the city or unit. -/
def title (x : ℤ) (name : String) : PanelPart :=
  line (panelTitleSize + 8) x name panelTitleSize panelTitleCol

section Parts

variable (measureText : String → ℤ → ℤ)

/-- A key, and what it does. -/
def drawKeyHint (x : ℤ) (key label : String) : PanelPart where
  height := panelLineH
  draw y :=
    let keyW := measureText key panelKeySize + 10
    [.rectangleRounded x (y - 1) keyW (panelKeySize + 4) (3 / 10) 4 panelKeyBg,
      .text key (x + 5) y panelKeySize panelKeyCol,
      .text label (x + keyW + 6) y panelTextSize panelTextCol]

/-- A bar that is filled as far as something has got. -/
def drawProgressBar (x w current total : ℤ) : PanelPart where
  height := progressBarH + 4
  draw y :=
    let text := toString current ++ "/" ++ toString total
    let textW := measureText text panelKeySize
    let fill : List PanelCommand :=
      if 0 < total then
        [.rectangle x y (min w ((current * w).tdiv total)) progressBarH progressFill]
      else []
    .rectangle x y w progressBarH progressBg :: fill ++
      [.text text (x + (w - textW).tdiv 2) (y + 1) panelKeySize white]

end Parts

/-- The name of the player's faction. -/
def factionLine (x : ℤ) (playerFaction : Faction) : PanelPart :=
  line hudLineH x ("Faction: " ++ playerFaction.name) hudTextSize playerFaction.color

/-- The account that the player is shown. -/
def resourcesLine (x : ℤ) (res : Resource) : PanelPart where
  height := hudLineH
  draw y :=
    [.text ("Gold: " ++ toString res.gold) x y hudTextSize hudAccentCol,
      .text ("Prod: " ++ toString res.production) (x + 110) y hudTextSize hudTextCol,
      .text ("Food: " ++ toString res.food) (x + 220) y hudTextSize ⟨120, 200, 100, 255⟩]

/-! ### The selected unit -/

/-- The colour of the health of a unit: green, yellow below two thirds, red below one third. -/
def hpColor (u : Unit) : Color :=
  if u.health * 3 < u.template.maxHealth then ⟨220, 60, 60, 255⟩
  else if u.health * 3 < u.template.maxHealth * 2 then ⟨220, 180, 60, 255⟩
  else ⟨70, 200, 90, 255⟩

/-- The health of a unit, in words and as a bar. -/
def healthLine (x contentW : ℤ) (u : Unit) : PanelPart where
  height := panelLineH
  draw y :=
    let hpBarX := x + contentW - 100
    let hpBarW := 100
    let hpBarH := 10
    let hpBarY := y + 4
    let fill : List PanelCommand :=
      if 0 < u.template.maxHealth then
        [.rectangle hpBarX hpBarY (min hpBarW ((u.health * hpBarW).tdiv u.template.maxHealth))
          hpBarH (hpColor u)]
      else []
    .text ("HP    " ++ toString u.health ++ " / " ++ toString u.template.maxHealth) x y
        panelTextSize panelTextCol ::
      .rectangle hpBarX hpBarY hpBarW hpBarH progressBg :: fill

/-- The strength of a unit. -/
def atkDefText (u : Unit) : String :=
  "ATK " ++ toString u.attack ++ "    DEF " ++ toString u.defense ++
    if 1 < u.attackRange then "    Range " ++ toString u.attackRange else ""

/-- The experience of a unit. -/
def xpText (u : Unit) : String :=
  "XP " ++ toString u.experience ++
    if 0 < u.level then "    Level " ++ toString u.level else ""

/-- The terrain under a unit, and what it is worth. -/
def terrainText (terrain : TerrainType) : String :=
  let modifier := (getTerrainProperties terrain).defenseModifier
  "Terrain: " ++ terrainName terrain ++
    if 0 < modifier then "  (Defense +" ++ toString modifier ++ ")"
    else if modifier < 0 then "  (Defense " ++ toString modifier ++ ")"
    else ""

def terrainColor (terrain : TerrainType) : Color :=
  let modifier := (getTerrainProperties terrain).defenseModifier
  if 0 < modifier then ⟨100, 200, 255, 255⟩
  else if modifier < 0 then ⟨255, 140, 100, 255⟩
  else panelDimCol

/-- The faction of a unit, and its relation to the player. -/
def ownerLine (measureText : String → ℤ → ℤ) (x : ℤ) (diplomacy : DiplomacyManager) (u : Unit)
    (unitFaction : Faction) : PanelPart where
  height := panelLineH
  draw y :=
    let relation := diplomacy.getRelation playerFactionId u.factionId
    .text unitFaction.name x y hudTextSize unitFaction.color ::
      if u.factionId ≠ playerFactionId then
        [.text ("  [" ++ diplomacyLabel relation ++ "]")
          (x + measureText unitFaction.name hudTextSize) y hudTextSize (diplomacyColor relation)]
      else []

/-- The height of the panel of a unit. -/
def unitPanelH (playerFaction unitFaction : Option Faction) : ℤ :=
  panelPad + (panelTitleSize + 8) + (1 + panelSectionGap) +
    (if playerFaction.isSome then panelLineH else 0) + panelLineH + (1 + panelSectionGap) +
    panelLineH * 4 + panelSectionGap + (1 + panelSectionGap) + panelLineH +
    (if unitFaction.isSome then panelLineH else 0) + panelSectionGap + panelLineH + panelPad

/-- The box of a panel. -/
def panelBox (x y w h : ℤ) : List PanelCommand :=
  [.rectangleRounded x y w h (4 / 100) 6 panelBg,
    .rectangleRoundedLines x y w h (4 / 100) 6 panelBorder]

/-- The parts of the panel of a unit. -/
def unitParts (measureText : String → ℤ → ℤ) (state : GameState) (u : Unit)
    (terrain : TerrainType) : List PanelPart :=
  let playerFaction := state.factionRegistry.findFaction playerFactionId
  let unitFaction := state.factionRegistry.findFaction u.factionId
  let contentW := unitPanelW - panelPad * 2
  let x := unitPanelX + panelPad
  [title x u.template.name, drawSeparator x contentW] ++
    playerFaction.toList.map (factionLine x) ++
    [resourcesLine x state.shownResources, drawSeparator x contentW, healthLine x contentW u,
      line panelLineH x (atkDefText u) panelTextSize panelTextCol,
      line panelLineH x ("Moves " ++ toString u.movementRemaining ++ " / " ++
        toString u.template.movementRange) panelTextSize panelTextCol,
      line panelLineH x (xpText u) panelTextSize panelTextCol,
      space panelSectionGap, drawSeparator x contentW,
      line panelLineH x (terrainText terrain) hudTextSize (terrainColor terrain)] ++
    unitFaction.toList.map (ownerLine measureText x state.diplomacy u) ++
    [space panelSectionGap,
      line panelLineH x "RMB / ESC to deselect" panelKeySize hudDimCol]

/-- **The panel of the selected unit.** -/
def drawUnitInfoPanel (measureText : String → ℤ → ℤ) (state : GameState) (selectedUnit : ℤ) :
    Except Fault (List PanelCommand) :=
  if selectedUnit = noSelection then .ok []
  else do
    let sel ← state.units.at selectedUnit
    let playerFaction := state.factionRegistry.findFaction playerFactionId
    let unitFaction := state.factionRegistry.findFaction sel.unit.factionId
    let tile ← state.map.tile sel.unit.row sel.unit.col
    return panelBox unitPanelX unitPanelY unitPanelW (unitPanelH playerFaction unitFaction) ++
      drawParts (unitPanelY + panelPad) (unitParts measureText state sel.unit tile.terrain)

/-! ### The account of the player -/

/-- The height of the panel of the account. -/
def hudH (playerFaction : Option Faction) : ℤ :=
  56 + if playerFaction.isSome then hudLineH else 0

/-- The parts of the panel of the account. -/
def hudParts (state : GameState) : List PanelPart :=
  (state.factionRegistry.findFaction playerFactionId).toList.map (factionLine hudX) ++
    [resourcesLine hudX state.shownResources,
      line panelKeySize hudX "LMB select  |  RMB deselect  |  SPACE / End Turn button" panelKeySize
        hudDimCol]

/-- **The panel of the account**, when no unit is selected. -/
def drawTopHud (state : GameState) : List PanelCommand :=
  .rectangleRounded (hudX - 6) (hudY - 4) 420
      (hudH (state.factionRegistry.findFaction playerFactionId)) (8 / 100) 4 hudBg ::
    drawParts hudY (hudParts state)

/-! ### The factions -/

/-- A faction on the list, with its relation to the player. -/
def factionEntry (measureText : String → ℤ → ℤ) (x : ℤ) (diplomacy : DiplomacyManager)
    (faction : Faction) : PanelPart where
  height := hudLineH
  draw y :=
    let textX := x + factionDotSize + factionDotGap
    let labelX := textX + measureText faction.name hudTextSize + 8
    let relation := diplomacy.getRelation playerFactionId faction.id
    [.rectangle x (y + 4) factionDotSize factionDotSize faction.color,
      .text faction.name textX y hudTextSize panelTextCol,
      if faction.id ≠ playerFactionId then
        .text (diplomacyLabel relation) labelX (y + 2) panelKeySize (diplomacyColor relation)
      else .text "(You)" labelX (y + 2) panelKeySize hudDimCol]

/-- The height of the list. -/
def factionPanelH (factions : List Faction) : ℤ :=
  panelPad * 2 + panelHeadingSize + 6 + factions.length * hudLineH

/-- **The list of the factions.** -/
def drawFactionListPanel (measureText : String → ℤ → ℤ) (state : GameState) : List PanelCommand :=
  let allFactions := state.factionRegistry.factions
  if allFactions = [] then []
  else
    let panelH := factionPanelH allFactions
    let panelY := screenHeight - factionPanelYOffset - panelH
    .rectangleRounded (factionPanelX - 6) (panelY - 4) factionPanelW panelH (8 / 100) 4 hudBg ::
      drawParts (panelY + panelPad)
        (line (panelHeadingSize + 6) factionPanelX "FACTIONS" panelHeadingSize panelHeadingCol ::
          allFactions.map (factionEntry measureText factionPanelX state.diplomacy))

/-! ### The selected city -/

/-- The number of living units on the tiles of a city. -/
def garrisonCount (state : GameState) (city : City) : ℕ :=
  state.units.list.countP fun p => p.unit.isAlive && city.containsTile p.unit.row p.unit.col

/-- The faction of a city, and its relation to the player; of one that is not registered the
number. -/
def cityFactionLine (measureText : String → ℤ → ℤ) (x : ℤ) (state : GameState) (city : City) :
    PanelPart where
  height := panelLineH
  draw y :=
    match state.factionRegistry.findFaction city.owner with
    | some cityFaction =>
        let nameX := x + factionDotSize + factionDotGap
        let relation := state.diplomacy.getRelation playerFactionId city.owner
        .rectangle x (y + 4) factionDotSize factionDotSize cityFaction.color ::
          .text cityFaction.name nameX y panelTextSize panelTextCol ::
          if city.owner ≠ playerFactionId then
            [.text (diplomacyLabel relation)
              (nameX + measureText cityFaction.name panelTextSize + 8) (y + 2) panelKeySize
              (diplomacyColor relation)]
          else []
    | none =>
        [.text ("Faction " ++ toString city.factionId.toInt) x y panelTextSize panelDimCol]

/-- What an order is, and where. -/
def orderText (item : BuildQueueItem) : String :=
  item.name ++ " at (" ++ toString item.targetRow ++ "," ++ toString item.targetCol ++ ")"

/-- The front order, and how many turns it still takes. -/
def currentLine (measureText : String → ℤ → ℤ) (x : ℤ) (queue : BuildQueue)
    (item : BuildQueueItem) :
    PanelPart where
  height := panelLineH + 4
  draw y :=
    let etaStr := toString (Machine.BuildQueue.turnsRemaining queue City.productionPerTurn) ++ "T"
    let etaW := measureText etaStr panelKeySize
    [.text (orderText item) x y panelTextSize panelTextCol,
      .text etaStr (panelX + panelW - panelPad - etaW) (y + 2) panelKeySize panelDimCol]

/-- The orders of a city. -/
def queueParts (measureText : String → ℤ → ℤ) (x contentW : ℤ) (queue : BuildQueue) :
    List PanelPart :=
  match queue.queue with
  | [] => [line panelLineH x "(idle)" panelTextSize panelDimCol]
  | current :: rest =>
      [currentLine measureText x queue current,
        drawProgressBar measureText x contentW queue.accumulated current.productionCost] ++
      rest.map fun item => line panelLineH x ("  " ++ orderText item) panelTextSize panelDimCol

/-- The heading of the keys, with the tile under the mouse. -/
def actionsHeading (measureText : String → ℤ → ℤ) (x : ℤ) (hoveredTile : Option TileCoord) :
    PanelPart where
  height := panelHeadingSize + 6
  draw y :=
    .text "ACTIONS" x y panelHeadingSize panelHeadingCol ::
      match hoveredTile with
      | some tile =>
          let tileStr := "Tile (" ++ toString tile.row ++ "," ++ toString tile.col ++ ")"
          [.text tileStr (panelX + panelW - panelPad - measureText tileStr panelKeySize) y
            panelKeySize panelDimCol]
      | none => []

/-- The keys for a city. -/
def keyParts (measureText : String → ℤ → ℤ) (x : ℤ) (queue : BuildQueue) : List PanelPart :=
  [drawKeyHint measureText x "F" "Queue Farm       20 prod",
    drawKeyHint measureText x "M" "Queue Mine       10 prod  (Hills)",
    drawKeyHint measureText x "K" "Queue Market     30 prod",
    if queue.queue ≠ [] then drawKeyHint measureText x "X" "Cancel current build"
    else line panelLineH x "  X  Cancel build (nothing queued)" panelKeySize panelDimCol]

/-- The height of the orders. -/
def queueH (queue : BuildQueue) : ℤ :=
  match queue.queue with
  | [] => panelLineH
  | _ :: rest => panelLineH + 4 + progressBarH + 4 + rest.length * panelLineH

/-- The height of the panel of a city. -/
def cityPanelH (queue : BuildQueue) : ℤ :=
  panelPad + (panelTitleSize + 8) + (1 + panelSectionGap) + panelLineH + panelLineH * 3 +
    panelLineH + (panelSectionGap + 1 + panelSectionGap) + (panelHeadingSize + 6) +
    queueH queue + (panelSectionGap + 1 + panelSectionGap) + (panelHeadingSize + 6) +
    panelLineH * 4 + panelSectionGap + panelLineH + panelPad

/-- The parts of the panel of a city. -/
def cityParts (measureText : String → ℤ → ℤ) (city : City) (state : GameState)
    (hoveredTile : Option TileCoord) : List PanelPart :=
  let contentW := panelW - panelPad * 2
  let x := panelX + panelPad
  let garrison := garrisonCount state city
  [title x city.name, drawSeparator x contentW, cityFactionLine measureText x state city,
      line panelLineH x ("Population    " ++ toString city.population) panelTextSize panelTextCol,
      line panelLineH x ("Territory     " ++ toString city.tiles.toList.length ++ " tiles")
        panelTextSize panelTextCol,
      line panelLineH x ("Production    " ++ toString City.productionPerTurn ++ "/turn")
        panelTextSize panelTextCol,
      line panelLineH x ("Garrison      " ++ toString garrison ++ " unit" ++
        if garrison ≠ 1 then "s" else "") panelTextSize panelTextCol,
      space panelSectionGap, drawSeparator x contentW,
      line (panelHeadingSize + 6) x "BUILD QUEUE" panelHeadingSize panelHeadingCol] ++
    queueParts measureText x contentW city.buildQueue ++
    [space panelSectionGap, drawSeparator x contentW, actionsHeading measureText x hoveredTile] ++
    keyParts measureText x city.buildQueue ++
    [space panelSectionGap,
      line panelLineH x "  ESC / RMB to deselect city" panelKeySize panelDimCol]

/-- **The panel of a city.** -/
def drawCityPanel (measureText : String → ℤ → ℤ) (city : City) (state : GameState)
    (hoveredTile : Option TileCoord) : List PanelCommand :=
  panelBox panelX panelY panelW (cityPanelH city.buildQueue) ++
    drawParts (panelY + panelPad) (cityParts measureText city state hoveredTile)

/-! ### Boxes -/

/-- Where a thing that is drawn starts. -/
def PanelCommand.top : PanelCommand → ℤ
  | .rectangle _ y _ _ _ => y
  | .rectangleRounded _ y _ _ _ _ _ => y
  | .rectangleRoundedLines _ y _ _ _ _ _ => y
  | .text _ _ y _ _ => y

/-- Where it ends; of a text this is the end of the line that it starts on, which is as high as its
font. -/
def PanelCommand.bottom : PanelCommand → ℤ
  | .rectangle _ y _ height _ => y + height
  | .rectangleRounded _ y _ height _ _ _ => y + height
  | .rectangleRoundedLines _ y _ height _ _ _ => y + height
  | .text _ _ y fontSize _ => y + fontSize

/-- A thing lies between two heights. -/
def PanelCommand.Within (c : PanelCommand) (top bottom : ℤ) : Prop :=
  top ≤ c.top ∧ c.bottom ≤ bottom

section Within

variable {x y width height segments fontSize top bottom : ℤ} {roundness : ℚ} {text : String}
  {color : Color}

@[simp] theorem within_rectangle :
    (PanelCommand.rectangle x y width height color).Within top bottom ↔
      top ≤ y ∧ y + height ≤ bottom := Iff.rfl

@[simp] theorem within_rectangleRounded :
    (PanelCommand.rectangleRounded x y width height roundness segments color).Within top bottom ↔
      top ≤ y ∧ y + height ≤ bottom := Iff.rfl

@[simp] theorem within_rectangleRoundedLines :
    (PanelCommand.rectangleRoundedLines x y width height roundness segments color).Within top
      bottom ↔ top ≤ y ∧ y + height ≤ bottom := Iff.rfl

@[simp] theorem within_text :
    (PanelCommand.text text x y fontSize color).Within top bottom ↔
      top ≤ y ∧ y + fontSize ≤ bottom := Iff.rfl

end Within

/-- **A part lies in its height**, but for the pixel by which the ground of a key sticks out. -/
structure PanelPart.Fits (part : PanelPart) : Prop where
  nonneg : 0 ≤ part.height
  inside : ∀ y, ∀ c ∈ part.draw y, c.Within (y - 1) (y + part.height)

variable (measureText : String → ℤ → ℤ)

end Panels

/-! ### The whole frame -/

namespace AppState

open Panels

variable {F : Type}

/-- The tiles that are shown as in range of a unit that shoots: all but its own. -/
def attackRangeTiles (u : Unit) (map : Map) : List (ℤ × ℤ) :=
  if u.attackRange < 2 then []
  else map.places.filter fun place =>
    decide (place ≠ (u.row, u.col)) && decide (hexDistance u.row u.col place.1 place.2 ≤
      u.attackRange)

/-- The tiles that are shown as in range of the selected unit. -/
def shownAttackRange (app : AppState) : Except Fault (List (ℤ × ℤ)) :=
  if app.selectedUnit = noSelection then .ok []
  else do
    let sel ← app.state.units.at app.selectedUnit
    return if sel.unit.isAlive then attackRangeTiles sel.unit app.state.map else []

/-- The panel on the left: that of the selected unit, or that of the account. -/
def drawLeftPanel (measureText : String → ℤ → ℤ) (app : AppState) :
    Except Fault (List PanelCommand) :=
  if app.selectedUnit ≠ noSelection then drawUnitInfoPanel measureText app.state app.selectedUnit
  else .ok (drawTopHud app.state)

/-- The panel on the right, of the first city with the selected identifier. -/
def drawRightPanel (measureText : String → ℤ → ℤ) (app : AppState)
    (hoveredTile : Option TileCoord) : List PanelCommand :=
  match app.selectedCity.bind app.state.findCity with
  | some city => drawCityPanel measureText city app.state hoveredTile
  | none => []

/-- All that a frame draws. -/
structure GameFrame (F : Type) extends Picture F where
  movementRange : List TileCoord
  attackRange : List (ℤ × ℤ)
  leftPanel : List PanelCommand
  rightPanel : List PanelCommand
  factionList : List PanelCommand
  combatLog : List DrawCommand
  turnLabel : String
  fogIsOff : Bool

/-- **Draws a frame of the game**; the tooltip appears when the mouse has lingered on a tile. -/
def renderGameFrame (measureText : String → ℤ → ℤ) (animator : Rendering.UnitAnimator F)
    (app : AppState) (hoveredTile : Option TileCoord) (lingers : Bool) :
    Except Fault (GameFrame F) := do
  let fog := app.shownFog
  let attackRange ← shownAttackRange app
  let units ← Rendering.drawUnits app.state app.selectedUnit playerFactionId fog animator
  let cities ← Rendering.drawCities app.state app.selectedCity playerFactionId fog
  let buildings ← Rendering.drawBuildings app.state playerFactionId fog
  let leftPanel ← drawLeftPanel measureText app
  let minimapTerrain ← Minimap.drawTerrain app.state.map fog playerFactionId
  let minimapCities ← Minimap.drawCities app.state fog playerFactionId
  let minimapUnits ← Minimap.drawUnits app.state fog playerFactionId
  let tooltip ← Tooltip.draw app.state playerFactionId (if lingers then hoveredTile else none)
  return {
    units, cities, buildings, minimapTerrain, minimapCities, minimapUnits, tooltip
    movementRange := app.movementRange.map (·.coord)
    attackRange, leftPanel
    rightPanel := drawRightPanel measureText app hoveredTile
    factionList := drawFactionListPanel measureText app.state
    combatLog := LogPanel.drawCombatLogPanel measureText app.combatLog screenWidth screenHeight
      app.combatLogScroll
    turnLabel := "Turn " ++ toString app.state.turn
    fogIsOff := app.debugNoFog }

end AppState

end My4X
