/-
**The combat log of the application.**

The player selects a unit, moves it, attacks with it and ends turns, in frames of which each does
one thing.  The log tells of every attack and capture in the order of the turns, and goes on doing
so when an older game is loaded, since loading leaves nobody at war.

Main definitions:

* `My4X.AppState.AtPlay` — the game is shown, and nothing fades;
* `My4X.GameState.Marches`, `My4X.AppState.Marching` — a warrior on its way through the plains;
* `My4X.AppState.LogOrdered` — what keeps the log in order.

Main results:

* `My4X.AppState.frame_at_play` — what a frame leaves is what the input makes of the state;
* `My4X.AppState.handleUnitClick_moves`, `My4X.AppState.handleUnitClick_attacks` — what a click does
  with the selected unit;
* `My4X.AppState.Marching.moves`, `My4X.AppState.Marching.rests` — a step and the end of a turn;
* `My4X.AppState.log_chronological` — **the log is in the order of the turns**.
-/

import My4X.DemoSetup
import My4X.LoadedGames
import My4X.SeededMaps
import My4X.ZocSources

set_option relaxedAutoImplicit false
set_option autoImplicit false

namespace My4X

open GameState

variable {codec : Codec} {queue : CostQueue} {draws : ℕ → TerrainType} {saves : SavesDirectory}

namespace AppState

/-! ### Frames at play -/

/-- **The player is at play**: the game is shown, and nothing fades. -/
structure AtPlay (app : AppState) : Prop where
  shown : app.currentScreen = .inGame
  lit : app.transition.active = false

/-- At play a frame comes to the input, unless the camera flies on. -/
theorem atKeys_of_atPlay {app : AppState} (hready : Ready codec app) (h : AtPlay app)
    {i : FrameInput} (hstill : (updateCinematic app i).cinematicActive = false) :
    atKeys app i = (handleInput (updateCinematic app i) i).toOption := by
  obtain ⟨hstays, hdirection⟩ := hready.fading (hready.screen.1 h.shown)
  have hfaded : fade app i = app := by
    rw [fade, Transition.update, if_neg (by simp [h.lit])]
  have hscreen : changeScreen app = .ok app := by
    rw [changeScreen, if_neg]
    rw [Transition.covers, hdirection]
    simp
  have hlit : (updateCinematic app i).transition.active = false := by
    rw [updateCinematic]
    split
    · exact h.lit
    · exact h.lit
  rw [atKeys, if_neg (by simp [hstays]), hfaded, hscreen]
  change (if app.currentScreen ≠ .inGame then none else _) = _
  rw [if_neg (not_not.2 h.shown), if_neg (by simp [hlit, hstill])]

/-- **A frame at play in which nothing is saved or loaded** leaves what the input makes of the
state, and the range of the unit that is then selected. -/
theorem frame_at_play (hcodec : codec.Exact) {i : FrameInput} (hfair : i.Fair codec)
    (queue : CostQueue)
    {app app₁ : AppState} (hready : Ready codec app) (h : AtPlay app)
    (hstill : app.cinematicActive = false)
    (hquiet : i.f5 = false ∧ i.f9 = false ∧ i.endTurnReleased = false)
    (hinput : handleInput app i = .ok app₁) :
    ∃ range, frame codec queue app i = .ok { app₁ with movementRange := range } ∧
      Ready codec { app₁ with movementRange := range } := by
  obtain ⟨app', hframe, hready', -⟩ := frame_ok hcodec hfair queue hready
  have hflown : updateCinematic app i = app := by
    rw [updateCinematic, if_neg (by simp [hstill])]
  have hkeys : atKeys app i = some app₁ := by
    rw [atKeys_of_atPlay hready h (by rw [hflown]; exact hstill), hflown, hinput]
    rfl
  obtain ⟨hsave, hload, hend⟩ := hquiet
  have hsame := hframe
  rw [frame_of_atKeys hkeys, handleSaveLoad, hsave, hload, hend] at hframe
  obtain ⟨app₂, hkept, hframe⟩ := Except.bind_eq_ok.1 hframe
  obtain rfl : app₁ = app₂ := Except.ok.inj hkept
  obtain ⟨app₃, hkept, hframe⟩ := Except.bind_eq_ok.1 hframe
  obtain rfl : app₁ = app₃ := Except.ok.inj hkept
  obtain ⟨range, -, hframe⟩ := Except.bind_eq_ok.1 hframe
  obtain rfl := Except.ok.inj hframe
  exact ⟨range, hsame, hready'⟩

/-! ### Clicks -/

/-- A click on a tile. -/
def clickOn (tile : TileCoord) : FrameInput := { hoveredTile := some tile, leftPressed := true }

/-- A click that is used up is all that its frame makes of the state, when no city is selected. -/
theorem handleInput_clickOn {app app₁ : AppState} (hsound : app.state.Sound) {tile : TileCoord}
    (hclick : handleUnitClick app tile = .ok (app₁, true)) (hcity : app₁.selectedCity = none) :
    handleInput app (clickOn tile) = .ok app₁ := by
  have hclicked : handleLeftClick app (clickOn tile) = .ok app₁ := by
    rw [handleLeftClick]
    change (do let click ← handleUnitClick app tile; _) = _
    rw [hclick]
    rfl
  have hbuilt : ∀ i : FrameInput, buildActions app₁ i = app₁ := fun i => by
    rw [buildActions, hcity]
  rw [handleInput, removeDeadUnits_of_living hsound.living]
  change (do let app ← handleLeftClick app (clickOn tile); _) = _
  rw [hclicked, Except.ok_bind]
  change (do let app ← endTurnIf false (buildActions app₁ (clickOn tile)); _) = _
  rw [hbuilt]
  rfl

/-- **A click on a unit selects it**, when none was selected. -/
theorem handleUnitClick_selects {app : AppState} (hnone : app.selectedUnit = noSelection)
    (tile : TileCoord) (hfound : findUnitAtTile app.state tile.row tile.col ≠ noSelection) :
    handleUnitClick app tile =
      .ok ({ app with selectedUnit := findUnitAtTile app.state tile.row tile.col }, true) := by
  rw [handleUnitClick, if_neg (not_not.2 hnone), if_pos hfound]

section Selected

variable {app : AppState} (hsound : app.state.Sound) {k : ℕ} {p : OwnedUnit}
  (hselected : app.selectedUnit = k) (hp : app.state.units.get? k = some p)
  (hplayer : p.unit.factionId = playerFactionId)

include hsound hselected hp

/-- A click with a living unit of the list selected. -/
theorem handleUnitClick_of_selected (tile : TileCoord) :
    handleUnitClick app tile =
      handleSelectedUnitClick app tile (findUnitAtTile app.state tile.row tile.col) := by
  have hat : app.state.units.at app.selectedUnit = .ok p := at_eq_ok.2 ⟨k, hselected, hp⟩
  have hsome : app.selectedUnit ≠ noSelection := by
    rw [hselected, noSelection]
    omega
  have halive := hsound.living p (List.mem_of_getElem? hp)
  rw [handleUnitClick, if_pos hsome, hat]
  dsimp only
  rw [if_neg (by simp [halive])]

include hplayer

/-- **A click on a free tile moves the selected unit** there, if the move is valid.  A city that
it captures there changes neither the units nor the map, nor who is at war. -/
theorem handleUnitClick_moves (tile : TileCoord)
    (hfree : findUnitAtTile app.state tile.row tile.col = noSelection)
    (hvalid : MoveAction.validate ⟨k, tile.row, tile.col⟩ app.state = .ok .valid) :
    ∃ s u t log, handleUnitClick app tile =
        .ok ({ app with state := s, combatLog := log }, true) ∧
      app.state.map.tile tile.row tile.col = .ok t ∧
      p.unit.moveTo tile.row tile.col (getTerrainProperties t.terrain).movementCost = .ok u ∧
      s.units = app.state.units.set k u ∧ s.map = app.state.map ∧
      s.diplomacy = app.state.diplomacy ∧ s.turn = app.state.turn := by
  obtain ⟨p', u, t, hp', ht, hmove, hex⟩ := MoveAction.execute_of_valid hvalid
  obtain rfl := Option.some_inj.1 (hp.symm.trans hp')
  have hat : app.state.units.at app.selectedUnit = .ok p := at_eq_ok.2 ⟨k, hselected, hp⟩
  have hindex : app.selectedUnit.toNat = k := by omega
  have hmoved := hsound.execute (GameAction.execute_move.2 ⟨_, hex, rfl⟩)
  obtain ⟨fog, hfog, -⟩ := hmoved.recalculateFog playerFactionId
  obtain ⟨⟨s, c⟩, hcapture⟩ :=
    CaptureAction.execute_returns ⟨k⟩ { app.state.relocate k p u with fog }
  have hrest : s.units = app.state.units.set k u ∧ s.map = app.state.map ∧
      s.diplomacy = app.state.diplomacy ∧ s.turn = app.state.turn := by
    obtain ⟨-, ⟨-, -, rfl⟩ | ⟨-, -, o, j, city, htaken, rfl⟩⟩ :=
      CaptureAction.execute_cases hcapture
    · exact ⟨rfl, rfl, rfl, rfl⟩
    · exact ⟨rfl, rfl, rfl, rfl⟩
  refine ⟨s, u, t, if c.executed then app.combatLog.append (captureEvent s tile c)
    else app.combatLog, ?_, ht, hmove, hrest⟩
  rw [handleUnitClick_of_selected hsound hselected hp, hfree, handleSelectedUnitClick, hat,
    Except.ok_bind, if_neg (not_not.2 hplayer), if_neg (fun h => h.1 rfl), moveOrDeselect,
    if_pos rfl, tryMoveUnit, hat, Except.ok_bind, hindex]
  dsimp only
  rw [hex, Except.ok_bind, if_neg (by simp), hfog, Except.ok_bind, hcapture]
  rfl

/-- **A click on an enemy attacks it**, if the attack is valid, and the log tells of it. -/
theorem handleUnitClick_attacks (tile : TileCoord) {l : ℕ}
    (hfound : findUnitAtTile app.state tile.row tile.col = l)
    (hvalid : AttackAction.validate ⟨k, l⟩ app.state = .valid) :
    ∃ s selectedUnit event, handleUnitClick app tile =
        .ok ({ app with
          state := s, selectedUnit, combatLog := app.combatLog.append event
          cinematicActive := true }, true) ∧
      event.turn = app.state.turn := by
  obtain ⟨p', q, hcheck⟩ := AttackAction.validate_eq_valid hvalid
  obtain rfl := Option.some_inj.1 (hp.symm.trans hcheck.attacker)
  have hat : app.state.units.at app.selectedUnit = .ok p := at_eq_ok.2 ⟨k, hselected, hp⟩
  have hat' : app.state.units.at (l : ℤ) = .ok q := at_eq_ok.2 ⟨l, rfl, hcheck.target⟩
  have hindex : app.selectedUnit.toNat = k := by omega
  have hwar := AttackAction.areAtWar_of_valid hvalid hcheck
  have hne : (l : ℤ) ≠ noSelection ∧ (l : ℤ) ≠ app.selectedUnit := by
    refine ⟨by rw [noSelection]; omega, fun hsame => ?_⟩
    rw [hselected] at hsame
    obtain rfl := Int.ofNat.inj hsame
    exact hcheck.faction_ne (congrArg (·.unit.factionId)
      (Option.some_inj.1 (hp.symm.trans hcheck.target)))
  obtain ⟨⟨s, r⟩, hout⟩ := AttackAction.execute_of_inside ⟨k, l⟩ hsound.inside
  obtain ⟨hvalidation, ⟨-, hrefused, -⟩ | ⟨hexecuted, -⟩⟩ := AttackAction.execute_cases hout
  · exact absurd (hvalidation.trans hvalid) hrefused
  obtain ⟨fog, hfog, -⟩ := (hsound.attack hout).recalculateFog playerFactionId
  -- the selection follows its unit
  refine ⟨{ s with fog },
    if r.combat.attackerDied then noSelection
    else if r.combat.defenderDied ∧ (l : ℤ) < app.selectedUnit then app.selectedUnit - 1
    else app.selectedUnit,
    attackEvent app.state app.selectedUnit l p.unit q.unit r.combat, ?_, rfl⟩
  rw [handleUnitClick_of_selected hsound hselected hp, hfound, handleSelectedUnitClick, hat,
    Except.ok_bind, if_neg (not_not.2 hplayer), if_pos hne, tryAttack, hat, Except.ok_bind, hat',
    Except.ok_bind]
  dsimp only
  rw [hindex, Int.toNat_natCast, hout, if_neg (by simp [hcheck.faction_ne.symm, hwar])]
  rw [Except.ok_bind, if_neg (by simp [hexecuted]), hfog]
  rfl

end Selected

/-- **The end of a turn by its key.** -/
theorem handleInput_space {app : AppState} (hsound : app.state.Sound)
    (hcity : app.selectedCity = none) : ∃ s, handleInput app { space := true } =
      .ok { app with state := s } ∧ TurnEnded app.state s := by
  obtain ⟨s, hturn, -, hended⟩ := hsound.processTurn
  refine ⟨s, ?_, hended⟩
  have hbuilt : buildActions app { space := true } = app := by
    rw [buildActions, hcity]
  have hout : endTurn app = .ok { app with state := s } := by
    rw [endTurn, hturn]
  rw [handleInput, removeDeadUnits_of_living hsound.living]
  change (do let app ← endTurnIf true (buildActions app { space := true }); _) = _
  rw [hbuilt, endTurnIf, if_pos rfl, hout]
  rfl

end AppState

/-! ### Where the units stand -/

/-- Where a unit stands, and whose it is. -/
def Unit.station (u : Unit) : ℤ × ℤ × FactionId := (u.row, u.col, u.factionId)

/-- Where the units stand, in the order of the list. -/
def GameState.stations (s : GameState) : List (ℤ × ℤ × FactionId) := s.soldiers.map Unit.station

theorem GameState.mem_stations {s : GameState} {p : OwnedUnit} (hp : p ∈ s.units.list) :
    p.unit.station ∈ s.stations :=
  List.mem_map_of_mem (List.mem_map_of_mem hp)

theorem GameState.stations_get? {s : GameState} {i : ℕ} {station : ℤ × ℤ × FactionId} :
    s.stations[i]? = some station ↔ ∃ p, s.units.get? i = some p ∧ p.unit.station = station := by
  rw [stations, soldiers, List.map_map, List.getElem?_map]
  exact Option.map_eq_some_iff

/-- One unit has moved. -/
theorem GameState.stations_set {s s' : GameState} {i : ℕ} {p : OwnedUnit}
    (hp : s.units.get? i = some p) {u : Unit} (hunits : s'.units = s.units.set i u) :
    s'.stations = s.stations.set i u.station := by
  rw [stations, soldiers, hunits, UnitVec.set_list hp, List.map_set, List.map_set]
  rfl

/-- At the start of a turn nobody has moved. -/
theorem GameState.stations_startTurn {s s' : GameState}
    (hunits : s'.units = s.units.mapUnits Unit.startTurn) : s'.stations = s.stations := by
  rw [stations, soldiers, hunits, stations, soldiers, List.map_map, List.map_map]
  change List.map _ (List.map _ s.units.list) = _
  rw [List.map_map]
  refine List.map_congr_left fun p _ => ?_
  change p.unit.startTurn.station = p.unit.station
  rw [Unit.startTurn]
  split
  · rfl
  · rfl

/-- Two tests that agree on a list find the same place. -/
theorem findIdx?_congr {α : Type} {p q : α → Bool} {l : List α} (h : ∀ a ∈ l, p a = q a) :
    l.findIdx? p = l.findIdx? q := by
  induction l with
  | nil => rfl
  | cons a l ih =>
      rw [List.findIdx?_cons, List.findIdx?_cons, h a List.mem_cons_self,
        ih fun b hb => h b (List.mem_cons_of_mem a hb)]

/-- The index of the first unit on a tile. -/
def stationed (stations : List (ℤ × ℤ × FactionId)) (row col : ℤ) : Option ℕ :=
  stations.findIdx? fun station => decide (station.1 = row) && decide (station.2.1 = col)

/-- Among living units the stations tell who is found on a tile. -/
theorem AppState.findUnitAtTile_eq {s : GameState} (hliving : ∀ p ∈ s.units.list, p.unit.isAlive)
    (row col : ℤ) : findUnitAtTile s row col =
      match stationed s.stations row col with
      | some i => i
      | none => noSelection := by
  have hsame : stationed s.stations row col = s.units.list.findIdx? fun p =>
      p.unit.isAlive && decide (p.unit.row = row) && decide (p.unit.col = col) := by
    rw [stationed, stations, soldiers, List.map_map, List.findIdx?_map]
    refine findIdx?_congr fun p hp => ?_
    rw [hliving p hp, Bool.true_and]
    rfl
  rewrite [findUnitAtTile, hsame]
  rfl

/-- **A move away from where nobody is near** is only checked against the terrain. -/
theorem MoveAction.validate_of_unwatched {a : MoveAction} {s : GameState} (h : s.Coherent)
    {p : OwnedUnit} {t : Tile} (hp : s.units.get? a.unitIndex = some p)
    (haffords : a.Affords s.map p.unit t)
    (hunwatched : ∀ station ∈ s.stations,
      hexDistance p.unit.row p.unit.col station.1 station.2.1 ≠ 1) :
    a.validate s = .ok .valid := by
  refine MoveAction.validate_eq_valid_iff.2 ⟨p, t, hp, haffords, fun hcrosses => ?_⟩
  obtain ⟨enemy, -, hfrom⟩ := isMovementBlockedByZoc_iff.1 hcrosses
  obtain ⟨-, q, hq, -, -, hnear⟩ := h.mem_enemyZocSources.1 hfrom
  exact hunwatched _ (GameState.mem_stations hq) hnear

/-! ### The march -/

/-- Where all but the first unit of the player stand at the start. -/
def garrison : List (ℤ × ℤ × FactionId) :=
  ((romans 1 ++ persians 2 ++ neutrals 3).drop 1).map Unit.station

/-- **The first warrior of the player is on the march**: it is at a place, with some movement left,
all other units are where they started, and the player is at war with the hostile faction. -/
structure GameState.Marches (s : GameState) (row col movement turn : ℤ) : Prop where
  scout : ∃ p, s.units.get? 0 = some p ∧ p.unit.template = warriorTemplate ∧
    p.unit.movementRemaining = movement
  stations : s.stations = (row, col, 1) :: garrison
  plains : ∀ row col, InBounds row col appMapRows appMapCols →
    (row, col) ∉ riverTiles appMapRows appMapCols →
      ∃ t, s.map.tile row col = .ok t ∧ t.terrain = .plains
  hostile : s.diplomacy.areAtWar 1 3 = true
  turn : s.turn = turn

namespace GameState.Marches

variable {s s' : GameState} {row col row' col' movement turn : ℤ}

/-- The warrior. -/
theorem exists_warrior (h : s.Marches row col movement turn) :
    ∃ p, s.units.get? 0 = some p ∧ p.unit.template = warriorTemplate ∧
      p.unit.movementRemaining = movement ∧ p.unit.row = row ∧ p.unit.col = col ∧
      p.unit.factionId = 1 := by
  obtain ⟨p, hp, htemplate, hmovement⟩ := h.scout
  have hstation := stations_get?.2 ⟨p, hp, rfl⟩
  rw [h.stations] at hstation
  obtain ⟨hrow, hrest⟩ := Prod.mk.inj (Option.some_inj.1 hstation)
  obtain ⟨hcol, hfaction⟩ := Prod.mk.inj hrest
  exact ⟨p, hp, htemplate, hmovement, hrow.symm, hcol.symm, hfaction.symm⟩

/-- **A step to a free tile of the plains is valid** where nobody is near. -/
theorem validate_step (h : s.Marches row col movement turn) (hsound : s.Sound)
    (hmovement : 1 ≤ movement) (hadjacent : hexDistance row col row' col' = 1)
    (hin : InBounds row' col' appMapRows appMapCols)
    (hriver : (row', col') ∉ riverTiles appMapRows appMapCols)
    (hfar : ∀ station ∈ (row, col, 1) :: garrison,
      hexDistance row col station.1 station.2.1 ≠ 1) :
    MoveAction.validate ⟨0, row', col'⟩ s = .ok .valid := by
  obtain ⟨p, hp, -, hleft, rfl, rfl, -⟩ := h.exists_warrior
  obtain ⟨t, ht, hplains⟩ := h.plains row' col' hin hriver
  refine MoveAction.validate_of_unwatched hsound.coherent (t := t) hp
    ⟨hsound.living p (List.mem_of_getElem? hp), ht, ?_, ?_, hadjacent⟩ ?_
  · rw [hplains]
    rfl
  · rw [hplains, hleft]
    exact hmovement
  · rw [h.stations]
    exact hfar

/-- **After a step** the warrior stands on the tile, and has paid for it. -/
theorem step (h : s.Marches row col movement turn) {p : OwnedUnit} {u : Unit} {t : Tile}
    (hp : s.units.get? 0 = some p) (ht : s.map.tile row' col' = .ok t)
    (hin : InBounds row' col' appMapRows appMapCols)
    (hriver : (row', col') ∉ riverTiles appMapRows appMapCols)
    (hmove : p.unit.moveTo row' col' (getTerrainProperties t.terrain).movementCost = .ok u)
    (hunits : s'.units = s.units.set 0 u) (hmap : s'.map = s.map)
    (hdiplomacy : s'.diplomacy = s.diplomacy) (hturn : s'.turn = s.turn) :
    s'.Marches row' col' (movement - 1) turn := by
  obtain ⟨q, hq, htemplate, hleft, -, -, hfaction⟩ := h.exists_warrior
  obtain rfl := Option.some_inj.1 (hp.symm.trans hq)
  obtain ⟨t', ht', hplains⟩ := h.plains row' col' hin hriver
  obtain rfl := Except.ok.inj (ht.symm.trans ht')
  rw [hplains, Unit.moveTo] at hmove
  split at hmove
  · have hu := Except.ok.inj hmove
    refine ⟨⟨{ p with unit := u }, ?_, ?_, ?_⟩, ?_, ?_, ?_, hturn.trans h.turn⟩
    · rw [hunits, UnitVec.get?_set, if_pos rfl, hp]
      rfl
    · rw [← hu]
      exact htemplate
    · rw [← hu, ← hleft]
      rfl
    · rw [stations_set hp hunits, h.stations, ← hu]
      exact congrArg (· :: garrison) (congrArg (fun f => (row', col', f)) hfaction)
    · rw [hmap]
      exact h.plains
    · rw [hdiplomacy]
      exact h.hostile
  · cases hmove

/-- **After a turn** the warrior can move again. -/
theorem rest (h : s.Marches row col movement turn) (hsound : s.Sound) (hended : TurnEnded s s') :
    s'.Marches row col 2 (turn + 1) := by
  obtain ⟨p, hp, htemplate, -⟩ := h.exists_warrior
  have halive := hsound.living p (List.mem_of_getElem? hp)
  refine ⟨⟨{ p with unit := p.unit.startTurn }, ?_, ?_⟩, ?_, ?_, ?_, ?_⟩
  · rw [hended.units]
    exact (List.getElem?_map ..).trans (congrArg (Option.map _) hp)
  · rw [Unit.startTurn, if_pos halive]
    exact ⟨htemplate, congrArg UnitTemplate.movementRange htemplate⟩
  · rw [stations_startTurn hended.units, h.stations]
  · rw [hended.map]
    exact h.plains
  · rw [hended.diplomacy]
    exact h.hostile
  · rw [hended.turn, h.turn]

/-- **The guard of the hostile faction can be attacked** from next to it. -/
theorem validate_raid (h : s.Marches 4 3 movement turn) (hsound : s.Sound)
    (hmovement : 1 ≤ movement) : AttackAction.validate ⟨0, 11⟩ s = .valid := by
  obtain ⟨p, hp, htemplate, hleft, hrow, hcol, hfaction⟩ := h.exists_warrior
  obtain ⟨q, hq, hstation⟩ := stations_get?.1
    (show s.stations[11]? = some (3, 2, 3) by rw [h.stations]; decide)
  obtain ⟨hrow', hrest⟩ := Prod.mk.inj hstation
  obtain ⟨hcol', hfaction'⟩ := Prod.mk.inj hrest
  rw [AttackAction.validate]
  dsimp only
  rw [hp, hq]
  dsimp only
  rw [AttackAction.validateUnits,
    if_neg (by simp [hsound.living p (List.mem_of_getElem? hp)]),
    if_neg (by simp [hsound.living q (List.mem_of_getElem? hq)]), hfaction, hfaction',
    if_neg (by decide), if_neg (by simp [h.hostile]), hleft,
    if_neg (by rw [attackMovementCost]; omega), Unit.attackRange, htemplate, hrow, hcol, hrow',
    hcol', if_neg (by decide)]

end GameState.Marches

/-- A step from one tile to another that nobody stands on and nobody watches. -/
def OpenStep (row col row' col' : ℤ) : Prop :=
  hexDistance row col row' col' = 1 ∧ InBounds row' col' appMapRows appMapCols ∧
    (row', col') ∉ riverTiles appMapRows appMapCols ∧
    stationed ((row, col, 1) :: garrison) row' col' = none ∧
    ∀ station ∈ (row, col, 1) :: garrison, hexDistance row col station.1 station.2.1 ≠ 1

instance (row col row' col' : ℤ) : Decidable (OpenStep row col row' col') :=
  inferInstanceAs (Decidable (_ ∧ _ ∧ _ ∧ _ ∧ _))

/-- The log always has room for the last event. -/
theorem CombatLog.mem_allEvents_append (log : CombatLog) (event : CombatEvent) :
    event ∈ (log.append event).allEvents := by
  rw [allEvents_append, List.rtake, List.length_append, List.length_singleton,
    List.drop_append_of_le_length (by have := log.head_lt; omega)]
  exact List.mem_append_right _ (List.mem_singleton.2 rfl)

namespace AppState

/-- **The march is under way**: the warrior is selected. -/
structure Marching (codec : Codec) (saves : SavesDirectory) (app : AppState)
    (row col movement turn : ℤ) : Prop where
  ready : Ready codec app
  play : AtPlay app
  still : app.cinematicActive = false
  city : app.selectedCity = none
  onDisk : app.saves = saves
  selected : app.selectedUnit = 0
  game : app.state.Marches row col movement turn

theorem clickOn_fair {row col : ℤ} (h : InBounds row col appMapRows appMapCols) :
    (clickOn ⟨row, col⟩).Fair codec where
  hovered tile htile := by
    obtain rfl := Option.some_inj.1 htile
    exact h
  listing directory := List.Perm.refl _
  cut written hcut := by cases hcut

namespace Marching

variable {app : AppState} {saves : SavesDirectory} {row col row' col' movement turn : ℤ}

/-- **The march begins** with a click on the warrior. -/
theorem begins (hcodec : codec.Exact) (queue : CostQueue) (hready : Ready codec app)
    (hplay : AtPlay app) (hstill : app.cinematicActive = false) (hcity : app.selectedCity = none)
    (hnone : app.selectedUnit = noSelection) (hgame : app.state.Marches 10 4 2 turn) :
    ∃ app', appStep codec queue app (clickOn ⟨10, 4⟩) = some app' ∧
      Marching codec app.saves app' 10 4 2 turn := by
  have hsound := hready.kept.sound
  have hfound : findUnitAtTile app.state 10 4 = 0 := by
    rw [findUnitAtTile_eq hsound.living, hgame.stations,
      show stationed ((10, 4, 1) :: garrison) 10 4 = some 0 by decide]
    rfl
  have hclick := handleUnitClick_selects hnone ⟨10, 4⟩ (by rw [hfound]; decide)
  rw [hfound] at hclick
  obtain ⟨range, hframe, hready'⟩ := frame_at_play hcodec
    (clickOn_fair (by decide)) queue hready hplay hstill ⟨rfl, rfl, rfl⟩
    (handleInput_clickOn hsound hclick hcity)
  exact ⟨_, appStep_eq_some.2 hframe, hready', ⟨hplay.shown, hplay.lit⟩, hstill, hcity, rfl, rfl,
    hgame⟩

/-- **A click on a free tile** moves the warrior there. -/
theorem moves (hcodec : codec.Exact) (queue : CostQueue)
    (h : Marching codec saves app row col movement turn)
    (hmovement : 1 ≤ movement) (hfree : OpenStep row col row' col') :
    ∃ app', appStep codec queue app (clickOn ⟨row', col'⟩) = some app' ∧
      Marching codec saves app' row' col' (movement - 1) turn := by
  obtain ⟨hadjacent, hin, hriver, hnobody, hfar⟩ := hfree
  have hsound := h.ready.kept.sound
  obtain ⟨p, hp, -, -, -, -, hplayer⟩ := h.game.exists_warrior
  have hfound : findUnitAtTile app.state row' col' = noSelection := by
    rw [findUnitAtTile_eq hsound.living, h.game.stations, hnobody]
  obtain ⟨s, u, t, log, hclick, ht, hmove, hunits, hmap, hdiplomacy, hturn⟩ :=
    handleUnitClick_moves hsound (k := 0) h.selected hp hplayer ⟨row', col'⟩ hfound
      (h.game.validate_step hsound hmovement hadjacent hin hriver hfar)
  obtain ⟨range, hframe, hready⟩ := frame_at_play hcodec (clickOn_fair hin) queue h.ready
    h.play h.still ⟨rfl, rfl, rfl⟩ (handleInput_clickOn hsound hclick h.city)
  exact ⟨_, appStep_eq_some.2 hframe, hready, ⟨h.play.shown, h.play.lit⟩, h.still, h.city, h.onDisk,
    h.selected, h.game.step hp ht hin hriver hmove hunits hmap hdiplomacy hturn⟩

/-- **The turn ends**, and the warrior can move again. -/
theorem rests (hcodec : codec.Exact) (queue : CostQueue)
    (h : Marching codec saves app row col movement turn) :
    ∃ app', appStep codec queue app { space := true } = some app' ∧
      Marching codec saves app' row col 2 (turn + 1) := by
  have hsound := h.ready.kept.sound
  obtain ⟨s, hinput, hended⟩ := handleInput_space hsound h.city
  obtain ⟨range, hframe, hready⟩ := frame_at_play hcodec
    (fair_of_idle rfl rfl rfl) queue h.ready h.play h.still ⟨rfl, rfl, rfl⟩ hinput
  exact ⟨_, appStep_eq_some.2 hframe, hready, ⟨h.play.shown, h.play.lit⟩, h.still, h.city, h.onDisk,
    h.selected, h.game.rest hsound hended⟩

/-- **The guard is attacked**, and the last event of the log tells of it. -/
theorem attacks (hcodec : codec.Exact) (queue : CostQueue)
    (h : Marching codec saves app 4 3 movement turn) (hmovement : 1 ≤ movement) : ∃ app' event,
      appStep codec queue app (clickOn ⟨3, 2⟩) = some app' ∧ Ready codec app' ∧ AtPlay app' ∧
      app'.selectedCity = none ∧ app'.saves = saves ∧
      event ∈ app'.combatLog.allEvents ∧ event.turn = turn := by
  have hsound := h.ready.kept.sound
  obtain ⟨p, hp, -, -, -, -, hplayer⟩ := h.game.exists_warrior
  have hfound : findUnitAtTile app.state 3 2 = (11 : ℕ) := by
    rw [findUnitAtTile_eq hsound.living, h.game.stations,
      show stationed ((4, 3, 1) :: garrison) 3 2 = some 11 by decide]
  obtain ⟨s, selectedUnit, event, hclick, hturn⟩ :=
    handleUnitClick_attacks hsound (k := 0) h.selected hp hplayer ⟨3, 2⟩ hfound
      (h.game.validate_raid hsound hmovement)
  obtain ⟨range, hframe, hready⟩ := frame_at_play hcodec
    (clickOn_fair (by decide)) queue h.ready h.play h.still ⟨rfl, rfl, rfl⟩
    (handleInput_clickOn hsound hclick h.city)
  refine ⟨_, event, appStep_eq_some.2 hframe, hready, ⟨h.play.shown, h.play.lit⟩, h.city, h.onDisk,
    ?_, hturn.trans h.game.turn⟩
  exact app.combatLog.mem_allEvents_append event

end Marching

/-! ### The raid -/

/-- The screen comes up. -/
theorem screen_comes_up (codec : Codec) (queue : CostQueue) (saves : SavesDirectory)
    {s : GameState} (hsound : s.Sound) :
    appStep codec queue { entered s with saves } { transitionEnds := true } =
      some { entered s with saves, transition := { complete := true } } := by
  have hinput := handleInput_idle { entered s with saves, transition := { complete := true } }
    hsound rfl (i := { transitionEnds := true }) rfl
  have hkeys : atKeys { entered s with saves } { transitionEnds := true } =
      some { entered s with saves, transition := { complete := true } } := by
    rw [atKeys]
    change (handleInput { entered s with saves, transition := { complete := true } }
      { transitionEnds := true }).toOption = _
    rw [hinput]
    rfl
  rw [appStep_eq_some, frame_of_atKeys hkeys]
  rfl

/-- The first warrior of the player is selected and marches north, until it attacks the guard of the
hostile faction in the fourth turn. -/
def raid : List FrameInput :=
  [{ transitionEnds := true }, clickOn ⟨10, 4⟩, clickOn ⟨9, 4⟩, clickOn ⟨8, 4⟩, { space := true },
    clickOn ⟨7, 4⟩, clickOn ⟨6, 4⟩, { space := true }, clickOn ⟨5, 3⟩, clickOn ⟨4, 3⟩,
    { space := true }, clickOn ⟨3, 2⟩]

/-- The camera is back, and the last save is loaded. -/
def reload : FrameInput := { cinematicEnds := true, f9 := true }

/-- A new game, with a raid, after which the save is loaded. -/
def raidFrames : List FrameInput := enterGame ++ raid ++ [reload]

theorem raidFrames_fair : ∀ i ∈ raidFrames, i.Fair codec := by
  simp only [raidFrames, enterGame, raid, List.cons_append, List.nil_append, List.forall_mem_cons]
  exact ⟨fair_of_idle rfl rfl rfl, fair_of_idle rfl rfl rfl, fair_of_idle rfl rfl rfl,
    fair_of_idle rfl rfl rfl, clickOn_fair (by decide), clickOn_fair (by decide),
    clickOn_fair (by decide), fair_of_idle rfl rfl rfl, clickOn_fair (by decide),
    clickOn_fair (by decide), fair_of_idle rfl rfl rfl, clickOn_fair (by decide),
    clickOn_fair (by decide), fair_of_idle rfl rfl rfl, clickOn_fair (by decide),
    fair_of_idle rfl rfl rfl, fun i hi => by cases hi⟩

namespace SavedDemo

variable {m : Proto.GameState} {s : GameState} (h : SavedDemo m s)

include h

/-- The game that is entered is ready for the march. -/
theorem marches : s.Marches 10 4 2 s.turn := by
  obtain ⟨fresh, hstart, hsetup⟩ := h.setUp
  have hready := @ready_of_start hamletCodec _ _ (fun file hfile => by cases hfile) _ hstart
  obtain ⟨state, hcreate, hstart⟩ := Except.bind_eq_ok.1 hstart
  obtain rfl := Except.ok.inj hstart
  obtain ⟨hsoldiers, hdiplomacy⟩ :=
    setupDemoState_soldiers hready.kept.sound hready.kept.size hsetup
  obtain ⟨s', hsetup', -, hmap, -⟩ := setupDemoState_ok hready.kept.sound hready.kept.size
  obtain rfl := Except.ok.inj (hsetup.symm.trans hsetup')
  obtain ⟨map, hmap', hcreate⟩ := Except.bind_eq_ok.1 hcreate
  obtain rfl := Except.ok.inj hcreate
  have hsoldiers' : s.soldiers = romans 1 ++ persians 2 ++ neutrals 3 := hsoldiers
  have hfirst : s.soldiers[0]? = some (Unit.create 10 4 warriorTemplate 1) := by
    rw [hsoldiers']
    rfl
  rw [soldiers, List.getElem?_map] at hfirst
  obtain ⟨p, hp, hunit⟩ := Option.map_eq_some_iff.1 hfirst
  refine ⟨⟨p, hp, by rw [hunit]; rfl, by rw [hunit]; rfl⟩, ?_, fun row col hin hriver => ?_, ?_,
    rfl⟩
  · rw [stations, hsoldiers']
    rfl
  · rw [Map.create, dif_pos (by decide)] at hmap'
    obtain rfl := Except.ok.inj hmap'
    have hterrain := addDemoRivers_terrain
      (generateTiles appMapRows appMapCols fun _ => .plains) hriver
    rw [TileGrid.terrain?, TileGrid.terrain?, generateTiles_get? _ hin, Option.map_some,
      generateTile_terrain] at hterrain
    obtain ⟨t, ht, hplains⟩ := Option.map_eq_some_iff.1 hterrain
    refine ⟨t, Map.tile_eq_ok.2 ?_, hplains⟩
    rw [hmap]
    exact ht
  · rw [hdiplomacy]
    change ((DiplomacyManager.empty.initializeDefaults (appFactions {})).initializeDefaults
      (appFactions {})).areAtWar 1 3 = true
    decide

/-- The save is loaded. -/
theorem loads (app : AppState) (hsaves : app.saves = oneSave (Wire.gameState m)) {i : FrameInput}
    (hi : i.listing = SavesDirectory.files) :
    ∃ t, loadLatest (Codec.only m) app i = .ok t ∧ Restored s t ∧ t.Sound := by
  have hdata := serialize_only h.message
  obtain ⟨t, ht, hrestored, hsound⟩ := exists_restored (Codec.only_exact m) h.sound hdata i.draws
  have hlatest : SaveFiles.latestSavePath (oneSave (Wire.gameState m))
      (oneSave (Wire.gameState m)).files = .ok _ :=
    SaveFiles.latestSavePath_of_newest (List.Perm.refl _) (List.mem_singleton.2 rfl)
      (by rw [SaveFiles.isSave, SaveFiles.hasSaveExtension_generateSavePath]; rfl)
      fun file hfile hne => absurd (congrArg SaveFile.path (List.mem_singleton.1 hfile)) hne
  refine ⟨t, ?_, hrestored, hsound⟩
  rw [loadLatest, hsaves, hi, hlatest, Except.ok_bind, SaveFiles.loadGame,
    SaveFiles.find_of_mem (List.mem_singleton.2 rfl)]
  dsimp only
  rw [if_neg (by simp), if_neg (h.sound.savable.serialize_ne_nil (Codec.only_exact m) hdata)]
  exact ht

/-- **The raid**: a game is entered, and its log tells of an attack in the fourth turn. -/
theorem raided : ∃ started app event,
    start (fun _ => .plains) (oneSave (Wire.gameState m)) = .ok started ∧
      Runs.run (appStep (Codec.only m) .firstLeast) started (enterGame ++ raid) = some app ∧
      Ready (Codec.only m) app ∧ AtPlay app ∧ app.selectedCity = none ∧
      app.saves = oneSave (Wire.gameState m) ∧
      event ∈ app.combatLog.allEvents ∧ event.turn = s.turn + 3 := by
  have hcodec := Codec.only_exact m
  obtain ⟨started, hstart, hready⟩ := start_ready (fun _ => .plains) h.readable
  obtain ⟨fresh, hfresh, hsetup⟩ := h.setUp
  have hsame : started.state = fresh.state := by
    obtain ⟨state, hcreate, hstart⟩ := Except.bind_eq_ok.1 hstart
    obtain ⟨state', hcreate', hfresh⟩ := Except.bind_eq_ok.1 hfresh
    obtain rfl := Except.ok.inj hstart
    obtain rfl := Except.ok.inj hfresh
    exact Except.ok.inj (hcreate.symm.trans hcreate')
  rw [← hsame] at hsetup
  have henter := run_enterGame (Codec.only m) .firstLeast hstart hsetup
  have hup := screen_comes_up (Codec.only m) .firstLeast (oneSave (Wire.gameState m)) h.sound
  have hfirst : enterGame ++ [{ transitionEnds := true }] <+: raidFrames :=
    ⟨raid.drop 1 ++ [reload], rfl⟩
  obtain ⟨hready₁, -⟩ := of_run (P := fun _ => True) (I := fun _ => True) hcodec
    (fun _ _ _ _ _ _ _ => trivial)
    (fun i hi => ⟨raidFrames_fair i (hfirst.subset hi), trivial⟩) hready trivial
    (Runs.run_append.2 ⟨_, henter, Runs.run_cons.2 ⟨_, hup, rfl⟩⟩)
  obtain ⟨a₁, h₁, hmarch⟩ := Marching.begins hcodec .firstLeast hready₁ ⟨rfl, rfl⟩ rfl
    rfl rfl h.marches
  obtain ⟨a₂, h₂, hmarch⟩ := hmarch.moves hcodec .firstLeast (by decide)
    (show OpenStep 10 4 9 4 by decide)
  obtain ⟨a₃, h₃, hmarch⟩ := hmarch.moves hcodec .firstLeast (by decide)
    (show OpenStep 9 4 8 4 by decide)
  obtain ⟨a₄, h₄, hmarch⟩ := hmarch.rests hcodec .firstLeast
  obtain ⟨a₅, h₅, hmarch⟩ := hmarch.moves hcodec .firstLeast (by decide)
    (show OpenStep 8 4 7 4 by decide)
  obtain ⟨a₆, h₆, hmarch⟩ := hmarch.moves hcodec .firstLeast (by decide)
    (show OpenStep 7 4 6 4 by decide)
  obtain ⟨a₇, h₇, hmarch⟩ := hmarch.rests hcodec .firstLeast
  obtain ⟨a₈, h₈, hmarch⟩ := hmarch.moves hcodec .firstLeast (by decide)
    (show OpenStep 6 4 5 3 by decide)
  obtain ⟨a₉, h₉, hmarch⟩ := hmarch.moves hcodec .firstLeast (by decide)
    (show OpenStep 5 3 4 3 by decide)
  obtain ⟨a₁₀, h₁₀, hmarch⟩ := hmarch.rests hcodec .firstLeast
  obtain ⟨app, event, hattack, hready', hplay, hcity, hdisk, hevent, hturn⟩ :=
    hmarch.attacks hcodec .firstLeast (by decide)
  refine ⟨started, app, event, hstart, Runs.run_append.2 ⟨_, henter, ?_⟩, hready', hplay, hcity,
    hdisk, hevent, by rw [hturn]; omega⟩
  simp only [raid, Runs.run_cons]
  exact ⟨_, hup, a₁, h₁, a₂, h₂, a₃, h₃, a₄, h₄, a₅, h₅, a₆, h₆, a₇, h₇, a₈, h₈, a₉, h₉, a₁₀, h₁₀,
    app, hattack, rfl⟩

/-- **The older game is loaded after the raid**: its turn is before that of the attack, which the
log still tells of. -/
theorem reloaded : ∃ started app event,
    start (fun _ => .plains) (oneSave (Wire.gameState m)) = .ok started ∧
      Runs.run (appStep (Codec.only m) .firstLeast) started raidFrames = some app ∧
      event ∈ app.combatLog.allEvents ∧ app.state.turn < event.turn := by
  obtain ⟨started, app, event, hstart, hrun, hready, hplay, hcity, hdisk, hevent, hturn⟩ := h.raided
  obtain ⟨t, hload, hrestored, hsound⟩ :=
    h.loads { app with cinematicActive := false } hdisk (i := reload) rfl
  obtain ⟨fog, hfog, -⟩ := hsound.recalculateFog playerFactionId
  have hback : updateCinematic app reload = { app with cinematicActive := false } := by
    rw [updateCinematic]
    cases hflies : app.cinematicActive with
    | true => rfl
    | false =>
        rw [if_neg (by simp)]
        cases app
        cases hflies
        rfl
  have hkeys : atKeys app reload = some { app with cinematicActive := false } := by
    have hinput := handleInput_idle { app with cinematicActive := false } hready.kept.sound hcity
      (i := reload) rfl
    rw [atKeys_of_atPlay hready hplay (by rw [hback]), hback, hinput]
    rfl
  have hreload : appStep (Codec.only m) .firstLeast app reload = some
      { app with
        cinematicActive := false, state := { t with fog }, selectedUnit := noSelection
        movementRange := [] } := by
    have hquick : handleSaveLoad (Codec.only m) { app with cinematicActive := false } reload = .ok
        { app with
          cinematicActive := false, state := { t with fog }, selectedUnit := noSelection } := by
      change quickLoad (Codec.only m) { app with cinematicActive := false } reload = _
      rw [quickLoad, hload]
      dsimp only
      rw [hfog]
      rfl
    rw [appStep_eq_some, frame_of_atKeys hkeys, hquick]
    rfl
  refine ⟨started, _, event, hstart,
    Runs.run_append.2 ⟨app, hrun, Runs.run_cons.2 ⟨_, hreload, rfl⟩⟩, hevent, ?_⟩
  change t.turn < event.turn
  rw [hrestored.turn, hturn]
  omega

end SavedDemo

/-! ### The log -/

/-- The turns of the events that the log shows, the oldest first. -/
def logTurns (app : AppState) : List ℤ := app.combatLog.allEvents.map (·.turn)

/-- Anyone is at war with anyone. -/
def AnyWar (app : AppState) : Prop := ∃ f g, app.state.diplomacy.areAtWar f g = true

/-- **What keeps the log in order**: while anyone is at war no event is of a later turn.  Loading an
older game sets the turn back, but leaves nobody at war. -/
structure LogOrdered (app : AppState) : Prop where
  ordered : app.logTurns.Pairwise (· ≤ ·)
  past : app.AnyWar → ∀ turn ∈ app.logTurns, turn ≤ app.state.turn
  fresh : app.gameInitialized = false → app.combatLog.allEvents = []

/-- What a log shows after an event is what it showed, less the oldest, and the event. -/
theorem pairwise_append (log : CombatLog) (event : CombatEvent)
    (hordered : (log.allEvents.map (·.turn)).Pairwise (· ≤ ·))
    (hpast : ∀ turn ∈ log.allEvents.map (·.turn), turn ≤ event.turn) :
    ((log.append event).allEvents.map (·.turn)).Pairwise (· ≤ ·) ∧
      ∀ turn ∈ (log.append event).allEvents.map (·.turn), turn ≤ event.turn := by
  have hsub : ((log.append event).allEvents.map (·.turn)).Sublist
      (log.allEvents.map (·.turn) ++ [event.turn]) := by
    rw [CombatLog.allEvents_append, List.rtake]
    have hdrop := ((log.allEvents ++ [event]).drop_sublist
      ((log.allEvents ++ [event]).length - log.capacity)).map (·.turn)
    rwa [List.map_append] at hdrop
  have hlast : ∀ turn ∈ log.allEvents.map (·.turn) ++ [event.turn], turn ≤ event.turn := by
    intro turn hturn
    rcases List.mem_append.1 hturn with hturn | hturn
    · exact hpast turn hturn
    · exact le_of_eq (List.mem_singleton.1 hturn)
  refine ⟨List.Pairwise.sublist hsub ?_, fun turn hturn => hlast turn (hsub.subset hturn)⟩
  refine List.pairwise_append.2 ⟨hordered, List.pairwise_singleton _ _, fun a ha b hb => ?_⟩
  rw [List.mem_singleton.1 hb]
  exact hpast a ha

/-- The same of several events of one turn. -/
theorem pairwise_foldl_append {turn : ℤ} (events : List CombatEvent)
    (hevents : ∀ e ∈ events, e.turn = turn) : ∀ {log : CombatLog},
    (log.allEvents.map (·.turn)).Pairwise (· ≤ ·) →
    (∀ t ∈ log.allEvents.map (·.turn), t ≤ turn) →
    ((events.foldl CombatLog.append log).allEvents.map (·.turn)).Pairwise (· ≤ ·) ∧
      ∀ t ∈ (events.foldl CombatLog.append log).allEvents.map (·.turn), t ≤ turn := by
  induction events with
  | nil => exact fun hordered hpast => ⟨hordered, hpast⟩
  | cons e events ih =>
      intro log hordered hpast
      have hturn := hevents e List.mem_cons_self
      have hone := pairwise_append log e hordered (by rw [hturn]; exact hpast)
      rw [hturn] at hone
      exact ih (fun x hx => hevents x (List.mem_cons_of_mem e hx)) hone.1 hone.2

/-- A change of what the log does not depend on. -/
theorem LogOrdered.of_eq {app app' : AppState} (h : LogOrdered app)
    (hlog : app'.combatLog = app.combatLog)
    (hdiplomacy : app'.state.diplomacy = app.state.diplomacy)
    (hturn : app.state.turn ≤ app'.state.turn)
    (hentered : app'.gameInitialized = app.gameInitialized) : LogOrdered app' where
  ordered := by
    rw [logTurns, hlog]
    exact h.ordered
  past hwar t ht := by
    rw [AnyWar, hdiplomacy] at hwar
    rw [logTurns, hlog] at ht
    exact (h.past hwar t ht).trans hturn
  fresh hfresh := by
    rw [hlog]
    exact h.fresh (hentered.symm.trans hfresh)

/-- A change after which nobody is at war. -/
theorem LogOrdered.of_peace {app app' : AppState} (h : LogOrdered app)
    (hlog : app'.combatLog = app.combatLog)
    (hdiplomacy : app'.state.diplomacy = DiplomacyManager.empty)
    (hentered : app'.gameInitialized = true) : LogOrdered app' where
  ordered := by
    rw [logTurns, hlog]
    exact h.ordered
  past hwar := by
    obtain ⟨f, g, hwar⟩ := hwar
    rw [hdiplomacy, areAtWar_empty] at hwar
    cases hwar
  fresh hfresh := by
    rw [hentered] at hfresh
    cases hfresh

/-- **What the player does keeps the log in order.** -/
theorem LogOrdered.play {i : FrameInput} {app app' : AppState} (h : LogOrdered app)
    (hsound : app.state.Sound)
    (hplaying : app.gameInitialized = true) (hplay : Play i app app') : LogOrdered app' := by
  cases hplay with
  | rests state log saves entered =>
      exact h.of_eq log (congrArg GameState.diplomacy state)
        (congrArg GameState.turn state).ge entered
  | @acts action s fog events player executes view state reported quiet log saves entered =>
      have hrest := execute_rest executes
      have hdiplomacy : app'.state.diplomacy = app.state.diplomacy := by
        rw [state]
        exact (congrArg GameState.diplomacy hrest :)
      have hturn : app'.state.turn = app.state.turn := by
        rw [state]
        exact (congrArg GameState.turn hrest :)
      by_cases hmove : ∃ a, action = .move a
      · obtain ⟨a, rfl⟩ := hmove
        rw [quiet a rfl] at log
        exact h.of_eq log hdiplomacy hturn.ge entered
      · have hwar := war_of_executes executes fun a ha => hmove ⟨a, ha⟩
        have hafter := pairwise_foldl_append events reported.turn h.ordered (h.past hwar)
        rw [← log] at hafter
        refine ⟨hafter.1, fun _ => ?_, fun hfresh => ?_⟩
        · rw [hturn]
          exact hafter.2
        · rw [entered, hplaying] at hfresh
          cases hfresh
  | orders found queued state log saves entered =>
      refine h.of_eq log ?_ ?_ entered
      · rw [state]
        rfl
      · rw [state]
        rfl
  | ends completes log saves entered =>
      obtain ⟨s', hturn, -, hended⟩ := hsound.processTurn
      obtain rfl := (Prod.mk.inj (completes.symm.trans hturn)).1
      refine h.of_eq log hended.diplomacy ?_ entered
      rw [hended.turn]
      omega

/-- **Every change keeps the log in order.** -/
theorem LogOrdered.change {i : FrameInput} {app app' : AppState} (h : LogOrdered app)
    (hsound : app.state.Sound) (hchange : Change codec i app app') : LogOrdered app' := by
  cases hchange with
  | rests state log saves entered =>
      exact h.of_eq log (congrArg GameState.diplomacy state)
        (congrArg GameState.turn state).ge entered
  | plays playing play => exact h.play hsound playing play
  | saves playing asked state log saves entered =>
      exact h.of_eq log (congrArg GameState.diplomacy state) (congrArg GameState.turn state).ge
        (entered.trans playing.symm)
  | @loads t fog playing asked loaded view state log saves entered =>
      have hpeace := diplomacy_of_loadLatest loaded
      refine h.of_peace log ?_ entered
      rw [state]
      exact hpeace
  | begins fresh setUp log saves entered =>
      have hempty := h.fresh fresh
      have hnone : app'.logTurns = [] := by rw [logTurns, log, hempty, List.map_nil]
      refine ⟨?_, fun _ t ht => ?_, fun hfresh => ?_⟩
      · rw [hnone]
        exact List.Pairwise.nil
      · rw [hnone] at ht
        cases ht
      · rw [entered] at hfresh
        cases hfresh

/-- **The log is in the order of the turns in every run**, however often games are loaded. -/
theorem log_chronological (hcodec : codec.Exact)
    (hsaves : ∀ file ∈ saves.files, file.Readable codec) {app app' : AppState}
    (hstart : start draws saves = .ok app) {inputs : List FrameInput}
    (hfair : ∀ i ∈ inputs, i.Fair codec)
    (hrun : Runs.run (appStep codec queue) app inputs = some app') :
    app'.logTurns.Pairwise (· ≤ ·) := by
  have hready := ready_of_start hsaves hstart
  obtain ⟨state, -, hstart⟩ := Except.bind_eq_ok.1 hstart
  obtain rfl := Except.ok.inj hstart
  have hempty : LogOrdered { state, transition := Transition.start .fadeIn, saves } :=
    { ordered := List.Pairwise.nil
      past := fun _ t ht => by cases ht
      fresh := fun _ => rfl }
  exact (of_run (P := fun _ => True) hcodec
    (fun i a a' _ hkept ha hchange => LogOrdered.change ha hkept.sound hchange)
    (fun i hi => ⟨hfair i hi, trivial⟩) hready hempty hrun).2.ordered

/-- The log of a game in which a guard was attacked, and an older save was loaded then. -/
theorem raidFrames_chronological : ∃ (app : AppState) (event : CombatEvent),
    event ∈ app.combatLog.allEvents ∧ app.state.turn < event.turn ∧
      app.logTurns.Pairwise (· ≤ ·) := by
  obtain ⟨m, s, hdemo⟩ := exists_savedDemo
  obtain ⟨started, app, event, hstart, hrun, hevent, hturn⟩ := hdemo.reloaded
  exact ⟨app, event, hevent, hturn, log_chronological (Codec.only_exact m) hdemo.readable hstart
    raidFrames_fair hrun⟩

end AppState

end My4X
