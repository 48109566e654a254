/-
**What a frame shows.**

A frame draws the units, the cities and the buildings on the map, the map again in small, and, when
the mouse rests on a tile, what is known of that tile.  All of it goes by the view of the player,
unless the fog is switched off.  This module says what is drawn, and shows that nothing else can be
learned from it: two games that agree on what the player knows give the same picture.

Main definitions:

* `My4X.Rendering.drawUnits`, `My4X.Rendering.drawCities`, `My4X.Rendering.drawBuildings` — what is
  drawn on the map;
* `My4X.Minimap.draw` — what is drawn of the map in small;
* `My4X.Tooltip.buildLines` — what is said of a tile;
* `My4X.AppState.drawPicture` — what a frame draws by the view of the player;
* `My4X.AppState.LooksAlike` — two games agree on what the player knows.

Main results:

* `My4X.AppState.looksAlike_picture` — **games that look alike give the same picture**.
-/

import My4X.AppState
import My4X.Serialization
import My4X.Lib.Collecting

set_option relaxedAutoImplicit false
set_option autoImplicit false

namespace My4X

open Collecting

/-- What a faction sees of a tile; without a fog it sees everything. -/
def FogOfWar.shown (fog : Option FogOfWar) (factionId : FactionId) (row col : ℤ) :
    Except Fault VisibilityState :=
  match fog with
  | none => .ok .visible
  | some fog => fog.getVisibility factionId row col

/-! ### On the map -/

/-- The middle of a tile in space: its place, and how high it lies. -/
def tileCenterElevated (map : Map) (row col : ℤ) : Except Fault (ℤ × ℤ × ℤ) := do
  let tile ← map.tile row col
  return (row, col, tile.elevation)

/-- How high a tile of the map lies can be read. -/
theorem exists_tileCenterElevated {map : Map} {row col : ℤ}
    (hin : InBounds row col map.height map.width) :
    ∃ center, tileCenterElevated map row col = .ok center := by
  obtain ⟨tile, htile⟩ := (map.tile_eq_ok_iff row col).2 hin
  exact ⟨_, by rw [tileCenterElevated, htile]; rfl⟩

namespace Rendering

/-- **What the animator shows of a unit**: where it is drawn, and how large.  Both are floating
point numbers, which are only passed on. -/
structure UnitVisual (F : Type) where
  position : F × F × F
  scale : F
  deriving DecidableEq

/-- The units that are animated, by their indices: an animation starts with a move, an attack or a
death, and is removed when it is finished. -/
abbrev UnitAnimator (F : Type) := UInt32 → Option (UnitVisual F)

/-- Where a unit is drawn: where the animator shows it, or in the middle of its tile. -/
inductive UnitCenter (F : Type)
  | animated (position : F × F × F)
  | tile (center : ℤ × ℤ × ℤ)
  deriving DecidableEq

variable {F : Type}

/-- What is drawn of a unit: its model in the colours of its faction, its levels, a ring when it is
selected, and one for its relation to the player when it is foreign. -/
structure DrawnUnit (F : Type) where
  center : UnitCenter F
  scale : Option F
  modelKey : String
  level : ℤ
  justLeveledUp : Bool
  faction : Option Faction
  selected : Bool
  relation : Option DiplomacyState
  deriving DecidableEq

/-- A unit of the loop, with what is known of its index: whether it is the selected one, and what
the animator shows of it. -/
structure MarkedUnit (F : Type) where
  unit : Unit
  selected : Bool
  visual : Option (UnitVisual F)

/-- The units, each with what is known of its index. -/
def marked (animator : UnitAnimator F) (units : UnitVec) (selectedIndex : ℤ) :
    List (MarkedUnit F) :=
  units.list.zipIdx.map fun p =>
    ⟨p.1.unit, decide ((p.2 : ℤ) = selectedIndex), animator (UInt32.ofNat p.2)⟩

/-- Where a unit is drawn; its tile is only looked up when it is not animated. -/
def resolveUnitCenter (map : Map) (m : MarkedUnit F) : Except Fault (UnitCenter F) :=
  match m.visual with
  | some visual => .ok (.animated visual.position)
  | none => do
      let center ← tileCenterElevated map m.unit.row m.unit.col
      return .tile center

/-- Where a unit on the map is drawn can be told. -/
theorem exists_resolveUnitCenter {map : Map} {m : MarkedUnit F}
    (hin : InBounds m.unit.row m.unit.col map.height map.width) :
    ∃ center, resolveUnitCenter map m = .ok center := by
  rw [resolveUnitCenter]
  split
  · exact ⟨_, rfl⟩
  · obtain ⟨center, hcenter⟩ := exists_tileCenterElevated hin
    exact ⟨.tile center, by rw [hcenter]; rfl⟩

/-- How a unit is drawn; one that is not animated has its usual size. -/
def unitPicture (factions : FactionRegistry) (diplomacy : DiplomacyManager)
    (playerFaction : FactionId) (center : UnitCenter F) (m : MarkedUnit F) : DrawnUnit F where
  center := center
  scale := m.visual.map (·.scale)
  modelKey := m.unit.template.modelKey
  level := m.unit.level
  justLeveledUp := m.unit.justLeveledUp
  faction := factions.findFaction m.unit.factionId
  selected := m.selected
  relation :=
    if m.unit.factionId ≠ playerFaction then
      some (diplomacy.getRelation playerFaction m.unit.factionId)
    else none

/-- A foreign thing on a tile that is not visible is hidden. -/
def hides (fog : Option FogOfWar) (playerFaction owner : FactionId) (row col : ℤ) :
    Except Fault Bool :=
  if owner ≠ playerFaction then do
    let vis ← FogOfWar.shown fog playerFaction row col
    return decide (vis ≠ .visible)
  else .ok false

/-- Draws a unit: a dead one is skipped, and a foreign one on a tile that is not visible is
hidden. -/
def drawUnit (map : Map) (factions : FactionRegistry) (diplomacy : DiplomacyManager)
    (playerFaction : FactionId) (fog : Option FogOfWar) (m : MarkedUnit F) :
    Except Fault (List (DrawnUnit F)) :=
  if ¬ m.unit.isAlive then .ok []
  else do
    let hidden ← hides fog playerFaction m.unit.factionId m.unit.row m.unit.col
    if hidden then return []
    else do
      let center ← resolveUnitCenter map m
      return [unitPicture factions diplomacy playerFaction center m]

/-- **The units on the map.** -/
def drawUnits (s : GameState) (selectedIndex : ℤ) (playerFaction : FactionId)
    (fog : Option FogOfWar) (animator : UnitAnimator F) : Except Fault (List (DrawnUnit F)) :=
  collect (drawUnit s.map s.factionRegistry s.diplomacy playerFaction fog)
    (marked animator s.units selectedIndex)

/-- What is drawn of a city. -/
structure DrawnCity where
  center : ℤ × ℤ × ℤ
  faction : Option Faction
  selected : Bool
  relation : Option DiplomacyState
  deriving DecidableEq

/-- Draws a city; a foreign one whose centre is not visible is hidden. -/
def drawCity (map : Map) (factions : FactionRegistry) (diplomacy : DiplomacyManager)
    (selectedCityId : Option CityId) (playerFaction : FactionId) (fog : Option FogOfWar)
    (city : City) : Except Fault (List DrawnCity) := do
  let hidden ← hides fog playerFaction city.owner city.centerRow city.centerCol
  if hidden then return []
  else do
    let center ← tileCenterElevated map city.centerRow city.centerCol
    let picture : DrawnCity :=
      { center
        faction := factions.findFaction city.owner
        selected := decide (selectedCityId = some city.id)
        relation :=
          if city.owner ≠ playerFaction then some (diplomacy.getRelation playerFaction city.owner)
          else none }
    return [picture]

/-- **The cities on the map.** -/
def drawCities (s : GameState) (selectedCityId : Option CityId) (playerFaction : FactionId)
    (fog : Option FogOfWar) : Except Fault (List DrawnCity) :=
  collect (drawCity s.map s.factionRegistry s.diplomacy selectedCityId playerFaction fog) s.cities

/-- What is drawn of a building on a tile: in the colour of its faction, if it has one, or of its
kind, and darkened some times. -/
structure DrawnBuilding where
  row : ℤ
  col : ℤ
  name : String
  faction : Option Faction
  modelKey : String
  underConstruction : Bool
  dimmed : ℕ
  deriving DecidableEq

/-- Draws a building tile after tile.  A tile that is not explored is skipped; one that is out of
sight darkens the colour, which stays so for the tiles after it. -/
def drawTiles (map : Map) (factions : FactionRegistry) (playerFaction : FactionId)
    (fog : Option FogOfWar) (building : Building) (dimmed : ℕ) :
    List TileCoord → Except Fault (List DrawnBuilding)
  | [] => .ok []
  | tile :: tiles => do
      let vis ← FogOfWar.shown fog playerFaction tile.row tile.col
      if vis = .unexplored then drawTiles map factions playerFaction fog building dimmed tiles
      else
        let dimmed := if vis = .explored then dimmed + 1 else dimmed
        -- how high the tile lies is read, but a building stands on the ground
        let _ ← tileCenterElevated map tile.row tile.col
        let rest ← drawTiles map factions playerFaction fog building dimmed tiles
        let picture : DrawnBuilding :=
          { row := tile.row
            col := tile.col
            name := building.name
            faction :=
              if building.factionId ≠ 0 then factions.findFaction building.factionId else none
            modelKey := building.modelKey
            underConstruction := building.underConstruction
            dimmed }
        return picture :: rest

/-- **The buildings on the map.** -/
def drawBuildings (s : GameState) (playerFaction : FactionId) (fog : Option FogOfWar) :
    Except Fault (List DrawnBuilding) :=
  collect (fun building =>
    drawTiles s.map s.factionRegistry playerFaction fog building 0 building.occupiedTiles.toList)
    s.buildings

end Rendering

/-! ### The map in small -/

namespace Minimap

/-- A cell of the map in small: nothing of a tile that is not explored, and the terrain of another
one, darkened when it is out of sight. -/
structure Cell where
  row : ℤ
  col : ℤ
  terrain : Option (TerrainType × Bool)
  deriving DecidableEq

def drawTile (map : Map) (fog : Option FogOfWar) (playerFaction : FactionId) (place : ℤ × ℤ) :
    Except Fault (List Cell) := do
  let vis ← FogOfWar.shown fog playerFaction place.1 place.2
  if vis = .unexplored then return [⟨place.1, place.2, none⟩]
  else
    let tile ← map.tile place.1 place.2
    return [⟨place.1, place.2, some (tile.terrain, decide (vis = .explored))⟩]

/-- The terrain. -/
def drawTerrain (map : Map) (fog : Option FogOfWar) (playerFaction : FactionId) :
    Except Fault (List Cell) :=
  collect (drawTile map fog playerFaction) map.places

/-- A mark on the map in small, in the colour of a faction. -/
structure Mark where
  row : ℤ
  col : ℤ
  faction : Option Faction
  deriving DecidableEq

/-- Marks a city whose centre is explored. -/
def drawCity (factions : FactionRegistry) (fog : Option FogOfWar) (playerFaction : FactionId)
    (city : City) : Except Fault (List Mark) := do
  let vis ← FogOfWar.shown fog playerFaction city.centerRow city.centerCol
  return if vis = .unexplored then []
    else [⟨city.centerRow, city.centerCol, factions.findFaction city.owner⟩]

/-- The cities. -/
def drawCities (s : GameState) (fog : Option FogOfWar) (playerFaction : FactionId) :
    Except Fault (List Mark) :=
  collect (drawCity s.factionRegistry fog playerFaction) s.cities

/-- Marks a living unit on a tile that is visible. -/
def drawUnit (factions : FactionRegistry) (fog : Option FogOfWar) (playerFaction : FactionId)
    (u : Unit) : Except Fault (List Mark) :=
  if ¬ u.isAlive then .ok []
  else do
    let vis ← FogOfWar.shown fog playerFaction u.row u.col
    return if vis ≠ .visible then [] else [⟨u.row, u.col, factions.findFaction u.factionId⟩]

/-- The units. -/
def drawUnits (s : GameState) (fog : Option FogOfWar) (playerFaction : FactionId) :
    Except Fault (List Mark) :=
  collect (drawUnit s.factionRegistry fog playerFaction) (s.units.list.map (·.unit))

end Minimap

/-! ### What is said of a tile -/

/-- The name of a terrain. -/
def terrainName : TerrainType → String
  | .plains => "Plains"
  | .hills => "Hills"
  | .forest => "Forest"
  | .water => "Water"
  | .mountain => "Mountain"
  | .desert => "Desert"
  | .swamp => "Swamp"

namespace Tooltip

/-- What is said of the terrain. -/
def terrainLines (row col : ℤ) (terrain : TerrainType) : List String :=
  let props := getTerrainProperties terrain
  ["Tile (" ++ toString row ++ ", " ++ toString col ++ ")", "Terrain: " ++ terrainName terrain,
    if 0 < props.movementCost then "Move cost: " ++ toString props.movementCost
    else "Impassable"] ++
  if 0 < props.defenseModifier then ["Defense: +" ++ toString props.defenseModifier]
  else if props.defenseModifier < 0 then ["Defense: " ++ toString props.defenseModifier]
  else []

/-- What is said of a unit. -/
def unitLines (factions : FactionRegistry) (u : Unit) : List String :=
  ["---", u.template.name,
    "HP: " ++ toString u.health ++ "/" ++ toString u.template.maxHealth,
    "ATK: " ++ toString u.attack ++ "  DEF: " ++ toString u.defense,
    "Moves: " ++ toString u.movementRemaining ++ "/" ++ toString u.template.movementRange] ++
  (if 1 < u.attackRange then ["Range: " ++ toString u.attackRange] else []) ++
  match factions.findFaction u.factionId with
  | some faction => ["Faction: " ++ faction.name]
  | none => []

/-- What is said of a city. -/
def cityLines (city : City) : List String :=
  ["---", "City: " ++ city.name, "Pop: " ++ toString city.population]

/-- A living unit stands on a tile. -/
def standsOn (row col : ℤ) (u : Unit) : Bool :=
  u.isAlive && decide (u.row = row) && decide (u.col = col)

/-- **What is said of a tile**: nothing of one that is not explored; of the first living unit and
the first city on it when it is visible. -/
def buildLines (s : GameState) (playerFaction : FactionId) (row col : ℤ) :
    Except Fault (List String) := do
  let vis ← s.fog.getVisibility playerFaction row col
  if vis = .unexplored then return ["Unexplored"]
  else
    let tile ← s.map.tile row col
    let terrain := terrainLines row col tile.terrain
    if vis = .visible then
      let unit := (s.units.list.map (·.unit)).find? (standsOn row col)
      let city := s.cities.find? (·.containsTile row col)
      return terrain ++ unit.elim [] (unitLines s.factionRegistry) ++ city.elim [] cityLines
    else return terrain

/-- The tooltip, over the tile on which the mouse rests. -/
def draw (s : GameState) (playerFaction : FactionId) (hovered : Option TileCoord) :
    Except Fault (List String) :=
  match hovered with
  | none => .ok []
  | some tile => buildLines s playerFaction tile.row tile.col

end Tooltip

/-! ### The picture -/

namespace AppState

variable {F : Type}

/-- The picture of a frame: what is drawn by the view of the player. -/
structure Picture (F : Type) where
  units : List (Rendering.DrawnUnit F)
  cities : List Rendering.DrawnCity
  buildings : List Rendering.DrawnBuilding
  minimapTerrain : List Minimap.Cell
  minimapCities : List Minimap.Mark
  minimapUnits : List Minimap.Mark
  tooltip : List String

/-- The fog that the frame goes by. -/
def shownFog (app : AppState) : Option FogOfWar :=
  if app.debugNoFog then none else some app.state.fog

/-- **What a frame draws by the view of the player**, with the tile of which something is said. -/
def drawPicture (animator : Rendering.UnitAnimator F) (app : AppState)
    (hovered : Option TileCoord) : Except Fault (Picture F) := do
  let fog := app.shownFog
  let units ← Rendering.drawUnits app.state app.selectedUnit playerFactionId fog animator
  let cities ← Rendering.drawCities app.state app.selectedCity playerFactionId fog
  let buildings ← Rendering.drawBuildings app.state playerFactionId fog
  let minimapTerrain ← Minimap.drawTerrain app.state.map fog playerFactionId
  let minimapCities ← Minimap.drawCities app.state fog playerFactionId
  let minimapUnits ← Minimap.drawUnits app.state fog playerFactionId
  let tooltip ← Tooltip.draw app.state playerFactionId hovered
  return { units, cities, buildings, minimapTerrain, minimapCities, minimapUnits, tooltip }

/-! ### What the player knows -/

/-- The first element with a property is found among those that it can be among. -/
theorem find?_filter_of_imp {α : Type} {p q : α → Bool} {l : List α}
    (h : ∀ a ∈ l, p a = true → q a = true) : (l.filter q).find? p = l.find? p := by
  induction l with
  | nil => rfl
  | cons a l ih =>
      have hl := ih fun b hb => h b (List.mem_cons_of_mem a hb)
      cases hp : p a with
      | true =>
          rw [List.filter_cons_of_pos (h a List.mem_cons_self hp), List.find?_cons_of_pos hp,
            List.find?_cons_of_pos hp]
      | false =>
          rw [List.find?_cons_of_neg (by simp [hp]), ← hl, List.filter_cons]
          split
          · exact List.find?_cons_of_neg (by simp [hp])
          · rfl

/-- A tile is on the map and out of sight. -/
def hiddenAt (fog : FogOfWar) (row col : ℤ) : Bool :=
  match fog.getVisibility playerFactionId row col with
  | .ok .visible => false
  | .ok _ => true
  | .error _ => false

/-- A tile is on the map and not explored. -/
def unexploredAt (fog : FogOfWar) (row col : ℤ) : Bool :=
  match fog.getVisibility playerFactionId row col with
  | .ok .unexplored => true
  | _ => false

/-- The player knows of a unit that is his or in sight. -/
def knowsUnit (fog : FogOfWar) (u : Unit) : Bool :=
  decide (u.factionId = playerFactionId) || !hiddenAt fog u.row u.col

/-- The player knows of a city that is his, whose centre he has explored, or that has a tile in
sight. -/
def knowsCity (fog : FogOfWar) (city : City) : Bool :=
  decide (city.owner = playerFactionId) || !unexploredAt fog city.centerRow city.centerCol ||
    city.tiles.toList.any fun t => !hiddenAt fog t.row t.col

/-- The player knows of a building with a tile that he has explored. -/
def knowsBuilding (fog : FogOfWar) (building : Building) : Bool :=
  building.occupiedTiles.toList.any fun t => !unexploredAt fog t.row t.col

/-- The units that the player knows of, with what is known of their indices. -/
def knownUnits (animator : Rendering.UnitAnimator F) (app : AppState) :
    List (Rendering.MarkedUnit F) :=
  (Rendering.marked animator app.state.units app.selectedUnit).filter
    fun m => knowsUnit app.state.fog m.unit

/-- **Two games agree on what the player knows**, and their animators on what they show of the units
that he knows of. -/
structure LooksAlike (animator animator' : Rendering.UnitAnimator F) (a b : AppState) : Prop where
  foggy : a.debugNoFog = false
  foggy' : b.debugNoFog = false
  map : b.state.map = a.state.map
  view : ∀ row col, b.state.fog.getVisibility playerFactionId row col =
    a.state.fog.getVisibility playerFactionId row col
  factions : b.state.factionRegistry = a.state.factionRegistry
  diplomacy : b.state.diplomacy = a.state.diplomacy
  selectedCity : b.selectedCity = a.selectedCity
  units : knownUnits animator' b = knownUnits animator a
  cities : b.state.cities.filter (knowsCity b.state.fog) =
    a.state.cities.filter (knowsCity a.state.fog)
  buildings : b.state.buildings.filter (knowsBuilding b.state.fog) =
    a.state.buildings.filter (knowsBuilding a.state.fog)

theorem getVisibility_of_hidden {fog : FogOfWar} {row col : ℤ} (h : hiddenAt fog row col = true) :
    ∃ seen, fog.getVisibility playerFactionId row col = .ok seen ∧ seen ≠ .visible := by
  rw [hiddenAt] at h
  split at h
  · cases h
  · next seen hne hseen =>
      exact ⟨seen, hseen, fun hvisible => hne (hvisible ▸ rfl)⟩
  · cases h

theorem getVisibility_of_unexplored {fog : FogOfWar} {row col : ℤ}
    (h : unexploredAt fog row col = true) :
    fog.getVisibility playerFactionId row col = .ok .unexplored := by
  rw [unexploredAt] at h
  split at h
  · assumption
  · cases h

/-- A tile that is visible is not hidden. -/
theorem hiddenAt_of_visible {fog : FogOfWar} {row col : ℤ}
    (h : fog.getVisibility playerFactionId row col = .ok .visible) :
    hiddenAt fog row col = false := by
  rw [hiddenAt, h]

/-! ### What the player does not know is not drawn -/

variable {map : Map} {fog : FogOfWar} {factions : FactionRegistry} {diplomacy : DiplomacyManager}

/-- What is foreign and not visible is hidden. -/
theorem hides_of_seen {owner : FactionId} {row col : ℤ} {seen : VisibilityState}
    (hforeign : owner ≠ playerFactionId)
    (hseen : fog.getVisibility playerFactionId row col = .ok seen) (hne : seen ≠ .visible) :
    Rendering.hides (some fog) playerFactionId owner row col = .ok true := by
  rw [Rendering.hides, if_pos hforeign, FogOfWar.shown, hseen, Except.ok_bind]
  exact congrArg Except.ok (decide_eq_true hne)

theorem drawUnit_unknown {m : Rendering.MarkedUnit F} (h : knowsUnit fog m.unit = false) :
    Rendering.drawUnit map factions diplomacy playerFactionId (some fog) m = .ok [] := by
  simp only [knowsUnit, Bool.or_eq_false_iff, decide_eq_false_iff_not, Bool.not_eq_false'] at h
  obtain ⟨seen, hseen, hne⟩ := getVisibility_of_hidden h.2
  rw [Rendering.drawUnit]
  split
  · rfl
  · rw [hides_of_seen h.1 hseen hne]
    rfl

theorem minimap_drawUnit_hidden {u : Unit} (h : hiddenAt fog u.row u.col = true) :
    Minimap.drawUnit factions (some fog) playerFactionId u = .ok [] := by
  obtain ⟨seen, hseen, hne⟩ := getVisibility_of_hidden h
  rw [Minimap.drawUnit]
  split
  · rfl
  · rw [FogOfWar.shown, hseen, Except.ok_bind, if_pos hne]
    rfl

theorem drawCity_unknown {selectedCityId : Option CityId} {city : City}
    (h : knowsCity fog city = false) :
    Rendering.drawCity map factions diplomacy selectedCityId playerFactionId (some fog) city =
      .ok [] := by
  simp only [knowsCity, Bool.or_eq_false_iff, decide_eq_false_iff_not, Bool.not_eq_false'] at h
  rw [Rendering.drawCity, hides_of_seen h.1.1 (getVisibility_of_unexplored h.1.2) (by decide)]
  rfl

theorem minimap_drawCity_unknown {city : City} (h : knowsCity fog city = false) :
    Minimap.drawCity factions (some fog) playerFactionId city = .ok [] := by
  simp only [knowsCity, Bool.or_eq_false_iff, decide_eq_false_iff_not, Bool.not_eq_false'] at h
  rw [Minimap.drawCity, FogOfWar.shown, getVisibility_of_unexplored h.1.2, Except.ok_bind,
    if_pos rfl]
  rfl

/-- Nothing is drawn of tiles that are not explored. -/
theorem drawTiles_unexplored {building : Building} (dimmed : ℕ) {tiles : List TileCoord}
    (h : ∀ t ∈ tiles, unexploredAt fog t.row t.col = true) :
    Rendering.drawTiles map factions playerFactionId (some fog) building dimmed tiles = .ok [] := by
  induction tiles with
  | nil => rfl
  | cons t tiles ih =>
      rw [Rendering.drawTiles, FogOfWar.shown, getVisibility_of_unexplored (h t List.mem_cons_self),
        Except.ok_bind, if_pos rfl]
      exact ih fun t' ht' => h t' (List.mem_cons_of_mem t ht')

theorem drawTiles_unknown {building : Building} (h : knowsBuilding fog building = false) :
    Rendering.drawTiles map factions playerFactionId (some fog) building 0
      building.occupiedTiles.toList = .ok [] := by
  refine drawTiles_unexplored 0 fun t ht => ?_
  rw [knowsBuilding, List.any_eq_false] at h
  simpa using h t ht

/-! ### Layer by layer -/

section Layers

variable {animator animator' : Rendering.UnitAnimator F} {a b : AppState}
  (h : LooksAlike animator animator' a b)

include h

theorem LooksAlike.shown : FogOfWar.shown (some b.state.fog) playerFactionId =
    FogOfWar.shown (some a.state.fog) playerFactionId := by
  funext row col
  exact h.view row col

theorem LooksAlike.hides (owner : FactionId) (row col : ℤ) :
    Rendering.hides (some b.state.fog) playerFactionId owner row col =
      Rendering.hides (some a.state.fog) playerFactionId owner row col := by
  rw [Rendering.hides, Rendering.hides, h.shown]

theorem LooksAlike.drawUnits :
    Rendering.drawUnits b.state b.selectedUnit playerFactionId (some b.state.fog) animator' =
      Rendering.drawUnits a.state a.selectedUnit playerFactionId (some a.state.fog) animator := by
  refine collect_eq_of_filter h.units (fun _ _ hp => drawUnit_unknown hp)
    (fun _ _ hp => drawUnit_unknown hp) fun p _ => ?_
  rw [Rendering.drawUnit, Rendering.drawUnit, h.map, h.factions, h.diplomacy, h.hides]

theorem LooksAlike.drawCities :
    Rendering.drawCities b.state b.selectedCity playerFactionId (some b.state.fog) =
      Rendering.drawCities a.state a.selectedCity playerFactionId (some a.state.fog) := by
  refine collect_eq_of_filter h.cities (fun _ _ hcity => drawCity_unknown hcity)
    (fun _ _ hcity => drawCity_unknown hcity) fun city _ => ?_
  rw [Rendering.drawCity, Rendering.drawCity, h.map, h.factions, h.diplomacy, h.selectedCity,
    h.hides]

theorem LooksAlike.drawTiles (building : Building) (tiles : List TileCoord) : ∀ dimmed,
    Rendering.drawTiles b.state.map b.state.factionRegistry playerFactionId (some b.state.fog)
      building dimmed tiles =
    Rendering.drawTiles a.state.map a.state.factionRegistry playerFactionId (some a.state.fog)
      building dimmed tiles := by
  induction tiles with
  | nil => exact fun _ => rfl
  | cons t tiles ih =>
      intro dimmed
      rw [h.map, h.factions] at ih ⊢
      simp only [Rendering.drawTiles, h.shown, ih]

theorem LooksAlike.drawBuildings :
    Rendering.drawBuildings b.state playerFactionId (some b.state.fog) =
      Rendering.drawBuildings a.state playerFactionId (some a.state.fog) :=
  collect_eq_of_filter h.buildings (fun _ _ hb => drawTiles_unknown hb)
    (fun _ _ hb => drawTiles_unknown hb) fun building _ =>
      h.drawTiles building building.occupiedTiles.toList 0

theorem LooksAlike.minimapTerrain :
    Minimap.drawTerrain b.state.map (some b.state.fog) playerFactionId =
      Minimap.drawTerrain a.state.map (some a.state.fog) playerFactionId := by
  rw [Minimap.drawTerrain, Minimap.drawTerrain, h.map]
  refine collect_congr fun place _ => ?_
  rw [Minimap.drawTile, Minimap.drawTile, h.shown]

theorem LooksAlike.minimapCities :
    Minimap.drawCities b.state (some b.state.fog) playerFactionId =
      Minimap.drawCities a.state (some a.state.fog) playerFactionId := by
  refine collect_eq_of_filter h.cities (fun _ _ hcity => minimap_drawCity_unknown hcity)
    (fun _ _ hcity => minimap_drawCity_unknown hcity) fun city _ => ?_
  rw [Minimap.drawCity, Minimap.drawCity, h.factions, h.shown]

/-- The units that the player knows of, without their indices. -/
theorem LooksAlike.unmarked :
    (b.state.units.list.map (·.unit)).filter (knowsUnit b.state.fog) =
      (a.state.units.list.map (·.unit)).filter (knowsUnit a.state.fog) := by
  have hunmark : ∀ (shows : Rendering.UnitAnimator F) (x : AppState),
      (x.state.units.list.map (·.unit)).filter (knowsUnit x.state.fog) =
        (knownUnits shows x).map (·.unit) := by
    intro shows x
    have hall : (Rendering.marked shows x.state.units x.selectedUnit).map (·.unit) =
        x.state.units.list.map (·.unit) := by
      rw [Rendering.marked, List.map_map]
      change x.state.units.list.zipIdx.map ((fun p : OwnedUnit => p.unit) ∘ Prod.fst) = _
      rw [← List.map_map, List.zipIdx_map_fst]
    rw [← hall, List.filter_map]
    rfl
  rw [hunmark animator', hunmark animator, h.units]

theorem LooksAlike.minimapUnits :
    Minimap.drawUnits b.state (some b.state.fog) playerFactionId =
      Minimap.drawUnits a.state (some a.state.fog) playerFactionId := by
  have hunknown : ∀ (fog : FogOfWar) (factions : FactionRegistry) (u : Unit),
      knowsUnit fog u = false →
      Minimap.drawUnit factions (some fog) playerFactionId u = .ok [] := by
    intro fog factions u hu
    simp only [knowsUnit, Bool.or_eq_false_iff, Bool.not_eq_false'] at hu
    exact minimap_drawUnit_hidden hu.2
  refine collect_eq_of_filter h.unmarked (fun u _ hu => hunknown _ _ u hu)
    (fun u _ hu => hunknown _ _ u hu) fun u _ => ?_
  rw [Minimap.drawUnit, Minimap.drawUnit, h.factions, h.shown]

/-- What is said of a tile depends on what the player knows. -/
theorem LooksAlike.buildLines (row col : ℤ) :
    Tooltip.buildLines b.state playerFactionId row col =
      Tooltip.buildLines a.state playerFactionId row col := by
  rw [Tooltip.buildLines, Tooltip.buildLines, h.view, h.map, h.factions]
  cases hseen : a.state.fog.getVisibility playerFactionId row col with
  | error e => rfl
  | ok seen =>
      rw [Except.ok_bind, Except.ok_bind]
      by_cases hvisible : seen = .visible
      · obtain rfl := hvisible
        -- whoever is on a visible tile is known
        have hunit : ∀ x : AppState,
            x.state.fog.getVisibility playerFactionId row col = .ok .visible →
            ((x.state.units.list.map (·.unit)).filter (knowsUnit x.state.fog)).find?
              (Tooltip.standsOn row col) =
            (x.state.units.list.map (·.unit)).find? (Tooltip.standsOn row col) := by
          intro x hx
          refine find?_filter_of_imp fun u _ hu => ?_
          simp only [Tooltip.standsOn, Bool.and_eq_true, decide_eq_true_eq] at hu
          rw [knowsUnit, hu.1.2, hu.2, hiddenAt_of_visible hx]
          exact Bool.or_true _
        have hcity : ∀ x : AppState,
            x.state.fog.getVisibility playerFactionId row col = .ok .visible →
            (x.state.cities.filter (knowsCity x.state.fog)).find? (·.containsTile row col) =
            x.state.cities.find? (·.containsTile row col) := by
          intro x hx
          refine find?_filter_of_imp fun city _ hcity => ?_
          have htile : (⟨row, col⟩ : TileCoord) ∈ city.tiles.toList := of_decide_eq_true hcity
          rw [knowsCity, Bool.or_eq_true]
          refine Or.inr (List.any_eq_true.2 ⟨_, htile, ?_⟩)
          rw [hiddenAt_of_visible hx]
          rfl
        rw [← hunit b ((h.view row col).trans hseen), ← hunit a hseen, h.unmarked,
          ← hcity b ((h.view row col).trans hseen), ← hcity a hseen, h.cities]
      · simp only [if_neg hvisible]

theorem LooksAlike.tooltip (hovered : Option TileCoord) :
    Tooltip.draw b.state playerFactionId hovered =
      Tooltip.draw a.state playerFactionId hovered := by
  cases hovered with
  | none => rfl
  | some tile => exact h.buildLines tile.row tile.col

/-- **Games that agree on what the player knows give the same picture**, under animators that agree
on what they show of the units he knows of. -/
theorem looksAlike_picture (hovered : Option TileCoord) :
    drawPicture animator' b hovered = drawPicture animator a hovered := by
  have hfog : ∀ x : AppState, x.debugNoFog = false → x.shownFog = some x.state.fog :=
    fun x hx => if_neg (by simp [hx])
  rw [drawPicture, drawPicture, hfog a h.foggy, hfog b h.foggy', h.drawUnits, h.drawCities,
    h.drawBuildings, h.minimapTerrain, h.minimapCities, h.minimapUnits, h.tooltip]

end Layers

/-- The units of a field: an enemy that the player does not see, and an archer of his. -/
def ambushed : AppState :=
  { state := ((plainField.addUnit (Unit.create 1 1 warriorTemplate 2)).1.addUnit
      (Unit.create 0 0 archerTemplate playerFactionId)).1 }

/-- The same field without the enemy: the archer comes first. -/
def unwatched : AppState :=
  { state := (plainField.addUnit (Unit.create 0 0 archerTemplate playerFactionId)).1 }

/-- An animator that shows the unit at one index. -/
def showsOne (index : UInt32) : Rendering.UnitAnimator ℚ :=
  fun id => if id = index then some ⟨(1 / 2, 0, 1 / 3), 1⟩ else none

/-- The enemy in ambush cannot be told from nobody, while the archer of the player is shown between
two tiles. -/
theorem ambush_picture : drawPicture (showsOne 1) ambushed (some ⟨1, 1⟩) =
    drawPicture (showsOne 0) unwatched (some ⟨1, 1⟩) :=
  looksAlike_picture ⟨rfl, rfl, rfl, fun _ _ => rfl, rfl, rfl, rfl, rfl, rfl, rfl⟩ (some ⟨1, 1⟩)

end AppState

end My4X
