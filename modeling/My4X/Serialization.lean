/-
**Saving and loading a game state.**

A game state is saved as a protobuf message.  The message keeps enumerations as integers and sets
of tiles as two parallel arrays; loading a message builds a new state on a freshly drawn map and
restores the components one by one.  The translation between messages and bytes is generated code
and a parameter here.

Main definitions:

* `My4X.Proto` — the messages;
* `My4X.Codec` — the translation between messages and bytes;
* `My4X.toMessage`, `My4X.serializeGameState` — saving;
* `My4X.ofMessage`, `My4X.deserializeGameState` — loading.

Main results:

* `My4X.fromProtoTerrain_toProtoTerrain`, `My4X.buildingFactoryByName_name` — the tables for
  terrains and building names read back what they wrote.
-/

import My4X.GameState

set_option relaxedAutoImplicit false
set_option autoImplicit false

namespace My4X

/-! ### Messages -/

namespace Proto

structure Resource where
  gold : ℤ := 0
  production : ℤ := 0
  food : ℤ := 0
  deriving DecidableEq, Repr

structure Tile where
  row : ℤ := 0
  col : ℤ := 0
  terrain : ℤ := 0
  deriving DecidableEq, Repr

structure Map where
  width : ℤ := 0
  height : ℤ := 0
  tiles : List Tile := []
  deriving DecidableEq, Repr

structure BuildQueueItem where
  name : String := ""
  productionCost : ℤ := 0
  targetRow : ℤ := 0
  targetCol : ℤ := 0
  orderType : ℤ := 0
  templateKey : String := ""
  deriving DecidableEq, Repr

structure City where
  id : UInt32 := 0
  name : String := ""
  centerRow : ℤ := 0
  centerCol : ℤ := 0
  factionId : Int32 := 0
  population : ℤ := 0
  tileRows : List ℤ := []
  tileCols : List ℤ := []
  buildQueueItems : List BuildQueueItem := []
  accumulatedProduction : ℤ := 0
  foodSurplus : ℤ := 0
  deriving DecidableEq

structure Building where
  id : UInt32 := 0
  name : String := ""
  tileRows : List ℤ := []
  tileCols : List ℤ := []
  yieldPerTurn : Resource := {}
  constructionCost : Resource := {}
  allowedTerrains : List ℤ := []
  modelKey : String := ""
  factionId : UInt32 := 0
  underConstruction : Bool := false
  deriving DecidableEq

structure Unit where
  type : ℤ := 0
  row : ℤ := 0
  col : ℤ := 0
  health : ℤ := 0
  movementRemaining : ℤ := 0
  factionId : Int32 := 0
  experience : ℤ := 0
  deriving DecidableEq

structure GameState where
  turn : ℤ := 0
  map : Map := {}
  cities : List City := []
  buildings : List Building := []
  units : List Unit := []
  factionResources : Resource := {}
  schemaVersion : UInt32 := 0
  nextCityId : UInt32 := 0
  nextBuildingId : UInt32 := 0
  deriving DecidableEq

end Proto

/-- The generated translation between messages and bytes.  The empty string is the message whose
fields all have their defaults. -/
structure Codec where
  serialize : Proto.GameState → Option (List UInt8)
  parse : List UInt8 → Option Proto.GameState
  parse_nil : parse [] = some {}

/-- The codec does not lose the message: it can be written, and is read back from what was
written. -/
def Codec.Lossless (codec : Codec) (message : Proto.GameState) : Prop :=
  ∃ data, codec.serialize message = some data ∧ codec.parse data = some message

/-! ### Tables -/

def toProtoResource (r : Resource) : Proto.Resource :=
  { gold := r.gold, production := r.production, food := r.food }

def fromProtoResource (proto : Proto.Resource) : Resource :=
  { gold := proto.gold, production := proto.production, food := proto.food }

/-- The number of a terrain in the message. -/
def toProtoTerrain : TerrainType → ℤ
  | .plains => 0
  | .hills => 1
  | .forest => 2
  | .water => 3
  | .mountain => 4
  | .desert => 5
  | .swamp => 6

/-- The terrain of a number. -/
def fromProtoTerrain (t : ℤ) : Except Fault TerrainType :=
  if t = 0 then .ok .plains
  else if t = 1 then .ok .hills
  else if t = 2 then .ok .forest
  else if t = 3 then .ok .water
  else if t = 4 then .ok .mountain
  else if t = 5 then .ok .desert
  else if t = 6 then .ok .swamp
  else .error (.invalidArgument ("Unknown proto TerrainType: " ++ toString t))

/-- The number of a unit type, found by the name of the template. -/
def toProtoUnitType (unit : Unit) : Except Fault ℤ :=
  if unit.template.name = "Warrior" then .ok 1
  else if unit.template.name = "Archer" then .ok 2
  else if unit.template.name = "Settler" then .ok 3
  else .error (.invalidArgument ("Unknown unit type: " ++ unit.template.name))

/-- The key of the template of a number. -/
def templateKeyFromProtoType (type : ℤ) : Except Fault String :=
  if type = 1 then .ok "Warrior"
  else if type = 2 then .ok "Archer"
  else if type = 3 then .ok "Settler"
  else if type = 0 then .error (.invalidArgument "Cannot deserialize UNIT_TYPE_UNSPECIFIED")
  else .error (.invalidArgument ("Unknown proto UnitType: " ++ toString type))

/-- The factory of a building, found by its name. -/
def buildingFactoryByName (name : String) : Except Fault BuildingFactory :=
  if name = "City Center" then .ok makeCityCenter
  else if name = "Farm" then .ok makeFarm
  else if name = "Mine" then .ok makeMine
  else if name = "Lumber Mill" then .ok makeLumberMill
  else if name = "Barracks" then .ok makeBarracks
  else if name = "Market" then .ok makeMarket
  else .error (.invalidArgument ("Unknown building type for build queue: " ++ name))

/-- The built-in building factories. -/
def builtinFactories : List BuildingFactory :=
  [makeCityCenter, makeFarm, makeMine, makeLumberMill, makeBarracks, makeMarket]

/-- The number of a production order for a unit. -/
def buildOrderUnit : ℤ := 1

/-- The number of a production order for a building. -/
def buildOrderBuilding : ℤ := 0

def schemaVersion : UInt32 := 1

/-- The table of terrains reads back what it wrote. -/
theorem fromProtoTerrain_toProtoTerrain (t : TerrainType) :
    fromProtoTerrain (toProtoTerrain t) = .ok t := by
  cases t <;> rfl

/-- The table of buildings finds a built-in factory by the name it gives its buildings. -/
theorem buildingFactoryByName_name {f : BuildingFactory} (h : f ∈ builtinFactories) (row col : ℤ) :
    buildingFactoryByName (f row col).name = .ok f := by
  simp only [builtinFactories, List.mem_cons, List.not_mem_nil, or_false] at h
  rcases h with rfl | rfl | rfl | rfl | rfl | rfl <;> rfl

/-! ### Saving -/

/-- The places of a map, row by row. -/
def Map.places (m : Map) : List (ℤ × ℤ) :=
  (List.range m.height.toNat).flatMap fun row : ℕ =>
    (List.range m.width.toNat).map fun col : ℕ => ((row : ℤ), (col : ℤ))

def tileToProto (m : Map) (place : ℤ × ℤ) : Except Fault Proto.Tile := do
  let t ← m.tile place.1 place.2
  return { row := t.row, col := t.col, terrain := toProtoTerrain t.terrain }

/-- The tiles of the map, row by row. -/
def tilesToProto (m : Map) : Except Fault (List Proto.Tile) := m.places.mapM (tileToProto m)

def queueItemToProto (item : BuildQueueItem) : Proto.BuildQueueItem :=
  let protoItem : Proto.BuildQueueItem :=
    { name := item.name, productionCost := item.productionCost
      targetRow := item.targetRow, targetCol := item.targetCol }
  match item.orderType with
  | .unit => { protoItem with orderType := buildOrderUnit, templateKey := item.templateKey }
  | .building => { protoItem with orderType := buildOrderBuilding }

def cityToProto (city : City) : Proto.City where
  id := city.id
  name := city.name
  centerRow := city.centerRow
  centerCol := city.centerCol
  factionId := city.factionId
  population := city.population
  tileRows := city.tiles.toList.map (·.row)
  tileCols := city.tiles.toList.map (·.col)
  foodSurplus := city.foodSurplus
  accumulatedProduction := city.buildQueue.accumulated
  buildQueueItems := city.buildQueue.queue.map queueItemToProto

def buildingToProto (building : Building) : Proto.Building where
  id := building.id
  name := building.name
  tileRows := building.occupiedTiles.toList.map (·.row)
  tileCols := building.occupiedTiles.toList.map (·.col)
  yieldPerTurn := toProtoResource building.yieldPerTurn
  constructionCost := toProtoResource building.constructionCost
  allowedTerrains := building.allowedTerrains.toList.map toProtoTerrain
  modelKey := building.modelKey
  factionId := building.factionId
  underConstruction := building.underConstruction

/-- A unit; its type has to be one of the built-in ones. -/
def unitToProto (unit : Unit) : Except Fault Proto.Unit := do
  let type ← toProtoUnitType unit
  return { type
           row := unit.row
           col := unit.col
           health := unit.health
           movementRemaining := unit.movementRemaining
           factionId := unit.factionId.toInt32
           experience := unit.experience }

/-- The message of a state. -/
def toMessage (state : GameState) : Except Fault Proto.GameState := do
  let tiles ← tilesToProto state.map
  let units ← state.units.list.mapM fun p => unitToProto p.unit
  return { schemaVersion := schemaVersion
           turn := state.turn
           nextCityId := state.nextCityId
           nextBuildingId := state.nextBuildingId
           map := { width := state.map.width, height := state.map.height, tiles }
           cities := state.cities.map cityToProto
           buildings := state.buildings.map buildingToProto
           units
           factionResources := toProtoResource state.factionResources }

/-- **Saving a state.** -/
def serializeGameState (codec : Codec) (state : GameState) : Except Fault (List UInt8) := do
  let proto ← toMessage state
  match codec.serialize proto with
  | none => .error (.runtimeError "Failed to serialize GameState")
  | some data => return data

/-! ### Loading -/

/-- Gives a tile of the map its terrain; the tile is looked up before the terrain. -/
def restoreTile (map : Map) (protoTile : Proto.Tile) : Except Fault Map := do
  let _ ← map.tile protoTile.row protoTile.col
  let terrain ← fromProtoTerrain protoTile.terrain
  map.setTerrain protoTile.row protoTile.col terrain

/-- The tiles of two parallel arrays; the second one is read at the indices of the first. -/
def parallelTiles : List ℤ → List ℤ → Except Fault (List TileCoord)
  | [], _ => .ok []
  | _ :: _, [] => .error .assertion
  | row :: rows, col :: cols => do
      let tiles ← parallelTiles rows cols
      return ⟨row, col⟩ :: tiles

/-- A production order; the factory of a building is looked up by its name. -/
def queueItemFromProto (protoItem : Proto.BuildQueueItem) : Except Fault BuildQueueItem :=
  if protoItem.orderType = buildOrderUnit then
    .ok { name := protoItem.name
          productionCost := protoItem.productionCost
          targetRow := protoItem.targetRow
          targetCol := protoItem.targetCol
          orderType := .unit
          factory := none
          templateKey := protoItem.templateKey }
  else do
    let factory ← buildingFactoryByName protoItem.name
    return { name := protoItem.name
             productionCost := protoItem.productionCost
             targetRow := protoItem.targetRow
             targetCol := protoItem.targetCol
             orderType := .building
             factory := some factory
             templateKey := "" }

/-- A city: one of population one at the centre, which then grows, and is given its tiles and its
queue. -/
def cityFromProto (protoCity : Proto.City) : Except Fault City := do
  let city := City.create protoCity.name protoCity.centerRow protoCity.centerCol protoCity.factionId
  let city ← (city.setId protoCity.id).growPopulation (protoCity.population - 1)
  let tiles ← parallelTiles protoCity.tileRows protoCity.tileCols
  let city := tiles.foldl (fun city t => city.addTile t.row t.col) city
  let items ← protoCity.buildQueueItems.mapM queueItemFromProto
  let queue := items.foldl BuildQueue.restoreItem city.buildQueue
  let city := city.setBuildQueue (queue.setAccumulatedProduction protoCity.accumulatedProduction)
  return city.setFoodSurplus protoCity.foodSurplus

def buildingFromProto (protoBuilding : Proto.Building) : Except Fault Building := do
  let tiles ← parallelTiles protoBuilding.tileRows protoBuilding.tileCols
  let allowedTerrains ← protoBuilding.allowedTerrains.mapM fromProtoTerrain
  return { id := protoBuilding.id
           name := protoBuilding.name
           yieldPerTurn := fromProtoResource protoBuilding.yieldPerTurn
           constructionCost := fromProtoResource protoBuilding.constructionCost
           occupiedTiles := SortedSet.empty.insertAll tiles
           allowedTerrains := SortedSet.empty.insertAll allowedTerrains
           modelKey := protoBuilding.modelKey
           factionId := protoBuilding.factionId
           underConstruction := protoBuilding.underConstruction }

/-- A unit: a new one of its type, which is then given its health, movement and experience. -/
def unitFromProto (unitRegistry : UnitTypeRegistry) (protoUnit : Proto.Unit) :
    Except Fault Unit := do
  let key ← templateKeyFromProtoType protoUnit.type
  let tmpl ← unitRegistry.getTemplate key
  let unit := Unit.create protoUnit.row protoUnit.col tmpl protoUnit.factionId.toUInt32
  return ((unit.setHealth protoUnit.health).setMovementRemaining
    protoUnit.movementRemaining).setExperience protoUnit.experience

def restoreCities (state : GameState) (cities : List Proto.City) : Except Fault GameState :=
  cities.foldlM (fun state protoCity => do return state.restoreCity (← cityFromProto protoCity))
    state

def restoreBuildings (state : GameState) (buildings : List Proto.Building) :
    Except Fault GameState :=
  buildings.foldlM
    (fun state protoBuilding => do return state.restoreBuilding (← buildingFromProto protoBuilding))
    state

def restoreUnits (unitRegistry : UnitTypeRegistry) (state : GameState) (units : List Proto.Unit) :
    Except Fault GameState :=
  units.foldlM
    (fun state protoUnit => do return (state.addUnit (← unitFromProto unitRegistry protoUnit)).1)
    state

/-- Restores a message on a freshly drawn map. -/
def restoreMessage (draws : ℕ → TerrainType) (proto : Proto.GameState) :
    Except Fault GameState := do
  let state ← GameState.create proto.map.height proto.map.width draws
  let unitRegistry ← UnitTypeRegistry.empty.registerDefaults
  let map ← proto.map.tiles.foldlM restoreTile state.map
  let state ← restoreCities { (state.setTurn proto.turn) with map } proto.cities
  let state ← restoreBuildings { state with nextCityId := proto.nextCityId } proto.buildings
  let state ← restoreUnits unitRegistry { state with nextBuildingId := proto.nextBuildingId }
    proto.units
  return { state with factionResources := fromProtoResource proto.factionResources }

/-- The state of a message. -/
def ofMessage (draws : ℕ → TerrainType) (proto : Proto.GameState) : Except Fault GameState :=
  if proto.map.height ≤ 0 ∨ proto.map.width ≤ 0 then
    .error (.runtimeError "Invalid map dimensions in serialized data")
  else restoreMessage draws proto

/-- **Loading a state**; `draws` are the terrains that the new map draws before they are
replaced. -/
def deserializeGameState (codec : Codec) (draws : ℕ → TerrainType) (data : List UInt8) :
    Except Fault GameState :=
  if data = [] then .error (.runtimeError "Cannot deserialize empty data")
  else
    match codec.parse data with
    | none => .error (.runtimeError "Failed to deserialize GameState")
    | some proto => ofMessage draws proto

end My4X
