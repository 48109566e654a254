/-
**Buildings, build queues and cities.**

Buildings are data: a building type is a factory that makes a building for a tile.  A city owns a
set of tiles, its centre among them, and a queue of production orders that the production of its
turns is spent on.

Main definitions:

* `My4X.Building`, `My4X.makeFarm`, … — buildings and the built-in factories;
* `My4X.BuildQueueItem`, `My4X.BuildQueue`, `My4X.BuildQueue.applyProduction` — production orders
  and the queue;
* `My4X.City` — a city, which contains its centre.
-/

import My4X.Unit
import My4X.Lib.SortedSet

set_option relaxedAutoImplicit false
set_option autoImplicit false

namespace My4X

/-- The identifier of a city, `std::uint32_t`. -/
abbrev CityId := UInt32

/-- The identifier of a building, `std::uint32_t`. -/
abbrev BuildingId := UInt32

/-! ### Buildings -/

/-- A building on one or more tiles. -/
structure Building where
  id : BuildingId := 0
  name : String
  yieldPerTurn : Resource
  constructionCost : Resource
  occupiedTiles : SortedSet TileCoord
  allowedTerrains : SortedSet TerrainType := SortedSet.empty
  modelKey : String := ""
  factionId : FactionId := 0
  underConstruction : Bool := false
  deriving DecidableEq

/-- Whether the building can stand on a terrain. -/
def Building.canBuildOn (b : Building) (terrain : TerrainType) : Bool :=
  if b.allowedTerrains.toList.isEmpty then true else terrain ∈ b.allowedTerrains

/-- A function that makes a building for a tile. -/
abbrev BuildingFactory := ℤ → ℤ → Building

/-- The common shape of the built-in buildings: one tile, a yield and a production cost. -/
def makeBuilding (name : String) (yieldPerTurn : Resource) (productionCost : ℤ)
    (allowedTerrains : SortedSet TerrainType) (modelKey : String) : BuildingFactory :=
  fun row col =>
    { name, yieldPerTurn
      constructionCost := { gold := 0, production := productionCost, food := 0 }
      occupiedTiles := SortedSet.singleton ⟨row, col⟩
      allowedTerrains, modelKey }

def makeCityCenter : BuildingFactory :=
  makeBuilding "City Center" { gold := 0, production := 1, food := 1 } 0 SortedSet.empty
    "building_city_center"

def makeFarm : BuildingFactory :=
  makeBuilding "Farm" { gold := 0, production := 0, food := 2 } 20 SortedSet.empty "building_farm"

def makeMine : BuildingFactory :=
  makeBuilding "Mine" { gold := 0, production := 2, food := 0 } 10 (SortedSet.singleton .hills)
    "building_mine"

def makeLumberMill : BuildingFactory :=
  makeBuilding "Lumber Mill" { gold := 0, production := 2, food := 0 } 15
    (SortedSet.singleton .forest) "building_lumber_mill"

def makeBarracks : BuildingFactory :=
  makeBuilding "Barracks" { gold := 0, production := 0, food := 0 } 25 SortedSet.empty
    "building_barracks"

def makeMarket : BuildingFactory :=
  makeBuilding "Market" { gold := 3, production := 0, food := 0 } 30 SortedSet.empty
    "building_market"

/-! ### Build queues -/

/-- The kind of a production order. -/
inductive BuildOrderType
  | building
  | unit
  deriving DecidableEq, Repr

/-- A production order.  The factory is a `std::function`, which may be empty. -/
structure BuildQueueItem where
  name : String
  productionCost : ℤ
  targetRow : ℤ
  targetCol : ℤ
  orderType : BuildOrderType
  factory : Option BuildingFactory
  templateKey : String

/-- What a completed order asks for. -/
inductive BuildQueueResult
  | building (b : Building)
  | unitSpawn (templateKey : String)

/-- A queue of production orders and the production spent on its front. -/
structure BuildQueue where
  queue : List BuildQueueItem := []
  accumulated : ℤ := 0

namespace BuildQueue

/-- Queues a building; its name and cost are those of a prototype. -/
def enqueue (q : BuildQueue) (factory : BuildingFactory) (targetRow targetCol : ℤ) : BuildQueue :=
  let prototype := factory 0 0
  { q with
    queue := q.queue ++
      [{ name := prototype.name, productionCost := prototype.constructionCost.production
         targetRow, targetCol, orderType := .building, factory := some factory
         templateKey := "" }] }

/-- Queues a unit. -/
def enqueueUnit (q : BuildQueue) (templateKey : String) (productionCost : ℤ) : BuildQueue :=
  { q with
    queue := q.queue ++
      [{ name := templateKey, productionCost, targetRow := 0, targetCol := 0, orderType := .unit
         factory := none, templateKey }] }

/-- The turns until the front order is paid for, with some production per turn; the division
truncates. -/
def turnsRemaining (q : BuildQueue) (productionPerTurn : ℤ) : ℤ :=
  match q.queue with
  | [] => 0
  | item :: _ =>
      if productionPerTurn ≤ 0 then 0
      else
        (item.productionCost - q.accumulated + productionPerTurn - 1).tdiv productionPerTurn

/-- Spends production on the front order and returns the order when it is paid for.  A building
order whose factory is empty throws after the production was added. -/
def applyProduction (q : BuildQueue) (amount : ℤ) :
    BuildQueue × Except Fault (Option BuildQueueResult) :=
  match q.queue with
  | [] => (q, .ok none)
  | item :: rest =>
      let accumulated := q.accumulated + amount
      if item.productionCost ≤ accumulated then
        match item.orderType, item.factory with
        | .unit, _ =>
            ({ queue := rest, accumulated := 0 }, .ok (some (.unitSpawn item.templateKey)))
        | .building, some factory =>
            ({ queue := rest, accumulated := 0 },
              .ok (some (.building (factory item.targetRow item.targetCol))))
        | .building, none => ({ q with accumulated }, .error .badFunctionCall)
      else ({ q with accumulated }, .ok none)

/-- Drops the front order. -/
def cancel (q : BuildQueue) : BuildQueue :=
  match q.queue with
  | [] => q
  | _ :: rest => { queue := rest, accumulated := 0 }

/-- Drops every order. -/
def clear (_ : BuildQueue) : BuildQueue := { queue := [], accumulated := 0 }

/-- Puts an order at the back of the queue. -/
def restoreItem (q : BuildQueue) (item : BuildQueueItem) : BuildQueue :=
  { q with queue := q.queue ++ [item] }

def setAccumulatedProduction (q : BuildQueue) (amount : ℤ) : BuildQueue :=
  { q with accumulated := amount }

end BuildQueue

/-! ### Cities -/

/-- A city.  Its owner is a plain `int`; its centre is one of its tiles. -/
structure City where
  id : CityId := 0
  name : String
  centerRow : ℤ
  centerCol : ℤ
  factionId : Int32
  population : ℤ := 1
  tiles : SortedSet TileCoord
  buildQueue : BuildQueue := {}
  foodSurplus : ℤ := 0
  center_mem : ⟨centerRow, centerCol⟩ ∈ tiles

namespace City

/-- The constructor: a city of its centre alone. -/
def create (name : String) (centerRow centerCol : ℤ) (factionId : Int32) : City where
  name := name
  centerRow := centerRow
  centerCol := centerCol
  factionId := factionId
  tiles := SortedSet.singleton ⟨centerRow, centerCol⟩
  center_mem := SortedSet.mem_singleton.2 rfl

def setId (c : City) (id : CityId) : City := { c with id }

def setFactionId (c : City) (factionId : Int32) : City := { c with factionId }

/-- Lets the population grow by an amount, which is asserted not to be negative. -/
def growPopulation (c : City) (amount : ℤ) : Except Fault City :=
  if 0 ≤ amount then .ok { c with population := c.population + amount } else .error .assertion

/-- Adds a tile to the footprint. -/
def addTile (c : City) (row col : ℤ) : City :=
  { c with
    tiles := c.tiles.insert ⟨row, col⟩
    center_mem := SortedSet.mem_insert.2 (Or.inr c.center_mem) }

def containsTile (c : City) (row col : ℤ) : Bool := ⟨row, col⟩ ∈ c.tiles

def setFoodSurplus (c : City) (foodSurplus : ℤ) : City := { c with foodSurplus }

def addFoodSurplus (c : City) (amount : ℤ) : City :=
  { c with foodSurplus := c.foodSurplus + amount }

def setBuildQueue (c : City) (buildQueue : BuildQueue) : City := { c with buildQueue }

/-- The food surplus at which a population grows. -/
def growthThreshold (population : ℤ) : ℤ := 10 + 5 * population

/-- The production of a city before its buildings. -/
def productionPerTurn : ℤ := 5

/-- Whether a faction owns the city, compared as mathematical integers (`std::cmp_equal`). -/
def ownedBy (c : City) (faction : FactionId) : Bool := c.factionId.toInt = (faction.toNat : ℤ)

/-- The owner as a faction, `static_cast<FactionId>`. -/
def owner (c : City) : FactionId := c.factionId.toUInt32

end City

end My4X
