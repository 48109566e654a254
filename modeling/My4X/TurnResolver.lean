/-
**The end of a turn.**

At the end of a turn every city collects the yields of its buildings, spends its production and
grows; then the neutral factions declare what they intend, every unit recovers its movement, and
the turn counter advances.  A city can throw in the middle of this: what it and the cities before
it have changed stays.

Main definitions:

* `My4X.TurnResolver.resolveCity`, `My4X.TurnResolver.resolveCities` — the cities;
* `My4X.NeutralAI.generateActions` — the intentions of the neutral factions;
* `My4X.resolveTurn` — the end of a turn.
-/

import My4X.Actions

set_option relaxedAutoImplicit false
set_option autoImplicit false

namespace My4X

/-! ### The neutral factions -/

/-- What a neutral unit intends. -/
inductive AIActionType
  | hold
  | attack
  deriving DecidableEq, Repr

/-- The intention of a neutral unit. -/
structure AIAction where
  type : AIActionType
  unitIndex : ℕ
  actingFactionId : FactionId
  targetRow : ℤ
  targetCol : ℤ
  deriving DecidableEq, Repr

namespace NeutralAI

/-- The six neighbours of a tile, in the map or not. -/
def hexNeighbors (row col : ℤ) : List (ℤ × ℤ) :=
  (if row % 2 = 0 then evenRowDirections else oddRowDirections).map
    fun dir => (row + dir.1, col + dir.2)

/-- The index of the first living enemy on a tile. -/
def enemyOnTile (state : GameState) (ownFactionId : FactionId) (row col : ℤ) : Option ℕ :=
  state.units.list.findIdx? fun p =>
    p.unit.row = row && p.unit.col = col && p.unit.isAlive && p.unit.factionId ≠ ownFactionId &&
      state.diplomacy.areAtWar ownFactionId p.unit.factionId

/-- The index of the first enemy next to a tile. -/
def findAdjacentEnemy (state : GameState) (row col : ℤ) (ownFactionId : FactionId) : Option ℕ :=
  (hexNeighbors row col).findSome? fun n =>
    if n.1 < 0 ∨ n.2 < 0 ∨ state.map.height ≤ n.1 ∨ state.map.width ≤ n.2 then none
    else enemyOnTile state ownFactionId n.1 n.2

/-- The intention of a unit: to attack the first enemy next to it, or to hold its position. -/
def unitAction (state : GameState) (factionId : FactionId) (i : ℕ) (unit : Unit) : AIAction :=
  match (findAdjacentEnemy state unit.row unit.col factionId).bind state.units.get? with
  | some enemy =>
      { type := .attack, unitIndex := i, actingFactionId := factionId
        targetRow := enemy.unit.row, targetCol := enemy.unit.col }
  | none =>
      { type := .hold, unitIndex := i, actingFactionId := factionId
        targetRow := unit.row, targetCol := unit.col }

/-- The intentions of the living units of a faction. -/
def generateFactionActions (state : GameState) (factionId : FactionId) : List AIAction :=
  state.units.list.zipIdx.filterMap fun (p, i) =>
    if p.unit.factionId ≠ factionId ∨ ¬ p.unit.isAlive then none
    else some (unitAction state factionId i p.unit)

/-- The intentions of every neutral faction. -/
def generateActions (state : GameState) : List AIAction :=
  (state.factionRegistry.factions.filter fun f => f.type ≠ .player).flatMap
    fun f => generateFactionActions state f.id

end NeutralAI

/-! ### The cities -/

namespace TurnResolver

/-- The neighbour offsets of an even row, in the order in which spawn tiles are tried. -/
def evenRowOffsets : List (ℤ × ℤ) := [(-1, -1), (-1, 0), (0, 1), (1, 0), (1, -1), (0, -1)]

/-- The neighbour offsets of an odd row, in the order in which spawn tiles are tried. -/
def oddRowOffsets : List (ℤ × ℤ) := [(-1, 0), (-1, 1), (0, 1), (1, 1), (1, 0), (0, -1)]

/-- The neighbours of a tile that lie in the map. -/
def hexNeighbors (row col mapRows mapCols : ℤ) : List (ℤ × ℤ) :=
  let offsets := if row % 2 ≠ 0 then oddRowOffsets else evenRowOffsets
  (offsets.map fun offset => (row + offset.1, col + offset.2)).filter
    fun n => InBounds n.1 n.2 mapRows mapCols

/-- The first neighbour without units, or else the centre itself. -/
def findSpawnTile (centerRow centerCol : ℤ) (state : GameState) : ℤ × ℤ :=
  ((hexNeighbors centerRow centerCol state.map.height state.map.width).find? fun n =>
    (state.registry.unitsAt n.1 n.2).isEmpty).getD (centerRow, centerCol)

/-- The yields of the buildings that share a tile with the city, each counted once. -/
def collectCityYields (city : City) (state : GameState) : Resource :=
  state.buildings.foldl
    (fun total building =>
      if building.occupiedTiles.toList.any fun t => city.containsTile t.row t.col then
        total + building.yieldPerTurn
      else total) {}

/-- Pays gold to the first faction with the identifier, or else into the common account. -/
def routeGoldToFaction (state : GameState) (factionId : Int32) (gold : ℤ) : GameState :=
  let target := state.factionRegistry.factions.findIdx? fun f => f.id = factionId.toUInt32
  match if 0 < factionId then target else none with
  | some i =>
      { state with
        factionRegistry := { state.factionRegistry with
          factions := state.factionRegistry.factions.modify i fun f =>
            { f with stockpile := { f.stockpile with gold := f.stockpile.gold + gold } } } }
  | none =>
      { state with
        factionResources :=
          { state.factionResources with gold := state.factionResources.gold + gold } }

/-- Spawns a completed unit; the lookup of its template can throw. -/
def spawnCompletedUnit (state : GameState) (city : City) (templateKey : String)
    (unitRegistry : UnitTypeRegistry) : Except Fault GameState := do
  let tmpl ← unitRegistry.getTemplate templateKey
  let spawn := findSpawnTile city.centerRow city.centerCol state
  return (state.addUnit (Unit.create spawn.1 spawn.2 tmpl city.owner)).1

/-- Places a completed building or spawns a completed unit; without a registry of unit types a unit
is dropped. -/
def handleCompletedProduction (state : GameState) (city : City) (result : BuildQueueResult)
    (unitRegistry : Option UnitTypeRegistry) : Except Fault GameState :=
  match result with
  | .building b => .ok (state.addBuilding { b with factionId := city.owner }).1
  | .unitSpawn templateKey =>
      match unitRegistry with
      | none => .ok state
      | some reg => spawnCompletedUnit state city templateKey reg

/-- Adds the food of a turn; the population grows when the surplus reaches the threshold. -/
def feed (city : City) (food : ℤ) : Except Fault City :=
  let city := city.addFoodSurplus food
  let threshold := City.growthThreshold city.population
  if threshold ≤ city.foodSurplus then do
    let city ← city.growPopulation 1
    return city.setFoodSurplus (city.foodSurplus - threshold)
  else .ok city

/-- The turn of the city at an index.  When a step throws, the state is the one it has reached. -/
def resolveCity (unitRegistry : Option UnitTypeRegistry) (state : GameState) (i : ℕ) :
    GameState × Option Fault :=
  match state.cities[i]? with
  | none => (state, none)
  | some city =>
      let yields := collectCityYields city state
      let state := routeGoldToFaction state city.factionId yields.gold
      let (queue, completed) :=
        city.buildQueue.applyProduction (City.productionPerTurn + yields.production)
      let city := city.setBuildQueue queue
      let state := state.setCity i city
      let placed : Except Fault GameState :=
        match completed with
        | .error e => .error e
        | .ok none => .ok state
        | .ok (some result) => handleCompletedProduction state city result unitRegistry
      match placed with
      | .error e => (state, some e)
      | .ok state =>
          match feed city yields.food with
          | .error e => (state, some e)
          | .ok city => (state.setCity i city, none)

/-- The turns of the cities at some indices, up to the first one that throws. -/
def resolveCitiesFrom (unitRegistry : Option UnitTypeRegistry) (state : GameState) :
    List ℕ → GameState × Option Fault
  | [] => (state, none)
  | i :: is =>
      match resolveCity unitRegistry state i with
      | (state, some e) => (state, some e)
      | (state, none) => resolveCitiesFrom unitRegistry state is

/-- The turns of all cities. -/
def resolveCities (state : GameState) (unitRegistry : Option UnitTypeRegistry) :
    GameState × Option Fault :=
  resolveCitiesFrom unitRegistry state (List.range state.cities.length)

end TurnResolver

/-! ### The turn -/

/-- Changes every unit of a list. -/
def UnitVec.mapUnits (v : UnitVec) (f : Unit → Unit) : UnitVec where
  list := v.list.map fun p => { p with unit := f p.unit }
  nodup := by
    rw [List.map_map]
    exact v.nodup

/-- **The end of a turn**: the state it leaves, and the intentions of the neutral factions unless a
city has thrown. -/
def resolveTurn (state : GameState) (unitRegistry : Option UnitTypeRegistry) :
    GameState × Except Fault (List AIAction) :=
  match TurnResolver.resolveCities state unitRegistry with
  | (state, some e) => (state, .error e)
  | (state, none) =>
      let aiActions := NeutralAI.generateActions state
      let state := { state with units := state.units.mapUnits Unit.resetMovement }
      (state.nextTurn, .ok aiActions)

end My4X
