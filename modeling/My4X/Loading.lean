/-
**What loading a message does.**

Loading goes through the parts of a message and fails at the first one it cannot restore.  For each
part one lemma says when it is restored, and to what; the parts put together say when a message is
loaded, and which state it gives.

Main definitions:

* `My4X.terrainAt` — the terrain that the tiles of a message give a place;
* `My4X.CityLoaded`, `My4X.BuildingLoaded`, `My4X.loadedUnit` — the entities of a message;
* `My4X.Loaded` — a state is the one that a message gives.

Main results:

* `My4X.restoreTiles_get?`, `My4X.cityLoaded_of_ok`, `My4X.buildingFromProto_eq_ok`,
  `My4X.unitFromProto_eq_ok` — what the parts are restored to;
* `My4X.loaded_of_ok` — **what is loaded is what the message gives**;
* `My4X.exists_restoreMessage` — which messages are loaded.
-/

import My4X.Serialization
import My4X.Coherence
import My4X.Footprints
import My4X.Lib.Fallible

set_option relaxedAutoImplicit false
set_option autoImplicit false

namespace My4X

/-! ### Tiles -/

/-- The terrain that the tiles of a message give a place: that of the last tile for the place. -/
def terrainAt : List Proto.Tile → ℤ → ℤ → Option TerrainType
  | [], _, _ => none
  | protoTile :: protoTiles, row, col =>
      match terrainAt protoTiles row col with
      | some terrain => some terrain
      | none =>
          if protoTile.row = row ∧ protoTile.col = col then
            (fromProtoTerrain protoTile.terrain).toOption
          else none

theorem terrainAt_cons (t : Proto.Tile) (tiles : List Proto.Tile) (row col : ℤ) :
    terrainAt (t :: tiles) row col = match terrainAt tiles row col with
      | some terrain => some terrain
      | none =>
          if t.row = row ∧ t.col = col then (fromProtoTerrain t.terrain).toOption else none := rfl

theorem restoreTile_eq_ok {m m' : Map} {protoTile : Proto.Tile} :
    restoreTile m protoTile = .ok m' ↔
      ∃ terrain, fromProtoTerrain protoTile.terrain = .ok terrain ∧
        m.setTerrain protoTile.row protoTile.col terrain = .ok m' := by
  constructor
  · intro h
    obtain ⟨t, -, h⟩ := Except.bind_eq_ok.1 h
    exact Except.bind_eq_ok.1 h
  · intro h
    obtain ⟨terrain, hterrain, hset⟩ := h
    obtain ⟨t, ht⟩ := (m.tile_eq_ok_iff _ _).2 (Map.setTerrain_size hset).1
    rw [restoreTile, ht, Except.ok_bind, hterrain, Except.ok_bind]
    exact hset

/-- The tiles are restored when each lies in the map and has a known terrain. -/
theorem exists_restoreTiles (tiles : List Proto.Tile) :
    ∀ m : Map, (∃ m', tiles.foldlM restoreTile m = .ok m') ↔
      ∀ t ∈ tiles, InBounds t.row t.col m.height m.width ∧
        ∃ terrain, fromProtoTerrain t.terrain = .ok terrain := by
  induction tiles with
  | nil => intro m; exact iff_of_true ⟨m, rfl⟩ (by simp)
  | cons t tiles ih =>
      intro m
      rw [List.forall_mem_cons]
      constructor
      · intro h
        obtain ⟨m', hm'⟩ := h
        obtain ⟨m₁, hm₁, hrest⟩ := Except.bind_eq_ok.1 hm'
        obtain ⟨terrain, hterrain, hset⟩ := restoreTile_eq_ok.1 hm₁
        obtain ⟨hin, hheight, hwidth⟩ := Map.setTerrain_size hset
        refine ⟨⟨hin, terrain, hterrain⟩, ?_⟩
        rw [← hheight, ← hwidth]
        exact (ih m₁).1 ⟨m', hrest⟩
      · intro h
        obtain ⟨⟨hin, terrain, hterrain⟩, hrest⟩ := h
        obtain ⟨m₁, hset⟩ := m.setTerrain_ok terrain hin
        obtain ⟨-, hheight, hwidth⟩ := Map.setTerrain_size hset
        rw [← hheight, ← hwidth] at hrest
        obtain ⟨m', hm'⟩ := (ih m₁).2 hrest
        refine ⟨m', ?_⟩
        rw [List.foldlM_cons, restoreTile_eq_ok.2 ⟨terrain, hterrain, hset⟩, Except.ok_bind]
        exact hm'

/-- **The map after its tiles are restored**: of the same size, with the terrains of the message
where it gives any. -/
theorem restoreTiles_get? (tiles : List Proto.Tile) :
    ∀ {m m' : Map}, tiles.foldlM restoreTile m = .ok m' →
      m'.height = m.height ∧ m'.width = m.width ∧ ∀ row col, m'.tiles.get? row col =
        (m.tiles.get? row col).map fun t =>
          match terrainAt tiles row col with
          | some terrain => t.setTerrainType terrain
          | none => t := by
  induction tiles with
  | nil =>
      intro m m' h
      obtain rfl : m = m' := Except.ok.inj h
      exact ⟨rfl, rfl, fun row col => Option.map_id'.symm⟩
  | cons t tiles ih =>
      intro m m' h
      obtain ⟨m₁, hm₁, hrest⟩ := Except.bind_eq_ok.1 h
      obtain ⟨terrain, hterrain, hset⟩ := restoreTile_eq_ok.1 hm₁
      obtain ⟨-, hheight, hwidth⟩ := Map.setTerrain_size hset
      obtain ⟨hheight', hwidth', hget⟩ := ih hrest
      refine ⟨hheight'.trans hheight, hwidth'.trans hwidth, fun row col => ?_⟩
      rw [hget, Map.tile_setTerrain hset, terrainAt_cons]
      by_cases hplace : row = t.row ∧ col = t.col
      · obtain ⟨rfl, rfl⟩ := hplace
        rw [if_pos ⟨rfl, rfl⟩, Option.map_map]
        congr 1
        funext tile
        -- a later tile for the same place overrides this one
        cases terrainAt tiles t.row t.col with
        | some later => rfl
        | none => simp only [hterrain, and_self, if_true, Except.toOption, Function.comp_apply]
      · have hplace' : ¬ (t.row = row ∧ t.col = col) := fun h => hplace ⟨h.1.symm, h.2.symm⟩
        rw [if_neg hplace, if_neg hplace']
        congr 1
        funext tile
        cases terrainAt tiles row col <;> rfl

/-- The terrain of a place is that of some tile for the place. -/
theorem mem_of_terrainAt {tiles : List Proto.Tile} {row col : ℤ} {terrain : TerrainType}
    (h : terrainAt tiles row col = some terrain) :
    ∃ t ∈ tiles, t.row = row ∧ t.col = col ∧ fromProtoTerrain t.terrain = .ok terrain := by
  induction tiles with
  | nil => simp [terrainAt] at h
  | cons t tiles ih =>
      rw [terrainAt_cons] at h
      cases hlater : terrainAt tiles row col with
      | some later =>
          rw [hlater] at h
          obtain ⟨t', ht', hplace⟩ := ih (hlater.trans h)
          exact ⟨t', List.mem_cons_of_mem t ht', hplace⟩
      | none =>
          simp only [hlater] at h
          split at h
          · next hplace =>
              cases hterrain : fromProtoTerrain t.terrain with
              | error e => simp [hterrain, Except.toOption] at h
              | ok x =>
                  rw [hterrain] at h
                  obtain rfl := Option.some_inj.1 h
                  exact ⟨t, List.mem_cons_self, hplace.1, hplace.2, hterrain⟩
          · simp at h

/-- A place that some tile names has a terrain, if that of the tile is known. -/
theorem exists_terrainAt {tiles : List Proto.Tile} {row col : ℤ} {t : Proto.Tile} (ht : t ∈ tiles)
    (hplace : t.row = row ∧ t.col = col) (hknown : ∃ x, fromProtoTerrain t.terrain = .ok x) :
    ∃ x, terrainAt tiles row col = some x := by
  induction tiles with
  | nil => simp at ht
  | cons t' tiles ih =>
      rw [terrainAt_cons]
      cases hlater : terrainAt tiles row col with
      | some later => exact ⟨later, rfl⟩
      | none =>
          rcases List.mem_cons.1 ht with rfl | ht
          · obtain ⟨x, hx⟩ := hknown
            exact ⟨x, by simp only [hplace, and_self, if_true, hx]; rfl⟩
          · obtain ⟨x, hx⟩ := ih ht
            rw [hlater] at hx
            simp at hx

/-! ### Cities -/

/-- Two parallel arrays are read when the second one is long enough. -/
theorem parallelTiles_eq_ok (rows : List ℤ) :
    ∀ {cols : List ℤ} {tiles : List TileCoord}, parallelTiles rows cols = .ok tiles ↔
      rows.length ≤ cols.length ∧ tiles = List.zipWith TileCoord.mk rows cols := by
  induction rows with
  | nil =>
      intro cols tiles
      rw [parallelTiles, List.zipWith_nil_left, Except.ok.injEq, eq_comm]
      simp
  | cons row rows ih =>
      intro cols tiles
      cases cols with
      | nil => simp [parallelTiles]
      | cons col cols =>
          rw [List.zipWith_cons_cons, List.length_cons, List.length_cons, Nat.succ_le_succ_iff]
          constructor
          · intro h
            obtain ⟨tiles', htiles, h⟩ := Except.bind_eq_ok.1 h
            obtain ⟨hlen, rfl⟩ := ih.1 htiles
            exact ⟨hlen, (Except.ok.inj h).symm⟩
          · intro h
            obtain ⟨hlen, rfl⟩ := h
            rw [parallelTiles, ih.2 ⟨hlen, rfl⟩]
            rfl

/-- Adding tiles one after the other changes the footprint alone. -/
theorem foldl_addTile (tiles : List TileCoord) :
    ∀ c : City, ∃ h : ⟨c.centerRow, c.centerCol⟩ ∈ c.tiles.insertAll tiles,
      tiles.foldl (fun city t => city.addTile t.row t.col) c =
        { c with tiles := c.tiles.insertAll tiles, center_mem := h } := by
  induction tiles with
  | nil => intro c; exact ⟨c.center_mem, rfl⟩
  | cons t tiles ih => intro c; exact ih (c.addTile t.row t.col)

theorem foldl_restoreItem (items : List BuildQueueItem) :
    ∀ q : BuildQueue, items.foldl BuildQueue.restoreItem q =
      { q with queue := q.queue ++ items } := by
  induction items with
  | nil => intro q; rw [List.append_nil]; rfl
  | cons item items ih =>
      intro q
      rw [List.foldl_cons, ih]
      simp only [BuildQueue.restoreItem, List.append_assoc, List.singleton_append]

/-- A production order is restored when it is for a unit or its building is known. -/
theorem exists_queueItemFromProto (item : Proto.BuildQueueItem) :
    (∃ q, queueItemFromProto item = .ok q) ↔
      (item.orderType ≠ buildOrderUnit → ∃ f, buildingFactoryByName item.name = .ok f) := by
  rw [queueItemFromProto]
  split
  · next h => exact iff_of_true ⟨_, rfl⟩ fun hne => absurd h hne
  · next h =>
      constructor
      · intro hq
        obtain ⟨q, hq⟩ := hq
        obtain ⟨f, hf, -⟩ := Except.bind_eq_ok.1 hq
        exact fun _ => ⟨f, hf⟩
      · intro hf
        obtain ⟨f, hf⟩ := hf h
        rw [hf]
        exact ⟨_, rfl⟩

/-- A city is the one that a message gives, with its production orders. -/
structure CityLoaded (protoCity : Proto.City) (city : City) : Prop where
  population_pos : 1 ≤ protoCity.population
  length_le : protoCity.tileRows.length ≤ protoCity.tileCols.length
  queue : protoCity.buildQueueItems.mapM queueItemFromProto = .ok city.buildQueue.queue
  id : city.id = protoCity.id
  name : city.name = protoCity.name
  centerRow : city.centerRow = protoCity.centerRow
  centerCol : city.centerCol = protoCity.centerCol
  factionId : city.factionId = protoCity.factionId
  population : city.population = protoCity.population
  tiles : city.tiles =
    (SortedSet.singleton ⟨protoCity.centerRow, protoCity.centerCol⟩).insertAll
      (List.zipWith TileCoord.mk protoCity.tileRows protoCity.tileCols)
  accumulated : city.buildQueue.accumulated = protoCity.accumulatedProduction
  foodSurplus : city.foodSurplus = protoCity.foodSurplus

theorem cityLoaded_of_ok {protoCity : Proto.City} {city : City}
    (h : cityFromProto protoCity = .ok city) : CityLoaded protoCity city := by
  obtain ⟨c₁, hgrow, h⟩ := Except.bind_eq_ok.1 h
  obtain ⟨tiles, htiles, h⟩ := Except.bind_eq_ok.1 h
  obtain ⟨items, hitems, h⟩ := Except.bind_eq_ok.1 h
  obtain ⟨hlen, rfl⟩ := (parallelTiles_eq_ok _).1 htiles
  rw [City.growPopulation] at hgrow
  split at hgrow
  · next hpop =>
      obtain rfl := Except.ok.inj hgrow
      obtain ⟨hmem, hfold⟩ := foldl_addTile
        (List.zipWith TileCoord.mk protoCity.tileRows protoCity.tileCols)
        { ((City.create protoCity.name protoCity.centerRow protoCity.centerCol
            protoCity.factionId).setId protoCity.id) with
          population := ((City.create protoCity.name protoCity.centerRow protoCity.centerCol
            protoCity.factionId).setId protoCity.id).population + (protoCity.population - 1) }
      obtain rfl := Except.ok.inj h
      simp only [hfold, foldl_restoreItem]
      refine ⟨by omega, hlen, hitems, rfl, rfl, rfl, rfl, rfl, ?_, rfl, rfl, rfl⟩
      show 1 + (protoCity.population - 1) = protoCity.population
      omega
  · simp at hgrow

/-- A city is restored when its population is positive, its columns are as many as its rows, and
its production orders are known. -/
theorem exists_cityFromProto (protoCity : Proto.City) :
    (∃ city, cityFromProto protoCity = .ok city) ↔
      1 ≤ protoCity.population ∧ protoCity.tileRows.length ≤ protoCity.tileCols.length ∧
        ∀ item ∈ protoCity.buildQueueItems, ∃ q, queueItemFromProto item = .ok q := by
  constructor
  · intro h
    obtain ⟨city, h⟩ := h
    have hload := cityLoaded_of_ok h
    exact ⟨hload.population_pos, hload.length_le,
      Fallible.exists_mapM_eq_ok.1 ⟨_, hload.queue⟩⟩
  · intro h
    obtain ⟨hpop, hlen, hitems⟩ := h
    obtain ⟨items, hitems⟩ := Fallible.exists_mapM_eq_ok.2 hitems
    have htiles := (parallelTiles_eq_ok protoCity.tileRows).2 ⟨hlen, rfl⟩
    have hgrow : 0 ≤ protoCity.population - 1 := by omega
    rw [cityFromProto, City.growPopulation]
    simp only [if_pos hgrow, htiles, hitems, Except.ok_bind]
    exact ⟨_, rfl⟩

/-! ### Buildings -/

/-- A building is the one that a message gives. -/
structure BuildingLoaded (protoBuilding : Proto.Building) (building : Building) : Prop where
  length_le : protoBuilding.tileRows.length ≤ protoBuilding.tileCols.length
  eq : ∃ terrains, protoBuilding.allowedTerrains.mapM fromProtoTerrain = .ok terrains ∧ building =
    { id := protoBuilding.id
      name := protoBuilding.name
      yieldPerTurn := fromProtoResource protoBuilding.yieldPerTurn
      constructionCost := fromProtoResource protoBuilding.constructionCost
      occupiedTiles := SortedSet.empty.insertAll
        (List.zipWith TileCoord.mk protoBuilding.tileRows protoBuilding.tileCols)
      allowedTerrains := SortedSet.empty.insertAll terrains
      modelKey := protoBuilding.modelKey
      factionId := protoBuilding.factionId
      underConstruction := protoBuilding.underConstruction }

theorem buildingFromProto_eq_ok {protoBuilding : Proto.Building} {building : Building} :
    buildingFromProto protoBuilding = .ok building ↔ BuildingLoaded protoBuilding building := by
  constructor
  · intro h
    obtain ⟨tiles, htiles, h⟩ := Except.bind_eq_ok.1 h
    obtain ⟨terrains, hterrains, h⟩ := Except.bind_eq_ok.1 h
    obtain ⟨hlen, rfl⟩ := (parallelTiles_eq_ok _).1 htiles
    exact ⟨hlen, terrains, hterrains, (Except.ok.inj h).symm⟩
  · intro h
    obtain ⟨hlen, terrains, hterrains, rfl⟩ := h
    rw [buildingFromProto, (parallelTiles_eq_ok protoBuilding.tileRows).2 ⟨hlen, rfl⟩,
      Except.ok_bind, hterrains]
    rfl

/-- A building is restored when its columns are as many as its rows and its terrains are known. -/
theorem exists_buildingFromProto (protoBuilding : Proto.Building) :
    (∃ building, buildingFromProto protoBuilding = .ok building) ↔
      protoBuilding.tileRows.length ≤ protoBuilding.tileCols.length ∧
        ∀ n ∈ protoBuilding.allowedTerrains, ∃ terrain, fromProtoTerrain n = .ok terrain := by
  simp only [buildingFromProto_eq_ok]
  constructor
  · intro h
    obtain ⟨building, hlen, terrains, hterrains, -⟩ := h
    exact ⟨hlen, Fallible.exists_mapM_eq_ok.1 ⟨terrains, hterrains⟩⟩
  · intro h
    obtain ⟨terrains, hterrains⟩ := Fallible.exists_mapM_eq_ok.2 h.2
    exact ⟨_, h.1, terrains, hterrains, rfl⟩

/-! ### Units -/

/-- The registry with the built-in unit types. -/
theorem exists_registerDefaults :
    ∃ reg, UnitTypeRegistry.empty.registerDefaults = .ok reg ∧
      reg.getTemplate "Warrior" = .ok warriorTemplate ∧
      reg.getTemplate "Archer" = .ok archerTemplate ∧
      reg.getTemplate "Settler" = .ok settlerTemplate := ⟨_, rfl, rfl, rfl, rfl⟩

/-- The template of a unit type of the message. -/
def templateOfType (type : ℤ) : Option UnitTemplate :=
  if type = 1 then some warriorTemplate
  else if type = 2 then some archerTemplate
  else if type = 3 then some settlerTemplate
  else none

/-- The unit that a message gives, from its template. -/
def loadedUnit (protoUnit : Proto.Unit) (tmpl : UnitTemplate) : Unit :=
  (((Unit.create protoUnit.row protoUnit.col tmpl protoUnit.factionId.toUInt32).setHealth
    protoUnit.health).setMovementRemaining protoUnit.movementRemaining).setExperience
    protoUnit.experience

/-- A unit is restored when its type is known. -/
theorem unitFromProto_eq_ok {reg : UnitTypeRegistry}
    (hreg : UnitTypeRegistry.empty.registerDefaults = .ok reg) {protoUnit : Proto.Unit} {u : Unit} :
    unitFromProto reg protoUnit = .ok u ↔
      ∃ tmpl, templateOfType protoUnit.type = some tmpl ∧ u = loadedUnit protoUnit tmpl := by
  obtain ⟨reg', hreg', hwarrior, harcher, hsettler⟩ := exists_registerDefaults
  obtain rfl := Except.ok.inj (hreg.symm.trans hreg')
  rw [unitFromProto, templateKeyFromProtoType, templateOfType]
  split
  · rw [Except.ok_bind, hwarrior, Except.ok_bind]
    exact ⟨fun h => ⟨_, rfl, (Except.ok.inj h).symm⟩, fun ⟨_, ht, hu⟩ => by
      obtain rfl := Option.some_inj.1 ht
      rw [hu]
      rfl⟩
  · split
    · rw [Except.ok_bind, harcher, Except.ok_bind]
      exact ⟨fun h => ⟨_, rfl, (Except.ok.inj h).symm⟩, fun ⟨_, ht, hu⟩ => by
        obtain rfl := Option.some_inj.1 ht
        rw [hu]
        rfl⟩
    · split
      · rw [Except.ok_bind, hsettler, Except.ok_bind]
        exact ⟨fun h => ⟨_, rfl, (Except.ok.inj h).symm⟩, fun ⟨_, ht, hu⟩ => by
          obtain rfl := Option.some_inj.1 ht
          rw [hu]
          rfl⟩
      · split <;> simp

theorem exists_unitFromProto {reg : UnitTypeRegistry}
    (hreg : UnitTypeRegistry.empty.registerDefaults = .ok reg) (protoUnit : Proto.Unit) :
    (∃ u, unitFromProto reg protoUnit = .ok u) ↔ (templateOfType protoUnit.type).isSome = true := by
  simp only [unitFromProto_eq_ok hreg]
  rw [Option.isSome_iff_exists]
  exact ⟨fun ⟨_, tmpl, h, _⟩ => ⟨tmpl, h⟩, fun ⟨tmpl, h⟩ => ⟨_, tmpl, h, rfl⟩⟩

/-! ### The whole message -/

/-- **A state is the one that a message gives** on a freshly drawn map. -/
structure Loaded (draws : ℕ → TerrainType) (proto : Proto.GameState) (fresh : Map)
    (reg : UnitTypeRegistry) (t : GameState) : Prop where
  created : Map.create proto.map.height proto.map.width draws = .ok fresh
  types : UnitTypeRegistry.empty.registerDefaults = .ok reg
  map : proto.map.tiles.foldlM restoreTile fresh = .ok t.map
  cities : proto.cities.mapM cityFromProto = .ok t.cities
  buildings : proto.buildings.mapM buildingFromProto = .ok t.buildings
  units : proto.units.mapM (unitFromProto reg) = .ok (t.units.list.map (·.unit))
  turn : t.turn = proto.turn
  nextCityId : t.nextCityId = proto.nextCityId
  nextBuildingId : t.nextBuildingId = proto.nextBuildingId
  factionResources : t.factionResources = fromProtoResource proto.factionResources
  fog : t.fog = FogOfWar.create proto.map.height proto.map.width
  factions : t.factionRegistry = {}
  diplomacy : t.diplomacy = DiplomacyManager.empty
  coherent : t.Coherent
  cityOwners : t.registry.cities =
    t.cityFootprints.foldl (fun idx e => idx.claimAll e.2 e.1) OwnerIndex.empty
  buildingOwners : t.registry.buildings =
    t.buildingFootprints.foldl (fun idx e => idx.claimAll e.2 e.1) OwnerIndex.empty

/-- Adding units changes the unit list and the registry of units alone. -/
theorem foldl_addUnit (units : List Unit) :
    ∀ s : GameState, ∃ index vec, units.foldl (fun s u => (s.addUnit u).1) s =
        { s with registry := { s.registry with units := index }, units := vec } ∧
      vec.list.map (·.unit) = s.units.list.map (·.unit) ++ units := by
  induction units with
  | nil => intro s; exact ⟨s.registry.units, s.units, rfl, by rw [List.append_nil]⟩
  | cons u units ih =>
      intro s
      obtain ⟨index, vec, hrest, hvec⟩ := ih (s.addUnit u).1
      refine ⟨index, vec, hrest, hvec.trans ?_⟩
      simp [GameState.addUnit, UnitVec.push]

theorem GameState.Coherent.foldl_addUnit (units : List Unit) :
    ∀ {s : GameState}, s.Coherent → (units.foldl (fun s u => (s.addUnit u).1) s).Coherent := by
  induction units with
  | nil => intro s h; exact h
  | cons u units ih => intro s h; exact ih (h.addUnit u)

theorem restoreCities_eq (s : GameState) (cities : List Proto.City) :
    restoreCities s cities = do
      let cs ← cities.mapM cityFromProto
      return cs.foldl GameState.restoreCity s :=
  Fallible.foldlM_eq_mapM cityFromProto GameState.restoreCity cities s

theorem restoreBuildings_eq (s : GameState) (buildings : List Proto.Building) :
    restoreBuildings s buildings = do
      let bs ← buildings.mapM buildingFromProto
      return bs.foldl GameState.restoreBuilding s :=
  Fallible.foldlM_eq_mapM buildingFromProto GameState.restoreBuilding buildings s

theorem restoreUnits_eq (reg : UnitTypeRegistry) (s : GameState) (units : List Proto.Unit) :
    restoreUnits reg s units = do
      let us ← units.mapM (unitFromProto reg)
      return us.foldl (fun s u => (s.addUnit u).1) s :=
  Fallible.foldlM_eq_mapM (unitFromProto reg) (fun s u => (GameState.addUnit s u).1) units s

/-- What restoring cities does to a state. -/
theorem restoreCities_ok {s t : GameState} {cities : List Proto.City}
    (h : restoreCities s cities = .ok t) :
    ∃ cs, cities.mapM cityFromProto = .ok cs ∧
      t = { s with
            registry := { s.registry with
              cities := (cs.map fun c => (c.id, c.tiles.toList)).foldl
                (fun idx e => idx.claimAll e.2 e.1) s.registry.cities }
            cities := s.cities ++ cs } := by
  rw [restoreCities_eq] at h
  obtain ⟨cs, hcs, h⟩ := Except.bind_eq_ok.1 h
  exact ⟨cs, hcs, (Except.ok.inj h).symm.trans (GameState.foldl_restoreCity cs s)⟩

/-- What restoring buildings does to a state. -/
theorem restoreBuildings_ok {s t : GameState} {buildings : List Proto.Building}
    (h : restoreBuildings s buildings = .ok t) :
    ∃ bs, buildings.mapM buildingFromProto = .ok bs ∧
      t = { s with
            registry := { s.registry with
              buildings := (bs.map fun b => (b.id, b.occupiedTiles.toList)).foldl
                (fun idx e => idx.claimAll e.2 e.1) s.registry.buildings }
            buildings := s.buildings ++ bs } := by
  rw [restoreBuildings_eq] at h
  obtain ⟨bs, hbs, h⟩ := Except.bind_eq_ok.1 h
  exact ⟨bs, hbs, (Except.ok.inj h).symm.trans (GameState.foldl_restoreBuilding bs s)⟩

/-- What restoring units does to a state. -/
theorem restoreUnits_ok {reg : UnitTypeRegistry} {s t : GameState} {units : List Proto.Unit}
    (h : restoreUnits reg s units = .ok t) :
    (s.Coherent → t.Coherent) ∧ ∃ us index vec, units.mapM (unitFromProto reg) = .ok us ∧
      t = { s with registry := { s.registry with units := index }, units := vec } ∧
      vec.list.map (·.unit) = s.units.list.map (·.unit) ++ us := by
  rw [restoreUnits_eq] at h
  obtain ⟨us, hus, h⟩ := Except.bind_eq_ok.1 h
  obtain ⟨index, vec, hfold, hvec⟩ := foldl_addUnit us s
  have ht : t = us.foldl (fun s u => (s.addUnit u).1) s := (Except.ok.inj h).symm
  exact ⟨fun hs => ht ▸ hs.foldl_addUnit us, us, index, vec, hus, ht.trans hfold, hvec⟩

/-- **What is loaded is what the message gives.** -/
theorem loaded_of_ok {draws : ℕ → TerrainType} {proto : Proto.GameState} {t : GameState}
    (h : restoreMessage draws proto = .ok t) : ∃ fresh reg, Loaded draws proto fresh reg t := by
  obtain ⟨s₀, hcreate, h⟩ := Except.bind_eq_ok.1 h
  obtain ⟨fresh, hfresh, hcreate⟩ := Except.bind_eq_ok.1 hcreate
  obtain rfl := Except.ok.inj hcreate
  obtain ⟨reg, hreg, h⟩ := Except.bind_eq_ok.1 h
  obtain ⟨map, hmap, h⟩ := Except.bind_eq_ok.1 h
  obtain ⟨s₁, h₁, h⟩ := Except.bind_eq_ok.1 h
  obtain ⟨s₂, h₂, h⟩ := Except.bind_eq_ok.1 h
  obtain ⟨s₃, h₃, h⟩ := Except.bind_eq_ok.1 h
  obtain rfl := Except.ok.inj h
  obtain ⟨cities, hcities, rfl⟩ := restoreCities_ok h₁
  obtain ⟨buildings, hbuildings, rfl⟩ := restoreBuildings_ok h₂
  obtain ⟨hcoh, units, index, vec, hunits, rfl, hvec⟩ := restoreUnits_ok h₃
  -- no unit is registered before the units are restored
  refine ⟨fresh, reg, hfresh, hreg, hmap, hcities, hbuildings, ?_, rfl, rfl, rfl, rfl, rfl,
    rfl, rfl,
    (hcoh OccupancyIndex.tracks_empty).of_eq rfl rfl, rfl, rfl⟩
  rw [show vec.list.map (·.unit) = units from hvec]
  exact hunits

/-- A message is restored when all of its parts are. -/
theorem exists_restoreMessage {draws : ℕ → TerrainType} {proto : Proto.GameState} {fresh : Map}
    {reg : UnitTypeRegistry}
    (hfresh : Map.create proto.map.height proto.map.width draws = .ok fresh)
    (hreg : UnitTypeRegistry.empty.registerDefaults = .ok reg) :
    (∃ t, restoreMessage draws proto = .ok t) ↔
      (∃ m, proto.map.tiles.foldlM restoreTile fresh = .ok m) ∧
        (∃ cs, proto.cities.mapM cityFromProto = .ok cs) ∧
        (∃ bs, proto.buildings.mapM buildingFromProto = .ok bs) ∧
        ∃ us, proto.units.mapM (unitFromProto reg) = .ok us := by
  constructor
  · intro h
    obtain ⟨t, h⟩ := h
    obtain ⟨fresh', reg', hload⟩ := loaded_of_ok h
    obtain rfl := Except.ok.inj (hfresh.symm.trans hload.created)
    obtain rfl := Except.ok.inj (hreg.symm.trans hload.types)
    exact ⟨⟨_, hload.map⟩, ⟨_, hload.cities⟩, ⟨_, hload.buildings⟩, ⟨_, hload.units⟩⟩
  · intro h
    obtain ⟨⟨m, hm⟩, ⟨cs, hcs⟩, ⟨bs, hbs⟩, ⟨us, hus⟩⟩ := h
    rw [restoreMessage, GameState.create]
    simp only [hfresh, Except.ok_bind, pure, Except.pure, hreg, hm, restoreCities_eq, hcs,
      restoreBuildings_eq, hbs, restoreUnits_eq, hus]
    exact ⟨_, rfl⟩

end My4X
