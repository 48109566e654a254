/-
**What is saved is loaded again.**

The message format holds the turn, the identifiers to come, the terrain, the cities with their
queues, the buildings, the units of the built-in types and the resources.  A state whose entities
the format can name is loaded as it was saved, on everything that is written.

Main definitions:

* `My4X.Savable` — the format can name the entities of a state;
* `My4X.Restored` — a loaded state agrees with the saved one on everything that is written.

Main results:

* `My4X.cityRestored_of_toProto`, `My4X.buildingFromProto_toProto`,
  `My4X.unitFromProto_toProto` — the entities one by one;
* `My4X.deserialize_serialize` — **what is saved is loaded again**.
-/

import My4X.Loading
import My4X.Agreement

set_option relaxedAutoImplicit false
set_option autoImplicit false

namespace My4X

/-! ### Agreement on what is written -/

/-- The templates the format has a number for. -/
def builtinTemplates : List UnitTemplate := [warriorTemplate, archerTemplate, settlerTemplate]

/-- The format can name the entities of a state: its units are of the built-in types, the buildings
in its queues come from the built-in factories, and its cities are populated. -/
structure Savable (s : GameState) : Prop where
  units : ∀ p ∈ s.units.list, p.unit.template ∈ builtinTemplates
  orders : ∀ c ∈ s.cities, ∀ item ∈ c.buildQueue.queue, item.orderType = .building →
    ∃ f ∈ builtinFactories, item.factory = some f ∧ item.name = (f 0 0).name
  population : ∀ c ∈ s.cities, 1 ≤ c.population

/-- Two production orders are the same: they build with the same factory, or ask for the same
unit. -/
structure BuildQueueItem.Restored (item item' : BuildQueueItem) : Prop where
  name : item'.name = item.name
  productionCost : item'.productionCost = item.productionCost
  targetRow : item'.targetRow = item.targetRow
  targetCol : item'.targetCol = item.targetCol
  orderType : item'.orderType = item.orderType
  factory : item.orderType = .building → item'.factory = item.factory
  templateKey : item.orderType = .unit → item'.templateKey = item.templateKey

/-- Two cities are the same. -/
structure City.Restored (c c' : City) : Prop where
  id : c'.id = c.id
  name : c'.name = c.name
  centerRow : c'.centerRow = c.centerRow
  centerCol : c'.centerCol = c.centerCol
  factionId : c'.factionId = c.factionId
  population : c'.population = c.population
  tiles : c'.tiles = c.tiles
  foodSurplus : c'.foodSurplus = c.foodSurplus
  queue : List.Forall₂ BuildQueueItem.Restored c.buildQueue.queue c'.buildQueue.queue
  accumulated : c'.buildQueue.accumulated = c.buildQueue.accumulated

/-- **A loaded state agrees with the saved one on everything that is written.** -/
structure Restored (s t : GameState) : Prop where
  turn : t.turn = s.turn
  nextCityId : t.nextCityId = s.nextCityId
  nextBuildingId : t.nextBuildingId = s.nextBuildingId
  height : t.map.height = s.map.height
  width : t.map.width = s.map.width
  terrain : ∀ row col, (t.map.tiles.get? row col).map (·.terrain) =
    (s.map.tiles.get? row col).map (·.terrain)
  cities : List.Forall₂ City.Restored s.cities t.cities
  buildings : t.buildings = s.buildings
  units : List.Forall₂ (fun p q => p.unit.Agrees q.unit) s.units.list t.units.list
  factionResources : t.factionResources = s.factionResources

/-! ### Entities -/

theorem queueItemFromProto_toProto {item : BuildQueueItem}
    (h : item.orderType = .building →
      ∃ f ∈ builtinFactories, item.factory = some f ∧ item.name = (f 0 0).name) :
    ∃ item', queueItemFromProto (queueItemToProto item) = .ok item' ∧ item.Restored item' := by
  cases ht : item.orderType with
  | unit =>
      have hproto : (queueItemToProto item).orderType = buildOrderUnit := by
        simp only [queueItemToProto, ht]
      refine ⟨_, by rw [queueItemFromProto, if_pos hproto], ?_⟩
      simp only [queueItemToProto, ht]
      exact ⟨rfl, rfl, rfl, rfl, ht.symm, fun hb => by rw [ht] at hb; simp at hb, fun _ => rfl⟩
  | building =>
      obtain ⟨f, hf, hfactory, hname⟩ := h ht
      have hproto : (queueItemToProto item).orderType ≠ buildOrderUnit := by
        simp only [queueItemToProto, ht]
        decide
      have hprotoName : (queueItemToProto item).name = (f 0 0).name := by
        simp only [queueItemToProto, ht, hname]
      refine ⟨_, by rw [queueItemFromProto, if_neg hproto, hprotoName,
        buildingFactoryByName_name hf]; rfl, ?_⟩
      simp only [queueItemToProto, ht]
      exact ⟨hname.symm, rfl, rfl, rfl, ht.symm, fun _ => hfactory.symm,
        fun hu => by rw [ht] at hu; simp at hu⟩

/-- The tiles of a set, written as two parallel arrays and read back. -/
theorem zipWith_tiles (tiles : List TileCoord) :
    List.zipWith TileCoord.mk (tiles.map (·.row)) (tiles.map (·.col)) = tiles := by
  induction tiles with
  | nil => rfl
  | cons t tiles ih => rw [List.map_cons, List.map_cons, List.zipWith_cons_cons, ih]

/-- The tiles of a city are loaded as they were saved. -/
theorem CityLoaded.tiles_eq {c c' : City} (h : CityLoaded (cityToProto c) c') :
    c'.tiles = c.tiles := by
  rw [h.tiles]
  refine (congrArg _ (zipWith_tiles c.tiles.toList)).trans ?_
  refine SortedSet.insertAll_toList fun a ha => ?_
  rw [SortedSet.mem_singleton] at ha
  rw [ha]
  exact c.center_mem

theorem cityFromProto_toProto {c : City} (hpop : 1 ≤ c.population)
    (horders : ∀ item ∈ c.buildQueue.queue, item.orderType = .building →
      ∃ f ∈ builtinFactories, item.factory = some f ∧ item.name = (f 0 0).name) :
    ∃ c', cityFromProto (cityToProto c) = .ok c' ∧ c.Restored c' := by
  have hitems : ∀ protoItem ∈ (cityToProto c).buildQueueItems,
      ∃ q, queueItemFromProto protoItem = .ok q := by
    intro protoItem hmem
    obtain ⟨item, hitem, rfl⟩ := List.mem_map.1 hmem
    obtain ⟨item', hok, -⟩ := queueItemFromProto_toProto (horders item hitem)
    exact ⟨item', hok⟩
  obtain ⟨c', hc'⟩ := (exists_cityFromProto (cityToProto c)).2
    ⟨hpop, by simp [cityToProto], hitems⟩
  have hload := cityLoaded_of_ok hc'
  refine ⟨c', hc', hload.id, hload.name, hload.centerRow, hload.centerCol, hload.factionId,
    hload.population, hload.tiles_eq, hload.foodSurplus, ?_, hload.accumulated⟩
  have hqueue := Fallible.mapM_eq_ok.1 hload.queue
  have hmap : (cityToProto c).buildQueueItems = c.buildQueue.queue.map queueItemToProto := rfl
  rw [hmap, List.forall₂_map_left_iff] at hqueue
  refine List.Forall₂.imp ?_ ((List.forall₂_and_left _ _).2 ⟨horders, hqueue⟩)
  intro item item' h
  obtain ⟨item'', hok, hrestored⟩ := queueItemFromProto_toProto h.1
  obtain rfl := Except.ok.inj (h.2.symm.trans hok)
  exact hrestored

theorem buildingFromProto_toProto (b : Building) :
    buildingFromProto (buildingToProto b) = .ok b := by
  refine buildingFromProto_eq_ok.2 ⟨by simp [buildingToProto], b.allowedTerrains.toList, ?_, ?_⟩
  · refine Fallible.mapM_eq_ok.2 ?_
    show List.Forall₂ _ (b.allowedTerrains.toList.map toProtoTerrain) _
    rw [List.forall₂_map_left_iff, List.forall₂_same]
    exact fun t _ => fromProtoTerrain_toProtoTerrain t
  · have htiles : SortedSet.empty.insertAll (List.zipWith TileCoord.mk
        (buildingToProto b).tileRows (buildingToProto b).tileCols) = b.occupiedTiles := by
      refine (congrArg _ (zipWith_tiles b.occupiedTiles.toList)).trans ?_
      exact SortedSet.insertAll_toList fun a ha => absurd ha (SortedSet.not_mem_empty a)
    have hterrains : SortedSet.empty.insertAll b.allowedTerrains.toList = b.allowedTerrains :=
      SortedSet.insertAll_toList fun a ha => absurd ha (SortedSet.not_mem_empty a)
    rw [htiles, hterrains]
    rfl

/-- A unit of a built-in type is written with a number that gives its template. -/
theorem unitToProto_ok {u : Unit} (h : u.template ∈ builtinTemplates) :
    ∃ protoUnit, unitToProto u = .ok protoUnit ∧
      templateOfType protoUnit.type = some u.template ∧
      loadedUnit protoUnit u.template = (((Unit.create u.row u.col u.template
        u.factionId.toInt32.toUInt32).setHealth u.health).setMovementRemaining
        u.movementRemaining).setExperience u.experience := by
  simp only [builtinTemplates, List.mem_cons, List.not_mem_nil, or_false] at h
  rw [unitToProto, toProtoUnitType]
  rcases h with h | h | h
  all_goals
    rw [h]
    exact ⟨_, rfl, rfl, rfl⟩

theorem builtinTemplate_nonneg {tmpl : UnitTemplate} (h : tmpl ∈ builtinTemplates) :
    0 ≤ tmpl.maxHealth ∧ 0 ≤ tmpl.movementRange := by
  simp only [builtinTemplates, List.mem_cons, List.not_mem_nil, or_false] at h
  rcases h with rfl | rfl | rfl <;> decide

/-- A unit of a built-in type is loaded as it was saved. -/
theorem unitFromProto_toProto {reg : UnitTypeRegistry}
    (hreg : UnitTypeRegistry.empty.registerDefaults = .ok reg) {u : Unit}
    (h : u.template ∈ builtinTemplates) :
    ∃ protoUnit u', unitToProto u = .ok protoUnit ∧ unitFromProto reg protoUnit = .ok u' ∧
      u.Agrees u' := by
  obtain ⟨protoUnit, hproto, htype, hload⟩ := unitToProto_ok h
  obtain ⟨hhealth, hmove⟩ := builtinTemplate_nonneg h
  refine ⟨protoUnit, _, hproto, (unitFromProto_eq_ok hreg).2 ⟨_, htype, rfl⟩, ?_⟩
  rw [hload]
  have hhealth_ge := u.health_ge
  have hhealth_le := u.health_le
  have hmove_ge := u.movement_ge
  have hmove_le := u.movement_le
  have hxp := u.experience_level.1
  have hexperience : u.experience = max 0 u.experience := by omega
  refine ⟨rfl, rfl, ?_, ?_, ?_, rfl, hexperience, ?_⟩
  · show u.health = max 0 (min u.health u.template.maxHealth)
    omega
  · show u.movementRemaining = max 0 (min u.movementRemaining u.template.movementRange)
    omega
  · show u.factionId = u.factionId.toInt32.toUInt32
    simp
  · exact Unit.level_eq_of_experience_eq hexperience

/-! ### The map -/

theorem mem_places {m : Map} {row col : ℤ} :
    (row, col) ∈ m.places ↔ InBounds row col m.height m.width := by
  rw [Map.places]
  rw [List.mem_flatMap]
  constructor
  · intro h
    obtain ⟨i, hi, h⟩ := h
    obtain ⟨j, hj, h⟩ := List.mem_map.1 h
    obtain ⟨rfl, rfl⟩ := Prod.mk.inj h
    rw [List.mem_range] at hi hj
    exact ⟨by omega, by omega, by omega, by omega⟩
  · intro h
    obtain ⟨h1, h2, h3, h4⟩ := h
    refine ⟨row.toNat, List.mem_range.2 (by omega), ?_⟩
    refine List.mem_map.2 ⟨col.toNat, List.mem_range.2 (by omega), ?_⟩
    rw [Int.toNat_of_nonneg h1, Int.toNat_of_nonneg h3]

theorem tileToProto_eq_ok {m : Map} {row col : ℤ} {protoTile : Proto.Tile} :
    tileToProto m (row, col) = .ok protoTile ↔
      ∃ t, m.tiles.get? row col = some t ∧
        protoTile = { row, col, terrain := toProtoTerrain t.terrain } := by
  rw [tileToProto]
  rw [Except.bind_eq_ok]
  simp only [Map.tile_eq_ok]
  refine exists_congr fun t => and_congr_right fun ht => ?_
  obtain ⟨-, hrow, hcol⟩ := TileGrid.place_of_get? ht
  rw [hrow, hcol]
  exact ⟨fun h => (Except.ok.inj h).symm, fun h => by rw [h]; rfl⟩

/-- The tiles that are written are those of the map, with their terrains. -/
theorem tilesToProto_ok (m : Map) :
    ∃ tiles, tilesToProto m = .ok tiles ∧
      (∀ t ∈ tiles, ∃ tile, m.tiles.get? t.row t.col = some tile ∧
        t.terrain = toProtoTerrain tile.terrain) ∧
      ∀ row col, InBounds row col m.height m.width → ∃ t ∈ tiles, t.row = row ∧ t.col = col := by
  have hok : ∀ place ∈ m.places, ∃ t, tileToProto m place = .ok t := by
    intro place hmem
    obtain ⟨tile, htile⟩ := m.tiles.exists_get? (mem_places.1 hmem)
    exact ⟨_, tileToProto_eq_ok.2 ⟨tile, htile, rfl⟩⟩
  obtain ⟨tiles, htiles⟩ := Fallible.exists_mapM_eq_ok.2 hok
  refine ⟨tiles, htiles, ?_, ?_⟩
  · refine Fallible.forall_of_mapM htiles fun place _ t ht => ?_
    obtain ⟨tile, hget, rfl⟩ := tileToProto_eq_ok.1 ht
    exact ⟨tile, hget, rfl⟩
  · intro row col hin
    obtain ⟨t, hmem, ht⟩ := Fallible.mem_of_mapM htiles (mem_places.2 hin)
    obtain ⟨tile, -, rfl⟩ := tileToProto_eq_ok.1 ht
    exact ⟨_, hmem, rfl, rfl⟩

/-- The terrain of every place of the map is written. -/
theorem terrainAt_tilesToProto {m : Map} {tiles : List Proto.Tile}
    (h : tilesToProto m = .ok tiles) {row col : ℤ} {tile : Tile}
    (ht : m.tiles.get? row col = some tile) : terrainAt tiles row col = some tile.terrain := by
  obtain ⟨tiles', htiles, hall, hplaces⟩ := tilesToProto_ok m
  obtain rfl := Except.ok.inj (h.symm.trans htiles)
  have hknown : ∀ t ∈ tiles, t.row = row → t.col = col →
      fromProtoTerrain t.terrain = .ok tile.terrain := by
    intro t hmem hrow hcol
    obtain ⟨tile', hget, hterrain⟩ := hall t hmem
    rw [hrow, hcol, ht] at hget
    obtain rfl := Option.some_inj.1 hget
    rw [hterrain]
    exact fromProtoTerrain_toProtoTerrain tile.terrain
  obtain ⟨t, hmem, hrow, hcol⟩ := hplaces row col (TileGrid.place_of_get? ht).1
  obtain ⟨x, hx⟩ := exists_terrainAt hmem ⟨hrow, hcol⟩ ⟨_, hknown t hmem hrow hcol⟩
  obtain ⟨t', hmem', hrow', hcol', hterrain⟩ := mem_of_terrainAt hx
  rw [hx, Except.ok.inj (hterrain.symm.trans (hknown t' hmem' hrow' hcol'))]

/-! ### The state -/

/-- A state whose entities the format can name has a message. -/
theorem exists_toMessage {s : GameState}
    (hunits : ∀ p ∈ s.units.list, p.unit.template ∈ builtinTemplates) :
    ∃ proto, toMessage s = .ok proto := by
  obtain ⟨tiles, htiles, -⟩ := tilesToProto_ok s.map
  have hok : ∀ p ∈ s.units.list, ∃ protoUnit, unitToProto p.unit = .ok protoUnit := by
    intro p hp
    obtain ⟨protoUnit, hproto, -⟩ := unitToProto_ok (hunits p hp)
    exact ⟨protoUnit, hproto⟩
  obtain ⟨units, hunits⟩ := Fallible.exists_mapM_eq_ok.2 hok
  rw [toMessage]
  rw [htiles, Except.ok_bind, hunits]
  exact ⟨_, rfl⟩

/-- A fresh map has the size asked for. -/
theorem Map.create_size {height width : ℤ} {draws : ℕ → TerrainType} {m : Map}
    (h : Map.create height width draws = .ok m) : m.height = height ∧ m.width = width := by
  rw [Map.create] at h
  split at h
  · obtain rfl := Except.ok.inj h
    exact ⟨rfl, rfl⟩
  · simp at h

/-- The parts of the message of a state can all be restored. -/
theorem exists_restoreMessage_toMessage {s : GameState} (h : Savable s) {proto : Proto.GameState}
    (hproto : toMessage s = .ok proto) (draws : ℕ → TerrainType) :
    ∃ t, restoreMessage draws proto = .ok t := by
  obtain ⟨tiles, htiles, hproto⟩ := Except.bind_eq_ok.1 hproto
  obtain ⟨units, hunits, hproto⟩ := Except.bind_eq_ok.1 hproto
  obtain rfl := Except.ok.inj hproto
  obtain ⟨reg, hreg, -⟩ := exists_registerDefaults
  obtain ⟨fresh, hfresh⟩ : ∃ fresh, Map.create s.map.height s.map.width draws = .ok fresh := by
    rw [Map.create]
    rw [dif_pos ⟨s.map.width_pos, s.map.height_pos⟩]
    exact ⟨_, rfl⟩
  obtain ⟨hheight, hwidth⟩ := Map.create_size hfresh
  refine (exists_restoreMessage hfresh hreg).2 ⟨?_, ?_, ?_, ?_⟩
  · refine (exists_restoreTiles tiles fresh).2 fun t ht => ?_
    obtain ⟨tiles', htiles', hall, -⟩ := tilesToProto_ok s.map
    obtain rfl := Except.ok.inj (htiles.symm.trans htiles')
    obtain ⟨tile, hget, hterrain⟩ := hall t ht
    rw [hheight, hwidth, hterrain]
    exact ⟨(TileGrid.place_of_get? hget).1, tile.terrain, fromProtoTerrain_toProtoTerrain _⟩
  · refine Fallible.exists_mapM_eq_ok.2 fun protoCity hmem => ?_
    obtain ⟨c, hc, rfl⟩ := List.mem_map.1 hmem
    obtain ⟨c', hok, -⟩ := cityFromProto_toProto (h.population c hc) (h.orders c hc)
    exact ⟨c', hok⟩
  · refine Fallible.exists_mapM_eq_ok.2 fun protoBuilding hmem => ?_
    obtain ⟨b, -, rfl⟩ := List.mem_map.1 hmem
    exact ⟨b, buildingFromProto_toProto b⟩
  · refine Fallible.exists_mapM_eq_ok.2 fun protoUnit hmem => ?_
    refine Fallible.forall_of_mapM (P := fun protoUnit => ∃ u, unitFromProto reg protoUnit = .ok u)
      hunits ?_ protoUnit hmem
    intro p hp protoUnit hproto
    obtain ⟨protoUnit', u, hproto', hok, -⟩ := unitFromProto_toProto hreg (h.units p hp)
    obtain rfl := Except.ok.inj (hproto.symm.trans hproto')
    exact ⟨u, hok⟩

/-- The buildings are loaded as they were saved. -/
theorem loaded_buildings {s t : GameState} {proto : Proto.GameState}
    (hproto : toMessage s = .ok proto) {draws : ℕ → TerrainType} {fresh : Map}
    {reg : UnitTypeRegistry} (hload : Loaded draws proto fresh reg t) :
    t.buildings = s.buildings := by
  obtain ⟨tiles, -, hproto⟩ := Except.bind_eq_ok.1 hproto
  obtain ⟨units, -, hproto⟩ := Except.bind_eq_ok.1 hproto
  obtain rfl := Except.ok.inj hproto
  have hbuildings := Fallible.mapM_eq_ok.1 hload.buildings
  rw [List.forall₂_map_left_iff] at hbuildings
  have heq : List.Forall₂ (· = ·) s.buildings t.buildings := by
    refine List.Forall₂.imp ?_ hbuildings
    intro b b' hb
    exact Except.ok.inj ((buildingFromProto_toProto b).symm.trans hb)
  rw [List.forall₂_eq_eq_eq] at heq
  exact heq.symm

/-- What the message of a state gives agrees with the state. -/
theorem restored_of_loaded {s t : GameState} (h : Savable s) {proto : Proto.GameState}
    (hproto : toMessage s = .ok proto) {draws : ℕ → TerrainType} {fresh : Map}
    {reg : UnitTypeRegistry} (hload : Loaded draws proto fresh reg t) : Restored s t := by
  have hbuildings := loaded_buildings hproto hload
  obtain ⟨tiles, htiles, hproto⟩ := Except.bind_eq_ok.1 hproto
  obtain ⟨units, hunits, hproto⟩ := Except.bind_eq_ok.1 hproto
  obtain rfl := Except.ok.inj hproto
  obtain ⟨hheight, hwidth⟩ := Map.create_size hload.created
  obtain ⟨hheight', hwidth', hget⟩ := restoreTiles_get? _ hload.map
  refine ⟨hload.turn, hload.nextCityId, hload.nextBuildingId, hheight'.trans hheight,
    hwidth'.trans hwidth, ?_, ?_, hbuildings, ?_, hload.factionResources⟩
  · intro row col
    rw [hget]
    cases ht : s.map.tiles.get? row col with
    | some tile =>
        have hin : InBounds row col fresh.height fresh.width := by
          rw [hheight, hwidth]
          exact (TileGrid.place_of_get? ht).1
        obtain ⟨drawn, hdrawn⟩ := fresh.tiles.exists_get? hin
        rw [hdrawn]
        simp only [Option.map_some, terrainAt_tilesToProto htiles ht]
        rfl
    | none =>
        cases hdrawn : fresh.tiles.get? row col with
        | none => rfl
        | some drawn =>
            have hin := (TileGrid.place_of_get? hdrawn).1
            rw [hheight, hwidth] at hin
            obtain ⟨tile, htile⟩ := s.map.tiles.exists_get? hin
            rw [ht] at htile
            simp at htile
  · have hcities := Fallible.mapM_eq_ok.1 hload.cities
    rw [List.forall₂_map_left_iff] at hcities
    refine List.Forall₂.imp ?_ ((List.forall₂_and_left (p := fun c => c ∈ s.cities) _ _).2
      ⟨fun c hc => hc, hcities⟩)
    intro c c' hc
    obtain ⟨c'', hok, hrestored⟩ := cityFromProto_toProto (h.population c hc.1) (h.orders c hc.1)
    obtain rfl := Except.ok.inj (hc.2.symm.trans hok)
    exact hrestored
  · have hwritten := Fallible.mapM_eq_ok.1 hunits
    have hread := Fallible.mapM_eq_ok.1 hload.units
    rw [List.forall₂_map_right_iff] at hread
    refine Fallible.forall₂_comp hwritten hread ?_
    intro p hp protoUnit q hproto hq
    obtain ⟨protoUnit', u, hproto', hok, hagrees⟩ :=
      unitFromProto_toProto hload.types (h.units p hp)
    obtain rfl := Except.ok.inj (hproto.symm.trans hproto')
    obtain rfl := Except.ok.inj (hq.symm.trans hok)
    exact hagrees

/-- The message of a state has the size of its map. -/
theorem toMessage_size {s : GameState} {proto : Proto.GameState} (h : toMessage s = .ok proto) :
    proto.map.height = s.map.height ∧ proto.map.width = s.map.width := by
  obtain ⟨tiles, -, h⟩ := Except.bind_eq_ok.1 h
  obtain ⟨units, -, h⟩ := Except.bind_eq_ok.1 h
  obtain rfl := Except.ok.inj h
  exact ⟨rfl, rfl⟩

/-- Loading what a lossless codec has written restores the message. -/
theorem deserialize_of_toMessage {codec : Codec} {s : GameState} {proto : Proto.GameState}
    (hproto : toMessage s = .ok proto) {data : List UInt8} (hread : codec.parse data = some proto)
    (draws : ℕ → TerrainType) :
    deserializeGameState codec draws data = restoreMessage draws proto := by
  obtain ⟨hheight, hwidth⟩ := toMessage_size hproto
  have hheight_pos := s.map.height_pos
  have hwidth_pos := s.map.width_pos
  have hne : data ≠ [] := by
    intro hnil
    rw [hnil, codec.parse_nil, Option.some_inj] at hread
    rw [← hread] at hheight
    have hzero : (0 : ℤ) = s.map.height := hheight
    omega
  unfold deserializeGameState ofMessage
  rw [if_neg hne, hread]
  dsimp only
  rw [if_neg (by rw [hheight, hwidth]; omega)]

/-- **What is saved is loaded again.** -/
theorem deserialize_serialize (codec : Codec) (draws : ℕ → TerrainType) (s : GameState)
    (h : Savable s) (hcodec : ∀ proto, toMessage s = .ok proto → codec.Lossless proto) :
    ∃ data, serializeGameState codec s = .ok data ∧
      ∃ t, deserializeGameState codec draws data = .ok t ∧ Restored s t := by
  obtain ⟨proto, hproto⟩ := exists_toMessage h.units
  obtain ⟨data, hwrite, hread⟩ := hcodec proto hproto
  obtain ⟨t, hok⟩ := exists_restoreMessage_toMessage h hproto draws
  obtain ⟨fresh, reg, hload⟩ := loaded_of_ok hok
  refine ⟨data, ?_, t, ?_, restored_of_loaded h hproto hload⟩
  · rw [serializeGameState]
    rw [hproto, Except.ok_bind, hwrite]
    rfl
  · rw [deserialize_of_toMessage hproto hread]
    exact hok

/-- What is loaded after saving is what the message of the state gives. -/
theorem loaded_of_saved {codec : Codec} {draws : ℕ → TerrainType} {s t : GameState}
    (hcodec : ∀ proto, toMessage s = .ok proto → codec.Lossless proto) {data : List UInt8}
    (hsave : serializeGameState codec s = .ok data)
    (hload : deserializeGameState codec draws data = .ok t) :
    ∃ proto fresh reg, toMessage s = .ok proto ∧ Loaded draws proto fresh reg t := by
  obtain ⟨proto, hproto, hsave⟩ := Except.bind_eq_ok.1 hsave
  obtain ⟨data', hwrite, hread⟩ := hcodec proto hproto
  rw [hwrite] at hsave
  obtain rfl := Except.ok.inj hsave
  rw [deserialize_of_toMessage hproto hread] at hload
  obtain ⟨fresh, reg, h⟩ := loaded_of_ok hload
  exact ⟨proto, fresh, reg, hproto, h⟩

/-- A town that builds a farm, and a warrior, on a map of one tile. -/
def hamlet : GameState :=
  let empty : GameState :=
    { map := { height := 1, width := 1, height_pos := by decide, width_pos := by decide
               tiles := generateTiles 1 1 fun _ => .plains }
      fog := FogOfWar.create 1 1 }
  let town := (City.create "Rome" 0 0 1).setBuildQueue (BuildQueue.enqueue {} makeFarm 0 0)
  ((empty.addCity town).1.addUnit (Unit.create 0 0 warriorTemplate 1)).1

def hamletMessage : Proto.GameState where
  turn := 1
  map := { width := 1, height := 1, tiles := [{ row := 0, col := 0, terrain := 0 }] }
  cities :=
    [{ id := 1, name := "Rome", factionId := 1, population := 1, tileRows := [0], tileCols := [0]
       buildQueueItems := [{ name := "Farm", productionCost := 20 }] }]
  units := [{ type := 1, health := 100, movementRemaining := 2, factionId := 1 }]
  schemaVersion := 1
  nextCityId := 2
  nextBuildingId := 1

/-- The message in the wire format: each field by number and type, in order, without defaults. -/
def hamletBytes : List UInt8 :=
  [0x08, 1, 0x12, 6, 0x08, 1, 0x10, 1, 0x1A, 0] ++
    [0x1A, 28, 0x08, 1, 0x12, 4, 0x52, 0x6F, 0x6D, 0x65, 0x28, 1, 0x30, 1, 0x3A, 1, 0, 0x42,
      1, 0] ++
    [0x4A, 8, 0x0A, 4, 0x46, 0x61, 0x72, 0x6D, 0x10, 20] ++
    [0x2A, 8, 0x10, 1, 0x28, 100, 0x30, 2, 0x38, 1, 0x32, 0, 0x38, 1, 0x40, 2, 0x48, 1]

/-- The codec, as far as this message goes. -/
def hamletCodec : Codec where
  serialize message := if message = hamletMessage then some hamletBytes else none
  parse data :=
    if data = hamletBytes then some hamletMessage else if data = [] then some {} else none
  parse_nil := by decide

/-- The hamlet is loaded as it was saved. -/
theorem hamlet_restored :
    ∃ data, serializeGameState hamletCodec hamlet = .ok data ∧
      ∃ t, deserializeGameState hamletCodec (fun _ => .water) data = .ok t ∧ Restored hamlet t := by
  refine deserialize_serialize hamletCodec _ hamlet ⟨?_, ?_, ?_⟩ ?_
  · decide
  · intro c hc item hitem _
    obtain rfl := List.mem_singleton.1 hc
    obtain rfl := List.mem_singleton.1 hitem
    exact ⟨makeFarm, by simp [builtinFactories], rfl, rfl⟩
  · intro c hc
    obtain rfl := List.mem_singleton.1 hc
    decide
  · intro proto hproto
    have hmessage : toMessage hamlet = .ok hamletMessage := by decide
    obtain rfl := Except.ok.inj (hmessage.symm.trans hproto)
    exact ⟨hamletBytes, by simp [hamletCodec], by simp [hamletCodec]⟩

end My4X
