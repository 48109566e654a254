/-
**Which bytes are loaded safely.**

Loading is meant to throw a `std::runtime_error` or to return a well-formed state.  It checks that
the data is there, that it parses and that the map has a size; everything after that it takes for
granted.  So once a message with a map is parsed, loading is safe exactly when the message itself is
well formed.

Main definitions:

* `My4X.WellFormed` — the entities of a state lie in its map, whose terrain the message gives;
* `My4X.LoadsRobustly` — loading throws a `std::runtime_error` or returns a well-formed state;
* `My4X.GoodMessage` — the condition on a message.

Main results:

* `My4X.restoreMessage_avoids` — after parsing no `std::runtime_error` is thrown;
* `My4X.loadsRobustly_iff` — **when loading is safe**;
* `My4X.empty_city_not_robust` — a city without a population.
-/

import My4X.RoundTrip

set_option relaxedAutoImplicit false
set_option autoImplicit false

namespace My4X

open Fallible

/-! ### Well-formed states and messages -/

/-- **A loaded state is well formed**: every tile, city, building and unit lies in the map, every
tile has a terrain that the message gives it, and every city is populated. -/
structure WellFormed (proto : Proto.GameState) (t : GameState) : Prop where
  tiles : ∀ tile ∈ t.map.tiles.allTiles, InBounds tile.row tile.col t.map.height t.map.width
  terrain : ∀ row col tile, t.map.tiles.get? row col = some tile →
    ∃ protoTile ∈ proto.map.tiles, protoTile.row = row ∧ protoTile.col = col ∧
      fromProtoTerrain protoTile.terrain = .ok tile.terrain
  cities : ∀ c ∈ t.cities, ∀ k ∈ c.tiles, InBounds k.row k.col t.map.height t.map.width
  population : ∀ c ∈ t.cities, 1 ≤ c.population
  buildings : ∀ b ∈ t.buildings, ∀ k ∈ b.occupiedTiles,
    InBounds k.row k.col t.map.height t.map.width
  units : ∀ p ∈ t.units.list, InBounds p.unit.row p.unit.col t.map.height t.map.width

/-- **Loading is robust** on some data: it throws a `std::runtime_error`, or returns a well-formed
state. -/
def LoadsRobustly (codec : Codec) (draws : ℕ → TerrainType) (data : List UInt8) : Prop :=
  (∃ what, deserializeGameState codec draws data = .error (.runtimeError what)) ∨
    ∃ proto t, codec.parse data = some proto ∧ deserializeGameState codec draws data = .ok t ∧
      WellFormed proto t

/-- The names of the buildings that can be queued. -/
def buildingNames : List String :=
  ["City Center", "Farm", "Mine", "Lumber Mill", "Barracks", "Market"]

/-- The tiles of two parallel arrays are all there and lie in a map. -/
structure GoodTiles (height width : ℤ) (rows cols : List ℤ) : Prop where
  length_le : rows.length ≤ cols.length
  inBounds : ∀ k ∈ List.zipWith TileCoord.mk rows cols, InBounds k.row k.col height width

/-- The city of a message is populated, lies in the map, and queues buildings that are known. -/
structure GoodCity (height width : ℤ) (c : Proto.City) : Prop where
  population : 1 ≤ c.population
  center : InBounds c.centerRow c.centerCol height width
  tiles : GoodTiles height width c.tileRows c.tileCols
  orders : ∀ item ∈ c.buildQueueItems, item.orderType ≠ buildOrderUnit → item.name ∈ buildingNames

/-- The building of a message lies in the map, and its terrains are known. -/
structure GoodBuilding (height width : ℤ) (b : Proto.Building) : Prop where
  tiles : GoodTiles height width b.tileRows b.tileCols
  terrains : ∀ n ∈ b.allowedTerrains, 0 ≤ n ∧ n ≤ 6

/-- The unit of a message is of a known type and stands in the map. -/
structure GoodUnit (height width : ℤ) (u : Proto.Unit) : Prop where
  type : 1 ≤ u.type ∧ u.type ≤ 3
  inBounds : InBounds u.row u.col height width

/-- **A message is good**: its tiles lie in the map, cover it and have known terrains, and its
entities are good. -/
structure GoodMessage (proto : Proto.GameState) : Prop where
  tiles : ∀ t ∈ proto.map.tiles, InBounds t.row t.col proto.map.height proto.map.width ∧
    0 ≤ t.terrain ∧ t.terrain ≤ 6
  cover : ∀ row col, InBounds row col proto.map.height proto.map.width →
    ∃ t ∈ proto.map.tiles, t.row = row ∧ t.col = col
  cities : ∀ c ∈ proto.cities, GoodCity proto.map.height proto.map.width c
  buildings : ∀ b ∈ proto.buildings, GoodBuilding proto.map.height proto.map.width b
  units : ∀ u ∈ proto.units, GoodUnit proto.map.height proto.map.width u

/-! ### The tables -/

theorem exists_fromProtoTerrain (n : ℤ) :
    (∃ terrain, fromProtoTerrain n = .ok terrain) ↔ 0 ≤ n ∧ n ≤ 6 := by
  constructor
  · intro h
    obtain ⟨terrain, h⟩ := h
    rw [fromProtoTerrain] at h
    split_ifs at h <;> omega
  · intro h
    have hn : n = 0 ∨ n = 1 ∨ n = 2 ∨ n = 3 ∨ n = 4 ∨ n = 5 ∨ n = 6 := by omega
    rcases hn with rfl | rfl | rfl | rfl | rfl | rfl | rfl <;> exact ⟨_, rfl⟩

theorem exists_buildingFactoryByName (name : String) :
    (∃ f, buildingFactoryByName name = .ok f) ↔ name ∈ buildingNames := by
  simp only [buildingNames, List.mem_cons, List.not_mem_nil, or_false]
  constructor
  · intro h
    obtain ⟨f, h⟩ := h
    rw [buildingFactoryByName] at h
    split_ifs at h <;> tauto
  · intro h
    rcases h with rfl | rfl | rfl | rfl | rfl | rfl <;> exact ⟨_, rfl⟩

theorem isSome_templateOfType (type : ℤ) :
    (templateOfType type).isSome = true ↔ 1 ≤ type ∧ type ≤ 3 := by
  rw [templateOfType]
  split_ifs <;> simp <;> omega

/-! ### Errors after parsing -/

/-- A `std::runtime_error`. -/
def Fault.IsRuntimeError (e : Fault) : Prop := ∃ what, e = .runtimeError what

theorem tile_avoids (m : Map) (row col : ℤ) : Avoids Fault.IsRuntimeError (m.tile row col) := by
  rw [Map.tile]
  split
  · exact Avoids.ok _
  · exact Avoids.error (by simp [Fault.IsRuntimeError])

theorem fromProtoTerrain_avoids (n : ℤ) : Avoids Fault.IsRuntimeError (fromProtoTerrain n) := by
  rw [fromProtoTerrain]
  split_ifs
  all_goals first | exact Avoids.ok _ | exact Avoids.error (by simp [Fault.IsRuntimeError])

theorem restoreTile_avoids (m : Map) (t : Proto.Tile) :
    Avoids Fault.IsRuntimeError (restoreTile m t) := by
  refine (tile_avoids m _ _).bind fun _ _ => (fromProtoTerrain_avoids _).bind fun _ _ => ?_
  rw [Map.setTerrain]
  split
  · exact Avoids.ok _
  · exact Avoids.error (by simp [Fault.IsRuntimeError])

theorem parallelTiles_avoids (rows : List ℤ) :
    ∀ cols, Avoids Fault.IsRuntimeError (parallelTiles rows cols) := by
  induction rows with
  | nil => intro cols; exact Avoids.ok _
  | cons row rows ih =>
      intro cols
      cases cols with
      | nil => exact Avoids.error (by simp [Fault.IsRuntimeError])
      | cons col cols => exact (ih cols).bind fun _ _ => Avoids.ok _

theorem queueItemFromProto_avoids (item : Proto.BuildQueueItem) :
    Avoids Fault.IsRuntimeError (queueItemFromProto item) := by
  rw [queueItemFromProto]
  split
  · exact Avoids.ok _
  · refine Avoids.bind ?_ fun _ _ => Avoids.ok _
    rw [buildingFactoryByName]
    split_ifs
    all_goals first | exact Avoids.ok _ | exact Avoids.error (by simp [Fault.IsRuntimeError])

theorem cityFromProto_avoids (c : Proto.City) :
    Avoids Fault.IsRuntimeError (cityFromProto c) := by
  rw [cityFromProto]
  refine Avoids.bind ?_ fun _ _ => (parallelTiles_avoids _ _).bind fun _ _ =>
    (Avoids.mapM fun item _ => queueItemFromProto_avoids item).bind fun _ _ => Avoids.ok _
  rw [City.growPopulation]
  split
  · exact Avoids.ok _
  · exact Avoids.error (by simp [Fault.IsRuntimeError])

theorem buildingFromProto_avoids (b : Proto.Building) :
    Avoids Fault.IsRuntimeError (buildingFromProto b) :=
  (parallelTiles_avoids _ _).bind fun _ _ =>
    (Avoids.mapM fun n _ => fromProtoTerrain_avoids n).bind fun _ _ => Avoids.ok _

theorem unitFromProto_avoids (reg : UnitTypeRegistry) (u : Proto.Unit) :
    Avoids Fault.IsRuntimeError (unitFromProto reg u) := by
  refine Avoids.bind ?_ fun key _ => Avoids.bind ?_ fun _ _ => Avoids.ok _
  · rw [templateKeyFromProtoType]
    split_ifs
    all_goals first | exact Avoids.ok _ | exact Avoids.error (by simp [Fault.IsRuntimeError])
  · rw [UnitTypeRegistry.getTemplate]
    split
    · exact Avoids.ok _
    · exact Avoids.error (by simp [Fault.IsRuntimeError])

/-- **After parsing no `std::runtime_error` is thrown.** -/
theorem restoreMessage_avoids (draws : ℕ → TerrainType) (proto : Proto.GameState) :
    Avoids Fault.IsRuntimeError (restoreMessage draws proto) := by
  obtain ⟨reg, hreg, -⟩ := exists_registerDefaults
  rw [restoreMessage]
  refine Avoids.bind ?_ fun s _ => ?_
  · rw [GameState.create, Map.create]
    split
    · exact Avoids.ok _
    · exact Avoids.error (by simp [Fault.IsRuntimeError])
  · rw [hreg, Except.ok_bind]
    refine (Avoids.foldlM (fun m t _ => restoreTile_avoids m t) _).bind fun _ _ => ?_
    refine Avoids.bind ?_ fun _ _ => Avoids.bind ?_ fun _ _ => Avoids.bind ?_ fun _ _ =>
      Avoids.ok _
    · rw [restoreCities_eq]
      exact (Avoids.mapM fun c _ => cityFromProto_avoids c).bind fun _ _ => Avoids.ok _
    · rw [restoreBuildings_eq]
      exact (Avoids.mapM fun b _ => buildingFromProto_avoids b).bind fun _ _ => Avoids.ok _
    · rw [restoreUnits_eq]
      exact (Avoids.mapM fun u _ => unitFromProto_avoids reg u).bind fun _ _ => Avoids.ok _

/-! ### Loading a message -/

/-- The tiles of a footprint, with a first one, lie in the map. -/
theorem goodTiles_iff {height width : ℤ} {rows cols : List ℤ} (h : rows.length ≤ cols.length)
    (s : SortedSet TileCoord) :
    (∀ k ∈ s.insertAll (List.zipWith TileCoord.mk rows cols), InBounds k.row k.col height width) ↔
      GoodTiles height width rows cols ∧ ∀ k ∈ s, InBounds k.row k.col height width := by
  constructor
  · intro hall
    refine ⟨⟨h, fun k hk => hall k ?_⟩, fun k hk => hall k ?_⟩
    · exact SortedSet.mem_insertAll.2 (Or.inl hk)
    · exact SortedSet.mem_insertAll.2 (Or.inr hk)
  · intro hgood k hk
    rcases SortedSet.mem_insertAll.1 hk with hk | hk
    · exact hgood.1.inBounds k hk
    · exact hgood.2 k hk

/-- The size of a loaded map is the one the message gives. -/
theorem Loaded.size {draws : ℕ → TerrainType} {proto : Proto.GameState} {fresh : Map}
    {reg : UnitTypeRegistry} {t : GameState} (h : Loaded draws proto fresh reg t) :
    t.map.height = proto.map.height ∧ t.map.width = proto.map.width := by
  obtain ⟨hheight, hwidth⟩ := Map.create_size h.created
  obtain ⟨hheight', hwidth', -⟩ := restoreTiles_get? _ h.map
  exact ⟨hheight'.trans hheight, hwidth'.trans hwidth⟩

/-- A good message is loaded. -/
theorem exists_restoreMessage_of_good (draws : ℕ → TerrainType) {proto : Proto.GameState}
    (hheight : 0 < proto.map.height) (hwidth : 0 < proto.map.width) (h : GoodMessage proto) :
    ∃ t, restoreMessage draws proto = .ok t := by
  obtain ⟨reg, hreg, -⟩ := exists_registerDefaults
  obtain ⟨fresh, hfresh⟩ : ∃ fresh, Map.create proto.map.height proto.map.width draws =
    .ok fresh := by
    rw [Map.create]
    rw [dif_pos ⟨hwidth, hheight⟩]
    exact ⟨_, rfl⟩
  obtain ⟨hfh, hfw⟩ := Map.create_size hfresh
  refine (exists_restoreMessage hfresh hreg).2 ⟨?_, ?_, ?_, ?_⟩
  · refine (exists_restoreTiles _ fresh).2 fun t ht => ?_
    rw [hfh, hfw]
    exact ⟨(h.tiles t ht).1, (exists_fromProtoTerrain _).2 (h.tiles t ht).2⟩
  · refine exists_mapM_eq_ok.2 fun c hc => (exists_cityFromProto c).2 ?_
    have hcity := h.cities c hc
    refine ⟨hcity.population, hcity.tiles.length_le, fun item hitem => ?_⟩
    exact (exists_queueItemFromProto item).2 fun hne =>
      (exists_buildingFactoryByName _).2 (hcity.orders item hitem hne)
  · refine exists_mapM_eq_ok.2 fun b hb => (exists_buildingFromProto b).2 ?_
    have hbuilding := h.buildings b hb
    exact ⟨hbuilding.tiles.length_le, fun n hn =>
      (exists_fromProtoTerrain n).2 (hbuilding.terrains n hn)⟩
  · refine exists_mapM_eq_ok.2 fun u hu => (exists_unitFromProto hreg u).2 ?_
    exact (isSome_templateOfType _).2 (h.units u hu).type

/-- A loaded city lies in the map when the city of the message is good. -/
theorem CityLoaded.good_iff {height width : ℤ} {protoCity : Proto.City} {c : City}
    (h : CityLoaded protoCity c) :
    GoodCity height width protoCity ↔ ∀ k ∈ c.tiles, InBounds k.row k.col height width := by
  rw [h.tiles, goodTiles_iff h.length_le]
  constructor
  · intro hgood
    refine ⟨hgood.tiles, fun k hk => ?_⟩
    rw [SortedSet.mem_singleton.1 hk]
    exact hgood.center
  · intro hgood
    refine ⟨h.population_pos, hgood.2 _ (SortedSet.mem_singleton.2 rfl), hgood.1,
      fun item hitem hne => ?_⟩
    have hok := exists_mapM_eq_ok.1 ⟨_, h.queue⟩ item hitem
    exact (exists_buildingFactoryByName _).1 ((exists_queueItemFromProto item).1 hok hne)

/-- A loaded building lies in the map when the building of the message is good. -/
theorem BuildingLoaded.good_iff {height width : ℤ} {protoBuilding : Proto.Building} {b : Building}
    (h : BuildingLoaded protoBuilding b) :
    GoodBuilding height width protoBuilding ↔
      ∀ k ∈ b.occupiedTiles, InBounds k.row k.col height width := by
  obtain ⟨hlen, terrains, hterrains, rfl⟩ := h
  dsimp only
  rw [goodTiles_iff hlen]
  constructor
  · intro hgood
    exact ⟨hgood.tiles, fun k hk => absurd hk (SortedSet.not_mem_empty k)⟩
  · intro hgood
    refine ⟨hgood.1, fun n hn => ?_⟩
    exact (exists_fromProtoTerrain n).1 (exists_mapM_eq_ok.1 ⟨_, hterrains⟩ n hn)

/-- A loaded unit stands in the map when the unit of the message is good. -/
theorem goodUnit_iff {reg : UnitTypeRegistry}
    (hreg : UnitTypeRegistry.empty.registerDefaults = .ok reg) {height width : ℤ}
    {protoUnit : Proto.Unit} {u : Unit} (h : unitFromProto reg protoUnit = .ok u) :
    GoodUnit height width protoUnit ↔ InBounds u.row u.col height width := by
  have htype := (isSome_templateOfType _).1 ((exists_unitFromProto hreg protoUnit).1 ⟨u, h⟩)
  obtain ⟨tmpl, -, rfl⟩ := (unitFromProto_eq_ok hreg).1 h
  exact ⟨fun hgood => hgood.inBounds, fun hin => ⟨htype, hin⟩⟩

/-- The terrain of a loaded map is given by the message when its tiles cover the map. -/
theorem Loaded.terrain_iff {draws : ℕ → TerrainType} {proto : Proto.GameState} {fresh : Map}
    {reg : UnitTypeRegistry} {t : GameState} (h : Loaded draws proto fresh reg t) :
    (∀ row col tile, t.map.tiles.get? row col = some tile →
        ∃ protoTile ∈ proto.map.tiles, protoTile.row = row ∧ protoTile.col = col ∧
          fromProtoTerrain protoTile.terrain = .ok tile.terrain) ↔
      ∀ row col, InBounds row col proto.map.height proto.map.width →
        ∃ protoTile ∈ proto.map.tiles, protoTile.row = row ∧ protoTile.col = col := by
  obtain ⟨hheight, hwidth⟩ := h.size
  obtain ⟨-, -, hget⟩ := restoreTiles_get? _ h.map
  have hknown := (exists_restoreTiles _ fresh).1 ⟨_, h.map⟩
  constructor
  · intro hterrain row col hin
    rw [← hheight, ← hwidth] at hin
    obtain ⟨tile, htile⟩ := t.map.tiles.exists_get? hin
    obtain ⟨protoTile, hmem, hrow, hcol, -⟩ := hterrain row col tile htile
    exact ⟨protoTile, hmem, hrow, hcol⟩
  · intro hcover row col tile htile
    have hin := (TileGrid.place_of_get? htile).1
    rw [hheight, hwidth] at hin
    obtain ⟨protoTile, hmem, hplace⟩ := hcover row col hin
    obtain ⟨x, hx⟩ := exists_terrainAt hmem hplace (hknown protoTile hmem).2
    rw [hget, Option.map_eq_some_iff] at htile
    obtain ⟨drawn, -, rfl⟩ := htile
    simp only [hx]
    exact mem_of_terrainAt hx

/-- **A loaded state is well formed exactly when its message is good.** -/
theorem Loaded.wellFormed_iff {draws : ℕ → TerrainType} {proto : Proto.GameState} {fresh : Map}
    {reg : UnitTypeRegistry} {t : GameState} (h : Loaded draws proto fresh reg t) :
    WellFormed proto t ↔ GoodMessage proto := by
  obtain ⟨hheight, hwidth⟩ := h.size
  obtain ⟨hfh, hfw⟩ := Map.create_size h.created
  have htiles := (exists_restoreTiles _ fresh).1 ⟨_, h.map⟩
  rw [hfh, hfw] at htiles
  have hcities := forall_iff_of_mapM (P := GoodCity proto.map.height proto.map.width) h.cities
    fun protoCity c hc => (cityLoaded_of_ok hc).good_iff
  have hbuildings := forall_iff_of_mapM (P := GoodBuilding proto.map.height proto.map.width)
    h.buildings fun protoBuilding b hb => (buildingFromProto_eq_ok.1 hb).good_iff
  have hunits := forall_iff_of_mapM (P := GoodUnit proto.map.height proto.map.width) h.units
    fun protoUnit u hu => goodUnit_iff h.types hu
  rw [List.forall_mem_map] at hunits
  constructor
  · intro hwf
    refine ⟨fun t ht => ⟨(htiles t ht).1, (exists_fromProtoTerrain _).1 (htiles t ht).2⟩,
      h.terrain_iff.1 hwf.terrain, hcities.2 ?_, hbuildings.2 ?_, hunits.2 ?_⟩
    · rw [← hheight, ← hwidth]
      exact hwf.cities
    · rw [← hheight, ← hwidth]
      exact hwf.buildings
    · rw [← hheight, ← hwidth]
      exact hwf.units
  · intro hgood
    refine ⟨fun tile htile => (TileGrid.place_of_get? (TileGrid.mem_allTiles.1 htile)).1,
      h.terrain_iff.2 hgood.cover, ?_, ?_, ?_, ?_⟩
    · rw [hheight, hwidth]
      exact hcities.1 hgood.cities
    · refine forall_of_mapM h.cities fun protoCity _ c hc => ?_
      have hload := cityLoaded_of_ok hc
      rw [hload.population]
      exact hload.population_pos
    · rw [hheight, hwidth]
      exact hbuildings.1 hgood.buildings
    · rw [hheight, hwidth]
      exact hunits.1 hgood.units

/-! ### Loading data -/

/-- **When loading is safe**: there is no data, or it does not parse, or the map has no size, or the
message is good. -/
theorem loadsRobustly_iff (codec : Codec) (draws : ℕ → TerrainType) (data : List UInt8) :
    LoadsRobustly codec draws data ↔
      data = [] ∨ codec.parse data = none ∨ ∃ proto, codec.parse data = some proto ∧
        (proto.map.height ≤ 0 ∨ proto.map.width ≤ 0 ∨ GoodMessage proto) := by
  by_cases hdata : data = []
  · refine iff_of_true (Or.inl ⟨"Cannot deserialize empty data", ?_⟩) (Or.inl hdata)
    rw [deserializeGameState, if_pos hdata]
  cases hparse : codec.parse data with
  | none =>
      refine iff_of_true (Or.inl ⟨"Failed to deserialize GameState", ?_⟩) (Or.inr (Or.inl rfl))
      rw [deserializeGameState, if_neg hdata, hparse]
  | some proto =>
      have hload : deserializeGameState codec draws data = ofMessage draws proto := by
        rw [deserializeGameState, if_neg hdata, hparse]
      by_cases hsize : proto.map.height ≤ 0 ∨ proto.map.width ≤ 0
      · refine iff_of_true (Or.inl ⟨"Invalid map dimensions in serialized data", ?_⟩)
          (Or.inr (Or.inr ⟨proto, rfl, by tauto⟩))
        rw [hload, ofMessage, if_pos hsize]
      have hrestore : deserializeGameState codec draws data = restoreMessage draws proto := by
        rw [hload, ofMessage, if_neg hsize]
      constructor
      · intro h
        refine Or.inr (Or.inr ⟨proto, rfl, Or.inr (Or.inr ?_)⟩)
        rcases h with ⟨what, herror⟩ | ⟨proto', t, hproto', hok, hwf⟩
        · rw [hrestore] at herror
          exact absurd ⟨what, rfl⟩ (restoreMessage_avoids draws proto _ herror)
        · obtain rfl := Option.some_inj.1 (hparse.symm.trans hproto')
          rw [hrestore] at hok
          obtain ⟨fresh, reg, hloaded⟩ := loaded_of_ok hok
          exact hloaded.wellFormed_iff.1 hwf
      · intro h
        have hgood : GoodMessage proto := by
          rcases h with h | h | ⟨proto', hproto', h⟩
          · exact absurd h hdata
          · simp at h
          · obtain rfl := Option.some_inj.1 hproto'
            tauto
        rw [not_or, not_le, not_le] at hsize
        obtain ⟨t, hok⟩ := exists_restoreMessage_of_good draws hsize.1 hsize.2 hgood
        obtain ⟨fresh, reg, hloaded⟩ := loaded_of_ok hok
        exact Or.inr ⟨proto, t, hparse, by rw [hrestore]; exact hok, hloaded.wellFormed_iff.2 hgood⟩

/-- A map of one tile, with a city all of whose fields have their defaults. -/
def emptyCityBytes : List UInt8 := [0x12, 6, 0x08, 1, 0x10, 1, 0x1A, 0, 0x1A, 0]

/-- The codec, as far as these bytes go. -/
def emptyCityCodec : Codec where
  serialize _ := none
  parse data :=
    if data = emptyCityBytes then
      some { map := { width := 1, height := 1, tiles := [{}] }, cities := [{}] }
    else if data = [] then some {} else none
  parse_nil := by decide

/-- **A city without a population** trips an assertion. -/
theorem empty_city_not_robust :
    deserializeGameState emptyCityCodec (fun _ => .plains) emptyCityBytes = .error .assertion ∧
      ¬ LoadsRobustly emptyCityCodec (fun _ => .plains) emptyCityBytes := by
  have hfault : deserializeGameState emptyCityCodec (fun _ => .plains) emptyCityBytes =
      .error .assertion := rfl
  refine ⟨hfault, fun h => ?_⟩
  rcases h with ⟨what, herror⟩ | ⟨proto, t, -, hok, -⟩
  · rw [hfault] at herror
    simp at herror
  · rw [hfault] at hok
    simp at hok

end My4X
