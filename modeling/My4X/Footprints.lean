/-
**The registry of cities and buildings.**

The registry tells for a tile which city and which building it belongs to.  Adding an entity
registers one tile of it, restoring one registers all of them, and removing one unregisters one
tile.  This module says what each operation does to the registry in the terms of an owner index, and
what the registry answers after entities with disjoint footprints are restored.

Main definitions:

* `My4X.GameState.cityFootprints`, `My4X.GameState.buildingFootprints` — the entities with their
  tiles;
* `My4X.GameState.Covered` — the registry answers for exactly the tiles of the entities;
* `My4X.GameState.Disjoint` — no two cities, and no two buildings, share a tile.

Main results:

* `My4X.GameState.covered_iff` — the registry in the terms of an owner index;
* `My4X.GameState.restoreCity_registry`, `My4X.GameState.restoreBuilding_registry` — restoring
  claims the whole footprint.
-/

import My4X.GameState

set_option relaxedAutoImplicit false
set_option autoImplicit false

namespace My4X

namespace GameState

/-- The identifiers and tiles of the cities. -/
def cityFootprints (s : GameState) : List (CityId × List TileCoord) :=
  s.cities.map fun c => (c.id, c.tiles.toList)

/-- The identifiers and tiles of the buildings. -/
def buildingFootprints (s : GameState) : List (BuildingId × List TileCoord) :=
  s.buildings.map fun b => (b.id, b.occupiedTiles.toList)

/-- **The registry is covered by the entities**: at every tile it names a city or a building exactly
if the state has one with this identifier that contains the tile. -/
structure Covered (s : GameState) : Prop where
  cityAt : ∀ row col id, s.registry.cityAt row col = some id ↔
    ∃ c ∈ s.cities, c.id = id ∧ c.containsTile row col = true
  buildingAt : ∀ row col id, s.registry.buildingAt row col = some id ↔
    ∃ b ∈ s.buildings, b.id = id ∧ ⟨row, col⟩ ∈ b.occupiedTiles

/-- No two cities share a tile, and no two buildings do. -/
structure Disjoint (s : GameState) : Prop where
  cities : s.cities.Pairwise fun c d => ∀ k ∈ d.tiles, k ∉ c.tiles
  buildings : s.buildings.Pairwise fun b b' => ∀ k ∈ b'.occupiedTiles, k ∉ b.occupiedTiles

/-- The registry in the terms of an owner index. -/
theorem covered_iff {s : GameState} :
    s.Covered ↔ s.registry.cities.Covers s.cityFootprints ∧
      s.registry.buildings.Covers s.buildingFootprints := by
  have hcities : ∀ (k : TileCoord) (id : CityId),
      (∃ e ∈ s.cityFootprints, e.1 = id ∧ k ∈ e.2) ↔
        ∃ c ∈ s.cities, c.id = id ∧ c.containsTile k.row k.col = true := by
    intro k id
    simp only [cityFootprints, List.mem_map, exists_exists_and_eq_and, City.containsTile,
      decide_eq_true_eq]
    exact Iff.rfl
  have hbuildings : ∀ (k : TileCoord) (id : BuildingId),
      (∃ e ∈ s.buildingFootprints, e.1 = id ∧ k ∈ e.2) ↔
        ∃ b ∈ s.buildings, b.id = id ∧ ⟨k.row, k.col⟩ ∈ b.occupiedTiles := by
    intro k id
    simp only [buildingFootprints, List.mem_map, exists_exists_and_eq_and]
    exact Iff.rfl
  constructor
  · intro h
    exact ⟨fun k id => (h.cityAt k.row k.col id).trans (hcities k id).symm,
      fun k id => (h.buildingAt k.row k.col id).trans (hbuildings k id).symm⟩
  · intro h
    exact ⟨fun row col id => (h.1 ⟨row, col⟩ id).trans (hcities ⟨row, col⟩ id),
      fun row col id => (h.2 ⟨row, col⟩ id).trans (hbuildings ⟨row, col⟩ id)⟩

theorem Disjoint.cityFootprints {s : GameState} (h : s.Disjoint) :
    s.cityFootprints.Pairwise fun e e' => ∀ k ∈ e'.2, k ∉ e.2 :=
  List.pairwise_map.2 h.cities

theorem Disjoint.buildingFootprints {s : GameState} (h : s.Disjoint) :
    s.buildingFootprints.Pairwise fun e e' => ∀ k ∈ e'.2, k ∉ e.2 :=
  List.pairwise_map.2 h.buildings

/-! ### Registering tiles -/

theorem foldl_registerCity (id : CityId) (tiles : List TileCoord) :
    ∀ reg : TileRegistry, tiles.foldl (fun reg t => reg.registerCity t.row t.col id) reg =
      { reg with cities := reg.cities.claimAll tiles id } := by
  induction tiles with
  | nil => intro reg; rfl
  | cons t tiles ih => intro reg; exact ih (reg.registerCity t.row t.col id)

theorem foldl_registerBuilding (id : BuildingId) (tiles : List TileCoord) :
    ∀ reg : TileRegistry, tiles.foldl (fun reg t => reg.registerBuilding t.row t.col id) reg =
      { reg with buildings := reg.buildings.claimAll tiles id } := by
  induction tiles with
  | nil => intro reg; rfl
  | cons t tiles ih => intro reg; exact ih (reg.registerBuilding t.row t.col id)

/-- Restoring a city claims all of its tiles. -/
theorem restoreCity_eq (s : GameState) (city : City) :
    s.restoreCity city =
      { s with
        registry := { s.registry with
          cities := s.registry.cities.claimAll city.tiles.toList city.id }
        cities := s.cities ++ [city] } := by
  rw [restoreCity]
  rw [foldl_registerCity]

/-- Restoring a building claims all of its tiles. -/
theorem restoreBuilding_eq (s : GameState) (building : Building) :
    s.restoreBuilding building =
      { s with
        registry := { s.registry with
          buildings := s.registry.buildings.claimAll building.occupiedTiles.toList building.id }
        buildings := s.buildings ++ [building] } := by
  rw [restoreBuilding]
  rw [foldl_registerBuilding]

/-- Restoring cities claims the tiles of each, and changes nothing else. -/
theorem foldl_restoreCity (cities : List City) :
    ∀ s : GameState, cities.foldl restoreCity s =
      { s with
        registry := { s.registry with
          cities := (cities.map fun c => (c.id, c.tiles.toList)).foldl
            (fun idx e => idx.claimAll e.2 e.1) s.registry.cities }
        cities := s.cities ++ cities } := by
  induction cities with
  | nil => intro s; rw [List.append_nil]; rfl
  | cons c cities ih =>
      intro s
      rw [List.foldl_cons, ih, restoreCity_eq]
      simp only [List.append_assoc, List.singleton_append, List.map_cons, List.foldl_cons]

/-- Restoring buildings claims the tiles of each, and changes nothing else. -/
theorem foldl_restoreBuilding (buildings : List Building) :
    ∀ s : GameState, buildings.foldl restoreBuilding s =
      { s with
        registry := { s.registry with
          buildings := (buildings.map fun b => (b.id, b.occupiedTiles.toList)).foldl
            (fun idx e => idx.claimAll e.2 e.1) s.registry.buildings }
        buildings := s.buildings ++ buildings } := by
  induction buildings with
  | nil => intro s; rw [List.append_nil]; rfl
  | cons b buildings ih =>
      intro s
      rw [List.foldl_cons, ih, restoreBuilding_eq]
      simp only [List.append_assoc, List.singleton_append, List.map_cons, List.foldl_cons]

end GameState

end My4X
