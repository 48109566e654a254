/-
**The map: a grid of tiles.**

A map owns a rectangle of tiles.  Its constructor draws every terrain from a random source, gives
each tile the elevation and water level of its terrain and, on a map that is large enough, carves
a river.  Later accesses go through `My4X.Map.tile`, which asserts that the tile lies in the map.

Main definitions:

* `My4X.Tile` — a tile with its terrain, elevation, rivers and water level;
* `My4X.TileGrid` — a grid of tiles of a given size, each of which knows its own place;
* `My4X.Map`, `My4X.Map.create`, `My4X.Map.tile`, `My4X.Map.setTerrain` — the map, its
  constructor, the access to a tile and the change of its terrain.

Main results:

* `My4X.TileGrid.get?_update` — reading after an update;
* `My4X.Map.tile_eq_ok_iff` — an access succeeds exactly on the tiles of the map;
* `My4X.Map.tile_setTerrain` — reading after a change of terrain.
-/

import My4X.Fault
import My4X.Hex
import Mathlib.Data.List.Basic

set_option relaxedAutoImplicit false
set_option autoImplicit false

namespace My4X

/-! ### Tiles -/

/-- A tile of the map. -/
structure Tile where
  row : ℤ
  col : ℤ
  terrain : TerrainType
  elevation : ℤ := 0
  hasIncomingRiver : Bool := false
  hasOutgoingRiver : Bool := false
  incomingRiverDir : HexDirection := .NE
  outgoingRiverDir : HexDirection := .NE
  waterLevel : ℤ := 0
  deriving DecidableEq, Repr

namespace Tile

def setTerrainType (t : Tile) (terrain : TerrainType) : Tile := { t with terrain }

def setElevation (t : Tile) (elevation : ℤ) : Tile := { t with elevation }

def setWaterLevel (t : Tile) (waterLevel : ℤ) : Tile := { t with waterLevel }

def setOutgoingRiver (t : Tile) (dir : HexDirection) : Tile :=
  { t with hasOutgoingRiver := true, outgoingRiverDir := dir }

def setIncomingRiver (t : Tile) (dir : HexDirection) : Tile :=
  { t with hasIncomingRiver := true, incomingRiverDir := dir }

end Tile

/-! ### Grids of tiles -/

/-- The tile at a place of a list of rows. -/
def gridGet (rows : List (List Tile)) (i j : ℕ) : Option Tile := rows[i]?.bind (·[j]?)

/-- A grid of tiles of the given height and width, each of which knows its own place. -/
structure TileGrid (height width : ℤ) where
  rows : List (List Tile)
  length_rows : rows.length = height.toNat
  length_row : ∀ r ∈ rows, r.length = width.toNat
  placed : ∀ i j t, gridGet rows i j = some t → t.row = i ∧ t.col = j
  deriving DecidableEq

/-- Changing a place of a list of rows and reading another one, or the same. -/
theorem gridGet_modify (rows : List (List Tile)) (i j i' j' : ℕ) (f : Tile → Tile) :
    gridGet (rows.modify i (·.modify j f)) i' j' =
      if i' = i ∧ j' = j then (gridGet rows i j).map f else gridGet rows i' j' := by
  simp only [gridGet, List.getElem?_modify]
  by_cases hi : i = i'
  · subst hi
    cases hr : rows[i]? with
    | none => simp
    | some r =>
        by_cases hj : j = j'
        · subst hj; simp
        · have hj' : ¬ j' = j := fun h => hj h.symm
          simp [hj, hj']
  · have hi' : ¬ i' = i := fun h => hi h.symm
    cases hr : rows[i']? with
    | none => simp [hi']
    | some r => simp [hi, hi']

/-- A list of rows of the right shape has a tile at every place of the rectangle. -/
theorem exists_gridGet {rows : List (List Tile)} {h w i j : ℕ} (hl : rows.length = h)
    (hr : ∀ r ∈ rows, r.length = w) (hi : i < h) (hj : j < w) : ∃ t, gridGet rows i j = some t := by
  have hi' : i < rows.length := by omega
  have hj' : j < rows[i].length := by rw [hr _ (List.getElem_mem hi')]; exact hj
  refine ⟨rows[i][j], ?_⟩
  rw [gridGet, List.getElem?_eq_getElem hi', Option.bind_some, List.getElem?_eq_getElem hj']

namespace TileGrid

variable {height width : ℤ}

/-- The tile at a place, if the place lies in the grid. -/
def get? (g : TileGrid height width) (row col : ℤ) : Option Tile :=
  if InBounds row col height width then gridGet g.rows row.toNat col.toNat else none

/-- The grid has a tile at every place in bounds, and the tile knows the place. -/
theorem exists_get? (g : TileGrid height width) {row col : ℤ}
    (h : InBounds row col height width) : ∃ t, g.get? row col = some t := by
  obtain ⟨h1, h2, h3, h4⟩ := h
  obtain ⟨t, ht⟩ := exists_gridGet g.length_rows g.length_row (i := row.toNat) (j := col.toNat)
    (by omega) (by omega)
  exact ⟨t, by rw [get?, if_pos ⟨h1, h2, h3, h4⟩, ht]⟩

theorem place_of_get? {g : TileGrid height width} {row col : ℤ} {t : Tile}
    (h : g.get? row col = some t) : InBounds row col height width ∧ t.row = row ∧ t.col = col := by
  rw [get?] at h
  split at h
  · next hin =>
      obtain ⟨hr, hc⟩ := g.placed _ _ t h
      obtain ⟨h1, h2, h3, h4⟩ := hin
      exact ⟨⟨h1, h2, h3, h4⟩, by omega, by omega⟩
  · simp at h

/-- Changes the tile at a place, without moving it. -/
def update (g : TileGrid height width) (row col : ℤ) (f : Tile → Tile)
    (hf : ∀ t, (f t).row = t.row ∧ (f t).col = t.col := by intro t; exact ⟨rfl, rfl⟩) :
    TileGrid height width where
  rows := if InBounds row col height width then
    g.rows.modify row.toNat (·.modify col.toNat f) else g.rows
  length_rows := by
    split
    · rw [List.length_modify, g.length_rows]
    · exact g.length_rows
  length_row := by
    split
    · intro r hr
      obtain ⟨i, hi⟩ := List.mem_iff_getElem?.1 hr
      rw [List.getElem?_modify] at hi
      cases hg : g.rows[i]? with
      | none => rw [hg] at hi; simp at hi
      | some r' =>
          have hlen := g.length_row r' (List.mem_of_getElem? hg)
          rw [hg] at hi
          simp only [Option.map_eq_map, Option.map_some, Option.some_inj] at hi
          subst hi
          split
          · rw [List.length_modify, hlen]
          · exact hlen
    · exact g.length_row
  placed := by
    split
    · intro i j t ht
      rw [gridGet_modify] at ht
      split at ht
      · next hij =>
          obtain ⟨t', ht', rfl⟩ := Option.map_eq_some_iff.1 ht
          obtain ⟨rfl, rfl⟩ := hij
          rw [(hf t').1, (hf t').2]
          exact g.placed _ _ t' ht'
      · exact g.placed _ _ t ht
    · exact g.placed

/-- Reading after an update. -/
theorem get?_update (g : TileGrid height width) (row col row' col' : ℤ) (f : Tile → Tile)
    (hf : ∀ t, (f t).row = t.row ∧ (f t).col = t.col) :
    (g.update row col f hf).get? row' col' =
      if row' = row ∧ col' = col then (g.get? row col).map f else g.get? row' col' := by
  by_cases hin : InBounds row col height width
  · by_cases hin' : InBounds row' col' height width
    · simp only [get?, update, if_pos hin, if_pos hin', gridGet_modify]
      obtain ⟨h1, h2, h3, h4⟩ := hin
      obtain ⟨h1', h2', h3', h4'⟩ := hin'
      have hiff : (row'.toNat = row.toNat ∧ col'.toNat = col.toNat) ↔
        (row' = row ∧ col' = col) := by
        omega
      simp only [hiff]
    · have hne : ¬ (row' = row ∧ col' = col) := by
        rintro ⟨rfl, rfl⟩
        exact hin' hin
      simp only [get?, if_neg hin', if_neg hne]
  · by_cases hrc : row' = row ∧ col' = col
    · obtain ⟨rfl, rfl⟩ := hrc
      simp [get?, if_neg hin]
    · simp only [get?, update, if_neg hin, if_neg hrc]

/-- Every tile of the grid, row by row. -/
def allTiles (g : TileGrid height width) : List Tile := g.rows.flatten

/-- The tiles of the grid are the ones at its places. -/
theorem mem_allTiles {g : TileGrid height width} {t : Tile} :
    t ∈ g.allTiles ↔ g.get? t.row t.col = some t := by
  constructor
  · intro h
    obtain ⟨r, hr, ht⟩ := List.mem_flatten.1 h
    obtain ⟨i, hi⟩ := List.mem_iff_getElem?.1 hr
    obtain ⟨j, hj⟩ := List.mem_iff_getElem?.1 ht
    have hget : gridGet g.rows i j = some t := by rw [gridGet, hi]; exact hj
    obtain ⟨hrow, hcol⟩ := g.placed i j t hget
    have hil : i < height.toNat := by
      rw [← g.length_rows]
      exact (List.getElem?_eq_some_iff.1 hi).1
    have hjl : j < width.toNat := by
      rw [← g.length_row r hr]
      exact (List.getElem?_eq_some_iff.1 hj).1
    rw [get?, if_pos (by rw [hrow, hcol]; exact ⟨by omega, by omega, by omega, by omega⟩), hrow,
      hcol]
    exact hget
  · intro h
    rw [get?] at h
    split at h
    · obtain ⟨r, hr, ht⟩ := Option.bind_eq_some_iff.1 h
      exact List.mem_flatten.2 ⟨r, List.mem_of_getElem? hr, List.mem_of_getElem? ht⟩
    · simp at h

end TileGrid

/-! ### Construction -/

/-- The elevation a tile of a terrain starts with. -/
def defaultElevationForTerrain : TerrainType → ℤ
  | .plains => 1
  | .hills => 2
  | .forest => 1
  | .water => 0
  | .mountain => 3
  | .desert => 1
  | .swamp => 1

/-- A freshly drawn tile. -/
def generateTile (row col : ℕ) (terrain : TerrainType) : Tile :=
  let tile : Tile := { row, col, terrain, elevation := defaultElevationForTerrain terrain }
  if terrain = .water then tile.setWaterLevel 1 else tile

theorem generateTile_place (row col : ℕ) (terrain : TerrainType) :
    (generateTile row col terrain).row = row ∧ (generateTile row col terrain).col = col := by
  rw [generateTile]
  split <;> exact ⟨rfl, rfl⟩

theorem generateTile_terrain (row col : ℕ) (terrain : TerrainType) :
    (generateTile row col terrain).terrain = terrain := by
  rw [generateTile]
  split
  · rfl
  · rfl

/-- The tiles of a new map, row by row; `draws k` is the terrain of the `k`-th draw from the
random source. -/
def generateTiles (height width : ℤ) (draws : ℕ → TerrainType) : TileGrid height width where
  rows := (List.range height.toNat).map fun row =>
    (List.range width.toNat).map fun col => generateTile row col (draws (row * width.toNat + col))
  length_rows := by simp
  length_row := by
    intro r hr
    obtain ⟨i, -, rfl⟩ := List.mem_map.1 hr
    simp
  placed := by
    intro i j t ht
    obtain ⟨r, hr, hj⟩ := Option.bind_eq_some_iff.1 ht
    rw [List.getElem?_map] at hr
    obtain ⟨i', hi', rfl⟩ := Option.map_eq_some_iff.1 hr
    rw [List.getElem?_map] at hj
    obtain ⟨j', hj', rfl⟩ := Option.map_eq_some_iff.1 hj
    obtain rfl : i = i' := by simpa using (List.getElem?_eq_some_iff.1 hi').2
    obtain rfl : j = j' := by simpa using (List.getElem?_eq_some_iff.1 hj').2
    exact generateTile_place i j _

/-- The tile that is drawn for a place. -/
theorem generateTiles_get? {height width : ℤ} (draws : ℕ → TerrainType) {row col : ℤ}
    (h : InBounds row col height width) :
    (generateTiles height width draws).get? row col =
      some (generateTile row.toNat col.toNat (draws (row * width + col).toNat)) := by
  obtain ⟨h1, h2, h3, h4⟩ := h
  rw [TileGrid.get?, if_pos ⟨h1, h2, h3, h4⟩, gridGet, generateTiles]
  dsimp only
  rw [List.getElem?_map, List.getElem?_range (by omega), Option.map_some, Option.bind_some,
    List.getElem?_map, List.getElem?_range (by omega), Option.map_some]
  have hindex : row.toNat * width.toNat + col.toNat = (row * width + col).toNat := by
    have hnonneg : 0 ≤ row * width := Int.mul_nonneg h1 (by omega)
    rw [← Int.toNat_mul h1 (by omega), ← Int.toNat_add hnonneg h3]
  rw [hindex]

/-- Connects a tile to its neighbour by a river, outgoing here and incoming there. -/
def setRiverSegment {height width : ℤ} (tiles : TileGrid height width) (srcRow srcCol : ℤ)
    (outDir : HexDirection) : TileGrid height width :=
  match neighborCoord srcRow srcCol outDir height width with
  | none => tiles
  | some (nr, nc) =>
      (tiles.update srcRow srcCol fun t => t.setOutgoingRiver outDir).update nr nc
        fun t => t.setIncomingRiver (oppositeDirection outDir)

/-- Carves a river from a tile along a course of directions, each with the elevation of the tile
it leads to; the course ends where it would leave the map. -/
def addRiverCourse {height width : ℤ} (tiles : TileGrid height width) (row col : ℤ) :
    List (HexDirection × ℤ) → TileGrid height width
  | [] => tiles
  | (dir, elevation) :: course =>
      let tiles := setRiverSegment tiles row col dir
      match neighborCoord row col dir height width with
      | none => tiles
      | some (nr, nc) =>
          addRiverCourse
            (tiles.update nr nc fun t =>
              ((t.setTerrainType .plains).setElevation elevation).setWaterLevel 0)
            nr nc course

/-- Carves the demo river of a map that is large enough. -/
def addDemoRivers {height width : ℤ} (tiles : TileGrid height width) : TileGrid height width :=
  if height < 15 ∨ width < 15 then tiles
  else
    let tiles := tiles.update 5 10 fun t =>
      ((t.setTerrainType .hills).setElevation 3).setWaterLevel 0
    addRiverCourse tiles 5 10 [(.SE, 2), (.E, 2), (.SE, 1), (.E, 1), (.SE, 1)]

/-! ### The map -/

/-- A map of positive height and width. -/
structure Map where
  height : ℤ
  width : ℤ
  height_pos : 0 < height
  width_pos : 0 < width
  tiles : TileGrid height width
  deriving DecidableEq

namespace Map

/-- The constructor; `draws` are the terrains its random source yields. -/
def create (height width : ℤ) (draws : ℕ → TerrainType) : Except Fault Map :=
  if h : 0 < width ∧ 0 < height then
    .ok { height, width, height_pos := h.2, width_pos := h.1,
          tiles := addDemoRivers (generateTiles height width draws) }
  else .error .assertion

/-- The tile at a place; the access asserts that the place lies in the map. -/
def tile (m : Map) (row col : ℤ) : Except Fault Tile :=
  match m.tiles.get? row col with
  | some t => .ok t
  | none => .error .assertion

theorem tile_eq_ok {m : Map} {row col : ℤ} {t : Tile} :
    m.tile row col = .ok t ↔ m.tiles.get? row col = some t := by
  rw [tile]
  cases m.tiles.get? row col <;> simp

/-- **An access succeeds exactly on the tiles of the map.** -/
theorem tile_eq_ok_iff (m : Map) (row col : ℤ) :
    (∃ t, m.tile row col = .ok t) ↔ InBounds row col m.height m.width := by
  simp only [tile_eq_ok]
  exact ⟨fun ⟨_, ht⟩ => (TileGrid.place_of_get? ht).1, m.tiles.exists_get?⟩

/-- Changes the terrain of the tile at a place; the access asserts that the place lies in the
map. -/
def setTerrain (m : Map) (row col : ℤ) (terrain : TerrainType) : Except Fault Map :=
  match m.tiles.get? row col with
  | some _ => .ok { m with tiles := m.tiles.update row col fun t => t.setTerrainType terrain }
  | none => .error .assertion

theorem setTerrain_size {m m' : Map} {row col : ℤ} {terrain : TerrainType}
    (h : m.setTerrain row col terrain = .ok m') :
    InBounds row col m.height m.width ∧ m'.height = m.height ∧ m'.width = m.width := by
  rw [setTerrain] at h
  cases hg : m.tiles.get? row col with
  | none => simp [hg] at h
  | some t =>
      simp only [hg, Except.ok.injEq] at h
      subst h
      exact ⟨(TileGrid.place_of_get? hg).1, rfl, rfl⟩

theorem setTerrain_ok (m : Map) {row col : ℤ} (terrain : TerrainType)
    (h : InBounds row col m.height m.width) : ∃ m', m.setTerrain row col terrain = .ok m' := by
  obtain ⟨t, ht⟩ := m.tiles.exists_get? h
  exact ⟨_, by rw [setTerrain, ht]⟩

/-- Reading after a change of terrain. -/
theorem tile_setTerrain {m m' : Map} {row col : ℤ} {terrain : TerrainType}
    (h : m.setTerrain row col terrain = .ok m') (row' col' : ℤ) :
    m'.tiles.get? row' col' =
      if row' = row ∧ col' = col then (m.tiles.get? row col).map (·.setTerrainType terrain)
      else m.tiles.get? row' col' := by
  rw [setTerrain] at h
  cases hg : m.tiles.get? row col with
  | none => simp [hg] at h
  | some t =>
      simp only [hg, Except.ok.injEq] at h
      subst h
      rw [← hg]
      exact TileGrid.get?_update m.tiles row col row' col' (fun t => t.setTerrainType terrain)
        fun t => ⟨rfl, rfl⟩

end Map

end My4X
