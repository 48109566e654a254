/-
**The map generator.**

The generator makes a new map, gives each tile a terrain by two layers of noise, one for the
elevation and one for the moisture, and smooths the result by two passes of a cellular automaton.
The spawn points of the factions are then picked on passable tiles away from the border, the first
one near the centre and each further one as far as possible from those before.

Main definitions:

* `My4X.Map.overwrite` — a loop that writes terrain to some tiles;
* `My4X.MapGenerator.countSameNeighbours`, `My4X.MapGenerator.mostCommonNeighbour`,
  `My4X.MapGenerator.smoothMap` — the smoothing;
* `My4X.MapGenerator.findSpawnPoints` — the choice of spawn points;
* `My4X.MapGenerator.generate`, `My4X.MapGenerator.spawnPoints` — the generator.

Main results:

* `My4X.Map.get?_overwrite` — the tiles after such a loop;
* `My4X.Map.ext_get?` — a map is determined by its tiles.
-/

import My4X.IntArithmetic
import My4X.SeededMaps
import My4X.RoundTrip
import Mathlib.Data.List.MinMax
import Mathlib.Logic.Function.Iterate

set_option relaxedAutoImplicit false
set_option autoImplicit false

namespace My4X

/-! ### Extreme elements -/

/-- The first element of the smallest measure: `std::ranges::min_element`. -/
def minElement? {α β : Type} [LinearOrder β] (measure : α → β) (l : List α) : Option α :=
  l.argmin measure

/-- The first element of the largest measure: `std::ranges::max_element`. -/
def maxElement? {α β : Type} [LinearOrder β] (measure : α → β) (l : List α) : Option α :=
  l.argmax measure

/-! ### Writing terrain -/

theorem Tile.setTerrainType_place (terrain : TerrainType) :
    ∀ t : Tile, (t.setTerrainType terrain).row = t.row ∧ (t.setTerrainType terrain).col = t.col :=
  fun _ => ⟨rfl, rfl⟩

namespace Map

/-- Sets the terrain of a tile of the map.  The loops below visit tiles of the map only, so the
access does not fail. -/
def setTerrainType (m : Map) (row col : ℤ) (terrain : TerrainType) : Map :=
  { m with
    tiles := m.tiles.update row col (fun t => t.setTerrainType terrain)
      (Tile.setTerrainType_place terrain) }

/-- Writes a terrain to a place, or leaves it as it is. -/
def overwriteAt (write : ℤ → ℤ → Option TerrainType) (m : Map) (place : ℤ × ℤ) : Map :=
  match write place.1 place.2 with
  | some terrain => m.setTerrainType place.1 place.2 terrain
  | none => m

/-- A loop over some places. -/
def overwrite (write : ℤ → ℤ → Option TerrainType) (m : Map) (places : List (ℤ × ℤ)) : Map :=
  places.foldl (overwriteAt write) m

/-- The terrain at a place. -/
def terrain? (m : Map) (row col : ℤ) : Option TerrainType := m.tiles.terrain? row col

theorem get?_setTerrainType (m : Map) (row col row' col' : ℤ) (terrain : TerrainType) :
    (m.setTerrainType row col terrain).tiles.get? row' col' =
      if row' = row ∧ col' = col then (m.tiles.get? row col).map (·.setTerrainType terrain)
      else m.tiles.get? row' col' :=
  TileGrid.get?_update m.tiles row col row' col' (fun t => t.setTerrainType terrain)
    (Tile.setTerrainType_place terrain)

/-- What a write makes of a tile. -/
def written (write : Option TerrainType) (t : Tile) : Tile := write.elim t t.setTerrainType

/-- The terrain written last is the one that stays. -/
theorem written_written (write : Option TerrainType) (t : Tile) :
    written write (written write t) = written write t := by
  cases write with
  | none => rfl
  | some terrain => rfl

theorem overwriteAt_size (write : ℤ → ℤ → Option TerrainType) (m : Map) (place : ℤ × ℤ) :
    (m.overwriteAt write place).height = m.height ∧
      (m.overwriteAt write place).width = m.width := by
  rw [overwriteAt]
  cases write place.1 place.2 with
  | none => exact ⟨rfl, rfl⟩
  | some terrain => exact ⟨rfl, rfl⟩

theorem get?_overwriteAt (write : ℤ → ℤ → Option TerrainType) (m : Map) (place : ℤ × ℤ)
    (row col : ℤ) :
    (m.overwriteAt write place).tiles.get? row col =
      if (row, col) = place then (m.tiles.get? row col).map (written (write row col))
      else m.tiles.get? row col := by
  rw [overwriteAt]
  by_cases heq : (row, col) = place
  · subst heq
    rw [if_pos rfl]
    cases write row col with
    | none => exact (congrFun Option.map_id _).symm
    | some terrain =>
        rw [get?_setTerrainType, if_pos ⟨rfl, rfl⟩]
        rfl
  · rw [if_neg heq]
    cases write place.1 place.2 with
    | none => rfl
    | some terrain =>
        rw [get?_setTerrainType, if_neg]
        rintro ⟨rfl, rfl⟩
        exact heq rfl

theorem overwrite_size (write : ℤ → ℤ → Option TerrainType) (places : List (ℤ × ℤ)) :
    ∀ m : Map, (m.overwrite write places).height = m.height ∧
      (m.overwrite write places).width = m.width := by
  induction places with
  | nil => intro m; exact ⟨rfl, rfl⟩
  | cons place places ih =>
      intro m
      obtain ⟨hheight, hwidth⟩ := ih (m.overwriteAt write place)
      obtain ⟨hheight', hwidth'⟩ := m.overwriteAt_size write place
      exact ⟨hheight.trans hheight', hwidth.trans hwidth'⟩

/-- **The tiles after a loop**: each place that was visited has what is written there, and every
other tile is as before. -/
theorem get?_overwrite (write : ℤ → ℤ → Option TerrainType) (places : List (ℤ × ℤ))
    (row col : ℤ) :
    ∀ m : Map, (m.overwrite write places).tiles.get? row col =
      if (row, col) ∈ places then (m.tiles.get? row col).map (written (write row col))
      else m.tiles.get? row col := by
  induction places with
  | nil => intro m; rw [if_neg List.not_mem_nil]; rfl
  | cons place places ih =>
      intro m
      rw [overwrite, List.foldl_cons, ← overwrite, ih, get?_overwriteAt]
      by_cases heq : (row, col) = place
      · have hmem : (row, col) ∈ place :: places := heq ▸ List.mem_cons_self
        rw [if_pos heq, if_pos hmem, Option.map_map]
        split
        · exact congrArg (Option.map · _) (funext fun t => written_written _ t)
        · rfl
      · have hmem : (row, col) ∈ place :: places ↔ (row, col) ∈ places :=
          List.mem_cons.trans (or_iff_right heq)
        simp only [if_neg heq, hmem]

end Map

/-- A grid is determined by its tiles. -/
theorem TileGrid.ext_get? {height width : ℤ} {g g' : TileGrid height width}
    (h : ∀ row col, g.get? row col = g'.get? row col) : g = g' := by
  have hrows : g.rows = g'.rows := by
    refine List.ext_getElem (by rw [g.length_rows, g'.length_rows]) fun i hi hi' => ?_
    have hlength := g.length_row _ (List.getElem_mem hi)
    have hlength' := g'.length_row _ (List.getElem_mem hi')
    refine List.ext_getElem (by rw [hlength, hlength']) fun j hj hj' => ?_
    have hin : InBounds (i : ℤ) (j : ℤ) height width := by
      have hrow := g.length_rows
      exact ⟨by omega, by omega, by omega, by omega⟩
    have hget := h i j
    rw [get?, get?, if_pos hin, if_pos hin, Int.toNat_natCast, Int.toNat_natCast, gridGet, gridGet,
      List.getElem?_eq_getElem hi, List.getElem?_eq_getElem hi', Option.bind_some, Option.bind_some,
      List.getElem?_eq_getElem hj, List.getElem?_eq_getElem hj', Option.some_inj] at hget
    exact hget
  cases g
  cases g'
  cases hrows
  rfl

/-- **A map is determined by its size and its tiles.** -/
theorem Map.ext_get? {m m' : Map} (hheight : m.height = m'.height) (hwidth : m.width = m'.width)
    (h : ∀ row col, m.tiles.get? row col = m'.tiles.get? row col) : m = m' := by
  obtain ⟨height, width, hpos, hpos', tiles⟩ := m
  obtain ⟨height', width', _, _, tiles'⟩ := m'
  obtain rfl : height = height' := hheight
  obtain rfl : width = width' := hwidth
  obtain rfl : tiles = tiles' := TileGrid.ext_get? h
  rfl

/-- A spawn location: a row and a column. -/
abbrev SpawnPoint := ℤ × ℤ

/-- The parameters of a generator. -/
structure MapGenerator where
  height : ℤ
  width : ℤ
  factionCount : ℤ
  seed : UInt64

namespace MapGenerator

/-! ### Noise -/

/-- Pseudo-random noise at a point: a hash of the coordinates and a seed, mapped to `[-1, 1)`. -/
def hashNoise (x y : ℤ) (noiseSeed : UInt64) : Float :=
  let value := noiseSeed + UInt64.ofInt x * 374761393 + UInt64.ofInt y * 668265263
  let value := (value ^^^ (value >>> 30)) * 0xBF58476D1CE4E5B9
  let value := (value ^^^ (value >>> 27)) * 0x94D049BB133111EB
  let value := value ^^^ (value >>> 31)
  let scale := 1.0 / (UInt64.ofNat 18446744073709551615).toFloat
  value.toFloat * scale * 2.0 + -1.0

/-- The loop over the octaves: the total, the amplitude and the sum of the amplitudes. -/
def octaveNoise (x y : ℤ) (noiseSeed : UInt64) (sums : Float × Float × Float) (octave : ℕ) :
    Float × Float × Float :=
  let (total, amplitude, maxAmplitude) := sums
  let freq := 0.08 * Float.pow 2.0 octave.toFloat
  let sampleX := (Float.ofInt x * freq).round.toInt32.toInt
  let sampleY := (Float.ofInt y * freq).round.toInt32.toInt
  (total + hashNoise sampleX sampleY (noiseSeed + UInt64.ofNat octave) * amplitude,
    amplitude * 0.5, maxAmplitude + amplitude)

/-- Noise of four octaves, each at twice the frequency and half the amplitude of the one before. -/
def fractalNoise (x y : ℤ) (noiseSeed : UInt64) : Float :=
  let (total, _, maxAmplitude) := (List.range 4).foldl (octaveNoise x y noiseSeed) (0.0, 1.0, 0.0)
  total / maxAmplitude

/-- The terrain of an elevation and a moisture. -/
def classifyTerrain (elevation moisture : Float) : TerrainType :=
  if elevation < -0.60 then .water
  else if elevation > 0.60 then .mountain
  else if elevation > 0.35 then .hills
  else if moisture < -0.55 then .desert
  else if moisture > 0.55 then .swamp
  else if moisture > -0.10 then .forest
  else .plains

/-! ### Smoothing -/

/-- The steps to the eight tiles around a tile. -/
def directions : List (ℤ × ℤ) :=
  [(-1, -1), (-1, 0), (-1, 1), (0, -1), (0, 1), (1, -1), (1, 0), (1, 1)]

/-- The terrain of the tiles of the map around a tile, in a snapshot of the terrain. -/
def neighbours (snapshot : ℤ → ℤ → Option TerrainType) (row col height width : ℤ) :
    List TerrainType :=
  directions.filterMap fun step =>
    if InBounds (row + step.1) (col + step.2) height width then
      snapshot (row + step.1) (col + step.2)
    else none

/-- How many of the neighbours have the terrain of the tile, and how many neighbours there are. -/
def countSameNeighbours (snapshot : ℤ → ℤ → Option TerrainType) (row col height width : ℤ) :
    ℕ × ℕ :=
  let around := neighbours snapshot row col height width
  (around.countP fun terrain => snapshot row col = some terrain, around.length)

/-- The most common terrain of the neighbours; the first one in the order of the terrains where
several are equally common. -/
def mostCommonNeighbour (snapshot : ℤ → ℤ → Option TerrainType) (row col height width : ℤ) :
    TerrainType :=
  let counts := fun terrain => (neighbours snapshot row col height width).count terrain
  (maxElement? counts allTerrains).getD .plains

/-- What a pass writes to a tile: fewer than four neighbours with its terrain do not keep it. -/
def smoothed (snapshot : ℤ → ℤ → Option TerrainType) (height width row col : ℤ) :
    Option TerrainType :=
  let (sameCount, neighbourCount) := countSameNeighbours snapshot row col height width
  if sameCount < 4 ∧ 0 < neighbourCount then
    some (mostCommonNeighbour snapshot row col height width)
  else none

/-- A pass that visits the tiles in some order. -/
def smoothPassOver (map : Map) (places : List (ℤ × ℤ)) : Map :=
  map.overwrite (smoothed map.terrain? map.height map.width) places

/-- A pass, row by row. -/
def smoothPass (map : Map) : Map := smoothPassOver map map.places

/-- **The smoothing.** -/
def smoothMap (map : Map) (passes : ℤ) : Map := smoothPass^[passes.toNat] map

/-! ### Spawn points -/

/-- How many tiles from the edge of the map no spawn point is placed. -/
def spawnBorderMargin : ℤ := 2

/-- The minimum distance between any two spawn points, by its documentation. -/
def minSpawnDistance : ℤ := 5

/-- The largest `int`. -/
def intMax : ℤ := 2147483647

/-- The passable tiles away from the border, row by row. -/
def spawnCandidates (map : Map) : List SpawnPoint :=
  let inner := fun size : ℤ =>
    (List.range (size - 2 * spawnBorderMargin).toNat).map fun k : ℕ => spawnBorderMargin + k
  (inner map.height).flatMap fun row =>
    ((inner map.width).filter fun col =>
      (map.terrain? row col).any fun terrain => (getTerrainProperties terrain).passable).map
        fun col => (row, col)

/-- The square of the distance to the centre of the map, with `int`s: on a map with a side of more
than `2 ^ 16` tiles it can overflow. -/
def distToCenter (map : Map) (point : SpawnPoint) : ℤ :=
  let dr := int (point.1 - map.height / 2)
  let dc := int (point.2 - map.width / 2)
  int (int (dr * dr) + int (dc * dc))

/-- The Chebyshev distance. -/
def chebyshev (a b : SpawnPoint) : ℤ := max ((a.1 - b.1).natAbs : ℤ) (a.2 - b.2).natAbs

/-- The distance of a candidate from the nearest spawn point. -/
def minDist (spawns : List SpawnPoint) (candidate : SpawnPoint) : ℤ :=
  spawns.foldl (fun minDist existing => min minDist (chebyshev candidate existing)) intMax

/-- The loop over the candidates: the largest distance so far, and the first candidate that has
it. -/
def betterCandidate (spawns : List SpawnPoint) (best : ℤ × SpawnPoint) (candidate : SpawnPoint) :
    ℤ × SpawnPoint :=
  if best.1 < minDist spawns candidate then (minDist spawns candidate, candidate) else best

/-- The spawn points up to a number: the first one is the candidate that is closest to the centre,
each further one the candidate that is farthest from those before. -/
def pickSpawns (candidates : List SpawnPoint) (front first : SpawnPoint) : ℕ → List SpawnPoint
  | 0 => [first]
  | i + 1 =>
      let spawns := pickSpawns candidates front first i
      spawns ++ [(candidates.foldl (betterCandidate spawns) (-1, front)).2]

/-- **The choice of spawn points.** -/
def findSpawnPoints (map : Map) (factionCount : ℤ) : List SpawnPoint :=
  let candidates := spawnCandidates map
  match candidates.head?, minElement? (distToCenter map) candidates with
  | some front, some first =>
      if factionCount ≤ 0 then []
      else pickSpawns candidates front first (factionCount.toNat - 1)
  | _, _ => []

/-! ### The generator -/

/-- **The generated map.**  Its constructor draws a terrain for each tile before the noise is
written. -/
def generate (g : MapGenerator) (draws : ℕ → TerrainType) : Except Fault Map := do
  let map ← Map.create g.height g.width draws
  let noise := fun row col =>
    some (classifyTerrain (fractalNoise row col g.seed) (fractalNoise row col (g.seed + 1000)))
  return smoothMap (map.overwrite noise map.places) 2

/-- **The spawn points of the generated map.** -/
def spawnPoints (g : MapGenerator) (draws : ℕ → TerrainType) : Except Fault (List SpawnPoint) := do
  let map ← g.generate draws
  return findSpawnPoints map g.factionCount

end MapGenerator

end My4X
