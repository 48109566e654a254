/-
**The hex grid: coordinates, terrain, directions and distances.**

The map is a hex grid in odd-r offset coordinates: odd rows are shifted right by half a tile.
This module holds the value types of the grid and the pure functions on coordinates that the rest
of the game uses.

Main definitions:

* `My4X.TileCoord` — a tile, ordered by row and then by column;
* `My4X.TerrainType`, `My4X.getTerrainProperties` — the terrains and their gameplay properties;
* `My4X.HexDirection`, `My4X.neighborCoord` — the six directions and the step in a direction;
* `My4X.hexDistance`, `My4X.hexNeighbors` — the distance, and the neighbours inside the map.

Main results:

* `My4X.hexDistance_triangle` — the distance keeps the triangle inequality;
* `My4X.mem_hexNeighbors_iff` — **the neighbours of a tile are the tiles of the map at distance
  one**.
-/

import Mathlib.Order.Defs.LinearOrder
import Mathlib.Order.Basic
import Mathlib.Data.Int.Order.Basic
import Mathlib.Order.Nat
import Mathlib.Data.Nat.Basic
import Mathlib.Data.List.Basic

set_option relaxedAutoImplicit false
set_option autoImplicit false

namespace My4X

/-! ### Tile coordinates -/

/-- A tile of the hex grid. -/
structure TileCoord where
  row : ℤ
  col : ℤ
  deriving DecidableEq, Repr

namespace TileCoord

/-- The defaulted comparison: by row, and by column in a row. -/
def Before (a b : TileCoord) : Prop := a.row < b.row ∨ (a.row = b.row ∧ a.col < b.col)

instance : LT TileCoord := ⟨Before⟩

instance : LE TileCoord := ⟨fun a b => Before a b ∨ a = b⟩

theorem lt_def {a b : TileCoord} : a < b ↔ a.row < b.row ∨ (a.row = b.row ∧ a.col < b.col) :=
  Iff.rfl

theorem le_def {a b : TileCoord} : a ≤ b ↔ a < b ∨ a = b := Iff.rfl

theorem ext_iff' {a b : TileCoord} : a = b ↔ a.row = b.row ∧ a.col = b.col := by
  cases a; cases b; simp

instance decidableLT : DecidableLT TileCoord := fun a b =>
  inferInstanceAs (Decidable (a.row < b.row ∨ (a.row = b.row ∧ a.col < b.col)))

instance decidableLE : DecidableLE TileCoord := fun a b =>
  inferInstanceAs (Decidable (a < b ∨ a = b))

instance : LinearOrder TileCoord where
  le_refl a := Or.inr rfl
  le_trans a b c := by simp only [le_def, lt_def, ext_iff']; omega
  lt_iff_le_not_ge a b := by simp only [le_def, lt_def, ext_iff']; omega
  le_antisymm a b := by simp only [le_def, lt_def, ext_iff']; omega
  le_total a b := by simp only [le_def, lt_def, ext_iff']; omega
  toDecidableLE := decidableLE
  toDecidableEq := inferInstance
  toDecidableLT := decidableLT

end TileCoord

/-! ### Terrain -/

/-- The terrain of a tile. -/
inductive TerrainType
  | plains
  | hills
  | forest
  | water
  | mountain
  | desert
  | swamp
  deriving DecidableEq, Repr

namespace TerrainType

/-- The position of a terrain in the enumeration. -/
def index : TerrainType → ℕ
  | plains => 0
  | hills => 1
  | forest => 2
  | water => 3
  | mountain => 4
  | desert => 5
  | swamp => 6

theorem index_injective : Function.Injective index := by
  intro a b h
  cases a <;> cases b <;> first | rfl | simp [index] at h

instance : LinearOrder TerrainType := LinearOrder.lift' index index_injective

end TerrainType

/-- The gameplay properties of a terrain. -/
structure TerrainProperties where
  movementCost : ℤ
  defenseModifier : ℤ
  passable : Bool
  buildable : Bool
  deriving DecidableEq, Repr

/-- The table of terrain properties. -/
def getTerrainProperties : TerrainType → TerrainProperties
  | .plains => ⟨1, 0, true, true⟩
  | .hills => ⟨2, 3, true, true⟩
  | .forest => ⟨2, 2, true, true⟩
  | .water => ⟨0, 0, false, false⟩
  | .mountain => ⟨0, 0, false, false⟩
  | .desert => ⟨1, 0, true, true⟩
  | .swamp => ⟨3, -1, true, true⟩

/-- Entering a passable tile costs something. -/
theorem movementCost_pos {t : TerrainType} (h : (getTerrainProperties t).passable = true) :
    0 < (getTerrainProperties t).movementCost := by
  cases t <;> simp_all [getTerrainProperties]

theorem movementCost_nonneg (t : TerrainType) : 0 ≤ (getTerrainProperties t).movementCost := by
  cases t <;> decide

/-! ### Directions -/

/-- The six directions, clockwise from the north-east. -/
inductive HexDirection
  | NE
  | E
  | SE
  | SW
  | W
  | NW
  deriving DecidableEq, Repr

/-- The direction opposite to a direction. -/
def oppositeDirection : HexDirection → HexDirection
  | .NE => .SW
  | .E => .W
  | .SE => .NW
  | .SW => .NE
  | .W => .E
  | .NW => .SE

/-- The offset of a direction in an even row. -/
def evenRowOffset : HexDirection → ℤ × ℤ
  | .NE => (-1, 0)
  | .E => (0, 1)
  | .SE => (1, 0)
  | .SW => (1, -1)
  | .W => (0, -1)
  | .NW => (-1, -1)

/-- The offset of a direction in an odd row. -/
def oddRowOffset : HexDirection → ℤ × ℤ
  | .NE => (-1, 1)
  | .E => (0, 1)
  | .SE => (1, 1)
  | .SW => (1, 0)
  | .W => (0, -1)
  | .NW => (-1, 0)

/-- Whether a tile lies in a map of the given height and width. -/
def InBounds (row col mapHeight mapWidth : ℤ) : Prop :=
  0 ≤ row ∧ row < mapHeight ∧ 0 ≤ col ∧ col < mapWidth

instance (row col mapHeight mapWidth : ℤ) : Decidable (InBounds row col mapHeight mapWidth) :=
  inferInstanceAs (Decidable (_ ∧ _ ∧ _ ∧ _))

/-- The tile next to a tile in a direction, if it lies in the map. -/
def neighborCoord (row col : ℤ) (dir : HexDirection) (mapHeight mapWidth : ℤ) :
    Option (ℤ × ℤ) :=
  let offset := if row % 2 = 0 then evenRowOffset dir else oddRowOffset dir
  let nr := row + offset.1
  let nc := col + offset.2
  if InBounds nr nc mapHeight mapWidth then some (nr, nc) else none

/-! ### Distances and neighbours -/

/-- The distance of two tiles, by the cube coordinates of the odd-r offset coordinates. -/
def hexDistance (row1 col1 row2 col2 : ℤ) : ℤ :=
  let x1 := col1 - (row1 - row1 % 2) / 2
  let z1 := row1
  let y1 := -x1 - z1
  let x2 := col2 - (row2 - row2 % 2) / 2
  let z2 := row2
  let y2 := -x2 - z2
  ((x1 - x2).natAbs + (y1 - y2).natAbs + (z1 - z2).natAbs : ℤ) / 2

/-- The neighbour offsets of an even row, in the order in which the neighbours are listed. -/
def evenRowDirections : List (ℤ × ℤ) := [(-1, -1), (-1, 0), (0, -1), (0, 1), (1, -1), (1, 0)]

/-- The neighbour offsets of an odd row, in the order in which the neighbours are listed. -/
def oddRowDirections : List (ℤ × ℤ) := [(-1, 0), (-1, 1), (0, -1), (0, 1), (1, 0), (1, 1)]

/-- The neighbours of a tile that lie in the map. -/
def hexNeighbors (row col mapHeight mapWidth : ℤ) : List TileCoord :=
  let directions := if row % 2 = 0 then evenRowDirections else oddRowDirections
  (directions.map fun dir => ⟨row + dir.1, col + dir.2⟩).filter
    fun c => InBounds c.row c.col mapHeight mapWidth

theorem mem_hexNeighbors_inBounds {row col mapHeight mapWidth : ℤ} {n : TileCoord}
    (h : n ∈ hexNeighbors row col mapHeight mapWidth) :
    InBounds n.row n.col mapHeight mapWidth := by
  rw [hexNeighbors, List.mem_filter] at h
  exact of_decide_eq_true h.2

/-- The first cube coordinate of a tile. -/
def cubeX (row col : ℤ) : ℤ := col - (row - row % 2) / 2

/-- The distance of two tiles by the differences of their first and last cube coordinates. -/
def cubeDistance (dx dz : ℤ) : ℤ := (dx.natAbs + (-dx - dz).natAbs + dz.natAbs : ℤ) / 2

theorem hexDistance_eq (row1 col1 row2 col2 : ℤ) :
    hexDistance row1 col1 row2 col2 =
      cubeDistance (cubeX row1 col1 - cubeX row2 col2) (row1 - row2) := by
  rw [hexDistance, cubeDistance, cubeX, cubeX]
  congr 4
  omega

/-- Twice the distance is the sum that it is half of. -/
theorem two_mul_cubeDistance (dx dz : ℤ) :
    2 * cubeDistance dx dz = dx.natAbs + (-dx - dz).natAbs + dz.natAbs := by
  have heven : (2 : ℤ) ∣ dx.natAbs + (-dx - dz).natAbs + dz.natAbs := by omega
  exact Int.mul_ediv_cancel' heven

/-- The cube coordinates of two tiles at distance one differ in one of six ways. -/
theorem cubeDistance_eq_one_iff (dx dz : ℤ) :
    cubeDistance dx dz = 1 ↔
      (dx = 0 ∧ dz = 1) ∨ (dx = -1 ∧ dz = 1) ∨ (dx = 1 ∧ dz = 0) ∨ (dx = -1 ∧ dz = 0) ∨
        (dx = 1 ∧ dz = -1) ∨ (dx = 0 ∧ dz = -1) := by
  constructor
  · intro h
    rw [cubeDistance] at h
    have hx : dx = -1 ∨ dx = 0 ∨ dx = 1 := by omega
    have hz : dz = -1 ∨ dz = 0 ∨ dz = 1 := by omega
    rcases hx with rfl | rfl | rfl <;> rcases hz with rfl | rfl | rfl <;> simp at h ⊢
  · rintro (⟨rfl, rfl⟩ | ⟨rfl, rfl⟩ | ⟨rfl, rfl⟩ | ⟨rfl, rfl⟩ | ⟨rfl, rfl⟩ | ⟨rfl, rfl⟩) <;> rfl

/-- The distance of a sum of differences is at most the sum of the distances. -/
theorem cubeDistance_add_le (dx dz ex ez : ℤ) :
    cubeDistance (dx + ex) (dz + ez) ≤ cubeDistance dx dz + cubeDistance ex ez := by
  have hsum := two_mul_cubeDistance (dx + ex) (dz + ez)
  have hd := two_mul_cubeDistance dx dz
  have he := two_mul_cubeDistance ex ez
  have hx := Int.natAbs_add_le dx ex
  have hy := Int.natAbs_add_le (-dx - dz) (-ex - ez)
  have hz := Int.natAbs_add_le dz ez
  rw [show -dx - dz + (-ex - ez) = -(dx + ex) - (dz + ez) by omega] at hy
  omega

/-- **The distance keeps the triangle inequality.** -/
theorem hexDistance_triangle (row1 col1 row2 col2 row3 col3 : ℤ) :
    hexDistance row1 col1 row3 col3 ≤
      hexDistance row1 col1 row2 col2 + hexDistance row2 col2 row3 col3 := by
  have hx : cubeX row1 col1 - cubeX row3 col3 =
      cubeX row1 col1 - cubeX row2 col2 + (cubeX row2 col2 - cubeX row3 col3) := by omega
  have hz : row1 - row3 = row1 - row2 + (row2 - row3) := by omega
  rw [hexDistance_eq, hexDistance_eq, hexDistance_eq, hx, hz]
  exact cubeDistance_add_le _ _ _ _

theorem hexDistance_comm (row1 col1 row2 col2 : ℤ) :
    hexDistance row1 col1 row2 col2 = hexDistance row2 col2 row1 col1 := by
  have h := two_mul_cubeDistance (cubeX row1 col1 - cubeX row2 col2) (row1 - row2)
  have h' := two_mul_cubeDistance (cubeX row2 col2 - cubeX row1 col1) (row2 - row1)
  rw [hexDistance_eq, hexDistance_eq]
  omega

theorem hexDistance_self (row col : ℤ) : hexDistance row col row col = 0 := by
  rw [hexDistance_eq, Int.sub_self, Int.sub_self]
  rfl

theorem hexDistance_nonneg (row1 col1 row2 col2 : ℤ) : 0 ≤ hexDistance row1 col1 row2 col2 := by
  have htwice := two_mul_cubeDistance (cubeX row1 col1 - cubeX row2 col2) (row1 - row2)
  rw [hexDistance_eq]
  omega

/-- The distance of two tiles of a map is less than its height and width together. -/
theorem hexDistance_lt {mapHeight mapWidth row1 col1 row2 col2 : ℤ}
    (h : InBounds row1 col1 mapHeight mapWidth) (h' : InBounds row2 col2 mapHeight mapWidth) :
    hexDistance row1 col1 row2 col2 < mapHeight + mapWidth := by
  obtain ⟨h1, h2, h3, h4⟩ := h
  obtain ⟨h1', h2', h3', h4'⟩ := h'
  have htwice := two_mul_cubeDistance (cubeX row1 col1 - cubeX row2 col2) (row1 - row2)
  rw [← hexDistance_eq, cubeX, cubeX] at htwice
  omega

/-- **The neighbours of a tile are the tiles of the map at distance one.** -/
theorem mem_hexNeighbors_iff {row col mapHeight mapWidth : ℤ} {n : TileCoord}
    (hn : InBounds n.row n.col mapHeight mapWidth) :
    n ∈ hexNeighbors row col mapHeight mapWidth ↔ hexDistance row col n.row n.col = 1 := by
  have hmem : n ∈ hexNeighbors row col mapHeight mapWidth ↔
      ∃ dir ∈ (if row % 2 = 0 then evenRowDirections else oddRowDirections),
        n.row = row + dir.1 ∧ n.col = col + dir.2 := by
    rw [hexNeighbors, List.mem_filter, and_iff_left (decide_eq_true hn), List.mem_map]
    refine exists_congr fun dir => and_congr_right fun _ => ?_
    rw [eq_comm, TileCoord.ext_iff']
  rw [hmem, hexDistance_eq, cubeDistance_eq_one_iff, cubeX, cubeX]
  split
  · simp only [evenRowDirections, List.exists_mem_cons_iff, List.not_mem_nil, false_and,
      exists_false, or_false]
    refine or_congr ?_ (or_congr ?_ (or_congr ?_ (or_congr ?_ (or_congr ?_ ?_)))) <;> omega
  · simp only [oddRowDirections, List.exists_mem_cons_iff, List.not_mem_nil, false_and,
      exists_false, or_false]
    refine or_congr ?_ (or_congr ?_ (or_congr ?_ (or_congr ?_ (or_congr ?_ ?_)))) <;> omega

end My4X
