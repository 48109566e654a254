/-
**Routes over tiles that are not blocked.**

A route goes from tile to tile, over neighbours that a faction may enter: their terrain is passable
and no unit of another faction stands on them.  It costs what entering its tiles costs.  The
movement range of a unit is what routes lead to within its budget.  The searches keep costs in an
`int` and take the largest one for the cost of a tile that was not visited, so that a route of that
cost is not found: the corridor of this module has one.

Main definitions:

* `My4X.FreeStep` — a step to a neighbour that may be entered;
* `My4X.Map.pathCost` — what entering the tiles of a path costs;
* `My4X.corridor` — a map of one row, most of it swamp.

Main results:

* `My4X.freeEdges_weighs` — the searches follow the steps to neighbours that may be entered;
* `My4X.corridor_leads`, `My4X.corridor_le_pathCost` — what the way through the corridor costs;
* `My4X.computeMovementRange_routes` — **the range holds every tile that routes lead to within the
  budget, once, with the least cost of a route**.
-/

import My4X.Pathfinding

set_option relaxedAutoImplicit false
set_option autoImplicit false

namespace My4X

open Flood (Leads)

/-! ### Routes -/

/-- What entering a tile costs. -/
def Map.entryCost (map : Map) (t : TileCoord) : ℤ :=
  match map.tile t.row t.col with
  | .ok tile => (getTerrainProperties tile.terrain).movementCost
  | .error _ => 0

/-- **What entering the tiles of a path costs.** -/
def Map.pathCost (map : Map) (path : List TileCoord) : ℤ := (path.map map.entryCost).sum

theorem Map.entryCost_nonneg (map : Map) (t : TileCoord) : 0 ≤ map.entryCost t := by
  rw [Map.entryCost]
  cases map.tile t.row t.col with
  | error e => exact le_refl 0
  | ok tile => exact movementCost_nonneg tile.terrain

/-- The first part of a path costs no more than the path. -/
theorem Map.pathCost_le_of_prefix (map : Map) {path' path : List TileCoord} (h : path' <+: path) :
    map.pathCost path' ≤ map.pathCost path := by
  obtain ⟨rest, rfl⟩ := h
  rw [Map.pathCost, Map.pathCost, List.map_append, List.sum_append]
  have hrest : 0 ≤ (rest.map map.entryCost).sum := List.sum_nonneg fun cost hcost => by
    obtain ⟨t, -, rfl⟩ := List.mem_map.1 hcost
    exact map.entryCost_nonneg t
  omega

/-- **A step to a neighbour that a faction may enter.** -/
structure FreeStep (map : Map) (registry : TileRegistry) (units : UnitVec) (factionId : FactionId)
    (t n : TileCoord) : Prop where
  near : hexDistance t.row t.col n.row n.col = 1
  passable : ∃ tile, map.tile n.row n.col = .ok tile ∧
    (getTerrainProperties tile.terrain).passable = true
  unheld : ∀ unit ∈ unitsOnTile registry units n.row n.col, unit.factionId = factionId

section Routes

variable {map : Map} {registry : TileRegistry} {units : UnitVec} {factionId : FactionId}

theorem FreeStep.inBounds {t n : TileCoord} (h : FreeStep map registry units factionId t n) :
    InBounds n.row n.col map.height map.width := by
  obtain ⟨tile, htile, -⟩ := h.passable
  exact (map.tile_eq_ok_iff n.row n.col).1 ⟨tile, htile⟩

theorem holdsForeign_eq_false {n : TileCoord} :
    holdsForeign registry units factionId n = false ↔
      ∀ unit ∈ unitsOnTile registry units n.row n.col, unit.factionId = factionId := by
  rw [holdsForeign, List.any_eq_false]
  simp

/-- **The searches follow the steps to neighbours that may be entered.** -/
theorem freeEdges_weighs (map : Map) (registry : TileRegistry) (units : UnitVec)
    (factionId : FactionId) :
    Flood.Weighs (freeEdges map registry units factionId) (FreeStep map registry units factionId)
      map.entryCost where
  mem_iff t e := by
    rw [mem_freeEdges, mem_passableEdges, holdsForeign_eq_false]
    constructor
    · intro h
      obtain ⟨⟨hn, tile, htile, hpass, hcost⟩, hunheld⟩ := h
      have hnear := (mem_hexNeighbors_iff (mem_hexNeighbors_inBounds hn)).1 hn
      refine ⟨⟨hnear, ⟨tile, htile, hpass⟩, hunheld⟩, ?_⟩
      rw [hcost, Map.entryCost, htile]
    · intro h
      obtain ⟨hstep, hcost⟩ := h
      obtain ⟨tile, htile, hpass⟩ := hstep.passable
      refine ⟨⟨(mem_hexNeighbors_iff hstep.inBounds).2 hstep.near, tile, htile, hpass, ?_⟩,
        hstep.unheld⟩
      rw [hcost, Map.entryCost, htile]

/-- A step leads to another tile. -/
theorem FreeStep.ne {t n : TileCoord} (h : FreeStep map registry units factionId t n) : t ≠ n := by
  rintro rfl
  have hnear := h.near
  rw [hexDistance_self] at hnear
  exact absurd hnear (by decide)

/-- Entering a tile costs something. -/
theorem FreeStep.entryCost_pos {t n : TileCoord} (h : FreeStep map registry units factionId t n) :
    0 < map.entryCost n := by
  obtain ⟨tile, htile, hpass⟩ := h.passable
  rw [Map.entryCost, htile]
  exact movementCost_pos hpass

/-- A neighbour that is not blocked can be entered. -/
theorem freeStep_of_not_blocked {t n : TileCoord}
    (hn : n ∈ hexNeighbors t.row t.col map.height map.width)
    (hfree : isTileBlocked n.row n.col map registry units factionId = .ok false) :
    FreeStep map registry units factionId t n := by
  rcases isTileBlocked_cases registry units factionId (mem_hexNeighbors_inBounds hn) with
    ⟨hblocked, -⟩ | ⟨-, tile, -, hedge⟩
  · rw [hblocked] at hfree
    cases hfree
  · have hmem : (n, (getTerrainProperties tile.terrain).movementCost) ∈
        freeEdges map registry units factionId t := by
      rw [freeEdges_eq]
      exact List.mem_filterMap.2 ⟨n, hn, hedge⟩
    exact (((freeEdges_weighs map registry units factionId).mem_iff t _).1 hmem).1

theorem unitsOnTile_noUnits (registry : TileRegistry) (row col : ℤ) :
    unitsOnTile registry .empty row col = [] :=
  List.filterMap_eq_nil_iff.2 fun _ _ => rfl

/-- Where there are no units, steps go to all neighbours of passable terrain. -/
theorem freeStep_of_noUnits {t n : TileCoord}
    (hnear : hexDistance t.row t.col n.row n.col = 1) {tile : Tile}
    (htile : map.tile n.row n.col = .ok tile)
    (hpass : (getTerrainProperties tile.terrain).passable = true) :
    FreeStep map registry .empty factionId t n where
  near := hnear
  passable := ⟨tile, htile, hpass⟩
  unheld unit hunit := by
    rw [unitsOnTile_noUnits] at hunit
    exact absurd hunit List.not_mem_nil

end Routes

/-! ### A corridor -/

/-- **A map of one row**: two tiles of plains, and swamp up to a column. -/
def corridor (n : ℕ) : Map where
  height := 1
  width := n + 1
  height_pos := Int.one_pos
  width_pos := Int.succ_ofNat_pos n
  tiles := generateTiles 1 (n + 1) fun k => if k ≤ 1 then .plains else .swamp

/-- What the way from the first tile of the corridor to one of its columns costs. -/
def corridorCost (col : ℤ) : ℤ := if col ≤ 1 then col else 3 * col - 2

theorem corridor_tile (n : ℕ) (col : ℤ) (h0 : 0 ≤ col) (hn : col ≤ n) :
    ∃ tile, (corridor n).tile 0 col = .ok tile ∧
      tile.terrain = if col ≤ 1 then .plains else .swamp := by
  have hin : InBounds 0 col 1 (n + 1) := ⟨le_refl 0, by decide, h0, by omega⟩
  refine ⟨_, Map.tile_eq_ok.2 (generateTiles_get? _ hin), ?_⟩
  rw [generateTile_terrain, Int.zero_mul, Int.zero_add]
  by_cases hcol : col ≤ 1
  · rw [if_pos hcol, if_pos (by omega)]
  · rw [if_neg hcol, if_neg (by omega)]

/-- Entering a tile of the corridor costs as much as the way becomes longer. -/
theorem corridor_entryCost (n : ℕ) (col : ℤ) (h0 : 0 < col) (hn : col ≤ n) :
    (corridor n).entryCost ⟨0, col⟩ = corridorCost col - corridorCost (col - 1) := by
  obtain ⟨tile, htile, hterrain⟩ := corridor_tile n col (by omega) hn
  rw [Map.entryCost, htile]
  dsimp only
  rw [hterrain, corridorCost, corridorCost]
  by_cases hcol : col ≤ 1
  · obtain rfl : col = 1 := by omega
    rfl
  · rw [if_neg hcol, if_neg hcol]
    by_cases htwo : col = 2
    · subst htwo
      rfl
    · rw [if_neg (by omega)]
      show (3 : ℤ) = _
      omega

/-- The tiles east of a column of the corridor. -/
def eastward : ℤ → ℕ → List TileCoord
  | _, 0 => []
  | col, steps + 1 => ⟨0, col + 1⟩ :: eastward (col + 1) steps

section Corridor

variable (registry : TileRegistry) (factionId : FactionId)

/-- The way through the corridor. -/
theorem corridor_leads {n : ℕ} (steps : ℕ) :
    ∀ {col : ℤ}, 0 ≤ col → col + steps ≤ n →
      Leads (FreeStep (corridor n) registry .empty factionId) ⟨0, col⟩ (eastward col steps)
        ⟨0, col + steps⟩ ∧
      (corridor n).pathCost (eastward col steps) =
        corridorCost (col + steps) - corridorCost col := by
  induction steps with
  | zero =>
      intro col _ _
      rw [show col + ((0 : ℕ) : ℤ) = col from Int.add_zero col]
      exact ⟨rfl, (Int.sub_self _).symm⟩
  | succ steps ih =>
      intro col h0 hn
      obtain ⟨hleads, hcost⟩ := @ih (col + 1) (by omega) (by omega)
      obtain ⟨tile, htile, hterrain⟩ := corridor_tile n (col + 1) (by omega) (by omega)
      have hpass : (getTerrainProperties tile.terrain).passable = true := by
        rw [hterrain]
        split
        · rfl
        · rfl
      have hnear : hexDistance 0 col 0 (col + 1) = 1 := by
        rw [hexDistance_eq, cubeDistance_eq_one_iff, cubeX, cubeX]
        omega
      rw [show col + ((steps + 1 : ℕ) : ℤ) = col + 1 + steps from by omega]
      refine ⟨⟨freeStep_of_noUnits hnear htile hpass, hleads⟩, ?_⟩
      rw [Map.pathCost, eastward, List.map_cons, List.sum_cons, ← Map.pathCost, hcost,
        corridor_entryCost n (col + 1) (by omega) (by omega), Int.add_sub_cancel]
      omega

/-- A step in the corridor goes to the next column or the one before. -/
theorem corridor_step {n : ℕ} {t m : TileCoord} (ht : t.row = 0)
    (h : FreeStep (corridor n) registry .empty factionId t m) :
    m.row = 0 ∧ corridorCost m.col - corridorCost t.col ≤ (corridor n).entryCost m := by
  obtain ⟨h1, h2, h3, h4⟩ := h.inBounds
  have hrow : m.row = 0 := by
    have hheight : (corridor n).height = 1 := rfl
    omega
  have hwidth : (corridor n).width = n + 1 := rfl
  have hnear := h.near
  rw [hexDistance_eq, cubeDistance_eq_one_iff, cubeX, cubeX, ht, hrow] at hnear
  refine ⟨hrow, ?_⟩
  have hpos := h.entryCost_pos
  by_cases heast : m.col = t.col + 1
  · by_cases hzero : m.col = 0
    · rw [corridorCost, corridorCost, if_pos (by omega), if_pos (by omega)]
      omega
    · have hm : m = ⟨0, m.col⟩ := TileCoord.ext_iff'.2 ⟨hrow, rfl⟩
      have hcost := corridor_entryCost n m.col (by omega) (by omega)
      rw [← hm] at hcost
      rw [hcost, heast, Int.add_sub_cancel]
  · have hwest : m.col = t.col - 1 := by omega
    have hless : corridorCost m.col ≤ corridorCost t.col := by
      rw [corridorCost, corridorCost]
      split
      · split
        · omega
        · omega
      · split
        · omega
        · omega
    omega

/-- **No way through the corridor costs less.** -/
theorem corridor_le_pathCost {n : ℕ} (path : List TileCoord) :
    ∀ {t u : TileCoord}, t.row = 0 →
      Leads (FreeStep (corridor n) registry .empty factionId) t path u →
      corridorCost u.col - corridorCost t.col ≤ (corridor n).pathCost path := by
  induction path with
  | nil =>
      intro t u _ h
      obtain rfl : t = u := h
      exact (Int.sub_self _).le
  | cons m path ih =>
      intro t u ht h
      obtain ⟨hrow, hstep⟩ := corridor_step registry factionId ht h.1
      have hrest := ih hrow h.2
      rw [Map.pathCost, List.map_cons, List.sum_cons, ← Map.pathCost]
      omega

/-- In a corridor that is long enough the way through it costs as much as a tile that was not
visited, and no way costs less. -/
theorem longCorridor_cost :
    (∃ path, Leads (FreeStep (corridor 715827883) registry .empty factionId) ⟨0, 0⟩ path
        ⟨0, 715827883⟩ ∧ (corridor 715827883).pathCost path = infiniteCost) ∧
    ∀ path, Leads (FreeStep (corridor 715827883) registry .empty factionId) ⟨0, 0⟩ path
      ⟨0, 715827883⟩ → infiniteCost ≤ (corridor 715827883).pathCost path := by
  have hlast : corridorCost 715827883 - corridorCost 0 = infiniteCost := rfl
  constructor
  · obtain ⟨hleads, hcost⟩ := corridor_leads registry factionId (n := 715827883) 715827883
      (le_refl 0) (by omega)
    rw [show (0 : ℤ) + (715827883 : ℕ) = 715827883 from rfl] at hleads hcost
    exact ⟨_, hleads, hcost.trans hlast⟩
  · intro path hleads
    rw [← hlast]
    exact corridor_le_pathCost registry factionId path rfl hleads

end Corridor

/-! ### The movement range -/

section Range

variable (movementBudget : ℤ) (map : Map) (registry : TileRegistry) (units : UnitVec)
  (factionId : FactionId) (queue : CostQueue)

/-- Every tile is in range once at most. -/
theorem computeMovementRange_nodup {startRow startCol : ℤ} {range : List ReachableTile}
    (h : computeMovementRange movementBudget map registry units factionId queue startRow startCol =
      .ok range) : (range.map ReachableTile.coord).Nodup := by
  rw [computeMovementRange, floodRange_eq, Except.ok_bind] at h
  obtain rfl := Except.ok.inj h
  rw [List.map_map]
  exact (AList.keys_nodup _).sublist (List.filter_sublist.map Sigma.fst)

/-- **The range holds every tile that routes lead to within the budget**, once, with the least cost
of a route, as long as that is below the cost of a tile that was not visited. -/
theorem computeMovementRange_routes (startRow startCol : ℤ) :
    ∃ range,
      computeMovementRange movementBudget map registry units factionId queue startRow startCol =
        .ok range ∧
      (range.map ReachableTile.coord).Nodup ∧
      ∀ t c, (⟨t, c⟩ : ReachableTile) ∈ range ↔
        t ≠ ⟨startRow, startCol⟩ ∧ c ≤ movementBudget ∧ c < infiniteCost ∧
        (∃ path, Leads (FreeStep map registry units factionId) ⟨startRow, startCol⟩ path t ∧
          map.pathCost path = c) ∧
        ∀ path, Leads (FreeStep map registry units factionId) ⟨startRow, startCol⟩ path t →
          c ≤ map.pathCost path := by
  obtain ⟨range, hrange, hsound, hcomplete⟩ := computeMovementRange_spec movementBudget map registry
    units factionId queue startRow startCol
  have hnodup := computeMovementRange_nodup movementBudget map registry units factionId queue hrange
  have hweighs := freeEdges_weighs map registry units factionId
  -- a path within the budget leads to a tile of the range
  have hpath : ∀ {t path}, t ≠ ⟨startRow, startCol⟩ →
      Leads (FreeStep map registry units factionId) ⟨startRow, startCol⟩ path t →
      map.pathCost path ≤ movementBudget → map.pathCost path < infiniteCost →
      ∃ r ∈ range, r.coord = t ∧ r.cost ≤ map.pathCost path := by
    intro t path ht hleads hbudget hlimit
    obtain ⟨es, hwalk, hlast, -, hcost⟩ := hweighs.walk_of_leads hleads
    rw [Map.pathCost, ← hcost] at hbudget hlimit ⊢
    exact hcomplete t es ht ⟨hwalk, hlast, hbudget, hlimit⟩
  -- and a tile of the range is what such a path leads to
  have hleads : ∀ r ∈ range, r.cost ≤ movementBudget ∧ r.cost < infiniteCost ∧
      ∃ path, Leads (FreeStep map registry units factionId) ⟨startRow, startCol⟩ path r.coord ∧
        map.pathCost path = r.cost := by
    intro r hr
    obtain ⟨-, es, ⟨hwalk, hlast, hbudget, hlimit⟩, hcost⟩ := hsound r hr
    obtain ⟨hleads, hsum⟩ := hweighs.leads_of_walk hwalk
    rw [hlast] at hleads
    rw [hcost] at hbudget hlimit
    exact ⟨hbudget, hlimit, _, hleads, hsum.symm.trans hcost⟩
  refine ⟨range, hrange, hnodup, fun t c => ⟨fun hmem => ?_, fun h => ?_⟩⟩
  · obtain ⟨(hbudget : c ≤ _), (hlimit : c < _), hroute⟩ := hleads _ hmem
    refine ⟨(hsound _ hmem).1, hbudget, hlimit, hroute, fun path hother => ?_⟩
    by_contra hless
    obtain ⟨r, hr, hcoord, hle⟩ := hpath (hsound _ hmem).1 hother (by omega) (by omega)
    have hsame := List.inj_on_of_nodup_map hnodup hr hmem hcoord
    rw [hsame] at hle
    exact hless hle
  · obtain ⟨hne, hbudget, hlimit, ⟨path, hroute, hcost⟩, hleast⟩ := h
    obtain ⟨r, hr, hcoord, hle⟩ := hpath hne hroute (by omega) (by omega)
    obtain ⟨-, -, path', hroute', hcost'⟩ := hleads r hr
    rw [hcoord] at hroute'
    have hge := hleast path' hroute'
    have hsame : r = ⟨t, c⟩ := by
      rw [← hcoord, show c = r.cost from by omega]
    exact hsame ▸ hr

end Range

end My4X
