/-
**Distances are lengths of paths.**

The distance of two tiles is computed from their coordinates, by one formula in three places.  As
long as it fits into an `int` it is
the length of a shortest path over neighbouring tiles, and such a path need not leave the map: from
every tile some neighbour inside the map is one step nearer to the goal, whatever the parity of the
rows.  The distance is therefore a metric, a consistent estimate for the searches, and what the
movement range reports on a field where entering a tile costs one.

Main definitions:

* `My4X.HexStep` — a step to a neighbour;
* `My4X.OpenField` — entering every tile costs one, and no other faction stands in the way.

Main results:

* `My4X.exists_closer` — **from every tile some neighbour is one step nearer to the goal**;
* `My4X.distanceTo_measures`, `My4X.hexDistance_metric` — the distance is the length of a shortest
  path, and a metric;
* `My4X.OpenField.leads_iff` — on an open field the searches may take every step;
* `My4X.Machine.hexDistance_exact` — **the distance is the graph distance of the map**.
-/

import My4X.Lib.Potential
import My4X.Adjacency
import My4X.IntPaths

set_option relaxedAutoImplicit false
set_option autoImplicit false

namespace My4X

open Flood (Leads)

/-! ### Going nearer -/

/-- A step to a neighbour that lies in the map. -/
def HexStep (mapHeight mapWidth : ℤ) (t n : TileCoord) : Prop :=
  n ∈ hexNeighbors t.row t.col mapHeight mapWidth

/-- **A direction leads nearer**: it takes one from a cube difference that is positive and gives it
to one that is negative. -/
def LeadsNearer (dx dz : ℤ) : HexDirection → Prop
  | .NE => dx < 0 ∧ 0 < dz
  | .E => dx < 0 ∧ 0 < -dx - dz
  | .SE => dz < 0 ∧ 0 < -dx - dz
  | .SW => 0 < dx ∧ dz < 0
  | .W => 0 < dx ∧ -dx - dz < 0
  | .NW => 0 < dz ∧ -dx - dz < 0

/-- A step in a direction that leads nearer lowers the distance by one. -/
theorem LeadsNearer.cubeDistance_add {dx dz : ℤ} {dir : HexDirection} (h : LeadsNearer dx dz dir) :
    cubeDistance (dx + (cubeOffset dir).1) (dz + (cubeOffset dir).2) + 1 = cubeDistance dx dz := by
  have htwice := two_mul_cubeDistance dx dz
  have htwice' := two_mul_cubeDistance (dx + (cubeOffset dir).1) (dz + (cubeOffset dir).2)
  cases dir <;> simp only [LeadsNearer, cubeOffset] at h htwice' ⊢ <;> omega

/-- The difference of the first cube coordinates of two tiles. -/
theorem cubeX_sub (row col row' col' : ℤ) :
    cubeX row col - cubeX row' col' =
      col - col' - (row - row % 2) / 2 + (row' - row' % 2) / 2 := by
  rw [cubeX, cubeX]
  omega

section Closer

variable {mapHeight mapWidth : ℤ} {t goal : TileCoord}

/-- A step in a direction that leads nearer and stays in the map. -/
theorem closer_of_leadsNearer (row col : ℤ) (dir : HexDirection)
    (hin : InBounds row col mapHeight mapWidth)
    (hstep : (t.row + (rowOffset t.row dir).1, t.col + (rowOffset t.row dir).2) = (row, col))
    (hnearer : LeadsNearer (cubeX t.row t.col - cubeX goal.row goal.col) (t.row - goal.row) dir) :
    ∃ n, HexStep mapHeight mapWidth t n ∧ distanceTo goal n + 1 = distanceTo goal t := by
  refine ⟨⟨row, col⟩, (mem_hexNeighbors_iff (n := ⟨row, col⟩) hin).2
    (hexDistance_eq_one_iff.2 ⟨dir, hstep⟩), ?_⟩
  obtain ⟨hx, hrow⟩ := rowOffset_eq_iff.1 hstep
  have hx' : cubeX row col - cubeX goal.row goal.col =
      cubeX t.row t.col - cubeX goal.row goal.col + (cubeOffset dir).1 := by omega
  have hrow' : row - goal.row = t.row - goal.row + (cubeOffset dir).2 := by omega
  rw [distanceTo, distanceTo, hexDistance_eq, hexDistance_eq, ← hnearer.cubeDistance_add, ← hx',
    ← hrow']

/-- In the row of the goal the next tile towards it is nearer. -/
theorem exists_closer_beside (ht : InBounds t.row t.col mapHeight mapWidth)
    (hgoal : InBounds goal.row goal.col mapHeight mapWidth) (hrow : t.row = goal.row)
    (hcol : t.col ≠ goal.col) :
    ∃ n, HexStep mapHeight mapWidth t n ∧ distanceTo goal n + 1 = distanceTo goal t := by
  obtain ⟨h1, h2, h3, h4⟩ := ht
  obtain ⟨-, -, h5, h6⟩ := hgoal
  have hx := cubeX_sub t.row t.col goal.row goal.col
  rcases lt_or_gt_of_ne hcol with hwest | heast
  · refine closer_of_leadsNearer t.row (t.col + 1) .E ⟨h1, h2, by omega, by omega⟩
      ?_ ⟨by omega, by omega⟩
    rw [rowOffset]
    split <;> exact Prod.ext (Int.add_zero _) rfl
  · refine closer_of_leadsNearer t.row (t.col - 1) .W ⟨h1, h2, by omega, by omega⟩
      ?_ ⟨by omega, by omega⟩
    rw [rowOffset]
    split <;> exact Prod.ext (Int.add_zero _) rfl

/-- Above the goal one of the two neighbours below is nearer and in the map. -/
theorem exists_closer_below (ht : InBounds t.row t.col mapHeight mapWidth)
    (hgoal : InBounds goal.row goal.col mapHeight mapWidth) (hrow : t.row < goal.row) :
    ∃ n, HexStep mapHeight mapWidth t n ∧ distanceTo goal n + 1 = distanceTo goal t := by
  obtain ⟨h1, -, h3, h4⟩ := ht
  obtain ⟨-, h2, h5, h6⟩ := hgoal
  have hx := cubeX_sub t.row t.col goal.row goal.col
  by_cases heven : t.row % 2 = 0
  · -- the neighbour to the south-east is in the same column
    by_cases hwest : 0 < -(cubeX t.row t.col - cubeX goal.row goal.col) - (t.row - goal.row)
    · refine closer_of_leadsNearer (t.row + 1) t.col .SE
        ⟨by omega, by omega, h3, h4⟩ ?_ ⟨by omega, hwest⟩
      rw [rowOffset_of_even heven]
      exact Prod.ext rfl (Int.add_zero _)
    · refine closer_of_leadsNearer (t.row + 1) (t.col - 1) .SW
        ⟨by omega, by omega, by omega, by omega⟩ ?_ ⟨by omega, by omega⟩
      rw [rowOffset_of_even heven]
      rfl
  · -- the neighbour to the south-west is in the same column
    by_cases heast : 0 < cubeX t.row t.col - cubeX goal.row goal.col
    · refine closer_of_leadsNearer (t.row + 1) t.col .SW
        ⟨by omega, by omega, h3, h4⟩ ?_ ⟨heast, by omega⟩
      rw [rowOffset_of_odd heven]
      exact Prod.ext rfl (Int.add_zero _)
    · refine closer_of_leadsNearer (t.row + 1) (t.col + 1) .SE
        ⟨by omega, by omega, by omega, by omega⟩ ?_ ⟨by omega, by omega⟩
      rw [rowOffset_of_odd heven]
      rfl

/-- Below the goal one of the two neighbours above is nearer and in the map. -/
theorem exists_closer_above (ht : InBounds t.row t.col mapHeight mapWidth)
    (hgoal : InBounds goal.row goal.col mapHeight mapWidth) (hrow : goal.row < t.row) :
    ∃ n, HexStep mapHeight mapWidth t n ∧ distanceTo goal n + 1 = distanceTo goal t := by
  obtain ⟨-, h2, h3, h4⟩ := ht
  obtain ⟨h1, -, h5, h6⟩ := hgoal
  have hx := cubeX_sub t.row t.col goal.row goal.col
  by_cases heven : t.row % 2 = 0
  · -- the neighbour to the north-east is in the same column
    by_cases heast : cubeX t.row t.col - cubeX goal.row goal.col < 0
    · refine closer_of_leadsNearer (t.row - 1) t.col .NE
        ⟨by omega, by omega, h3, h4⟩ ?_ ⟨heast, by omega⟩
      rw [rowOffset_of_even heven]
      exact Prod.ext rfl (Int.add_zero _)
    · refine closer_of_leadsNearer (t.row - 1) (t.col - 1) .NW
        ⟨by omega, by omega, by omega, by omega⟩ ?_ ⟨by omega, by omega⟩
      rw [rowOffset_of_even heven]
      rfl
  · -- the neighbour to the north-west is in the same column
    by_cases hwest : -(cubeX t.row t.col - cubeX goal.row goal.col) - (t.row - goal.row) < 0
    · refine closer_of_leadsNearer (t.row - 1) t.col .NW
        ⟨by omega, by omega, h3, h4⟩ ?_ ⟨by omega, hwest⟩
      rw [rowOffset_of_odd heven]
      exact Prod.ext rfl (Int.add_zero _)
    · refine closer_of_leadsNearer (t.row - 1) (t.col + 1) .NE
        ⟨by omega, by omega, by omega, by omega⟩ ?_ ⟨by omega, by omega⟩
      rw [rowOffset_of_odd heven]
      rfl

/-- **From every tile some neighbour in the map is one step nearer to the goal.** -/
theorem exists_closer (ht : InBounds t.row t.col mapHeight mapWidth)
    (hgoal : InBounds goal.row goal.col mapHeight mapWidth) (hne : t ≠ goal) :
    ∃ n, HexStep mapHeight mapWidth t n ∧ distanceTo goal n + 1 = distanceTo goal t := by
  rcases lt_trichotomy t.row goal.row with hbelow | hbeside | habove
  · exact exists_closer_below ht hgoal hbelow
  · refine exists_closer_beside ht hgoal hbeside fun hcol => ?_
    exact hne (TileCoord.ext_iff'.2 ⟨hbeside, hcol⟩)
  · exact exists_closer_above ht hgoal habove

end Closer

/-! ### The distance as a metric -/

theorem hexDistance_eq_zero_iff {row1 col1 row2 col2 : ℤ} :
    hexDistance row1 col1 row2 col2 = 0 ↔ row1 = row2 ∧ col1 = col2 := by
  constructor
  · intro h
    have htwice := two_mul_cubeDistance (cubeX row1 col1 - cubeX row2 col2) (row1 - row2)
    rw [← hexDistance_eq, h] at htwice
    obtain rfl : row1 = row2 := by omega
    exact ⟨rfl, col_eq_of_cubeX row1 (by omega)⟩
  · rintro ⟨rfl, rfl⟩
    exact hexDistance_self row1 col1

/-- **The distance is a metric.** -/
theorem hexDistance_metric :
    Potential.Metric fun s t : TileCoord => hexDistance s.row s.col t.row t.col where
  nonneg _ _ := hexDistance_nonneg _ _ _ _
  eq_zero_iff _ _ := hexDistance_eq_zero_iff.trans TileCoord.ext_iff'.symm
  comm _ _ := hexDistance_comm _ _ _ _
  triangle _ _ _ := hexDistance_triangle _ _ _ _ _ _

/-- **The distance to a tile of the map measures the way there.** -/
theorem distanceTo_measures {mapHeight mapWidth : ℤ} {goal : TileCoord}
    (hgoal : InBounds goal.row goal.col mapHeight mapWidth) :
    Potential.Measures (HexStep mapHeight mapWidth)
      (fun t => InBounds t.row t.col mapHeight mapWidth) goal (distanceTo goal) where
  nonneg _ := hexDistance_nonneg _ _ _ _
  goal_eq_zero := hexDistance_self goal.row goal.col
  le_succ t n hstep := by
    have hnear := (mem_hexNeighbors_iff (mem_hexNeighbors_inBounds hstep)).1 hstep
    have htriangle := hexDistance_triangle t.row t.col n.row n.col goal.row goal.col
    rw [distanceTo, distanceTo]
    omega
  exists_step t ht hne := by
    obtain ⟨n, hstep, hless⟩ := exists_closer ht hgoal hne
    exact ⟨n, hstep, mem_hexNeighbors_inBounds hstep, hless⟩

/-! ### Open fields -/

/-- **An open field**: entering every tile costs one, and no other faction stands in the way. -/
structure OpenField (map : Map) (registry : TileRegistry) (units : UnitVec)
    (factionId : FactionId) :
    Prop where
  cost_eq_one : ∀ row col tile, map.tile row col = .ok tile →
    (getTerrainProperties tile.terrain).movementCost = 1
  unheld : ∀ row col, ∀ unit ∈ unitsOnTile registry units row col, unit.factionId = factionId

/-- A terrain that costs something can be entered. -/
theorem passable_of_movementCost {t : TerrainType} (h : (getTerrainProperties t).movementCost = 1) :
    (getTerrainProperties t).passable = true := by
  cases t <;> simp_all [getTerrainProperties]

section OpenField

variable {map : Map} {registry : TileRegistry} {units : UnitVec} {factionId : FactionId}

/-- On an open field the searches may take every step. -/
theorem OpenField.freeStep_iff (h : OpenField map registry units factionId) {t n : TileCoord} :
    FreeStep map registry units factionId t n ↔ HexStep map.height map.width t n := by
  constructor
  · intro hstep
    exact (mem_hexNeighbors_iff hstep.inBounds).2 hstep.near
  · intro hstep
    have hin := mem_hexNeighbors_inBounds hstep
    obtain ⟨tile, htile⟩ := (map.tile_eq_ok_iff n.row n.col).2 hin
    exact ⟨(mem_hexNeighbors_iff hin).1 hstep,
      ⟨tile, htile, passable_of_movementCost (h.cost_eq_one _ _ tile htile)⟩, h.unheld n.row n.col⟩

/-- On an open field the ways of the searches are the paths over neighbours, and cost their
length. -/
theorem OpenField.leads_iff (h : OpenField map registry units factionId) {path : List TileCoord} :
    ∀ {t goal : TileCoord}, Leads (FreeStep map registry units factionId) t path goal ↔
      Leads (HexStep map.height map.width) t path goal := by
  intro t goal
  constructor
  · exact Leads.mono fun _ _ => h.freeStep_iff.1
  · exact Leads.mono fun _ _ => h.freeStep_iff.2

theorem OpenField.pathCost_eq (h : OpenField map registry units factionId) {path : List TileCoord} :
    ∀ {t goal : TileCoord}, Leads (HexStep map.height map.width) t path goal →
      map.pathCost path = path.length := by
  induction path with
  | nil => intro t goal _; rfl
  | cons n path ih =>
      intro t goal hpath
      obtain ⟨tile, htile⟩ := (map.tile_eq_ok_iff n.row n.col).2 (mem_hexNeighbors_inBounds hpath.1)
      have hcost : map.entryCost n = 1 := by
        rw [Map.entryCost, htile]
        exact h.cost_eq_one _ _ tile htile
      have hrest := ih hpath.2
      rw [Map.pathCost] at hrest ⊢
      rw [List.map_cons, List.sum_cons, hrest, hcost, List.length_cons]
      omega

/-- **On an open field the movement range reports the distance.** -/
theorem OpenField.computeMovementRange_eq (h : OpenField map registry units factionId)
    {start : TileCoord} (hstart : InBounds start.row start.col map.height map.width)
    (movementBudget : ℤ) (queue : CostQueue) :
    ∃ range,
      computeMovementRange movementBudget map registry units factionId queue start.row start.col =
        .ok range ∧
      (range.map ReachableTile.coord).Nodup ∧
      ∀ t c, (⟨t, c⟩ : ReachableTile) ∈ range ↔
        t ≠ start ∧ InBounds t.row t.col map.height map.width ∧
        c = hexDistance start.row start.col t.row t.col ∧ c ≤ movementBudget ∧
        c < infiniteCost := by
  obtain ⟨range, hrange, hnodup, hexact⟩ := computeMovementRange_routes movementBudget map registry
    units factionId queue start.row start.col
  refine ⟨range, hrange, hnodup, fun t c => (hexact t c).trans ?_⟩
  constructor
  · rintro ⟨hne, hbudget, hlimit, ⟨path, hpath, hcost⟩, hleast⟩
    have hsteps := h.leads_iff.1 hpath
    obtain ⟨u, hu⟩ := hsteps.exists_last (Ne.symm hne)
    have ht := mem_hexNeighbors_inBounds hu
    have hmeasures := distanceTo_measures ht
    obtain ⟨shortest, hshortest, hlength⟩ := hmeasures.exists_leads hstart
    have hle : c ≤ hexDistance start.row start.col t.row t.col := by
      rw [← distanceTo, ← hlength, ← h.pathCost_eq hshortest]
      exact hleast shortest (h.leads_iff.2 hshortest)
    have hge : hexDistance start.row start.col t.row t.col ≤ c := by
      rw [← hcost, h.pathCost_eq hsteps]
      exact hmeasures.le_length hsteps
    exact ⟨hne, ht, le_antisymm hle hge, hbudget, hlimit⟩
  · rintro ⟨hne, ht, rfl, hbudget, hlimit⟩
    have hmeasures := distanceTo_measures ht
    obtain ⟨shortest, hshortest, hlength⟩ := hmeasures.exists_leads hstart
    refine ⟨hne, hbudget, hlimit, ⟨shortest, h.leads_iff.2 hshortest, ?_⟩, fun path hpath => ?_⟩
    · rw [h.pathCost_eq hshortest, hlength, distanceTo]
    · have hsteps := h.leads_iff.1 hpath
      rw [h.pathCost_eq hsteps]
      exact hmeasures.le_length hsteps

/-- On an open field the sums of a flood fit, whatever the budget. -/
theorem OpenField.int_eq (h : OpenField map registry units factionId) (movementBudget : ℤ)
    (queue : CostQueue) (startRow startCol : ℤ) :
    Machine.computeMovementRange movementBudget map registry units factionId queue startRow
    startCol =
      computeMovementRange movementBudget map registry units factionId queue startRow startCol := by
  have hmost : ∀ n : TileCoord, InBounds n.row n.col map.height map.width →
    map.entryCost n ≤ 1 := by
    intro n hn
    obtain ⟨tile, htile⟩ := (map.tile_eq_ok_iff n.row n.col).2 hn
    rw [Map.entryCost, htile]
    exact (h.cost_eq_one _ _ tile htile).le
  exact Machine.computeMovementRange_eq_of_entryCost_le hmost (by omega) queue startRow startCol

end OpenField

namespace Machine

/-- **The distance is the graph distance of the map.**  In a map of at most `2 ^ 30` rows and
columns together the distance of two tiles is the length of a shortest path over neighbours that lie
in the map; the three formulas agree.  On such a map the distance is a metric, it is a consistent
estimate for the searches, and on an open field it is what the movement range reports for the tiles
within the budget. -/
theorem hexDistance_exact {mapHeight mapWidth : ℤ} {a b : TileCoord}
    (hsize : mapHeight + mapWidth ≤ 1073741824)
    (ha : InBounds a.row a.col mapHeight mapWidth) (hb : InBounds b.row b.col mapHeight mapWidth) :
    IsLeast {k : ℤ | ∃ path, Leads (HexStep mapHeight mapWidth) a path b ∧ (path.length : ℤ) = k}
        (hexDistance a.row a.col b.row b.col) ∧
      AttackAction.hexDistance a.row a.col b.row b.col = hexDistance a.row a.col b.row b.col ∧
      FogOfWar.hexDistance a.row a.col b.row b.col = hexDistance a.row a.col b.row b.col ∧
      (Potential.Metric fun s t : {t : TileCoord // InBounds t.row t.col mapHeight mapWidth} =>
        hexDistance s.1.row s.1.col t.1.row t.1.col) ∧
      ∀ map : Map, map.height = mapHeight → map.width = mapWidth →
        ∀ registry units factionId,
          (∀ rules t, InBounds t.row t.col mapHeight mapWidth →
            ∀ e ∈ searchEdges rules map registry units factionId t,
              hexDistance t.row t.col b.row b.col ≤
                e.2 + hexDistance e.1.row e.1.col b.row b.col) ∧
          (OpenField map registry units factionId → ∀ movementBudget queue, ∃ range,
            computeMovementRange movementBudget map registry units factionId queue a.row a.col =
              .ok range ∧
            (range.map ReachableTile.coord).Nodup ∧
            ∀ t c, (⟨t, c⟩ : ReachableTile) ∈ range ↔
              t ≠ a ∧ InBounds t.row t.col mapHeight mapWidth ∧
              c = hexDistance a.row a.col t.row t.col ∧ c ≤ movementBudget) := by
  have hsame : ∀ {s t : TileCoord}, InBounds s.row s.col mapHeight mapWidth →
      InBounds t.row t.col mapHeight mapWidth →
      hexDistance s.row s.col t.row t.col = My4X.hexDistance s.row s.col t.row t.col :=
    fun hs ht => hexDistance_eq hsize hs ht
  refine ⟨?_, rfl, rfl, hexDistance_metric.subtype fun _ _ => hsame, ?_⟩
  · rw [hsame ha hb]
    exact (distanceTo_measures hb).isLeast ha
  · rintro map rfl rfl registry units factionId
    refine ⟨fun rules t ht e he => ?_, fun hopen movementBudget queue => ?_⟩
    · have hin := (((searchEdges_weighs rules map registry units factionId).mem_iff t e).1 he).1
      rw [hsame ht hb, hsame hin.free.inBounds hb]
      exact (distanceTo_consistent rules map registry units factionId b).le_edge t e he
    · obtain ⟨range, hrange, hnodup, hexact⟩ :=
        hopen.computeMovementRange_eq ha movementBudget queue
      refine ⟨range, (hopen.int_eq movementBudget queue a.row a.col).trans hrange, hnodup,
        fun t c => (hexact t c).trans (and_congr_right fun _ => and_congr_right fun ht => ?_)⟩
      rw [hsame ha ht]
      have hlt := hexDistance_lt ha ht
      rw [infiniteCost]
      omega

end Machine

/-- The field of plains is open when nobody stands on it. -/
theorem plainField_openField : OpenField plainField.map .empty .empty 1 where
  cost_eq_one row col tile htile := by
    have hin : InBounds row col 3 3 := (plainField.map.tile_eq_ok_iff row col).1 ⟨tile, htile⟩
    have hget : (generateTiles 3 3 fun _ => .plains).get? row col = some tile :=
      Map.tile_eq_ok.1 htile
    rw [generateTiles_get? _ hin] at hget
    rw [← Option.some_inj.1 hget, generateTile_terrain]
    rfl
  unheld row col unit hunit := by
    rw [unitsOnTile_noUnits] at hunit
    exact absurd hunit List.not_mem_nil

/-- From corner to corner of the field of plains, and the range of a unit there. -/
theorem plainField_hexDistance :
    IsLeast {k : ℤ | ∃ path, Leads (HexStep 3 3) ⟨0, 0⟩ path ⟨2, 2⟩ ∧ (path.length : ℤ) = k} 3 ∧
      ∃ range, Machine.computeMovementRange 2 plainField.map .empty .empty 1
      CostQueue.firstLeast 0 0 =
          .ok range ∧
        ∀ t c, (⟨t, c⟩ : ReachableTile) ∈ range ↔
          t ≠ ⟨0, 0⟩ ∧ InBounds t.row t.col 3 3 ∧ c = Machine.hexDistance 0 0 t.row t.col ∧
          c ≤ 2 := by
  obtain ⟨hleast, -, -, -, hmap⟩ := Machine.hexDistance_exact (a := ⟨0, 0⟩) (b := ⟨2, 2⟩)
    (by decide) (show InBounds 0 0 3 3 by decide) (show InBounds 2 2 3 3 by decide)
  obtain ⟨-, hrange⟩ := hmap plainField.map rfl rfl .empty .empty 1
  obtain ⟨range, heq, -, hexact⟩ := hrange plainField_openField 2 CostQueue.firstLeast
  exact ⟨hleast, range, heq, hexact⟩

/-- From one end of a long row to the other the distance overflows. -/
theorem longRow_hexDistance :
    Machine.hexDistance 0 0 0 1073741825 = -1073741823 ∧
      ¬ IsLeast {k : ℤ | ∃ path, Leads (HexStep 1 1073741826) ⟨0, 0⟩ path ⟨0, 1073741825⟩ ∧
        (path.length : ℤ) = k} (Machine.hexDistance 0 0 0 1073741825) := by
  have hvalue : Machine.hexDistance 0 0 0 1073741825 = -1073741823 := by decide
  refine ⟨hvalue, fun h => ?_⟩
  obtain ⟨⟨path, -, hlength⟩, -⟩ := h
  rw [hvalue] at hlength
  omega

end My4X
