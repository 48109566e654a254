/-
**The fog of war.**

A faction sees the tiles in sight of its units and of every tile of its cities.  When its view is
computed anew, what it saw before is demoted to explored, and then every tile in sight is marked
visible: a box around each place is scanned, and the tiles of the box within the sight range are
marked.  A mark goes to an entry of the grid of the faction without a check that the entry is there.

Main definitions:

* `My4X.FogOfWar.applyVision` — marks the tiles in sight of a place;
* `My4X.FogOfWar.recalculate` — the view of a faction, computed anew;
* `My4X.FogOfWar.Fits` — the grids have an entry for every tile of the map;
* `My4X.FogOfWar.Marked` — some tiles have been marked visible, and no others;
* `My4X.FogOfWar.InSight`, `My4X.FogOfWar.Seen` — what a faction sees, and what it knows of a tile.

Main results:

* `My4X.FogOfWar.box_of_hexDistance_le` — the box around a place covers what is in sight of it;
* `My4X.FogOfWar.Fits.recalculate` — **a view that fits the map can be computed anew, and fits the
  map again**;
* `My4X.FogOfWar.recalculate_seen` — **the view that is computed anew is exact**.
-/

import My4X.GameState
import My4X.Lib.Fallible

set_option relaxedAutoImplicit false
set_option autoImplicit false

namespace My4X

/-- The sight range of a city, `CITY_SIGHT_RANGE`. -/
def citySightRange : ℤ := 3

namespace FogOfWar

/-! ### The view of a faction -/

/-- The grid of a faction; a new one is unexplored everywhere. -/
def ensureGrid (fog : FogOfWar) (factionId : FactionId) : List VisibilityState :=
  (fog.grids.lookup factionId).getD
    (List.replicate (fog.rows * fog.cols).toNat .unexplored)

/-- What was visible becomes explored. -/
def demote (grid : List VisibilityState) : List VisibilityState :=
  grid.map fun state => if state = .visible then .explored else state

/-- Writes an entry of a grid, which has to be there. -/
def markVisible (fog : FogOfWar) (grid : List VisibilityState) (row col : ℤ) :
    Except Fault (List VisibilityState) :=
  if fog.index row col < grid.length then .ok (grid.set (fog.index row col) .visible)
  else .error .assertion

/-- The integers from one to another, both included. -/
def interval (lo hi : ℤ) : List ℤ := (List.range (hi - lo + 1).toNat).map fun k : ℕ => lo + k

/-- **Marks the tiles in sight of a place**: the tiles of a box around it, cut off at the borders of
the map, that are within the sight range. -/
def applyVision (fog : FogOfWar) (map : Map) (sightRange : ℤ) (grid : List VisibilityState)
    (center : TileCoord) : Except Fault (List VisibilityState) :=
  let minRow := max 0 (center.row - sightRange)
  let maxRow := min (map.height - 1) (center.row + sightRange)
  let minCol := max 0 (center.col - sightRange)
  let maxCol := min (map.width - 1) (center.col + sightRange)
  (interval minRow maxRow).foldlM
    (fun grid row =>
      (interval minCol maxCol).foldlM
        (fun grid col =>
          if hexDistance center.row center.col row col ≤ sightRange then
            fog.markVisible grid row col
          else .ok grid) grid) grid

/-- **The view of a faction, computed anew** from its units and its cities. -/
def recalculate (fog : FogOfWar) (factionId : FactionId) (units : UnitVec) (cities : List City)
    (map : Map) : Except Fault FogOfWar := do
  let grid := demote (fog.ensureGrid factionId)
  let grid ← units.list.foldlM
    (fun grid p =>
      if p.unit.factionId ≠ factionId then .ok grid
      else fog.applyVision map p.unit.template.sightRange grid p.unit.coord) grid
  let grid ← cities.foldlM
    (fun grid city =>
      if city.ownedBy factionId then
        city.tiles.toList.foldlM (fog.applyVision map citySightRange) grid
      else .ok grid) grid
  return { fog with grids := fog.grids.insert factionId grid }

/-! ### Grids of the size of the map -/

/-- **The grids have an entry for every tile of the map.** -/
structure Fits (fog : FogOfWar) (map : Map) : Prop where
  rows : fog.rows = map.height
  cols : fog.cols = map.width
  length : ∀ factionId grid, fog.grids.lookup factionId = some grid →
    grid.length = (map.height * map.width).toNat

theorem mem_interval {lo hi a : ℤ} : a ∈ interval lo hi ↔ lo ≤ a ∧ a ≤ hi := by
  rw [interval, List.mem_map]
  constructor
  · rintro ⟨k, hk, rfl⟩
    have := List.mem_range.1 hk
    omega
  · intro h
    exact ⟨(a - lo).toNat, List.mem_range.2 (by omega), by omega⟩

variable {fog : FogOfWar} {map : Map}

/-- A tile of the map has an entry. -/
theorem Fits.index_lt (h : fog.Fits map) {row col : ℤ}
    (ht : InBounds row col map.height map.width) :
    fog.index row col < (map.height * map.width).toNat := by
  obtain ⟨hrow, hrow', hcol, hcol'⟩ := ht
  have hwidth := map.width_pos
  have hlast : row * map.width + col < map.height * map.width := by
    have hle : (row + 1) * map.width ≤ map.height * map.width :=
      Int.mul_le_mul_of_nonneg_right (by omega) (by omega)
    rw [Int.add_mul, Int.one_mul] at hle
    omega
  have hfirst : 0 ≤ row * map.width := Int.mul_nonneg hrow (by omega)
  rw [index, h.cols]
  omega

theorem Fits.ensureGrid_length (h : fog.Fits map) (factionId : FactionId) :
    (fog.ensureGrid factionId).length = (map.height * map.width).toNat := by
  rw [ensureGrid]
  cases hgrid : fog.grids.lookup factionId with
  | none => rw [Option.getD_none, List.length_replicate, h.rows, h.cols]
  | some grid => exact h.length factionId grid hgrid

/-- Different tiles of the map have different entries. -/
theorem Fits.index_inj (h : fog.Fits map) {row col row' col' : ℤ}
    (ht : InBounds row col map.height map.width) (ht' : InBounds row' col' map.height map.width)
    (heq : fog.index row col = fog.index row' col') : row = row' ∧ col = col' := by
  obtain ⟨hrow, -, hcol, hcol'⟩ := ht
  obtain ⟨hrow', -, hcol₂, hcol₂'⟩ := ht'
  have hwidth := map.width_pos
  rw [index, index, h.cols] at heq
  have hfirst : 0 ≤ row * map.width := Int.mul_nonneg hrow (by omega)
  have hfirst' : 0 ≤ row' * map.width := Int.mul_nonneg hrow' (by omega)
  have hentry : col + map.width * row = col' + map.width * row' := by
    rw [Int.mul_comm map.width row, Int.mul_comm map.width row']
    omega
  have hrows : row = row' := by
    have hdiv := congrArg (· / map.width) hentry
    rwa [Int.add_mul_ediv_left _ _ (by omega), Int.add_mul_ediv_left _ _ (by omega),
      Int.ediv_eq_zero_of_lt hcol hcol', Int.ediv_eq_zero_of_lt hcol₂ hcol₂', Int.zero_add,
      Int.zero_add] at hdiv
  subst hrows
  exact ⟨rfl, by omega⟩

/-! ### Marks -/

/-- **Some tiles of the map have been marked visible**, and the others are as they were. -/
structure Marked (fog : FogOfWar) (map : Map) (S : ℤ → ℤ → Prop)
    (grid grid' : List VisibilityState) : Prop where
  length : grid'.length = grid.length
  inside : ∀ row col, InBounds row col map.height map.width → S row col →
    grid'[fog.index row col]? = some .visible
  outside : ∀ row col, InBounds row col map.height map.width → ¬ S row col →
    grid'[fog.index row col]? = grid[fog.index row col]?

/-- No tile has been marked. -/
theorem marked_refl {S : ℤ → ℤ → Prop} (hS : ∀ row col, ¬ S row col)
    (grid : List VisibilityState) : Marked fog map S grid grid :=
  ⟨rfl, fun row col _ h => absurd h (hS row col), fun _ _ _ _ => rfl⟩

theorem Marked.congr {S T : ℤ → ℤ → Prop} {grid grid' : List VisibilityState}
    (h : Marked fog map S grid grid')
    (hST : ∀ row col, InBounds row col map.height map.width → (S row col ↔ T row col)) :
    Marked fog map T grid grid' :=
  ⟨h.length, fun row col ht hT => h.inside row col ht ((hST row col ht).2 hT),
    fun row col ht hT => h.outside row col ht fun hS => hT ((hST row col ht).1 hS)⟩

/-- Marks that are made one after the other. -/
theorem Marked.trans {S T : ℤ → ℤ → Prop} {grid grid' grid'' : List VisibilityState}
    (h : Marked fog map S grid grid') (h' : Marked fog map T grid' grid'') :
    Marked fog map (fun row col => S row col ∨ T row col) grid grid'' where
  length := h'.length.trans h.length
  inside row col ht hST := by
    by_cases hT : T row col
    · exact h'.inside row col ht hT
    · rw [h'.outside row col ht hT]
      exact h.inside row col ht (hST.resolve_right hT)
  outside row col ht hST := by
    rw [not_or] at hST
    rw [h'.outside row col ht hST.2, h.outside row col ht hST.1]

/-- **Steps that mark some tiles each mark all of them.** -/
theorem foldlM_marked (fog : FogOfWar) (map : Map) {α : Type}
    {f : List VisibilityState → α → Except Fault (List VisibilityState)} {S : α → ℤ → ℤ → Prop}
    {n : ℕ} {l : List α}
    (hf : ∀ grid, ∀ a ∈ l, grid.length = n → ∃ grid', f grid a = .ok grid' ∧
      Marked fog map (S a) grid grid') :
    ∀ grid, grid.length = n → ∃ grid', l.foldlM f grid = .ok grid' ∧
      Marked fog map (fun row col => ∃ a ∈ l, S a row col) grid grid' := by
  induction l with
  | nil => exact fun grid _ => ⟨grid, rfl, marked_refl (by simp) grid⟩
  | cons a l ih =>
      intro grid hgrid
      obtain ⟨grid₁, hstep, hmarked⟩ := hf grid a List.mem_cons_self hgrid
      obtain ⟨grid', hrest, hmarked'⟩ := ih (fun grid b hb => hf grid b (List.mem_cons_of_mem _ hb))
        grid₁ (hmarked.length.trans hgrid)
      refine ⟨grid', ?_, (hmarked.trans hmarked').congr fun row col _ => ?_⟩
      · rw [List.foldlM_cons, hstep]
        exact hrest
      · rw [List.exists_mem_cons_iff]

/-- A tile is marked. -/
theorem Fits.markVisible (h : fog.Fits map) {grid : List VisibilityState}
    (hgrid : grid.length = (map.height * map.width).toNat) {row col : ℤ}
    (ht : InBounds row col map.height map.width) :
    ∃ grid', fog.markVisible grid row col = .ok grid' ∧
      Marked fog map (fun row' col' => row' = row ∧ col' = col) grid grid' := by
  have hlt : fog.index row col < grid.length := by
    rw [hgrid]
    exact h.index_lt ht
  rw [FogOfWar.markVisible, if_pos hlt]
  refine ⟨_, rfl, List.length_set, ?_, fun row' col' ht' hne => ?_⟩
  · rintro _ _ - ⟨rfl, rfl⟩
    exact List.getElem?_set_self hlt
  · refine List.getElem?_set_ne fun heq => hne ?_
    obtain ⟨hrow, hcol⟩ := h.index_inj ht ht' heq
    exact ⟨hrow.symm, hcol.symm⟩

/-- **What is in sight of a place lies in a box around it.** -/
theorem box_of_hexDistance_le {row col row' col' sightRange : ℤ}
    (h : hexDistance row col row' col' ≤ sightRange) :
    row - sightRange ≤ row' ∧ row' ≤ row + sightRange ∧
      col - sightRange ≤ col' ∧ col' ≤ col + sightRange := by
  have hcube := two_mul_cubeDistance (cubeX row col - cubeX row' col') (row - row')
  rw [hexDistance_eq] at h
  rw [cubeX, cubeX] at h hcube
  omega

/-- **The tiles in sight of a place are marked.** -/
theorem Fits.applyVision (h : fog.Fits map) (sightRange : ℤ) (center : TileCoord)
    {grid : List VisibilityState} (hgrid : grid.length = (map.height * map.width).toNat) :
    ∃ grid', fog.applyVision map sightRange grid center = .ok grid' ∧
      Marked fog map (fun row col => hexDistance center.row center.col row col ≤ sightRange)
        grid grid' := by
  obtain ⟨grid', hvision, hmarked⟩ := foldlM_marked fog map
    (S := fun row row' col' => ∃ col ∈ interval (max 0 (center.col - sightRange))
      (min (map.width - 1) (center.col + sightRange)),
      hexDistance center.row center.col row col ≤ sightRange ∧ row' = row ∧ col' = col)
    (l := interval (max 0 (center.row - sightRange))
      (min (map.height - 1) (center.row + sightRange)))
    (f := fun grid row =>
      (interval (max 0 (center.col - sightRange))
        (min (map.width - 1) (center.col + sightRange))).foldlM
        (fun grid col =>
          if hexDistance center.row center.col row col ≤ sightRange then
            fog.markVisible grid row col
          else .ok grid) grid)
    (fun grid row hrow hgrid => foldlM_marked fog map (fun grid col hcol hgrid => by
      have hrow := mem_interval.1 hrow
      have hcol := mem_interval.1 hcol
      split
      · next hsight =>
          have hin : InBounds row col map.height map.width := by
            refine ⟨?_, ?_, ?_, ?_⟩ <;> omega
          obtain ⟨grid', hmark, hmarked⟩ := h.markVisible hgrid hin
          exact ⟨grid', hmark, hmarked.congr fun _ _ _ => (and_iff_right hsight).symm⟩
      · next hsight => exact ⟨grid, rfl, marked_refl (fun _ _ hS => hsight hS.1) grid⟩)
      grid hgrid) grid hgrid
  refine ⟨grid', hvision, hmarked.congr fun row col ht => ?_⟩
  obtain ⟨hrow, hrow', hcol, hcol'⟩ := ht
  constructor
  · rintro ⟨_, -, _, -, hsight, rfl, rfl⟩
    exact hsight
  · intro hsight
    have hbox := box_of_hexDistance_le hsight
    refine ⟨row, mem_interval.2 ?_, col, mem_interval.2 ?_, hsight, rfl, rfl⟩ <;> omega

/-! ### The view, computed anew -/

/-- **A tile is in sight of a faction**: within the sight range of a unit of it, or within that of a
city from a tile of a city of it. -/
def InSight (factionId : FactionId) (units : UnitVec) (cities : List City) (row col : ℤ) : Prop :=
  (∃ p ∈ units.list, p.unit.factionId = factionId ∧
    hexDistance p.unit.row p.unit.col row col ≤ p.unit.template.sightRange) ∨
  ∃ city ∈ cities, city.ownedBy factionId = true ∧
    ∃ t ∈ city.tiles, hexDistance t.row t.col row col ≤ citySightRange

/-- **What a faction knows of a tile** before and after its view is computed anew. -/
structure Seen (inSight : Prop) (before after : VisibilityState) : Prop where
  visible_iff : after = .visible ↔ inSight
  explored_iff : after = .explored ↔ ¬ inSight ∧ before ≠ .unexplored
  unexplored_iff : after = .unexplored ↔ ¬ inSight ∧ before = .unexplored

/-- A tile in sight is visible. -/
theorem seen_visible {inSight : Prop} (h : inSight) (before : VisibilityState) :
    Seen inSight before .visible := by
  constructor
  · exact ⟨fun _ => h, fun _ => rfl⟩
  · exact ⟨fun hafter => (by cases hafter), fun hnot => absurd h hnot.1⟩
  · exact ⟨fun hafter => (by cases hafter), fun hnot => absurd h hnot.1⟩

/-- A tile out of sight is not visible any more, and explored if it has been. -/
theorem seen_demoted {inSight : Prop} (h : ¬ inSight) (before : VisibilityState) :
    Seen inSight before (if before = .visible then .explored else before) := by
  cases before with
  | unexplored => exact ⟨by simp [h], by simp [h], by simp [h]⟩
  | explored => exact ⟨by simp [h], by simp [h], by simp [h]⟩
  | visible => exact ⟨by simp [h], by simp [h], by simp [h]⟩

/-- The grid of a faction holds what the faction knows. -/
theorem Fits.getVisibility (h : fog.Fits map) (factionId : FactionId) {row col : ℤ}
    (ht : InBounds row col map.height map.width) :
    ∃ state, fog.getVisibility factionId row col = .ok state ∧
      (fog.ensureGrid factionId)[fog.index row col]? = some state := by
  have hlt : fog.index row col < (fog.ensureGrid factionId).length := by
    rw [h.ensureGrid_length factionId]
    exact h.index_lt ht
  rw [FogOfWar.getVisibility]
  rw [ensureGrid] at hlt ⊢
  cases hgrid : fog.grids.lookup factionId with
  | none =>
      rw [hgrid, Option.getD_none, List.length_replicate] at hlt
      exact ⟨.unexplored, rfl, by rw [Option.getD_none, List.getElem?_replicate, if_pos hlt]⟩
  | some grid =>
      rw [hgrid, Option.getD_some] at hlt
      rw [Option.getD_some]
      dsimp only
      rw [List.getElem?_eq_getElem hlt]
      exact ⟨_, rfl, rfl⟩

/-- **The view of a faction is computed anew by demoting its grid and marking what is in sight.** -/
theorem Fits.recalculate_grid (h : fog.Fits map) (factionId : FactionId) (units : UnitVec)
    (cities : List City) :
    ∃ view, fog.recalculate factionId units cities map =
        .ok { fog with grids := fog.grids.insert factionId view } ∧
      Marked fog map (InSight factionId units cities) (demote (fog.ensureGrid factionId)) view := by
  have hstart : (demote (fog.ensureGrid factionId)).length = (map.height * map.width).toNat := by
    rw [demote, List.length_map]
    exact h.ensureGrid_length factionId
  obtain ⟨seen, hseen, hunits⟩ := foldlM_marked fog map
    (f := fun grid (p : OwnedUnit) =>
      if p.unit.factionId ≠ factionId then .ok grid
      else fog.applyVision map p.unit.template.sightRange grid p.unit.coord)
    (S := fun p row col => p.unit.factionId = factionId ∧
      hexDistance p.unit.row p.unit.col row col ≤ p.unit.template.sightRange)
    (l := units.list)
    (fun grid p _ hgrid => by
      split
      · next hother => exact ⟨grid, rfl, marked_refl (fun _ _ hS => hother hS.1) grid⟩
      · next hown =>
          obtain ⟨grid', hvision, hmarked⟩ := h.applyVision p.unit.template.sightRange
            p.unit.coord hgrid
          exact ⟨grid', hvision, hmarked.congr fun _ _ _ => (and_iff_right (not_not.1 hown)).symm⟩)
    _ hstart
  obtain ⟨view, hview, hcities⟩ := foldlM_marked fog map
    (f := fun grid (city : City) =>
      if city.ownedBy factionId then
        city.tiles.toList.foldlM (fog.applyVision map citySightRange) grid
      else .ok grid)
    (S := fun city row col => city.ownedBy factionId = true ∧
      ∃ t ∈ city.tiles, hexDistance t.row t.col row col ≤ citySightRange)
    (l := cities)
    (fun grid city _ hgrid => by
      split
      · next hown =>
          obtain ⟨grid', hvision, hmarked⟩ := foldlM_marked fog map
            (fun grid t _ hgrid => h.applyVision citySightRange t hgrid) (l := city.tiles.toList)
            grid hgrid
          exact ⟨grid', hvision, hmarked.congr fun _ _ _ => (and_iff_right hown).symm⟩
      · next hother => exact ⟨grid, rfl, marked_refl (fun _ _ hS => hother hS.1) grid⟩)
    _ (hunits.length.trans hstart)
  refine ⟨view, ?_, hunits.trans hcities⟩
  rw [FogOfWar.recalculate, hseen, Except.ok_bind, hview]
  rfl

/-- The view of a faction that is computed anew fits the map. -/
theorem Fits.insert (h : fog.Fits map) (factionId : FactionId) {view : List VisibilityState}
    (hview : view.length = (map.height * map.width).toNat) :
    Fits { fog with grids := fog.grids.insert factionId view } map := by
  refine ⟨h.rows, h.cols, fun f grid hgrid => ?_⟩
  by_cases hf : f = factionId
  · rw [hf, AList.lookup_insert] at hgrid
    obtain rfl := Option.some_inj.1 hgrid
    exact hview
  · rw [AList.lookup_insert_ne hf] at hgrid
    exact h.length f grid hgrid

/-- **A view that fits the map can be computed anew, and fits the map again.** -/
theorem Fits.recalculate (h : fog.Fits map) (factionId : FactionId) (units : UnitVec)
    (cities : List City) :
    ∃ fog', fog.recalculate factionId units cities map = .ok fog' ∧ fog'.Fits map := by
  obtain ⟨view, hview, hmarked⟩ := h.recalculate_grid factionId units cities
  refine ⟨_, hview, h.insert factionId ?_⟩
  rw [hmarked.length, demote, List.length_map]
  exact h.ensureGrid_length factionId

/-- **The view of a faction, computed anew, is exact**: what is in sight is visible, what was
explored or visible before is explored, and the rest is unexplored; the views of other factions are
as they were. -/
theorem recalculate_seen (h : fog.Fits map) (factionId : FactionId) (units : UnitVec)
    (cities : List City) :
    ∃ fog', fog.recalculate factionId units cities map = .ok fog' ∧
      (∀ row col, InBounds row col map.height map.width →
        ∃ before after, fog.getVisibility factionId row col = .ok before ∧
          fog'.getVisibility factionId row col = .ok after ∧
          Seen (InSight factionId units cities row col) before after) ∧
      (∀ f, f ≠ factionId → fog'.grids.lookup f = fog.grids.lookup f) ∧
      fog'.rows = fog.rows ∧ fog'.cols = fog.cols := by
  obtain ⟨view, hview, hmarked⟩ := h.recalculate_grid factionId units cities
  refine ⟨_, hview, fun row col ht => ?_, fun f hf => AList.lookup_insert_ne hf, rfl, rfl⟩
  obtain ⟨before, hbefore, hentry⟩ := h.getVisibility factionId ht
  have hafter : ∀ after, view[fog.index row col]? = some after →
      FogOfWar.getVisibility { fog with grids := fog.grids.insert factionId view } factionId row
        col = .ok after := by
    intro after hget
    rw [FogOfWar.getVisibility, AList.lookup_insert]
    dsimp only
    rw [show FogOfWar.index { fog with grids := fog.grids.insert factionId view } row col =
      fog.index row col from rfl, hget]
  by_cases hsight : InSight factionId units cities row col
  · exact ⟨before, .visible, hbefore, hafter _ (hmarked.inside row col ht hsight),
      seen_visible hsight before⟩
  · refine ⟨before, _, hbefore, hafter _ ?_, seen_demoted hsight before⟩
    rw [hmarked.outside row col ht hsight, demote, List.getElem?_map, hentry]
    rfl

end FogOfWar

end My4X
