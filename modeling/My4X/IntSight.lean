/-
**The view of a faction with `int`s.**

The borders of the box around a place that a faction sees from are sums of `int`s.  Where a
coordinate and the sight range add up to more than an `int` holds, the box comes out empty, and the
place does not even see itself.  Where they fit, and the map is no larger than distances allow, the
view is the one with integers, and it is exact.

Main definitions:

* `My4X.Machine.FogOfWar.applyVision`, `My4X.Machine.FogOfWar.recalculate` — the view, with `int`s;
* `My4X.SightFits` — what is seen from a place fits.

Main results:

* `My4X.Machine.FogOfWar.recalculate_exact` — **the view that is computed anew is exact**, where
  what is seen from every place fits.
-/

import My4X.Fog
import My4X.IntArithmetic

set_option relaxedAutoImplicit false
set_option autoImplicit false

namespace My4X

/-! ### What fits -/

/-- **What is seen from a place within a sight range fits**: the borders of the box around the
place, and the distances from there to the tiles of the map. -/
structure SightFits (map : Map) (sightRange : ℤ) (center : TileCoord) : Prop where
  size : map.height + map.width ≤ 1073741824
  place : (center.row.natAbs + center.col.natAbs : ℤ) ≤ 1073741824
  near : ∀ row col, InBounds row col map.height map.width →
    ((center.row - row).natAbs + (center.col - col).natAbs : ℤ) < 1073741824
  rows : IsInt (center.row - sightRange) ∧ IsInt (center.row + sightRange)
  cols : IsInt (center.col - sightRange) ∧ IsInt (center.col + sightRange)

/-- From a tile of the map it is enough that the borders of the box fit. -/
theorem sightFits_of_inBounds {map : Map} {sightRange : ℤ} {center : TileCoord}
    (hsize : map.height + map.width ≤ 1073741824)
    (hcenter : InBounds center.row center.col map.height map.width)
    (hrange : 0 ≤ sightRange) (hrow : IsInt (center.row + sightRange))
    (hcol : IsInt (center.col + sightRange)) : SightFits map sightRange center := by
  obtain ⟨h1, h2, h3, h4⟩ := hcenter
  obtain ⟨-, hrow'⟩ := hrow
  obtain ⟨-, hcol'⟩ := hcol
  refine ⟨hsize, by omega, fun row col hin => ?_, ⟨⟨by omega, by omega⟩, by omega, hrow'⟩,
    ⟨by omega, by omega⟩, by omega, hcol'⟩
  obtain ⟨h1', h2', h3', h4'⟩ := hin
  omega

/-- **What a faction sees fits**, from all its units and from all tiles of its cities. -/
structure ViewFits (map : Map) (factionId : FactionId) (units : UnitVec) (cities : List City) :
    Prop where
  units : ∀ p ∈ units.list, p.unit.factionId = factionId →
    SightFits map p.unit.template.sightRange p.unit.coord
  cities : ∀ city ∈ cities, city.ownedBy factionId = true → ∀ t ∈ city.tiles,
    SightFits map citySightRange t

namespace Machine.FogOfWar

open My4X.FogOfWar (interval demote InSight Seen)

/-! ### The view -/

/-- Marks the tiles in sight of a place, with `int`s. -/
def applyVision (fog : My4X.FogOfWar) (map : Map) (sightRange : ℤ) (grid : List VisibilityState)
    (center : TileCoord) : Except Fault (List VisibilityState) :=
  let minRow := max 0 (int (center.row - sightRange))
  let maxRow := min (map.height - 1) (int (center.row + sightRange))
  let minCol := max 0 (int (center.col - sightRange))
  let maxCol := min (map.width - 1) (int (center.col + sightRange))
  (interval minRow maxRow).foldlM
    (fun grid row =>
      (interval minCol maxCol).foldlM
        (fun grid col =>
          if hexDistance center.row center.col row col ≤ sightRange then
            fog.markVisible grid row col
          else .ok grid) grid) grid

/-- **The view of a faction, computed anew**, with `int`s. -/
def recalculate (fog : My4X.FogOfWar) (factionId : FactionId) (units : UnitVec) (cities : List City)
    (map : Map) : Except Fault My4X.FogOfWar := do
  let grid := demote (fog.ensureGrid factionId)
  let grid ← units.list.foldlM
    (fun grid p =>
      if p.unit.factionId ≠ factionId then .ok grid
      else applyVision fog map p.unit.template.sightRange grid p.unit.coord) grid
  let grid ← cities.foldlM
    (fun grid city =>
      if city.ownedBy factionId then
        city.tiles.toList.foldlM (applyVision fog map citySightRange) grid
      else .ok grid) grid
  return { fog with grids := fog.grids.insert factionId grid }

/-! ### The view where it fits -/

section View

variable {fog : My4X.FogOfWar} {map : Map} {factionId : FactionId} {units : UnitVec}
  {cities : List City}

/-- Where what is seen from a place fits, the marks are the ones with integers. -/
theorem applyVision_eq {sightRange : ℤ} {center : TileCoord} (h : SightFits map sightRange center)
    (grid : List VisibilityState) :
    applyVision fog map sightRange grid center = fog.applyVision map sightRange grid center := by
  have hsize := h.size
  rw [applyVision, My4X.FogOfWar.applyVision, int_eq_self h.rows.1, int_eq_self h.rows.2,
    int_eq_self h.cols.1, int_eq_self h.cols.2]
  refine Fallible.foldlM_ext (fun grid row hrow => Fallible.foldlM_ext
    (fun grid col hcol => ?_) grid)
    grid
  have hrow' := FogOfWar.mem_interval.1 hrow
  have hcol' := FogOfWar.mem_interval.1 hcol
  have hin : InBounds row col map.height map.width := by
    refine ⟨?_, ?_, ?_, ?_⟩ <;> omega
  obtain ⟨h1, h2, h3, h4⟩ := hin
  rw [hexDistance, hexDistance_eq_of_near h.place (by omega) (h.near row col ⟨h1, h2, h3, h4⟩)]

theorem recalculate_eq (h : ViewFits map factionId units cities) :
    recalculate fog factionId units cities map =
      fog.recalculate factionId units cities map := by
  have hunits : ∀ (grid : List VisibilityState), ∀ p ∈ units.list,
      (if p.unit.factionId ≠ factionId then .ok grid
        else applyVision fog map p.unit.template.sightRange grid p.unit.coord) =
      (if p.unit.factionId ≠ factionId then .ok grid
        else fog.applyVision map p.unit.template.sightRange grid p.unit.coord) := by
    intro grid p hp
    split
    · rfl
    · next hown => exact applyVision_eq (h.units p hp (not_not.1 hown)) grid
  have hcities : ∀ (grid : List VisibilityState), ∀ city ∈ cities,
      (if city.ownedBy factionId then
        city.tiles.toList.foldlM (applyVision fog map citySightRange) grid else .ok grid) =
      (if city.ownedBy factionId then
        city.tiles.toList.foldlM (fog.applyVision map citySightRange) grid else .ok grid) := by
    intro grid city hcity
    split
    · next hown =>
        refine Fallible.foldlM_ext (fun grid t ht => ?_) grid
        exact applyVision_eq (h.cities city hcity hown t ht) grid
    · rfl
  rw [recalculate, My4X.FogOfWar.recalculate]
  rw [Fallible.foldlM_ext hunits]
  refine bind_congr fun grid => ?_
  rw [Fallible.foldlM_ext hcities]

/-- **The view of a faction, computed anew, is exact**, where what it sees fits: what is in sight is
visible, what was explored or visible before is explored, and the rest is unexplored; the views of
other factions are as they were. -/
theorem recalculate_exact (hfog : fog.Fits map) (hview : ViewFits map factionId units cities) :
    ∃ fog', recalculate fog factionId units cities map = .ok fog' ∧
      (∀ row col, InBounds row col map.height map.width →
        ∃ before after, fog.getVisibility factionId row col = .ok before ∧
          fog'.getVisibility factionId row col = .ok after ∧
          Seen (InSight factionId units cities row col) before after) ∧
      (∀ f, f ≠ factionId → fog'.grids.lookup f = fog.grids.lookup f) ∧
      fog'.rows = fog.rows ∧ fog'.cols = fog.cols := by
  rw [recalculate_eq hview]
  exact My4X.FogOfWar.recalculate_seen hfog factionId units cities

end View

/-- The first view of a warrior on the western border of a field. -/
theorem plainField_recalculate_exact :
    ∃ fog', recalculate (FogOfWar.create 3 3) 1
        (UnitVec.empty.push (Unit.create 1 0 warriorTemplate 1)) [City.create "Capital" 1 1 2]
        plainField.map = .ok fog' ∧
      (∀ row col, InBounds row col plainField.map.height plainField.map.width →
        ∃ before after, (FogOfWar.create 3 3).getVisibility 1 row col = .ok before ∧
          fog'.getVisibility 1 row col = .ok after ∧
          Seen (InSight 1 (UnitVec.empty.push (Unit.create 1 0 warriorTemplate 1))
            [City.create "Capital" 1 1 2] row col) before after) ∧
      (∀ f, f ≠ 1 → fog'.grids.lookup f = (FogOfWar.create 3 3).grids.lookup f) ∧
      fog'.rows = (FogOfWar.create 3 3).rows ∧ fog'.cols = (FogOfWar.create 3 3).cols := by
  refine recalculate_exact ⟨rfl, rfl, fun _ _ h => by cases h⟩ ⟨fun p hp _ => ?_, ?_⟩
  · obtain rfl := List.mem_singleton.1 hp
    exact sightFits_of_inBounds (by decide) (by decide) (by decide) (by decide) (by decide)
  · intro city hcity _ t ht
    obtain rfl := List.mem_singleton.1 hcity
    obtain rfl := List.mem_singleton.1 ht
    exact sightFits_of_inBounds (by decide) (by decide) (by decide) (by decide) (by decide)

/-- A warrior that sees as far as an `int` goes. -/
def eagleTemplate : UnitTemplate := { warriorTemplate with sightRange := 2147483647 }

/-- Such a warrior does not see the tile on which it stands. -/
theorem eagle_sees_nothing :
    InSight 1 (UnitVec.empty.push (Unit.create 1 0 eagleTemplate 1)) [] 1 0 ∧
      ∃ fog', recalculate (FogOfWar.create 3 3) 1
          (UnitVec.empty.push (Unit.create 1 0 eagleTemplate 1)) [] plainField.map = .ok fog' ∧
        fog'.getVisibility 1 1 0 = .ok .unexplored := by
  refine ⟨Or.inl ⟨_, List.mem_singleton_self _, rfl, ?_⟩, _, rfl, rfl⟩
  decide

end Machine.FogOfWar

end My4X
