/-
**The smoothing of a map.**

A pass of the smoothing computes every tile from the terrain before the pass, so that the order in
which it visits the tiles does not matter.  A tile that has too few neighbours of its terrain takes
the most common terrain around it, which some tile of the map has.  Passes therefore never bring in
a terrain that was not there.

Main definitions:

* `My4X.MapGenerator.Smooths` — what a pass makes of a map;
* `My4X.Map.HasTerrain` — a terrain occurs on a map.

Main results:

* `My4X.MapGenerator.mostCommonNeighbour_spec` — the most common terrain around a tile;
* `My4X.MapGenerator.smooths_smoothPass` — one pass;
* `My4X.MapGenerator.smoothMap_local` — **any number of passes keeps the size, works tile by tile
  from the terrain before each pass and brings in no new terrain**.
-/

import My4X.MapGenerator

set_option relaxedAutoImplicit false
set_option autoImplicit false

namespace My4X

/-- A terrain occurs on a map. -/
def Map.HasTerrain (m : Map) (terrain : TerrainType) : Prop :=
  ∃ row col, m.terrain? row col = some terrain

namespace MapGenerator

/-! ### The neighbours -/

theorem mem_neighbours {snapshot : ℤ → ℤ → Option TerrainType} {row col height width : ℤ}
    {terrain : TerrainType} :
    terrain ∈ neighbours snapshot row col height width ↔
      ∃ step ∈ directions, InBounds (row + step.1) (col + step.2) height width ∧
        snapshot (row + step.1) (col + step.2) = some terrain := by
  rw [neighbours, List.mem_filterMap]
  constructor
  · rintro ⟨step, hstep, h⟩
    split at h
    · next hin => exact ⟨step, hstep, hin, h⟩
    · cases h
  · rintro ⟨step, hstep, hin, h⟩
    exact ⟨step, hstep, by rw [if_pos hin, h]⟩

theorem mem_allTerrains (terrain : TerrainType) : terrain ∈ allTerrains := by
  cases terrain <;> decide

/-- **The most common terrain around a tile** is the terrain of a neighbour, and no terrain is more
common. -/
theorem mostCommonNeighbour_spec {snapshot : ℤ → ℤ → Option TerrainType}
    {row col height width : ℤ} (h : neighbours snapshot row col height width ≠ []) :
    mostCommonNeighbour snapshot row col height width ∈
        neighbours snapshot row col height width ∧
      ∀ terrain, (neighbours snapshot row col height width).count terrain ≤
        (neighbours snapshot row col height width).count
          (mostCommonNeighbour snapshot row col height width) := by
  rw [mostCommonNeighbour]
  obtain ⟨around, haround⟩ : ∃ around, around = neighbours snapshot row col height width := ⟨_, rfl⟩
  rw [← haround] at h ⊢
  cases hmax : maxElement? (fun terrain => around.count terrain) allTerrains with
  | none => exact absurd (List.argmax_eq_none.1 hmax) (List.cons_ne_nil _ _)
  | some best =>
      rw [Option.getD_some]
      have hle : ∀ terrain, around.count terrain ≤ around.count best := fun terrain =>
        List.le_of_mem_argmax (f := fun terrain => around.count terrain)
          (mem_allTerrains terrain) hmax
      refine ⟨?_, hle⟩
      obtain ⟨terrain, hmem⟩ := List.exists_mem_of_ne_nil _ h
      exact List.count_pos_iff.1 ((List.count_pos_iff.2 hmem).trans_le (hle terrain))

/-- What a pass writes is the most common terrain around a tile that has a neighbour. -/
theorem smoothed_eq_some {snapshot : ℤ → ℤ → Option TerrainType} {height width row col : ℤ}
    {terrain : TerrainType} (h : smoothed snapshot height width row col = some terrain) :
    neighbours snapshot row col height width ≠ [] ∧
      terrain = mostCommonNeighbour snapshot row col height width := by
  rw [smoothed, countSameNeighbours] at h
  split at h
  next hcount =>
    split at h
    · next hif =>
        obtain ⟨-, rfl⟩ := Prod.mk.inj hcount
        exact ⟨List.ne_nil_of_length_pos hif.2, (Option.some_inj.1 h).symm⟩
    · cases h

/-! ### One pass -/

/-- **What a pass makes of a map.**  It keeps the size, writes to each tile what `smoothed` gives
for the terrain before the pass, does the same in every order, and changes a tile only to a terrain
that is most common around it. -/
structure Smooths (before after : Map) : Prop where
  height : after.height = before.height
  width : after.width = before.width
  tile : ∀ row col, after.tiles.get? row col = (before.tiles.get? row col).map
    (Map.written (smoothed before.terrain? before.height before.width row col))
  order : ∀ places, List.Perm places before.places → smoothPassOver before places = after
  majority : ∀ row col terrain terrain', before.terrain? row col = some terrain →
    after.terrain? row col = some terrain' → terrain' ≠ terrain →
    let around := neighbours before.terrain? row col before.height before.width
    terrain' ∈ around ∧ ∀ other, around.count other ≤ around.count terrain'

/-- A loop over all tiles of a map, in any order. -/
theorem get?_smoothPassOver (map : Map) {places : List (ℤ × ℤ)}
    (hplaces : List.Perm places map.places) (row col : ℤ) :
    (smoothPassOver map places).tiles.get? row col = (map.tiles.get? row col).map
      (Map.written (smoothed map.terrain? map.height map.width row col)) := by
  rw [smoothPassOver, Map.get?_overwrite]
  split
  · rfl
  · next hnot =>
      rw [hplaces.mem_iff, mem_places] at hnot
      rw [TileGrid.get?, if_neg hnot]
      rfl

theorem smooths_smoothPass (map : Map) : Smooths map (smoothPass map) := by
  have hsize := map.overwrite_size (smoothed map.terrain? map.height map.width)
  refine ⟨(hsize _).1, (hsize _).2, get?_smoothPassOver map (List.Perm.refl _), ?_, ?_⟩
  · intro places hplaces
    refine Map.ext_get? ((hsize _).1.trans (hsize _).1.symm) ((hsize _).2.trans (hsize _).2.symm) ?_
    intro row col
    rw [get?_smoothPassOver map hplaces]
    exact (get?_smoothPassOver map (List.Perm.refl _) row col).symm
  · intro row col terrain terrain' hbefore hafter hne around
    rw [Map.terrain?, TileGrid.terrain?] at hbefore hafter
    rw [smoothPass, get?_smoothPassOver map (List.Perm.refl _), Option.map_map] at hafter
    obtain ⟨t, ht, rfl⟩ := Option.map_eq_some_iff.1 hbefore
    rw [ht, Option.map_some, Option.some_inj] at hafter
    subst hafter
    cases hwrite : smoothed map.terrain? map.height map.width row col with
    | none =>
        rw [Function.comp_apply, hwrite] at hne
        exact absurd rfl hne
    | some written =>
        obtain ⟨hsome, rfl⟩ := smoothed_eq_some hwrite
        exact mostCommonNeighbour_spec hsome

/-- **A pass brings in no new terrain.** -/
theorem Smooths.hasTerrain {before after : Map} (h : Smooths before after) {terrain : TerrainType}
    (hafter : after.HasTerrain terrain) : before.HasTerrain terrain := by
  obtain ⟨row, col, hterrain⟩ := hafter
  have htile := h.tile row col
  obtain ⟨t', ht', rfl⟩ := Option.map_eq_some_iff.1 hterrain
  obtain ⟨t, ht, -⟩ := Option.map_eq_some_iff.1 (htile.symm.trans ht')
  have hbefore : before.terrain? row col = some t.terrain := Option.map_eq_some_iff.2 ⟨t, ht, rfl⟩
  by_cases hsame : t'.terrain = t.terrain
  · exact ⟨row, col, by rw [hsame]; exact hbefore⟩
  · obtain ⟨hmem, -⟩ := h.majority row col t.terrain t'.terrain hbefore hterrain hsame
    obtain ⟨step, -, -, hsnapshot⟩ := mem_neighbours.1 hmem
    exact ⟨_, _, hsnapshot⟩

/-! ### All passes -/

theorem smoothMap_succ (map : Map) (k : ℕ) :
    smoothMap map (k + 1) = smoothPass (smoothMap map k) := by
  rw [smoothMap, smoothMap, Int.toNat_natCast]
  exact Function.iterate_succ_apply' smoothPass k map

/-- What every pass keeps, all passes keep. -/
theorem smoothMap_induction {P : Map → Prop} {map : Map} (hmap : P map)
    (hpass : ∀ before after, Smooths before after → P before → P after) (passes : ℤ) :
    P (smoothMap map passes) := by
  rw [smoothMap]
  induction passes.toNat with
  | zero => exact hmap
  | succ k ih =>
      rw [Function.iterate_succ_apply']
      exact hpass _ _ (smooths_smoothPass _) ih

/-- **Smoothing is local and closed**: it keeps the size, every pass computes each tile from the
terrain before it in whatever order, and no terrain occurs that did not occur before. -/
theorem smoothMap_local (map : Map) (passes : ℤ) :
    (smoothMap map passes).height = map.height ∧ (smoothMap map passes).width = map.width ∧
      (∀ k : ℕ, Smooths (smoothMap map k) (smoothMap map (k + 1))) ∧
      ∀ terrain, (smoothMap map passes).HasTerrain terrain → map.HasTerrain terrain := by
  refine ⟨?_, ?_, fun k => ?_, fun terrain => ?_⟩
  · exact smoothMap_induction (P := fun m => m.height = map.height) rfl
      (fun _ _ h hbefore => h.height.trans hbefore) passes
  · exact smoothMap_induction (P := fun m => m.width = map.width) rfl
      (fun _ _ h hbefore => h.width.trans hbefore) passes
  · rw [smoothMap_succ]
    exact smooths_smoothPass _
  · exact smoothMap_induction (P := fun m => m.HasTerrain terrain → map.HasTerrain terrain) id
      (fun _ _ h hbefore hafter => hbefore (h.hasTerrain hafter)) passes

end MapGenerator

end My4X
