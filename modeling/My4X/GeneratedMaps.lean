/-
**Maps of one generator.**

A generator overwrites the terrain that the constructor of the map has drawn, and nothing else of
the tiles: their elevation and water level are those of the terrain that was drawn first.  Two calls
of one generator therefore give the same terrain and the same spawn points, and the same map exactly
when what is drawn has the same elevations wherever the river does not settle them.

Main definitions:

* `My4X.SameTerrain` — two maps of one size with the same terrain;
* `My4X.SameElevations` — the draws have the same elevation off the river.

Main results:

* `My4X.create_ground_iff` — when two new maps agree in everything but their terrain;
* `My4X.MapGenerator.generate_sameTerrain` — a generator gives the same terrain whatever is drawn;
* `My4X.MapGenerator.generate_sameMap_iff` — **the maps are the same exactly when the same
  elevations are drawn, and the spawn points are the same**.
-/

import My4X.Smoothing

set_option relaxedAutoImplicit false
set_option autoImplicit false

namespace My4X

/-! ### Terrain and ground -/

/-- Two maps of one size that have the same terrain. -/
structure SameTerrain (m m' : Map) : Prop where
  height : m'.height = m.height
  width : m'.width = m.width
  terrain : m'.terrain? = m.terrain?

/-- A tile with its terrain put aside. -/
def Tile.ground (t : Tile) : Tile := t.setTerrainType .plains

/-- Two maps that differ in their terrain at most. -/
def SameGround (m m' : Map) : Prop :=
  ∀ row col, (m'.tiles.get? row col).map Tile.ground = (m.tiles.get? row col).map Tile.ground

/-- A tile is its terrain and the rest. -/
theorem Tile.eq_iff (t t' : Tile) : t' = t ↔ t'.terrain = t.terrain ∧ t'.ground = t.ground := by
  constructor
  · rintro rfl
    exact ⟨rfl, rfl⟩
  · rintro ⟨hterrain, hground⟩
    obtain ⟨row, col, terrain, elevation, hin, hout, hindir, houtdir, waterLevel⟩ := t
    obtain ⟨row', col', terrain', elevation', hin', hout', hindir', houtdir', waterLevel'⟩ := t'
    simp only [Tile.ground, Tile.setTerrainType, Tile.mk.injEq] at hterrain hground ⊢
    exact ⟨hground.1, hground.2.1, hterrain, hground.2.2.2⟩

/-- Maps are the same exactly when they store the same tiles. -/
theorem sameMap_iff_get? {m m' : Map} :
    SameMap m m' ↔ ∀ row col, m'.tiles.get? row col = m.tiles.get? row col := by
  constructor
  · intro hsame row col
    have htile := hsame row col
    rw [Map.tile, Map.tile] at htile
    cases hget : m.tiles.get? row col with
    | none =>
        cases hget' : m'.tiles.get? row col with
        | none => rfl
        | some t' => rw [hget, hget'] at htile; cases htile
    | some t =>
        cases hget' : m'.tiles.get? row col with
        | none => rw [hget, hget'] at htile; cases htile
        | some t' =>
            rw [hget, hget'] at htile
            rw [Except.ok.inj htile]
  · intro hget row col
    rw [Map.tile, Map.tile, hget row col]

/-- **Maps of the same terrain are the same exactly when they have the same ground.** -/
theorem SameTerrain.sameMap_iff {m m' : Map} (h : SameTerrain m m') :
    SameMap m m' ↔ SameGround m m' := by
  rw [sameMap_iff_get?]
  constructor
  · intro hget row col
    rw [hget row col]
  · intro hground row col
    have hterrain : (m'.tiles.get? row col).map (·.terrain) =
        (m.tiles.get? row col).map (·.terrain) := congrFun (congrFun h.terrain row) col
    have hground := hground row col
    cases hget : m.tiles.get? row col with
    | none =>
        rw [hget, Option.map_none, Option.map_eq_none_iff] at hterrain
        exact hterrain
    | some t =>
        rw [hget, Option.map_some] at hterrain hground
        obtain ⟨t', ht', hterrain⟩ := Option.map_eq_some_iff.1 hterrain
        rw [ht', Option.map_some, Option.some_inj] at hground
        rw [ht', (Tile.eq_iff t t').2 ⟨hterrain, hground⟩]

/-- Writing terrain leaves the ground. -/
theorem Map.ground_written (write : Option TerrainType) (t : Tile) :
    (Map.written write t).ground = t.ground := by
  cases write with
  | none => rfl
  | some terrain => rfl

theorem Map.overwrite_ground (write : ℤ → ℤ → Option TerrainType) (m : Map)
    (places : List (ℤ × ℤ)) (row col : ℤ) :
    ((m.overwrite write places).tiles.get? row col).map Tile.ground =
      (m.tiles.get? row col).map Tile.ground := by
  rw [Map.get?_overwrite]
  split
  · rw [Option.map_map]
    exact congrArg (Option.map · _) (funext fun t => Map.ground_written _ t)
  · rfl

/-! ### New maps -/

/-- **The draws have the same elevation for every tile that the river does not cover.** -/
def SameElevations (height width : ℤ) (draws draws' : ℕ → TerrainType) : Prop :=
  ∀ row col, InBounds row col height width → (row, col) ∉ riverTiles height width →
    defaultElevationForTerrain (draws' (row * width + col).toNat) =
      defaultElevationForTerrain (draws (row * width + col).toNat)

theorem generateTile_elevation (row col : ℕ) (terrain : TerrainType) :
    (generateTile row col terrain).elevation = defaultElevationForTerrain terrain := by
  rw [generateTile]
  split
  · rfl
  · rfl

/-- The elevation of a terrain tells whether it is water, and so the water level too. -/
theorem generateTile_levels_eq (row col : ℕ) {terrain terrain' : TerrainType}
    (h : defaultElevationForTerrain terrain' = defaultElevationForTerrain terrain) :
    ((generateTile row col terrain').elevation, (generateTile row col terrain').waterLevel) =
      ((generateTile row col terrain).elevation, (generateTile row col terrain).waterLevel) := by
  cases terrain <;> cases terrain' <;> first | rfl | cases h

/-- What the river leaves of a drawn tile beside its course. -/
theorem addDemoRivers_generated {α : Type} {f : Tile → α}
    (hf : ∀ t dir, f (t.setOutgoingRiver dir) = f t ∧ f (t.setIncomingRiver dir) = f t)
    {height width : ℤ} (draws : ℕ → TerrainType) {row col : ℤ}
    (hin : InBounds row col height width) (hnot : (row, col) ∉ riverTiles height width) :
    ((addDemoRivers (generateTiles height width draws)).get? row col).map f =
      some (f (generateTile row.toNat col.toNat (draws (row * width + col).toNat))) := by
  rw [addDemoRivers_map hf _ hnot, generateTiles_get? _ hin, Option.map_some]

/-- Tiles with the same bed and the same levels have the same ground. -/
theorem Tile.SameBed.ground_eq {t t' : Tile} (h : t.SameBed t')
    (hlevels : (t'.elevation, t'.waterLevel) = (t.elevation, t.waterLevel)) :
    t'.ground = t.ground := by
  obtain ⟨hrow, hcol, hin, hout, hindir, houtdir⟩ := h
  obtain ⟨helevation, hwater⟩ := Prod.mk.inj hlevels
  simp only [Tile.ground, Tile.setTerrainType, hrow, hcol, hin, hout, hindir, houtdir, helevation,
    hwater]

/-- Beside the river the elevation is that of the terrain that was drawn. -/
theorem elevation_generated {height width : ℤ} (draws : ℕ → TerrainType) {row col : ℤ}
    (hin : InBounds row col height width) (hnot : (row, col) ∉ riverTiles height width) :
    ((addDemoRivers (generateTiles height width draws)).get? row col).map
      (fun t => t.ground.elevation) =
        some (defaultElevationForTerrain (draws (row * width + col).toNat)) := by
  rw [addDemoRivers_generated (fun _ _ => ⟨rfl, rfl⟩) draws hin hnot]
  exact congrArg some (generateTile_elevation _ _ _)

/-- Beside the river the elevation and the water level are those that were drawn. -/
theorem levels_generated {height width : ℤ} (draws : ℕ → TerrainType) {row col : ℤ} {t : Tile}
    (hnot : (row, col) ∉ riverTiles height width)
    (ht : (addDemoRivers (generateTiles height width draws)).get? row col = some t) :
    (t.elevation, t.waterLevel) =
      ((generateTile row.toNat col.toNat (draws (row * width + col).toNat)).elevation,
        (generateTile row.toNat col.toNat (draws (row * width + col).toNat)).waterLevel) := by
  have hleft := addDemoRivers_generated (f := fun t => (t.elevation, t.waterLevel))
    (fun _ _ => ⟨rfl, rfl⟩) draws (TileGrid.place_of_get? ht).1 hnot
  rw [ht, Option.map_some, Option.some_inj] at hleft
  exact hleft

/-- The tiles of the river are settled, and all tiles have the same bed. -/
theorem addDemoRivers_generated_alike (height width : ℤ) (draws draws' : ℕ → TerrainType) :
    TileGrid.AlikeBut (fun p => p ∉ riverTiles height width)
      (addDemoRivers (generateTiles height width draws))
      (addDemoRivers (generateTiles height width draws')) := by
  have hdrawn : TileGrid.AlikeBut (fun _ => True) (generateTiles height width draws)
      (generateTiles height width draws') := by
    intro r c t t' ht ht'
    have hin := (TileGrid.place_of_get? ht).1
    rw [generateTiles_get? _ hin] at ht ht'
    obtain rfl := Option.some_inj.1 ht
    obtain rfl := Option.some_inj.1 ht'
    exact ⟨generateTile_sameBed _ _ _ _, fun hnot => absurd trivial hnot⟩
  intro r c t t' ht ht'
  obtain ⟨hbed, hsettled⟩ := addDemoRivers_alike hdrawn r c t t' ht ht'
  exact ⟨hbed, fun hriver => hsettled fun h => hriver h.2⟩

/-- Draws of the same elevations make the same ground. -/
theorem ground_generated {height width : ℤ} {draws draws' : ℕ → TerrainType}
    (h : SameElevations height width draws draws') (row col : ℤ) :
    ((addDemoRivers (generateTiles height width draws')).get? row col).map Tile.ground =
      ((addDemoRivers (generateTiles height width draws)).get? row col).map Tile.ground := by
  by_cases hin : InBounds row col height width
  · obtain ⟨t, ht⟩ := (addDemoRivers (generateTiles height width draws)).exists_get? hin
    obtain ⟨t', ht'⟩ := (addDemoRivers (generateTiles height width draws')).exists_get? hin
    obtain ⟨hbed, hsettled⟩ :=
      addDemoRivers_generated_alike height width draws draws' row col t t' ht ht'
    rw [ht, ht', Option.map_some, Option.map_some, Option.some_inj]
    by_cases hriver : (row, col) ∈ riverTiles height width
    · rw [hsettled fun hnot => hnot hriver]
    · refine hbed.ground_eq ?_
      rw [levels_generated draws hriver ht, levels_generated draws' hriver ht']
      exact generateTile_levels_eq _ _ (h row col hin hriver)
  · rw [TileGrid.get?, if_neg hin, TileGrid.get?, if_neg hin]

/-- **Two new maps agree in everything but their terrain exactly when the draws have the same
elevations.** -/
theorem create_ground_iff {height width : ℤ} {draws draws' : ℕ → TerrainType} {map map' : Map}
    (h : Map.create height width draws = .ok map) (h' : Map.create height width draws' = .ok map') :
    SameGround map map' ↔ SameElevations height width draws draws' := by
  rw [Map.create] at h h'
  split at h
  · next hpos =>
      rw [dif_pos hpos] at h'
      obtain rfl := Except.ok.inj h
      obtain rfl := Except.ok.inj h'
      refine ⟨fun hground row col hin hnot => ?_, fun hsame => ground_generated hsame⟩
      have hsame := congrArg (Option.map fun t : Tile => t.elevation) (hground row col)
      rw [Option.map_map, Option.map_map] at hsame
      exact Option.some_inj.1 ((elevation_generated draws' hin hnot).symm.trans
        (hsame.trans (elevation_generated draws hin hnot)))
  · cases h

/-! ### The same terrain -/

/-- The terrain after a loop. -/
theorem Map.terrain?_overwrite (write : ℤ → ℤ → Option TerrainType) (m : Map)
    (places : List (ℤ × ℤ)) (row col : ℤ) :
    (m.overwrite write places).terrain? row col =
      if (row, col) ∈ places then
        (m.terrain? row col).map fun terrain => (write row col).getD terrain
      else m.terrain? row col := by
  rw [terrain?, TileGrid.terrain?, get?_overwrite]
  split
  · rw [terrain?, TileGrid.terrain?, Option.map_map, Option.map_map]
    refine congrArg (Option.map · _) (funext fun t => ?_)
    cases write row col with
    | none => rfl
    | some terrain => rfl
  · rfl

namespace SameTerrain

theorem places {m m' : Map} (h : SameTerrain m m') : m'.places = m.places := by
  rw [Map.places, Map.places, h.height, h.width]

/-- Loops that write the same. -/
theorem overwrite {m m' : Map} (h : SameTerrain m m') (write : ℤ → ℤ → Option TerrainType) :
    SameTerrain (m.overwrite write m.places) (m'.overwrite write m'.places) where
  height := by rw [(m.overwrite_size _ _).1, (m'.overwrite_size _ _).1, h.height]
  width := by rw [(m.overwrite_size _ _).2, (m'.overwrite_size _ _).2, h.width]
  terrain := by
    funext row col
    rw [Map.terrain?_overwrite, Map.terrain?_overwrite, h.terrain, h.places]

/-- Loops that write the same to every tile, whatever the terrain before. -/
theorem of_size {m m' : Map} (hheight : m'.height = m.height) (hwidth : m'.width = m.width)
    (terrainAt : ℤ → ℤ → TerrainType) :
    SameTerrain (m.overwrite (fun row col => some (terrainAt row col)) m.places)
      (m'.overwrite (fun row col => some (terrainAt row col)) m'.places) where
  height := by rw [(m.overwrite_size _ _).1, (m'.overwrite_size _ _).1, hheight]
  width := by rw [(m.overwrite_size _ _).2, (m'.overwrite_size _ _).2, hwidth]
  terrain := by
    have hwritten : ∀ (m : Map) (row col : ℤ),
        (m.overwrite (fun row col => some (terrainAt row col)) m.places).terrain? row col =
          if InBounds row col m.height m.width then some (terrainAt row col) else none := by
      intro m row col
      rw [Map.terrain?_overwrite]
      by_cases hin : InBounds row col m.height m.width
      · obtain ⟨t, ht⟩ := m.tiles.exists_get? hin
        rw [if_pos (mem_places.2 hin), if_pos hin, Map.terrain?, TileGrid.terrain?, ht]
        rfl
      · rw [if_neg (mt mem_places.1 hin), if_neg hin, Map.terrain?, TileGrid.terrain?,
          TileGrid.get?, if_neg hin]
        rfl
    funext row col
    rw [hwritten, hwritten, hheight, hwidth]

end SameTerrain

namespace MapGenerator

/-- **A pass depends on the terrain alone.** -/
theorem sameTerrain_smoothPass {m m' : Map} (h : SameTerrain m m') :
    SameTerrain (smoothPass m) (smoothPass m') := by
  rw [smoothPass, smoothPass, smoothPassOver, smoothPassOver, h.terrain, h.height, h.width]
  exact h.overwrite _

theorem sameTerrain_smoothMap {m m' : Map} (h : SameTerrain m m') (passes : ℤ) :
    SameTerrain (smoothMap m passes) (smoothMap m' passes) := by
  rw [smoothMap, smoothMap]
  induction passes.toNat with
  | zero => exact h
  | succ k ih =>
      rw [Function.iterate_succ_apply', Function.iterate_succ_apply']
      exact sameTerrain_smoothPass ih

/-- The smoothing leaves the ground. -/
theorem sameGround_smoothMap (map : Map) (passes : ℤ) : SameGround map (smoothMap map passes) := by
  refine smoothMap_induction (P := SameGround map) (fun row col => rfl) ?_ passes
  intro before after hsmooths hbefore row col
  rw [← hbefore row col, hsmooths.tile, Option.map_map]
  exact congrArg (Option.map · _) (funext fun t => Map.ground_written _ t)

/-- **Spawn points depend on the terrain alone.** -/
theorem findSpawnPoints_eq {m m' : Map} (h : SameTerrain m m') (n : ℤ) :
    findSpawnPoints m' n = findSpawnPoints m n := by
  have hcandidates : spawnCandidates m' = spawnCandidates m := by
    rw [spawnCandidates, spawnCandidates, h.terrain, h.height, h.width]
  have hdist : distToCenter m' = distToCenter m := by
    funext point
    rw [distToCenter, distToCenter, h.height, h.width]
  rw [findSpawnPoints, findSpawnPoints, hcandidates, hdist]

/-! ### Two calls of a generator -/

/-- A generated map comes from a new one, of which it keeps the ground. -/
theorem generate_eq_ok {g : MapGenerator} {draws : ℕ → TerrainType} {map : Map}
    (h : g.generate draws = .ok map) :
    ∃ new, Map.create g.height g.width draws = .ok new ∧ SameGround new map ∧
      map = smoothMap (new.overwrite (fun row col => some (classifyTerrain
        (fractalNoise row col g.seed) (fractalNoise row col (g.seed + 1000)))) new.places) 2 := by
  obtain ⟨new, hnew, h⟩ := Except.bind_eq_ok.1 h
  obtain rfl := Except.ok.inj h
  refine ⟨new, hnew, fun row col => ?_, rfl⟩
  rw [sameGround_smoothMap, Map.overwrite_ground]

/-- **A generator gives the same terrain whatever is drawn.** -/
theorem generate_sameTerrain {g : MapGenerator} {draws draws' : ℕ → TerrainType} {map map' : Map}
    (h : g.generate draws = .ok map) (h' : g.generate draws' = .ok map') :
    SameTerrain map map' := by
  obtain ⟨new, hnew, -, rfl⟩ := generate_eq_ok h
  obtain ⟨new', hnew', -, rfl⟩ := generate_eq_ok h'
  obtain ⟨hheight, hwidth⟩ := Map.create_size hnew
  obtain ⟨hheight', hwidth'⟩ := Map.create_size hnew'
  exact sameTerrain_smoothMap
    (SameTerrain.of_size (hheight'.trans hheight.symm) (hwidth'.trans hwidth.symm) _) 2

/-- A generator that fails does so whatever is drawn. -/
theorem generate_error {g : MapGenerator} {draws : ℕ → TerrainType} {e : Fault}
    (h : g.generate draws = .error e) (draws' : ℕ → TerrainType) :
    g.generate draws' = .error e := by
  rw [generate, Map.create] at h ⊢
  split
  · next hpos => rw [dif_pos hpos] at h; cases h
  · next hneg => rw [dif_neg hneg] at h; exact h

/-- The spawn points are the same whatever is drawn. -/
theorem spawnPoints_eq (g : MapGenerator) (draws draws' : ℕ → TerrainType) :
    g.spawnPoints draws' = g.spawnPoints draws := by
  rw [spawnPoints, spawnPoints]
  cases h : g.generate draws with
  | error e => rw [generate_error h]
  | ok map =>
      cases h' : g.generate draws' with
      | error e => rw [generate_error h'] at h; cases h
      | ok map' =>
          rw [Except.ok_bind, Except.ok_bind, findSpawnPoints_eq (generate_sameTerrain h h')]

/-- The maps are the same exactly when the same elevations are drawn. -/
theorem sameMap_iff_of_generate {g : MapGenerator} {draws draws' : ℕ → TerrainType} {map map' : Map}
    (h : g.generate draws = .ok map) (h' : g.generate draws' = .ok map') :
    SameMap map map' ↔ SameElevations g.height g.width draws draws' := by
  obtain ⟨new, hnew, hground, -⟩ := generate_eq_ok h
  obtain ⟨new', hnew', hground', -⟩ := generate_eq_ok h'
  rw [(generate_sameTerrain h h').sameMap_iff, ← create_ground_iff hnew hnew']
  constructor
  · intro hsame row col
    rw [← hground' row col, hsame row col, hground row col]
  · intro hsame row col
    rw [hground' row col, hsame row col, hground row col]

/-- **Two calls of a generator give the same spawn points, and the same map exactly when the same
elevations are drawn**, whatever numbers the random device gives. -/
theorem generate_sameMap_iff (uniform : (ℕ → UInt64) → ℕ → TerrainType) (g : MapGenerator)
    (device device' : UInt32) :
    g.spawnPoints (terrainDraws uniform device') = g.spawnPoints (terrainDraws uniform device) ∧
      ∀ map map', g.generate (terrainDraws uniform device) = .ok map →
        g.generate (terrainDraws uniform device') = .ok map' →
          (SameMap map map' ↔ SameElevations g.height g.width (terrainDraws uniform device)
            (terrainDraws uniform device')) :=
  ⟨spawnPoints_eq g _ _, fun _ _ h h' => sameMap_iff_of_generate h h'⟩

/-- A map of five by five tiles for one faction. -/
def smallGenerator : MapGenerator where
  height := 5
  width := 5
  factionCount := 1
  seed := 99

/-- It generates a map whatever is drawn. -/
theorem exists_generate_small (draws : ℕ → TerrainType) :
    ∃ map, smallGenerator.generate draws = .ok map := ⟨_, rfl⟩

/-- Two random devices draw water and desert for the third tile. -/
theorem elevations_differ :
    ¬ SameElevations 5 5 (terrainDraws multiplyShift 1) (terrainDraws multiplyShift 2) := by
  intro h
  exact absurd (h 0 2 (by decide) (by decide)) (by decide +kernel)

/-- **The small generator does not give the same map twice.** -/
theorem small_maps_differ :
    ∃ map map', smallGenerator.generate (terrainDraws multiplyShift 1) = .ok map ∧
      smallGenerator.generate (terrainDraws multiplyShift 2) = .ok map' ∧ ¬ SameMap map map' := by
  obtain ⟨map, h⟩ := exists_generate_small (terrainDraws multiplyShift 1)
  obtain ⟨map', h'⟩ := exists_generate_small (terrainDraws multiplyShift 2)
  exact ⟨map, map', h, h', fun hsame => elevations_differ ((sameMap_iff_of_generate h h').1 hsame)⟩

/-- The same generator, by the theorem. -/
theorem small_sameMap_iff :
    ∃ map map', smallGenerator.generate (terrainDraws multiplyShift 1) = .ok map ∧
      smallGenerator.generate (terrainDraws multiplyShift 2) = .ok map' ∧
      (SameMap map map' ↔ SameElevations 5 5 (terrainDraws multiplyShift 1)
        (terrainDraws multiplyShift 2)) := by
  obtain ⟨map, h⟩ := exists_generate_small (terrainDraws multiplyShift 1)
  obtain ⟨map', h'⟩ := exists_generate_small (terrainDraws multiplyShift 2)
  exact ⟨map, map', h, h', (generate_sameMap_iff multiplyShift smallGenerator 1 2).2 map map' h h'⟩

end MapGenerator

end My4X
