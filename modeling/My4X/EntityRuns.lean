/-
**Adding and removing cities and buildings.**

A new city is registered at its centre and a new building at its first tile, and removing either
unregisters that tile alone, while restoring registers every tile.  The registry therefore answers
for the tiles of the entities exactly as long as what is added or removed has a single tile.

Main definitions:

* `My4X.EntityOp`, `My4X.EntityOp.apply` — the six operations;
* `My4X.EntityOp.Apart` — the entity added shares no tile with another one of its kind;
* `My4X.EntityOp.Keeps` — the registry is right after the operation;
* `My4X.EntityOp.OnePoint` — the entity added or removed has a single tile.

Main results:

* `My4X.GameState.Covered.reloadsAlike` — a saved and reloaded copy answers the same;
* `My4X.EntityOp.keeps_iff` — one operation;
* `My4X.entities_covered_iff` — **over a whole run the registry is right exactly when everything
  added or removed has a single tile**.
-/

import My4X.RoundTrip
import My4X.Lib.Runs

set_option relaxedAutoImplicit false
set_option autoImplicit false

namespace My4X

/-! ### Reloading -/

namespace GameState

/-- The saved and reloaded copy of a state answers for tiles as the state does. -/
def ReloadsAlike (s : GameState) : Prop :=
  ∀ codec draws data t, (∀ proto, toMessage s = .ok proto → Codec.Lossless codec proto) →
    serializeGameState codec s = .ok data → deserializeGameState codec draws data = .ok t →
    ∀ row col, t.registry.cityAt row col = s.registry.cityAt row col ∧
      t.registry.buildingAt row col = s.registry.buildingAt row col

end GameState

/-- The entities of a reloaded copy have the tiles they had. -/
theorem loaded_footprints {s t : GameState} {proto : Proto.GameState}
    (hproto : toMessage s = .ok proto) {draws : ℕ → TerrainType} {fresh : Map}
    {reg : UnitTypeRegistry} (h : Loaded draws proto fresh reg t) :
    t.cityFootprints = s.cityFootprints ∧ t.buildingFootprints = s.buildingFootprints := by
  have hbuildings := loaded_buildings hproto h
  obtain ⟨tiles, -, hproto⟩ := Except.bind_eq_ok.1 hproto
  obtain ⟨units, -, hproto⟩ := Except.bind_eq_ok.1 hproto
  obtain rfl := Except.ok.inj hproto
  constructor
  · have hcities := Fallible.mapM_eq_ok.1 h.cities
    rw [List.forall₂_map_left_iff] at hcities
    have heq : List.Forall₂ (· = ·) s.cityFootprints t.cityFootprints := by
      unfold GameState.cityFootprints
      rw [List.forall₂_map_left_iff, List.forall₂_map_right_iff]
      refine hcities.imp fun c c' hc => ?_
      have hload := cityLoaded_of_ok hc
      rw [hload.tiles_eq, hload.id]
      rfl
    rw [List.forall₂_eq_eq_eq] at heq
    exact heq.symm
  · unfold GameState.buildingFootprints
    rw [hbuildings]

/-- **A saved and reloaded copy answers the same**, since restoring registers every tile. -/
theorem GameState.Covered.reloadsAlike {s : GameState} (h : s.Covered) (hdisj : s.Disjoint) :
    s.ReloadsAlike := by
  intro codec draws data t hcodec hsave hload row col
  obtain ⟨proto, fresh, reg, hproto, hloaded⟩ := loaded_of_saved hcodec hsave hload
  obtain ⟨hcities, hbuildings⟩ := loaded_footprints hproto hloaded
  obtain ⟨hcovers, hcovers'⟩ := GameState.covered_iff.1 h
  have hcityOwners : t.registry.cities.Covers s.cityFootprints := by
    rw [hloaded.cityOwners, hcities]
    exact OwnerIndex.covers_empty.foldl_claimAll _ hdisj.cityFootprints
  have hbuildingOwners : t.registry.buildings.Covers s.buildingFootprints := by
    rw [hloaded.buildingOwners, hbuildings]
    exact OwnerIndex.covers_empty.foldl_claimAll _ hdisj.buildingFootprints
  exact ⟨hcityOwners.owner_eq hcovers _, hbuildingOwners.owner_eq hcovers' _⟩

/-! ### The operations -/

/-- A city of its centre alone. -/
def City.IsPoint (c : City) : Prop := ∀ k ∈ c.tiles, k = ⟨c.centerRow, c.centerCol⟩

/-- A building of one tile at most. -/
def Building.IsPoint (b : Building) : Prop := b.occupiedTiles.toList.length ≤ 1

/-- The operations on cities and buildings. -/
inductive EntityOp
  | addCity (city : City)
  | restoreCity (city : City)
  | removeCity (id : CityId)
  | addBuilding (building : Building)
  | restoreBuilding (building : Building)
  | removeBuilding (id : BuildingId)

namespace EntityOp

/-- The state after an operation; a removal that throws leaves the state as it is. -/
def apply (s : GameState) : EntityOp → GameState
  | .addCity city => (s.addCity city).1
  | .restoreCity city => s.restoreCity city
  | .removeCity id =>
      match s.removeCity id with
      | .ok s' => s'
      | .error _ => s
  | .addBuilding building => (s.addBuilding building).1
  | .restoreBuilding building => s.restoreBuilding building
  | .removeBuilding id =>
      match s.removeBuilding id with
      | .ok s' => s'
      | .error _ => s

/-- What is added shares no tile with an entity of its kind. -/
def Apart (s : GameState) : EntityOp → Prop
  | .addCity city | .restoreCity city => ∀ c ∈ s.cities, ∀ k ∈ city.tiles, k ∉ c.tiles
  | .addBuilding building | .restoreBuilding building =>
      ∀ b ∈ s.buildings, ∀ k ∈ building.occupiedTiles, k ∉ b.occupiedTiles
  | .removeCity _ | .removeBuilding _ => True

/-- What is removed leaves none of its tiles registered. -/
def Clears (s : GameState) : EntityOp → Prop
  | .removeCity id => ∀ c, s.cities.find? (·.id = id) = some c → ∀ k ∈ c.tiles,
      ((EntityOp.removeCity id).apply s).registry.cityAt k.row k.col = none
  | .removeBuilding id => ∀ b, s.buildings.find? (·.id = id) = some b → ∀ k ∈ b.occupiedTiles,
      ((EntityOp.removeBuilding id).apply s).registry.buildingAt k.row k.col = none
  | _ => True

/-- **The registry is right after an operation**: it answers for exactly the tiles of the entities,
so does a saved and reloaded copy, and nothing is left of what is removed. -/
structure Keeps (s : GameState) (op : EntityOp) : Prop where
  covered : (op.apply s).Covered
  reloads : (op.apply s).ReloadsAlike
  clears : op.Clears s

/-- What is added or removed has a single tile; what is restored may have any. -/
def OnePoint (s : GameState) : EntityOp → Prop
  | .addCity city => City.IsPoint city
  | .removeCity id => ∀ c, s.cities.find? (·.id = id) = some c → City.IsPoint c
  | .addBuilding building => Building.IsPoint building
  | .removeBuilding id => ∀ b, s.buildings.find? (·.id = id) = some b → Building.IsPoint b
  | .restoreCity _ | .restoreBuilding _ => True

/-! ### One operation -/

/-- The first element with a property, and the list without it. -/
theorem exists_split_of_find? {α : Type} {p : α → Bool} {l : List α} {a : α}
    (h : l.find? p = some a) : ∃ l₁ l₂, l = l₁ ++ a :: l₂ ∧ l.eraseP p = l₁ ++ l₂ := by
  obtain ⟨hp, l₁, l₂, rfl, hl₁⟩ := List.find?_eq_some_iff_append.1 h
  refine ⟨l₁, l₂, rfl, ?_⟩
  rw [List.eraseP_append_right _ (by simpa using hl₁), List.eraseP_cons_of_pos hp]

/-- Removing a city that is not there throws. -/
theorem apply_removeCity_none {s : GameState} {id : CityId}
    (h : s.cities.find? (·.id = id) = none) : (EntityOp.removeCity id).apply s = s := by
  rw [apply, GameState.removeCity]
  simp only [h]

theorem apply_removeCity_some {s : GameState} {id : CityId} {c : City}
    (h : s.cities.find? (·.id = id) = some c) :
    (EntityOp.removeCity id).apply s =
      { s with
        registry := { s.registry with
          cities := s.registry.cities.releaseAll [⟨c.centerRow, c.centerCol⟩] }
        cities := s.cities.eraseP (·.id = id) } := by
  rw [apply, GameState.removeCity]
  simp only [h]
  rfl

/-- Removing a building that is not there throws. -/
theorem apply_removeBuilding_none {s : GameState} {id : BuildingId}
    (h : s.buildings.find? (·.id = id) = none) : (EntityOp.removeBuilding id).apply s = s := by
  rw [apply, GameState.removeBuilding]
  simp only [h]

/-- The first of the tiles of a building, if it has any. -/
def firstTile (b : Building) : List TileCoord := b.occupiedTiles.toList.head?.toList

theorem apply_removeBuilding_some {s : GameState} {id : BuildingId} {b : Building}
    (h : s.buildings.find? (·.id = id) = some b) :
    (EntityOp.removeBuilding id).apply s =
      { s with
        registry := { s.registry with
          buildings := s.registry.buildings.releaseAll (firstTile b) }
        buildings := s.buildings.eraseP (·.id = id) } := by
  rw [apply, GameState.removeBuilding, firstTile]
  simp only [h]
  cases b.occupiedTiles.toList.head? <;> rfl

theorem mem_of_mem_firstTile {b : Building} : ∀ k ∈ firstTile b, k ∈ b.occupiedTiles.toList := by
  intro k hk
  rw [firstTile] at hk
  rw [Option.mem_toList] at hk
  exact List.mem_of_mem_head? hk

/-- The first tile is all there is when there is one at most. -/
theorem forall_mem_firstTile_iff {b : Building} :
    (∀ k ∈ b.occupiedTiles.toList, k ∈ firstTile b) ↔ b.IsPoint := by
  rw [firstTile, Building.IsPoint]
  have hsorted := b.occupiedTiles.sorted
  cases htiles : b.occupiedTiles.toList with
  | nil => simp
  | cons k ks =>
      rw [htiles, List.pairwise_cons] at hsorted
      cases ks with
      | nil => simp
      | cons k' ks =>
          refine iff_of_false (fun h => ?_) (by simp)
          have hmem := h k' (by simp)
          simp only [List.head?_cons, Option.toList_some, List.mem_singleton] at hmem
          exact absurd (hsorted.1 k' List.mem_cons_self) (by rw [hmem]; exact lt_irrefl _)

theorem addCity_covered_iff {s : GameState} {city : City} (h : s.Covered)
    (hapart : (EntityOp.addCity city).Apart s) : (s.addCity city).1.Covered ↔ city.IsPoint := by
  obtain ⟨hcities, hbuildings⟩ := GameState.covered_iff.1 h
  have hfootprints : (s.addCity city).1.cityFootprints =
      s.cityFootprints ++ [(s.nextCityId, city.tiles.toList)] := by
    simp only [GameState.cityFootprints, GameState.addCity, List.map_append, List.map_cons,
      List.map_nil]
    rfl
  have hdisj : ∀ e ∈ s.cityFootprints, ∀ k ∈ city.tiles.toList, k ∉ e.2 := by
    intro e he
    obtain ⟨c, hc, rfl⟩ := List.mem_map.1 he
    exact hapart c hc
  have hclaim := hcities.claimAll_append_iff (i := s.nextCityId)
    [⟨city.centerRow, city.centerCol⟩] hdisj fun k hk => by
      rw [List.mem_singleton.1 hk]
      exact city.center_mem
  rw [GameState.covered_iff, hfootprints]
  constructor
  · intro hcov k hk
    exact List.mem_singleton.1 (hclaim.1 hcov.1 k hk)
  · intro hpoint
    exact ⟨hclaim.2 fun k hk => List.mem_singleton.2 (hpoint k hk), hbuildings⟩

theorem restoreCity_covered {s : GameState} {city : City} (h : s.Covered)
    (hapart : (EntityOp.restoreCity city).Apart s) : (s.restoreCity city).Covered := by
  obtain ⟨hcities, hbuildings⟩ := GameState.covered_iff.1 h
  rw [GameState.restoreCity_eq, GameState.covered_iff]
  refine ⟨?_, hbuildings⟩
  have hfootprints : (s.cities ++ [city]).map (fun c => (c.id, c.tiles.toList)) =
      s.cityFootprints ++ [(city.id, city.tiles.toList)] := by
    rw [List.map_append]
    rfl
  rw [GameState.cityFootprints]
  dsimp only
  rw [hfootprints]
  refine hcities.claimAll_append fun e he => ?_
  obtain ⟨c, hc, rfl⟩ := List.mem_map.1 he
  exact hapart c hc

theorem removeCity_covered_iff {s : GameState} {id : CityId} (h : s.Covered) (hdisj : s.Disjoint) :
    ((EntityOp.removeCity id).apply s).Covered ↔ (EntityOp.removeCity id).OnePoint s := by
  obtain ⟨hcities, hbuildings⟩ := GameState.covered_iff.1 h
  unfold OnePoint
  cases hfind : s.cities.find? (·.id = id) with
  | none =>
      rw [apply_removeCity_none hfind]
      exact iff_of_true h fun c hc => by rw [hfind] at hc; simp at hc
  | some c =>
      obtain ⟨l₁, l₂, hsplit, herase⟩ := exists_split_of_find? hfind
      have hmap : s.cityFootprints = l₁.map (fun c => (c.id, c.tiles.toList)) ++
          (c.id, c.tiles.toList) :: l₂.map (fun c => (c.id, c.tiles.toList)) := by
        rw [GameState.cityFootprints, hsplit, List.map_append, List.map_cons]
      have hpair := hdisj.cityFootprints
      rw [hmap] at hcities hpair
      have hrelease := hcities.releaseAll_append_iff [⟨c.centerRow, c.centerCol⟩]
        (OwnerIndex.not_mem_of_pairwise hpair) fun k hk => by
          rw [List.mem_singleton.1 hk]
          exact c.center_mem
      rw [apply_removeCity_some hfind, GameState.covered_iff]
      rw [GameState.cityFootprints]
      dsimp only
      rw [herase, List.map_append]
      constructor
      · intro hcov c' hc' k hk
        obtain rfl := Option.some_inj.1 (hfind.symm.trans hc')
        exact List.mem_singleton.1 (hrelease.1 hcov.1 k hk)
      · intro hpoint
        exact ⟨hrelease.2 fun k hk => List.mem_singleton.2 (hpoint c hfind k hk), hbuildings⟩

theorem addBuilding_covered_iff {s : GameState} {building : Building} (h : s.Covered)
    (hapart : (EntityOp.addBuilding building).Apart s) :
    (s.addBuilding building).1.Covered ↔ building.IsPoint := by
  obtain ⟨hcities, hbuildings⟩ := GameState.covered_iff.1 h
  have hregistry : (s.addBuilding building).1.registry =
      { s.registry with
        buildings := s.registry.buildings.claimAll (firstTile building) s.nextBuildingId } := by
    rw [GameState.addBuilding, firstTile]
    dsimp only
    cases building.occupiedTiles.toList.head? <;> rfl
  have hfootprints : (s.addBuilding building).1.buildingFootprints =
      s.buildingFootprints ++ [(s.nextBuildingId, building.occupiedTiles.toList)] := by
    simp only [GameState.buildingFootprints, GameState.addBuilding, List.map_append, List.map_cons,
      List.map_nil]
  have hdisj : ∀ e ∈ s.buildingFootprints, ∀ k ∈ building.occupiedTiles.toList, k ∉ e.2 := by
    intro e he
    obtain ⟨b, hb, rfl⟩ := List.mem_map.1 he
    exact hapart b hb
  have hclaim := hbuildings.claimAll_append_iff (i := s.nextBuildingId)
    (firstTile building) hdisj mem_of_mem_firstTile
  rw [GameState.covered_iff, hregistry, hfootprints, ← forall_mem_firstTile_iff, ← hclaim]
  exact ⟨fun hcov => hcov.2, fun hcov => ⟨hcities, hcov⟩⟩

theorem restoreBuilding_covered {s : GameState} {building : Building} (h : s.Covered)
    (hapart : (EntityOp.restoreBuilding building).Apart s) :
    (s.restoreBuilding building).Covered := by
  obtain ⟨hcities, hbuildings⟩ := GameState.covered_iff.1 h
  rw [GameState.restoreBuilding_eq, GameState.covered_iff]
  refine ⟨hcities, ?_⟩
  have hfootprints : (s.buildings ++ [building]).map (fun b => (b.id, b.occupiedTiles.toList)) =
      s.buildingFootprints ++ [(building.id, building.occupiedTiles.toList)] := by
    rw [List.map_append]
    rfl
  rw [GameState.buildingFootprints]
  dsimp only
  rw [hfootprints]
  refine hbuildings.claimAll_append fun e he => ?_
  obtain ⟨b, hb, rfl⟩ := List.mem_map.1 he
  exact hapart b hb

theorem removeBuilding_covered_iff {s : GameState} {id : BuildingId} (h : s.Covered)
    (hdisj : s.Disjoint) :
    ((EntityOp.removeBuilding id).apply s).Covered ↔ (EntityOp.removeBuilding id).OnePoint s := by
  obtain ⟨hcities, hbuildings⟩ := GameState.covered_iff.1 h
  unfold OnePoint
  cases hfind : s.buildings.find? (·.id = id) with
  | none =>
      rw [apply_removeBuilding_none hfind]
      exact iff_of_true h fun b hb => by rw [hfind] at hb; simp at hb
  | some b =>
      obtain ⟨l₁, l₂, hsplit, herase⟩ := exists_split_of_find? hfind
      have hmap : s.buildingFootprints = l₁.map (fun b => (b.id, b.occupiedTiles.toList)) ++
          (b.id, b.occupiedTiles.toList) :: l₂.map (fun b => (b.id, b.occupiedTiles.toList)) := by
        rw [GameState.buildingFootprints, hsplit, List.map_append, List.map_cons]
      have hpair := hdisj.buildingFootprints
      rw [hmap] at hbuildings hpair
      have hrelease := hbuildings.releaseAll_append_iff (firstTile b)
        (OwnerIndex.not_mem_of_pairwise hpair) mem_of_mem_firstTile
      rw [apply_removeBuilding_some hfind, GameState.covered_iff]
      rw [GameState.buildingFootprints]
      dsimp only
      rw [herase, List.map_append]
      constructor
      · intro hcov b' hb'
        obtain rfl := Option.some_inj.1 (hfind.symm.trans hb')
        exact forall_mem_firstTile_iff.1 (hrelease.1 hcov.2)
      · intro hpoint
        exact ⟨hcities, hrelease.2 (forall_mem_firstTile_iff.2 (hpoint b hfind))⟩

/-- **One operation**: it leaves the registry right exactly if it adds or removes a single tile. -/
theorem covered_iff_onePoint {s : GameState} {op : EntityOp} (h : s.Covered) (hdisj : s.Disjoint)
    (hapart : op.Apart s) : (op.apply s).Covered ↔ op.OnePoint s := by
  cases op with
  | addCity city => exact addCity_covered_iff h hapart
  | restoreCity city => exact iff_of_true (restoreCity_covered h hapart) trivial
  | removeCity id => exact removeCity_covered_iff h hdisj
  | addBuilding building => exact addBuilding_covered_iff h hapart
  | restoreBuilding building => exact iff_of_true (restoreBuilding_covered h hapart) trivial
  | removeBuilding id => exact removeBuilding_covered_iff h hdisj

/-- The operations keep footprints apart. -/
theorem disjoint_apply {s : GameState} {op : EntityOp} (h : s.Disjoint) (hapart : op.Apart s) :
    (op.apply s).Disjoint := by
  have hadd : ∀ city : City, (∀ c ∈ s.cities, ∀ k ∈ city.tiles, k ∉ c.tiles) → ∀ id,
      (s.cities ++ [city.setId id]).Pairwise fun c d => ∀ k ∈ d.tiles, k ∉ c.tiles := by
    intro city hcity id
    refine List.pairwise_append.2 ⟨h.cities, List.pairwise_singleton _ _, fun c hc d hd => ?_⟩
    obtain rfl := List.mem_singleton.1 hd
    exact hcity c hc
  have hbuild : ∀ building : Building,
      (∀ b ∈ s.buildings, ∀ k ∈ building.occupiedTiles, k ∉ b.occupiedTiles) → ∀ id,
      (s.buildings ++ [{ building with id }]).Pairwise fun b b' : Building =>
        ∀ k ∈ b'.occupiedTiles, k ∉ b.occupiedTiles := by
    intro building hbuilding id
    refine List.pairwise_append.2 ⟨h.buildings, List.pairwise_singleton _ _, fun b hb b' hb' => ?_⟩
    obtain rfl := List.mem_singleton.1 hb'
    exact hbuilding b hb
  cases op with
  | addCity city => exact ⟨hadd city hapart s.nextCityId, h.buildings⟩
  | restoreCity city => exact ⟨hadd city hapart city.id, h.buildings⟩
  | removeCity id =>
      cases hfind : s.cities.find? (·.id = id) with
      | none => rw [apply_removeCity_none hfind]; exact h
      | some c =>
          rw [apply_removeCity_some hfind]
          exact ⟨h.cities.sublist List.eraseP_sublist, h.buildings⟩
  | addBuilding building => exact ⟨h.cities, hbuild building hapart s.nextBuildingId⟩
  | restoreBuilding building => exact ⟨h.cities, hbuild building hapart building.id⟩
  | removeBuilding id =>
      cases hfind : s.buildings.find? (·.id = id) with
      | none => rw [apply_removeBuilding_none hfind]; exact h
      | some b =>
          rw [apply_removeBuilding_some hfind]
          exact ⟨h.cities, h.buildings.sublist List.eraseP_sublist⟩

/-- When the registry is right after a removal, nothing is left of what is removed. -/
theorem clears_of_covered {s : GameState} {op : EntityOp} (hdisj : s.Disjoint)
    (h : (op.apply s).Covered) : op.Clears s := by
  obtain ⟨hcities, hbuildings⟩ := GameState.covered_iff.1 h
  cases op with
  | removeCity id =>
      intro c hfind k hk
      obtain ⟨l₁, l₂, hsplit, herase⟩ := exists_split_of_find? hfind
      refine hcities.owner_eq_none fun e he => ?_
      rw [apply_removeCity_some hfind] at he
      rw [GameState.cityFootprints] at he
      dsimp only at he
      rw [herase, List.map_append] at he
      have hpair := hdisj.cityFootprints
      rw [GameState.cityFootprints, hsplit, List.map_append, List.map_cons] at hpair
      exact OwnerIndex.not_mem_of_pairwise hpair e he k hk
  | removeBuilding id =>
      intro b hfind k hk
      obtain ⟨l₁, l₂, hsplit, herase⟩ := exists_split_of_find? hfind
      refine hbuildings.owner_eq_none fun e he => ?_
      rw [apply_removeBuilding_some hfind] at he
      rw [GameState.buildingFootprints] at he
      dsimp only at he
      rw [herase, List.map_append] at he
      have hpair := hdisj.buildingFootprints
      rw [GameState.buildingFootprints, hsplit, List.map_append, List.map_cons] at hpair
      exact OwnerIndex.not_mem_of_pairwise hpair e he k hk
  | addCity city => trivial
  | restoreCity city => trivial
  | addBuilding building => trivial
  | restoreBuilding building => trivial

/-- **An operation keeps the registry right exactly if it adds or removes a single tile.** -/
theorem keeps_iff {s : GameState} {op : EntityOp} (h : s.Covered) (hdisj : s.Disjoint)
    (hapart : op.Apart s) : op.Keeps s ↔ op.OnePoint s := by
  rw [← covered_iff_onePoint h hdisj hapart]
  constructor
  · intro hkeeps
    exact hkeeps.covered
  · intro hcov
    exact ⟨hcov, hcov.reloadsAlike (disjoint_apply hdisj hapart), clears_of_covered hdisj hcov⟩

end EntityOp

/-! ### Runs -/

/-- An operation as a step. -/
def entityStep (s : GameState) (op : EntityOp) : Option GameState := some (op.apply s)

/-- **Over a whole run from an empty game the registry is right exactly when everything added or
removed has a single tile.** -/
theorem entities_covered_iff (mapRows mapCols : ℤ) (draws : ℕ → TerrainType) (s : GameState)
    (ops : List EntityOp) (hs : GameState.create mapRows mapCols draws = .ok s)
    (hapart : Runs.Along entityStep (fun s op => op.Apart s) s ops) :
    Runs.Along entityStep (fun s op => op.Keeps s) s ops ↔
      Runs.Along entityStep (fun s op => op.OnePoint s) s ops := by
  obtain ⟨m, -, hs⟩ := Except.bind_eq_ok.1 hs
  obtain rfl := Except.ok.inj hs
  refine Runs.along_congr_of_kept (I := fun s => s.Covered ∧ s.Disjoint) ?_ ?_ ops _ ?_ hapart
  · intro s op hinv hop
    exact EntityOp.keeps_iff hinv.1 hinv.2 hop
  · intro s op s' hinv hop hkeeps hstep
    obtain rfl := Option.some_inj.1 hstep
    exact ⟨hkeeps.covered, EntityOp.disjoint_apply hinv.2 hop⟩
  · exact ⟨GameState.covered_iff.2 ⟨OwnerIndex.covers_empty, OwnerIndex.covers_empty⟩,
      List.Pairwise.nil, List.Pairwise.nil⟩

/-- A city of its centre alone. -/
def hamletCity : City := City.create "Rome" 1 1 1

/-- A city with a second tile. -/
def twoTileCity : City := hamletCity.addTile 0 1

theorem hamletCity_isPoint : hamletCity.IsPoint := by
  intro k hk
  exact SortedSet.mem_singleton.1 hk

/-- A city of its centre alone comes and goes. -/
theorem hamlet_comes_and_goes :
    ∃ s, GameState.create 3 3 (fun _ => .plains) = .ok s ∧
      Runs.Along entityStep (fun s op => op.Keeps s) s [.addCity hamletCity, .removeCity 1] := by
  refine ⟨_, rfl, (entities_covered_iff 3 3 _ _ _ rfl ?_).2 ?_⟩
  · refine ⟨fun c hc => absurd hc List.not_mem_nil, fun s' _ => ⟨trivial, fun _ _ => trivial⟩⟩
  · refine ⟨hamletCity_isPoint, fun s' hs' => ⟨fun c hc => ?_, fun _ _ => trivial⟩⟩
    obtain rfl := Option.some_inj.1 hs'
    obtain rfl := Option.some_inj.1 hc
    exact hamletCity_isPoint

/-- **The second tile of a new city is not registered.** -/
theorem second_tile_unregistered :
    ∃ s, GameState.create 3 3 (fun _ => .plains) = .ok s ∧
      Runs.Along entityStep (fun s op => op.Apart s) s [.addCity twoTileCity] ∧
      ¬ Runs.Along entityStep (fun s op => op.Keeps s) s [.addCity twoTileCity] := by
  refine ⟨_, rfl, ⟨fun c hc => absurd hc List.not_mem_nil, fun _ _ => trivial⟩, fun hkeeps => ?_⟩
  have htile := (hkeeps.1.covered.cityAt 0 1 1).2
    ⟨twoTileCity.setId 1, List.mem_singleton.2 rfl, rfl, by decide⟩
  exact absurd htile (by decide)

end My4X
