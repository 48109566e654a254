/-
**Where completed units are spawned.**

A unit that a city has completed is put on the first neighbour of its centre in the map on which no
unit is registered, in a fixed order of the neighbours, or else on the centre itself.  Nothing looks
at the terrain, nor at the units on the centre: the place is legal exactly when the first free
neighbour happens to have passable terrain, or there is none and the centre will do.

Main definitions:

* `My4X.LegalPlace` — a place where a unit may be spawned;
* `My4X.TurnResolver.FirstFree` — the first free neighbour of the centre of a city;
* `My4X.HasLegalSpawn` — the place where a unit would be spawned is one that welcomes it.

Main results:

* `My4X.TurnResolver.mem_spawnNeighbors_iff` — the neighbours are the tiles of the map at distance
  one;
* `My4X.TurnResolver.findSpawnTile_cases` — where a unit is spawned;
* `My4X.spawnCompletedUnit_legal_iff` — **a completed unit is spawned legally exactly when that
  place welcomes it**.
-/

import My4X.Adjacency
import My4X.TurnFaults

set_option relaxedAutoImplicit false
set_option autoImplicit false

namespace My4X

/-! ### Legal places -/

namespace GameState

/-- No unit is registered on the tile. -/
def IsFree (s : GameState) (row col : ℤ) : Prop := s.registry.unitsAt row col = []

/-- The tile lies in the map, and its terrain can be entered. -/
def IsPassable (s : GameState) (row col : ℤ) : Prop :=
  ∃ tile, s.map.tile row col = .ok tile ∧ (getTerrainProperties tile.terrain).passable = true

/-- All units on the tile belong to a faction. -/
def HoldsOnly (s : GameState) (factionId : FactionId) (row col : ℤ) : Prop :=
  ∀ p ∈ s.units.list, p.unit.row = row → p.unit.col = col → p.unit.factionId = factionId

/-- A tile of passable terrain without units of other factions. -/
def Welcomes (s : GameState) (factionId : FactionId) (row col : ℤ) : Prop :=
  s.IsPassable row col ∧ s.HoldsOnly factionId row col

theorem IsPassable.inBounds {s : GameState} {row col : ℤ} (h : s.IsPassable row col) :
    InBounds row col s.map.height s.map.width := by
  obtain ⟨tile, htile, -⟩ := h
  exact (s.map.tile_eq_ok_iff row col).1 ⟨tile, htile⟩

/-- When the registry is coherent, a tile is free when no unit stands on it. -/
theorem Coherent.isFree_iff {s : GameState} (h : s.Coherent) (row col : ℤ) :
    s.IsFree row col ↔ ∀ p ∈ s.units.list, ¬ (p.unit.row = row ∧ p.unit.col = col) := by
  rw [IsFree, List.eq_nil_iff_forall_not_mem]
  constructor
  · intro hfree p hp hplace
    refine hfree p.ref ((h.mem_refsAt _ _).2 (UnitVec.mem_entries.2 ⟨p.unit, hp, ?_⟩))
    exact TileCoord.ext_iff'.2 hplace
  · intro hnone ref href
    obtain ⟨unit, hp, hplace⟩ := UnitVec.mem_entries.1 ((h.mem_refsAt _ _).1 href)
    exact hnone _ hp (TileCoord.ext_iff'.1 hplace)

end GameState

/-- A free tile of passable terrain next to the centre of a city. -/
def FreeNeighbor (s : GameState) (city : City) (row col : ℤ) : Prop :=
  s.IsPassable row col ∧ hexDistance city.centerRow city.centerCol row col = 1 ∧ s.IsFree row col

/-- **A place where a unit of a city may be spawned**: passable terrain of the map, the centre of
the city or next to it, without units of other factions, and a free tile next to the centre if there
is one. -/
structure LegalPlace (s : GameState) (city : City) (u : Unit) : Prop where
  owner : u.factionId = city.owner
  inBounds : InBounds u.row u.col s.map.height s.map.width
  passable : s.IsPassable u.row u.col
  near : (u.row, u.col) = (city.centerRow, city.centerCol) ∨
    hexDistance city.centerRow city.centerCol u.row u.col = 1
  alone : s.HoldsOnly u.factionId u.row u.col
  neighbor : (∃ row col, FreeNeighbor s city row col) → FreeNeighbor s city u.row u.col

/-! ### Where a unit is spawned -/

namespace TurnResolver

/-- The neighbours of the centre of a city, in the order in which they are tried. -/
def spawnNeighbors (s : GameState) (city : City) : List (ℤ × ℤ) :=
  hexNeighbors city.centerRow city.centerCol s.map.height s.map.width

/-- **The neighbours of the centre of a city are the tiles of the map at distance one.** -/
theorem mem_spawnNeighbors_iff {s : GameState} {city : City} {row col : ℤ} :
    (row, col) ∈ spawnNeighbors s city ↔ InBounds row col s.map.height s.map.width ∧
      hexDistance city.centerRow city.centerCol row col = 1 :=
  (listsNeighbors_hexNeighbors city.centerRow city.centerCol s.map.height s.map.width).mem_iff
    (row, col)

/-- **The first free neighbour of the centre of a city.** -/
def FirstFree (s : GameState) (city : City) (n : ℤ × ℤ) : Prop :=
  ∃ before after, spawnNeighbors s city = before ++ n :: after ∧ s.IsFree n.1 n.2 ∧
    ∀ m ∈ before, ¬ s.IsFree m.1 m.2

/-- **Where a unit is spawned**: on the first free neighbour, or else on the centre. -/
theorem findSpawnTile_cases (s : GameState) (city : City) :
    (∃ n, (∀ m, FirstFree s city m ↔ m = n) ∧
      findSpawnTile city.centerRow city.centerCol s = n) ∨
    ((∀ n ∈ spawnNeighbors s city, ¬ s.IsFree n.1 n.2) ∧
      findSpawnTile city.centerRow city.centerCol s = (city.centerRow, city.centerCol)) := by
  have hfirst : ∀ m, FirstFree s city m ↔ (spawnNeighbors s city).find?
      (fun n => (s.registry.unitsAt n.1 n.2).isEmpty) = some m := by
    intro m
    rw [List.find?_eq_some_iff_append, List.isEmpty_iff]
    constructor
    · rintro ⟨before, after, hsplit, hfree, hbefore⟩
      exact ⟨hfree, before, after, hsplit,
        fun a ha => by simpa [GameState.IsFree] using hbefore a ha⟩
    · rintro ⟨hfree, before, after, hsplit, hbefore⟩
      exact ⟨before, after, hsplit, hfree,
        fun a ha => by simpa [GameState.IsFree] using hbefore a ha⟩
  rw [findSpawnTile]
  cases hfind : (spawnNeighbors s city).find?
      fun n => (s.registry.unitsAt n.1 n.2).isEmpty with
  | some n =>
      refine Or.inl ⟨n, fun m => ?_, ?_⟩
      · rw [hfirst, hfind, Option.some_inj, eq_comm]
      · exact congrArg (Option.getD · (city.centerRow, city.centerCol)) hfind
  | none =>
      refine Or.inr ⟨fun n hn hfree => ?_, ?_⟩
      · exact List.find?_eq_none.1 hfind n hn (List.isEmpty_iff.2 hfree)
      · exact congrArg (Option.getD · (city.centerRow, city.centerCol)) hfind

end TurnResolver

/-! ### Legal spawning -/

open TurnResolver

/-- **The place where a unit would be spawned welcomes it**: the first free neighbour of the centre,
or the centre if all neighbours are occupied; and the unit is of a known type. -/
def HasLegalSpawn (reg : UnitTypeRegistry) (s : GameState) (city : City) (templateKey : String) :
    Prop :=
  reg.hasTemplate templateKey = true ∧
    ((∃ n, FirstFree s city n ∧ s.Welcomes city.owner n.1 n.2) ∨
      (∀ n ∈ spawnNeighbors s city, ¬ s.IsFree n.1 n.2) ∧
        s.Welcomes city.owner city.centerRow city.centerCol)

/-- A unit is placed legally exactly when the place welcomes it. -/
theorem legalPlace_iff (s : GameState) (city : City) (tmpl : UnitTemplate) :
    LegalPlace s city (spawnedUnit s city tmpl) ↔
      s.Welcomes city.owner (findSpawnTile city.centerRow city.centerCol s).1
        (findSpawnTile city.centerRow city.centerCol s).2 := by
  constructor
  · intro h
    exact ⟨h.passable, h.alone⟩
  · rintro ⟨hpassable, halone⟩
    rcases findSpawnTile_cases s city with ⟨n, hfirst, hn⟩ | ⟨hoccupied, hcentre⟩
    · obtain ⟨before, after, hsplit, hfree, -⟩ := (hfirst n).2 rfl
      have hmem : n ∈ spawnNeighbors s city := by
        rw [hsplit]
        exact List.mem_append_right _ List.mem_cons_self
      have hnear := (mem_spawnNeighbors_iff.1 hmem).2
      rw [← hn] at hnear hfree
      exact ⟨rfl, hpassable.inBounds, hpassable, Or.inr hnear, halone,
        fun _ => ⟨hpassable, hnear, hfree⟩⟩
    · refine ⟨rfl, hpassable.inBounds, hpassable, Or.inl hcentre, halone, ?_⟩
      rintro ⟨row, col, hpass, hdist, hfree⟩
      exact absurd hfree (hoccupied (row, col) (mem_spawnNeighbors_iff.2 ⟨hpass.inBounds, hdist⟩))

/-- **A completed unit is spawned legally exactly when the place where it would be spawned welcomes
it.** -/
theorem spawnCompletedUnit_legal_iff (reg : UnitTypeRegistry) (s : GameState) (city : City)
    (templateKey : String) :
    (∃ s' p, spawnCompletedUnit s city templateKey reg = .ok s' ∧
        s'.units.list = s.units.list ++ [p] ∧ LegalPlace s city p.unit) ↔
      HasLegalSpawn reg s city templateKey := by
  have hplace : (∃ n, FirstFree s city n ∧ s.Welcomes city.owner n.1 n.2) ∨
      ((∀ n ∈ spawnNeighbors s city, ¬ s.IsFree n.1 n.2) ∧
        s.Welcomes city.owner city.centerRow city.centerCol) ↔
      s.Welcomes city.owner (findSpawnTile city.centerRow city.centerCol s).1
        (findSpawnTile city.centerRow city.centerCol s).2 := by
    rcases findSpawnTile_cases s city with ⟨n, hfirst, hn⟩ | ⟨hoccupied, hcentre⟩
    · rw [hn]
      constructor
      · rintro (⟨m, hm, hwelcomes⟩ | ⟨hoccupied, -⟩)
        · rwa [← (hfirst m).1 hm]
        · obtain ⟨before, after, hsplit, hfree, -⟩ := (hfirst n).2 rfl
          refine absurd hfree (hoccupied n ?_)
          rw [hsplit]
          exact List.mem_append_right _ List.mem_cons_self
      · exact fun hwelcomes => Or.inl ⟨n, (hfirst n).2 rfl, hwelcomes⟩
    · rw [hcentre]
      constructor
      · rintro (⟨m, ⟨before, after, hsplit, hfree, -⟩, -⟩ | ⟨-, hwelcomes⟩)
        · refine absurd hfree (hoccupied m ?_)
          rw [hsplit]
          exact List.mem_append_right _ List.mem_cons_self
        · exact hwelcomes
      · exact fun hwelcomes => Or.inr ⟨hoccupied, hwelcomes⟩
  rw [HasLegalSpawn, hplace, spawnCompletedUnit]
  cases hknown : reg.getTemplate templateKey with
  | error e =>
      rw [getTemplate_eq_error hknown]
      constructor
      · rintro ⟨s', p, hspawn, -⟩
        cases hspawn
      · rintro ⟨hfalse, -⟩
        cases hfalse
  | ok tmpl =>
      rw [getTemplate_eq_ok hknown, ← legalPlace_iff s city tmpl, and_iff_right rfl]
      constructor
      · rintro ⟨s', p, hspawn, hunits, hlegal⟩
        obtain rfl := Except.ok.inj hspawn
        obtain rfl := List.singleton_inj.1 (List.append_cancel_left hunits)
        exact hlegal
      · exact fun hlegal => ⟨_, ⟨s.units.freshRef, _⟩, rfl, rfl, hlegal⟩

/-- The north-east of the centre is water, and a warrior is spawned there, with passable terrain
next to it. -/
theorem spawns_in_water :
    ∃ map reg s', plainField.map.setTerrain 0 1 .water = .ok map ∧
      UnitTypeRegistry.empty.registerDefaults = .ok reg ∧
      spawnCompletedUnit { plainField with map } (City.create "Capital" 1 1 1) "Warrior" reg =
        .ok s' ∧
      s'.units.list.map (fun p => (p.unit.row, p.unit.col)) = [(0, 1)] ∧
      ¬ ∃ s' p, spawnCompletedUnit { plainField with map } (City.create "Capital" 1 1 1) "Warrior"
            reg = .ok s' ∧
          s'.units.list = plainField.units.list ++ [p] ∧
          LegalPlace { plainField with map } (City.create "Capital" 1 1 1) p.unit := by
  refine ⟨_, _, _, rfl, rfl, rfl, rfl, ?_⟩
  rintro ⟨s', p, hspawn, hunits, hlegal⟩
  obtain rfl := Except.ok.inj hspawn
  obtain rfl := List.singleton_inj.1 (List.append_cancel_left hunits)
  obtain ⟨tile, htile, hpassable⟩ := hlegal.passable
  obtain rfl := Except.ok.inj htile
  cases hpassable

end My4X
