/-
**The game state.**

The game state owns the map, the entities and the tile registry.  A unit is a heap object owned
by a pointer of the unit list; the registry stores raw pointers to it.  Here a pointer is a
`My4X.UnitRef`, the unit list is a list of references and the units they own, with distinct
references, and a raw pointer is followed by looking its reference up in this list.

Main definitions:

* `My4X.UnitVec` — the list of owned units, with `push`, `erase` and `set`;
* `My4X.TileRegistry` — which city, building and units a tile holds;
* `My4X.FogOfWar` — the visibility grids by faction;
* `My4X.GameState` — the state, with the operations on cities, buildings and units.

Main results:

* `My4X.UnitVec.deref_eq_some` — following a reference finds the unit it owns;
* `My4X.UnitVec.entries_push`, `My4X.UnitVec.entries_erase`, `My4X.UnitVec.entries_set` — the
  references and places of the units after each update.
-/

import My4X.Map
import My4X.City
import My4X.Faction
import My4X.Lib.OccupancyIndex
import My4X.Lib.OwnerIndex

set_option relaxedAutoImplicit false
set_option autoImplicit false

namespace My4X

/-! ### Owned units -/

/-- The address of a unit. -/
abbrev UnitRef := ℕ

/-- A unit together with its address: `std::unique_ptr<Unit>`. -/
structure OwnedUnit where
  ref : UnitRef
  unit : Unit
  deriving DecidableEq

/-- The unit list.  No two entries own the same unit. -/
structure UnitVec where
  list : List OwnedUnit
  nodup : (list.map (·.ref)).Nodup
  deriving DecidableEq

namespace UnitVec

def empty : UnitVec := ⟨[], List.nodup_nil⟩

def size (v : UnitVec) : ℕ := v.list.length

/-- The entry at an index. -/
def get? (v : UnitVec) (i : ℕ) : Option OwnedUnit := v.list[i]?

/-- An address that no unit of the list has: the one a new unit is allocated at. -/
def freshRef (v : UnitVec) : UnitRef := (v.list.map (·.ref)).foldr max 0 + 1

theorem le_foldr_max {l : List ℕ} {a : ℕ} (h : a ∈ l) : a ≤ l.foldr max 0 := by
  induction l with
  | nil => simp at h
  | cons b l ih =>
      rw [List.foldr_cons]
      rcases List.mem_cons.1 h with rfl | h
      · exact Nat.le_max_left _ _
      · exact le_trans (ih h) (Nat.le_max_right _ _)

theorem freshRef_not_mem (v : UnitVec) : v.freshRef ∉ v.list.map (·.ref) := by
  intro h
  have := le_foldr_max h
  rw [freshRef] at this
  omega

/-- Appends a unit at a fresh address. -/
def push (v : UnitVec) (u : Unit) : UnitVec where
  list := v.list ++ [⟨v.freshRef, u⟩]
  nodup := by
    rw [List.map_append, List.map_singleton]
    refine List.nodup_append.2 ⟨v.nodup, List.nodup_singleton _, ?_⟩
    intro a ha b hb
    obtain rfl := List.mem_singleton.1 hb
    rintro rfl
    exact v.freshRef_not_mem ha

/-- Drops the entry at an index. -/
def erase (v : UnitVec) (i : ℕ) : UnitVec where
  list := v.list.eraseIdx i
  nodup := v.nodup.sublist ((List.eraseIdx_sublist v.list i).map _)

/-- Changes the unit at an index, which keeps its address. -/
def set (v : UnitVec) (i : ℕ) (u : Unit) : UnitVec where
  list := v.list.modify i fun p => { p with unit := u }
  nodup := by
    have h : (v.list.modify i fun p => { p with unit := u }).map (·.ref) = v.list.map (·.ref) := by
      refine List.ext_getElem? fun j => ?_
      rw [List.getElem?_map, List.getElem?_map, List.getElem?_modify]
      cases v.list[j]? with
      | none => rfl
      | some p => by_cases hij : i = j <;> simp [hij]
    rw [h]
    exact v.nodup

/-- Follows a raw pointer.  A pointer to a unit that the list no longer owns finds nothing. -/
def deref (v : UnitVec) (r : UnitRef) : Option Unit :=
  (v.list.find? (·.ref = r)).map (·.unit)

/-- An address determines its entry. -/
theorem eq_of_ref_eq {v : UnitVec} {p q : OwnedUnit} (hp : p ∈ v.list) (hq : q ∈ v.list)
    (h : p.ref = q.ref) : p = q :=
  List.inj_on_of_nodup_map v.nodup hp hq h

/-- An address determines its index. -/
theorem index_eq_of_ref_eq {v : UnitVec} {i j : ℕ} {p q : OwnedUnit} (hp : v.get? i = some p)
    (hq : v.get? j = some q) (h : p.ref = q.ref) : i = j := by
  have hp' : (v.list.map (·.ref))[i]? = some p.ref := by
    rw [List.getElem?_map, show v.list[i]? = some p from hp]; rfl
  have hq' : (v.list.map (·.ref))[j]? = some p.ref := by
    rw [List.getElem?_map, show v.list[j]? = some q from hq, h]; rfl
  exact (List.getElem?_inj (List.getElem?_eq_some_iff.1 hp').1 v.nodup).1 (hp'.trans hq'.symm)

/-- **Following a reference finds the unit it owns.** -/
theorem deref_eq_some {v : UnitVec} {r : UnitRef} {u : Unit} :
    v.deref r = some u ↔ (⟨r, u⟩ : OwnedUnit) ∈ v.list := by
  rw [deref, Option.map_eq_some_iff]
  constructor
  · rintro ⟨p, hp, rfl⟩
    have hr : p.ref = r := by simpa using List.find?_some hp
    subst hr
    exact List.mem_of_find?_eq_some hp
  · intro h
    cases hf : v.list.find? (·.ref = r) with
    | none => exact absurd (List.find?_eq_none.1 hf _ h) (by simp)
    | some p =>
        have hr : p.ref = r := by simpa using List.find?_some hf
        exact ⟨p, rfl, by rw [eq_of_ref_eq (List.mem_of_find?_eq_some hf) h hr]⟩

@[simp] theorem get?_set (v : UnitVec) (i j : ℕ) (u : Unit) :
    (v.set i u).get? j =
      if i = j then (v.get? j).map (fun p => { p with unit := u }) else v.get? j := by
  rw [get?, set, List.getElem?_modify]
  split
  · rfl
  · exact id_map _

theorem get?_lt {v : UnitVec} {i : ℕ} {p : OwnedUnit} (h : v.get? i = some p) : i < v.size :=
  (List.getElem?_eq_some_iff.1 h).1

theorem exists_get?_of_lt {v : UnitVec} {i : ℕ} (h : i < v.size) : ∃ p, v.get? i = some p :=
  ⟨_, List.getElem?_eq_getElem h⟩

theorem mem_list_of_get? {v : UnitVec} {i : ℕ} {p : OwnedUnit} (h : v.get? i = some p) :
    p ∈ v.list := List.mem_of_getElem? h

theorem exists_get?_of_mem {v : UnitVec} {p : OwnedUnit} (h : p ∈ v.list) :
    ∃ i, v.get? i = some p := List.mem_iff_getElem?.1 h

theorem mem_of_mem_erase {v : UnitVec} {i : ℕ} {p : OwnedUnit} (h : p ∈ (v.erase i).list) :
    p ∈ v.list := List.mem_of_mem_eraseIdx h

/-- The entries after a change: the changed one, and the others. -/
theorem mem_set {v : UnitVec} {i : ℕ} {p q : OwnedUnit} {u : Unit} (hp : v.get? i = some p)
    (hq : q ∈ (v.set i u).list) : q = { p with unit := u } ∨ (q ∈ v.list ∧ q.ref ≠ p.ref) := by
  obtain ⟨j, hj⟩ := exists_get?_of_mem hq
  rw [get?_set] at hj
  split at hj
  · next hij =>
      subst hij
      rw [hp] at hj
      exact Or.inl (Option.some_inj.1 hj).symm
  · next hij =>
      refine Or.inr ⟨mem_list_of_get? hj, ?_⟩
      intro href
      exact hij (index_eq_of_ref_eq hp hj href.symm)

/-- Changing a unit of the list leaves every address with its faction. -/
theorem exists_mem_set_iff {v : UnitVec} {j : ℕ} {q : OwnedUnit} {w : Unit}
    (hq : v.get? j = some q) (hw : w.factionId = q.unit.factionId) (r : UnitRef)
    (f : FactionId) :
    (∃ u, (⟨r, u⟩ : OwnedUnit) ∈ (v.set j w).list ∧ u.factionId = f) ↔
      ∃ u, (⟨r, u⟩ : OwnedUnit) ∈ v.list ∧ u.factionId = f := by
  constructor
  · rintro ⟨u, hmem, rfl⟩
    rcases mem_set hq hmem with heq | ⟨hmem, -⟩
    · obtain ⟨rfl, rfl⟩ := OwnedUnit.mk.inj heq
      exact ⟨q.unit, mem_list_of_get? hq, hw.symm⟩
    · exact ⟨u, hmem, rfl⟩
  · rintro ⟨u, hmem, rfl⟩
    obtain ⟨k, hk⟩ := exists_get?_of_mem hmem
    by_cases hjk : j = k
    · subst hjk
      obtain rfl : q = ⟨r, u⟩ := Option.some_inj.1 (hq.symm.trans hk)
      refine ⟨w, mem_list_of_get? (i := j) ?_, hw⟩
      rw [get?_set, if_pos rfl, hk]
      rfl
    · refine ⟨u, mem_list_of_get? (i := k) ?_, rfl⟩
      rw [get?_set, if_neg hjk, hk]

@[simp] theorem size_set (v : UnitVec) (i : ℕ) (u : Unit) : (v.set i u).size = v.size :=
  List.length_modify ..

theorem get?_erase (v : UnitVec) (i j : ℕ) :
    (v.erase i).get? j = if j < i then v.get? j else v.get? (j + 1) :=
  List.getElem?_eraseIdx ..

@[ext] theorem ext {v w : UnitVec} (h : v.list = w.list) : v = w := by
  cases v; cases w
  simpa using h

theorem ext_get? {v w : UnitVec} (h : ∀ i, v.get? i = w.get? i) : v = w :=
  ext (List.ext_getElem? h)

/-- Changes at two indices, in either order. -/
theorem set_comm (v : UnitVec) {i j : ℕ} (hij : i ≠ j) (u w : Unit) :
    (v.set i u).set j w = (v.set j w).set i u := by
  refine ext_get? fun k => ?_
  by_cases hik : i = k
  · have hjk : ¬ j = k := fun hjk => hij (hik.trans hjk.symm)
    simp only [get?_set, if_pos hik, if_neg hjk]
  · simp only [get?_set, if_neg hik]

/-! ### References and places -/

/-- The references and places of the units. -/
def entries (v : UnitVec) : List (UnitRef × TileCoord) := v.list.map fun p => (p.ref, p.unit.coord)

theorem entries_fst (v : UnitVec) : v.entries.map Prod.fst = v.list.map (·.ref) := by
  rw [entries, List.map_map]
  rfl

theorem entries_nodup (v : UnitVec) : (v.entries.map Prod.fst).Nodup := by
  rw [entries_fst]
  exact v.nodup

theorem entries_get? {v : UnitVec} {i : ℕ} {p : OwnedUnit} (h : v.get? i = some p) :
    v.entries[i]? = some (p.ref, p.unit.coord) := by
  rw [entries, List.getElem?_map, show v.list[i]? = some p from h]
  rfl

theorem mem_entries {v : UnitVec} {r : UnitRef} {k : TileCoord} :
    (r, k) ∈ v.entries ↔ ∃ u, (⟨r, u⟩ : OwnedUnit) ∈ v.list ∧ u.coord = k := by
  simp only [entries, List.mem_map, Prod.mk.injEq]
  constructor
  · rintro ⟨p, hp, rfl, rfl⟩
    exact ⟨p.unit, hp, rfl⟩
  · rintro ⟨u, hu, rfl⟩
    exact ⟨⟨r, u⟩, hu, rfl, rfl⟩

theorem entries_push (v : UnitVec) (u : Unit) :
    (v.push u).entries = v.entries ++ [(v.freshRef, u.coord)] := by
  rw [entries, push, List.map_append]
  rfl

theorem entries_erase (v : UnitVec) (i : ℕ) : (v.erase i).entries = v.entries.eraseIdx i := by
  rw [entries, erase, entries, ← List.eraseIdx_map]

theorem entries_set {v : UnitVec} {i : ℕ} {p : OwnedUnit} (h : v.get? i = some p) (u : Unit) :
    (v.set i u).entries = v.entries.set i (p.ref, u.coord) := by
  refine List.ext_getElem? fun j => ?_
  have hlt : i < v.entries.length := (List.getElem?_eq_some_iff.1 (entries_get? h)).1
  have hget : (v.set i u).list[j]? = (v.set i u).get? j := rfl
  rw [entries, List.getElem?_map, hget, get?_set]
  by_cases hij : i = j
  · subst hij
    rw [List.getElem?_set_self hlt, if_pos rfl, h]
    rfl
  · rw [List.getElem?_set_ne hij, if_neg hij, entries, List.getElem?_map]
    rfl

end UnitVec

/-! ### The tile registry -/

/-- What occupies each tile: a city, a building, and units. -/
structure TileRegistry where
  cities : OwnerIndex TileCoord CityId
  buildings : OwnerIndex TileCoord BuildingId
  units : OccupancyIndex TileCoord UnitRef

namespace TileRegistry

def empty : TileRegistry := ⟨OwnerIndex.empty, OwnerIndex.empty, OccupancyIndex.empty⟩

def registerCity (reg : TileRegistry) (row col : ℤ) (city : CityId) : TileRegistry :=
  { reg with cities := reg.cities.claim ⟨row, col⟩ city }

def unregisterCity (reg : TileRegistry) (row col : ℤ) : TileRegistry :=
  { reg with cities := reg.cities.release ⟨row, col⟩ }

def registerBuilding (reg : TileRegistry) (row col : ℤ) (building : BuildingId) : TileRegistry :=
  { reg with buildings := reg.buildings.claim ⟨row, col⟩ building }

def unregisterBuilding (reg : TileRegistry) (row col : ℤ) : TileRegistry :=
  { reg with buildings := reg.buildings.release ⟨row, col⟩ }

def registerUnit (reg : TileRegistry) (row col : ℤ) (unit : UnitRef) : TileRegistry :=
  { reg with units := reg.units.register ⟨row, col⟩ unit }

def unregisterUnit (reg : TileRegistry) (row col : ℤ) (unit : UnitRef) : TileRegistry :=
  { reg with units := reg.units.unregister ⟨row, col⟩ unit }

def cityAt (reg : TileRegistry) (row col : ℤ) : Option CityId := reg.cities.owner ⟨row, col⟩

def buildingAt (reg : TileRegistry) (row col : ℤ) : Option BuildingId :=
  reg.buildings.owner ⟨row, col⟩

def unitsAt (reg : TileRegistry) (row col : ℤ) : List UnitRef := reg.units.refsAt ⟨row, col⟩

end TileRegistry

/-- The units on a tile, by the registry; `units` is where the registered pointers lead. -/
def unitsOnTile (registry : TileRegistry) (units : UnitVec) (row col : ℤ) : List Unit :=
  (registry.unitsAt row col).filterMap units.deref

theorem exists_unitsOnTile_iff {registry : TileRegistry} {units : UnitVec} {row col : ℤ}
    {f : FactionId} :
    (∃ u ∈ unitsOnTile registry units row col, u.factionId = f) ↔
      ∃ r ∈ registry.unitsAt row col, ∃ u, (⟨r, u⟩ : OwnedUnit) ∈ units.list ∧ u.factionId = f := by
  simp only [unitsOnTile, List.mem_filterMap, UnitVec.deref_eq_some]
  constructor
  · rintro ⟨u, ⟨r, hr, hu⟩, hf⟩
    exact ⟨r, hr, u, hu, hf⟩
  · rintro ⟨r, hr, u, hu, hf⟩
    exact ⟨u, ⟨r, hr, hu⟩, hf⟩

/-! ### Fog of war -/

/-- What a faction knows of a tile. -/
inductive VisibilityState
  | unexplored
  | explored
  | visible
  deriving DecidableEq, Repr

/-- The visibility grids by faction, each of one entry for each tile. -/
structure FogOfWar where
  rows : ℤ
  cols : ℤ
  grids : AList fun _ : FactionId => List VisibilityState

namespace FogOfWar

def create (rows cols : ℤ) : FogOfWar := ⟨rows, cols, ∅⟩

/-- The position of a tile in a grid. -/
def index (fog : FogOfWar) (row col : ℤ) : ℕ := (row * fog.cols + col).toNat

/-- The visibility of a tile; a faction without a grid has explored nothing. -/
def getVisibility (fog : FogOfWar) (factionId : FactionId) (row col : ℤ) :
    Except Fault VisibilityState :=
  match fog.grids.lookup factionId with
  | none => .ok .unexplored
  | some grid =>
      match grid[fog.index row col]? with
      | some state => .ok state
      | none => .error .assertion

end FogOfWar

/-! ### The game state -/

/-- The central container of the game. -/
structure GameState where
  turn : ℤ := 1
  map : Map
  registry : TileRegistry := TileRegistry.empty
  fog : FogOfWar
  cities : List City := []
  buildings : List Building := []
  units : UnitVec := UnitVec.empty
  factionRegistry : FactionRegistry := {}
  diplomacy : DiplomacyManager := DiplomacyManager.empty
  factionResources : Resource := {}
  nextCityId : CityId := 1
  nextBuildingId : BuildingId := 1

namespace GameState

/-- The constructor: an empty game on a new map. -/
def create (mapRows mapCols : ℤ) (draws : ℕ → TerrainType) : Except Fault GameState := do
  let map ← Map.create mapRows mapCols draws
  return { map, fog := FogOfWar.create mapRows mapCols }

def nextTurn (s : GameState) : GameState := { s with turn := s.turn + 1 }

def setTurn (s : GameState) (turn : ℤ) : GameState := { s with turn }

/-! ### Cities -/

/-- Adds a city under a new identifier and registers its centre. -/
def addCity (s : GameState) (city : City) : GameState × CityId :=
  let city := city.setId s.nextCityId
  ({ s with
      nextCityId := s.nextCityId + 1
      registry := s.registry.registerCity city.centerRow city.centerCol city.id
      cities := s.cities ++ [city] },
    city.id)

/-- Removes the first city with an identifier and unregisters its centre. -/
def removeCity (s : GameState) (id : CityId) : Except Fault GameState :=
  match s.cities.find? (·.id = id) with
  | none => .error (.outOfRange "City not found")
  | some city =>
      .ok { s with
        registry := s.registry.unregisterCity city.centerRow city.centerCol
        cities := s.cities.eraseP (·.id = id) }

/-- The first city with an identifier. -/
def findCity (s : GameState) (id : CityId) : Option City := s.cities.find? (·.id = id)

/-- Changes a city in place. -/
def setCity (s : GameState) (i : ℕ) (city : City) : GameState :=
  { s with cities := s.cities.set i city }

/-- Adds a city under its own identifier and registers every tile of it. -/
def restoreCity (s : GameState) (city : City) : GameState :=
  { s with
    registry := city.tiles.toList.foldl (fun reg t => reg.registerCity t.row t.col city.id)
      s.registry
    cities := s.cities ++ [city] }

/-! ### Buildings -/

/-- Adds a building under a new identifier and registers the first of its tiles. -/
def addBuilding (s : GameState) (building : Building) : GameState × BuildingId :=
  let building := { building with id := s.nextBuildingId }
  ({ s with
      nextBuildingId := s.nextBuildingId + 1
      registry := match building.occupiedTiles.toList.head? with
        | some first => s.registry.registerBuilding first.row first.col building.id
        | none => s.registry
      buildings := s.buildings ++ [building] },
    building.id)

/-- Removes the first building with an identifier and unregisters the first of its tiles. -/
def removeBuilding (s : GameState) (id : BuildingId) : Except Fault GameState :=
  match s.buildings.find? (·.id = id) with
  | none => .error (.outOfRange "Building not found")
  | some building =>
      .ok { s with
        registry := match building.occupiedTiles.toList.head? with
          | some first => s.registry.unregisterBuilding first.row first.col
          | none => s.registry
        buildings := s.buildings.eraseP (·.id = id) }

/-- Adds a building under its own identifier and registers every tile of it. -/
def restoreBuilding (s : GameState) (building : Building) : GameState :=
  { s with
    registry := building.occupiedTiles.toList.foldl
      (fun reg t => reg.registerBuilding t.row t.col building.id) s.registry
    buildings := s.buildings ++ [building] }

/-! ### Units -/

/-- Adds a unit and registers it. -/
def addUnit (s : GameState) (unit : Unit) : GameState × ℕ :=
  ({ s with
      registry := s.registry.registerUnit unit.row unit.col s.units.freshRef
      units := s.units.push unit },
    s.units.size)

/-- Unregisters a unit, the one at an index, and drops it. -/
def dropUnit (s : GameState) (index : ℕ) (p : OwnedUnit) : GameState :=
  { s with
    registry := s.registry.unregisterUnit p.unit.row p.unit.col p.ref
    units := s.units.erase index }

/-- Removes the unit at an index. -/
def removeUnit (s : GameState) (index : ℕ) : Except Fault GameState :=
  match s.units.get? index with
  | none => .error (.outOfRange "Unit index out of range")
  | some p => .ok (s.dropUnit index p)

/-- A removal leaves one unit less. -/
theorem size_dropUnit {s : GameState} {index : ℕ} {p : OwnedUnit}
    (h : s.units.get? index = some p) : (s.dropUnit index p).units.size + 1 = s.units.size := by
  have hlt := UnitVec.get?_lt h
  have herase : (s.dropUnit index p).units.size = s.units.size - 1 := List.length_eraseIdx_of_lt hlt
  omega

theorem removeUnit_ok {s : GameState} {index : ℕ} {p : OwnedUnit}
    (h : s.units.get? index = some p) : s.removeUnit index = .ok (s.dropUnit index p) := by
  rw [removeUnit, h]

theorem removeUnit_eq_ok {s s' : GameState} {index : ℕ} (h : s.removeUnit index = .ok s') :
    ∃ p, s.units.get? index = some p ∧ s' = s.dropUnit index p := by
  rw [removeUnit] at h
  cases hp : s.units.get? index with
  | none => simp [hp] at h
  | some p =>
      rw [hp] at h
      exact ⟨p, rfl, (Except.ok.inj h).symm⟩

/-- Unregisters a unit, changes it and registers it at its new place. -/
def relocate (s : GameState) (index : ℕ) (p : OwnedUnit) (unit : Unit) : GameState :=
  { s with
    registry := (s.registry.unregisterUnit p.unit.row p.unit.col p.ref).registerUnit
      unit.row unit.col p.ref
    units := s.units.set index unit }

/-- The state of the loop over the units: the game, the selected index and the units removed. -/
structure DeadUnitSweep where
  state : GameState
  selectedIndex : Option ℤ
  removed : ℕ

/-- The body of the loop: removes the unit at an index if it is dead, and adjusts the selection. -/
def removeDeadUnitAt (sweep : DeadUnitSweep) (idx : ℕ) : DeadUnitSweep :=
  match sweep.state.units.get? idx with
  | none => sweep
  | some p =>
      if p.unit.isAlive then sweep
      else
        { state := sweep.state.dropUnit idx p
          selectedIndex := sweep.selectedIndex.map fun sel : ℤ =>
            if sel = (idx : ℤ) then -1 else if (idx : ℤ) < sel then sel - 1 else sel
          removed := sweep.removed + 1 }

/-- Removes every dead unit, from the last one to the first, and keeps a selected index. -/
def removeDeadUnits (s : GameState) (selectedIndex : Option ℤ) : DeadUnitSweep :=
  (List.range s.units.size).reverse.foldl removeDeadUnitAt ⟨s, selectedIndex, 0⟩

end GameState

/-- A field of plains of three rows and three columns, without units or cities. -/
def plainField : GameState where
  map := { height := 3, width := 3, height_pos := by decide, width_pos := by decide
           tiles := generateTiles 3 3 fun _ => .plains }
  fog := FogOfWar.create 3 3

end My4X
