/-
**The identifiers of cities and buildings.**

Cities and buildings are numbered by two counters of 32 bits, which start at 1 and are saved next to
the entities.  A removal does not touch them, and a load restores them with the entities.  The `n +
1`-st city added therefore gets the identifier `n + 1`, whatever is removed, saved and loaded in
between, until the counter wraps around.

Main definitions:

* `My4X.IdOp`, `My4X.IdHistory` — the operations, and a game with all identifiers given so far;
* `My4X.FreshIn` — the identifiers given are distinct, and the entities have some of them.

Main results:

* `My4X.GameState.cityIds_saveLoad`, `My4X.GameState.buildingIds_saveLoad` — a load restores the
  identifiers and the counters;
* `My4X.IdHistory.run_numbered` — the numbering along a run;
* `My4X.IdHistory.run_fresh` — **no identifier is given twice**, and the entities are below the
  counter until it wraps around;
* `My4X.IdHistory.churn_wraps` — after 4294967295 additions the counter is 0.
-/

import My4X.EntityRuns
import My4X.Lib.FreshIds
import Mathlib.Algebra.Group.Nat.Defs

set_option relaxedAutoImplicit false
set_option autoImplicit false

namespace My4X

/-! ### Saving and loading -/

/-- What is read back from the bytes of a message is that message. -/
def Codec.ReadsBack (codec : Codec) : Prop :=
  ∀ message data message', codec.serialize message = some data →
    codec.parse data = some message' → message' = message

/-- The message of a state has its counters. -/
theorem toMessage_nextIds {s : GameState} {proto : Proto.GameState} (h : toMessage s = .ok proto) :
    proto.nextCityId = s.nextCityId ∧ proto.nextBuildingId = s.nextBuildingId := by
  obtain ⟨tiles, -, h⟩ := Except.bind_eq_ok.1 h
  obtain ⟨units, -, h⟩ := Except.bind_eq_ok.1 h
  obtain rfl := Except.ok.inj h
  exact ⟨rfl, rfl⟩

namespace GameState

/-- The game that is loaded from its save; the game stays as it is when saving or loading throws. -/
def saveLoad (codec : Codec) (draws : ℕ → TerrainType) (s : GameState) : GameState :=
  match serializeGameState codec s with
  | .error _ => s
  | .ok data =>
      match deserializeGameState codec draws data with
      | .error _ => s
      | .ok t => t

/-- The identifiers of the cities, in order. -/
def cityIds (s : GameState) : List CityId := s.cities.map (·.id)

/-- The identifiers of the buildings, in order. -/
def buildingIds (s : GameState) : List BuildingId := s.buildings.map (·.id)

theorem cityIds_eq_footprints (s : GameState) : s.cityIds = s.cityFootprints.map Prod.fst := by
  rw [cityIds, cityFootprints, List.map_map]
  rfl

/-- A game and its loaded copy come from the message of the game, unless it is the game itself. -/
theorem saveLoad_cases {codec : Codec} (hcodec : codec.ReadsBack) (draws : ℕ → TerrainType)
    (s : GameState) :
    s.saveLoad codec draws = s ∨
      ∃ proto fresh reg, toMessage s = .ok proto ∧
        Loaded draws proto fresh reg (s.saveLoad codec draws) := by
  rw [saveLoad]
  cases hsave : serializeGameState codec s with
  | error e => exact Or.inl rfl
  | ok data =>
      dsimp only
      cases hload : deserializeGameState codec draws data with
      | error e => exact Or.inl rfl
      | ok t =>
          refine Or.inr (loaded_of_saved (fun proto hproto => ?_) hsave hload)
          have hwritten : codec.serialize proto = some data := by
            rw [serializeGameState, hproto, Except.ok_bind] at hsave
            cases hdata : codec.serialize proto with
            | none => rw [hdata] at hsave; cases hsave
            | some data' =>
                rw [hdata] at hsave
                rw [Except.ok.inj hsave]
          refine ⟨data, hwritten, ?_⟩
          unfold deserializeGameState at hload
          split at hload
          · cases hload
          · cases hparse : codec.parse data with
            | none => rw [hparse] at hload; cases hload
            | some proto' => rw [hcodec _ _ _ hwritten hparse]

/-- **A load restores the cities under their identifiers, and the counter.** -/
theorem cityIds_saveLoad {codec : Codec} (hcodec : codec.ReadsBack) (draws : ℕ → TerrainType)
    (s : GameState) :
    (s.saveLoad codec draws).cityIds = s.cityIds ∧
      (s.saveLoad codec draws).nextCityId = s.nextCityId := by
  rcases saveLoad_cases hcodec draws s with hs | ⟨proto, fresh, reg, hproto, hload⟩
  · rw [hs]
    exact ⟨rfl, rfl⟩
  · constructor
    · rw [cityIds_eq_footprints, cityIds_eq_footprints, (loaded_footprints hproto hload).1]
    · rw [hload.nextCityId, toMessage_nextIds hproto |>.1]

/-- **A load restores the buildings under their identifiers, and the counter.** -/
theorem buildingIds_saveLoad {codec : Codec} (hcodec : codec.ReadsBack)
    (draws : ℕ → TerrainType) (s : GameState) :
    (s.saveLoad codec draws).buildingIds = s.buildingIds ∧
      (s.saveLoad codec draws).nextBuildingId = s.nextBuildingId := by
  rcases saveLoad_cases hcodec draws s with hs | ⟨proto, fresh, reg, hproto, hload⟩
  · rw [hs]
    exact ⟨rfl, rfl⟩
  · constructor
    · rw [buildingIds, buildingIds, loaded_buildings hproto hload]
    · rw [hload.nextBuildingId, toMessage_nextIds hproto |>.2]

end GameState

/-! ### Runs -/

/-- The operations that number cities and buildings, or keep their numbers. -/
inductive IdOp
  | addCity (city : City)
  | removeCity (id : CityId)
  | addBuilding (building : Building)
  | removeBuilding (id : BuildingId)
  | saveLoad (draws : ℕ → TerrainType)

namespace IdOp

def addsCity : IdOp → Bool
  | addCity _ => true
  | _ => false

def addsBuilding : IdOp → Bool
  | addBuilding _ => true
  | _ => false

end IdOp

/-- A game with the identifiers it has given to cities and to buildings so far. -/
structure IdHistory where
  state : GameState
  givenCityIds : List CityId := []
  givenBuildingIds : List BuildingId := []

namespace IdHistory

/-- One operation; a removal that throws leaves the game as it is. -/
def step (codec : Codec) (h : IdHistory) : IdOp → IdHistory
  | .addCity city =>
      let (state, id) := h.state.addCity city
      { h with state, givenCityIds := h.givenCityIds ++ [id] }
  | .removeCity id => { h with state := (EntityOp.removeCity id).apply h.state }
  | .addBuilding building =>
      let (state, id) := h.state.addBuilding building
      { h with state, givenBuildingIds := h.givenBuildingIds ++ [id] }
  | .removeBuilding id => { h with state := (EntityOp.removeBuilding id).apply h.state }
  | .saveLoad draws => { h with state := h.state.saveLoad codec draws }

def run (codec : Codec) (h : IdHistory) (ops : List IdOp) : IdHistory := ops.foldl (step codec) h

/-- The cities and the buildings are numbered from 1 on. -/
structure Numbered (h : IdHistory) : Prop where
  cities : FreshIds.Numbered (· + 1) 1 h.state.nextCityId h.givenCityIds h.state.cityIds
  buildings :
    FreshIds.Numbered (· + 1) 1 h.state.nextBuildingId h.givenBuildingIds h.state.buildingIds

theorem numbered_create {mapRows mapCols : ℤ} {draws : ℕ → TerrainType} {s : GameState}
    (hs : GameState.create mapRows mapCols draws = .ok s) : Numbered { state := s } := by
  obtain ⟨map, -, hs⟩ := Except.bind_eq_ok.1 hs
  obtain rfl := Except.ok.inj hs
  exact ⟨FreshIds.Numbered.start _ _, FreshIds.Numbered.start _ _⟩

/-- **Every operation keeps the numbering.** -/
theorem Numbered.step {codec : Codec} (hcodec : codec.ReadsBack) {h : IdHistory}
    (hnum : h.Numbered) (op : IdOp) : (h.step codec op).Numbered := by
  cases op with
  | addCity city =>
      refine ⟨?_, hnum.buildings⟩
      have hids : (h.state.addCity city).1.cityIds = h.state.cityIds ++ [h.state.nextCityId] := by
        rw [GameState.cityIds, GameState.addCity, List.map_append]
        rfl
      simp only [IdHistory.step, hids]
      exact hnum.cities.give
  | removeCity id =>
      simp only [IdHistory.step]
      cases hfind : h.state.cities.find? (·.id = id) with
      | none =>
          rw [EntityOp.apply_removeCity_none hfind]
          exact hnum
      | some c =>
          rw [EntityOp.apply_removeCity_some hfind]
          exact ⟨hnum.cities.keep (List.eraseP_sublist.map _), hnum.buildings⟩
  | addBuilding building =>
      refine ⟨hnum.cities, ?_⟩
      have hids : (h.state.addBuilding building).1.buildingIds =
          h.state.buildingIds ++ [h.state.nextBuildingId] := by
        rw [GameState.buildingIds, GameState.addBuilding, List.map_append]
        rfl
      simp only [IdHistory.step, hids]
      exact hnum.buildings.give
  | removeBuilding id =>
      simp only [IdHistory.step]
      cases hfind : h.state.buildings.find? (·.id = id) with
      | none =>
          rw [EntityOp.apply_removeBuilding_none hfind]
          exact hnum
      | some b =>
          rw [EntityOp.apply_removeBuilding_some hfind]
          exact ⟨hnum.cities, hnum.buildings.keep (List.eraseP_sublist.map _)⟩
  | saveLoad draws =>
      obtain ⟨hcities, hnextCity⟩ := GameState.cityIds_saveLoad hcodec draws h.state
      obtain ⟨hbuildings, hnextBuilding⟩ := GameState.buildingIds_saveLoad hcodec draws h.state
      constructor
      · simp only [IdHistory.step, hcities, hnextCity]
        exact hnum.cities
      · simp only [IdHistory.step, hbuildings, hnextBuilding]
        exact hnum.buildings

/-- **The numbering along a run.** -/
theorem run_numbered {codec : Codec} (hcodec : codec.ReadsBack) (ops : List IdOp) :
    ∀ h : IdHistory, h.Numbered → (h.run codec ops).Numbered := by
  induction ops with
  | nil => intro h hnum; exact hnum
  | cons op ops ih => intro h hnum; exact ih _ (hnum.step hcodec op)

/-- An identifier is given for each addition. -/
theorem length_given_run (codec : Codec) (ops : List IdOp) :
    ∀ h : IdHistory,
      (h.run codec ops).givenCityIds.length = h.givenCityIds.length + ops.countP IdOp.addsCity ∧
      (h.run codec ops).givenBuildingIds.length =
        h.givenBuildingIds.length + ops.countP IdOp.addsBuilding := by
  induction ops with
  | nil => intro h; exact ⟨rfl, rfl⟩
  | cons op ops ih =>
      intro h
      obtain ⟨hcities, hbuildings⟩ := ih (h.step codec op)
      rw [run, List.foldl_cons, ← run, hcities, hbuildings, List.countP_cons, List.countP_cons]
      cases op with
      | addCity city =>
          simp only [IdHistory.step, IdOp.addsCity, IdOp.addsBuilding, List.length_append,
            List.length_singleton, if_true, Bool.false_eq_true, if_false]
          omega
      | addBuilding building =>
          simp only [IdHistory.step, IdOp.addsCity, IdOp.addsBuilding, List.length_append,
            List.length_singleton, if_true, Bool.false_eq_true, if_false]
          omega
      | removeCity _ | removeBuilding _ | saveLoad _ => exact ⟨rfl, rfl⟩

end IdHistory

/-! ### Counters of 32 bits -/

/-- A counter that started at 1. -/
theorem iterate_add_one (k : ℕ) : (· + 1)^[k] (1 : UInt32) = UInt32.ofNat (k + 1) := by
  induction k with
  | zero => rfl
  | succ k ih => rw [Function.iterate_succ_apply', ih, UInt32.ofNat_add (k + 1) 1]; rfl

theorem iterate_add_one_inj {n : ℕ} (hn : n < 2 ^ 32) :
    ∀ i < n, ∀ j < n, (· + 1)^[i] (1 : UInt32) = (· + 1)^[j] 1 → i = j := by
  intro i hi j hj hij
  rw [iterate_add_one, iterate_add_one] at hij
  have hmod := congrArg UInt32.toNat hij
  rw [UInt32.toNat_ofNat', UInt32.toNat_ofNat'] at hmod
  omega

theorem iterate_add_one_lt {n : ℕ} (hn : n + 1 < 2 ^ 32) :
    ∀ i < n, (· + 1)^[i] (1 : UInt32) < (· + 1)^[n] 1 := by
  intro i hi
  rw [iterate_add_one, iterate_add_one, UInt32.lt_iff_toNat_lt, UInt32.toNat_ofNat',
    UInt32.toNat_ofNat']
  omega

/-- Identifiers are fresh: none was given twice, and what is there has distinct ones that were
given. -/
structure FreshIn (given there : List UInt32) : Prop where
  given_nodup : given.Nodup
  nodup : there.Nodup
  subset : there ⊆ given

/-- What is there has fresh identifiers before `2 ^ 32` of them are given. -/
theorem freshIn_of_numbered {counter : UInt32} {given there : List UInt32}
    (h : FreshIds.Numbered (· + 1) 1 counter given there) (hlt : given.length < 2 ^ 32) :
    FreshIn given there where
  given_nodup := h.given_nodup (iterate_add_one_inj hlt)
  nodup := h.nodup (iterate_add_one_inj hlt)
  subset := h.sublist.subset

/-- What is there is below the counter before the counter wraps around. -/
theorem lt_counter_of_numbered {counter : UInt32} {given there : List UInt32}
    (h : FreshIds.Numbered (· + 1) 1 counter given there) (hlt : given.length + 1 < 2 ^ 32) :
    ∀ id ∈ there, id < counter :=
  fun _ hid => h.lt_counter (iterate_add_one_lt hlt) (h.sublist.subset hid)

/-- A codec, as far as one message goes. -/
def oneMessageCodec (message : Proto.GameState) (bytes : List UInt8) (hbytes : bytes ≠ []) :
    Codec where
  serialize m := if m = message then some bytes else none
  parse data := if data = bytes then some message else if data = [] then some {} else none
  parse_nil := by rw [if_neg (Ne.symm hbytes), if_pos rfl]

theorem oneMessageCodec_readsBack (message : Proto.GameState) (bytes : List UInt8)
    (hbytes : bytes ≠ []) : (oneMessageCodec message bytes hbytes).ReadsBack := by
  intro m data m' hwrite hread
  simp only [oneMessageCodec, Option.ite_none_right_eq_some] at hwrite
  obtain ⟨rfl, hdata⟩ := hwrite
  obtain rfl := Option.some_inj.1 hdata
  simp only [oneMessageCodec, if_true] at hread
  exact (Option.some_inj.1 hread).symm

/-- A map of one tile with one city. -/
def townMessage : Proto.GameState where
  turn := 1
  map := { width := 1, height := 1, tiles := [{ row := 0, col := 0, terrain := 0 }] }
  cities :=
    [{ id := 1, name := "Rome", factionId := 1, population := 1, tileRows := [0], tileCols := [0] }]
  schemaVersion := 1
  nextCityId := 2
  nextBuildingId := 1

/-- The message in the wire format. -/
def townBytes : List UInt8 :=
  [0x08, 1, 0x12, 6, 0x08, 1, 0x10, 1, 0x1A, 0] ++
    [0x1A, 18, 0x08, 1, 0x12, 4, 0x52, 0x6F, 0x6D, 0x65, 0x28, 1, 0x30, 1, 0x3A, 1, 0, 0x42,
      1, 0] ++
    [0x32, 0, 0x38, 1, 0x40, 2, 0x48, 1]

def townCodec : Codec := oneMessageCodec townMessage townBytes (List.cons_ne_nil _ _)

theorem townCodec_readsBack : townCodec.ReadsBack := oneMessageCodec_readsBack _ _ _

namespace IdHistory

/-- **Identifiers are fresh along every run of a new game**: none is given twice while fewer than
`2 ^ 32` are given, and what is there is below its counter until one less are. -/
theorem run_fresh {codec : Codec} (hcodec : codec.ReadsBack) {mapRows mapCols : ℤ}
    {draws : ℕ → TerrainType} {s : GameState}
    (hs : GameState.create mapRows mapCols draws = .ok s) (ops : List IdOp) :
    let h : IdHistory := run codec { state := s } ops
    (ops.countP IdOp.addsCity < 2 ^ 32 → FreshIn h.givenCityIds h.state.cityIds) ∧
    (ops.countP IdOp.addsBuilding < 2 ^ 32 →
      FreshIn h.givenBuildingIds h.state.buildingIds) ∧
    (ops.countP IdOp.addsCity + 1 < 2 ^ 32 →
      ∀ id ∈ h.state.cityIds, id < h.state.nextCityId) ∧
    (ops.countP IdOp.addsBuilding + 1 < 2 ^ 32 →
      ∀ id ∈ h.state.buildingIds, id < h.state.nextBuildingId) := by
  intro h
  have hnum : h.Numbered := run_numbered hcodec ops _ (numbered_create hs)
  obtain ⟨hcities, hbuildings⟩ := length_given_run codec ops { state := s }
  rw [List.length_nil, Nat.zero_add] at hcities hbuildings
  refine ⟨fun hlt => ?_, fun hlt => ?_, fun hlt => ?_, fun hlt => ?_⟩
  · exact freshIn_of_numbered hnum.cities (by rw [hcities]; exact hlt)
  · exact freshIn_of_numbered hnum.buildings (by rw [hbuildings]; exact hlt)
  · exact lt_counter_of_numbered hnum.cities (by rw [hcities]; exact hlt)
  · exact lt_counter_of_numbered hnum.buildings (by rw [hbuildings]; exact hlt)

/-- A city is saved and loaded, then another one is added, the first one removed and a third one
added. -/
theorem three_cities_fresh :
    ∃ s, GameState.create 1 1 (fun _ => .plains) = .ok s ∧
      let rome := City.create "Rome" 0 0 1
      let h := run townCodec { state := s }
        [.addCity rome, .saveLoad fun _ => .water, .addCity rome, .removeCity 1, .addCity rome]
      FreshIn h.givenCityIds h.state.cityIds ∧
        ∀ id ∈ h.state.cityIds, id < h.state.nextCityId := by
  obtain ⟨s, hs⟩ : ∃ s, GameState.create 1 1 (fun _ => .plains) = .ok s := ⟨_, rfl⟩
  let rome := City.create "Rome" 0 0 1
  obtain ⟨hcities, -, hlt, -⟩ := run_fresh townCodec_readsBack hs
    [.addCity rome, .saveLoad fun _ => .water, .addCity rome, .removeCity 1, .addCity rome]
  exact ⟨s, hs, hcities (by decide), hlt (by decide)⟩

/-! ### The counter wraps around -/

/-- Adds and removes a city some times. -/
def addAndRemove (city : City) (n : ℕ) : List IdOp :=
  (List.range n).flatMap fun k => [.addCity city, .removeCity (UInt32.ofNat (k + 1))]

theorem countP_addAndRemove (city : City) (n : ℕ) :
    (addAndRemove city n).countP IdOp.addsCity = n ∧
      (addAndRemove city n).countP IdOp.addsBuilding = 0 := by
  induction n with
  | zero => exact ⟨rfl, rfl⟩
  | succ n ih =>
      rw [addAndRemove, List.range_succ, List.flatMap_append, List.countP_append,
        List.countP_append, ← addAndRemove, ih.1, ih.2]
      exact ⟨rfl, rfl⟩

/-- After `2 ^ 32 - 1` additions the counter is 0. -/
theorem run_counter_eq_zero {codec : Codec} (hcodec : codec.ReadsBack) {s : GameState}
    {mapRows mapCols : ℤ} {draws : ℕ → TerrainType}
    (hs : GameState.create mapRows mapCols draws = .ok s) {ops : List IdOp}
    (hops : ops.countP IdOp.addsCity + 1 = 2 ^ 32) :
    (run codec { state := s } ops).state.nextCityId = 0 := by
  have hnum := run_numbered hcodec ops _ (numbered_create hs)
  have hlength := (length_given_run codec ops { state := s }).1
  rw [List.length_nil, Nat.zero_add] at hlength
  rw [hnum.cities.counter_eq, iterate_add_one, hlength, hops]
  rfl

/-- The city added last is there, under the identifier that its counter had. -/
theorem mem_cityIds_run_addCity (codec : Codec) (h : IdHistory) (ops : List IdOp) (city : City) :
    (h.run codec ops).state.nextCityId ∈ (h.run codec (ops ++ [.addCity city])).state.cityIds := by
  rw [run, run, List.foldl_append, List.foldl_cons, List.foldl_nil]
  exact List.mem_map.2 ⟨city.setId _, List.mem_append_right _ (List.mem_singleton_self _), rfl⟩

/-- The last of `2 ^ 32 - 1` cities is not below the counter. -/
theorem exists_not_lt_counter {codec : Codec} (hcodec : codec.ReadsBack) {s : GameState}
    {mapRows mapCols : ℤ} {draws : ℕ → TerrainType}
    (hs : GameState.create mapRows mapCols draws = .ok s) (city : City) {n : ℕ}
    (hn : n + 2 = 2 ^ 32) :
    let ops := addAndRemove city n ++ [.addCity city]
    let h := run codec { state := s } ops
    ops.countP IdOp.addsCity + ops.countP IdOp.addsBuilding < 2 ^ 32 ∧
      ∃ id ∈ h.state.cityIds, ¬ id < h.state.nextCityId := by
  intro ops h
  obtain ⟨hcities, hbuildings⟩ := countP_addAndRemove city n
  have hcount : ops.countP IdOp.addsCity = n + 1 := by
    rw [List.countP_append, hcities]
    rfl
  have hcount' : ops.countP IdOp.addsBuilding = 0 := by
    rw [List.countP_append, hbuildings]
    rfl
  refine ⟨by omega, _, mem_cityIds_run_addCity codec _ _ city, ?_⟩
  have hzero : h.state.nextCityId = 0 := run_counter_eq_zero hcodec hs (by omega)
  rw [hzero, UInt32.lt_iff_toNat_lt]
  exact Nat.not_lt_zero _

end IdHistory

/-- A city that is added and removed 4294967294 times and added again is not below the counter. -/
theorem IdHistory.churn_wraps :
    ∃ s, GameState.create 1 1 (fun _ => .plains) = .ok s ∧
      let rome := City.create "Rome" 0 0 1
      let ops := addAndRemove rome 4294967294 ++ [.addCity rome]
      let h := run townCodec { state := s } ops
      ops.countP IdOp.addsCity + ops.countP IdOp.addsBuilding < 2 ^ 32 ∧
        ∃ id ∈ h.state.cityIds, ¬ id < h.state.nextCityId := by
  obtain ⟨s, hs⟩ : ∃ s, GameState.create 1 1 (fun _ => .plains) = .ok s := ⟨_, rfl⟩
  exact ⟨s, hs, exists_not_lt_counter townCodec_readsBack hs _ rfl⟩

end My4X
