/-
**The game that the application starts with.**

A new game of the application is the same on every map: two empires with their cities, farms and
units, then two neutral factions with their guards, and the relations by the types of the factions.
On every map of the right size it can be set up, and is sound.

Main definitions:

* `My4X.NeutralAI.spawnNeutralFactions` — the neutral factions and their guards;
* `My4X.setupDemoState` — the game of the application.

Main results:

* `My4X.NeutralAI.spawnNeutralFactions_ok` — what the neutral factions add to a game;
* `My4X.setupDemoState_ok` — **on every map of the size of the application the game is set up, and
  is sound**;
* `My4X.setupDemoState_soldiers` — the units that it starts with.
-/

import My4X.Diplomacy
import My4X.SoundStates

set_option relaxedAutoImplicit false
set_option autoImplicit false

namespace My4X

/-! ### Placing units -/

/-- Adds new units of a faction, each at its place and of the type of its key. -/
def placeUnits (unitReg : UnitTypeRegistry) (factionId : FactionId) (state : GameState)
    (places : List (ℤ × ℤ × String)) : Except Fault GameState :=
  places.foldlM (fun state place => do
    let tmpl ← unitReg.getTemplate place.2.2
    return (state.addUnit (Unit.create place.1 place.2.1 tmpl factionId)).1) state

/-- A new unit of a built-in type is alive. -/
theorem isAlive_create {tmpl : UnitTemplate} (h : tmpl ∈ builtinTemplates) (row col : ℤ)
    (factionId : FactionId) : (Unit.create row col tmpl factionId).isAlive = true := by
  simp only [builtinTemplates, List.mem_cons, List.not_mem_nil, or_false] at h
  rcases h with rfl | rfl | rfl
  · rfl
  · rfl
  · rfl

/-- The keys of the built-in types. -/
def builtinKeys : List String := ["Warrior", "Archer", "Settler"]

theorem getTemplate_builtin {unitReg : UnitTypeRegistry}
    (hreg : UnitTypeRegistry.empty.registerDefaults = .ok unitReg) {key : String}
    (hkey : key ∈ builtinKeys) :
    ∃ tmpl ∈ builtinTemplates, unitReg.getTemplate key = .ok tmpl := by
  obtain ⟨reg, hreg', hwarrior, harcher, hsettler⟩ := exists_registerDefaults
  obtain rfl := Except.ok.inj (hreg.symm.trans hreg')
  simp only [builtinKeys, List.mem_cons, List.not_mem_nil, or_false] at hkey
  rcases hkey with rfl | rfl | rfl
  · exact ⟨_, by simp [builtinTemplates], hwarrior⟩
  · exact ⟨_, by simp [builtinTemplates], harcher⟩
  · exact ⟨_, by simp [builtinTemplates], hsettler⟩

/-- Two games differ in their units, and in what is registered of them, at most. -/
def GameState.SameButUnits (s s' : GameState) : Prop :=
  s' = { s with
    units := s'.units
    registry := { s.registry with units := s'.registry.units } }

theorem GameState.SameButUnits.trans {s s' s'' : GameState} (h : s.SameButUnits s')
    (h' : s'.SameButUnits s'') : s.SameButUnits s'' := by
  rw [SameButUnits] at h h' ⊢
  rw [h', h]

/-- **Units of the built-in types are added behind the others**, in their order; in the map they
leave a state sound. -/
theorem placeUnits_ok {unitReg : UnitTypeRegistry}
    (hreg : UnitTypeRegistry.empty.registerDefaults = .ok unitReg) (factionId : FactionId)
    (places : List (ℤ × ℤ × String)) : ∀ s : GameState,
    (∀ place ∈ places, place.2.2 ∈ builtinKeys) →
    ∃ s', placeUnits unitReg factionId s places = .ok s' ∧ s.SameButUnits s' ∧
      (∃ added : List OwnedUnit, s'.units.list = s.units.list ++ added ∧
        added.map (fun p => (p.unit.row, p.unit.col, p.unit.factionId)) =
          places.map fun place => (place.1, place.2.1, factionId)) ∧
      (s.Sound → (∀ place ∈ places, InBounds place.1 place.2.1 s.map.height s.map.width) →
        s'.Sound) := by
  induction places with
  | nil =>
      intro s _
      exact ⟨s, rfl, rfl, ⟨[], (List.append_nil _).symm, rfl⟩, fun h _ => h⟩
  | cons place places ih =>
      intro s hkeys
      obtain ⟨tmpl, hbuiltin, htmpl⟩ := getTemplate_builtin hreg (hkeys place List.mem_cons_self)
      have hone : s.SameButUnits (s.addUnit (Unit.create place.1 place.2.1 tmpl factionId)).1 := rfl
      obtain ⟨s', hok, hsame, ⟨added, hlist, hadded⟩, hsound⟩ :=
        ih (s.addUnit (Unit.create place.1 place.2.1 tmpl factionId)).1 fun p hp =>
          hkeys p (List.mem_cons_of_mem _ hp)
      refine ⟨s', ?_, hone.trans hsame,
        ⟨⟨s.units.freshRef, Unit.create place.1 place.2.1 tmpl factionId⟩ :: added, ?_, ?_⟩,
        fun h hin => ?_⟩
      · rw [placeUnits, List.foldlM_cons]
        rw [htmpl]
        exact hok
      · rw [hlist]
        exact List.append_assoc _ _ _
      · rw [List.map_cons, hadded]
        rfl
      · refine hsound (h.addUnit (isAlive_create hbuiltin _ _ _) (hin place List.mem_cons_self)
          hbuiltin) fun p hp => ?_
        exact hin p (List.mem_cons_of_mem _ hp)

/-! ### Neutral factions -/

namespace FactionRegistry

/-- **The identifiers are in order**: they are distinct, and below the next one. -/
structure Numbered (reg : FactionRegistry) : Prop where
  nodup : (reg.factions.map (·.id)).Nodup
  lt : ∀ f ∈ reg.factions, f.id.toNat < reg.nextFactionId.toNat

/-- A new faction keeps the order, unless the identifiers are used up. -/
theorem Numbered.addFaction {reg : FactionRegistry} (h : reg.Numbered)
    (hroom : reg.nextFactionId.toNat + 1 < 2 ^ 32) (name : String) (type : FactionType)
    (colorIndex : UInt8) : (reg.addFaction name type colorIndex).1.Numbered ∧
      (reg.addFaction name type colorIndex).1.nextFactionId.toNat =
        reg.nextFactionId.toNat + 1 := by
  have hnext : (reg.nextFactionId + 1).toNat = reg.nextFactionId.toNat + 1 := by
    rw [UInt32.toNat_add]
    exact Nat.mod_eq_of_lt hroom
  refine ⟨⟨?_, fun f hf => ?_⟩, hnext⟩
  · rw [FactionRegistry.addFaction]
    dsimp only
    rw [List.map_append]
    refine List.nodup_append.2 ⟨h.nodup, List.nodup_singleton _, fun a ha b hb => ?_⟩
    obtain ⟨f, hf, rfl⟩ := List.mem_map.1 ha
    have hlt := h.lt f hf
    rintro rfl
    rw [List.map_singleton, List.mem_singleton] at hb
    rw [hb] at hlt
    exact Nat.lt_irrefl _ hlt
  · change f.id.toNat < (reg.nextFactionId + 1).toNat
    rw [hnext]
    rcases List.mem_append.1 hf with hf | hf
    · exact (h.lt f hf).trans (Nat.lt_succ_self _)
    · rw [List.mem_singleton.1 hf]
      exact Nat.lt_succ_self _

end FactionRegistry

namespace NeutralAI

def hostileColorIndex : UInt8 := 6

def passiveColorIndex : UInt8 := 7

/-- Where the hostile guards start. -/
def hostilePositions : List (ℤ × ℤ) := [(2, 2), (2, 3), (3, 2)]

/-- Where the passive guards start. -/
def passivePositions : List (ℤ × ℤ) := [(7, 7), (7, 8)]

/-- The guards of a faction: warriors at those of the positions that lie in the map. -/
def guardPlaces (map : Map) (positions : List (ℤ × ℤ)) : List (ℤ × ℤ × String) :=
  (positions.filter fun p => p.1 < map.height ∧ p.2 < map.width).map fun p =>
    (p.1, p.2, "Warrior")

/-- **The neutral factions join a game**, with their guards; the relations of all factions are set
anew. -/
def spawnNeutralFactions (state : GameState) : Except Fault GameState := do
  let hostile := state.factionRegistry.addFaction "Barbarians" .neutralHostile hostileColorIndex
  let passive := hostile.1.addFaction "City-State" .neutralPassive passiveColorIndex
  let state := { state with
    factionRegistry := passive.1
    diplomacy := state.diplomacy.initializeDefaults passive.1 }
  let unitReg ← UnitTypeRegistry.empty.registerDefaults
  let state ← placeUnits unitReg hostile.2 state (guardPlaces state.map hostilePositions)
  placeUnits unitReg passive.2 state (guardPlaces state.map passivePositions)

/-- The factions after the neutral ones have joined. -/
def withNeutrals (reg : FactionRegistry) : FactionRegistry :=
  ((reg.addFaction "Barbarians" .neutralHostile hostileColorIndex).1.addFaction "City-State"
    .neutralPassive passiveColorIndex).1

/-- The places of the guards and their factions. -/
def guards (s : GameState) : List (ℤ × ℤ × FactionId) :=
  (guardPlaces s.map hostilePositions).map (fun place =>
      (place.1, place.2.1, s.factionRegistry.nextFactionId)) ++
    (guardPlaces s.map passivePositions).map fun place =>
      (place.1, place.2.1, s.factionRegistry.nextFactionId + 1)

theorem guardPlaces_keys (map : Map) (positions : List (ℤ × ℤ)) :
    ∀ place ∈ guardPlaces map positions, place.2.2 ∈ builtinKeys := by
  intro place hplace
  obtain ⟨p, -, rfl⟩ := List.mem_map.1 hplace
  simp [builtinKeys]

theorem guardPlaces_inBounds {map : Map} {positions : List (ℤ × ℤ)}
    (h : ∀ p ∈ positions, 0 ≤ p.1 ∧ 0 ≤ p.2) :
    ∀ place ∈ guardPlaces map positions, InBounds place.1 place.2.1 map.height map.width := by
  intro place hplace
  obtain ⟨p, hp, rfl⟩ := List.mem_map.1 hplace
  obtain ⟨hmem, hlt⟩ := List.mem_filter.1 hp
  have hnonneg := h p hmem
  have hin := of_decide_eq_true hlt
  exact ⟨hnonneg.1, hin.1, hnonneg.2, hin.2⟩

/-- A game with its neutral factions, before their guards are placed. -/
def joined (s : GameState) : GameState :=
  { s with
    factionRegistry := withNeutrals s.factionRegistry
    diplomacy := s.diplomacy.initializeDefaults (withNeutrals s.factionRegistry) }

/-- **What the neutral factions add to a game.** -/
theorem spawnNeutralFactions_ok (s : GameState) :
    ∃ s', spawnNeutralFactions s = .ok s' ∧ (joined s).SameButUnits s' ∧
      (∃ added : List OwnedUnit, s'.units.list = s.units.list ++ added ∧
        added.map (fun p => (p.unit.row, p.unit.col, p.unit.factionId)) = guards s) ∧
      (s.Sound → s'.Sound) := by
  obtain ⟨unitReg, hreg, -⟩ := exists_registerDefaults
  obtain ⟨s₁, hok₁, hsame₁, ⟨added₁, hlist₁, hadded₁⟩, hsound₁⟩ :=
    placeUnits_ok hreg s.factionRegistry.nextFactionId (guardPlaces s.map hostilePositions)
      (joined s) (guardPlaces_keys _ _)
  obtain ⟨s₂, hok₂, hsame₂, ⟨added₂, hlist₂, hadded₂⟩, hsound₂⟩ :=
    placeUnits_ok hreg (s.factionRegistry.nextFactionId + 1) (guardPlaces s₁.map passivePositions)
      s₁ (guardPlaces_keys _ _)
  refine ⟨s₂, ?_, hsame₁.trans hsame₂, ⟨added₁ ++ added₂, ?_, ?_⟩, fun h => ?_⟩
  · rw [spawnNeutralFactions]
    rw [hreg, Except.ok_bind]
    dsimp only
    exact (congrArg (· >>= _) hok₁).trans hok₂
  · rw [hlist₂, hlist₁, List.append_assoc]
    rfl
  · have hmap : s₁.map = s.map := (congrArg GameState.map hsame₁ :)
    rw [List.map_append, hadded₁, hadded₂, guards, hmap]
  · have hjoined : (joined s).Sound := h.of_sameUnits ⟨rfl, rfl⟩ rfl rfl h.cities
    exact hsound₂ (hsound₁ hjoined (guardPlaces_inBounds (by decide)))
      (guardPlaces_inBounds (by decide))

/-- **The neutral factions have joined a game**: two factions are new, under new identifiers, every
two factions have the relation of their types, whatever it was before, only the guards are new among
the units, and the rest is as it was. -/
structure Joined (s s' : GameState) : Prop where
  numbered : s'.factionRegistry.Numbered
  factions : ∃ f g, s'.factionRegistry.factions = s.factionRegistry.factions ++ [f, g] ∧
    f.type = .neutralHostile ∧ g.type = .neutralPassive ∧
    f.id = s.factionRegistry.nextFactionId ∧ g.id = s.factionRegistry.nextFactionId + 1
  relations : ∀ f ∈ s'.factionRegistry.factions, ∀ g ∈ s'.factionRegistry.factions, f.id ≠ g.id →
    s'.diplomacy.getRelation f.id g.id = DiplomacyManager.defaultRelation f.type g.type
  others : ∀ a b, (∀ f ∈ s'.factionRegistry.factions, f.id ≠ a) →
    s'.diplomacy.getRelation a b = s.diplomacy.getRelation a b
  units : ∃ added : List OwnedUnit, s'.units.list = s.units.list ++ added ∧
    added.map (fun p => (p.unit.row, p.unit.col, p.unit.factionId)) = guards s
  rest : ({ s with
    factionRegistry := s'.factionRegistry, diplomacy := s'.diplomacy } : GameState).SameButUnits s'
  sound : s.Sound → s'.Sound

/-- **Neutral factions can join every game whose identifiers are in order.** -/
theorem spawnNeutralFactions_joined {s : GameState} (hids : s.factionRegistry.Numbered)
    (hroom : s.factionRegistry.nextFactionId.toNat + 2 < 2 ^ 32) :
    ∃ s', spawnNeutralFactions s = .ok s' ∧ Joined s s' := by
  obtain ⟨s', hok, hsame, hunits, hsound⟩ := spawnNeutralFactions_ok s
  have hfactions : s'.factionRegistry = withNeutrals s.factionRegistry :=
    congrArg GameState.factionRegistry hsame
  have hdiplomacy : s'.diplomacy =
      s.diplomacy.initializeFrom s'.factionRegistry.factions := by
    rw [hfactions]
    exact congrArg GameState.diplomacy hsame
  obtain ⟨hfirst, hnext⟩ := hids.addFaction (by omega) "Barbarians" .neutralHostile
    hostileColorIndex
  obtain ⟨hsecond, -⟩ := hfirst.addFaction (by omega) "City-State" .neutralPassive passiveColorIndex
  have hnumbered : s'.factionRegistry.Numbered := by
    rw [hfactions]
    exact hsecond
  refine ⟨s', hok, hnumbered, ?_, fun f hf g hg hne => ?_, fun a b ha => ?_, hunits, ?_, hsound⟩
  · rw [hfactions]
    exact ⟨_, _, List.append_assoc _ _ _, rfl, rfl, rfl, rfl⟩
  · have hkey := (DiplomacyManager.lookup_initializeFrom (DiplomacyManager.makeKey f.id g.id)
      s'.factionRegistry.factions s.diplomacy hnumbered.nodup).1 f g ⟨hf, hg, hne, rfl⟩
    rw [DiplomacyManager.getRelation_of_ne _ hne, hdiplomacy, hkey]
    rfl
  · by_cases hab : a = b
    · rw [hab, DiplomacyManager.getRelation, DiplomacyManager.getRelation, if_pos rfl, if_pos rfl]
    · -- no two registered factions have this key
      have hkept := (DiplomacyManager.lookup_initializeFrom (DiplomacyManager.makeKey a b)
        s'.factionRegistry.factions s.diplomacy hnumbered.nodup).2 fun f g hkey => by
          rcases DiplomacyManager.makeKey_eq_iff.1 hkey.2.2.2 with ⟨hid, -⟩ | ⟨hid, -⟩
          · exact ha f hkey.1 hid.symm
          · exact ha g hkey.2.1 hid.symm
      rw [DiplomacyManager.getRelation_of_ne _ hab, DiplomacyManager.getRelation_of_ne _ hab,
        hdiplomacy, hkept]
  · rw [GameState.SameButUnits] at hsame ⊢
    rw [hsame]
    rfl

/-- A field with two allied empires, and room for all guards. -/
def allies : GameState where
  map := { height := 9, width := 9, height_pos := by decide, width_pos := by decide
           tiles := generateTiles 9 9 fun _ => .plains }
  fog := FogOfWar.create 9 9
  factionRegistry :=
    (((FactionRegistry.addFaction {} "Roman Empire" .player 0).1).addFaction
      "Persian Empire" .player
      1).1
  diplomacy := DiplomacyManager.empty.setRelation 1 2 .alliance

/-- The neutral factions join them, with all guards, and the alliance has become a war. -/
theorem allies_joined : allies.diplomacy.getRelation 1 2 = .alliance ∧ (guards allies).length = 5 ∧
    ∃ s', spawnNeutralFactions allies = .ok s' ∧ Joined allies s' ∧
      s'.diplomacy.getRelation 1 2 = .war := by
  refine ⟨by decide, by decide, ?_⟩
  obtain ⟨s', hok, hjoined⟩ :=
    spawnNeutralFactions_joined (s := allies) ⟨by decide, by decide⟩ (by decide)
  refine ⟨s', hok, hjoined, ?_⟩
  obtain ⟨f, g, hfactions, -⟩ := hjoined.factions
  exact hjoined.relations ⟨1, "Roman Empire", .player, 0, {}⟩
    (by rw [hfactions]; exact List.mem_append_left _ (by decide))
    ⟨2, "Persian Empire", .player, 1, {}⟩
    (by rw [hfactions]; exact List.mem_append_left _ (by decide)) (by decide)

end NeutralAI

/-! ### The game of the application -/

/-- A new city, with some tiles added to its footprint. -/
theorem City.orderly_addTiles (name : String) (row col : ℤ) (factionId : Int32)
    (tiles : List TileCoord) :
    (tiles.foldl (fun c t => c.addTile t.row t.col)
      (City.create name row col factionId)).Orderly := by
  have hkeep : ∀ c : City, c.Orderly →
      (tiles.foldl (fun c t => c.addTile t.row t.col) c).Orderly := by
    induction tiles with
    | nil => exact fun c hc => hc
    | cons t tiles ih => exact fun c hc => ih _ ⟨hc.population, hc.orders⟩
  exact hkeep _ ⟨le_rfl, fun item hitem => by cases hitem⟩

/-- The size of the maps of the application, `MAP_ROWS` and `MAP_COLS`. -/
def appMapRows : ℤ := 40

def appMapCols : ℤ := 24

/-- A city with tiles added to its footprint. -/
def City.withTiles (c : City) (tiles : List TileCoord) : City :=
  tiles.foldl (fun c t => c.addTile t.row t.col) c

/-- The empire of the player: its stockpile, which is also that of the common account, its cities
and their farms, and its units. -/
def foundRome (unitReg : UnitTypeRegistry) (state : GameState) : Except Fault GameState :=
  let added := state.factionRegistry.addFaction "Roman Empire" .player 0
  let playerId := added.2
  let stock : Resource := { gold := 100, production := 40, food := 60 }
  let state := { state with
    factionRegistry := added.1.addResources playerId stock
    factionResources := state.factionResources + stock }
  let capital := (City.create "Roma" 10 5 playerId.toInt32).withTiles [⟨10, 6⟩, ⟨9, 5⟩, ⟨11, 5⟩]
  let state := (state.addCity capital).1
  let state := (state.addBuilding (makeFarm 10 6)).1
  let state := (state.addBuilding (makeFarm 9 5)).1
  let outpost := (City.create "Mediolanum" 14 8 playerId.toInt32).withTiles [⟨14, 9⟩, ⟨13, 8⟩]
  let state := (state.addCity outpost).1
  let state := (state.addBuilding (makeFarm 14 9)).1
  placeUnits unitReg playerId state
    [(10, 4, "Warrior"), (11, 6, "Warrior"), (10, 7, "Archer"), (14, 7, "Warrior"),
      (13, 9, "Settler")]

/-- The other empire. -/
def foundPersia (unitReg : UnitTypeRegistry) (state : GameState) : Except Fault GameState :=
  let added := state.factionRegistry.addFaction "Persian Empire" .player 1
  let persiaId := added.2
  let state := { state with
    factionRegistry :=
      added.1.addResources persiaId { gold := 80, production := 35, food := 50 } }
  let persepolis := (City.create "Persepolis" 8 18 persiaId.toInt32).withTiles [⟨8, 19⟩, ⟨7, 18⟩]
  let state := (state.addCity persepolis).1
  let state := (state.addBuilding (makeFarm 8 19)).1
  let susa := (City.create "Susa" 12 20 persiaId.toInt32).withTiles [⟨12, 21⟩]
  let state := (state.addCity susa).1
  placeUnits unitReg persiaId state
    [(8, 17, "Warrior"), (9, 19, "Warrior"), (7, 19, "Archer"), (12, 19, "Warrior")]

/-- **The game that the application starts with.** -/
def setupDemoState (state : GameState) : Except Fault GameState := do
  let unitReg ← UnitTypeRegistry.empty.registerDefaults
  let playerId := state.factionRegistry.nextFactionId
  let state ← foundRome unitReg state
  let state ← foundPersia unitReg state
  let state ← NeutralAI.spawnNeutralFactions state
  let state := { state with
    diplomacy := state.diplomacy.initializeDefaults state.factionRegistry }
  state.recalculateFog playerId

/-- A state of the size of the application. -/
structure GameState.OfAppSize (s : GameState) : Prop where
  height : s.map.height = appMapRows
  width : s.map.width = appMapCols

theorem GameState.OfAppSize.of_map {s s' : GameState} (h : s.OfAppSize) (hmap : s'.map = s.map) :
    s'.OfAppSize where
  height := (congrArg Map.height hmap).trans h.height
  width := (congrArg Map.width hmap).trans h.width

/-- The places of an empire lie in a map of the application. -/
theorem GameState.OfAppSize.places {s : GameState} (h : s.OfAppSize)
    {places : List (ℤ × ℤ × String)}
    (hplaces : ∀ place ∈ places, InBounds place.1 place.2.1 appMapRows appMapCols) :
    ∀ place ∈ places, InBounds place.1 place.2.1 s.map.height s.map.width := by
  rw [h.height, h.width]
  exact hplaces

/-- The empire of the player among the factions, with what it starts with. -/
def withRome (reg : FactionRegistry) : FactionRegistry :=
  (reg.addFaction "Roman Empire" .player 0).1.addResources reg.nextFactionId
    { gold := 100, production := 40, food := 60 }

/-- The other empire. -/
def withPersia (reg : FactionRegistry) : FactionRegistry :=
  (reg.addFaction "Persian Empire" .player 1).1.addResources reg.nextFactionId
    { gold := 80, production := 35, food := 50 }

theorem foundRome_ok {unitReg : UnitTypeRegistry}
    (hreg : UnitTypeRegistry.empty.registerDefaults = .ok unitReg) {s : GameState} (h : s.Sound)
    (hsize : s.OfAppSize) : ∃ s', foundRome unitReg s = .ok s' ∧ s'.Sound ∧ s'.map = s.map ∧
    s'.turn = s.turn ∧ s'.fog = s.fog ∧
    s'.factionRegistry = withRome s.factionRegistry ∧
    s'.factionResources = s.factionResources + { gold := 100, production := 40, food := 60 } ∧
    ∃ capital ∈ s'.cities, capital.factionId = s.factionRegistry.nextFactionId.toInt32 ∧
      (⟨10, 5⟩ : TileCoord) ∈ capital.tiles := by
  have hfaction : ({ s with
      factionRegistry := (s.factionRegistry.addFaction "Roman Empire" .player 0).1.addResources
        s.factionRegistry.nextFactionId { gold := 100, production := 40, food := 60 }
      factionResources := s.factionResources + { gold := 100, production := 40, food := 60 } } :
      GameState).Sound := h.of_sameUnits ⟨rfl, rfl⟩ rfl rfl h.cities
  have hrome := City.orderly_addTiles "Roma" 10 5 s.factionRegistry.nextFactionId.toInt32
    [⟨10, 6⟩, ⟨9, 5⟩, ⟨11, 5⟩]
  have hmediolanum := City.orderly_addTiles "Mediolanum" 14 8
    s.factionRegistry.nextFactionId.toInt32 [⟨14, 9⟩, ⟨13, 8⟩]
  have hcities := ((((hfaction.addCity hrome).addBuilding (makeFarm 10 6)).addBuilding
    (makeFarm 9 5)).addCity hmediolanum).addBuilding (makeFarm 14 9)
  obtain ⟨s', hok, hsame, -, hsound⟩ := placeUnits_ok hreg s.factionRegistry.nextFactionId
    [(10, 4, "Warrior"), (11, 6, "Warrior"), (10, 7, "Archer"), (14, 7, "Warrior"),
      (13, 9, "Settler")] _ (by decide)
  refine ⟨s', hok, hsound hcities (hsize.places (by decide)), (congrArg GameState.map hsame :),
    (congrArg GameState.turn hsame :), (congrArg GameState.fog hsame :),
    (congrArg GameState.factionRegistry hsame :), (congrArg GameState.factionResources hsame :), ?_⟩
  have hcapital : s'.cities = _ := (congrArg GameState.cities hsame :)
  rw [hcapital]
  exact ⟨_, List.mem_append_left _ (List.mem_append_right _ (List.mem_singleton.2 rfl)), rfl,
    City.center_mem _⟩

theorem foundPersia_ok {unitReg : UnitTypeRegistry}
    (hreg : UnitTypeRegistry.empty.registerDefaults = .ok unitReg) {s : GameState} (h : s.Sound)
    (hsize : s.OfAppSize) : ∃ s', foundPersia unitReg s = .ok s' ∧ s'.Sound ∧ s'.map = s.map ∧
    s'.turn = s.turn ∧ s'.fog = s.fog ∧
    s'.factionRegistry = withPersia s.factionRegistry ∧
    s'.factionResources = s.factionResources ∧ s.cities ⊆ s'.cities := by
  have hfaction : ({ s with
      factionRegistry := (s.factionRegistry.addFaction "Persian Empire" .player 1).1.addResources
        s.factionRegistry.nextFactionId { gold := 80, production := 35, food := 50 } } :
      GameState).Sound := h.of_sameUnits ⟨rfl, rfl⟩ rfl rfl h.cities
  have hpersepolis := City.orderly_addTiles "Persepolis" 8 18
    s.factionRegistry.nextFactionId.toInt32 [⟨8, 19⟩, ⟨7, 18⟩]
  have hsusa := City.orderly_addTiles "Susa" 12 20 s.factionRegistry.nextFactionId.toInt32
    [⟨12, 21⟩]
  have hcities := ((hfaction.addCity hpersepolis).addBuilding (makeFarm 8 19)).addCity hsusa
  obtain ⟨s', hok, hsame, -, hsound⟩ := placeUnits_ok hreg s.factionRegistry.nextFactionId
    [(8, 17, "Warrior"), (9, 19, "Warrior"), (7, 19, "Archer"), (12, 19, "Warrior")] _ (by decide)
  refine ⟨s', hok, hsound hcities (hsize.places (by decide)), (congrArg GameState.map hsame :),
    (congrArg GameState.turn hsame :), (congrArg GameState.fog hsame :),
    (congrArg GameState.factionRegistry hsame :), (congrArg GameState.factionResources hsame :), ?_⟩
  have hmore : s'.cities = _ := (congrArg GameState.cities hsame :)
  rw [hmore]
  exact fun city hcity => List.mem_append_left _ (List.mem_append_left _ hcity)

/-- The factions of the application, behind those that are there. -/
def appFactions (reg : FactionRegistry) : FactionRegistry :=
  NeutralAI.withNeutrals (withPersia (withRome reg))

/-- **The game is set up on every map of the size of the application.** -/
theorem setupDemoState_ok {s : GameState} (h : s.Sound) (hsize : s.OfAppSize) :
    ∃ s', setupDemoState s = .ok s' ∧ s'.Sound ∧ s'.map = s.map ∧ s'.turn = s.turn ∧
      s'.factionRegistry = appFactions s.factionRegistry ∧
      s'.factionResources = s.factionResources + { gold := 100, production := 40, food := 60 } ∧
      s.fog.recalculate s.factionRegistry.nextFactionId s'.units s'.cities s'.map = .ok s'.fog ∧
      ∃ capital ∈ s'.cities, capital.factionId = s.factionRegistry.nextFactionId.toInt32 ∧
        (⟨10, 5⟩ : TileCoord) ∈ capital.tiles := by
  obtain ⟨unitReg, hreg, -⟩ := exists_registerDefaults
  obtain ⟨s₁, hok₁, h₁, hmap₁, hturn₁, hfog₁, hreg₁, hres₁, capital, hcapital,
    howner, htile⟩ := foundRome_ok hreg h hsize
  obtain ⟨s₂, hok₂, h₂, hmap₂, hturn₂, hfog₂, hreg₂, hres₂, hcities₂⟩ :=
    foundPersia_ok hreg h₁ (hsize.of_map hmap₁)
  obtain ⟨s₃, hok₃, hsame, -, hsound⟩ := NeutralAI.spawnNeutralFactions_ok s₂
  have h₃ := hsound h₂
  have h₄ : ({ s₃ with
      diplomacy := s₃.diplomacy.initializeDefaults s₃.factionRegistry } : GameState).Sound :=
    h₃.of_sameUnits ⟨rfl, rfl⟩ rfl rfl h₃.cities
  obtain ⟨fog, hfog, hsound₄⟩ := h₄.recalculateFog s.factionRegistry.nextFactionId
  have hmap₃ : s₃.map = s₂.map := (congrArg GameState.map hsame :)
  have hturn₃ : s₃.turn = s₂.turn := (congrArg GameState.turn hsame :)
  have hreg₃ : s₃.factionRegistry = NeutralAI.withNeutrals s₂.factionRegistry :=
    (congrArg GameState.factionRegistry hsame :)
  have hres₃ : s₃.factionResources = s₂.factionResources :=
    (congrArg GameState.factionResources hsame :)
  have hfog₃ : s₃.fog = s.fog := ((congrArg GameState.fog hsame :).trans hfog₂).trans hfog₁
  refine ⟨_, ?_, hsound₄, hmap₃.trans (hmap₂.trans hmap₁),
    hturn₃.trans (hturn₂.trans hturn₁), ?_, ?_,
    ?_, capital, ?_, howner, htile⟩
  · rw [setupDemoState]
    rw [hreg, Except.ok_bind]
    dsimp only
    rw [hok₁, Except.ok_bind, hok₂, Except.ok_bind, hok₃, Except.ok_bind]
    exact hfog
  · calc s₃.factionRegistry = NeutralAI.withNeutrals s₂.factionRegistry := hreg₃
      _ = appFactions s.factionRegistry := by
        rw [hreg₂, hreg₁]
        rfl
  · calc s₃.factionResources = s₁.factionResources := hres₃.trans hres₂
      _ = s.factionResources + { gold := 100, production := 40, food := 60 } := hres₁
  · obtain ⟨view, hview, hrecalculated⟩ := Except.bind_eq_ok.1 hfog
    have hsameView : view = fog := congrArg GameState.fog (Except.ok.inj hrecalculated)
    rw [← hfog₃, ← hsameView]
    exact hview
  · have hcities₃ : s₃.cities = s₂.cities := (congrArg GameState.cities hsame :)
    change capital ∈ s₃.cities
    rw [hcities₃]
    exact hcities₂ hcapital

/-! ### The units at the start -/

/-- New units of a faction, each at its place and of the type of its key. -/
def newUnits (unitReg : UnitTypeRegistry) (factionId : FactionId)
    (places : List (ℤ × ℤ × String)) : Except Fault (List Unit) :=
  places.mapM fun place => do
    let tmpl ← unitReg.getTemplate place.2.2
    return Unit.create place.1 place.2.1 tmpl factionId

/-- The units of a game, without their identities. -/
def GameState.soldiers (s : GameState) : List Unit := s.units.list.map (·.unit)

/-- Placing units appends the new ones, and leaves the relations as they are. -/
theorem placeUnits_soldiers {unitReg : UnitTypeRegistry} {factionId : FactionId}
    {places : List (ℤ × ℤ × String)} : ∀ {s s' : GameState} {us : List Unit},
    newUnits unitReg factionId places = .ok us → placeUnits unitReg factionId s places = .ok s' →
      s'.soldiers = s.soldiers ++ us ∧ s'.diplomacy = s.diplomacy := by
  induction places with
  | nil =>
      intro s s' us hnew hplace
      obtain rfl := Except.ok.inj hnew
      obtain rfl := Except.ok.inj hplace
      exact ⟨(List.append_nil _).symm, rfl⟩
  | cons place places ih =>
      intro s s' us hnew hplace
      rw [newUnits, List.mapM_cons] at hnew
      rw [placeUnits, List.foldlM_cons] at hplace
      obtain ⟨u, hu, hnew⟩ := Except.bind_eq_ok.1 hnew
      obtain ⟨us', hus', hnew⟩ := Except.bind_eq_ok.1 hnew
      obtain rfl := Except.ok.inj hnew
      obtain ⟨tmpl, htmpl, hu⟩ := Except.bind_eq_ok.1 hu
      obtain rfl := Except.ok.inj hu
      rw [htmpl] at hplace
      obtain ⟨hsoldiers, hdiplomacy⟩ :=
        ih hus' (s := (s.addUnit (Unit.create place.1 place.2.1 tmpl factionId)).1) hplace
      have hone : (s.addUnit (Unit.create place.1 place.2.1 tmpl factionId)).1.soldiers =
          s.soldiers ++ [Unit.create place.1 place.2.1 tmpl factionId] := List.map_append
      refine ⟨?_, hdiplomacy⟩
      rw [hsoldiers, hone, List.append_assoc]
      rfl

/-- The units of the player at the start, and those of the other empire. -/
def romans (f : FactionId) : List Unit :=
  [Unit.create 10 4 warriorTemplate f, Unit.create 11 6 warriorTemplate f,
    Unit.create 10 7 archerTemplate f, Unit.create 14 7 warriorTemplate f,
    Unit.create 13 9 settlerTemplate f]

def persians (f : FactionId) : List Unit :=
  [Unit.create 8 17 warriorTemplate f, Unit.create 9 19 warriorTemplate f,
    Unit.create 7 19 archerTemplate f, Unit.create 12 19 warriorTemplate f]

/-- The guards of the two neutral factions. -/
def neutrals (f : FactionId) : List Unit :=
  [Unit.create 2 2 warriorTemplate f, Unit.create 2 3 warriorTemplate f,
    Unit.create 3 2 warriorTemplate f, Unit.create 7 7 warriorTemplate (f + 1),
    Unit.create 7 8 warriorTemplate (f + 1)]

section Founding

variable {unitReg : UnitTypeRegistry} (hreg : UnitTypeRegistry.empty.registerDefaults = .ok unitReg)
  {s s' : GameState}

include hreg

theorem foundRome_soldiers (h : foundRome unitReg s = .ok s') :
    s'.soldiers = s.soldiers ++ romans s.factionRegistry.nextFactionId ∧
      s'.diplomacy = s.diplomacy := by
  obtain ⟨reg, hreg', hwarrior, harcher, hsettler⟩ := exists_registerDefaults
  obtain rfl := Except.ok.inj (hreg.symm.trans hreg')
  have hnew : newUnits unitReg s.factionRegistry.nextFactionId
      [(10, 4, "Warrior"), (11, 6, "Warrior"), (10, 7, "Archer"), (14, 7, "Warrior"),
        (13, 9, "Settler")] = .ok (romans s.factionRegistry.nextFactionId) := by
    simp [newUnits, romans, hwarrior, harcher, hsettler]
  rw [foundRome] at h
  obtain ⟨hsoldiers, hdiplomacy⟩ := placeUnits_soldiers hnew h
  exact ⟨hsoldiers, hdiplomacy⟩

theorem foundPersia_soldiers (h : foundPersia unitReg s = .ok s') :
    s'.soldiers = s.soldiers ++ persians s.factionRegistry.nextFactionId ∧
      s'.diplomacy = s.diplomacy := by
  obtain ⟨reg, hreg', hwarrior, harcher, -⟩ := exists_registerDefaults
  obtain rfl := Except.ok.inj (hreg.symm.trans hreg')
  have hnew : newUnits unitReg s.factionRegistry.nextFactionId
      [(8, 17, "Warrior"), (9, 19, "Warrior"), (7, 19, "Archer"), (12, 19, "Warrior")] =
        .ok (persians s.factionRegistry.nextFactionId) := by
    simp [newUnits, persians, hwarrior, harcher]
  rw [foundPersia] at h
  obtain ⟨hsoldiers, hdiplomacy⟩ := placeUnits_soldiers hnew h
  exact ⟨hsoldiers, hdiplomacy⟩

end Founding

theorem spawnNeutralFactions_soldiers {s s' : GameState} (hsize : s.OfAppSize)
    (h : NeutralAI.spawnNeutralFactions s = .ok s') :
    s'.soldiers = s.soldiers ++ neutrals s.factionRegistry.nextFactionId ∧
      s'.diplomacy = s.diplomacy.initializeDefaults
        (NeutralAI.withNeutrals s.factionRegistry) := by
  obtain ⟨unitReg, hreg, hwarrior, -⟩ := exists_registerDefaults
  rw [NeutralAI.spawnNeutralFactions, hreg, Except.ok_bind] at h
  obtain ⟨s₁, hhostile, hpassive⟩ := Except.bind_eq_ok.1 h
  have hmap : ∀ positions, (∀ p ∈ positions, p.1 < appMapRows ∧ p.2 < appMapCols) →
      NeutralAI.guardPlaces s.map positions = positions.map fun p => (p.1, p.2, "Warrior") := by
    intro positions hpositions
    rw [NeutralAI.guardPlaces, hsize.height, hsize.width, List.filter_eq_self.2 fun p hp => ?_]
    exact decide_eq_true (hpositions p hp)
  obtain ⟨s₁', hhostile', hsame, -⟩ := placeUnits_ok hreg s.factionRegistry.nextFactionId
    (NeutralAI.guardPlaces s.map NeutralAI.hostilePositions) (NeutralAI.joined s)
    (NeutralAI.guardPlaces_keys _ _)
  obtain rfl := Except.ok.inj (hhostile.symm.trans hhostile')
  have hmap₁ : s₁.map = s.map := (congrArg GameState.map hsame :)
  have hnew₁ : newUnits unitReg s.factionRegistry.nextFactionId
      (NeutralAI.guardPlaces s.map NeutralAI.hostilePositions) =
        .ok ((neutrals s.factionRegistry.nextFactionId).take 3) := by
    rw [hmap _ (by decide)]
    simp [newUnits, neutrals, NeutralAI.hostilePositions, hwarrior]
  have hnew₂ : newUnits unitReg (s.factionRegistry.nextFactionId + 1)
      (NeutralAI.guardPlaces s₁.map NeutralAI.passivePositions) =
        .ok ((neutrals s.factionRegistry.nextFactionId).drop 3) := by
    rw [hmap₁, hmap _ (by decide)]
    simp [newUnits, neutrals, NeutralAI.passivePositions, hwarrior]
  obtain ⟨hsoldiers₁, hdiplomacy₁⟩ := placeUnits_soldiers hnew₁ hhostile
  obtain ⟨hsoldiers₂, hdiplomacy₂⟩ := placeUnits_soldiers hnew₂ hpassive
  refine ⟨?_, hdiplomacy₂.trans hdiplomacy₁⟩
  rw [hsoldiers₂, hsoldiers₁, List.append_assoc, List.take_append_drop]
  rfl

/-- **The units that the game starts with**, and the relations of their factions. -/
theorem setupDemoState_soldiers {s s' : GameState} (h : s.Sound) (hsize : s.OfAppSize)
    (hok : setupDemoState s = .ok s') :
    s'.soldiers = s.soldiers ++ romans s.factionRegistry.nextFactionId ++
        persians (withRome s.factionRegistry).nextFactionId ++
        neutrals (withPersia (withRome s.factionRegistry)).nextFactionId ∧
      s'.diplomacy = (s.diplomacy.initializeDefaults
        (appFactions s.factionRegistry)).initializeDefaults (appFactions s.factionRegistry) := by
  obtain ⟨unitReg, hreg, -⟩ := exists_registerDefaults
  rw [setupDemoState, hreg, Except.ok_bind] at hok
  obtain ⟨s₁, hrome, hok⟩ := Except.bind_eq_ok.1 hok
  obtain ⟨s₂, hpersia, hok⟩ := Except.bind_eq_ok.1 hok
  obtain ⟨s₃, hneutral, hok⟩ := Except.bind_eq_ok.1 hok
  obtain ⟨fog, -, hok⟩ := Except.bind_eq_ok.1 hok
  obtain rfl := Except.ok.inj hok
  obtain ⟨s₁', hrome', h₁, hmap₁, -, -, hreg₁, -⟩ := foundRome_ok hreg h hsize
  obtain rfl := Except.ok.inj (hrome.symm.trans hrome')
  obtain ⟨s₂', hpersia', h₂, hmap₂, -, -, hreg₂, -⟩ := foundPersia_ok hreg h₁ (hsize.of_map hmap₁)
  obtain rfl := Except.ok.inj (hpersia.symm.trans hpersia')
  obtain ⟨s₃', hneutral', hsame, -⟩ := NeutralAI.spawnNeutralFactions_ok s₂
  obtain rfl := Except.ok.inj (hneutral.symm.trans hneutral')
  obtain ⟨hsoldiers₁, hdiplomacy₁⟩ := foundRome_soldiers hreg hrome
  obtain ⟨hsoldiers₂, hdiplomacy₂⟩ := foundPersia_soldiers hreg hpersia
  obtain ⟨hsoldiers₃, hdiplomacy₃⟩ :=
    spawnNeutralFactions_soldiers (hsize.of_map (hmap₂.trans hmap₁)) hneutral
  have hfactions : s₃.factionRegistry = appFactions s.factionRegistry := by
    rw [show s₃.factionRegistry = NeutralAI.withNeutrals s₂.factionRegistry from
      (congrArg GameState.factionRegistry hsame :), hreg₂, hreg₁]
    rfl
  constructor
  · change s₃.soldiers = _
    rw [hsoldiers₃, hsoldiers₂, hsoldiers₁, hreg₂, hreg₁]
  · change s₃.diplomacy.initializeDefaults s₃.factionRegistry = _
    rw [hfactions, hdiplomacy₃, hdiplomacy₂, hdiplomacy₁, hreg₂, hreg₁]
    rfl

end My4X
