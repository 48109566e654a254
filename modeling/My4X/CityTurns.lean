/-
**What the turn of a city does.**

A city pays off at most one order in a turn: the front one, when what was spent on it before and the
production of the turn cover its price.  This module says completely what becomes of that order and
what the turn leaves alone, so that nothing that follows has to open the turn again.  The turns of
all cities are a run of single turns, which ends early at a city that throws.

Main definitions:

* `My4X.BuildQueue.due?` — the order that some more production pays for;
* `My4X.TurnResolver.dueOrder` — the order a city pays off in its turn;
* `My4X.TurnResolver.CityTurn` — what a turn can do to the orders of a city;
* `My4X.TurnResolver.cityStep` — the turn of a city as a step of a run.

Main results:

* `My4X.TurnResolver.resolveCity_spec` — **the turn of a city does one of these things, and changes
  nothing else that matters to orders, buildings and units**;
* `My4X.TurnResolver.recordCities_keeps`, `My4X.TurnResolver.recordCities_iff` — from the turn of
  one city to the turns of all, with a record that is kept along the way.
-/

import My4X.Lib.Runs
import My4X.TurnUnits

set_option relaxedAutoImplicit false
set_option autoImplicit false

namespace My4X

/-! ### Spending production -/

namespace BuildQueue

/-- The front order, when some more production pays for it. -/
def due? (q : BuildQueue) (amount : ℤ) : Option BuildQueueItem :=
  match q.queue with
  | [] => none
  | item :: _ => if item.productionCost ≤ q.accumulated + amount then some item else none

/-- The queue after some more production that does not pay for the front order. -/
def save (q : BuildQueue) (amount : ℤ) : BuildQueue :=
  match q.queue with
  | [] => q
  | _ :: _ => { q with accumulated := q.accumulated + amount }

theorem due?_eq_some {q : BuildQueue} {amount : ℤ} {item : BuildQueueItem}
    (h : q.due? amount = some item) :
    (∃ rest, q.queue = item :: rest) ∧ item.productionCost ≤ q.accumulated + amount := by
  rw [due?] at h
  cases hq : q.queue with
  | nil => simp [hq] at h
  | cons front rest =>
      simp only [hq] at h
      split at h
      · next hpaid =>
          obtain rfl := Option.some_inj.1 h
          exact ⟨⟨rest, rfl⟩, hpaid⟩
      · simp at h

theorem save_queue (q : BuildQueue) (amount : ℤ) : (q.save amount).queue = q.queue := by
  rw [save]
  cases hq : q.queue with
  | nil => exact hq
  | cons front rest => rfl

/-- A queue without its front order, on which nothing was spent. -/
theorem cancel_of_due {q : BuildQueue} {amount : ℤ} {item : BuildQueueItem}
    (h : q.due? amount = some item) :
    q.queue = item :: q.cancel.queue ∧ q.cancel.accumulated = 0 := by
  obtain ⟨⟨rest, hq⟩, -⟩ := due?_eq_some h
  rw [cancel]
  simp [hq]

/-- **Spending production**: an order that is due leaves the queue, unless it is a building whose
factory is empty; otherwise the production is saved. -/
theorem applyProduction_eq (q : BuildQueue) (amount : ℤ) :
    q.applyProduction amount =
      match q.due? amount with
      | none => (q.save amount, .ok none)
      | some item =>
          match item.orderType, item.factory with
          | .unit, _ => (q.cancel, .ok (some (.unitSpawn item.templateKey)))
          | .building, some factory =>
              (q.cancel, .ok (some (.building (factory item.targetRow item.targetCol))))
          | .building, none => (q.save amount, .error .badFunctionCall) := by
  rw [applyProduction, due?, save, cancel]
  cases hq : q.queue with
  | nil => rfl
  | cons item rest =>
      dsimp only
      split
      · rfl
      · rfl

end BuildQueue

/-! ### What a turn leaves alone -/

/-- A city on the same site: all but its queue, its population and its food. -/
structure City.SameSite (c c' : City) : Prop where
  id : c'.id = c.id
  name : c'.name = c.name
  centerRow : c'.centerRow = c.centerRow
  centerCol : c'.centerCol = c.centerCol
  factionId : c'.factionId = c.factionId
  tiles : c'.tiles = c.tiles

/-- A city that has been fed: when its food reaches the threshold it grows by one. -/
def City.fed (city : City) (food : ℤ) : City :=
  let city := city.addFoodSurplus food
  let threshold := City.growthThreshold city.population
  if threshold ≤ city.foodSurplus then
    { city with
      population := city.population + 1
      foodSurplus := city.foodSurplus - threshold }
  else city

/-- Feeding a city changes its population and its food alone. -/
theorem City.fed_sameSite (city : City) (food : ℤ) :
    city.SameSite (city.fed food) ∧ (city.fed food).buildQueue = city.buildQueue := by
  rw [City.fed]
  split
  · exact ⟨⟨rfl, rfl, rfl, rfl, rfl, rfl⟩, rfl⟩
  · exact ⟨⟨rfl, rfl, rfl, rfl, rfl, rfl⟩, rfl⟩

/-- The map and the relations of another state. -/
structure GameState.SameWorld (s s' : GameState) : Prop where
  map : s'.map = s.map
  diplomacy : s'.diplomacy = s.diplomacy

theorem GameState.SameWorld.setCity {s s' : GameState} (h : s.SameWorld s') (i : ℕ) (city : City) :
    s.SameWorld (s'.setCity i city) := ⟨h.map, h.diplomacy⟩

theorem GameState.SameUnits.setCity {s s' : GameState} (h : s.SameUnits s') (i : ℕ) (city : City) :
    s.SameUnits (s'.setCity i city) := ⟨h.units, h.registry⟩

namespace TurnResolver

open GameState

/-- Paying gold changes stockpiles alone. -/
theorem routeGoldToFaction_eq (s : GameState) (factionId : Int32) (gold : ℤ) :
    ∃ registry resources, routeGoldToFaction s factionId gold =
      { s with factionRegistry := registry, factionResources := resources } := by
  rw [routeGoldToFaction]
  dsimp only
  split
  · exact ⟨_, s.factionResources, rfl⟩
  · exact ⟨s.factionRegistry, _, rfl⟩

/-- Feeding a city never fails. -/
theorem feed_eq (city : City) (food : ℤ) : feed city food = .ok (city.fed food) := by
  rw [feed, City.fed]
  split
  · rfl
  · rfl

/-! ### The turn of a city -/

/-- The production of a city in its turn. -/
def cityProduction (s : GameState) (city : City) : ℤ :=
  City.productionPerTurn + (collectCityYields city s).production

/-- The order that a city pays off in its turn. -/
def dueOrder (s : GameState) (city : City) : Option BuildQueueItem :=
  city.buildQueue.due? (cityProduction s city)

/-- An order that is due is in the queue. -/
theorem mem_of_dueOrder {s : GameState} {city : City} {item : BuildQueueItem}
    (h : dueOrder s city = some item) : item ∈ city.buildQueue.queue := by
  obtain ⟨⟨rest, hqueue⟩, -⟩ := BuildQueue.due?_eq_some h
  rw [hqueue]
  exact List.mem_cons_self

/-- The building that a city places for an order. -/
def placedBuilding (s : GameState) (city : City) (item : BuildQueueItem)
    (factory : BuildingFactory) : Building :=
  { factory item.targetRow item.targetCol with
    factionId := city.owner
    id := s.nextBuildingId }

/-- The unit that a city spawns from a template. -/
def spawnedUnit (s : GameState) (city : City) (tmpl : UnitTemplate) : Unit :=
  Unit.create (findSpawnTile city.centerRow city.centerCol s).1
    (findSpawnTile city.centerRow city.centerCol s).2 tmpl city.owner

/-- **What the turn of a city can do to its orders**: `city'` is the city afterwards, `s'` the
state and the last argument what the turn throws. -/
inductive CityTurn (unitRegistry : Option UnitTypeRegistry) (s : GameState) (city city' : City)
    (s' : GameState) : Option Fault → Prop
  /-- Nothing is due. -/
  | saves (due : dueOrder s city = none)
      (queue : city'.buildQueue = city.buildQueue.save (cityProduction s city))
      (buildings : s'.buildings = s.buildings) (units : SameUnits s s') :
      CityTurn unitRegistry s city city' s' none
  /-- A building is placed. -/
  | builds (item : BuildQueueItem) (factory : BuildingFactory) (due : dueOrder s city = some item)
      (type : item.orderType = .building) (made : item.factory = some factory)
      (queue : city'.buildQueue = city.buildQueue.cancel)
      (buildings : s'.buildings = s.buildings ++ [placedBuilding s city item factory])
      (units : SameUnits s s') : CityTurn unitRegistry s city city' s' none
  /-- A unit is paid for, but no registry of unit types is there to make it from. -/
  | drops (item : BuildQueueItem) (due : dueOrder s city = some item)
      (type : item.orderType = .unit) (types : unitRegistry = none)
      (queue : city'.buildQueue = city.buildQueue.cancel)
      (buildings : s'.buildings = s.buildings) (units : SameUnits s s') :
      CityTurn unitRegistry s city city' s' none
  /-- A unit is spawned. -/
  | spawns (item : BuildQueueItem) (reg : UnitTypeRegistry) (tmpl : UnitTemplate)
      (due : dueOrder s city = some item) (type : item.orderType = .unit)
      (types : unitRegistry = some reg) (known : reg.getTemplate item.templateKey = .ok tmpl)
      (queue : city'.buildQueue = city.buildQueue.cancel)
      (buildings : s'.buildings = s.buildings)
      (units : SameUnits (s.addUnit (spawnedUnit s city tmpl)).1 s') :
      CityTurn unitRegistry s city city' s' none
  /-- The factory of a building is empty. -/
  | misfires (item : BuildQueueItem) (due : dueOrder s city = some item)
      (type : item.orderType = .building) (made : item.factory = none)
      (queue : city'.buildQueue = city.buildQueue.save (cityProduction s city))
      (buildings : s'.buildings = s.buildings) (units : SameUnits s s') :
      CityTurn unitRegistry s city city' s' (some .badFunctionCall)
  /-- The type of a unit is unknown. -/
  | fails (item : BuildQueueItem) (reg : UnitTypeRegistry) (e : Fault)
      (due : dueOrder s city = some item) (type : item.orderType = .unit)
      (types : unitRegistry = some reg) (unknown : reg.getTemplate item.templateKey = .error e)
      (queue : city'.buildQueue = city.buildQueue.cancel)
      (buildings : s'.buildings = s.buildings) (units : SameUnits s s') :
      CityTurn unitRegistry s city city' s' (some e)

/-- The state in which a city has collected its gold and has a queue. -/
structure Paid (s : GameState) (i : ℕ) (city : City) (s' : GameState) : Prop where
  world : SameWorld s s'
  cities : s'.cities = s.cities.set i city
  buildings : s'.buildings = s.buildings
  nextBuildingId : s'.nextBuildingId = s.nextBuildingId
  units : s'.units = s.units
  registry : s'.registry = s.registry

/-- The state in which a city has collected its gold and has a new queue. -/
def paid (s : GameState) (i : ℕ) (city : City) (queue : BuildQueue) : GameState :=
  (routeGoldToFaction s city.factionId (collectCityYields city s).gold).setCity i
    (city.setBuildQueue queue)

theorem paid_spec (s : GameState) (i : ℕ) (city : City) (queue : BuildQueue) :
    Paid s i (city.setBuildQueue queue) (paid s i city queue) := by
  obtain ⟨registry, resources, hpay⟩ :=
    routeGoldToFaction_eq s city.factionId (collectCityYields city s).gold
  rw [paid, hpay]
  exact ⟨⟨rfl, rfl⟩, rfl, rfl, rfl, rfl, rfl⟩

/-- A city with a new queue that has been fed what it collects. -/
def fed (s : GameState) (city : City) (queue : BuildQueue) : City :=
  (city.setBuildQueue queue).fed (collectCityYields city s).food

theorem fed_spec (s : GameState) (city : City) (queue : BuildQueue) :
    city.SameSite (fed s city queue) ∧ (fed s city queue).buildQueue = queue := by
  obtain ⟨h, hqueue⟩ :=
    (city.setBuildQueue queue).fed_sameSite (collectCityYields city s).food
  exact ⟨⟨h.id, h.name, h.centerRow, h.centerCol, h.factionId, h.tiles⟩, hqueue⟩

/-- What a city has produced changes neither the cities, nor the turn counter, nor the accounts. -/
theorem handleCompletedProduction_keeps {s s' : GameState} {city : City}
    {result : BuildQueueResult} {unitRegistry : Option UnitTypeRegistry}
    (h : handleCompletedProduction s city result unitRegistry = .ok s') :
    s'.cities = s.cities ∧ s'.turn = s.turn ∧ s'.factionRegistry = s.factionRegistry ∧
      s'.factionResources = s.factionResources := by
  cases result with
  | building b =>
      obtain rfl := Except.ok.inj h
      exact ⟨rfl, rfl, rfl, rfl⟩
  | unitSpawn templateKey =>
      cases unitRegistry with
      | none =>
          obtain rfl := Except.ok.inj h
          exact ⟨rfl, rfl, rfl, rfl⟩
      | some reg =>
          rw [handleCompletedProduction, spawnCompletedUnit] at h
          obtain ⟨tmpl, -, h⟩ := Except.bind_eq_ok.1 h
          obtain rfl := Except.ok.inj h
          exact ⟨rfl, rfl, rfl, rfl⟩

/-- The turn of a city, with what is paid and what is fed kept apart from what is produced. -/
theorem resolveCity_eq (unitRegistry : Option UnitTypeRegistry) {s : GameState} {i : ℕ}
    {city : City} (hcity : s.cities[i]? = some city) :
    resolveCity unitRegistry s i =
      match dueOrder s city with
      | none =>
          ((paid s i city (city.buildQueue.save (cityProduction s city))).setCity i
            (fed s city (city.buildQueue.save (cityProduction s city))), none)
      | some item =>
          match item.orderType, item.factory with
          | .unit, _ =>
              match handleCompletedProduction (paid s i city city.buildQueue.cancel)
                  (city.setBuildQueue city.buildQueue.cancel) (.unitSpawn item.templateKey)
                  unitRegistry with
              | .error e => (paid s i city city.buildQueue.cancel, some e)
              | .ok s' => (s'.setCity i (fed s city city.buildQueue.cancel), none)
          | .building, some factory =>
              (((paid s i city city.buildQueue.cancel).addBuilding
                  { factory item.targetRow item.targetCol with factionId := city.owner }).1.setCity
                i (fed s city city.buildQueue.cancel), none)
          | .building, none =>
              (paid s i city (city.buildQueue.save (cityProduction s city)),
                some .badFunctionCall) := by
  rw [resolveCity]
  simp only [hcity, BuildQueue.applyProduction_eq, dueOrder, cityProduction, feed_eq]
  cases city.buildQueue.due? (City.productionPerTurn + (collectCityYields city s).production) with
  | none => rfl
  | some item =>
      dsimp only
      cases item.orderType with
      | unit =>
          dsimp only
          rw [← paid]
          generalize handleCompletedProduction _ (city.setBuildQueue city.buildQueue.cancel)
            (.unitSpawn item.templateKey) unitRegistry = placed
          cases placed with
          | error e => rfl
          | ok s' => rfl
      | building =>
          cases item.factory with
          | none => rfl
          | some factory => rfl

/-- **The turn of a city changes the accounts by the gold that it pays alone.** -/
theorem resolveCity_accounts (unitRegistry : Option UnitTypeRegistry) {s : GameState} {i : ℕ}
    {city : City} (hcity : s.cities[i]? = some city) :
    (resolveCity unitRegistry s i).1.factionRegistry =
        (routeGoldToFaction s city.factionId (collectCityYields city s).gold).factionRegistry ∧
      (resolveCity unitRegistry s i).1.factionResources =
        (routeGoldToFaction s city.factionId (collectCityYields city s).gold).factionResources := by
  rw [resolveCity_eq unitRegistry hcity]
  cases dueOrder s city with
  | none => exact ⟨rfl, rfl⟩
  | some item =>
      dsimp only
      cases item.orderType with
      | building =>
          cases item.factory with
          | none => exact ⟨rfl, rfl⟩
          | some factory => exact ⟨rfl, rfl⟩
      | unit =>
          dsimp only
          split
          · exact ⟨rfl, rfl⟩
          · next s' hdone =>
              obtain ⟨-, -, hfactions, hpool⟩ := handleCompletedProduction_keeps hdone
              exact ⟨hfactions, hpool⟩

theorem Paid.sameUnits {s s' : GameState} {i : ℕ} {city : City} (h : Paid s i city s') :
    SameUnits s s' := ⟨h.units, by rw [h.registry]⟩

/-- A city is fed after its turn, and nothing else changes. -/
theorem Paid.setCity_cities {s s' s'' : GameState} {i : ℕ} {city : City} (h : Paid s i city s')
    (hcities : s''.cities = s'.cities) (city' : City) :
    (s''.setCity i city').cities = s.cities.set i city' := by
  rw [setCity, hcities, h.cities, List.set_set]

theorem findSpawnTile_congr {s s' : GameState} (hworld : SameWorld s s') (hunits : SameUnits s s')
    (row col : ℤ) : findSpawnTile row col s' = findSpawnTile row col s := by
  rw [findSpawnTile, findSpawnTile, hworld.map]
  unfold TileRegistry.unitsAt
  rw [hunits.registry]

/-- **The turn of a city does one of these things to its orders, and changes nothing else.** -/
theorem resolveCity_spec (unitRegistry : Option UnitTypeRegistry) {s : GameState} {i : ℕ}
    {city : City} (hcity : s.cities[i]? = some city) :
    ∃ city', (resolveCity unitRegistry s i).1.cities = s.cities.set i city' ∧
      city.SameSite city' ∧ SameWorld s (resolveCity unitRegistry s i).1 ∧
      CityTurn unitRegistry s city city' (resolveCity unitRegistry s i).1
        (resolveCity unitRegistry s i).2 := by
  have hpaid := paid_spec s i city
  have hfed := fed_spec s city
  rw [resolveCity_eq unitRegistry hcity]
  have hsite : ∀ q, city.SameSite (city.setBuildQueue q) := fun q => ⟨rfl, rfl, rfl, rfl, rfl, rfl⟩
  cases hdue : dueOrder s city with
  | none =>
      have h := hpaid (city.buildQueue.save (cityProduction s city))
      exact ⟨_, h.setCity_cities rfl _, (hfed _).1, h.world.setCity i _,
        .saves hdue (hfed _).2 h.buildings (h.sameUnits.setCity i _)⟩
  | some item =>
      dsimp only
      have h := hpaid city.buildQueue.cancel
      cases htype : item.orderType with
      | building =>
          cases hmade : item.factory with
          | none =>
              have hsaved := hpaid (city.buildQueue.save (cityProduction s city))
              exact ⟨_, hsaved.cities, hsite _, hsaved.world,
                .misfires item hdue htype hmade rfl hsaved.buildings hsaved.sameUnits⟩
          | some factory =>
              have hunits := h.sameUnits.trans (addBuilding_sameUnits
                (paid s i city city.buildQueue.cancel)
                { factory item.targetRow item.targetCol with factionId := city.owner })
              refine ⟨_, h.setCity_cities rfl _, (hfed _).1, ⟨h.world.map, h.world.diplomacy⟩,
                .builds item factory hdue htype hmade (hfed _).2 ?_ (hunits.setCity i _)⟩
              rw [placedBuilding, ← h.nextBuildingId, ← h.buildings]
              rfl
      | unit =>
          dsimp only
          cases unitRegistry with
          | none =>
              exact ⟨_, h.setCity_cities rfl _, (hfed _).1, h.world.setCity i _,
                .drops item hdue htype rfl (hfed _).2 h.buildings (h.sameUnits.setCity i _)⟩
          | some reg =>
              rw [handleCompletedProduction, spawnCompletedUnit]
              cases hknown : reg.getTemplate item.templateKey with
              | error e =>
                  exact ⟨_, h.cities, hsite _, h.world,
                    .fails item reg e hdue htype rfl hknown rfl h.buildings h.sameUnits⟩
              | ok tmpl =>
                  have hunits := h.sameUnits.addUnit (spawnedUnit s city tmpl)
                  refine ⟨_, h.setCity_cities rfl _, (hfed _).1, ⟨h.world.map, h.world.diplomacy⟩,
                    .spawns item reg tmpl hdue htype rfl hknown (hfed _).2 h.buildings ?_⟩
                  rw [spawnedUnit, ← findSpawnTile_congr h.world h.sameUnits] at hunits ⊢
                  exact hunits.setCity i _

/-- An index at which there is no city has no turn. -/
theorem resolveCity_of_none (unitRegistry : Option UnitTypeRegistry) {s : GameState} {i : ℕ}
    (h : s.cities[i]? = none) : resolveCity unitRegistry s i = (s, none) := by
  rw [resolveCity]
  simp only [h]

/-- What the turn of a city throws is an exception, not a failed assertion. -/
theorem resolveCity_ne_assertion (unitRegistry : Option UnitTypeRegistry) (s : GameState) (i : ℕ) :
    (resolveCity unitRegistry s i).2 ≠ some .assertion := by
  cases hcity : s.cities[i]? with
  | none =>
      rw [resolveCity_of_none unitRegistry hcity]
      simp
  | some city =>
      obtain ⟨city', -, -, -, hturn⟩ := resolveCity_spec unitRegistry hcity
      intro hthrown
      rw [hthrown] at hturn
      cases hturn with
      | fails item reg e due type types unknown queue buildings units =>
          rw [UnitTypeRegistry.getTemplate] at unknown
          split at unknown <;> simp at unknown

/-- The unit that the city at an index spawns in its turn, if it spawns one. -/
def spawn? (unitRegistry : Option UnitTypeRegistry) (s : GameState) (i : ℕ) : Option Unit := do
  let city ← s.cities[i]?
  let item ← dueOrder s city
  let reg ← unitRegistry
  match item.orderType, reg.getTemplate item.templateKey with
  | .unit, .ok tmpl => some (spawnedUnit s city tmpl)
  | _, _ => none

theorem spawn?_eq_some {unitRegistry : Option UnitTypeRegistry} {s : GameState} {i : ℕ} {u : Unit}
    (h : spawn? unitRegistry s i = some u) :
    ∃ city item reg tmpl, s.cities[i]? = some city ∧ dueOrder s city = some item ∧
      item.orderType = .unit ∧ unitRegistry = some reg ∧
      reg.getTemplate item.templateKey = .ok tmpl ∧ u = spawnedUnit s city tmpl := by
  obtain ⟨city, hcity, h⟩ := Option.bind_eq_some_iff.1 h
  obtain ⟨item, hdue, h⟩ := Option.bind_eq_some_iff.1 h
  obtain ⟨reg, hreg, h⟩ := Option.bind_eq_some_iff.1 h
  split at h
  · next tmpl htype hknown =>
      exact ⟨city, item, reg, tmpl, hcity, hdue, htype, hreg, hknown, (Option.some_inj.1 h).symm⟩
  · simp at h

/-- **The turn of a city leaves the units as they are, but for the one it spawns.** -/
theorem resolveCity_spawn (unitRegistry : Option UnitTypeRegistry) (s : GameState) (i : ℕ) :
    match spawn? unitRegistry s i with
    | none => SameUnits s (resolveCity unitRegistry s i).1
    | some u => SameUnits (s.addUnit u).1 (resolveCity unitRegistry s i).1 := by
  rw [spawn?]
  cases hcity : s.cities[i]? with
  | none =>
      rw [resolveCity_of_none unitRegistry hcity]
      exact SameUnits.refl s
  | some city =>
      obtain ⟨city', -, -, -, hturn⟩ := resolveCity_spec unitRegistry hcity
      generalize (resolveCity unitRegistry s i).2 = thrown at hturn
      cases hturn with
      | saves due queue buildings units => simpa [due] using units
      | builds item factory due type made queue buildings units =>
          cases unitRegistry <;> simpa [due, type] using units
      | drops item due type types queue buildings units => simpa [due, types] using units
      | spawns item reg tmpl due type types known queue buildings units =>
          simpa [due, type, types, known] using units
      | misfires item due type made queue buildings units =>
          cases unitRegistry <;> simpa [due, type] using units
      | fails item reg e due type types unknown queue buildings units =>
          simpa [due, type, types, unknown] using units

/-! ### The turns of all cities -/

section Run

variable (unitRegistry : Option UnitTypeRegistry)

/-- The turn of a city as a step: a city that throws ends the run. -/
def cityStep (s : GameState) (i : ℕ) : Option GameState :=
  match resolveCity unitRegistry s i with
  | (s', none) => some s'
  | (_, some _) => none

theorem cityStep_eq_some {s s' : GameState} {i : ℕ} :
    cityStep unitRegistry s i = some s' ↔ resolveCity unitRegistry s i = (s', none) := by
  rw [cityStep]
  split
  · next s₁ h => simp [h]
  · next s₁ e h => simp [h]

/-- A record that is kept city by city, up to the first city that throws. -/
def recordCities {ρ : Type} (record : GameState → ρ → ℕ → ρ) (s : GameState) (r : ρ) : List ℕ → ρ
  | [] => r
  | i :: is =>
      match resolveCity unitRegistry s i with
      | (_, some _) => record s r i
      | (s', none) => recordCities record s' (record s r i) is

variable {unitRegistry}

section Record

variable {ρ : Type} (record : GameState → ρ → ℕ → ρ) {I : GameState × ρ → Prop}
  {P : GameState × ρ → ℕ → Prop}

/-- **What the turn of a city keeps when it meets a condition, the turns of all cities keep**, also
when one of them throws. -/
theorem recordCities_keeps
    (hI : ∀ s r i, I (s, r) → P (s, r) i → I ((resolveCity unitRegistry s i).1, record s r i)) :
    ∀ (is : List ℕ) (s : GameState) (r : ρ), I (s, r) →
      Runs.Along (Runs.recorded (cityStep unitRegistry) record) P (s, r) is →
      I ((resolveCitiesFrom unitRegistry s is).1, recordCities unitRegistry record s r is) := by
  intro is
  induction is with
  | nil => intro s r h _; exact h
  | cons i is ih =>
      intro s r h hal
      have hone := hI s r i h hal.1
      rw [resolveCitiesFrom, recordCities]
      cases hout : resolveCity unitRegistry s i with
      | mk s₁ thrown =>
          rw [hout] at hone
          cases thrown with
          | some e => exact hone
          | none =>
              refine ih s₁ (record s r i) hone (hal.2 (s₁, record s r i) ?_)
              exact (Runs.recorded_eq_some _ _).2 ⟨(cityStep_eq_some unitRegistry).2 hout, rfl⟩

/-- What no turn of a city restores, the turns of all cities do not restore. -/
theorem recordCities_lost
    (hback : ∀ s r i, I ((resolveCity unitRegistry s i).1, record s r i) → I (s, r)) :
    ∀ (is : List ℕ) (s : GameState) (r : ρ),
      I ((resolveCitiesFrom unitRegistry s is).1, recordCities unitRegistry record s r is) →
        I (s, r) := by
  intro is
  induction is with
  | nil => intro s r h; exact h
  | cons i is ih =>
      intro s r h
      refine hback s r i ?_
      rw [resolveCitiesFrom, recordCities] at h
      cases hout : resolveCity unitRegistry s i with
      | mk s₁ thrown =>
          rw [hout] at h
          cases thrown with
          | some e => exact h
          | none => exact ih s₁ (record s r i) h

/-- **What the turn of a city keeps exactly when it meets a condition, and never restores, the turns
of all cities keep exactly when all of them meet the condition.** -/
theorem recordCities_iff
    (hP : ∀ s r i, I (s, r) → (P (s, r) i ↔ I ((resolveCity unitRegistry s i).1, record s r i)))
    (hback : ∀ s r i, I ((resolveCity unitRegistry s i).1, record s r i) → I (s, r)) :
    ∀ (is : List ℕ) (s : GameState) (r : ρ), I (s, r) →
      (I ((resolveCitiesFrom unitRegistry s is).1, recordCities unitRegistry record s r is) ↔
        Runs.Along (Runs.recorded (cityStep unitRegistry) record) P (s, r) is) := by
  intro is s r hs
  constructor
  · induction is generalizing s r with
    | nil => intro _; trivial
    | cons i is ih =>
        intro h
        rw [resolveCitiesFrom, recordCities] at h
        have hone := hP s r i hs
        have hnext : ∀ y, Runs.recorded (cityStep unitRegistry) record (s, r) i = some y →
            ∃ s₁, resolveCity unitRegistry s i = (s₁, none) ∧ y = (s₁, record s r i) := by
          intro y hy
          obtain ⟨hstep, hrec⟩ := (Runs.recorded_eq_some _ _).1 hy
          exact ⟨y.1, (cityStep_eq_some unitRegistry).1 hstep, Prod.ext rfl hrec⟩
        cases hout : resolveCity unitRegistry s i with
        | mk s₁ thrown =>
            rw [hout] at h hone hnext
            cases thrown with
            | some e =>
                refine ⟨hone.2 h, fun y hy => ?_⟩
                obtain ⟨s₂, hs₂, -⟩ := hnext y hy
                simp at hs₂
            | none =>
                have hs₁ := recordCities_lost record hback is s₁ (record s r i) h
                refine ⟨hone.2 hs₁, fun y hy => ?_⟩
                obtain ⟨s₂, hs₂, rfl⟩ := hnext y hy
                obtain ⟨rfl, -⟩ := Prod.mk.inj hs₂
                exact ih _ _ hs₁ h
  · exact recordCities_keeps record (fun s r i h hP' => (hP s r i h).1 hP') is s r hs

end Record

variable {I : GameState → Prop} {P : GameState → ℕ → Prop}

/-- The same without a record. -/
theorem resolveCitiesFrom_keeps (hI : ∀ s i, I s → P s i → I (resolveCity unitRegistry s i).1)
    (is : List ℕ) (s : GameState) (h : I s) (hal : Runs.Along (cityStep unitRegistry) P s is) :
    I (resolveCitiesFrom unitRegistry s is).1 :=
  recordCities_keeps (fun _ (r : PUnit) _ => r) (I := fun x => I x.1)
    (P := fun x i => P x.1 i) (fun s _ i => hI s i) is s ⟨⟩ h
    ((Runs.along_recorded _ _ P is (s, PUnit.unit)).2 hal)

theorem resolveCitiesFrom_iff (hP : ∀ s i, I s → (P s i ↔ I (resolveCity unitRegistry s i).1))
    (hback : ∀ s i, I (resolveCity unitRegistry s i).1 → I s) (is : List ℕ) (s : GameState)
    (h : I s) :
    I (resolveCitiesFrom unitRegistry s is).1 ↔ Runs.Along (cityStep unitRegistry) P s is :=
  (recordCities_iff (fun _ (r : PUnit) _ => r) (I := fun x => I x.1)
    (P := fun x i => P x.1 i) (fun s _ i => hP s i) (fun s _ i => hback s i) is s ⟨⟩ h).trans
    (Runs.along_recorded _ _ P is (s, PUnit.unit))

end Run

end TurnResolver

/-! ### The turn -/

/-- What follows the turns of the cities. -/
def GameState.closeTurn (s : GameState) : GameState :=
  ({ s with units := s.units.mapUnits Unit.resetMovement }).nextTurn

/-- The end of a turn: the turns of the cities, and unless one of them throws what follows them. -/
theorem resolveTurn_eq (s : GameState) (unitRegistry : Option UnitTypeRegistry) :
    resolveTurn s unitRegistry =
      match TurnResolver.resolveCities s unitRegistry with
      | (s', some e) => (s', .error e)
      | (s', none) => (s'.closeTurn, .ok (NeutralAI.generateActions s')) := rfl

/-- What the end of a turn throws is an exception, not a failed assertion. -/
theorem resolveTurn_ne_assertion (s : GameState) (unitRegistry : Option UnitTypeRegistry) :
    (resolveTurn s unitRegistry).2 ≠ .error .assertion := by
  have hcities : ∀ (is : List ℕ) (s : GameState),
      (TurnResolver.resolveCitiesFrom unitRegistry s is).2 ≠ some .assertion := by
    intro is
    induction is with
    | nil => intro s h; simp [TurnResolver.resolveCitiesFrom] at h
    | cons i is ih =>
        intro s
        have hone := TurnResolver.resolveCity_ne_assertion unitRegistry s i
        rw [TurnResolver.resolveCitiesFrom]
        split
        · next s₁ e hout => rw [hout] at hone; exact hone
        · next s₁ hout => exact ih s₁
  have hall := hcities (List.range s.cities.length) s
  rw [resolveTurn_eq, TurnResolver.resolveCities]
  split
  · next s' e hout =>
      rw [hout] at hall
      exact fun h => hall (congrArg some (Except.error.inj h))
  · simp

/-- What closing a turn neither gives nor takes holds after the turn when it holds after the turns
of the cities. -/
theorem resolveTurn_iff {I : GameState → Prop} (hclose : ∀ s : GameState, I s.closeTurn ↔ I s)
    (s : GameState) (unitRegistry : Option UnitTypeRegistry) :
    I (resolveTurn s unitRegistry).1 ↔ I (TurnResolver.resolveCities s unitRegistry).1 := by
  rw [resolveTurn_eq]
  split
  · next s' e hout => rw [hout]
  · next s' hout => rw [hout]; exact hclose s'

end My4X
