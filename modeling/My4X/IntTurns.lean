/-
**The end of a turn with `int`s.**

At the end of a turn the yields of the buildings, the gold of the accounts, the counters of the
queues, the food and the population of the cities and the turn counter are all added up as `int`s.
This module has the turn as it is computed, and says under which condition on the state before it no
sum of the turn leaves the range: then it is the turn that is computed with integers.

Main definitions:

* `My4X.Machine.TurnResolver.resolveCity`, `My4X.Machine.resolveTurn` — the turn, with `int`s;
* `My4X.City.GoldFits` — the gold of a city fits, and so does the account it goes to;
* `My4X.City.TurnFits` — everything that is added up in the turn of a city fits;
* `My4X.Machine.TurnFits` — everything that is added up in a turn fits.

Main results:

* `My4X.Machine.TurnResolver.resolveCity_eq` — the turn of a city that fits;
* `My4X.Machine.resolveTurn_eq` — **a turn that fits is the turn with integers**.
-/

import My4X.CityEconomy
import My4X.IntQueues
import My4X.TurnFlags

set_option relaxedAutoImplicit false
set_option autoImplicit false

namespace My4X

/-! ### Resources and cities -/

namespace Machine

/-- Adds amounts of the three resources, with `int`s. -/
def Resource.add (a b : My4X.Resource) : My4X.Resource :=
  ⟨int (a.gold + b.gold), int (a.production + b.production), int (a.food + b.food)⟩

namespace City

/-- The food surplus at which a population grows, with `int`s. -/
def growthThreshold (population : ℤ) : ℤ := int (10 + int (5 * population))

/-- Raises the population, with `int`s. -/
def growPopulation (c : My4X.City) (amount : ℤ) : Except Fault My4X.City :=
  if 0 ≤ amount then .ok { c with population := int (c.population + amount) } else .error .assertion

/-- Adds to the food surplus, with `int`s. -/
def addFoodSurplus (c : My4X.City) (amount : ℤ) : My4X.City :=
  { c with foodSurplus := int (c.foodSurplus + amount) }

end City

/-- Advances the turn counter, with `int`s. -/
def GameState.nextTurn (s : My4X.GameState) : My4X.GameState := { s with turn := int (s.turn + 1) }

/-! ### The turn of a city -/

namespace TurnResolver

open My4X.TurnResolver (handleCompletedProduction)

/-- The yields of some buildings that share a tile with the city, with `int`s. -/
def yieldsFrom (city : My4X.City) (buildings : List Building) : My4X.Resource :=
  buildings.foldl
    (fun total building =>
      if building.occupiedTiles.toList.any fun t => city.containsTile t.row t.col then
        Resource.add total building.yieldPerTurn
      else total) {}

/-- The yields of the buildings that share a tile with the city, each counted once, with `int`s. -/
def collectCityYields (city : My4X.City) (state : My4X.GameState) : My4X.Resource :=
  yieldsFrom city state.buildings

/-- Pays gold to the first faction with the identifier, or else into the common account, with
`int`s. -/
def routeGoldToFaction (state : My4X.GameState) (factionId : Int32) (gold : ℤ) : My4X.GameState :=
  let target := state.factionRegistry.factions.findIdx? fun f => f.id = factionId.toUInt32
  match if 0 < factionId then target else none with
  | some i =>
      { state with
        factionRegistry := { state.factionRegistry with
          factions := state.factionRegistry.factions.modify i fun f =>
            { f with stockpile := { f.stockpile with gold := int (f.stockpile.gold + gold) } } } }
  | none =>
      { state with
        factionResources :=
          { state.factionResources with gold := int (state.factionResources.gold + gold) } }

/-- Adds the food of a turn, with `int`s; the population grows when the surplus reaches the
threshold. -/
def feed (city : My4X.City) (food : ℤ) : Except Fault My4X.City :=
  let city := City.addFoodSurplus city food
  let threshold := City.growthThreshold city.population
  if threshold ≤ city.foodSurplus then do
    let city ← City.growPopulation city 1
    return city.setFoodSurplus (int (city.foodSurplus - threshold))
  else .ok city

/-- The turn of the city at an index, with `int`s. -/
def resolveCity (unitRegistry : Option UnitTypeRegistry) (state : My4X.GameState) (i : ℕ) :
    My4X.GameState × Option Fault :=
  match state.cities[i]? with
  | none => (state, none)
  | some city =>
      let yields := collectCityYields city state
      let state := routeGoldToFaction state city.factionId yields.gold
      let (queue, completed) :=
        BuildQueue.applyProduction city.buildQueue
          (int (My4X.City.productionPerTurn + yields.production))
      let city := city.setBuildQueue queue
      let state := state.setCity i city
      let placed : Except Fault My4X.GameState :=
        match completed with
        | .error e => .error e
        | .ok none => .ok state
        | .ok (some result) => handleCompletedProduction state city result unitRegistry
      match placed with
      | .error e => (state, some e)
      | .ok state =>
          match feed city yields.food with
          | .error e => (state, some e)
          | .ok city => (state.setCity i city, none)

/-- The turns of the cities at some indices, with `int`s, up to the first one that throws. -/
def resolveCitiesFrom (unitRegistry : Option UnitTypeRegistry) (state : My4X.GameState) :
    List ℕ → My4X.GameState × Option Fault
  | [] => (state, none)
  | i :: is =>
      match resolveCity unitRegistry state i with
      | (state, some e) => (state, some e)
      | (state, none) => resolveCitiesFrom unitRegistry state is

/-- The turns of all cities, with `int`s. -/
def resolveCities (state : My4X.GameState) (unitRegistry : Option UnitTypeRegistry) :
    My4X.GameState × Option Fault :=
  resolveCitiesFrom unitRegistry state (List.range state.cities.length)

/-- The turn of a city as a step, with `int`s: a city that throws ends the run. -/
def cityStep (unitRegistry : Option UnitTypeRegistry) (s : My4X.GameState) (i : ℕ) :
    Option My4X.GameState :=
  match resolveCity unitRegistry s i with
  | (s', none) => some s'
  | (_, some _) => none

theorem cityStep_eq_some {unitRegistry : Option UnitTypeRegistry} {s s' : My4X.GameState} {i : ℕ} :
    cityStep unitRegistry s i = some s' ↔ resolveCity unitRegistry s i = (s', none) := by
  rw [cityStep]
  split
  · next s₁ h => simp [h]
  · next s₁ e h => simp [h]

end TurnResolver

/-- **The end of a turn**, with `int`s: the state it leaves, and the intentions of the neutral
factions unless a city has thrown. -/
def resolveTurn (state : My4X.GameState) (unitRegistry : Option UnitTypeRegistry) :
    My4X.GameState × Except Fault (List AIAction) :=
  match TurnResolver.resolveCities state unitRegistry with
  | (state, some e) => (state, .error e)
  | (state, none) =>
      let aiActions := NeutralAI.generateActions state
      let state := { state with units := state.units.mapUnits Unit.resetMovement }
      (GameState.nextTurn state, .ok aiActions)

end Machine

/-! ### What fits -/

namespace City

/-- **A part of the yields of a city fits**, building by building. -/
def YieldsFit (part : Resource → ℤ) (city : City) (buildings : List Building) : Prop :=
  ∀ bs ∈ buildings.inits, IsInt (city.yieldOf part bs)

instance (part : Resource → ℤ) (city : City) (buildings : List Building) :
    Decidable (city.YieldsFit part buildings) :=
  inferInstanceAs (Decidable (∀ bs ∈ buildings.inits, IsInt (city.yieldOf part bs)))

/-- **The gold of a city fits**, and so does the account that it goes to. -/
structure GoldFits (city : City) (s : GameState) : Prop where
  collected : city.YieldsFit Resource.gold s.buildings
  paid : IsInt (s.goldIn (city.account s.factionIds) + city.yieldOf Resource.gold s.buildings)

/-- **The production of a city fits**, and so does the counter of its queue. -/
structure ProductionFits (city : City) (s : GameState) : Prop where
  collected : city.YieldsFit Resource.production s.buildings
  total : IsInt (productionPerTurn + city.yieldOf Resource.production s.buildings)
  spent : city.buildQueue.queue.isEmpty = false → IsInt (city.buildQueue.accumulated +
    (productionPerTurn + city.yieldOf Resource.production s.buildings))

/-- **The food of a city fits**, and so do the threshold of its population and what is left when the
city grows. -/
structure FoodFits (city : City) (s : GameState) : Prop where
  collected : city.YieldsFit Resource.food s.buildings
  surplus : IsInt (city.foodSurplus + city.yieldOf Resource.food s.buildings)
  product : IsInt (5 * city.population)
  threshold : IsInt (growthThreshold city.population)
  rest : growthThreshold city.population ≤
      city.foodSurplus + city.yieldOf Resource.food s.buildings →
    IsInt (city.foodSurplus + city.yieldOf Resource.food s.buildings -
      growthThreshold city.population)

/-- **Everything that is added up in the turn of a city fits.** -/
structure TurnFits (city : City) (s : GameState) : Prop where
  gold : city.GoldFits s
  production : city.ProductionFits s
  food : city.FoodFits s

theorem goldFits_iff {city : City} {s : GameState} :
    city.GoldFits s ↔ city.YieldsFit Resource.gold s.buildings ∧
      IsInt (s.goldIn (city.account s.factionIds) + city.yieldOf Resource.gold s.buildings) :=
  ⟨fun h => ⟨h.collected, h.paid⟩, fun h => ⟨h.1, h.2⟩⟩

instance (city : City) (s : GameState) : Decidable (city.GoldFits s) :=
  decidable_of_iff _ goldFits_iff.symm

theorem productionFits_iff {city : City} {s : GameState} :
    city.ProductionFits s ↔ city.YieldsFit Resource.production s.buildings ∧
      IsInt (productionPerTurn + city.yieldOf Resource.production s.buildings) ∧
      (city.buildQueue.queue.isEmpty = false → IsInt (city.buildQueue.accumulated +
        (productionPerTurn + city.yieldOf Resource.production s.buildings))) :=
  ⟨fun h => ⟨h.collected, h.total, h.spent⟩, fun h => ⟨h.1, h.2.1, h.2.2⟩⟩

instance (city : City) (s : GameState) : Decidable (city.ProductionFits s) :=
  decidable_of_iff _ productionFits_iff.symm

theorem foodFits_iff {city : City} {s : GameState} :
    city.FoodFits s ↔ city.YieldsFit Resource.food s.buildings ∧
      IsInt (city.foodSurplus + city.yieldOf Resource.food s.buildings) ∧
      IsInt (5 * city.population) ∧ IsInt (growthThreshold city.population) ∧
      (growthThreshold city.population ≤
          city.foodSurplus + city.yieldOf Resource.food s.buildings →
        IsInt (city.foodSurplus + city.yieldOf Resource.food s.buildings -
          growthThreshold city.population)) :=
  ⟨fun h => ⟨h.collected, h.surplus, h.product, h.threshold, h.rest⟩,
    fun h => ⟨h.1, h.2.1, h.2.2.1, h.2.2.2.1, h.2.2.2.2⟩⟩

instance (city : City) (s : GameState) : Decidable (city.FoodFits s) :=
  decidable_of_iff _ foodFits_iff.symm

/-- A city whose threshold fits can grow. -/
theorem FoodFits.grown {city : City} {s : GameState} (h : city.FoodFits s) :
    IsInt (city.population + 1) := by
  obtain ⟨hle, hge⟩ := h.product
  exact ⟨by omega, by omega⟩

end City

namespace Machine

namespace TurnResolver

/-! ### The turn of a city that fits -/

section Yields

variable {part : My4X.Resource → ℤ} {city : My4X.City} {buildings : List Building}

/-- One building more. -/
theorem yieldsFrom_concat (city : My4X.City) (buildings : List Building) (b : Building) :
    yieldsFrom city (buildings ++ [b]) =
      if city.Overlaps b then Resource.add (yieldsFrom city buildings) b.yieldPerTurn
      else yieldsFrom city buildings := by
  rw [yieldsFrom, List.foldl_append]
  exact if_congr City.overlaps_iff rfl rfl

theorem yieldOf_concat (part : My4X.Resource → ℤ) (city : My4X.City) (buildings : List Building)
    (b : Building) :
    city.yieldOf part (buildings ++ [b]) =
      city.yieldOf part buildings + if city.Overlaps b then part b.yieldPerTurn else 0 := by
  rw [City.yieldOf, List.filter_append, List.map_append, List.sum_append]
  refine congrArg _ ?_
  by_cases hoverlap : city.Overlaps b
  · rw [if_pos hoverlap, List.filter_cons_of_pos (by simpa using hoverlap)]
    exact Int.add_zero _
  · rw [if_neg hoverlap, List.filter_cons_of_neg (by simpa using hoverlap)]
    rfl

/-- **A part of the yields that fits** is the sum of that part. -/
theorem yieldsFrom_part (hzero : part {} = 0)
    (hadd : ∀ a b, part (Resource.add a b) = int (part a + part b))
    (hfits : city.YieldsFit part buildings) :
    part (yieldsFrom city buildings) = city.yieldOf part buildings := by
  induction buildings using List.reverseRecOn with
  | nil => exact hzero
  | append_singleton buildings b ih =>
      have hall : IsInt (city.yieldOf part (buildings ++ [b])) :=
        hfits _ ((List.mem_inits _ _).2 List.prefix_rfl)
      have hbefore : city.YieldsFit part buildings := fun bs hbs =>
        hfits bs ((List.mem_inits _ _).2
          (((List.mem_inits _ _).1 hbs).trans (List.prefix_append buildings [b])))
      rw [yieldOf_concat] at hall ⊢
      rw [yieldsFrom_concat]
      by_cases hoverlap : city.Overlaps b
      · rw [if_pos hoverlap] at hall ⊢
        rw [if_pos hoverlap, hadd, ih hbefore, int_eq_self hall]
      · rw [if_neg hoverlap, if_neg hoverlap, ih hbefore, Int.add_zero]

end Yields

variable {unitRegistry : Option UnitTypeRegistry} {s : My4X.GameState} {i : ℕ} {city : My4X.City}

/-- The yields of a city that fit. -/
theorem collectCityYields_eq (h : city.TurnFits s) :
    collectCityYields city s = My4X.TurnResolver.collectCityYields city s := by
  have hparts : ∀ part : My4X.Resource → ℤ, part {} = 0 →
      (∀ a b, part (Resource.add a b) = int (part a + part b)) →
      (∀ a b, part (a + b) = part a + part b) → city.YieldsFit part s.buildings →
      part (collectCityYields city s) = part (My4X.TurnResolver.collectCityYields city s) :=
    fun _ hzero hadd hadd' hfits => (yieldsFrom_part hzero hadd hfits).trans
      (My4X.TurnResolver.yieldsFrom_yieldOf _ hzero hadd' city s.buildings).symm
  have hgold := hparts My4X.Resource.gold rfl (fun _ _ => rfl) (fun _ _ => rfl)
    h.gold.collected
  have hproduction := hparts My4X.Resource.production rfl (fun _ _ => rfl)
    (fun _ _ => rfl) h.production.collected
  have hfood := hparts My4X.Resource.food rfl (fun _ _ => rfl) (fun _ _ => rfl)
    h.food.collected
  cases hm : collectCityYields city s with
  | mk gold production food =>
      rw [hm] at hgold hproduction hfood
      cases hz : My4X.TurnResolver.collectCityYields city s with
      | mk gold' production' food' =>
          rw [hz] at hgold hproduction hfood
          obtain rfl : gold = gold' := hgold
          obtain rfl : production = production' := hproduction
          obtain rfl : food = food' := hfood
          rfl

/-- Gold that fits into its account is paid as with integers. -/
theorem routeGoldToFaction_eq {gold : ℤ}
    (h : IsInt (s.goldIn (city.account s.factionIds) + gold)) :
    routeGoldToFaction s city.factionId gold =
      My4X.TurnResolver.routeGoldToFaction s city.factionId gold := by
  have haccount : city.account s.factionIds =
      if 0 < city.factionId then
        s.factionRegistry.factions.findIdx? fun f => f.id = city.factionId.toUInt32
      else none := by
    rw [City.account, GameState.factionIds, List.findIdx?_map]
    rfl
  rw [haccount] at h
  rw [routeGoldToFaction, My4X.TurnResolver.routeGoldToFaction]
  dsimp only
  cases htarget : if 0 < city.factionId then
      s.factionRegistry.factions.findIdx? fun f => f.id = city.factionId.toUInt32
    else none with
  | none =>
      rw [htarget] at h
      have hpool : int (s.factionResources.gold + gold) = s.factionResources.gold + gold :=
        int_eq_self h
      dsimp only
      rw [hpool]
  | some k =>
      rw [htarget] at h
      dsimp only
      refine congrArg (fun factions => { s with
        factionRegistry := { s.factionRegistry with factions := factions } })
        (List.ext_getElem? fun j => ?_)
      rw [List.getElem?_modify, List.getElem?_modify]
      cases hj : s.factionRegistry.factions[j]? with
      | none => rfl
      | some f =>
          refine congrArg some ?_
          dsimp only
          by_cases hkj : k = j
          · subst hkj
            have hgold : int (f.stockpile.gold + gold) = f.stockpile.gold + gold := by
              rw [GameState.goldIn, hj] at h
              exact int_eq_self h
            rw [if_pos rfl, if_pos rfl, hgold]
          · rw [if_neg hkj, if_neg hkj]

/-- Food that fits feeds a city as with integers. -/
theorem feed_eq (h : city.FoodFits s) {queue : My4X.BuildQueue} :
    feed (city.setBuildQueue queue) (city.yieldOf My4X.Resource.food s.buildings) =
      My4X.TurnResolver.feed (city.setBuildQueue queue)
        (city.yieldOf My4X.Resource.food s.buildings) := by
  have hadd : City.addFoodSurplus (city.setBuildQueue queue)
      (city.yieldOf My4X.Resource.food s.buildings) =
      (city.setBuildQueue queue).addFoodSurplus (city.yieldOf My4X.Resource.food s.buildings) := by
    refine congrArg (fun surplus => { city.setBuildQueue queue with foodSurplus := surplus }) ?_
    exact int_eq_self h.surplus
  have hthreshold : City.growthThreshold city.population =
      My4X.City.growthThreshold city.population := by
    rw [City.growthThreshold, int_eq_self h.product]
    exact int_eq_self h.threshold
  rw [feed, hadd, My4X.TurnResolver.feed]
  have hpopulation : ((city.setBuildQueue queue).addFoodSurplus
      (city.yieldOf My4X.Resource.food s.buildings)).population = city.population := rfl
  rw [hpopulation, hthreshold]
  split
  · next hdue =>
      rw [City.growPopulation, My4X.City.growPopulation, if_pos (by decide), if_pos (by decide)]
      rw [hpopulation, int_eq_self h.grown]
      refine congrArg (fun surplus => Except.ok { city.setBuildQueue queue with
        population := city.population + 1
        foodSurplus := surplus }) ?_
      exact int_eq_self (h.rest hdue)
  · rfl

/-- **The turn of a city that fits is the turn with integers.** -/
theorem resolveCity_eq (h : ∀ city, s.cities[i]? = some city → city.TurnFits s) :
    resolveCity unitRegistry s i = My4X.TurnResolver.resolveCity unitRegistry s i := by
  rw [resolveCity, My4X.TurnResolver.resolveCity]
  cases hcity : s.cities[i]? with
  | none => rfl
  | some city =>
      have hfits := h city hcity
      have hpart := fun (part : My4X.Resource → ℤ) (hzero : part {} = 0)
          (hadd : ∀ a b, part (a + b) = part a + part b) =>
        My4X.TurnResolver.yieldsFrom_yieldOf part hzero hadd city s.buildings
      have hgold : (My4X.TurnResolver.collectCityYields city s).gold =
          city.yieldOf My4X.Resource.gold s.buildings := hpart _ rfl fun _ _ => rfl
      have hproduction : (My4X.TurnResolver.collectCityYields city s).production =
          city.yieldOf My4X.Resource.production s.buildings := hpart _ rfl fun _ _ => rfl
      have hfood : (My4X.TurnResolver.collectCityYields city s).food =
          city.yieldOf My4X.Resource.food s.buildings := hpart _ rfl fun _ _ => rfl
      dsimp only
      rewrite [collectCityYields_eq hfits, hgold, hproduction, hfood,
        routeGoldToFaction_eq hfits.gold.paid, int_eq_self hfits.production.total,
        BuildQueue.applyProduction_eq hfits.production.spent, feed_eq hfits.food]
      rfl

/-- The turns of some cities that fit. -/
theorem resolveCitiesFrom_eq (is : List ℕ) : ∀ s : My4X.GameState,
    Runs.Along (cityStep unitRegistry)
      (fun s i => ∀ city, s.cities[i]? = some city → city.TurnFits s) s is →
    resolveCitiesFrom unitRegistry s is = My4X.TurnResolver.resolveCitiesFrom unitRegistry s
    is := by
  induction is with
  | nil => intro s _; rfl
  | cons i is ih =>
      rintro s ⟨hone, hrest⟩
      rw [resolveCitiesFrom, My4X.TurnResolver.resolveCitiesFrom, ← resolveCity_eq hone]
      cases hout : resolveCity unitRegistry s i with
      | mk s₁ thrown =>
          cases thrown with
          | some e => rfl
          | none => exact ih s₁ (hrest s₁ (cityStep_eq_some.2 hout))

end TurnResolver

/-! ### The turn that fits -/

/-- **Everything that is added up in a turn fits**: for every city in the state in which it takes
its turn, and the turn counter. -/
structure TurnFits (s : My4X.GameState) (unitRegistry : Option UnitTypeRegistry) : Prop where
  cities : Runs.Along (TurnResolver.cityStep unitRegistry)
    (fun s i => ∀ city, s.cities[i]? = some city → city.TurnFits s) s
    (List.range s.cities.length)
  turn : IsInt (s.turn + 1)

/-- **A turn that fits is the turn with integers.** -/
theorem resolveTurn_eq {s : My4X.GameState} {unitRegistry : Option UnitTypeRegistry}
    (h : TurnFits s unitRegistry) :
    resolveTurn s unitRegistry = My4X.resolveTurn s unitRegistry := by
  rw [resolveTurn, My4X.resolveTurn, TurnResolver.resolveCities, My4X.TurnResolver.resolveCities,
    TurnResolver.resolveCitiesFrom_eq _ s h.cities]
  have hturn : (My4X.TurnResolver.resolveCitiesFrom unitRegistry s
      (List.range s.cities.length)).1.turn = s.turn :=
    My4X.TurnResolver.resolveCitiesFrom_keeps (I := fun s₁ : My4X.GameState => s₁.turn = s.turn)
      (P := fun _ _ => True)
      (fun s₁ i (hs₁ : s₁.turn = s.turn) _ =>
        (My4X.TurnResolver.resolveCity_turn unitRegistry s₁ i).trans hs₁)
      _ s rfl (Runs.along_of_forall (fun _ _ => trivial) _ s)
  cases hout : My4X.TurnResolver.resolveCitiesFrom unitRegistry s (List.range s.cities.length) with
  | mk s₁ thrown =>
      rw [hout] at hturn
      cases thrown with
      | some e => rfl
      | none =>
          refine Prod.ext ?_ rfl
          refine congrArg (fun turn => { s₁ with
            units := s₁.units.mapUnits Unit.resetMovement
            turn := turn }) (int_eq_self ?_)
          rw [show s₁.turn = s.turn from hturn]
          exact h.turn

end Machine

end My4X
