/-
**Where the food of a city goes.**

The food that a city collects is added to its surplus, and when the surplus reaches the threshold of
its population the city grows by one and the threshold is taken off.  Over any number of turns the
food collected is the change of the surplus and the thresholds of all populations on the way.  A
turn can throw after a city has collected its food and before it is fed: then this food is lost.
The law is proved with integers first; a run of turns in which every sum fits is the same with
`int`s.

Main definitions:

* `My4X.TurnResolver.foodCollected` — the food that a city collects in a turn;
* `My4X.NoFoodLost`, `My4X.Machine.NoFoodLost` — the balance of the food over a run of turns, and
  when the city grows;
* `My4X.Feeds` — a turn feeds the city, or there is nothing to feed it.

Main results:

* `My4X.resolveTurn_fed` — **what a turn does to the food of a city**;
* `My4X.Machine.noFoodLost_iff` — **no food is lost exactly when every turn feeds the city or has
  nothing to feed it**.
-/

import My4X.IntTurns
import Mathlib.Algebra.Order.BigOperators.Group.LocallyFinite
import Mathlib.Data.Int.ConditionallyCompleteOrder
import Mathlib.Data.Int.Interval
import Mathlib.Data.Int.SuccPred

set_option relaxedAutoImplicit false
set_option autoImplicit false

namespace My4X

/-! ### One turn -/

namespace TurnResolver

/-- The turns of two lists of cities, one after the other. -/
theorem resolveCitiesFrom_append (unitRegistry : Option UnitTypeRegistry) (is js : List ℕ) :
    ∀ s : GameState, resolveCitiesFrom unitRegistry s (is ++ js) =
      match resolveCitiesFrom unitRegistry s is with
      | (s', some e) => (s', some e)
      | (s', none) => resolveCitiesFrom unitRegistry s' js := by
  induction is with
  | nil => intro s; rfl
  | cons i is ih =>
      intro s
      rw [List.cons_append, resolveCitiesFrom, resolveCitiesFrom]
      cases resolveCity unitRegistry s i with
      | mk s₁ thrown =>
          cases thrown with
          | some e => rfl
          | none => exact ih s₁

/-- The turns of other cities leave a city as it is. -/
theorem resolveCitiesFrom_others (unitRegistry : Option UnitTypeRegistry) {is : List ℕ} {i : ℕ}
    (hi : i ∉ is) :
    ∀ s : GameState, (resolveCitiesFrom unitRegistry s is).1.cities[i]? = s.cities[i]? := by
  induction is with
  | nil => intro s; rfl
  | cons j is ih =>
      intro s
      rw [List.mem_cons, not_or] at hi
      obtain ⟨hij, his⟩ := hi
      have hone : (resolveCity unitRegistry s j).1.cities[i]? = s.cities[i]? := by
        cases hcity : s.cities[j]? with
        | none => rw [resolveCity_of_none unitRegistry hcity]
        | some city =>
            obtain ⟨city', hcities, -⟩ := resolveCity_spec unitRegistry hcity
            rw [hcities, List.getElem?_set_ne (Ne.symm hij)]
      rw [resolveCitiesFrom]
      cases hout : resolveCity unitRegistry s j with
      | mk s₁ thrown =>
          rw [hout] at hone
          cases thrown with
          | some e => exact hone
          | none => exact (ih his s₁).trans hone

/-- A city whose turn throws is not fed. -/
theorem resolveCity_unfed (unitRegistry : Option UnitTypeRegistry) {s : GameState} {i : ℕ}
    {city : City} (hcity : s.cities[i]? = some city)
    (hthrows : (resolveCity unitRegistry s i).2 ≠ none) :
    ∃ queue, (resolveCity unitRegistry s i).1.cities =
      s.cities.set i (city.setBuildQueue queue) := by
  have h := paid_spec s i city
  rw [resolveCity_eq unitRegistry hcity] at hthrows ⊢
  cases hdue : dueOrder s city with
  | none => exact absurd (by rw [hdue]) hthrows
  | some item =>
      rw [hdue] at hthrows
      dsimp only at hthrows ⊢
      cases htype : item.orderType with
      | building =>
          rw [htype] at hthrows
          cases hmade : item.factory with
          | none => exact ⟨_, (h _).cities⟩
          | some factory =>
              rw [hmade] at hthrows
              exact absurd rfl hthrows
      | unit =>
          rw [htype] at hthrows
          dsimp only at hthrows ⊢
          split
          · exact ⟨_, (h _).cities⟩
          · next hdone =>
              rw [hdone] at hthrows
              exact absurd rfl hthrows

/-! ### What a city collects -/

/-- The state in which a city takes its turn, unless a city before it throws. -/
def stateAtTurn (unitRegistry : Option UnitTypeRegistry) (s : GameState) (i : ℕ) :
    Option GameState :=
  match resolveCitiesFrom unitRegistry s (List.range i) with
  | (s', none) => some s'
  | (_, some _) => none

/-- **The food that a city collects in a turn**: that of the buildings on its tiles in the state in
which it takes its turn. -/
def foodCollected (unitRegistry : Option UnitTypeRegistry) (s : GameState) (i : ℕ) : ℤ :=
  match stateAtTurn unitRegistry s i, s.cities[i]? with
  | some s', some city => city.yieldOf Resource.food s'.buildings
  | _, _ => 0

/-- Everything that falls due for the first cities can be completed. -/
def CompletesFirst (unitRegistry : Option UnitTypeRegistry) (s : GameState) (n : ℕ) : Prop :=
  ∀ x ∈ found s.cities s.buildings (List.range n), ∀ item,
    dueAt s.cities x.1 x.2 = some item → Completable unitRegistry item

/-- The food of the buildings that a city finds when the cities before it have placed theirs. -/
def foodFound (s : GameState) (i : ℕ) : ℤ :=
  s.cities[i]?.elim 0 fun city =>
    city.yieldOf Resource.food (s.buildings ++ built s.cities s.buildings (List.range i))

/-- The first cities complete their turns exactly when whatever falls due can be completed. -/
theorem resolveCitiesFrom_range_completes_iff (unitRegistry : Option UnitTypeRegistry)
    {s : GameState} {n : ℕ} (hn : n ≤ s.cities.length) :
    (resolveCitiesFrom unitRegistry s (List.range n)).2 = none ↔ CompletesFirst unitRegistry s n :=
  (resolveCitiesFrom_economy unitRegistry List.nodup_range s
    (fun _ hi => lt_of_lt_of_le (List.mem_range.1 hi) hn) s.buildings rfl).1

end TurnResolver

/-! ### What a turn does to the food of a city -/

/-- **Feeding a city**: when the food reaches the threshold, the city grows by one and the threshold
is taken off. -/
theorem City.fed_growth (city : City) (food : ℤ) :
    (city.fed food).population = city.population +
        (if City.growthThreshold city.population ≤ city.foodSurplus + food then 1 else 0) ∧
      (city.fed food).foodSurplus = city.foodSurplus + food -
        if City.growthThreshold city.population ≤ city.foodSurplus + food then
          City.growthThreshold city.population
        else 0 := by
  by_cases hdue : City.growthThreshold city.population ≤ city.foodSurplus + food
  · have hfed : city.fed food = { city.addFoodSurplus food with
        population := city.population + 1
        foodSurplus := city.foodSurplus + food - City.growthThreshold city.population } :=
      if_pos hdue
    rw [hfed, if_pos hdue, if_pos hdue]
    exact ⟨rfl, rfl⟩
  · have hfed : city.fed food = city.addFoodSurplus food := if_neg hdue
    rw [hfed, if_neg hdue, if_neg hdue]
    exact ⟨(Int.add_zero _).symm, (Int.sub_zero _).symm⟩

namespace GameState

/-- The population of the city at an index. -/
def populationAt (s : GameState) (i : ℕ) : ℤ := s.cities[i]?.elim 0 (·.population)

/-- The food surplus of the city at an index. -/
def foodAt (s : GameState) (i : ℕ) : ℤ := s.cities[i]?.elim 0 (·.foodSurplus)

/-- The city at an index has the same population and the same food. -/
structure Unfed (s s' : GameState) (i : ℕ) : Prop where
  population : s'.populationAt i = s.populationAt i
  food : s'.foodAt i = s.foodAt i

/-- The city at an index has been fed some food. -/
structure Fed (s s' : GameState) (i : ℕ) (food : ℤ) : Prop where
  population : s'.populationAt i = s.populationAt i +
    if City.growthThreshold (s.populationAt i) ≤ s.foodAt i + food then 1 else 0
  food : s'.foodAt i = s.foodAt i + food -
    if City.growthThreshold (s.populationAt i) ≤ s.foodAt i + food then
      City.growthThreshold (s.populationAt i)
    else 0

/-- The same city at the index is not fed. -/
theorem unfed_of_getElem? {s s' : GameState} {i : ℕ} (h : s'.cities[i]? = s.cities[i]?) :
    Unfed s s' i :=
  ⟨by rw [populationAt, populationAt, h], by rw [foodAt, foodAt, h]⟩

/-- A city after a turn with some yields is fed. -/
theorem fed_of_afterTurn {s s' : GameState} {i : ℕ} {city : City} {yields : Resource}
    (hcity : s.cities[i]? = some city) (hcity' : s'.cities[i]? = some (city.afterTurn yields)) :
    Fed s s' i yields.food := by
  have hfed := (city.setBuildQueue (city.buildQueue.spend
    (City.productionPerTurn + yields.production))).fed_growth yields.food
  constructor
  · rw [populationAt, populationAt, foodAt, hcity, hcity']
    exact hfed.1
  · rw [populationAt, foodAt, foodAt, hcity, hcity']
    exact hfed.2

end GameState

namespace TurnResolver

open GameState

/-- The state in which a city takes its turn has the city as it was, and the buildings that the
cities before it have placed. -/
theorem stateAtTurn_spec (unitRegistry : Option UnitTypeRegistry) {s : GameState} {i : ℕ}
    (hi : i ≤ s.cities.length) :
    (CompletesFirst unitRegistry s i → ∃ s₁,
      resolveCitiesFrom unitRegistry s (List.range i) = (s₁, none) ∧
      s₁.cities[i]? = s.cities[i]? ∧
      s₁.buildings = s.buildings ++
        numbered s.nextBuildingId (built s.cities s.buildings (List.range i))) ∧
    (¬ CompletesFirst unitRegistry s i → ∃ s₁ e,
      resolveCitiesFrom unitRegistry s (List.range i) = (s₁, some e) ∧
      s₁.cities[i]? = s.cities[i]?) := by
  have hcompletes := resolveCitiesFrom_range_completes_iff unitRegistry hi
  have hothers := resolveCitiesFrom_others unitRegistry (List.not_mem_range_self (n := i)) s
  have heconomy := (resolveCitiesFrom_economy unitRegistry List.nodup_range s
    (fun _ hj => lt_of_lt_of_le (List.mem_range.1 hj) hi) s.buildings rfl).2
  cases hout : resolveCitiesFrom unitRegistry s (List.range i) with
  | mk s₁ thrown =>
      rw [hout] at hcompletes hothers heconomy
      cases thrown with
      | some e =>
          refine ⟨fun h => ?_, fun _ => ⟨s₁, e, rfl, hothers⟩⟩
          cases hcompletes.2 h
      | none =>
          exact ⟨fun _ => ⟨s₁, rfl, hothers, (heconomy rfl).buildings⟩,
            fun h => absurd (hcompletes.1 rfl) h⟩

/-- **The food that a city collects** is that of the buildings it finds, unless a city before it
throws. -/
theorem foodCollected_eq (unitRegistry : Option UnitTypeRegistry) {s : GameState} {i : ℕ}
    (hi : i ≤ s.cities.length) :
    (CompletesFirst unitRegistry s i → foodCollected unitRegistry s i = foodFound s i) ∧
      (¬ CompletesFirst unitRegistry s i → foodCollected unitRegistry s i = 0) := by
  obtain ⟨hcompletes, hthrows⟩ := stateAtTurn_spec unitRegistry hi
  constructor
  · intro h
    obtain ⟨s₁, hout, -, hbuildings⟩ := hcompletes h
    rw [foodCollected, stateAtTurn, hout, foodFound]
    cases s.cities[i]? with
    | none => rfl
    | some city =>
        have hsource : s₁.buildings.map yieldSource =
            (s.buildings ++ built s.cities s.buildings (List.range i)).map yieldSource := by
          rw [hbuildings, List.map_append, numbered_map_yieldSource, List.map_append]
        have hfood := fun bs => yieldsFrom_yieldOf Resource.food rfl (fun _ _ => rfl) city bs
        exact (hfood s₁.buildings).symm.trans
          ((congrArg Resource.food (yieldsFrom_congr hsource)).trans (hfood _))
  · intro h
    obtain ⟨s₁, e, hout, -⟩ := hthrows h
    rw [foodCollected, stateAtTurn, hout]

/-- The turns of the cities up to one feed it when everything that falls due for them can be
completed, and leave its food alone otherwise. -/
theorem resolveCitiesFrom_fed (unitRegistry : Option UnitTypeRegistry) {s : GameState} {i : ℕ}
    (hi : i < s.cities.length) :
    (CompletesFirst unitRegistry s (i + 1) →
      (resolveCitiesFrom unitRegistry s (List.range (i + 1))).2 = none ∧
      Fed s (resolveCitiesFrom unitRegistry s (List.range (i + 1))).1 i
        (foodCollected unitRegistry s i)) ∧
    (¬ CompletesFirst unitRegistry s (i + 1) →
      (resolveCitiesFrom unitRegistry s (List.range (i + 1))).2 ≠ none ∧
      Unfed s (resolveCitiesFrom unitRegistry s (List.range (i + 1))).1 i) := by
  have hcompletes := resolveCitiesFrom_range_completes_iff unitRegistry (Nat.succ_le_of_lt hi)
  have hothers := resolveCitiesFrom_others unitRegistry (List.not_mem_range_self (n := i)) s
  have hcity : s.cities[i]? = some s.cities[i] := List.getElem?_eq_getElem hi
  rw [← hcompletes, List.range_succ, resolveCitiesFrom_append, foodCollected, stateAtTurn, hcity]
  rw [hcity] at hothers
  cases hout : resolveCitiesFrom unitRegistry s (List.range i) with
  | mk s₁ thrown =>
      rw [hout] at hothers
      cases thrown with
      | some e =>
          refine ⟨fun h => ?_, fun h => ⟨h, unfed_of_getElem? ?_⟩⟩
          · cases h
          · rw [hcity]
            exact hothers
      | none =>
          have hlt : i < s₁.cities.length := (List.getElem?_eq_some_iff.1 hothers).1
          have hfed := resolveCity_economy unitRegistry hothers
          have hunfed := resolveCity_unfed unitRegistry hothers
          dsimp only
          rw [resolveCitiesFrom]
          cases hone : resolveCity unitRegistry s₁ i with
          | mk s₂ thrown =>
              rw [hone] at hfed hunfed
              cases thrown with
              | some e =>
                  refine ⟨fun h => ?_, fun h => ⟨h, ?_⟩⟩
                  · cases h
                  obtain ⟨queue, hcities⟩ := hunfed (Option.some_ne_none e)
                  have hcity₂ : s₂.cities[i]? = some (s.cities[i].setBuildQueue queue) := by
                    rw [hcities, List.getElem?_set_self hlt]
                  constructor
                  · rw [populationAt, populationAt, hcity, hcity₂]
                    rfl
                  · rw [foodAt, foodAt, hcity, hcity₂]
                    rfl
              | none =>
                  refine ⟨fun h => ⟨h, ?_⟩, fun h => absurd rfl h⟩
                  have hcity₂ : s₂.cities[i]? = some
                      (s.cities[i].afterTurn (yieldsFrom s.cities[i] s₁.buildings)) := by
                    rw [(hfed rfl).cities, List.getElem?_set_self hlt]
                  have hfood := yieldsFrom_yieldOf Resource.food rfl (fun _ _ => rfl) s.cities[i]
                    s₁.buildings
                  rw [← hfood]
                  exact fed_of_afterTurn hcity hcity₂

end TurnResolver

open TurnResolver GameState

/-- **The end of a turn feeds a city exactly when everything that falls due for it and the cities
before it can be completed**, and leaves its food alone otherwise. -/
theorem resolveTurn_fed (unitRegistry : Option UnitTypeRegistry) {s : GameState} {i : ℕ}
    (hi : i < s.cities.length) :
    (CompletesFirst unitRegistry s (i + 1) →
      Fed s (resolveTurn s unitRegistry).1 i (foodCollected unitRegistry s i)) ∧
    (¬ CompletesFirst unitRegistry s (i + 1) → Unfed s (resolveTurn s unitRegistry).1 i) := by
  have hsplit : List.range s.cities.length =
      List.range (i + 1) ++ (List.range (s.cities.length - (i + 1))).map (i + 1 + ·) := by
    rw [← List.range_add, Nat.add_sub_cancel' (Nat.succ_le_of_lt hi)]
  have hcities : (resolveTurn s unitRegistry).1.cities =
      (resolveCitiesFrom unitRegistry s (List.range s.cities.length)).1.cities :=
    (resolveTurn_iff (I := fun s' => s'.cities =
      (resolveCitiesFrom unitRegistry s (List.range s.cities.length)).1.cities)
      (fun _ => Iff.rfl) s unitRegistry).2 rfl
  -- the cities after it leave the city as it is
  have hlater : (resolveTurn s unitRegistry).1.cities[i]? =
      (resolveCitiesFrom unitRegistry s (List.range (i + 1))).1.cities[i]? := by
    rw [hcities, hsplit, resolveCitiesFrom_append]
    split
    · next h => rw [h]
    · next s₁ h =>
        rw [h]
        refine resolveCitiesFrom_others unitRegistry (fun hmem => ?_) s₁
        obtain ⟨j, -, hj⟩ := List.mem_map.1 hmem
        omega
  have hpopulation : (resolveTurn s unitRegistry).1.populationAt i =
      (resolveCitiesFrom unitRegistry s (List.range (i + 1))).1.populationAt i := by
    rw [populationAt, populationAt, hlater]
  have hfood : (resolveTurn s unitRegistry).1.foodAt i =
      (resolveCitiesFrom unitRegistry s (List.range (i + 1))).1.foodAt i := by
    rw [foodAt, foodAt, hlater]
  obtain ⟨hfed, hunfed⟩ := resolveCitiesFrom_fed unitRegistry hi
  constructor
  · intro h
    obtain ⟨-, hfed⟩ := hfed h
    exact ⟨hpopulation.trans hfed.population, hfood.trans hfed.food⟩
  · intro h
    obtain ⟨-, hunfed⟩ := hunfed h
    exact ⟨hpopulation.trans hunfed.population, hfood.trans hunfed.food⟩

/-! ### The balance of the food -/

/-- **The food that a city has collected** is the change of its surplus and the thresholds of the
populations on the way. -/
def Balanced (s s' : GameState) (i : ℕ) (food : ℤ) : Prop :=
  food = s'.foodAt i - s.foodAt i +
    ∑ p ∈ Finset.Ico (s.populationAt i) (s'.populationAt i), City.growthThreshold p

/-- **When the city grows**: never below what it was, by at most one, and exactly when its surplus
with the food of the turn reaches the threshold. -/
structure GrowsWhenDue (s s' : GameState) (i : ℕ) (food : ℤ) : Prop where
  le : s.populationAt i ≤ s'.populationAt i
  le_succ : s'.populationAt i ≤ s.populationAt i + 1
  grows_iff : s.populationAt i < s'.populationAt i ↔
    City.growthThreshold (s.populationAt i) ≤ s.foodAt i + food

/-- **A turn feeds the city, or there is nothing to feed it**: everything that falls due for it and
the cities before it can be completed, or it finds no food and is not about to grow. -/
def Feeds (unitRegistry : Option UnitTypeRegistry) (s : GameState) (i : ℕ) : Prop :=
  CompletesFirst unitRegistry s (i + 1) ∨
    (CompletesFirst unitRegistry s i → foodFound s i = 0) ∧
      s.foodAt i < City.growthThreshold (s.populationAt i)

/-- No threshold is passed by a city that does not grow, and one by a city that grows by one. -/
theorem sum_thresholds_step (p : ℤ) (grows : Prop) [Decidable grows] :
    ∑ q ∈ Finset.Ico p (p + if grows then 1 else 0), City.growthThreshold q =
      if grows then City.growthThreshold p else 0 := by
  split
  · rw [← Finset.sum_Ico_add_eq_sum_Ico_add_one le_rfl, Finset.Ico_self, Finset.sum_empty, zero_add]
  · rw [add_zero, Finset.Ico_self, Finset.sum_empty]

/-- A city that is fed grows when it is due, and no food is lost. -/
theorem GameState.Fed.balanced {s s' : GameState} {i : ℕ} {food : ℤ} (h : Fed s s' i food) :
    Balanced s s' i food ∧ GrowsWhenDue s s' i food := by
  constructor
  · rw [Balanced, h.population, sum_thresholds_step, h.food]
    omega
  · have hpopulation := h.population
    by_cases hdue : City.growthThreshold (s.populationAt i) ≤ s.foodAt i + food
    · rw [if_pos hdue] at hpopulation
      exact ⟨by omega, by omega, ⟨fun _ => hdue, fun _ => by omega⟩⟩
    · rw [if_neg hdue] at hpopulation
      exact ⟨by omega, by omega, ⟨fun hlt => by omega, fun h => absurd h hdue⟩⟩

/-- A city that is not fed loses no food only if there is none, and grows when it is due only if it
is not due. -/
theorem GameState.Unfed.balanced_iff {s s' : GameState} {i : ℕ} {food : ℤ} (h : Unfed s s' i) :
    Balanced s s' i food ∧ GrowsWhenDue s s' i food ↔
      food = 0 ∧ s.foodAt i < City.growthThreshold (s.populationAt i) := by
  have hbalanced : Balanced s s' i food ↔ food = 0 := by
    rw [Balanced, h.population, h.food, Finset.Ico_self, Finset.sum_empty, sub_self, zero_add]
  rw [hbalanced]
  refine and_congr_right fun hfood => ?_
  have hpopulation := h.population
  constructor
  · intro hgrows
    have hiff := hgrows.grows_iff
    by_contra hdue
    have hlt := hiff.2 (by omega)
    omega
  · intro hdue
    exact ⟨by omega, by omega, ⟨fun hlt => by omega, fun h => by omega⟩⟩

/-- **In one turn** no food is lost and the city grows when it is due, exactly when the turn feeds
it or there is nothing to feed it. -/
theorem balanced_iff_feeds (unitRegistry : Option UnitTypeRegistry) {s : GameState} {i : ℕ}
    (hi : i < s.cities.length) :
    Balanced s (resolveTurn s unitRegistry).1 i (foodCollected unitRegistry s i) ∧
        GrowsWhenDue s (resolveTurn s unitRegistry).1 i (foodCollected unitRegistry s i) ↔
      Feeds unitRegistry s i := by
  obtain ⟨hfed, hunfed⟩ := resolveTurn_fed unitRegistry hi
  obtain ⟨hfound, hnone⟩ := foodCollected_eq unitRegistry hi.le
  by_cases hcompletes : CompletesFirst unitRegistry s (i + 1)
  · exact ⟨fun _ => Or.inl hcompletes, fun _ => (hfed hcompletes).balanced⟩
  · rw [(hunfed hcompletes).balanced_iff, Feeds, or_iff_right hcompletes]
    refine and_congr_left fun _ => ?_
    by_cases hbefore : CompletesFirst unitRegistry s i
    · rw [hfound hbefore]
      exact ⟨fun h _ => h, fun h => h hbefore⟩
    · exact ⟨fun _ h => absurd h hbefore, fun _ => hnone hbefore⟩

/-- The population of a city never decreases in a turn. -/
theorem resolveTurn_population_le (unitRegistry : Option UnitTypeRegistry) {s : GameState} {i : ℕ}
    (hi : i < s.cities.length) :
    s.populationAt i ≤ (resolveTurn s unitRegistry).1.populationAt i := by
  obtain ⟨hfed, hunfed⟩ := resolveTurn_fed unitRegistry hi
  by_cases hcompletes : CompletesFirst unitRegistry s (i + 1)
  · exact (hfed hcompletes).balanced.2.le
  · exact (hunfed hcompletes).population.ge

/-! ### Runs of turns -/

/-- The end of a turn as a step. -/
def turnStep (s : GameState) (unitRegistry : Option UnitTypeRegistry) : Option GameState :=
  some (resolveTurn s unitRegistry).1

/-- The state after some turns. -/
def afterTurns (s : GameState) : List (Option UnitTypeRegistry) → GameState
  | [] => s
  | unitRegistry :: turns => afterTurns (resolveTurn s unitRegistry).1 turns

/-- The food that a city collects over some turns. -/
def foodOver (i : ℕ) (s : GameState) : List (Option UnitTypeRegistry) → ℤ
  | [] => 0
  | unitRegistry :: turns =>
      foodCollected unitRegistry s i + foodOver i (resolveTurn s unitRegistry).1 turns

/-- **No food of a city is lost in a run of turns**: up to every turn the food collected is the
change of the surplus and the thresholds of the populations passed, and the city grows when it is
due. -/
structure NoFoodLost (i : ℕ) (s : GameState) (turns : List (Option UnitTypeRegistry)) : Prop where
  balance : ∀ n, Balanced s (afterTurns s (turns.take n)) i (foodOver i s (turns.take n))
  growth : Runs.Along turnStep
    (fun s unitRegistry => GrowsWhenDue s (resolveTurn s unitRegistry).1 i
      (foodCollected unitRegistry s i)) s turns

/-- The end of a turn keeps the number of cities. -/
theorem resolveTurn_cities_length (s : GameState) (unitRegistry : Option UnitTypeRegistry) :
    (resolveTurn s unitRegistry).1.cities.length = s.cities.length := by
  refine (resolveTurn_iff (I := fun s' => s'.cities.length = s.cities.length)
    (fun _ => Iff.rfl) s unitRegistry).2 ?_
  refine resolveCitiesFrom_keeps (I := fun s' => s'.cities.length = s.cities.length)
    (P := fun _ _ => True) (fun s₁ i h _ => ?_)
    (List.range s.cities.length) s rfl (Runs.along_of_forall (fun _ _ => trivial) _ s)
  cases hcity : s₁.cities[i]? with
  | none => rw [resolveCity_of_none unitRegistry hcity, h]
  | some city =>
      obtain ⟨city', hcities, -⟩ := resolveCity_spec unitRegistry hcity
      rw [hcities, List.length_set, h]

/-- The population of a city never decreases in a run of turns. -/
theorem afterTurns_population_le {i : ℕ} (turns : List (Option UnitTypeRegistry)) :
    ∀ s : GameState, i < s.cities.length →
      s.populationAt i ≤ (afterTurns s turns).populationAt i := by
  induction turns with
  | nil => intro s _; exact le_rfl
  | cons unitRegistry turns ih =>
      intro s hi
      refine (resolveTurn_population_le unitRegistry hi).trans (ih _ ?_)
      rw [resolveTurn_cities_length]
      exact hi

/-- **A turn, and the turns after it**: if no food is lost in the first, none is lost in all of them
exactly when none is lost in the others. -/
theorem balanced_trans_iff {s s₁ s₂ : GameState} {i : ℕ} (food food' : ℤ)
    (hle : s.populationAt i ≤ s₁.populationAt i) (hle' : s₁.populationAt i ≤ s₂.populationAt i)
    (h : Balanced s s₁ i food) : Balanced s s₂ i (food + food') ↔ Balanced s₁ s₂ i food' := by
  have hsplit : ∑ p ∈ Finset.Ico (s.populationAt i) (s₂.populationAt i), City.growthThreshold p =
      ∑ p ∈ Finset.Ico (s.populationAt i) (s₁.populationAt i), City.growthThreshold p +
        ∑ p ∈ Finset.Ico (s₁.populationAt i) (s₂.populationAt i), City.growthThreshold p := by
    rw [← Finset.Ico_union_Ico_eq_Ico hle hle',
      Finset.sum_union (Finset.Ico_disjoint_Ico_consecutive _ _ _)]
  rw [Balanced] at h
  rw [Balanced, Balanced, hsplit]
  omega

/-- **No food of a city is lost in a run of turns, and it grows when it is due, exactly when every
turn feeds it or there is nothing to feed it.** -/
theorem noFoodLost_iff_feeds (i : ℕ) (turns : List (Option UnitTypeRegistry)) :
    ∀ s : GameState, i < s.cities.length →
      (NoFoodLost i s turns ↔
        Runs.Along turnStep (fun s unitRegistry => Feeds unitRegistry s i) s turns) := by
  induction turns with
  | nil =>
      intro s _
      refine ⟨fun _ => trivial, fun _ => ⟨fun n => ?_, trivial⟩⟩
      rw [List.take_nil, afterTurns, foodOver, Balanced, Finset.Ico_self, Finset.sum_empty,
        sub_self,
        zero_add]
  | cons unitRegistry turns ih =>
      intro s hi
      have hi₁ : i < (resolveTurn s unitRegistry).1.cities.length := by
        rw [resolveTurn_cities_length]
        exact hi
      have hone := balanced_iff_feeds unitRegistry hi
      have hle := resolveTurn_population_le unitRegistry hi
      have hlater := fun n => balanced_trans_iff (foodCollected unitRegistry s i)
        (foodOver i (resolveTurn s unitRegistry).1 (turns.take n)) hle
        (afterTurns_population_le (turns.take n) _ hi₁)
      constructor
      · intro h
        have hfirst : Balanced s (resolveTurn s unitRegistry).1 i
          (foodCollected unitRegistry s i) := by
          have h1 := h.balance 1
          rwa [List.take_succ_cons, List.take_zero, afterTurns, foodOver, afterTurns, foodOver,
            add_zero] at h1
        refine ⟨hone.1 ⟨hfirst, h.growth.1⟩, fun s₁ hs₁ => ?_⟩
        obtain rfl := Option.some_inj.1 hs₁
        exact (ih _ hi₁).1 ⟨fun n => (hlater n hfirst).1 (h.balance (n + 1)), h.growth.2 _ rfl⟩
      · rintro ⟨hfeeds, hrest⟩
        obtain ⟨hfirst, hgrows⟩ := hone.2 hfeeds
        have hothers := (ih _ hi₁).2 (hrest _ rfl)
        refine ⟨fun n => ?_, hgrows, fun s₁ hs₁ => ?_⟩
        · cases n with
          | zero =>
              rw [List.take_zero, afterTurns, foodOver, Balanced, Finset.Ico_self, Finset.sum_empty,
                sub_self, zero_add]
          | succ n => exact (hlater n hfirst).2 (hothers.balance n)
        · obtain rfl := Option.some_inj.1 hs₁
          exact hothers.growth

/-! ### Runs of turns with `int`s -/

namespace Machine

namespace TurnResolver

/-- The state in which a city takes its turn, with `int`s, unless a city before it throws. -/
def stateAtTurn (unitRegistry : Option UnitTypeRegistry) (s : My4X.GameState) (i : ℕ) :
    Option My4X.GameState :=
  match resolveCitiesFrom unitRegistry s (List.range i) with
  | (s', none) => some s'
  | (_, some _) => none

/-- **The food that a city collects in a turn**, with `int`s: the yields of the buildings on its
tiles in the state in which it takes its turn. -/
def foodCollected (unitRegistry : Option UnitTypeRegistry) (s : My4X.GameState) (i : ℕ) : ℤ :=
  match stateAtTurn unitRegistry s i, s.cities[i]? with
  | some s', some city => (collectCityYields city s').food
  | _, _ => 0

end TurnResolver

/-- The end of a turn as a step, with `int`s. -/
def turnStep (s : My4X.GameState) (unitRegistry : Option UnitTypeRegistry) :
    Option My4X.GameState :=
  some (resolveTurn s unitRegistry).1

/-- The state after some turns, with `int`s. -/
def afterTurns (s : My4X.GameState) : List (Option UnitTypeRegistry) → My4X.GameState
  | [] => s
  | unitRegistry :: turns => afterTurns (resolveTurn s unitRegistry).1 turns

/-- The food that a city collects over some turns, with `int`s in every turn. -/
def foodOver (i : ℕ) (s : My4X.GameState) : List (Option UnitTypeRegistry) → ℤ
  | [] => 0
  | unitRegistry :: turns =>
      TurnResolver.foodCollected unitRegistry s i + foodOver i (resolveTurn s unitRegistry).1 turns

/-- **No food of a city is lost in a run of turns**, with `int`s: up to every turn the food
collected is the change of the surplus and the thresholds of the populations passed, and the city
grows when it is due. -/
structure NoFoodLost (i : ℕ) (s : My4X.GameState) (turns : List (Option UnitTypeRegistry)) :
    Prop where
  balance : ∀ n, Balanced s (afterTurns s (turns.take n)) i (foodOver i s (turns.take n))
  growth : Runs.Along turnStep
    (fun s unitRegistry => GrowsWhenDue s (resolveTurn s unitRegistry).1 i
      (TurnResolver.foodCollected unitRegistry s i)) s turns

variable {s : My4X.GameState} {unitRegistry : Option UnitTypeRegistry} {i : ℕ}

/-- The turns of some cities as a run. -/
theorem TurnResolver.run_cityStep {s' : My4X.GameState} (is : List ℕ) : ∀ s : My4X.GameState,
    Runs.run (TurnResolver.cityStep unitRegistry) s is = some s' ↔
      TurnResolver.resolveCitiesFrom unitRegistry s is = (s', none) := by
  induction is with
  | nil => intro s; exact ⟨fun h => by cases h; rfl, fun h => by cases h; rfl⟩
  | cons i is ih =>
      intro s
      rw [Runs.run_cons, TurnResolver.resolveCitiesFrom]
      cases hout : TurnResolver.resolveCity unitRegistry s i with
      | mk s₁ thrown =>
          cases thrown with
          | some e =>
              constructor
              · rintro ⟨s₂, hs₂, -⟩
                rw [TurnResolver.cityStep_eq_some, hout] at hs₂
                cases hs₂
              · intro h
                cases h
          | none =>
              dsimp only
              rw [← ih s₁]
              constructor
              · rintro ⟨s₂, hs₂, hrun⟩
                rw [TurnResolver.cityStep_eq_some, hout] at hs₂
                cases hs₂
                exact hrun
              · intro hrun
                exact ⟨s₁, TurnResolver.cityStep_eq_some.2 hout, hrun⟩

/-- In a turn that fits a city collects what it collects with integers. -/
theorem foodCollected_eq (hi : i < s.cities.length) (h : TurnFits s unitRegistry) :
    TurnResolver.foodCollected unitRegistry s i =
      My4X.TurnResolver.foodCollected unitRegistry s i := by
  have hsplit : List.range s.cities.length =
      List.range i ++ i :: (List.range (s.cities.length - (i + 1))).map (i + 1 + ·) := by
    have hone := List.range_add (n := i + 1) (m := s.cities.length - (i + 1))
    rw [Nat.add_sub_cancel' (Nat.succ_le_of_lt hi), List.range_succ, List.append_assoc] at hone
    exact hone
  have hfits := h.cities
  rw [hsplit, Runs.along_append] at hfits
  obtain ⟨hbefore, hrest⟩ := hfits
  have hothers := resolveCitiesFrom_others unitRegistry (List.not_mem_range_self (n := i)) s
  rw [TurnResolver.foodCollected, My4X.TurnResolver.foodCollected, TurnResolver.stateAtTurn,
    My4X.TurnResolver.stateAtTurn, ← TurnResolver.resolveCitiesFrom_eq _ s hbefore]
  rw [← TurnResolver.resolveCitiesFrom_eq _ s hbefore] at hothers
  cases hout : TurnResolver.resolveCitiesFrom unitRegistry s (List.range i) with
  | mk s₁ thrown =>
      rw [hout] at hothers
      cases thrown with
      | some e => rfl
      | none =>
          cases hcity : s.cities[i]? with
          | none => rfl
          | some city =>
              have hone := (hrest s₁ ((TurnResolver.run_cityStep _ s).2 hout)).1
              have hcityFits : city.TurnFits s₁ := hone city (hothers.trans hcity)
              exact TurnResolver.yieldsFrom_part rfl (fun _ _ => rfl) hcityFits.food.collected

/-- Turns that fit are turns with integers. -/
theorem afterTurns_eq (turns : List (Option UnitTypeRegistry)) : ∀ {s : My4X.GameState},
    i < s.cities.length → Runs.Along turnStep TurnFits s turns → ∀ n,
      afterTurns s (turns.take n) = My4X.afterTurns s (turns.take n) ∧
        foodOver i s (turns.take n) = My4X.foodOver i s (turns.take n) := by
  induction turns with
  | nil => intro s _ _ n; rw [List.take_nil]; exact ⟨rfl, rfl⟩
  | cons unitRegistry turns ih =>
      rintro s hi ⟨hfits, hrest⟩ n
      cases n with
      | zero => exact ⟨rfl, rfl⟩
      | succ n =>
          have hi₁ : i < (resolveTurn s unitRegistry).1.cities.length := by
            rw [resolveTurn_eq hfits, resolveTurn_cities_length]
            exact hi
          obtain ⟨hafter, hfood⟩ := ih hi₁ (hrest _ rfl) n
          rw [List.take_succ_cons, afterTurns, My4X.afterTurns, foodOver, My4X.foodOver,
            hafter, hfood,
            foodCollected_eq hi hfits, resolveTurn_eq hfits]
          exact ⟨rfl, rfl⟩

/-- In turns that fit, a city grows when it is due as with integers. -/
theorem growth_iff (turns : List (Option UnitTypeRegistry)) : ∀ {s : My4X.GameState},
    i < s.cities.length → Runs.Along turnStep TurnFits s turns →
      (Runs.Along turnStep (fun s unitRegistry => GrowsWhenDue s (resolveTurn s unitRegistry).1 i
          (TurnResolver.foodCollected unitRegistry s i)) s turns ↔
        Runs.Along turnStep
          (fun s unitRegistry => GrowsWhenDue s (My4X.resolveTurn s unitRegistry).1 i
          (My4X.TurnResolver.foodCollected unitRegistry s i)) s turns) := by
  intro s hi hfits
  refine Runs.along_congr_of_kept (I := fun s => i < s.cities.length) (D := TurnFits) ?_ ?_ turns s
    hi hfits
  · intro s unitRegistry hi hfits
    rw [resolveTurn_eq hfits, foodCollected_eq hi hfits]
  · intro s unitRegistry s' hi hfits _ hs'
    obtain rfl := Option.some_inj.1 hs'
    show i < (resolveTurn s unitRegistry).1.cities.length
    rw [resolveTurn_eq hfits, resolveTurn_cities_length]
    exact hi

/-- **In a run of turns that fit no food of a city is lost, and it grows when it is due, exactly
when every turn feeds it or there is nothing to feed it.** -/
theorem noFoodLost_iff (i : ℕ) (turns : List (Option UnitTypeRegistry)) (s : My4X.GameState)
    (hi : i < s.cities.length) (hfits : Runs.Along turnStep TurnFits s turns) :
    NoFoodLost i s turns ↔
      Runs.Along turnStep (fun s unitRegistry => Feeds unitRegistry s i) s turns := by
  have hstep : ∀ s unitRegistry, TurnFits s unitRegistry →
      turnStep s unitRegistry = My4X.turnStep s unitRegistry := by
    intro s unitRegistry hfits
    rw [turnStep, resolveTurn_eq hfits]
    rfl
  have hbalance := afterTurns_eq turns hi hfits
  have hgrowth := (growth_iff turns hi hfits).trans (Runs.along_step_congr hstep turns s hfits)
  rw [Runs.along_step_congr hstep turns s hfits, ← noFoodLost_iff_feeds i turns s hi]
  constructor
  · intro h
    refine ⟨fun n => ?_, hgrowth.1 h.growth⟩
    rw [← (hbalance n).1, ← (hbalance n).2]
    exact h.balance n
  · intro h
    refine ⟨fun n => ?_, hgrowth.2 h.growth⟩
    rw [(hbalance n).1, (hbalance n).2]
    exact h.balance n

/-- A city with a farm, which is about to pay for a unit of an unknown type. -/
def dragonTown : My4X.GameState :=
  { plainField with
    cities := [(City.create "Dragon Town" 1 1 1).setBuildQueue
      (({} : My4X.BuildQueue).enqueueUnit "Dragon" 5)]
    buildings := [makeFarm 1 1] }

/-- The city collects the food of its farm, and is not fed. -/
theorem dragonTown_loses_food :
    ∃ reg, UnitTypeRegistry.empty.registerDefaults = .ok reg ∧
      (resolveTurn dragonTown (some reg)).2 =
        .error (.outOfRange "UnitTemplate not found: Dragon") ∧
      foodOver 0 dragonTown [some reg] = 2 ∧
      (afterTurns dragonTown [some reg]).foodAt 0 = 0 ∧ dragonTown.foodAt 0 = 0 ∧
      ¬ NoFoodLost 0 dragonTown [some reg] := by
  have hpopulation : ∀ reg, UnitTypeRegistry.empty.registerDefaults = .ok reg →
      (afterTurns dragonTown [some reg]).populationAt 0 = dragonTown.populationAt 0 ∧
        foodOver 0 dragonTown [some reg] = 2 ∧
        (afterTurns dragonTown [some reg]).foodAt 0 = 0 := by
    intro reg hreg
    obtain rfl := Except.ok.inj hreg
    exact ⟨rfl, rfl, rfl⟩
  refine ⟨_, rfl, rfl, rfl, rfl, rfl, fun h => ?_⟩
  have hbalance := h.balance 1
  obtain ⟨hpop, hcollected, hfood⟩ := hpopulation _ rfl
  rw [List.take_succ_cons, List.take_zero, Balanced, hpop, hcollected, hfood, Finset.Ico_self,
    Finset.sum_empty] at hbalance
  cases hbalance

/-- In two turns, the first of which throws. -/
theorem dragonTown_noFoodLost_iff :
    ∃ reg, UnitTypeRegistry.empty.registerDefaults = .ok reg ∧
      (NoFoodLost 0 dragonTown [some reg, none] ↔
        Runs.Along turnStep (fun s unitRegistry => Feeds unitRegistry s 0) dragonTown
          [some reg, none]) := by
  refine ⟨_, rfl, noFoodLost_iff 0 _ dragonTown (by decide) ⟨⟨⟨?_, fun _ hs => ?_⟩, by decide⟩,
    fun s hs => ?_⟩⟩
  · intro city hcity
    obtain rfl := Option.some_inj.1 hcity
    exact ⟨by decide, by decide, by decide⟩
  · exact trivial
  · obtain rfl := Option.some_inj.1 hs
    refine ⟨⟨⟨?_, fun _ _ => trivial⟩, by decide⟩, fun _ _ => trivial⟩
    intro city hcity
    obtain rfl := Option.some_inj.1 hcity
    exact ⟨by decide, by decide, by decide⟩

end Machine

end My4X
