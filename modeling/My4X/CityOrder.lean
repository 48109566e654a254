/-
**The order of the cities.**

A city that completes a building adds it to the list that the cities after it collect their yields
from, in the same turn: what a city gets can depend on its place in the list of cities.  A turn of
reordered cities is the turn of the cities in another order, and every city finds what the ones
before it have placed; so the order makes no difference exactly when no building that falls due
makes one to another city.

Main definitions:

* `My4X.GameState.reorder` — the state with its cities in another order;
* `My4X.GameState.OrderIndifferent` — every order gives the same turn;
* `My4X.GameState.Untangled` — what falls due makes no difference to other cities.

Main results:

* `My4X.TurnResolver.resolveCitiesFrom_reorder` — reordering the cities is having their turns in
  another order;
* `My4X.orderIndifferent_iff` — **the order of the cities does not matter exactly when the state is
  untangled**.
-/

import My4X.CityEconomy

set_option relaxedAutoImplicit false
set_option autoImplicit false

namespace My4X

/-! ### What tells two turns of a city apart -/

namespace BuildQueue

variable {q : BuildQueue} {a b : ℤ}

theorem spend_of_nil (h : q.queue = []) : q.spend a = q := by
  have hdue : q.due? a = none := by rw [due?, h]
  rw [spend_of_none hdue, save, h]

/-- An order that leaves a queue makes it shorter. -/
theorem cancel_ne_save {item : BuildQueueItem} (h : q.due? a = some item) :
    q.cancel ≠ q.save b := by
  intro hsame
  have hlength := congrArg (fun q : BuildQueue => q.queue.length) hsame
  rw [save_queue, (cancel_of_due h).1, List.length_cons] at hlength
  omega

/-- **The queue shows whether an order was due.** -/
theorem due?_eq_of_spend (h : q.spend a = q.spend b) : q.due? a = q.due? b := by
  cases ha : q.due? a with
  | none =>
      cases hb : q.due? b with
      | none => rfl
      | some item =>
          rw [spend_of_none ha, spend_of_some hb] at h
          exact absurd h.symm (cancel_ne_save hb)
  | some item =>
      cases hb : q.due? b with
      | none =>
          rw [spend_of_some ha, spend_of_none hb] at h
          exact absurd h (cancel_ne_save ha)
      | some item' =>
          -- both are the front order
          have hfront := (cancel_of_due ha).1.symm.trans (cancel_of_due hb).1
          rw [(List.cons.inj hfront).1]

/-- Two amounts do the same to a queue exactly when the queue is empty, or its front order is due
with both, or they are equal. -/
theorem spend_eq_iff :
    q.spend a = q.spend b ↔
      q.queue = [] ∨ a = b ∨ ((q.due? a).isSome = true ∧ (q.due? b).isSome = true) := by
  constructor
  · intro h
    have hdue := due?_eq_of_spend h
    cases hq : q.queue with
    | nil => exact Or.inl rfl
    | cons item rest =>
        refine Or.inr ?_
        cases ha : q.due? a with
        | some item' => exact Or.inr ⟨rfl, by rw [← hdue, ha]; rfl⟩
        | none =>
            rw [spend_of_none ha, spend_of_none (hdue.symm.trans ha), save, save, hq] at h
            have hsaved := congrArg BuildQueue.accumulated h
            exact Or.inl (by simpa using hsaved)
  · rintro (hq | rfl | ⟨ha, hb⟩)
    · rw [spend_of_nil hq, spend_of_nil hq]
    · rfl
    · obtain ⟨_, ha⟩ := Option.isSome_iff_exists.1 ha
      obtain ⟨_, hb⟩ := Option.isSome_iff_exists.1 hb
      rw [spend_of_some ha, spend_of_some hb]

/-- The front order is due with an amount when there is one and the amount pays for it. -/
theorem due?_isSome_iff {item : BuildQueueItem} {rest : List BuildQueueItem}
    (hq : q.queue = item :: rest) :
    (q.due? a).isSome = true ↔ item.productionCost ≤ q.accumulated + a := by
  rw [due?, hq]
  dsimp only
  split
  · next h => exact ⟨fun _ => h, fun _ => rfl⟩
  · next h =>
      refine ⟨fun hsome => ?_, fun hle => absurd hle h⟩
      cases hsome

/-- **Additional amounts make no difference to a queue**, whichever of them come in, exactly when
the queue is empty, or there are none, or its front order is due even when all that is taken away
is. -/
theorem spend_steady_iff {ι : Type} {others : List ι} (hnodup : others.Nodup) (gain : ι → ℤ) :
    (∀ before : List ι, before.Nodup → before ⊆ others →
        q.spend (a + (before.map gain).sum) = q.spend a) ↔
      q.queue = [] ∨ (∀ k ∈ others, gain k = 0) ∨
        ∃ item rest, q.queue = item :: rest ∧
          item.productionCost ≤ q.accumulated + a + (others.map fun k => min 0 (gain k)).sum := by
  cases hq : q.queue with
  | nil =>
      refine ⟨fun _ => Or.inl rfl, fun _ before _ _ => ?_⟩
      rw [spend_of_nil hq, spend_of_nil hq]
  | cons item rest =>
      have hne : q.queue ≠ [] := by rw [hq]; exact List.cons_ne_nil _ _
      have hleast := Rounds.forall_le_sum_iff hnodup gain (item.productionCost - q.accumulated - a)
      constructor
      · intro h
        refine Or.inr ?_
        by_cases hdue : (q.due? a).isSome = true
        · refine Or.inr ⟨item, rest, rfl, ?_⟩
          have hpaid : ∀ before : List ι, before.Nodup → before ⊆ others →
              item.productionCost - q.accumulated - a ≤ (before.map gain).sum := by
            intro before hbefore hsub
            have hstill := due?_eq_of_spend (h before hbefore hsub)
            rw [← hstill, due?_isSome_iff hq] at hdue
            omega
          have := hleast.1 hpaid
          omega
        · refine Or.inl fun k hk => ?_
          rcases spend_eq_iff.1 (h [k] (List.nodup_singleton k)
            (List.cons_subset.2 ⟨hk, List.nil_subset others⟩)) with hnil | hsame | ⟨-, hsome⟩
          · exact absurd hnil hne
          · simpa using hsame
          · exact absurd hsome hdue
      · rintro (hnil | hzero | ⟨item', rest', hcons, hleast'⟩) before hbefore hsub
        · cases hnil
        · rw [(Rounds.forall_sum_eq_zero_iff gain).2 hzero before hbefore hsub, Int.add_zero]
        · obtain ⟨rfl, rfl⟩ := List.cons.inj hcons
          have hpaid := hleast.2 (by omega) before hbefore hsub
          have hown := hleast.2 (by omega) [] List.nodup_nil (List.nil_subset others)
          rw [List.map_nil, List.sum_nil] at hown
          refine spend_eq_iff.2 (Or.inr (Or.inr ⟨?_, ?_⟩))
          · rw [due?_isSome_iff hq]
            omega
          · rw [due?_isSome_iff hq]
            omega

end BuildQueue

namespace City

/-- The part of a city that its turn changes: its food, its population and its queue. -/
def economy (city : City) : ℤ × ℤ × BuildQueue :=
  (city.foodSurplus, city.population, city.buildQueue)

theorem fed_economy (city : City) (food : ℤ) :
    (city.fed food).economy =
      if growthThreshold city.population ≤ city.foodSurplus + food then
        (city.foodSurplus + food - growthThreshold city.population, city.population + 1,
          city.buildQueue)
      else (city.foodSurplus + food, city.population, city.buildQueue) := by
  rw [City.fed]
  exact apply_ite City.economy _ _ _

/-- **Two turns of a city differ exactly when its queue or the food differs.** -/
theorem afterTurn_economy_eq_iff {city : City} {yields yields' : Resource} :
    (city.afterTurn yields).economy = (city.afterTurn yields').economy ↔
      city.buildQueue.spend (productionPerTurn + yields.production) =
          city.buildQueue.spend (productionPerTurn + yields'.production) ∧
        yields.food = yields'.food := by
  rw [afterTurn, afterTurn, fed_economy, fed_economy]
  constructor
  · intro h
    split at h
    · split at h
      · simp only [setBuildQueue, Prod.mk.injEq] at h
        exact ⟨h.2.2, by omega⟩
      · simp only [setBuildQueue, Prod.mk.injEq] at h
        omega
    · split at h
      · simp only [setBuildQueue, Prod.mk.injEq] at h
        omega
      · simp only [setBuildQueue, Prod.mk.injEq] at h
        exact ⟨h.2.2, by omega⟩
  · rintro ⟨hqueue, hfood⟩
    rw [hqueue, hfood]

end City

/-! ### Reordered cities -/

/-- **The state with its cities in another order**, given by their indices. -/
def GameState.reorder (s : GameState) (is : List ℕ) : GameState :=
  { s with cities := is.filterMap (s.cities[·]?) }

namespace TurnResolver

open GameState

variable {s : GameState} {is : List ℕ} {k i : ℕ}

theorem reorder_cities_getElem? (hlt : ∀ i ∈ is, i < s.cities.length) (hk : is[k]? = some i) :
    (s.reorder is).cities[k]? = s.cities[i]? := by
  rw [reorder, getElem?_filterMap_getElem? hlt, hk]
  rfl

/-- Changing a city and changing it at its new place. -/
theorem setCity_reorder (hnodup : is.Nodup) (hlt : ∀ i ∈ is, i < s.cities.length)
    (hk : is[k]? = some i) (city : City) :
    (s.setCity i city).reorder is = (s.reorder is).setCity k city := by
  have hlt' : ∀ j ∈ is, j < (s.cities.set i city).length := by
    intro j hj
    rw [List.length_set]
    exact hlt j hj
  have hcities : is.filterMap ((s.cities.set i city)[·]?) =
      (is.filterMap (s.cities[·]?)).set k city := by
    refine List.ext_getElem? fun l => ?_
    rw [getElem?_filterMap_getElem? hlt', List.getElem?_set, getElem?_filterMap_getElem? hlt]
    by_cases hkl : k = l
    · subst hkl
      have hi : i < s.cities.length := hlt i (List.mem_of_getElem? hk)
      have hlength : (is.filterMap (s.cities[·]?))[k]? = some s.cities[i] := by
        rw [getElem?_filterMap_getElem? hlt, hk]
        exact List.getElem?_eq_getElem hi
      rw [if_pos rfl, if_pos (List.getElem?_eq_some_iff.1 hlength).1, hk]
      exact List.getElem?_set_self hi
    · rw [if_neg hkl]
      cases hl : is[l]? with
      | none => rfl
      | some j =>
          refine List.getElem?_set_ne fun hij => hkl ?_
          rw [← hij] at hl
          exact (List.getElem?_inj (List.getElem?_eq_some_iff.1 hk).1 hnodup).1 (hk.trans hl.symm)
  rw [setCity, setCity, reorder, reorder, hcities]

theorem routeGoldToFaction_reorder (factionId : Int32) (gold : ℤ) :
    routeGoldToFaction (s.reorder is) factionId gold =
      (routeGoldToFaction s factionId gold).reorder is := by
  rw [routeGoldToFaction, routeGoldToFaction]
  dsimp only
  cases htarget : if 0 < factionId then
      s.factionRegistry.factions.findIdx? fun f => f.id = factionId.toUInt32
    else none with
  | none =>
      rw [show (s.reorder is).factionRegistry = s.factionRegistry from rfl, htarget]
      rfl
  | some i =>
      rw [show (s.reorder is).factionRegistry = s.factionRegistry from rfl, htarget]
      rfl

theorem handleCompletedProduction_reorder (city : City) (result : BuildQueueResult)
    (unitRegistry : Option UnitTypeRegistry) :
    handleCompletedProduction (s.reorder is) city result unitRegistry =
      (handleCompletedProduction s city result unitRegistry).map (·.reorder is) := by
  cases result with
  | building b => rfl
  | unitSpawn templateKey =>
      cases unitRegistry with
      | none => rfl
      | some reg =>
          rw [handleCompletedProduction, handleCompletedProduction, spawnCompletedUnit,
            spawnCompletedUnit]
          cases reg.getTemplate templateKey with
          | error e => rfl
          | ok tmpl => rfl

theorem addBuilding_reorder (building : Building) :
    ((s.reorder is).addBuilding building).1 = (s.addBuilding building).1.reorder is := rfl

/-- **The turn of a city is the same wherever the city stands in the list.** -/
theorem resolveCity_reorder (unitRegistry : Option UnitTypeRegistry) (hnodup : is.Nodup)
    (hlt : ∀ i ∈ is, i < s.cities.length) (hk : is[k]? = some i) :
    resolveCity unitRegistry (s.reorder is) k =
      ((resolveCity unitRegistry s i).1.reorder is, (resolveCity unitRegistry s i).2) := by
  have hi : i < s.cities.length := hlt i (List.mem_of_getElem? hk)
  have hcity : s.cities[i]? = some s.cities[i] := List.getElem?_eq_getElem hi
  have hcity' := (reorder_cities_getElem? hlt hk).trans hcity
  have hset : ∀ s' : GameState, s'.cities.length = s.cities.length → ∀ city,
      (s'.reorder is).setCity k city = (s'.setCity i city).reorder is := by
    intro s' hlength city
    refine (setCity_reorder hnodup (fun j hj => ?_) hk city).symm
    rw [hlength]
    exact hlt j hj
  have hpaid : ∀ queue, paid (s.reorder is) k s.cities[i] queue =
      (paid s i s.cities[i] queue).reorder is := by
    intro queue
    obtain ⟨registry, resources, hpay⟩ :=
      routeGoldToFaction_eq s s.cities[i].factionId (collectCityYields s.cities[i] s).gold
    rw [paid, paid, show collectCityYields s.cities[i] (s.reorder is) =
      collectCityYields s.cities[i] s from rfl, routeGoldToFaction_reorder]
    exact hset _ (by rw [hpay]) _
  have hlength : ∀ queue, (paid s i s.cities[i] queue).cities.length = s.cities.length := by
    intro queue
    rw [(paid_spec s i s.cities[i] queue).cities, List.length_set]
  have hfed : ∀ queue, fed (s.reorder is) s.cities[i] queue = fed s s.cities[i] queue :=
    fun _ => rfl
  rw [resolveCity_eq unitRegistry hcity, resolveCity_eq unitRegistry hcity',
    show dueOrder (s.reorder is) s.cities[i] = dueOrder s s.cities[i] from rfl,
    show cityProduction (s.reorder is) s.cities[i] = cityProduction s s.cities[i] from rfl]
  simp only [hpaid, hfed, handleCompletedProduction_reorder]
  cases dueOrder s s.cities[i] with
  | none => exact Prod.ext (hset _ (hlength _) _) rfl
  | some item =>
      dsimp only
      cases item.orderType with
      | building =>
          cases item.factory with
          | none => rfl
          | some factory =>
              dsimp only
              rw [addBuilding_reorder, hset]
              exact hlength _
      | unit =>
          dsimp only
          cases hplaced : handleCompletedProduction
            (paid s i s.cities[i] s.cities[i].buildQueue.cancel)
              (s.cities[i].setBuildQueue s.cities[i].buildQueue.cancel)
              (.unitSpawn item.templateKey)
              unitRegistry with
          | error e => rfl
          | ok s' =>
              refine Prod.ext (hset _ ?_ _) rfl
              rw [(handleCompletedProduction_keeps hplaced).1, hlength]

/-- The cities from some place on have their turns in the order in which they were put. -/
theorem resolveCitiesFrom_reorder (unitRegistry : Option UnitTypeRegistry) (hnodup : is.Nodup) :
    ∀ (n k : ℕ) (s : GameState), (∀ i ∈ is, i < s.cities.length) → k + n = is.length →
      resolveCitiesFrom unitRegistry (s.reorder is) (List.range' k n) =
        ((resolveCitiesFrom unitRegistry s (is.drop k)).1.reorder is,
          (resolveCitiesFrom unitRegistry s (is.drop k)).2) := by
  intro n
  induction n with
  | zero =>
      intro k s _ hk
      rw [List.drop_of_length_le (by omega)]
      rfl
  | succ n ih =>
      intro k s hlt hk
      have hlk : k < is.length := by omega
      have hget : is[k]? = some is[k] := List.getElem?_eq_getElem hlk
      obtain ⟨city', hcities, -⟩ := resolveCity_spec unitRegistry
        (List.getElem?_eq_getElem (hlt _ (List.getElem_mem hlk)))
      have hlt' : ∀ i ∈ is, i < (resolveCity unitRegistry s is[k]).1.cities.length := by
        rw [hcities, List.length_set]
        exact hlt
      have hlater := ih (k + 1) (resolveCity unitRegistry s is[k]).1 hlt' (by omega)
      rw [List.range'_succ, List.drop_eq_getElem_cons hlk, resolveCitiesFrom, resolveCitiesFrom,
        resolveCity_reorder unitRegistry hnodup hlt hget]
      cases hout : resolveCity unitRegistry s is[k] with
      | mk s₁ thrown =>
          rw [hout] at hlater
          cases thrown with
          | some e => rfl
          | none => exact hlater

/-- **Reordering the cities is having their turns in another order.** -/
theorem resolveCities_reorder (unitRegistry : Option UnitTypeRegistry) (s : GameState) {is : List ℕ}
    (his : is.Perm (List.range s.cities.length)) :
    resolveCities (s.reorder is) unitRegistry =
      ((resolveCitiesFrom unitRegistry s is).1.reorder is,
        (resolveCitiesFrom unitRegistry s is).2) := by
  have hlt : ∀ i ∈ is, i < s.cities.length := fun i hi => List.mem_range.1 (his.subset hi)
  have hlength : (s.reorder is).cities.length = is.length := by
    have hall : ∀ js : List ℕ, (∀ i ∈ js, i < s.cities.length) →
        (js.filterMap (s.cities[·]?)).length = js.length := by
      intro js hjs
      induction js with
      | nil => rfl
      | cons j js ih =>
          rw [List.filterMap_cons_some (List.getElem?_eq_getElem (hjs j List.mem_cons_self)),
            List.length_cons, List.length_cons, ih fun i hi => hjs i (List.mem_cons_of_mem _ hi)]
    exact hall is hlt
  rw [resolveCities, hlength, List.range_eq_range',
    resolveCitiesFrom_reorder unitRegistry (his.nodup_iff.2 List.nodup_range) _ 0 s hlt (by omega)]
  rfl

/-! ### What the order can change -/

/-- What the turn makes of the city at an index, with some buildings. -/
def outcomeAt (cities : List City) (i : ℕ) (pool : List Building) : Option (ℤ × ℤ × BuildQueue) :=
  cities[i]?.map fun city => (city.afterTurn (yieldsFrom city pool)).economy

/-- **What is due shows in what becomes of a city.** -/
theorem dueAt_eq_of_outcome {cities : List City} {i : ℕ} {p q : List Building}
    (h : outcomeAt cities i p = outcomeAt cities i q) : dueAt cities i p = dueAt cities i q := by
  rw [outcomeAt, outcomeAt] at h
  rw [dueAt, dueAt]
  cases hcity : cities[i]? with
  | none => rfl
  | some city =>
      rw [hcity] at h
      exact BuildQueue.due?_eq_of_spend (City.afterTurn_economy_eq_iff.1 (Option.some_inj.1 h)).1

theorem placedAt_eq_of_outcome (cities : List City) (i : ℕ) (p q : List Building)
    (h : outcomeAt cities i p = outcomeAt cities i q) :
    placedAt cities i p = placedAt cities i q := by
  rw [placedAt, placedAt, dueAt_eq_of_outcome h]

end TurnResolver

/-- A building but for its identifier. -/
def Building.anonymous (b : Building) : Building := { b with id := 0 }

namespace TurnResolver

theorem numbered_map_anonymous (next : BuildingId) (bs : List Building) :
    (numbered next bs).map Building.anonymous = bs.map Building.anonymous := by
  induction bs generalizing next with
  | nil => rfl
  | cons b bs ih => rw [numbered, List.map_cons, List.map_cons, ih]; rfl

theorem numbered_anonymous (next : BuildingId) (bs : List Building) :
    numbered next (bs.map Building.anonymous) = numbered next bs := by
  induction bs generalizing next with
  | nil => rfl
  | cons b bs ih => rw [List.map_cons, numbered, numbered, ih]; rfl

/-- Buildings under the same identifiers are equal exactly when they are but for the identifiers. -/
theorem numbered_eq_iff {next : BuildingId} {bs bs' : List Building} :
    numbered next bs = numbered next bs' ↔
      bs.map Building.anonymous = bs'.map Building.anonymous := by
  constructor
  · intro h
    rw [← numbered_map_anonymous next bs, h, numbered_map_anonymous]
  · intro h
    rw [← numbered_anonymous next bs, h, numbered_anonymous]

end TurnResolver

namespace GameState

open TurnResolver

/-- **Two turns come to the same**, one of some cities and one of the cities in another order: every
city has the same food, population and queue, every account the same gold, and the same buildings
are new, up to their identifiers and their order. -/
structure SameTurn (s : GameState) (is : List ℕ) (s₁ s₂ : GameState) : Prop where
  cities : ∀ k i : ℕ, is[k]? = some i →
    s₂.cities[k]?.map City.economy = s₁.cities[i]?.map City.economy
  goldIn : ∀ account, s₂.goldIn account = s₁.goldIn account
  buildings : ((s₂.buildings.drop s.buildings.length).map Building.anonymous).Perm
    ((s₁.buildings.drop s.buildings.length).map Building.anonymous)

/-- **Every order of the cities gives the same turn.** -/
def OrderIndifferent (unitRegistry : Option UnitTypeRegistry) (s : GameState) : Prop :=
  ∀ is : List ℕ, is.Perm (List.range s.cities.length) → ∃ s₁ intents₁ s₂ intents₂,
    resolveTurn s unitRegistry = (s₁, .ok intents₁) ∧
      resolveTurn (s.reorder is) unitRegistry = (s₂, .ok intents₂) ∧ s.SameTurn is s₁ s₂

/-- What the city at an index would gain in its turn from the building that falls due at another
index. -/
def gainFrom (s : GameState) (i k : ℕ) : Resource :=
  s.cities[i]?.elim {} fun city => yieldsFrom city (placedAt s.cities k s.buildings)

/-- The indices of the other cities. -/
def otherCities (s : GameState) (i : ℕ) : List ℕ :=
  (List.range s.cities.length).filter (· ≠ i)

/-- **What falls due makes no difference to other cities.**  A building that falls due gives no food
to another city, and no production, unless the other city has nothing to produce or its front order
is paid for anyway, however much the buildings of other cities take away; and two cities gain the
same gold from each other's buildings, which is none when they pay into different accounts. -/
structure Untangled (unitRegistry : Option UnitTypeRegistry) (s : GameState) : Prop where
  completable : ∀ i item, dueAt s.cities i s.buildings = some item → Completable unitRegistry item
  food : ∀ i k, i ≠ k → (s.gainFrom i k).food = 0
  production : ∀ i city, s.cities[i]? = some city →
    city.buildQueue.queue = [] ∨ (∀ k, i ≠ k → (s.gainFrom i k).production = 0) ∨
      ∃ item rest, city.buildQueue.queue = item :: rest ∧
        item.productionCost ≤ city.buildQueue.accumulated +
          (City.productionPerTurn + (yieldsFrom city s.buildings).production) +
          ((s.otherCities i).map fun k => min 0 (s.gainFrom i k).production).sum
  gold : ∀ i k cityᵢ cityₖ, i ≠ k → s.cities[i]? = some cityᵢ → s.cities[k]? = some cityₖ →
    if cityᵢ.account s.factionIds = cityₖ.account s.factionIds then
      (s.gainFrom i k).gold = (s.gainFrom k i).gold
    else (s.gainFrom i k).gold = 0 ∧ (s.gainFrom k i).gold = 0

theorem mem_otherCities {s : GameState} {i k : ℕ} :
    k ∈ s.otherCities i ↔ k < s.cities.length ∧ i ≠ k := by
  rw [otherCities, List.mem_filter, List.mem_range, decide_eq_true_iff, ne_comm]

theorem otherCities_nodup (s : GameState) (i : ℕ) : (s.otherCities i).Nodup :=
  List.nodup_range.filter _

/-- There is nothing to gain from a city that is not there. -/
theorem gainFrom_of_le {s : GameState} {i k : ℕ} (hk : s.cities.length ≤ k) :
    s.gainFrom i k = {} := by
  have hnone : placedAt s.cities k s.buildings = [] := by
    rw [placedAt, List.getElem?_eq_none hk]
    rfl
  rw [gainFrom, hnone]
  cases s.cities[i]? with
  | none => rfl
  | some city => rfl

theorem forall_otherCities_iff {s : GameState} {i : ℕ} (φ : Resource → ℤ) (hzero : φ {} = 0) :
    (∀ k ∈ s.otherCities i, φ (s.gainFrom i k) = 0) ↔ ∀ k, i ≠ k → φ (s.gainFrom i k) = 0 := by
  constructor
  · intro h k hik
    by_cases hk : k < s.cities.length
    · exact h k (mem_otherCities.2 ⟨hk, hik⟩)
    · rw [gainFrom_of_le (by omega)]
      exact hzero
  · exact fun h k hk => h k (mem_otherCities.1 hk).2

/-- **The buildings that fall due make no difference to a city**, whichever of them it finds,
exactly when they give it no food and make no difference to its queue. -/
theorem outcomeAt_steady_iff {s : GameState} {i : ℕ} {city : City}
    (hcity : s.cities[i]? = some city) :
    (∀ before : List ℕ, before.Nodup → before ⊆ s.otherCities i →
        outcomeAt s.cities i
            (s.buildings ++ before.flatMap fun k => placedAt s.cities k s.buildings) =
          outcomeAt s.cities i s.buildings) ↔
      (∀ k, i ≠ k → (s.gainFrom i k).food = 0) ∧
        (city.buildQueue.queue = [] ∨ (∀ k, i ≠ k → (s.gainFrom i k).production = 0) ∨
          ∃ item rest, city.buildQueue.queue = item :: rest ∧
            item.productionCost ≤ city.buildQueue.accumulated +
              (City.productionPerTurn + (yieldsFrom city s.buildings).production) +
              ((s.otherCities i).map fun k => min 0 (s.gainFrom i k).production).sum) := by
  have hgain : ∀ k, s.gainFrom i k = yieldsFrom city (placedAt s.cities k s.buildings) := by
    intro k
    rw [gainFrom, hcity]
    rfl
  have houtcome : ∀ before : List ℕ,
      outcomeAt s.cities i
            (s.buildings ++ before.flatMap fun k => placedAt s.cities k s.buildings) =
          outcomeAt s.cities i s.buildings ↔
        city.buildQueue.spend (City.productionPerTurn + (yieldsFrom city s.buildings).production +
            (before.map fun k => (s.gainFrom i k).production).sum) =
          city.buildQueue.spend (City.productionPerTurn +
            (yieldsFrom city s.buildings).production) ∧
        (before.map fun k => (s.gainFrom i k).food).sum = 0 := by
    intro before
    have hproduction := yieldsFrom_append_flatMap Resource.production rfl (fun _ _ => rfl)
      city s.buildings before fun k => placedAt s.cities k s.buildings
    have hfood := yieldsFrom_append_flatMap Resource.food rfl (fun _ _ => rfl)
      city s.buildings before fun k => placedAt s.cities k s.buildings
    rw [outcomeAt, outcomeAt, hcity, Option.map_some, Option.map_some, Option.some_inj,
      City.afterTurn_economy_eq_iff, hproduction, hfood, Int.add_assoc]
    simp only [hgain]
    refine and_congr_right fun _ => ?_
    constructor
    · intro h
      omega
    · intro h
      omega
  simp only [houtcome]
  rw [← forall_otherCities_iff Resource.food rfl,
    ← forall_otherCities_iff Resource.production rfl, ← Rounds.forall_sum_eq_zero_iff,
    ← BuildQueue.spend_steady_iff (s.otherCities_nodup i)]
  constructor
  · intro h
    exact ⟨fun before hnodup hsub => (h before hnodup hsub).2,
      fun before hnodup hsub => (h before hnodup hsub).1⟩
  · intro h before hnodup hsub
    exact ⟨h.2 before hnodup hsub, h.1 before hnodup hsub⟩

/-! ### The turn of reordered cities -/

variable {unitRegistry : Option UnitTypeRegistry} {s : GameState}

theorem resolveTurn_reorder_ok {is : List ℕ} (his : is.Perm (List.range s.cities.length))
    {s₂ : GameState} :
    (∃ intents, resolveTurn (s.reorder is) unitRegistry = (s₂, .ok intents)) ↔
      ∃ t, resolveCitiesFrom unitRegistry s is = (t, none) ∧ s₂ = (t.reorder is).closeTurn := by
  rw [resolveTurn_eq, resolveCities_reorder unitRegistry s his]
  cases resolveCitiesFrom unitRegistry s is with
  | mk t thrown =>
      cases thrown with
      | some e => simp
      | none => simp [eq_comm]

theorem resolveTurn_ok {s₁ : GameState} :
    (∃ intents, resolveTurn s unitRegistry = (s₁, .ok intents)) ↔
      ∃ t, resolveCitiesFrom unitRegistry s (List.range s.cities.length) = (t, none) ∧
        s₁ = t.closeTurn := by
  rw [resolveTurn_eq, resolveCities]
  cases resolveCitiesFrom unitRegistry s (List.range s.cities.length) with
  | mk t thrown =>
      cases thrown with
      | some e => simp
      | none => simp [eq_comm]

/-- What has become of a city tells what it found. -/
theorem economy_of_visit {js : List ℕ} {t : GameState} (ht : Economy s s.buildings js t)
    {x : ℕ × List Building} (hx : x ∈ found s.cities s.buildings js) :
    t.cities[x.1]?.map City.economy = outcomeAt s.cities x.1 x.2 := by
  rw [outcomeAt]
  cases hcity : s.cities[x.1]? with
  | none =>
      rw [List.getElem?_eq_none_iff, ← ht.length] at hcity
      rw [List.getElem?_eq_none hcity]
      rfl
  | some city =>
      rw [ht.visited x hx city hcity]
      rfl

/-- The buildings that are new after a turn are those that were built. -/
theorem newBuildings_anonymous {js : List ℕ} {t : GameState} (ht : Economy s s.buildings js t) :
    (t.buildings.drop s.buildings.length).map Building.anonymous =
      (built s.cities s.buildings js).map Building.anonymous := by
  rw [ht.buildings, List.drop_left, numbered_map_anonymous]

/-- **The cities come to the same exactly when every city finds what makes the same of it.** -/
theorem sameCities_iff {is : List ℕ} (his : is.Perm (List.range s.cities.length))
    {t₁ t₂ : GameState}
    (h₁ : Economy s s.buildings (List.range s.cities.length) t₁)
    (h₂ : Economy s s.buildings is t₂) :
    (∀ k i : ℕ, is[k]? = some i →
      (t₂.reorder is).cities[k]?.map City.economy = t₁.cities[i]?.map City.economy) ↔
      ∀ x ∈ found s.cities s.buildings is,
        ∀ y ∈ found s.cities s.buildings (List.range s.cities.length), x.1 = y.1 →
          outcomeAt s.cities x.1 x.2 = outcomeAt s.cities y.1 y.2 := by
  have hlt : ∀ i ∈ is, i < s.cities.length := fun i hi => List.mem_range.1 (his.subset hi)
  have hlt₂ : ∀ i ∈ is, i < t₂.cities.length := by
    rw [h₂.length]
    exact hlt
  constructor
  · intro h x hx y hy hxy
    obtain ⟨k, hk⟩ := List.mem_iff_getElem?.1 (Rounds.mem_of_mem_visits hx)
    have hsame := h k x.1 hk
    rw [reorder_cities_getElem? hlt₂ hk, economy_of_visit h₂ hx, hxy,
      economy_of_visit h₁ hy] at hsame
    rw [hxy]
    exact hsame
  · intro h k i hk
    have hi := List.mem_of_getElem? hk
    obtain ⟨p, hp⟩ := Rounds.exists_visit (placedAt s.cities) s.buildings hi
    obtain ⟨q, hq⟩ := Rounds.exists_visit (placedAt s.cities) s.buildings
      (List.mem_range.2 (hlt i hi))
    rw [reorder_cities_getElem? hlt₂ hk, economy_of_visit h₂ hp, economy_of_visit h₁ hq]
    exact h _ hp _ hq rfl

/-- **Two turns come to the same exactly when every city finds what makes the same of it, every
account is paid the same and the same is built.** -/
theorem sameTurn_iff {is : List ℕ} (his : is.Perm (List.range s.cities.length)) {t₁ t₂ : GameState}
    (h₁ : Economy s s.buildings (List.range s.cities.length) t₁)
    (h₂ : Economy s s.buildings is t₂) :
    s.SameTurn is t₁.closeTurn (t₂.reorder is).closeTurn ↔
      (∀ x ∈ found s.cities s.buildings is,
        ∀ y ∈ found s.cities s.buildings (List.range s.cities.length), x.1 = y.1 →
          outcomeAt s.cities x.1 x.2 = outcomeAt s.cities y.1 y.2) ∧
      (∀ account, Rounds.collected (goldTo s.cities s.factionIds account)
          (found s.cities s.buildings is) =
        Rounds.collected (goldTo s.cities s.factionIds account)
          (found s.cities s.buildings (List.range s.cities.length))) ∧
      ((built s.cities s.buildings is).map Building.anonymous).Perm
        ((built s.cities s.buildings (List.range s.cities.length)).map Building.anonymous) := by
  have hgold : ∀ account, t₂.goldIn account = t₁.goldIn account ↔
      Rounds.collected (goldTo s.cities s.factionIds account) (found s.cities s.buildings is) =
        Rounds.collected (goldTo s.cities s.factionIds account)
          (found s.cities s.buildings (List.range s.cities.length)) := by
    intro account
    rw [h₂.goldIn, h₁.goldIn]
    exact add_right_inj _
  rw [← sameCities_iff his h₁ h₂, ← newBuildings_anonymous h₁, ← newBuildings_anonymous h₂]
  simp only [← hgold]
  exact ⟨fun h => ⟨h.cities, h.goldIn, h.buildings⟩, fun h => ⟨h.1, h.2.1, h.2.2⟩⟩

/-! ### Untangled states -/

/-- The order does not matter to the cities exactly when the buildings that fall due give no food to
other cities and make no difference to their queues. -/
theorem orderFree_iff (s : GameState) :
    Rounds.OrderFree (placedAt s.cities) (outcomeAt s.cities) s.buildings
        (List.range s.cities.length) ↔
      ∀ i city, s.cities[i]? = some city → (∀ k, i ≠ k → (s.gainFrom i k).food = 0) ∧
        (city.buildQueue.queue = [] ∨ (∀ k, i ≠ k → (s.gainFrom i k).production = 0) ∨
          ∃ item rest, city.buildQueue.queue = item :: rest ∧
            item.productionCost ≤ city.buildQueue.accumulated +
              (City.productionPerTurn + (yieldsFrom city s.buildings).production) +
              ((s.otherCities i).map fun k => min 0 (s.gainFrom i k).production).sum) := by
  rw [Rounds.orderFree_iff (placedAt_eq_of_outcome s.cities) List.nodup_range]
  constructor
  · intro h i city hcity
    have hi : i < s.cities.length := (List.getElem?_eq_some_iff.1 hcity).1
    refine (outcomeAt_steady_iff hcity).1 fun before hbefore hsub => ?_
    exact h i (List.mem_range.2 hi) before hbefore
      (fun k hk => List.mem_range.2 (mem_otherCities.1 (hsub hk)).1)
      fun hmem => (mem_otherCities.1 (hsub hmem)).2 rfl
  · intro h i hi before hbefore hsub hnot
    have hlt : i < s.cities.length := List.mem_range.1 hi
    have hcity : s.cities[i]? = some s.cities[i] := List.getElem?_eq_getElem hlt
    refine (outcomeAt_steady_iff hcity).2 (h i _ hcity) before hbefore fun k hk => ?_
    refine mem_otherCities.2 ⟨List.mem_range.1 (hsub hk), ?_⟩
    rintro rfl
    exact hnot hk

/-- Two cities are worth the same gold to each other, account by account, exactly when they gain the
same from each other, which is none when they pay into different accounts. -/
theorem worth_goldTo_eq_iff {i k : ℕ} {cityᵢ cityₖ : City} (hi : s.cities[i]? = some cityᵢ)
    (hk : s.cities[k]? = some cityₖ) :
    (∀ account, Rounds.worth (goldTo s.cities s.factionIds account) i
          (placedAt s.cities k s.buildings) =
        Rounds.worth (goldTo s.cities s.factionIds account) k (placedAt s.cities i s.buildings)) ↔
      if cityᵢ.account s.factionIds = cityₖ.account s.factionIds then
        (s.gainFrom i k).gold = (s.gainFrom k i).gold
      else (s.gainFrom i k).gold = 0 ∧ (s.gainFrom k i).gold = 0 := by
  have hgainᵢ : s.gainFrom i k = yieldsFrom cityᵢ (placedAt s.cities k s.buildings) := by
    rw [gainFrom, hi]
    rfl
  have hgainₖ : s.gainFrom k i = yieldsFrom cityₖ (placedAt s.cities i s.buildings) := by
    rw [gainFrom, hk]
    rfl
  simp only [worth_goldTo hi, worth_goldTo hk, ← hgainᵢ, ← hgainₖ]
  split
  · next hsame =>
      rw [hsame]
      constructor
      · intro h
        simpa using h (cityₖ.account s.factionIds)
      · intro h account
        rw [h]
  · next hother =>
      constructor
      · intro h
        have hᵢ := h (cityᵢ.account s.factionIds)
        have hₖ := h (cityₖ.account s.factionIds)
        rw [if_pos rfl, if_neg (Ne.symm hother)] at hᵢ
        rw [if_neg hother, if_pos rfl] at hₖ
        exact ⟨hᵢ, hₖ.symm⟩
      · rintro ⟨hᵢ, hₖ⟩ account
        rw [hᵢ, hₖ, ite_self, ite_self]

/-- The cities, put in any order, keep the books when nothing is thrown, which is so exactly when
every order that falls due completes. -/
theorem resolveCitiesFrom_perm {is : List ℕ} (his : is.Perm (List.range s.cities.length)) :
    ((resolveCitiesFrom unitRegistry s is).2 = none ↔
        ∀ x ∈ found s.cities s.buildings is, ∀ item, dueAt s.cities x.1 x.2 = some item →
          Completable unitRegistry item) ∧
      ((resolveCitiesFrom unitRegistry s is).2 = none →
        Economy s s.buildings is (resolveCitiesFrom unitRegistry s is).1) :=
  resolveCitiesFrom_economy unitRegistry (his.nodup_iff.2 List.nodup_range) s
    (fun _ hi => List.mem_range.1 (his.subset hi)) s.buildings rfl

/-- Where the order does not matter, every order completes and gives the same as the order of the
list. -/
theorem OrderIndifferent.everyOrder (h : s.OrderIndifferent unitRegistry) {is : List ℕ}
    (his : is.Perm (List.range s.cities.length)) :
    (∀ x ∈ found s.cities s.buildings is, ∀ item, dueAt s.cities x.1 x.2 = some item →
      Completable unitRegistry item) ∧
    (∀ x ∈ found s.cities s.buildings is,
      ∀ y ∈ found s.cities s.buildings (List.range s.cities.length), x.1 = y.1 →
        outcomeAt s.cities x.1 x.2 = outcomeAt s.cities y.1 y.2) ∧
    (∀ account, Rounds.collected (goldTo s.cities s.factionIds account)
        (found s.cities s.buildings is) =
      Rounds.collected (goldTo s.cities s.factionIds account)
        (found s.cities s.buildings (List.range s.cities.length))) := by
  obtain ⟨s₁, intents₁, s₂, intents₂, h₁, h₂, hsame⟩ := h is his
  obtain ⟨t₁, ht₁, rfl⟩ := resolveTurn_ok.1 ⟨intents₁, h₁⟩
  obtain ⟨t₂, ht₂, rfl⟩ := (resolveTurn_reorder_ok his).1 ⟨intents₂, h₂⟩
  have he₁ := (resolveCitiesFrom_perm (List.Perm.refl _)).2 (by rw [ht₁])
  have he₂ := (resolveCitiesFrom_perm his).2 (by rw [ht₂])
  rw [ht₁] at he₁
  rw [ht₂] at he₂
  obtain ⟨hcities, hgold, -⟩ := (sameTurn_iff his he₁ he₂).1 hsame
  exact ⟨(resolveCitiesFrom_perm his).1.1 (by rw [ht₂]), hcities, hgold⟩

/-- Where the order does not matter, it does not matter to the cities. -/
theorem OrderIndifferent.orderFree (h : s.OrderIndifferent unitRegistry) :
    Rounds.OrderFree (placedAt s.cities) (outcomeAt s.cities) s.buildings
      (List.range s.cities.length) := by
  intro is his is' his' x hx y hy hxy
  obtain ⟨p, hp⟩ := Rounds.exists_visit (placedAt s.cities) s.buildings
    (his.subset (Rounds.mem_of_mem_visits hx))
  rw [(h.everyOrder his).2.1 x hx _ hp rfl, (h.everyOrder his').2.1 y hy _ hp hxy.symm]

/-- In an untangled state the cities, put in any order, throw nothing and keep the books. -/
theorem Untangled.completes (h : s.Untangled unitRegistry)
    (hfree : Rounds.OrderFree (placedAt s.cities) (outcomeAt s.cities) s.buildings
      (List.range s.cities.length)) {is : List ℕ}
    (his : is.Perm (List.range s.cities.length)) :
    ∃ t, resolveCitiesFrom unitRegistry s is = (t, none) ∧ Economy s s.buildings is t := by
  have hnone := (resolveCitiesFrom_perm his).1.2 fun x hx item hdue => by
    rw [dueAt_eq_of_outcome (hfree.result_eq his hx)] at hdue
    exact h.completable x.1 item hdue
  exact ⟨_, Prod.ext rfl hnone, (resolveCitiesFrom_perm his).2 hnone⟩

/-- **The order of the cities does not matter exactly when the state is untangled.** -/
theorem orderIndifferent_iff (unitRegistry : Option UnitTypeRegistry) (s : GameState) :
    s.OrderIndifferent unitRegistry ↔ s.Untangled unitRegistry := by
  have hleaves := placedAt_eq_of_outcome s.cities
  constructor
  · intro h
    have hfree := h.orderFree
    refine ⟨?_, fun i k hik => ?_, fun i city hcity => ((orderFree_iff s).1 hfree i city hcity).2,
      ?_⟩
    · intro i item hdue
      obtain ⟨city, hcity, -⟩ := Option.bind_eq_some_iff.1 hdue
      -- the city comes first in some order
      obtain ⟨rest, hrest⟩ := Rounds.exists_perm_append List.nodup_nil
        (List.nil_subset (List.range s.cities.length))
        (List.mem_range.2 (List.getElem?_eq_some_iff.1 hcity).1) List.not_mem_nil
      exact (h.everyOrder hrest).1 (i, s.buildings) List.mem_cons_self item hdue
    · cases hcity : s.cities[i]? with
      | none =>
          rw [gainFrom, hcity]
          rfl
      | some city => exact ((orderFree_iff s).1 hfree i city hcity).1 k hik
    · intro i k cityᵢ cityₖ hik hi hk
      refine (worth_goldTo_eq_iff hi hk).1 fun account => ?_
      refine (Rounds.collected_orderFree_iff (goldTo s.cities s.factionIds account)
        (fun k => placedAt s.cities k s.buildings) s.buildings).1 (fun is his => ?_) i
        (List.mem_range.2 (List.getElem?_eq_some_iff.1 hi).1) k
        (List.mem_range.2 (List.getElem?_eq_some_iff.1 hk).1) hik
      have hgold := (h.everyOrder his).2.2 account
      rwa [found, found, hfree.visits_eq hleaves his,
        hfree.visits_eq hleaves (List.Perm.refl _)] at hgold
  · intro h is his
    have hfree := (orderFree_iff s).2 fun i city hcity =>
      ⟨fun k hik => h.food i k hik, h.production i city hcity⟩
    obtain ⟨t₁, ht₁, he₁⟩ := h.completes hfree (List.Perm.refl _)
    obtain ⟨t₂, ht₂, he₂⟩ := h.completes hfree his
    obtain ⟨intents₁, h₁⟩ := resolveTurn_ok.2 ⟨t₁, ht₁, rfl⟩
    obtain ⟨intents₂, h₂⟩ := (resolveTurn_reorder_ok his).2 ⟨t₂, ht₂, rfl⟩
    refine ⟨_, intents₁, _, intents₂, h₁, h₂, (sameTurn_iff his he₁ he₂).2 ⟨?_, ?_, ?_⟩⟩
    · exact fun x hx y hy hxy => hfree is his _ (List.Perm.refl _) x hx y hy hxy
    · intro account
      rw [found, found, hfree.visits_eq hleaves his, hfree.visits_eq hleaves (List.Perm.refl _)]
      refine (Rounds.collected_orderFree_iff _ _ _).2 (fun i hi k hk hik => ?_) is his
      exact (worth_goldTo_eq_iff (List.getElem?_eq_getElem (List.mem_range.1 hi))
        (List.getElem?_eq_getElem (List.mem_range.1 hk))).2 (h.gold i k _ _ hik
          (List.getElem?_eq_getElem (List.mem_range.1 hi))
          (List.getElem?_eq_getElem (List.mem_range.1 hk))) account
    · rw [built, built, hfree.left_eq hleaves his, hfree.left_eq hleaves (List.Perm.refl _)]
      exact (his.flatMap_right _).map _

end GameState

/-- Two cities of one faction; the market that the first one completes in this turn stands in the
second one. -/
def marketTowns : GameState :=
  let builder := (City.create "Builder" 0 0 1).setBuildQueue
    ((({} : BuildQueue).enqueue makeMarket 2 2).setAccumulatedProduction 25)
  let registered : GameState :=
    { plainField with factionRegistry := (({} : FactionRegistry).addFaction "Player" .player 0).1 }
  ((registered.addCity builder).1.addCity (City.create "Market" 2 2 1)).1

/-- The faction earns the market's gold in this turn, or nothing when the cities change places. -/
theorem marketTowns_order_matters : ¬ marketTowns.OrderIndifferent none := by
  intro h
  obtain ⟨s₁, intents₁, s₂, intents₂, h₁, h₂, hsame⟩ := h [1, 0] (List.Perm.swap 0 1 [])
  have hfirst : (resolveTurn marketTowns none).1.goldIn (some 0) = 3 := rfl
  have hlast : (resolveTurn (marketTowns.reorder [1, 0]) none).1.goldIn (some 0) = 0 := rfl
  have hgold := hsame.goldIn (some 0)
  rw [h₁] at hfirst
  rw [h₂] at hlast
  rw [hlast, hfirst] at hgold
  cases hgold

end My4X
