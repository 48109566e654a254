/-
**Where the gold of a turn goes.**

In its turn a city collects the gold of the buildings that share a tile with it, each building once
however many tiles they share, and pays it into one account: the stockpile of the first registered
faction with the identifier of its owner, or the common account when the owner is not positive or is
not registered.  A turn that throws has collected for the cities up to the one that throws.  The
gold is counted with `int`s: an account that overflows has less gold than before.

Main definitions:

* `My4X.Machine.TurnResolver.goldShares` — the cities that take their turns, with the gold they
  collect;
* `My4X.GameState.Credited` — the accounts have gained some shares, and nothing else;
* `My4X.Machine.GoldFits` — the gold of every city fits, and so do the accounts.

Main results:

* `My4X.Machine.TurnResolver.resolveCity_credited` — the turn of a city;
* `My4X.Machine.resolveTurn_credited` — **the end of a turn credits every share to one account**.
-/

import My4X.IntTurns

set_option relaxedAutoImplicit false
set_option autoImplicit false

namespace My4X

/-! ### Shares -/

namespace Machine.TurnResolver

/-- **The cities that take their turns, with the gold they collect**: each in the state of its turn,
up to the first one that throws. -/
def goldShares (unitRegistry : Option UnitTypeRegistry) :
    My4X.GameState → List ℕ → List (My4X.City × ℤ)
  | _, [] => []
  | s, i :: is =>
      match s.cities[i]? with
      | none => goldShares unitRegistry s is
      | some city =>
          (city, city.yieldOf Resource.gold s.buildings) ::
            match resolveCity unitRegistry s i with
            | (_, some _) => []
            | (s', none) => goldShares unitRegistry s' is

end Machine.TurnResolver

/-- The shares of an account. -/
def credit (factionIds : List FactionId) (account : Option ℕ) (shares : List (City × ℤ)) : ℤ :=
  ((shares.filter fun share => share.1.account factionIds = account).map Prod.snd).sum

theorem credit_append (factionIds : List FactionId) (account : Option ℕ)
    (shares shares' : List (City × ℤ)) :
    credit factionIds account (shares ++ shares') =
      credit factionIds account shares + credit factionIds account shares' := by
  rw [credit, List.filter_append, List.map_append, List.sum_append]
  rfl

/-- Some more gold. -/
def Resource.addGold (r : Resource) (gold : ℤ) : Resource := { r with gold := r.gold + gold }

theorem Resource.addGold_zero (r : Resource) : r.addGold 0 = r :=
  congrArg (fun gold => { r with gold }) (Int.add_zero r.gold)

theorem Resource.addGold_addGold (r : Resource) (gold gold' : ℤ) :
    (r.addGold gold).addGold gold' = r.addGold (gold + gold') :=
  congrArg (fun gold => { r with gold }) (Int.add_assoc r.gold gold gold')

/-- A faction with some more gold in its stockpile. -/
def Faction.addGold (gold : ℤ) (f : Faction) : Faction :=
  { f with stockpile := f.stockpile.addGold gold }

theorem Faction.addGold_zero (f : Faction) : f.addGold 0 = f := by
  rw [addGold, Resource.addGold_zero]

namespace GameState

/-- The gold in all stockpiles and in the common account. -/
def totalGold (s : GameState) : ℤ :=
  (s.factionRegistry.factions.map fun f => f.stockpile.gold).sum + s.factionResources.gold

/-- **The accounts have gained some shares**: each stockpile and the common account the shares that
go to it, in gold alone, and all of them together the shares. -/
structure Credited (s s' : GameState) (shares : List (City × ℤ)) : Prop where
  stockpiles : ∀ k, s'.factionRegistry.factions[k]? =
    (s.factionRegistry.factions[k]?).map (Faction.addGold (credit s.factionIds (some k) shares))
  pool : s'.factionResources = s.factionResources.addGold (credit s.factionIds none shares)
  total : s'.totalGold = s.totalGold + (shares.map Prod.snd).sum

/-- No share, and the same accounts. -/
theorem credited_nil {s s' : GameState} (hfactions : s'.factionRegistry = s.factionRegistry)
    (hpool : s'.factionResources = s.factionResources) : s.Credited s' [] where
  stockpiles k := by
    rw [hfactions]
    cases s.factionRegistry.factions[k]? with
    | none => rfl
    | some f => exact congrArg some f.addGold_zero.symm
  pool := by
    rw [hpool]
    exact s.factionResources.addGold_zero.symm
  total := by
    rw [totalGold, hfactions, hpool]
    exact (Int.add_zero _).symm

/-- The accounts belong to the same factions. -/
theorem Credited.factionIds {s s' : GameState} {shares : List (City × ℤ)}
    (h : s.Credited s' shares) : s'.factionIds = s.factionIds := by
  refine List.ext_getElem? fun k => ?_
  rw [GameState.factionIds, GameState.factionIds, List.getElem?_map, List.getElem?_map,
    h.stockpiles,
    Option.map_map]
  rfl

theorem Credited.trans {s s' s'' : GameState} {shares shares' : List (City × ℤ)}
    (h : s.Credited s' shares) (h' : s'.Credited s'' shares') :
    s.Credited s'' (shares ++ shares') where
  stockpiles k := by
    rw [h'.stockpiles, h.stockpiles, h.factionIds, Option.map_map, credit_append]
    cases s.factionRegistry.factions[k]? with
    | none => rfl
    | some f => simp only [Option.map_some, Function.comp_apply, Faction.addGold,
        Resource.addGold_addGold]
  pool := by
    rw [h'.pool, h.pool, h.factionIds, credit_append, Resource.addGold_addGold]
  total := by
    rw [h'.total, h.total, List.map_append, List.sum_append, Int.add_assoc]

end GameState

/-! ### The turn of a city -/

theorem credit_singleton (factionIds : List FactionId) (account : Option ℕ) (city : City)
    (gold : ℤ) :
    credit factionIds account [(city, gold)] =
      if city.account factionIds = account then gold else 0 := by
  rw [credit]
  split
  · next h => rw [List.filter_cons_of_pos (by simpa using h)]; exact Int.add_zero gold
  · next h => rw [List.filter_cons_of_neg (by simpa using h)]; rfl

/-- A sum in which one element has grown. -/
theorem sum_map_modify {α : Type} {φ : α → ℤ} {f : α → α} {gain : ℤ}
    (hf : ∀ x, φ (f x) = φ x + gain) {l : List α} {i : ℕ} (hi : i < l.length) :
    ((l.modify i f).map φ).sum = (l.map φ).sum + gain := by
  induction l generalizing i with
  | nil => cases hi
  | cons x l ih =>
      cases i with
      | zero =>
          rw [List.modify_zero_cons, List.map_cons, List.map_cons, List.sum_cons, List.sum_cons, hf]
          omega
      | succ i =>
          rw [List.modify_succ_cons, List.map_cons, List.map_cons, List.sum_cons, List.sum_cons,
            ih (Nat.lt_of_succ_lt_succ hi)]
          omega

namespace TurnResolver

open GameState

/-- **Gold that is paid is one share.** -/
theorem routeGoldToFaction_credited (s : GameState) (city : City) (gold : ℤ) :
    s.Credited (routeGoldToFaction s city.factionId gold) [(city, gold)] := by
  have hsum : ([(city, gold)].map Prod.snd).sum = gold := Int.add_zero gold
  rcases routeGoldToFaction_cases s city gold with ⟨hnone, hpaid⟩ | ⟨i, hsome, hlt, hpaid⟩
  · rw [hpaid]
    refine ⟨fun k => ?_, ?_, ?_⟩
    · rw [credit_singleton, hnone, if_neg (by simp)]
      cases s.factionRegistry.factions[k]? with
      | none => rfl
      | some f => exact congrArg some f.addGold_zero.symm
    · rw [credit_singleton, if_pos hnone]
      rfl
    · rw [hsum]
      exact (Int.add_assoc _ _ _).symm
  · rw [hpaid]
    refine ⟨fun k => ?_, ?_, ?_⟩
    · rw [credit_singleton, hsome, List.getElem?_modify]
      cases s.factionRegistry.factions[k]? with
      | none => rfl
      | some f =>
          refine congrArg some ?_
          dsimp only
          by_cases hik : i = k
          · rw [if_pos hik, if_pos (congrArg some hik)]
            rfl
          · rw [if_neg hik, if_neg fun h => hik (Option.some_inj.1 h), Faction.addGold_zero]
    · rw [credit_singleton, hsome, if_neg (by simp)]
      exact s.factionResources.addGold_zero.symm
    · rw [hsum, totalGold, sum_map_modify (fun _ => rfl) hlt]
      exact Int.add_right_comm _ _ _

end TurnResolver

namespace Machine

namespace TurnResolver

open My4X.TurnResolver (handleCompletedProduction_keeps)

/-! ### The turn of a city -/

/-- Paying gold changes the stockpiles and the common account alone. -/
theorem routeGoldToFaction_frame (s : My4X.GameState) (factionId : Int32) (gold : ℤ) :
    ∃ registry resources, routeGoldToFaction s factionId gold =
      { s with factionRegistry := registry, factionResources := resources } := by
  rw [routeGoldToFaction]
  dsimp only
  split
  · exact ⟨_, s.factionResources, rfl⟩
  · exact ⟨s.factionRegistry, _, rfl⟩

/-- Feeding a city never fails. -/
theorem feed_ok (city : My4X.City) (food : ℤ) : ∃ city', feed city food = .ok city' := by
  rw [feed]
  split
  · exact ⟨_, rfl⟩
  · exact ⟨_, rfl⟩

/-- **The turn of a city changes no other city**, and the accounts by the gold that it pays
alone. -/
theorem resolveCity_frame (unitRegistry : Option UnitTypeRegistry) {s : My4X.GameState} {i : ℕ}
    {city : My4X.City} (hcity : s.cities[i]? = some city) :
    (∃ city', (resolveCity unitRegistry s i).1.cities = s.cities.set i city') ∧
      (resolveCity unitRegistry s i).1.factionRegistry =
        (routeGoldToFaction s city.factionId (collectCityYields city s).gold).factionRegistry ∧
      (resolveCity unitRegistry s i).1.factionResources =
        (routeGoldToFaction s city.factionId (collectCityYields city s).gold).factionResources := by
  obtain ⟨registry, resources, hpay⟩ :=
    routeGoldToFaction_frame s city.factionId (collectCityYields city s).gold
  rw [resolveCity, hcity]
  dsimp only
  rw [hpay]
  generalize BuildQueue.applyProduction city.buildQueue
    (int (City.productionPerTurn + (collectCityYields city s).production)) = spent
  obtain ⟨queue, completed⟩ := spent
  dsimp only
  split
  · exact ⟨⟨_, rfl⟩, rfl, rfl⟩
  · next s₁ hplaced =>
      -- what is produced is placed in the state in which the city has paid
      have hkept : s₁.cities = s.cities.set i (city.setBuildQueue queue) ∧
          s₁.factionRegistry = registry ∧ s₁.factionResources = resources := by
        split at hplaced
        · cases hplaced
        · obtain rfl := Except.ok.inj hplaced
          exact ⟨rfl, rfl, rfl⟩
        · obtain ⟨hcities, -, hregistry, hresources⟩ := handleCompletedProduction_keeps hplaced
          exact ⟨hcities, hregistry, hresources⟩
      obtain ⟨hcities, hregistry, hresources⟩ := hkept
      obtain ⟨city', hfed⟩ := feed_ok (city.setBuildQueue queue) (collectCityYields city s).food
      rw [hfed]
      refine ⟨⟨city', ?_⟩, hregistry, hresources⟩
      show s₁.cities.set i city' = s.cities.set i city'
      rw [hcities, List.set_set]

/-- The turn of a city that is not there changes nothing. -/
theorem resolveCity_of_none (unitRegistry : Option UnitTypeRegistry) {s : My4X.GameState} {i : ℕ}
    (hcity : s.cities[i]? = none) : resolveCity unitRegistry s i = (s, none) := by
  rw [resolveCity, hcity]

/-- **The turn of a city whose gold fits is one share**, also when it throws. -/
theorem resolveCity_credited (unitRegistry : Option UnitTypeRegistry) {s : My4X.GameState} {i : ℕ}
    {city : My4X.City} (hcity : s.cities[i]? = some city) (hfits : city.GoldFits s) :
    s.Credited (resolveCity unitRegistry s i).1
      [(city, city.yieldOf Resource.gold s.buildings)] := by
  obtain ⟨-, hfactions, hpool⟩ := resolveCity_frame unitRegistry hcity
  have hgold : (collectCityYields city s).gold = city.yieldOf Resource.gold s.buildings :=
    yieldsFrom_part rfl (fun _ _ => rfl) hfits.collected
  rw [hgold, routeGoldToFaction_eq hfits.paid] at hfactions hpool
  have hpaid := My4X.TurnResolver.routeGoldToFaction_credited s city
    (city.yieldOf Resource.gold s.buildings)
  exact hpaid.trans (GameState.credited_nil hfactions hpool)

/-! ### The turns of all cities -/

/-- The turns of some cities whose gold fits are their shares. -/
theorem resolveCitiesFrom_credited (unitRegistry : Option UnitTypeRegistry) (is : List ℕ) :
    ∀ s : My4X.GameState,
      Runs.Along (cityStep unitRegistry)
        (fun s i => ∀ city, s.cities[i]? = some city → city.GoldFits s) s is →
      s.Credited (resolveCitiesFrom unitRegistry s is).1 (goldShares unitRegistry s is) := by
  induction is with
  | nil => intro s _; exact GameState.credited_nil rfl rfl
  | cons i is ih =>
      rintro s ⟨hfits, hrest⟩
      rw [resolveCitiesFrom, goldShares]
      cases hcity : s.cities[i]? with
      | none =>
          have hout := resolveCity_of_none unitRegistry hcity
          rw [hout]
          exact ih s (hrest s (cityStep_eq_some.2 hout))
      | some city =>
          have hone := resolveCity_credited unitRegistry hcity (hfits city hcity)
          dsimp only
          cases hout : resolveCity unitRegistry s i with
          | mk s₁ thrown =>
              rw [hout] at hone
              cases thrown with
              | some e => exact hone
              | none => exact hone.trans (ih s₁ (hrest s₁ (cityStep_eq_some.2 hout)))

/-- **Every city that takes its turn has one share, in order**, and all cities do unless one of them
throws. -/
theorem goldShares_cities (unitRegistry : Option UnitTypeRegistry) {is : List ℕ}
    (hnodup : is.Nodup) :
    ∀ s : My4X.GameState,
      (goldShares unitRegistry s is).map Prod.fst <+: is.filterMap (fun i => s.cities[i]?) ∧
      ((resolveCitiesFrom unitRegistry s is).2 = none →
        (goldShares unitRegistry s is).map Prod.fst = is.filterMap fun i => s.cities[i]?) := by
  induction is with
  | nil => intro s; exact ⟨List.nil_prefix, fun _ => rfl⟩
  | cons i is ih =>
      intro s
      obtain ⟨hnot, hnodup⟩ := List.nodup_cons.1 hnodup
      rw [resolveCitiesFrom, goldShares]
      cases hcity : s.cities[i]? with
      | none =>
          rw [resolveCity_of_none unitRegistry hcity, List.filterMap_cons_none hcity]
          exact ih hnodup s
      | some city =>
          -- the turn of a city leaves the others as they are
          have hothers : ∀ j ∈ is, (resolveCity unitRegistry s i).1.cities[j]? = s.cities[j]? := by
            obtain ⟨⟨city', hcities⟩, -⟩ := resolveCity_frame unitRegistry hcity
            intro j hj
            rw [hcities, List.getElem?_set_ne fun hij => hnot (by rwa [hij])]
          rw [List.filterMap_cons_some hcity]
          dsimp only
          cases hout : resolveCity unitRegistry s i with
          | mk s₁ thrown =>
              rw [hout] at hothers
              cases thrown with
              | some e =>
                  exact ⟨List.cons_prefix_cons.2 ⟨rfl, List.nil_prefix⟩, fun h => by cases h⟩
              | none =>
                  obtain ⟨hstart, hall⟩ := ih hnodup s₁
                  rw [List.filterMap_congr hothers] at hstart hall
                  exact ⟨List.cons_prefix_cons.2 ⟨rfl, hstart⟩,
                    fun h => congrArg (city :: ·) (hall h)⟩

end TurnResolver

/-! ### The end of a turn -/

/-- **The gold of every city fits** in the state in which it takes its turn, and so does the account
that it goes to. -/
def GoldFits (s : My4X.GameState) (unitRegistry : Option UnitTypeRegistry) : Prop :=
  Runs.Along (TurnResolver.cityStep unitRegistry)
    (fun s i => ∀ city, s.cities[i]? = some city → city.GoldFits s) s (List.range s.cities.length)

/-- **The end of a turn credits every share to one account**, where the gold fits.  The gold of all
accounts grows by the gold that the cities collect; the share of a city goes to the stockpile of the
first registered faction with the identifier of its owner, or to the common account if the owner is
not positive or not registered; nothing else in the stockpiles changes.  Every city has one share,
unless the turn of a city before it throws. -/
theorem resolveTurn_credited (s : My4X.GameState) (unitRegistry : Option UnitTypeRegistry)
    (hfits : GoldFits s unitRegistry) :
    s.Credited (resolveTurn s unitRegistry).1
        (TurnResolver.goldShares unitRegistry s (List.range s.cities.length)) ∧
      (TurnResolver.goldShares unitRegistry s (List.range s.cities.length)).map Prod.fst <+:
        s.cities ∧
      (∀ actions, (resolveTurn s unitRegistry).2 = .ok actions →
        (TurnResolver.goldShares unitRegistry s (List.range s.cities.length)).map Prod.fst =
          s.cities) := by
  have hall : (List.range s.cities.length).filterMap (fun i => s.cities[i]?) = s.cities := by
    refine List.ext_getElem? fun k => ?_
    rw [My4X.TurnResolver.getElem?_filterMap_getElem? fun i hi => List.mem_range.1 hi]
    by_cases hk : k < s.cities.length
    · rw [List.getElem?_range hk]
      rfl
    · rw [List.getElem?_eq_none (by simpa using hk), List.getElem?_eq_none (by simpa using hk)]
      rfl
  obtain ⟨hstart, hcompletes⟩ :=
    TurnResolver.goldShares_cities unitRegistry (List.nodup_range (n := s.cities.length)) s
  rw [hall] at hstart hcompletes
  have hcities := TurnResolver.resolveCitiesFrom_credited unitRegistry
    (List.range s.cities.length) s hfits
  rw [resolveTurn, TurnResolver.resolveCities]
  cases hout : TurnResolver.resolveCitiesFrom unitRegistry s (List.range s.cities.length) with
  | mk s₁ thrown =>
      rw [hout] at hcities hcompletes
      cases thrown with
      | some e => exact ⟨hcities, hstart, fun _ h => by cases h⟩
      | none =>
          -- what follows the turns of the cities touches no account
          have hclosed : s₁.Credited (GameState.nextTurn
              { s₁ with units := s₁.units.mapUnits Unit.resetMovement }) [] :=
            My4X.GameState.credited_nil rfl rfl
          have hclose := hcities.trans hclosed
          rw [List.append_nil] at hclose
          exact ⟨hclose, hstart, fun _ _ => hcompletes rfl⟩

/-- The city of a registered faction, which has a market on both of its tiles, and a city of no
faction with another market. -/
def marketTowns : My4X.GameState :=
  { plainField with
    factionRegistry := (FactionRegistry.addFaction {} "Merchants" .player 0).1
    cities := [(City.create "Harbor" 1 1 1).addTile 1 2, City.create "Camp" 0 0 0]
    buildings := [{ makeMarket 1 1 with
        occupiedTiles := (SortedSet.singleton ⟨1, 1⟩).insert ⟨1, 2⟩ },
      makeMarket 0 0] }

/-- Each market is paid for once, into the account of its city. -/
theorem marketTowns_credited :
    (marketTowns.Credited (resolveTurn marketTowns none).1
        (TurnResolver.goldShares none marketTowns (List.range marketTowns.cities.length)) ∧
      (TurnResolver.goldShares none marketTowns (List.range marketTowns.cities.length)).map
      Prod.fst <+:
        marketTowns.cities ∧
      (∀ actions, (resolveTurn marketTowns none).2 = .ok actions →
        (TurnResolver.goldShares none marketTowns (List.range marketTowns.cities.length)).map
        Prod.fst =
          marketTowns.cities)) ∧
      (resolveTurn marketTowns none).1.goldIn (some 0) = 3 ∧
      (resolveTurn marketTowns none).1.goldIn none = 3 := by
  refine ⟨resolveTurn_credited marketTowns none ⟨?_, fun s hs => ?_⟩, rfl, rfl⟩
  · intro city hcity
    obtain rfl := Option.some_inj.1 hcity
    decide
  · obtain rfl := Option.some_inj.1 hs
    refine ⟨?_, fun _ _ => trivial⟩
    intro city hcity
    obtain rfl := Option.some_inj.1 hcity
    decide

/-- A city with a market, and a common account that is full. -/
def fullTreasury : My4X.GameState :=
  { plainField with
    factionResources := { gold := 2147483647 }
    cities := [City.create "Camp" 1 1 0]
    buildings := [makeMarket 1 1] }

/-- The common account overflows: three gold are collected, and the total falls. -/
theorem fullTreasury_overflows :
    (resolveTurn fullTreasury none).2 = .ok [] ∧
      TurnResolver.goldShares none fullTreasury [0] = [(City.create "Camp" 1 1 0, 3)] ∧
      fullTreasury.totalGold = 2147483647 ∧
      (resolveTurn fullTreasury none).1.totalGold = -2147483646 ∧
      ¬ fullTreasury.Credited (resolveTurn fullTreasury none).1
        (TurnResolver.goldShares none fullTreasury [0]) := by
  have hshares : TurnResolver.goldShares none fullTreasury [0] = [(City.create "Camp" 1 1 0, 3)] :=
    rfl
  have hbefore : fullTreasury.totalGold = 2147483647 := rfl
  have hafter : (resolveTurn fullTreasury none).1.totalGold = -2147483646 := by decide
  refine ⟨rfl, hshares, hbefore, hafter, fun h => ?_⟩
  have htotal := h.total
  rw [hshares, hbefore, hafter] at htotal
  exact absurd htotal (by decide)

end Machine

end My4X
