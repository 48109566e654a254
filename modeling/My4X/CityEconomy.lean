/-
**The economy of a turn.**

This module says exactly what a turn does to food, production, buildings and gold.  What a city
collects in its turn depends on the buildings there are then, and each city may place one more: the
turns of the cities are visits to a growing pool of buildings (`My4X.Lib.Rounds`).  What every city
has after the turn, what is built and what every account gains follow from what each city finds.

Main definitions:

* `My4X.City.yieldOf` — a part of what some buildings yield to a city;
* `My4X.City.afterTurn` — a city after a turn with some yields;
* `My4X.GameState.goldIn` — the gold in the account of a faction, or in the common account;
* `My4X.TurnResolver.found` — the buildings that each city finds in its turn.

Main results:

* `My4X.TurnResolver.resolveCity_economy` — the turn of a city;
* `My4X.TurnResolver.resolveCitiesFrom_economy` — **the turns of some cities, in any order**.
-/

import My4X.TurnFaults
import My4X.Lib.Rounds

set_option relaxedAutoImplicit false
set_option autoImplicit false

namespace My4X

/-! ### Yields -/

/-- What a building yields to a city: its yield, if they share a tile. -/
def City.share (city : City) (building : Building) : Resource :=
  if building.occupiedTiles.toList.any fun t => city.containsTile t.row t.col then
    building.yieldPerTurn
  else {}

/-- A building stands on a tile of the city. -/
def City.Overlaps (city : City) (building : Building) : Prop :=
  ∃ t, t ∈ building.occupiedTiles ∧ t ∈ city.tiles

theorem City.overlaps_iff {city : City} {building : Building} :
    (building.occupiedTiles.toList.any fun t => city.containsTile t.row t.col) = true ↔
      city.Overlaps building := by
  rw [List.any_eq_true]
  constructor
  · rintro ⟨t, ht, hin⟩
    exact ⟨t, SortedSet.mem_def.2 ht, of_decide_eq_true hin⟩
  · rintro ⟨t, ht, hin⟩
    exact ⟨t, SortedSet.mem_def.1 ht, decide_eq_true hin⟩

instance (city : City) (building : Building) : Decidable (city.Overlaps building) :=
  decidable_of_iff _ City.overlaps_iff

/-- **A part of what some buildings yield to a city**: that of each building on one of its tiles,
once. -/
def City.yieldOf (part : Resource → ℤ) (city : City) (buildings : List Building) : ℤ :=
  ((buildings.filter fun b => city.Overlaps b).map fun b => part b.yieldPerTurn).sum

namespace TurnResolver

/-- A part of the yields is the sum of the parts of the shares. -/
theorem yieldsFrom_part (φ : Resource → ℤ) (hzero : φ {} = 0)
    (hadd : ∀ a b, φ (a + b) = φ a + φ b) (city : City) (buildings : List Building) :
    φ (yieldsFrom city buildings) = (buildings.map fun b => φ (city.share b)).sum := by
  have hfold : ∀ total : Resource, φ (buildings.foldl
      (fun total building =>
        if building.occupiedTiles.toList.any fun t => city.containsTile t.row t.col then
          total + building.yieldPerTurn
        else total) total) = φ total + (buildings.map fun b => φ (city.share b)).sum := by
    induction buildings with
    | nil => intro total; simp
    | cons b bs ih =>
        intro total
        rw [List.foldl_cons, ih, List.map_cons, List.sum_cons, City.share]
        split
        · rw [hadd, Int.add_assoc]
        · rw [hzero, Int.zero_add]
  rw [yieldsFrom, hfold, hzero, Int.zero_add]

/-- A part of the yields of some more buildings, which come in groups. -/
theorem yieldsFrom_append_flatMap (φ : Resource → ℤ) (hzero : φ {} = 0)
    (hadd : ∀ a b, φ (a + b) = φ a + φ b) (city : City) (buildings : List Building) {ι : Type}
    (is : List ι) (group : ι → List Building) :
    φ (yieldsFrom city (buildings ++ is.flatMap group)) =
      φ (yieldsFrom city buildings) + (is.map fun i => φ (yieldsFrom city (group i))).sum := by
  have hgroups : φ (yieldsFrom city (is.flatMap group)) =
      (is.map fun i => φ (yieldsFrom city (group i))).sum := by
    induction is with
    | nil => exact hzero
    | cons i is ih =>
        rw [List.flatMap_cons, List.map_cons, List.sum_cons, ← ih, yieldsFrom_part φ hzero hadd,
          yieldsFrom_part φ hzero hadd, yieldsFrom_part φ hzero hadd, List.map_append,
          List.sum_append]
  rw [← hgroups, yieldsFrom_part φ hzero hadd, yieldsFrom_part φ hzero hadd,
    yieldsFrom_part φ hzero hadd, List.map_append, List.sum_append]

theorem yieldsFrom_gold (city : City) (buildings : List Building) :
    (yieldsFrom city buildings).gold = (buildings.map fun b => (city.share b).gold).sum :=
  yieldsFrom_part Resource.gold rfl (fun _ _ => rfl) city buildings

/-- A part of the yields is that part of the yields of the buildings on the tiles of the city. -/
theorem yieldsFrom_yieldOf (part : Resource → ℤ) (hzero : part {} = 0)
    (hadd : ∀ a b, part (a + b) = part a + part b) (city : City) (buildings : List Building) :
    part (yieldsFrom city buildings) = city.yieldOf part buildings := by
  rw [yieldsFrom_part part hzero hadd, City.yieldOf]
  induction buildings with
  | nil => rfl
  | cons b bs ih =>
      rw [List.map_cons, List.sum_cons, ih, City.share]
      by_cases hoverlap : city.Overlaps b
      · rw [if_pos (City.overlaps_iff.2 hoverlap),
          List.filter_cons_of_pos (by simpa using hoverlap),
          List.map_cons, List.sum_cons]
      · rw [if_neg fun h => hoverlap (City.overlaps_iff.1 h),
          List.filter_cons_of_neg (by simpa using hoverlap), hzero, Int.zero_add]

end TurnResolver

/-! ### A city after its turn -/

/-- The queue after some more production: an order that is due leaves it. -/
def BuildQueue.spend (q : BuildQueue) (amount : ℤ) : BuildQueue :=
  match q.due? amount with
  | none => q.save amount
  | some _ => q.cancel

theorem BuildQueue.spend_of_none {q : BuildQueue} {amount : ℤ} (h : q.due? amount = none) :
    q.spend amount = q.save amount := by
  rw [spend, h]

theorem BuildQueue.spend_of_some {q : BuildQueue} {amount : ℤ} {item : BuildQueueItem}
    (h : q.due? amount = some item) : q.spend amount = q.cancel := by
  rw [spend, h]

/-- **A city after a turn with some yields** in which it does not throw. -/
def City.afterTurn (city : City) (yields : Resource) : City :=
  (city.setBuildQueue (city.buildQueue.spend (City.productionPerTurn + yields.production))).fed
    yields.food

/-! ### Accounts -/

/-- The account that the gold of a city goes to: the place of its owner among the registered
factions, or none for the common account. -/
def City.account (city : City) (factionIds : List FactionId) : Option ℕ :=
  if 0 < city.factionId then factionIds.findIdx? (· = city.owner) else none

namespace GameState

/-- The identifiers of the registered factions. -/
def factionIds (s : GameState) : List FactionId := s.factionRegistry.factions.map (·.id)

/-- The gold in the stockpile of a faction, or in the common account. -/
def goldIn (s : GameState) : Option ℕ → ℤ
  | none => s.factionResources.gold
  | some k => (s.factionRegistry.factions[k]?).elim 0 (·.stockpile.gold)

end GameState

namespace TurnResolver

/-- A stockpile that gains gold, among all of them. -/
theorem gold_modify {factions : List Faction} {i : ℕ} (hlt : i < factions.length)
    {f : Resource → Resource} {gold : ℤ} (hf : ∀ r, (f r).gold = r.gold + gold) (k : ℕ) :
    ((factions.modify i fun x => { x with stockpile := f x.stockpile })[k]?).elim 0
        (·.stockpile.gold) =
      (factions[k]?).elim 0 (·.stockpile.gold) + if i = k then gold else 0 := by
  rw [List.getElem?_modify]
  by_cases hik : i = k
  · subst hik
    simp [List.getElem?_eq_getElem hlt, hf]
  · simp [hik]

theorem ids_modify (factions : List Faction) (i : ℕ) (f : Resource → Resource) :
    (factions.modify i fun x => { x with stockpile := f x.stockpile }).map (·.id) =
      factions.map (·.id) := by
  refine List.ext_getElem? fun k => ?_
  rw [List.getElem?_map, List.getElem?_map, List.getElem?_modify]
  cases factions[k]? with
  | none => rfl
  | some x => by_cases hik : i = k <;> simp [hik]

/-- Gold that is paid goes to the stockpile of the account, or else into the common account. -/
theorem routeGoldToFaction_cases (s : GameState) (city : City) (gold : ℤ) :
    (city.account s.factionIds = none ∧ routeGoldToFaction s city.factionId gold =
      { s with
        factionResources :=
          { s.factionResources with gold := s.factionResources.gold + gold } }) ∨
    ∃ i, city.account s.factionIds = some i ∧ i < s.factionRegistry.factions.length ∧
      routeGoldToFaction s city.factionId gold =
        { s with
          factionRegistry := { s.factionRegistry with
            factions := s.factionRegistry.factions.modify i fun f =>
              { f with stockpile := { f.stockpile with gold := f.stockpile.gold + gold } } } } := by
  have haccount : city.account s.factionIds =
      if 0 < city.factionId then
        s.factionRegistry.factions.findIdx? fun f => f.id = city.factionId.toUInt32
      else none := by
    rw [City.account, GameState.factionIds, List.findIdx?_map]
    rfl
  rw [routeGoldToFaction, haccount]
  dsimp only
  cases htarget : if 0 < city.factionId then
      s.factionRegistry.factions.findIdx? fun f => f.id = city.factionId.toUInt32
    else none with
  | none => exact Or.inl ⟨rfl, rfl⟩
  | some i =>
      have hlt : i < s.factionRegistry.factions.length := by
        split at htarget
        · exact (List.findIdx?_eq_some_iff_getElem.1 htarget).1
        · cases htarget
      exact Or.inr ⟨i, rfl, hlt, rfl⟩

/-- **Gold that is paid goes to one account.** -/
theorem routeGoldToFaction_economy (s : GameState) (city : City) (gold : ℤ) :
    (routeGoldToFaction s city.factionId gold).factionIds = s.factionIds ∧
      ∀ account, (routeGoldToFaction s city.factionId gold).goldIn account =
        s.goldIn account + if city.account s.factionIds = account then gold else 0 := by
  rcases routeGoldToFaction_cases s city gold with ⟨hnone, hpaid⟩ | ⟨i, hsome, hlt, hpaid⟩
  · rw [hpaid, hnone]
    refine ⟨rfl, fun account => ?_⟩
    cases account with
    | none => exact congrArg (s.factionResources.gold + ·) (if_pos rfl).symm
    | some k => exact (Int.add_zero _).symm
  · rw [hpaid, hsome]
    refine ⟨ids_modify _ i fun r => { r with gold := r.gold + gold }, fun account => ?_⟩
    cases account with
    | none => exact (Int.add_zero _).symm
    | some k =>
        simp only [Option.some.injEq]
        exact gold_modify (f := fun r => { r with gold := r.gold + gold }) hlt (fun _ => rfl) k

/-- Picking some entries of a list by their indices. -/
theorem getElem?_filterMap_getElem? {α : Type} {l : List α} {is : List ℕ}
    (hlt : ∀ i ∈ is, i < l.length) (k : ℕ) :
    (is.filterMap (l[·]?))[k]? = is[k]?.bind (l[·]?) := by
  induction is generalizing k with
  | nil => rfl
  | cons i is ih =>
      rw [List.filterMap_cons_some (List.getElem?_eq_getElem (hlt i List.mem_cons_self))]
      cases k with
      | zero => exact (List.getElem?_eq_getElem (hlt i List.mem_cons_self)).symm
      | succ k => exact ih (fun j hj => hlt j (List.mem_cons_of_mem _ hj)) k

/-! ### Identifiers -/

/-- Buildings under successive identifiers. -/
def numbered (next : BuildingId) : List Building → List Building
  | [] => []
  | b :: bs => { b with id := next } :: numbered (next + 1) bs

theorem numbered_append (next : BuildingId) (bs bs' : List Building) :
    numbered next (bs ++ bs') =
      numbered next bs ++ numbered (next + UInt32.ofNat bs.length) bs' := by
  induction bs generalizing next with
  | nil => simp [numbered]
  | cons b bs ih =>
      have hnext : next + 1 + UInt32.ofNat bs.length = next + UInt32.ofNat (b :: bs).length := by
        rw [List.length_cons, UInt32.ofNat_add, UInt32.add_assoc,
          UInt32.add_comm (UInt32.ofNat bs.length)]
        rfl
      rw [List.cons_append, numbered, numbered, ih, hnext, List.cons_append]

theorem numbered_map_yieldSource (next : BuildingId) (bs : List Building) :
    (numbered next bs).map yieldSource = bs.map yieldSource := by
  induction bs generalizing next with
  | nil => rfl
  | cons b bs ih => rw [numbered, List.map_cons, List.map_cons, ih]; rfl

/-! ### What a city finds -/

variable (cities : List City)

/-- The order that falls due for the city at an index, with some buildings. -/
def dueAt (i : ℕ) (buildings : List Building) : Option BuildQueueItem :=
  cities[i]?.bind fun city =>
    city.buildQueue.due? (City.productionPerTurn + (yieldsFrom city buildings).production)

/-- The building that the city at an index then places, if it places one. -/
def placedAt (i : ℕ) (buildings : List Building) : List Building :=
  cities[i]?.elim [] fun city => (dueAt cities i buildings).elim [] (orderedBuilding city)

/-- **The buildings that each city finds in its turn**, when the cities have their turns in some
order. -/
def found (buildings : List Building) (is : List ℕ) : List (ℕ × List Building) :=
  Rounds.visits (placedAt cities) buildings is

/-- The buildings that the cities place. -/
def built (buildings : List Building) (is : List ℕ) : List Building :=
  Rounds.left (placedAt cities) buildings is

variable {cities}

theorem dueAt_congr {i : ℕ} {bs bs' : List Building}
    (h : bs.map yieldSource = bs'.map yieldSource) : dueAt cities i bs = dueAt cities i bs' := by
  rw [dueAt, dueAt]
  refine congrArg _ (funext fun city => ?_)
  rw [yieldsFrom_congr h]

theorem placedAt_congr {i : ℕ} {bs bs' : List Building}
    (h : bs.map yieldSource = bs'.map yieldSource) :
    placedAt cities i bs = placedAt cities i bs' := by
  rw [placedAt, placedAt, dueAt_congr h]

/-- What the turn of a city does depends on the city alone. -/
theorem dueAt_eq_of_getElem? {cities' : List City} {i : ℕ} (h : cities'[i]? = cities[i]?) :
    dueAt cities' i = dueAt cities i := by
  funext buildings
  rw [dueAt, dueAt, h]

theorem placedAt_eq_of_getElem? {cities' : List City} {i : ℕ} (h : cities'[i]? = cities[i]?) :
    placedAt cities' i = placedAt cities i := by
  funext buildings
  rw [placedAt, placedAt, h, dueAt_eq_of_getElem? h]

theorem dueOrder_eq_dueAt {s : GameState} {i : ℕ} {city : City} (hcity : s.cities[i]? = some city) :
    dueOrder s city = dueAt s.cities i s.buildings := by
  rw [dueAt, hcity]
  rfl

/-! ### The turn of a city -/

/-- What a city gains in its turn, and what it places. -/
structure Earned (s : GameState) (i : ℕ) (city : City) (s' : GameState) : Prop where
  cities : s'.cities = s.cities.set i (city.afterTurn (yieldsFrom city s.buildings))
  buildings : s'.buildings =
    s.buildings ++ numbered s.nextBuildingId (placedAt s.cities i s.buildings)
  nextBuildingId : s'.nextBuildingId =
    s.nextBuildingId + UInt32.ofNat (placedAt s.cities i s.buildings).length
  factionIds : s'.factionIds = s.factionIds
  goldIn : ∀ account, s'.goldIn account = s.goldIn account +
    if city.account s.factionIds = account then (yieldsFrom city s.buildings).gold else 0

/-- What is left after a city has collected its gold and placed what was due: it is fed. -/
theorem Earned.of_paid {s s' : GameState} {i : ℕ} {city : City} {queue : BuildQueue}
    (hqueue : queue = city.buildQueue.spend (cityProduction s city))
    (hcities : s'.cities = (paid s i city queue).cities)
    (hfactions : s'.factionRegistry = (paid s i city queue).factionRegistry)
    (hpool : s'.factionResources = (paid s i city queue).factionResources)
    (hbuildings : s'.buildings =
      s.buildings ++ numbered s.nextBuildingId (placedAt s.cities i s.buildings))
    (hnext : s'.nextBuildingId =
      s.nextBuildingId + UInt32.ofNat (placedAt s.cities i s.buildings).length) :
    Earned s i city (s'.setCity i (fed s city queue)) := by
  obtain ⟨hids, hgold⟩ :=
    routeGoldToFaction_economy s city (collectCityYields city s).gold
  refine ⟨?_, hbuildings, hnext, ?_, fun account => Eq.trans ?_ (hgold account)⟩
  · rw [(paid_spec s i city queue).setCity_cities hcities, fed, hqueue]
    rfl
  · rw [← hids]
    exact congrArg (fun reg : FactionRegistry => reg.factions.map (·.id)) hfactions
  · cases account with
    | none => exact congrArg Resource.gold hpool
    | some k =>
        exact congrArg
          (fun reg : FactionRegistry => (reg.factions[k]?).elim 0 (·.stockpile.gold)) hfactions

/-- Where no building is placed, the buildings stay as they are. -/
theorem Earned.of_paid_nothing {s s' : GameState} {i : ℕ} {city : City} {queue : BuildQueue}
    (hplaced : placedAt s.cities i s.buildings = [])
    (hqueue : queue = city.buildQueue.spend (cityProduction s city))
    (hcities : s'.cities = (paid s i city queue).cities)
    (hfactions : s'.factionRegistry = (paid s i city queue).factionRegistry)
    (hpool : s'.factionResources = (paid s i city queue).factionResources)
    (hbuildings : s'.buildings = (paid s i city queue).buildings)
    (hnext : s'.nextBuildingId = (paid s i city queue).nextBuildingId) :
    Earned s i city (s'.setCity i (fed s city queue)) := by
  have h := paid_spec s i city queue
  refine Earned.of_paid hqueue hcities hfactions hpool ?_ ?_
  · rw [hplaced, hbuildings, h.buildings]
    exact (List.append_nil _).symm
  · rw [hplaced, hnext, h.nextBuildingId]
    exact (UInt32.add_zero _).symm

/-- **The turn of a city that completes** does just this. -/
theorem resolveCity_economy (unitRegistry : Option UnitTypeRegistry) {s : GameState} {i : ℕ}
    {city : City} (hcity : s.cities[i]? = some city)
    (hcompletes : (resolveCity unitRegistry s i).2 = none) :
    Earned s i city (resolveCity unitRegistry s i).1 := by
  have hplaced : placedAt s.cities i s.buildings =
      (dueOrder s city).elim [] (orderedBuilding city) := by
    rw [placedAt, hcity, ← dueOrder_eq_dueAt hcity]
    rfl
  have h := paid_spec s i city
  rw [resolveCity_eq unitRegistry hcity] at hcompletes ⊢
  cases hdue : dueOrder s city with
  | none =>
      rw [hdue] at hplaced
      exact Earned.of_paid_nothing hplaced (BuildQueue.spend_of_none hdue).symm rfl rfl rfl rfl rfl
  | some item =>
      rw [hdue] at hplaced hcompletes
      have hspend := (BuildQueue.spend_of_some (show _ = some item from hdue)).symm
      rw [Option.elim_some, orderedBuilding] at hplaced
      dsimp only at hcompletes ⊢
      cases htype : item.orderType with
      | building =>
          rw [htype] at hplaced hcompletes
          cases hmade : item.factory with
          | none =>
              rw [hmade] at hcompletes
              cases hcompletes
          | some factory =>
              rw [hmade] at hplaced
              refine Earned.of_paid hspend rfl rfl rfl ?_ ?_
              · rw [hplaced, ← (h city.buildQueue.cancel).nextBuildingId,
                  ← (h city.buildQueue.cancel).buildings]
                rfl
              · rw [hplaced, ← (h city.buildQueue.cancel).nextBuildingId]
                rfl
      | unit =>
          rw [htype] at hplaced hcompletes
          dsimp only at hcompletes ⊢
          cases unitRegistry with
          | none =>
              exact Earned.of_paid_nothing hplaced hspend rfl rfl rfl rfl rfl
          | some reg =>
              rw [handleCompletedProduction, spawnCompletedUnit] at hcompletes ⊢
              cases hknown : reg.getTemplate item.templateKey with
              | error e =>
                  rw [hknown] at hcompletes
                  cases hcompletes
              | ok tmpl =>
                  exact Earned.of_paid_nothing hplaced hspend rfl rfl rfl rfl rfl

/-! ### The turns of the cities -/

/-- What an account gains from a building that the city at an index finds. -/
def goldTo (cities : List City) (factionIds : List FactionId) (account : Option ℕ) (i : ℕ)
    (building : Building) : ℤ :=
  cities[i]?.elim 0 fun city =>
    if city.account factionIds = account then (city.share building).gold else 0

theorem goldTo_eq_of_getElem? {cities' : List City} {i : ℕ} (factionIds : List FactionId)
    (account : Option ℕ) (h : cities'[i]? = cities[i]?) :
    goldTo cities' factionIds account i = goldTo cities factionIds account i := by
  funext building
  rw [goldTo, goldTo, h]

/-- The gold of a city goes to its account. -/
theorem worth_goldTo {i : ℕ} {city : City} (hcity : cities[i]? = some city)
    (factionIds : List FactionId) (account : Option ℕ) (buildings : List Building) :
    Rounds.worth (goldTo cities factionIds account) i buildings =
      if city.account factionIds = account then (yieldsFrom city buildings).gold else 0 := by
  have hvalue : goldTo cities factionIds account i = fun building =>
      if city.account factionIds = account then (city.share building).gold else 0 := by
    funext building
    rw [goldTo, hcity]
    rfl
  rw [Rounds.worth, hvalue]
  split
  · exact (yieldsFrom_gold city buildings).symm
  · simp

/-- What the turns of some cities in some order bring about, from a pool of buildings. -/
structure Economy (s : GameState) (pool : List Building) (is : List ℕ) (s' : GameState) :
    Prop where
  visited : ∀ x ∈ found s.cities pool is, ∀ city, s.cities[x.1]? = some city →
    s'.cities[x.1]? = some (city.afterTurn (yieldsFrom city x.2))
  others : ∀ i, i ∉ is → s'.cities[i]? = s.cities[i]?
  length : s'.cities.length = s.cities.length
  buildings : s'.buildings = s.buildings ++ numbered s.nextBuildingId (built s.cities pool is)
  factionIds : s'.factionIds = s.factionIds
  goldIn : ∀ account, s'.goldIn account = s.goldIn account +
    Rounds.collected (goldTo s.cities s.factionIds account) (found s.cities pool is)

theorem Economy.nil {s : GameState} {pool : List Building} : Economy s pool [] s where
  visited _ hx := nomatch hx
  others _ _ := rfl
  length := rfl
  buildings := (List.append_nil _).symm
  factionIds := rfl
  goldIn _ := (Int.add_zero _).symm

/-- The turn of a city, and then the turns of others. -/
theorem Economy.cons {s s₁ s' : GameState} {pool : List Building} {i : ℕ} {is : List ℕ}
    {city : City}
    (hcity : s.cities[i]? = some city) (hnot : i ∉ is)
    (hsame : pool.map yieldSource = s.buildings.map yieldSource) (h₁ : Earned s i city s₁)
    (h : Economy s₁ (pool ++ placedAt s.cities i pool) is s') : Economy s pool (i :: is) s' := by
  have hcities : ∀ j ∈ is, s₁.cities[j]? = s.cities[j]? := by
    intro j hj
    rw [h₁.cities, List.getElem?_set_ne fun hij => hnot (by rwa [hij])]
  have hfound : found s₁.cities (pool ++ placedAt s.cities i pool) is =
      found s.cities (pool ++ placedAt s.cities i pool) is :=
    Rounds.visits_congr _ (fun j hj => placedAt_eq_of_getElem? (hcities j hj)) _
  have hbuilt : built s₁.cities (pool ++ placedAt s.cities i pool) is =
      built s.cities (pool ++ placedAt s.cities i pool) is :=
    Rounds.left_congr _ (fun j hj => placedAt_eq_of_getElem? (hcities j hj)) _
  have hi : i < s.cities.length := (List.getElem?_eq_some_iff.1 hcity).1
  have hplaced : placedAt s.cities i pool = placedAt s.cities i s.buildings := placedAt_congr hsame
  refine ⟨?_, ?_, ?_, ?_, h.factionIds.trans h₁.factionIds, ?_⟩
  · intro x hx city' hcity'
    rcases List.mem_cons.1 hx with rfl | hx
    · rw [hcity] at hcity'
      obtain rfl := Option.some_inj.1 hcity'
      rw [h.others i hnot, h₁.cities, List.getElem?_set_self hi, yieldsFrom_congr hsame]
    · refine h.visited x (by rw [hfound]; exact hx) city' ?_
      rw [hcities x.1 (Rounds.mem_of_mem_visits hx)]
      exact hcity'
  · intro j hj
    rw [h.others j fun hmem => hj (List.mem_cons_of_mem _ hmem), h₁.cities,
      List.getElem?_set_ne fun hij => hj (by rw [hij]; exact List.mem_cons_self)]
  · rw [h.length, h₁.cities, List.length_set]
  · rw [h.buildings, h₁.buildings, h₁.nextBuildingId, hbuilt, built, built, Rounds.left_cons,
      numbered_append, List.append_assoc, hplaced]
  · intro account
    have hgold : Rounds.collected (goldTo s₁.cities s₁.factionIds account)
          (found s₁.cities (pool ++ placedAt s.cities i pool) is) =
        Rounds.collected (goldTo s.cities s.factionIds account)
          (found s.cities (pool ++ placedAt s.cities i pool) is) := by
      rw [hfound, h₁.factionIds, Rounds.collected, Rounds.collected]
      refine congrArg List.sum (List.map_congr_left fun x hx => ?_)
      rw [Rounds.worth, Rounds.worth, goldTo_eq_of_getElem? _ _
        (hcities x.1 (Rounds.mem_of_mem_visits hx))]
    rw [h.goldIn, h₁.goldIn, hgold, found, found, Rounds.visits, Rounds.collected_cons,
      worth_goldTo hcity, yieldsFrom_congr hsame, Int.add_assoc]

/-- **The turns of some cities in some order complete exactly when whatever falls due can be
completed**, and what they bring about follows from what each city finds. -/
theorem resolveCitiesFrom_economy (unitRegistry : Option UnitTypeRegistry) {is : List ℕ}
    (hnodup : is.Nodup) (s : GameState) (hlt : ∀ i ∈ is, i < s.cities.length)
    (pool : List Building) (hsame : pool.map yieldSource = s.buildings.map yieldSource) :
    ((resolveCitiesFrom unitRegistry s is).2 = none ↔
      ∀ x ∈ found s.cities pool is, ∀ item, dueAt s.cities x.1 x.2 = some item →
        Completable unitRegistry item) ∧
    ((resolveCitiesFrom unitRegistry s is).2 = none →
      Economy s pool is (resolveCitiesFrom unitRegistry s is).1) := by
  induction is generalizing s pool with
  | nil => exact ⟨by simp [resolveCitiesFrom, found, Rounds.visits], fun _ => Economy.nil⟩
  | cons i is ih =>
      obtain ⟨hnot, hnodup⟩ := List.nodup_cons.1 hnodup
      have hi : i < s.cities.length := hlt i List.mem_cons_self
      have hcity : s.cities[i]? = some s.cities[i] := List.getElem?_eq_getElem hi
      have hcompletes := resolveCity_completes_iff unitRegistry hcity
      rw [dueOrder_eq_dueAt hcity, dueAt_congr hsame.symm] at hcompletes
      have hone := resolveCity_economy unitRegistry hcity
      rw [resolveCitiesFrom, found, Rounds.visits, List.forall_mem_cons, ← hcompletes]
      cases hout : resolveCity unitRegistry s i with
      | mk s₁ thrown =>
          rw [hout] at hone
          cases thrown with
          | some e =>
              refine ⟨by simp, fun h => ?_⟩
              cases h
          | none =>
              have h₁ := hone rfl
              have hcities : ∀ j ∈ is, s₁.cities[j]? = s.cities[j]? := by
                intro j hj
                rw [h₁.cities, List.getElem?_set_ne fun hij => hnot (by rwa [hij])]
              obtain ⟨hlater, heconomy⟩ := ih hnodup s₁
                (fun j hj => by
                  rw [h₁.cities, List.length_set]
                  exact hlt j (List.mem_cons_of_mem _ hj))
                (pool ++ placedAt s.cities i pool)
                (by rw [List.map_append, h₁.buildings, List.map_append, numbered_map_yieldSource,
                  hsame, placedAt_congr hsame])
              refine ⟨?_, fun h => Economy.cons hcity hnot hsame h₁ (heconomy h)⟩
              rw [hlater, found, Rounds.visits_congr _ fun j hj =>
                placedAt_eq_of_getElem? (hcities j hj)]
              simp only [true_and]
              refine forall₂_congr fun x hx => ?_
              rw [dueAt_eq_of_getElem? (hcities x.1 (Rounds.mem_of_mem_visits hx))]

end TurnResolver

end My4X
