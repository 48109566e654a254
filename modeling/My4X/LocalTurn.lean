/-
**The other end of a turn.**

The application ends a turn of a local game in its own way, and not by `My4X.resolveTurn`: every
city spends its base production alone, its population never eats, and the yields of all buildings
go as a whole both into the common account and into the stockpile of the player's faction.  This
module says exactly for which states the two ways agree.

Main definitions:

* `My4X.processTurn` — the end of a turn in the application;
* `My4X.GameState.SameEnd` — two ends of a turn agree;
* `My4X.GameState.PathsMeet` — the states for which the two ways come to the same.

Main results:

* `My4X.produceCitiesFrom_economy` — what the cities produce in the application;
* `My4X.GameState.processTurn_completes_iff` — when the application ends a turn without a failure;
* `My4X.GameState.processTurn_agrees_iff` — **the two ways of ending a turn agree exactly on these
  states**.
-/

import My4X.CityOrder
import My4X.Fog
import My4X.TurnFlags

set_option relaxedAutoImplicit false
set_option autoImplicit false

namespace My4X

open TurnResolver

/-! ### The end of a turn in the application -/

/-- The faction of the player of a local game, `PLAYER_FACTION_ID`. -/
def playerFactionId : FactionId := 1

/-- The city at an index spends its base production, and what it completes is placed; a completed
unit is dropped. -/
def produceCity (state : GameState) (i : ℕ) : GameState × Option Fault :=
  match state.cities[i]? with
  | none => (state, none)
  | some city =>
      let (queue, completed) := city.buildQueue.applyProduction City.productionPerTurn
      let state := state.setCity i (city.setBuildQueue queue)
      match completed with
      | .error e => (state, some e)
      | .ok (some (.building b)) => ((state.addBuilding b).1, none)
      | .ok _ => (state, none)

/-- The cities at some indices spend their base production, up to the first one that throws. -/
def produceCitiesFrom (state : GameState) : List ℕ → GameState × Option Fault
  | [] => (state, none)
  | i :: is =>
      match produceCity state i with
      | (state, some e) => (state, some e)
      | (state, none) => produceCitiesFrom state is

/-- The yields of all buildings. -/
def totalYield (buildings : List Building) : Resource :=
  buildings.foldl (fun total building => total + building.yieldPerTurn) {}

/-- Adds resources to the stockpile of the first faction with an identifier, if there is one. -/
def FactionRegistry.addResources (reg : FactionRegistry) (id : FactionId) (amount : Resource) :
    FactionRegistry :=
  match reg.factions.findIdx? (·.id = id) with
  | none => reg
  | some i =>
      { reg with
        factions := reg.factions.modify i fun f => { f with stockpile := f.stockpile + amount } }

/-- The yields of all buildings go into the common account and to the player's faction. -/
def collectBuildingYields (state : GameState) : GameState :=
  { state with
    factionResources := state.factionResources + totalYield state.buildings
    factionRegistry :=
      state.factionRegistry.addResources playerFactionId (totalYield state.buildings) }

/-- A unit at the start of a turn; a dead one is skipped. -/
def Unit.startTurn (u : Unit) : Unit :=
  if u.isAlive then u.resetMovement.clearLevelUpFlag else u

/-- **The end of a turn in the application.**  When a step throws, the state is the one it has
reached. -/
def processTurn (state : GameState) : GameState × Option Fault :=
  let state := state.nextTurn
  let state := { state with units := state.units.mapUnits Unit.startTurn }
  match produceCitiesFrom state (List.range state.cities.length) with
  | (state, some e) => (state, some e)
  | (state, none) =>
      let state := collectBuildingYields state
      match state.fog.recalculate playerFactionId state.units state.cities state.map with
      | .error e => (state, some e)
      | .ok fog => ({ state with fog }, none)

/-! ### What a city produces -/

/-- The building that an order makes; in the application nobody is made its owner. -/
def madeBuilding (item : BuildQueueItem) : List Building :=
  match item.orderType, item.factory with
  | .building, some factory => [factory item.targetRow item.targetCol]
  | _, _ => []

namespace City

/-- The order that the base production of a turn pays for. -/
def dueAtBase (city : City) : Option BuildQueueItem :=
  city.buildQueue.due? productionPerTurn

/-- The building it makes in the application. -/
def made (city : City) : List Building := city.dueAtBase.elim [] madeBuilding

/-- The building it makes at the end of a turn otherwise. -/
def placed (city : City) : List Building := city.dueAtBase.elim [] (orderedBuilding city)

end City

/-- What a city produces, where nothing is thrown. -/
structure Produced (s : GameState) (i : ℕ) (city : City) (s' : GameState) : Prop where
  cities : s'.cities =
    s.cities.set i (city.setBuildQueue (city.buildQueue.spend City.productionPerTurn))
  buildings : s'.buildings = s.buildings ++ numbered s.nextBuildingId city.made
  nextBuildingId : s'.nextBuildingId = s.nextBuildingId + UInt32.ofNat city.made.length

/-- What the production of cities leaves alone. -/
structure SameRest (s s' : GameState) : Prop where
  turn : s'.turn = s.turn
  map : s'.map = s.map
  fog : s'.fog = s.fog
  units : s'.units = s.units
  factionRegistry : s'.factionRegistry = s.factionRegistry
  factionResources : s'.factionResources = s.factionResources

theorem SameRest.trans {s s' s'' : GameState} (h : SameRest s s') (h' : SameRest s' s'') :
    SameRest s s'' where
  turn := h'.turn.trans h.turn
  map := h'.map.trans h.map
  fog := h'.fog.trans h.fog
  units := h'.units.trans h.units
  factionRegistry := h'.factionRegistry.trans h.factionRegistry
  factionResources := h'.factionResources.trans h.factionResources

/-- **What the production of a city does.** -/
theorem produceCity_spec {s : GameState} {i : ℕ} {city : City} (hcity : s.cities[i]? = some city) :
    SameRest s (produceCity s i).1 ∧
      ((produceCity s i).2 = none ↔ ∀ item, city.dueAtBase = some item → HasFactory item) ∧
      (produceCity s i).1.cities = s.cities.set i (city.setBuildQueue
        (city.buildQueue.applyProduction City.productionPerTurn).1) ∧
      ((produceCity s i).2 = none → Produced s i city (produceCity s i).1) := by
  have happly := BuildQueue.applyProduction_eq city.buildQueue City.productionPerTurn
  rw [produceCity, hcity]
  dsimp only
  cases hdue : city.dueAtBase with
  | none =>
      have hspend := BuildQueue.spend_of_none
        (show city.buildQueue.due? City.productionPerTurn = none from hdue)
      rw [show city.buildQueue.due? City.productionPerTurn = none from hdue] at happly
      rw [happly]
      refine ⟨⟨rfl, rfl, rfl, rfl, rfl, rfl⟩, by simp, rfl, fun _ => ⟨by rw [hspend]; rfl, ?_, ?_⟩⟩
      · rw [City.made, hdue]
        exact (List.append_nil _).symm
      · rw [City.made, hdue]
        exact (UInt32.add_zero _).symm
  | some item =>
      have hspend := BuildQueue.spend_of_some
        (show city.buildQueue.due? City.productionPerTurn = some item from hdue)
      rw [show city.buildQueue.due? City.productionPerTurn = some item from hdue] at happly
      have hmade : city.made = madeBuilding item := by rw [City.made, hdue]; rfl
      rw [happly]
      dsimp only
      cases htype : item.orderType with
      | unit =>
          rw [madeBuilding, htype] at hmade
          refine ⟨⟨rfl, rfl, rfl, rfl, rfl, rfl⟩, ?_, rfl, fun _ => ⟨by rw [hspend]; rfl, ?_, ?_⟩⟩
          · simp [HasFactory, htype]
          · rw [hmade]
            exact (List.append_nil _).symm
          · rw [hmade]
            exact (UInt32.add_zero _).symm
      | building =>
          cases hfactory : item.factory with
          | none =>
              refine ⟨⟨rfl, rfl, rfl, rfl, rfl, rfl⟩, ?_, rfl, fun h => ?_⟩
              · simp [HasFactory, htype, hfactory]
              · cases h
          | some factory =>
              rw [madeBuilding, htype, hfactory] at hmade
              refine ⟨⟨rfl, rfl, rfl, rfl, rfl, rfl⟩, ?_, rfl,
                fun _ => ⟨by rw [hspend]; rfl, ?_, ?_⟩⟩
              · simp [HasFactory, hfactory]
              · rw [hmade]
                rfl
              · rw [hmade]
                rfl

/-- A city produces, and the others stay as they are. -/
theorem produceCity_others {s : GameState} {i j : ℕ} (hj : j ≠ i) :
    (produceCity s i).1.cities[j]? = s.cities[j]? := by
  cases hcity : s.cities[i]? with
  | none => rw [produceCity, hcity]
  | some city =>
      obtain ⟨-, -, hcities, -⟩ := produceCity_spec hcity
      rw [hcities, List.getElem?_set_ne (Ne.symm hj)]

/-- What the production of every city keeps, the production of all keeps. -/
theorem produceCitiesFrom_keeps {I : GameState → Prop} {is : List ℕ}
    (hI : ∀ s, ∀ i ∈ is, I s → I (produceCity s i).1) (s : GameState) (h : I s) :
    I (produceCitiesFrom s is).1 := by
  induction is generalizing s with
  | nil => exact h
  | cons i is ih =>
      have hone := hI s i List.mem_cons_self h
      rw [produceCitiesFrom]
      cases hout : produceCity s i with
      | mk s₁ thrown =>
          rw [hout] at hone
          cases thrown with
          | some e => exact hone
          | none => exact ih (fun s j hj => hI s j (List.mem_cons_of_mem _ hj)) s₁ hone

theorem produceCitiesFrom_others {is : List ℕ} {j : ℕ} (hj : j ∉ is) (s : GameState) :
    (produceCitiesFrom s is).1.cities[j]? = s.cities[j]? :=
  produceCitiesFrom_keeps (I := fun s' : GameState => s'.cities[j]? = s.cities[j]?)
    (fun _ i hi h => (produceCity_others fun hji : j = i => hj (hji ▸ hi)).trans h) s rfl

theorem produceCitiesFrom_rest (is : List ℕ) (s : GameState) :
    SameRest s (produceCitiesFrom s is).1 := by
  refine produceCitiesFrom_keeps (I := SameRest s) (fun s' i _ h => ?_) s ⟨rfl, rfl, rfl, rfl,
    rfl, rfl⟩
  cases hcity : s'.cities[i]? with
  | none =>
      rw [produceCity, hcity]
      exact h
  | some city => exact h.trans (produceCity_spec hcity).1

theorem produceCitiesFrom_append {is js : List ℕ} {s s₁ : GameState}
    (h : produceCitiesFrom s is = (s₁, none)) :
    produceCitiesFrom s (is ++ js) = produceCitiesFrom s₁ js := by
  induction is generalizing s with
  | nil =>
      obtain ⟨rfl, -⟩ := Prod.mk.inj h
      rfl
  | cons i is ih =>
      rw [produceCitiesFrom] at h
      rw [List.cons_append, produceCitiesFrom]
      cases hout : produceCity s i with
      | mk s₂ thrown =>
          rw [hout] at h
          cases thrown with
          | some e => cases (Prod.mk.inj h).2
          | none => exact ih h

/-- What the production of some cities comes to, where nothing is thrown. -/
structure ProducedAll (s : GameState) (is : List ℕ) (s' : GameState) : Prop where
  cities : ∀ i ∈ is, ∀ city, s.cities[i]? = some city →
    s'.cities[i]? = some (city.setBuildQueue (city.buildQueue.spend City.productionPerTurn))
  length : s'.cities.length = s.cities.length
  buildings : s'.buildings = s.buildings ++
    numbered s.nextBuildingId (is.flatMap fun i => s.cities[i]?.elim [] City.made)

/-- The production of a city, and then of others. -/
theorem ProducedAll.cons {s s₁ s' : GameState} {i : ℕ} {is : List ℕ} {city : City}
    (hcity : s.cities[i]? = some city) (hnot : i ∉ is) (h₁ : Produced s i city s₁)
    (hleft : s'.cities[i]? = s₁.cities[i]?) (h : ProducedAll s₁ is s') :
    ProducedAll s (i :: is) s' := by
  have hcities : ∀ j ∈ is, s₁.cities[j]? = s.cities[j]? := by
    intro j hj
    rw [h₁.cities, List.getElem?_set_ne fun hij => hnot (by rwa [hij])]
  refine ⟨fun j hj city' hcity' => ?_, ?_, ?_⟩
  · rcases List.mem_cons.1 hj with rfl | hj
    · rw [hcity] at hcity'
      obtain rfl := Option.some_inj.1 hcity'
      rw [hleft, h₁.cities, List.getElem?_set_self (List.getElem?_eq_some_iff.1 hcity).1]
    · exact h.cities j hj city' ((hcities j hj).trans hcity')
  · rw [h.length, h₁.cities, List.length_set]
  · have hmade : (is.flatMap fun j => s₁.cities[j]?.elim [] City.made) =
        is.flatMap fun j => s.cities[j]?.elim [] City.made :=
      List.flatMap_congr fun j hj => by rw [hcities j hj]
    rw [h.buildings, h₁.buildings, h₁.nextBuildingId, hmade, List.flatMap_cons, hcity,
      Option.elim_some, numbered_append, List.append_assoc]

/-- **The production of some cities completes exactly when every building that falls due has a
factory.** -/
theorem produceCitiesFrom_economy {is : List ℕ} (hnodup : is.Nodup) (s : GameState)
    (hlt : ∀ i ∈ is, i < s.cities.length) :
    ((produceCitiesFrom s is).2 = none ↔ ∀ i ∈ is, ∀ city, s.cities[i]? = some city →
        ∀ item, city.dueAtBase = some item → HasFactory item) ∧
      ((produceCitiesFrom s is).2 = none → ProducedAll s is (produceCitiesFrom s is).1) := by
  induction is generalizing s with
  | nil =>
      refine ⟨by simp [produceCitiesFrom], fun _ => ⟨fun i hi => ?_, rfl, ?_⟩⟩
      · cases hi
      · exact (List.append_nil _).symm
  | cons i is ih =>
      obtain ⟨hnot, hnodup⟩ := List.nodup_cons.1 hnodup
      have hi : i < s.cities.length := hlt i List.mem_cons_self
      have hcity : s.cities[i]? = some s.cities[i] := List.getElem?_eq_getElem hi
      obtain ⟨-, hthrows, hcities, hproduced⟩ := produceCity_spec hcity
      have hsame : ∀ j ∈ is, (produceCity s i).1.cities[j]? = s.cities[j]? :=
        fun j hj => produceCity_others fun hji => hnot (hji ▸ hj)
      have hlater := ih hnodup (produceCity s i).1 fun j hj => by
        rw [hcities, List.length_set]
        exact hlt j (List.mem_cons_of_mem _ hj)
      have hone : (∀ city, s.cities[i]? = some city → ∀ item, city.dueAtBase = some item →
          HasFactory item) ↔ (produceCity s i).2 = none := by
        rw [hthrows]
        constructor
        · exact fun h => h _ hcity
        · intro h city hcity'
          rw [hcity] at hcity'
          rw [← Option.some_inj.1 hcity']
          exact h
      rw [List.forall_mem_cons, hone, produceCitiesFrom]
      cases hout : produceCity s i with
      | mk s₁ thrown =>
          rw [hout] at hproduced hsame hlater
          cases thrown with
          | some e =>
              refine ⟨by simp, fun h => ?_⟩
              cases h
          | none =>
              refine ⟨?_, fun h => ProducedAll.cons hcity hnot (hproduced rfl)
                (produceCitiesFrom_others hnot s₁) (hlater.2 h)⟩
              rw [hlater.1]
              simp only [true_and]
              refine forall₂_congr fun j hj => ?_
              rw [hsame j hj]

/-- A city produces unless one before it throws. -/
theorem produceCitiesFrom_getElem? {s : GameState} {pre post : List ℕ} {i : ℕ} {city : City}
    (hnodup : (pre ++ i :: post).Nodup) (hlt : ∀ j ∈ pre, j < s.cities.length)
    (hpre : ∀ j ∈ pre, ∀ city, s.cities[j]? = some city → ∀ item, city.dueAtBase = some item →
      HasFactory item) (hcity : s.cities[i]? = some city) :
    (produceCitiesFrom s (pre ++ i :: post)).1.cities[i]? = some (city.setBuildQueue
      (city.buildQueue.applyProduction City.productionPerTurn).1) := by
  obtain ⟨hpre', hpost, hdisjoint⟩ := List.nodup_append.1 hnodup
  have hnone := (produceCitiesFrom_economy hpre' s hlt).1.2 hpre
  have hleft : (produceCitiesFrom s pre).1.cities[i]? = some city :=
    (produceCitiesFrom_others (fun hi => hdisjoint i hi i List.mem_cons_self rfl) s).trans hcity
  rw [produceCitiesFrom_append (Prod.ext rfl hnone), produceCitiesFrom]
  obtain ⟨-, -, hcities, -⟩ := produceCity_spec hleft
  have hself : (produceCity (produceCitiesFrom s pre).1 i).1.cities[i]? = some (city.setBuildQueue
      (city.buildQueue.applyProduction City.productionPerTurn).1) := by
    rw [hcities, List.getElem?_set_self (List.getElem?_eq_some_iff.1 hleft).1]
  cases hout : produceCity (produceCitiesFrom s pre).1 i with
  | mk s₁ thrown =>
      rw [hout] at hself
      cases thrown with
      | some e => exact hself
      | none => exact (produceCitiesFrom_others (List.nodup_cons.1 hpost).1 s₁).trans hself

/-! ### The gold of the buildings -/

theorem totalYield_gold (buildings : List Building) :
    (totalYield buildings).gold = (buildings.map (·.yieldPerTurn.gold)).sum := by
  have hfold : ∀ total : Resource,
      (buildings.foldl (fun total building => total + building.yieldPerTurn) total).gold =
        total.gold + (buildings.map (·.yieldPerTurn.gold)).sum := by
    induction buildings with
    | nil => intro total; exact (Int.add_zero _).symm
    | cons b bs ih =>
        intro total
        rw [List.foldl_cons, ih, List.map_cons, List.sum_cons, ← Int.add_assoc]
        rfl
  rw [totalYield, hfold]
  exact Int.zero_add _

namespace GameState

/-- The account of the player's faction. -/
def playerAccount (s : GameState) : Option ℕ := s.factionIds.findIdx? (· = playerFactionId)

/-- **The gold of all buildings goes to the common account and to the player's.** -/
theorem collectBuildingYields_goldIn (s : GameState) (account : Option ℕ) :
    (collectBuildingYields s).goldIn account = s.goldIn account +
      if account = none ∨ account = s.playerAccount then (totalYield s.buildings).gold else 0 := by
  have hplayer : s.playerAccount =
      s.factionRegistry.factions.findIdx? fun f => f.id = playerFactionId := by
    rw [playerAccount, factionIds, List.findIdx?_map]
    rfl
  rw [hplayer, collectBuildingYields, FactionRegistry.addResources]
  cases account with
  | none => exact congrArg (s.factionResources.gold + ·) (if_pos (Or.inl rfl)).symm
  | some k =>
      cases htarget : s.factionRegistry.factions.findIdx? fun f => f.id = playerFactionId with
      | none =>
          rw [if_neg (by simp)]
          exact (Int.add_zero _).symm
      | some i =>
          have hlt := (List.findIdx?_eq_some_iff_getElem.1 htarget).1
          have hgold := gold_modify (f := fun r => r + totalYield s.buildings) hlt
            (fun _ => rfl) k
          by_cases hik : i = k
          · rw [if_pos (Or.inr (by rw [hik]))]
            rw [if_pos hik] at hgold
            exact hgold
          · rw [if_neg (by simp [Ne.symm hik])]
            rw [if_neg hik] at hgold
            exact hgold

/-! ### When the two ways agree -/

/-- **Two ends of a turn agree** on the turn number, the movement of every unit, the food, the
population and the queue of every city, the buildings and the gold in every account.  Where one of
them throws, the state that it leaves is compared. -/
structure SameEnd (s₁ s₂ : GameState) : Prop where
  turn : s₁.turn = s₂.turn
  movement : s₁.units.list.map (·.unit.movementRemaining) =
    s₂.units.list.map (·.unit.movementRemaining)
  cities : s₁.cities.map City.economy = s₂.cities.map City.economy
  buildings : s₁.buildings = s₂.buildings
  goldIn : ∀ account, s₁.goldIn account = s₂.goldIn account

/-- The buildings that the city at an index finds, when the ones before it complete what their base
production pays for. -/
def foundAtBase (s : GameState) (i : ℕ) : List Building :=
  s.buildings ++ (List.range i).flatMap fun k => s.cities[k]?.elim [] City.placed

end GameState

/-- A city is not fed, does not grow, and its production makes no difference to its queue; a
building that falls due has a factory. -/
structure City.Meets (city : City) (yields : Resource) : Prop where
  food : yields.food = 0
  hungry : city.foodSurplus < City.growthThreshold city.population
  production : city.buildQueue.queue = [] ∨ yields.production = 0 ∨
    ((city.buildQueue.due? City.productionPerTurn).isSome = true ∧
      (city.buildQueue.due? (City.productionPerTurn + yields.production)).isSome = true)
  factory : ∀ item, city.dueAtBase = some item → HasFactory item

namespace City

theorem applyProduction_fst {city : City}
    (h : ∀ item, city.dueAtBase = some item → HasFactory item) :
    (city.buildQueue.applyProduction productionPerTurn).1 =
      city.buildQueue.spend productionPerTurn := by
  rw [BuildQueue.applyProduction_eq, BuildQueue.spend]
  cases hdue : city.buildQueue.due? productionPerTurn with
  | none => rfl
  | some item =>
      dsimp only
      cases htype : item.orderType with
      | unit => rfl
      | building =>
          cases hmade : item.factory with
          | none => exact absurd hmade (h item hdue htype)
          | some factory => rfl

/-- An order without a factory saves the production it would have been paid with. -/
theorem applyProduction_fst_of_due {city : City} {item : BuildQueueItem}
    (hdue : city.dueAtBase = some item) (h : ¬ HasFactory item) :
    (city.buildQueue.applyProduction productionPerTurn).1 =
      city.buildQueue.save productionPerTurn := by
  rw [HasFactory, Classical.not_imp, not_not] at h
  rw [BuildQueue.applyProduction_eq,
    show city.buildQueue.due? productionPerTurn = some item from hdue]
  dsimp only
  rw [h.1, h.2]

theorem Meets.spend_eq {city : City} {yields : Resource} (h : city.Meets yields) :
    city.buildQueue.spend (productionPerTurn + yields.production) =
      city.buildQueue.spend productionPerTurn := by
  refine BuildQueue.spend_eq_iff.2 ?_
  rcases h.production with hnil | hzero | ⟨hbase, hmore⟩
  · exact Or.inl hnil
  · exact Or.inr (Or.inl (by omega))
  · exact Or.inr (Or.inr ⟨hmore, hbase⟩)

/-- **A city comes out of both ways in the same state**, and without an empty factory in the one,
exactly when it makes do without the yields of buildings. -/
theorem meets_iff {city : City} {yields : Resource} :
    city.Meets yields ↔
      (∀ item, city.buildQueue.due? (productionPerTurn + yields.production) = some item →
        HasFactory item) ∧
      (city.setBuildQueue (city.buildQueue.applyProduction productionPerTurn).1).economy =
        (city.afterTurn yields).economy := by
  have hfed := fed_economy (city.setBuildQueue (city.buildQueue.spend
    (productionPerTurn + yields.production))) yields.food
  rw [← afterTurn] at hfed
  rw [hfed]
  constructor
  · intro h
    have hdue := BuildQueue.due?_eq_of_spend h.spend_eq
    refine ⟨fun item hitem => h.factory item (hdue.symm.trans hitem), ?_⟩
    have hfood := h.food
    have hhungry := h.hungry
    rw [if_neg (by simp only [setBuildQueue]; omega), h.spend_eq, applyProduction_fst h.factory,
      hfood, Int.add_zero]
    rfl
  · rintro ⟨hfactory, heconomy⟩
    split at heconomy
    · simp only [economy, setBuildQueue, Prod.mk.injEq] at heconomy
      omega
    · next hhungry =>
        simp only [economy, setBuildQueue, Prod.mk.injEq] at heconomy hhungry
        obtain ⟨hfood, -, hqueue⟩ := heconomy
        -- an order with an empty factory would be due in the other way, too
        have hbase : ∀ item, city.dueAtBase = some item → HasFactory item := by
          intro item hdue
          by_contra hnone
          rw [applyProduction_fst_of_due hdue hnone] at hqueue
          cases hmore : city.buildQueue.due? (productionPerTurn + yields.production) with
          | some item' =>
              rw [BuildQueue.spend_of_some hmore] at hqueue
              exact BuildQueue.cancel_ne_save hmore hqueue.symm
          | none =>
              rw [BuildQueue.spend_of_none hmore] at hqueue
              obtain ⟨⟨rest, hcons⟩, -⟩ := BuildQueue.due?_eq_some
                (show city.buildQueue.due? productionPerTurn = some item from hdue)
              rw [BuildQueue.save, BuildQueue.save, hcons] at hqueue
              have hsaved := congrArg BuildQueue.accumulated hqueue
              dsimp only at hsaved
              rw [show productionPerTurn + yields.production = productionPerTurn by omega] at hmore
              rw [show city.buildQueue.due? productionPerTurn = some item from hdue] at hmore
              cases hmore
        rw [applyProduction_fst hbase] at hqueue
        refine ⟨by omega, by omega, ?_, hbase⟩
        rcases BuildQueue.spend_eq_iff.1 hqueue with hnil | hzero | ⟨hdue, hmore⟩
        · exact Or.inl hnil
        · exact Or.inr (Or.inl (by omega))
        · exact Or.inr (Or.inr ⟨hdue, hmore⟩)

/-- What a city places is what it makes in the application, for its owner. -/
theorem placed_eq_map_made (city : City) :
    city.placed = city.made.map fun b => { b with factionId := city.owner } := by
  rw [placed, made]
  cases city.dueAtBase with
  | none => rfl
  | some item =>
      rw [Option.elim_some, Option.elim_some, orderedBuilding, madeBuilding]
      cases item.orderType with
      | unit => rfl
      | building =>
          cases item.factory with
          | none => rfl
          | some factory => rfl

end City

/-- **The states for which the two ways of ending a turn come to the same.**  Dead units have all
their movement; every city makes do without the yields of buildings; the buildings that fall due are
made for their owners; and the gold that goes to each account city by city is all gold of all
buildings, for the common account and the player's, and none for the others. -/
structure GameState.PathsMeet (s : GameState) : Prop where
  rested : ∀ p ∈ s.units.list, p.unit.isAlive = false →
    p.unit.movementRemaining = p.unit.template.movementRange
  cities : ∀ (i : ℕ) (city : City), s.cities[i]? = some city →
    city.Meets (yieldsFrom city (s.foundAtBase i))
  owners : ∀ city ∈ s.cities, ∀ b ∈ city.made, b.factionId = city.owner
  gold : ∀ account, ((List.range s.cities.length).map fun i => s.cities[i]?.elim 0 fun city =>
      if city.account s.factionIds = account then
        (yieldsFrom city (s.foundAtBase i)).gold
      else 0).sum =
    if account = none ∨ account = s.playerAccount then
      (totalYield (s.foundAtBase s.cities.length)).gold
    else 0

namespace GameState

variable {s : GameState}

/-! ### The two ways -/

/-- The state in which the cities begin to produce in the application. -/
def startTurn (s : GameState) : GameState :=
  { s.nextTurn with units := s.units.mapUnits Unit.startTurn }

/-- The end of a turn in the application, by what the cities come to. -/
theorem processTurn_eq (s : GameState) :
    processTurn s =
      match produceCitiesFrom s.startTurn (List.range s.cities.length) with
      | (s', some e) => (s', some e)
      | (s', none) =>
          match s'.fog.recalculate playerFactionId s'.units s'.cities s'.map with
          | .error e => (collectBuildingYields s', some e)
          | .ok fog => ({ collectBuildingYields s' with fog }, none) := rfl

/-- **The application ends a turn on a view that fits the map exactly when every building that falls
due has a factory**, and the view fits the map again. -/
theorem processTurn_completes_iff (hfits : s.fog.Fits s.map) :
    ((processTurn s).2 = none ↔
      ∀ city ∈ s.cities, ∀ item, city.dueAtBase = some item → HasFactory item) ∧
      (processTurn s).1.fog.Fits (processTurn s).1.map := by
  have hrest := produceCitiesFrom_rest (List.range s.cities.length) s.startTurn
  have hlt : ∀ i ∈ List.range s.cities.length, i < s.startTurn.cities.length :=
    fun i hi => List.mem_range.1 hi
  have hcompletes := (produceCitiesFrom_economy List.nodup_range s.startTurn hlt).1
  have hall : (∀ i ∈ List.range s.cities.length, ∀ city, s.startTurn.cities[i]? = some city →
      ∀ item, city.dueAtBase = some item → HasFactory item) ↔
      ∀ city ∈ s.cities, ∀ item, city.dueAtBase = some item → HasFactory item := by
    constructor
    · intro h city hcity
      obtain ⟨i, hi⟩ := List.mem_iff_getElem?.1 hcity
      exact h i (List.mem_range.2 (List.getElem?_eq_some_iff.1 hi).1) city hi
    · exact fun h i _ city hcity => h city (List.mem_of_getElem? hcity)
  rw [← hall, ← hcompletes, processTurn_eq]
  cases hout : produceCitiesFrom s.startTurn (List.range s.cities.length) with
  | mk s' thrown =>
      rw [hout] at hrest
      have hfits' : s'.fog.Fits s'.map := by
        rw [hrest.fog, hrest.map]
        exact hfits
      cases thrown with
      | some e => exact ⟨by simp, hfits'⟩
      | none =>
          obtain ⟨fog, hview, hfog⟩ := hfits'.recalculate playerFactionId s'.units s'.cities
          dsimp only
          rw [hview]
          exact ⟨by simp, hfog⟩

/-- **What the application makes of a turn.** -/
theorem processTurn_spec (s : GameState) :
    (processTurn s).1.turn = s.turn + 1 ∧
      (processTurn s).1.units = s.units.mapUnits Unit.startTurn ∧
      (processTurn s).1.cities =
        (produceCitiesFrom s.startTurn (List.range s.cities.length)).1.cities ∧
      (processTurn s).1.buildings =
        (produceCitiesFrom s.startTurn (List.range s.cities.length)).1.buildings ∧
      ((produceCitiesFrom s.startTurn (List.range s.cities.length)).2 = none → ∀ account,
        (processTurn s).1.goldIn account = s.goldIn account +
          if account = none ∨ account = s.playerAccount then
            (totalYield
              (produceCitiesFrom s.startTurn (List.range s.cities.length)).1.buildings).gold
          else 0) := by
  have hrest := produceCitiesFrom_rest (List.range s.cities.length) s.startTurn
  rw [processTurn_eq]
  cases hout : produceCitiesFrom s.startTurn (List.range s.cities.length) with
  | mk s' thrown =>
      rw [hout] at hrest
      cases thrown with
      | some e =>
          refine ⟨hrest.turn, hrest.units, rfl, rfl, fun h => ?_⟩
          cases h
      | none =>
          -- the view of the player is the only thing that is left out
          have hview : ∃ fog, (match
              s'.fog.recalculate playerFactionId s'.units s'.cities s'.map with
              | .error e => (collectBuildingYields s', some e)
              | .ok fog => ({ collectBuildingYields s' with fog }, none)).1 =
              { collectBuildingYields s' with fog } := by
            cases s'.fog.recalculate playerFactionId s'.units s'.cities s'.map with
            | error e => exact ⟨s'.fog, rfl⟩
            | ok fog => exact ⟨fog, rfl⟩
          obtain ⟨fog, hview⟩ := hview
          dsimp only
          rw [hview]
          refine ⟨hrest.turn, hrest.units, rfl, rfl, fun _ account => ?_⟩
          have hplayer : s'.playerAccount = s.playerAccount :=
            congrArg (fun reg : FactionRegistry =>
              (reg.factions.map fun f : Faction => f.id).findIdx? (· = playerFactionId))
              hrest.factionRegistry
          have hgold : s'.goldIn account = s.goldIn account := by
            cases account with
            | none => exact congrArg Resource.gold hrest.factionResources
            | some k =>
                exact congrArg (fun reg : FactionRegistry =>
                  (reg.factions[k]?).elim 0 (·.stockpile.gold)) hrest.factionRegistry
          have hcollect := collectBuildingYields_goldIn s' account
          rw [hplayer, hgold] at hcollect
          cases account with
          | none => exact hcollect
          | some k => exact hcollect

/-- **A turn that advances the turn counter completes**, and what its cities bring about is
known. -/
theorem resolveTurn_of_turn (h : (resolveTurn s none).1.turn = s.turn + 1) :
    ∃ t, resolveCitiesFrom none s (List.range s.cities.length) = (t, none) ∧
      (resolveTurn s none).1 = t.closeTurn := by
  have hcities : (resolveCitiesFrom none s (List.range s.cities.length)).1.turn = s.turn :=
    resolveCitiesFrom_keeps (I := fun s₁ : GameState => s₁.turn = s.turn) (P := fun _ _ => True)
      (fun s₁ i (h : s₁.turn = s.turn) _ => (resolveCity_turn none s₁ i).trans h)
      _ s rfl (Runs.along_of_forall (fun _ _ => trivial) _ s)
  rw [resolveTurn_eq, resolveCities] at h ⊢
  cases hout : resolveCitiesFrom none s (List.range s.cities.length) with
  | mk t thrown =>
      rw [hout] at h hcities
      cases thrown with
      | some e =>
          dsimp only at h hcities
          omega
      | none => exact ⟨t, rfl, rfl⟩

/-- Without a registry of unit types the cities spawn nothing. -/
theorem resolveCitiesFrom_none_units (is : List ℕ) (s : GameState) :
    (resolveCitiesFrom none s is).1.units = s.units := by
  refine resolveCitiesFrom_keeps (I := fun s₁ : GameState => s₁.units = s.units)
    (P := fun _ _ => True) (fun s₁ i (h : s₁.units = s.units) _ => ?_) is s rfl
    (Runs.along_of_forall (fun _ _ => trivial) _ s)
  have hsame := resolveCity_spawn none s₁ i
  have hnone : spawn? none s₁ i = none := by
    cases hspawn : spawn? none s₁ i with
    | none => rfl
    | some u =>
        obtain ⟨city, item, reg, tmpl, -, -, -, hreg, -⟩ := spawn?_eq_some hspawn
        cases hreg
  rw [hnone] at hsame
  exact hsame.units.trans h

/-! ### What the cities find -/

/-- A city that makes do without the yields of buildings places what its base production pays
for. -/
theorem placedAt_of_meets {i : ℕ} {buildings : List Building}
    (h : ∀ city, s.cities[i]? = some city → city.Meets (yieldsFrom city buildings)) :
    placedAt s.cities i buildings = s.cities[i]?.elim [] City.placed := by
  rw [placedAt, dueAt]
  cases hcity : s.cities[i]? with
  | none => rfl
  | some city =>
      have hdue := BuildQueue.due?_eq_of_spend (h city hcity).spend_eq
      rw [Option.elim_some, Option.elim_some, Option.bind_some, hdue]
      rfl

/-- **While the cities make do without the yields of buildings, what they find is known.** -/
theorem found_of_meets {n : ℕ} (h : ∀ i < n, ∀ city, s.cities[i]? = some city →
      city.Meets (yieldsFrom city (s.foundAtBase i))) :
    found s.cities s.buildings (List.range n) =
        (List.range n).map (fun i => (i, s.foundAtBase i)) ∧
      s.buildings ++ built s.cities s.buildings (List.range n) = s.foundAtBase n := by
  have hplaced : ∀ x ∈ Rounds.visits (fun i _ => s.cities[i]?.elim [] City.placed) s.buildings
      (List.range n), placedAt s.cities x.1 x.2 = s.cities[x.1]?.elim [] City.placed := by
    intro x hx
    rw [Rounds.visits_fixed_range] at hx
    obtain ⟨i, hi, rfl⟩ := List.mem_map.1 hx
    exact placedAt_of_meets (h i (List.mem_range.1 hi))
  constructor
  · rw [found, Rounds.visits_eq_fixed' _ hplaced, Rounds.visits_fixed_range]
    rfl
  · rw [built, Rounds.left_eq_fixed' (fun i => s.cities[i]?.elim [] City.placed) hplaced]
    rfl

/-- A city between the ones before and the ones after it. -/
theorem range_eq_append_cons {n k : ℕ} (hk : k < n) :
    List.range n = List.range k ++ k :: List.range' (k + 1) (n - k - 1) := by
  have happend := List.range'_append_1 (s := 0) (m := k) (n := n - k - 1 + 1)
  rw [Nat.zero_add, List.range'_succ, show k + (n - k - 1 + 1) = n by omega] at happend
  rw [List.range_eq_range', List.range_eq_range', happend]

/-- The city after some that make do without the yields of buildings finds what they place. -/
theorem mem_found_of_meets {n k : ℕ} (hk : k < n) (h : ∀ i < k, ∀ city, s.cities[i]? = some city →
      city.Meets (yieldsFrom city (s.foundAtBase i))) :
    (k, s.foundAtBase k) ∈ found s.cities s.buildings (List.range n) := by
  rw [range_eq_append_cons hk, ← (found_of_meets h).2]
  exact Rounds.mem_visits_append (placedAt s.cities) s.buildings (List.range k) k _

/-! ### Owners, gold and units -/

/-- Lists of equally long pieces are equal exactly when their pieces are. -/
theorem flatMap_eq_iff {ι α : Type} {is : List ι} {f g : ι → List α}
    (h : ∀ i ∈ is, (f i).length = (g i).length) :
    is.flatMap f = is.flatMap g ↔ ∀ i ∈ is, f i = g i := by
  induction is with
  | nil => simp
  | cons i is ih =>
      rw [List.flatMap_cons, List.flatMap_cons, List.forall_mem_cons,
        ← ih fun j hj => h j (List.mem_cons_of_mem _ hj)]
      exact ⟨fun heq => List.append_inj heq (h i List.mem_cons_self),
        fun heq => by rw [heq.1, heq.2]⟩

/-- **The same buildings are new exactly when they are made for their owners.** -/
theorem numbered_placed_eq_iff (next : BuildingId) :
    numbered next ((List.range s.cities.length).flatMap fun i => s.cities[i]?.elim [] City.made) =
        numbered next ((List.range s.cities.length).flatMap fun i =>
          s.cities[i]?.elim [] City.placed) ↔
      ∀ city ∈ s.cities, ∀ b ∈ city.made, b.factionId = city.owner := by
  have hcity : ∀ city : City, city.made.map Building.anonymous =
      city.placed.map Building.anonymous ↔ ∀ b ∈ city.made, b.factionId = city.owner := by
    intro city
    rw [City.placed_eq_map_made, List.map_map, List.map_inj_left]
    refine forall₂_congr fun b _ => ?_
    cases b
    simp [Building.anonymous]
  rw [numbered_eq_iff, List.map_flatMap, List.map_flatMap, flatMap_eq_iff fun i _ => by
    cases s.cities[i]? with
    | none => rfl
    | some city => simp [City.placed_eq_map_made]]
  constructor
  · intro h city hmem
    obtain ⟨i, hi⟩ := List.mem_iff_getElem?.1 hmem
    have hsame := h i (List.mem_range.2 (List.getElem?_eq_some_iff.1 hi).1)
    rw [hi] at hsame
    exact (hcity city).1 hsame
  · intro h i hi
    cases hget : s.cities[i]? with
    | none => rfl
    | some city => exact (hcity city).2 (h city (List.mem_of_getElem? hget))

/-- Identifiers and owners make no difference to the yields of all buildings. -/
theorem totalYield_made_gold (next : BuildingId) :
    (totalYield (s.buildings ++ numbered next
        ((List.range s.cities.length).flatMap fun i => s.cities[i]?.elim [] City.made))).gold =
      (totalYield (s.foundAtBase s.cities.length)).gold := by
  have hnumbered : ∀ (next : BuildingId) (bs : List Building),
      (numbered next bs).map (·.yieldPerTurn.gold) = bs.map (·.yieldPerTurn.gold) := by
    intro next bs
    induction bs generalizing next with
    | nil => rfl
    | cons b bs ih => rw [numbered, List.map_cons, List.map_cons, ih]
  have howners : ∀ i : ℕ, (s.cities[i]?.elim [] City.made).map (·.yieldPerTurn.gold) =
      (s.cities[i]?.elim [] City.placed).map (·.yieldPerTurn.gold) := by
    intro i
    cases s.cities[i]? with
    | none => rfl
    | some city =>
        rw [Option.elim_some, Option.elim_some, City.placed_eq_map_made, List.map_map]
        rfl
  rw [totalYield_gold, totalYield_gold, foundAtBase, List.map_append, List.map_append, hnumbered,
    List.map_flatMap, List.map_flatMap, funext howners]

/-- **The units move alike exactly when the dead ones have all their movement.** -/
theorem movement_eq_iff :
    (s.units.mapUnits Unit.startTurn).list.map (·.unit.movementRemaining) =
        (s.units.mapUnits Unit.resetMovement).list.map (·.unit.movementRemaining) ↔
      ∀ p ∈ s.units.list, p.unit.isAlive = false →
        p.unit.movementRemaining = p.unit.template.movementRange := by
  rw [UnitVec.mapUnits, UnitVec.mapUnits, List.map_map, List.map_map, List.map_inj_left]
  refine forall₂_congr fun p _ => ?_
  dsimp only [Function.comp]
  rw [Unit.startTurn]
  cases p.unit.isAlive with
  | false => simp [Unit.resetMovement]
  | true => simp [Unit.resetMovement, Unit.clearLevelUpFlag]

/-- The gold that the cities pay into an account, when they make do without the yields of
buildings. -/
theorem collected_of_meets (h : ∀ i < s.cities.length, ∀ city, s.cities[i]? = some city →
      city.Meets (yieldsFrom city (s.foundAtBase i))) (account : Option ℕ) :
    Rounds.collected (goldTo s.cities s.factionIds account)
        (found s.cities s.buildings (List.range s.cities.length)) =
      ((List.range s.cities.length).map fun i => s.cities[i]?.elim 0 fun city =>
        if city.account s.factionIds = account then
          (yieldsFrom city (s.foundAtBase i)).gold
        else 0).sum := by
  rw [(found_of_meets h).1, Rounds.collected, List.map_map]
  refine congrArg List.sum (List.map_congr_left fun i hi => ?_)
  have hcity : s.cities[i]? = some _ := List.getElem?_eq_getElem (List.mem_range.1 hi)
  rw [hcity, Option.elim_some, Function.comp_apply, worth_goldTo hcity]

/-! ### The two ways agree -/

/-- **Where the two ways agree on the cities, every city makes do without the yields of
buildings.** -/
theorem meets_of_cities {t : GameState}
    (ht : resolveCitiesFrom none s (List.range s.cities.length) = (t, none))
    (h : (produceCitiesFrom s.startTurn (List.range s.cities.length)).1.cities.map City.economy =
      t.cities.map City.economy) :
    ∀ k < s.cities.length, ∀ city, s.cities[k]? = some city →
      city.Meets (yieldsFrom city (s.foundAtBase k)) := by
  obtain ⟨hcompletes, heconomy⟩ := resolveCitiesFrom_economy none List.nodup_range s
    (fun i hi => List.mem_range.1 hi) s.buildings rfl
  rw [ht] at hcompletes heconomy
  intro k
  induction k using Nat.strong_induction_on with
  | _ k ih =>
      intro hk city hcity
      have hprev : ∀ i < k, ∀ city, s.cities[i]? = some city →
          city.Meets (yieldsFrom city (s.foundAtBase i)) := fun i hi => ih i hi (by omega)
      have hmem := mem_found_of_meets hk hprev
      refine City.meets_iff.2 ⟨fun item hdue => (hcompletes.1 rfl _ hmem item ?_).1, ?_⟩
      · rw [dueAt, hcity]
        exact hdue
      · have hproduced := produceCitiesFrom_getElem? (s := s.startTurn)
          (range_eq_append_cons hk ▸ List.nodup_range)
          (fun j hj => lt_trans (List.mem_range.1 hj) hk)
          (fun j hj city hj' => (hprev j (List.mem_range.1 hj) city hj').factory) hcity
        rw [← range_eq_append_cons hk] at hproduced
        have hsame := congrArg (·[k]?) h
        rw [List.getElem?_map, List.getElem?_map, hproduced,
          (heconomy rfl).visited _ hmem city hcity] at hsame
        exact Option.some_inj.1 hsame

section Meeting

variable (hmeets : ∀ i < s.cities.length, ∀ city, s.cities[i]? = some city →
  city.Meets (yieldsFrom city (s.foundAtBase i)))
include hmeets

/-- No city throws in the application. -/
theorem produceCities_of_meets :
    (produceCitiesFrom s.startTurn (List.range s.cities.length)).2 = none :=
  (produceCitiesFrom_economy List.nodup_range s.startTurn fun _ hi => List.mem_range.1 hi).1.2
    fun i hi city hcity => (hmeets i (List.mem_range.1 hi) city hcity).factory

/-- No city throws in the turn resolver. -/
theorem resolveCities_of_meets :
    ∃ t, resolveCitiesFrom none s (List.range s.cities.length) = (t, none) := by
  refine ⟨_, Prod.ext rfl ((resolveCitiesFrom_economy none List.nodup_range s
    (fun i hi => List.mem_range.1 hi) s.buildings rfl).1.2 fun x hx item hdue => ?_)⟩
  rw [(found_of_meets hmeets).1] at hx
  obtain ⟨i, hi, rfl⟩ := List.mem_map.1 hx
  obtain ⟨city, hcity, hdue⟩ := Option.bind_eq_some_iff.1 hdue
  exact ⟨(City.meets_iff.1 (hmeets i (List.mem_range.1 hi) city hcity)).1 item hdue,
    fun reg hreg => nomatch hreg⟩

variable {t : GameState} (ht : resolveCitiesFrom none s (List.range s.cities.length) = (t, none))
include ht

/-- **The buildings agree exactly when they are made for their owners.** -/
theorem buildings_agree_iff :
    (processTurn s).1.buildings = t.buildings ↔
      ∀ city ∈ s.cities, ∀ b ∈ city.made, b.factionId = city.owner := by
  have hlt : ∀ i ∈ List.range s.cities.length, i < s.cities.length :=
    fun i hi => List.mem_range.1 hi
  have heconomy := (resolveCitiesFrom_economy none List.nodup_range s hlt s.buildings rfl).2
  rw [ht] at heconomy
  have hproduced := (produceCitiesFrom_economy List.nodup_range s.startTurn hlt).2
    (produceCities_of_meets hmeets)
  have hbuilt := List.append_cancel_left (found_of_meets hmeets).2
  rw [(processTurn_spec s).2.2.2.1, hproduced.buildings, (heconomy rfl).buildings, hbuilt,
    ← numbered_placed_eq_iff s.nextBuildingId]
  exact List.append_right_inj s.buildings

/-- **The gold agrees exactly when the cities pay what the buildings yield.** -/
theorem gold_agrees_iff (account : Option ℕ) :
    (processTurn s).1.goldIn account = t.goldIn account ↔
      ((List.range s.cities.length).map fun i => s.cities[i]?.elim 0 fun city =>
        if city.account s.factionIds = account then
          (yieldsFrom city (s.foundAtBase i)).gold
        else 0).sum =
      if account = none ∨ account = s.playerAccount then
        (totalYield (s.foundAtBase s.cities.length)).gold
      else 0 := by
  have hlt : ∀ i ∈ List.range s.cities.length, i < s.cities.length :=
    fun i hi => List.mem_range.1 hi
  have heconomy := (resolveCitiesFrom_economy none List.nodup_range s hlt s.buildings rfl).2
  rw [ht] at heconomy
  have hnone := produceCities_of_meets hmeets
  have hproduced := (produceCitiesFrom_economy List.nodup_range s.startTurn hlt).2 hnone
  rw [(processTurn_spec s).2.2.2.2 hnone account, (heconomy rfl).goldIn, hproduced.buildings,
    collected_of_meets hmeets, add_right_inj, eq_comm]
  exact Iff.of_eq (congrArg _ (if_congr Iff.rfl (totalYield_made_gold _) rfl))

/-- **The cities agree when they make do without the yields of buildings.** -/
theorem cities_agree :
    (processTurn s).1.cities.map City.economy = t.cities.map City.economy := by
  have hlt : ∀ i ∈ List.range s.cities.length, i < s.cities.length :=
    fun i hi => List.mem_range.1 hi
  have heconomy := (resolveCitiesFrom_economy none List.nodup_range s hlt s.buildings rfl).2
  rw [ht] at heconomy
  have hproduced := (produceCitiesFrom_economy List.nodup_range s.startTurn hlt).2
    (produceCities_of_meets hmeets)
  rw [(processTurn_spec s).2.2.1]
  refine List.ext_getElem? fun k => ?_
  rw [List.getElem?_map, List.getElem?_map]
  cases hcity : s.cities[k]? with
  | none =>
      have hk : s.cities.length ≤ k := List.getElem?_eq_none_iff.1 hcity
      have hnot : k ∉ List.range s.cities.length := by simpa using hk
      rw [produceCitiesFrom_others hnot, (heconomy rfl).others k hnot]
      rfl
  | some city =>
      have hk : k < s.cities.length := (List.getElem?_eq_some_iff.1 hcity).1
      have hmem := mem_found_of_meets hk fun i hi => hmeets i (by omega)
      rw [hproduced.cities k (List.mem_range.2 hk) city hcity,
        (heconomy rfl).visited _ hmem city hcity]
      have hsame := (City.meets_iff.1 (hmeets k hk city hcity)).2
      rw [City.applyProduction_fst (hmeets k hk city hcity).factory] at hsame
      exact congrArg some hsame

end Meeting

/-- **The two ways of ending a turn agree exactly on the states for which they come to the
same.** -/
theorem processTurn_agrees_iff (s : GameState) :
    SameEnd (processTurn s).1 (resolveTurn s none).1 ↔ s.PathsMeet := by
  obtain ⟨hturn, hunits, hcities, -, -⟩ := processTurn_spec s
  constructor
  · intro h
    obtain ⟨t, ht, hend⟩ := resolveTurn_of_turn (h.turn.symm.trans hturn)
    have hsame := h.cities
    rw [hcities, hend] at hsame
    have hmeets := meets_of_cities ht hsame
    refine ⟨movement_eq_iff.1 ?_, fun i city hcity => ?_, (buildings_agree_iff hmeets ht).1 ?_,
      fun account => (gold_agrees_iff hmeets ht account).1 ?_⟩
    · have hmove := h.movement
      have hkept := resolveCitiesFrom_none_units (List.range s.cities.length) s
      rw [ht] at hkept
      rw [hunits, hend, closeTurn, hkept] at hmove
      exact hmove
    · exact hmeets i (List.getElem?_eq_some_iff.1 hcity).1 city hcity
    · rw [h.buildings, hend]
      rfl
    · have hsum := h.goldIn account
      rw [hend] at hsum
      cases account with
      | none => exact hsum
      | some k => exact hsum
  · intro h
    have hmeets : ∀ i < s.cities.length, ∀ city, s.cities[i]? = some city →
        city.Meets (yieldsFrom city (s.foundAtBase i)) := fun i _ city hcity =>
          h.cities i city hcity
    obtain ⟨t, ht⟩ := resolveCities_of_meets hmeets
    have hok : resolveTurn s none = (t.closeTurn, .ok (NeutralAI.generateActions t)) := by
      rw [resolveTurn_eq, resolveCities, ht]
    have hkept := resolveCitiesFrom_none_units (List.range s.cities.length) s
    rw [ht] at hkept
    rw [hok]
    refine ⟨hturn.trans (resolveTurn_turn hok).symm, ?_, ?_,
      (buildings_agree_iff hmeets ht).2 h.owners, fun account => ?_⟩
    · rw [hunits]
      refine (movement_eq_iff.2 h.rested).trans ?_
      rw [← show t.units = s.units from hkept]
      rfl
    · exact (cities_agree hmeets ht).trans rfl
    · have hsum := (gold_agrees_iff hmeets ht account).2 (h.gold account)
      cases account with
      | none => exact hsum
      | some k => exact hsum

end GameState

/-- A city of the player's faction with a market in it. -/
def marketTown : GameState :=
  let registered : GameState :=
    { plainField with factionRegistry := (({} : FactionRegistry).addFaction "Player" .player 0).1 }
  ((registered.addCity (City.create "Market" 1 1 1)).1.addBuilding
    { makeMarket 1 1 with factionId := 1 }).1

/-- The application pays the gold of the market into the common account as well. -/
theorem marketTown_paid_twice :
    (∃ f ∈ marketTown.factionRegistry.factions, f.id = playerFactionId) ∧
      ¬ GameState.SameEnd (processTurn marketTown).1 (resolveTurn marketTown none).1 := by
  constructor
  · exact ⟨_, List.mem_singleton.2 rfl, rfl⟩
  · intro h
    have hgold := h.goldIn none
    have hlocal : (processTurn marketTown).1.goldIn none = 3 := rfl
    have hother : (resolveTurn marketTown none).1.goldIn none = 0 := rfl
    rw [hlocal, hother] at hgold
    cases hgold

end My4X
