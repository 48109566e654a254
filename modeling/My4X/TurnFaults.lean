/-
**Turns that throw.**

A unit order carries the key of a template.  The key is looked up when the order is paid for, many
turns after it was accepted, and the lookup throws when nothing is registered under the key; the
cities that come later then have no turn, no unit recovers its movement and the turn counter stays.
Whether this happens can be told from the queues and the buildings before the turn: the orders that
fall due are known in advance.

Main definitions:

* `My4X.TurnResolver.dueFrom` — the orders that fall due in a turn, city by city;
* `My4X.GameState.KnownDue` — the units among them are of known types.

Main results:

* `My4X.TurnResolver.resolveCitiesFrom_completes_iff` — the turns of the cities from one on;
* `My4X.resolveTurn_completes_iff` — **in every state that requests lead to, the turn completes
  exactly when no unit of an unknown type falls due**.
-/

import My4X.Queues

set_option relaxedAutoImplicit false
set_option autoImplicit false

namespace My4X

namespace TurnResolver

/-! ### The orders that fall due -/

/-- The yields of some buildings that share a tile with the city. -/
def yieldsFrom (city : City) (buildings : List Building) : Resource :=
  buildings.foldl
    (fun total building =>
      if building.occupiedTiles.toList.any fun t => city.containsTile t.row t.col then
        total + building.yieldPerTurn
      else total) {}

/-- What the yields depend on. -/
def yieldSource (b : Building) : SortedSet TileCoord × Resource := (b.occupiedTiles, b.yieldPerTurn)

theorem yieldsFrom_congr {city : City} {bs bs' : List Building}
    (h : bs.map yieldSource = bs'.map yieldSource) : yieldsFrom city bs = yieldsFrom city bs' := by
  have hfold : ∀ bs : List Building, yieldsFrom city bs =
      (bs.map yieldSource).foldl
        (fun total source =>
          if source.1.toList.any fun t => city.containsTile t.row t.col then total + source.2
          else total) {} := fun bs => by
    rw [List.foldl_map]
    rfl
  rw [hfold, h, ← hfold]

/-- The building that an order asks for, if it asks for one. -/
def orderedBuilding (city : City) (item : BuildQueueItem) : List Building :=
  match item.orderType, item.factory with
  | .building, some factory =>
      [{ factory item.targetRow item.targetCol with factionId := city.owner }]
  | _, _ => []

/-- **The orders that fall due in a turn**, city by city: a city also collects the yields of the
buildings that the cities before it place. -/
def dueFrom (buildings : List Building) : List City → List (City × BuildQueueItem)
  | [] => []
  | city :: cities =>
      match city.buildQueue.due?
          (City.productionPerTurn + (yieldsFrom city buildings).production) with
      | none => dueFrom buildings cities
      | some item => (city, item) :: dueFrom (buildings ++ orderedBuilding city item) cities

/-! ### Orders that can be completed -/

/-- A building order has a factory. -/
def HasFactory (item : BuildQueueItem) : Prop := item.orderType = .building → item.factory ≠ none

/-- A unit order is of a known type. -/
def KnownType (reg : UnitTypeRegistry) (item : BuildQueueItem) : Prop :=
  item.orderType = .unit → reg.hasTemplate item.templateKey = true

theorem getTemplate_eq_ok {reg : UnitTypeRegistry} {key : String} {tmpl : UnitTemplate}
    (h : reg.getTemplate key = .ok tmpl) : reg.hasTemplate key = true := by
  rw [UnitTypeRegistry.getTemplate] at h
  rw [UnitTypeRegistry.hasTemplate]
  split at h
  · next hlookup => rw [hlookup]; rfl
  · simp at h

theorem getTemplate_eq_error {reg : UnitTypeRegistry} {key : String} {e : Fault}
    (h : reg.getTemplate key = .error e) : reg.hasTemplate key = false := by
  rw [UnitTypeRegistry.getTemplate] at h
  rw [UnitTypeRegistry.hasTemplate]
  split at h
  · simp at h
  · next hlookup => rw [hlookup]; rfl

/-- **An order that can be completed**: a building that has a factory, or a unit that is of a known
type where units are spawned at all. -/
def Completable (unitRegistry : Option UnitTypeRegistry) (item : BuildQueueItem) : Prop :=
  HasFactory item ∧ ∀ reg, unitRegistry = some reg → KnownType reg item

/-- **The turn of a city completes exactly when what is due can be completed.** -/
theorem resolveCity_completes_iff (unitRegistry : Option UnitTypeRegistry) {s : GameState} {i : ℕ}
    {city : City} (hcity : s.cities[i]? = some city) :
    (resolveCity unitRegistry s i).2 = none ↔
      ∀ item, dueOrder s city = some item → Completable unitRegistry item := by
  obtain ⟨city', -, -, -, hturn⟩ := resolveCity_spec unitRegistry hcity
  generalize (resolveCity unitRegistry s i).2 = thrown at hturn
  cases hturn with
  | saves due queue buildings units => simp [due]
  | builds item factory due type made queue buildings units =>
      simp [due, Completable, HasFactory, KnownType, type, made]
  | drops item due type types queue buildings units =>
      simp [due, Completable, HasFactory, type, types]
  | spawns item reg tmpl due type types known queue buildings units =>
      simp [due, Completable, HasFactory, KnownType, type, types, getTemplate_eq_ok known]
  | misfires item due type made queue buildings units =>
      simp [due, Completable, HasFactory, type, made]
  | fails item reg e due type types unknown queue buildings units =>
      simp [due, Completable, HasFactory, KnownType, type, types, getTemplate_eq_error unknown]

/-- **The turn of a city throws exactly when a unit of an unknown type is due**, and otherwise
places what is due. -/
theorem resolveCity_completes (reg : UnitTypeRegistry) {s : GameState} {i : ℕ} {city : City}
    (hcity : s.cities[i]? = some city)
    (hfactory : ∀ item ∈ city.buildQueue.queue, HasFactory item) :
    ((resolveCity (some reg) s i).2 = none ↔
      ∀ item, dueOrder s city = some item → KnownType reg item) ∧
      ((resolveCity (some reg) s i).2 = none →
        (resolveCity (some reg) s i).1.buildings.map yieldSource =
          s.buildings.map yieldSource ++
            ((dueOrder s city).elim [] (orderedBuilding city)).map yieldSource) := by
  constructor
  · rw [resolveCity_completes_iff (some reg) hcity]
    refine forall₂_congr fun item hdue => ?_
    exact ⟨fun h => h.2 reg rfl, fun h => ⟨hfactory item (mem_of_dueOrder hdue), fun reg' hreg => by
      rwa [← Option.some_inj.1 hreg]⟩⟩
  · obtain ⟨city', -, -, -, hturn⟩ := resolveCity_spec (some reg) hcity
    generalize (resolveCity (some reg) s i).2 = thrown at hturn
    have hbuilding : ∀ {item : BuildQueueItem}, item.orderType = .unit →
        orderedBuilding city item = [] := by
      intro item htype
      rw [orderedBuilding, htype]
    cases hturn with
    | saves due queue buildings units => simp [due, buildings]
    | builds item factory due type made queue buildings units =>
        simp [due, buildings, type, orderedBuilding, made, placedBuilding, yieldSource]
    | drops item due type types queue buildings units => simp at types
    | spawns item reg' tmpl due type types known queue buildings units =>
        simp [due, buildings, hbuilding type]
    | misfires item due type made queue buildings units => simp
    | fails item reg' e due type types unknown queue buildings units => simp

/-- **The turns of the cities from one on complete exactly when no unit of an unknown type falls
due.** -/
theorem resolveCitiesFrom_completes_iff (reg : UnitTypeRegistry) :
    ∀ (n k : ℕ) (s : GameState) (buildings : List Building),
      buildings.map yieldSource = s.buildings.map yieldSource → k + n = s.cities.length →
      s.AllOrders HasFactory →
      ((resolveCitiesFrom (some reg) s (List.range' k n)).2 = none ↔
        ∀ x ∈ dueFrom buildings (s.cities.drop k), KnownType reg x.2) := by
  intro n
  induction n with
  | zero =>
      intro k s buildings _ hk _
      rw [List.drop_of_length_le (by omega)]
      simp [resolveCitiesFrom, dueFrom]
  | succ n ih =>
      intro k s buildings hsame hk hfactory
      have hlt : k < s.cities.length := by omega
      have hcity : s.cities[k]? = some s.cities[k] := List.getElem?_eq_getElem hlt
      obtain ⟨hthrows, hplaces⟩ := resolveCity_completes reg hcity
        (hfactory _ (List.getElem_mem hlt))
      obtain ⟨city', hcities, -, -, -⟩ := resolveCity_spec (some reg) hcity
      have hdue : s.cities[k].buildQueue.due? (City.productionPerTurn +
          (yieldsFrom s.cities[k] buildings).production) = dueOrder s s.cities[k] := by
        rw [yieldsFrom_congr hsame]
        rfl
      rw [List.range'_succ, resolveCitiesFrom, List.drop_eq_getElem_cons hlt, dueFrom, hdue]
      -- the turn of the city, and then the ones after it
      have hlater := fun buildings' hsame' => ih (k + 1) (resolveCity (some reg) s k).1 buildings'
        hsame' (by rw [hcities, List.length_set]; omega) (hfactory.resolveCity (some reg) k)
      rw [hcities, List.drop_set_of_lt (by omega)] at hlater
      split
      · next s₁ e hout =>
          rw [hout] at hthrows
          cases hd : dueOrder s s.cities[k] with
          | none => simp [hd] at hthrows
          | some item =>
              simp only [hd, Option.some.injEq, forall_eq', reduceCtorEq, false_iff] at hthrows ⊢
              exact fun h => hthrows (h _ List.mem_cons_self)
      · next s₁ hout =>
          rw [hout] at hthrows hplaces hlater
          have hmap := hplaces rfl
          have hknown := hthrows.1 rfl
          cases hd : dueOrder s s.cities[k] with
          | none =>
              rw [hd] at hmap
              exact hlater buildings (by rw [hsame, hmap]; simp)
          | some item =>
              rw [hd] at hmap
              have hrest := hlater (buildings ++ orderedBuilding s.cities[k] item)
                (by rw [hmap, List.map_append, hsame]; rfl)
              rw [hrest]
              simp only [List.mem_cons, forall_eq_or_imp]
              exact (and_iff_right (hknown item hd)).symm

/-- Without a registry of unit types the turn of a city throws nothing. -/
theorem resolveCity_none_completes {s : GameState} (h : s.AllOrders HasFactory) (i : ℕ) :
    (resolveCity none s i).2 = none := by
  cases hcity : s.cities[i]? with
  | none => rw [resolveCity_of_none none hcity]
  | some city =>
      refine (resolveCity_completes_iff none hcity).2 fun item hdue => ?_
      exact ⟨h city (List.mem_of_getElem? hcity) item (mem_of_dueOrder hdue),
        fun reg hreg => nomatch hreg⟩

/-- Nor do the turns of the cities. -/
theorem resolveCitiesFrom_none_completes :
    ∀ (is : List ℕ) (s : GameState), s.AllOrders HasFactory →
      (resolveCitiesFrom none s is).2 = none := by
  intro is
  induction is with
  | nil => intro s _; rfl
  | cons i is ih =>
      intro s h
      have hone := resolveCity_none_completes h i
      have hkeep := h.resolveCity none i
      rw [resolveCitiesFrom]
      cases hout : resolveCity none s i with
      | mk s₁ thrown =>
          rw [hout] at hone hkeep
          obtain rfl : thrown = none := hone
          exact ih s₁ hkeep

end TurnResolver

/-! ### The turn -/

/-- A turn without a registry of unit types, when every building order has a factory. -/
theorem resolveTurn_none_completes {s : GameState} (h : s.AllOrders TurnResolver.HasFactory) :
    ∃ out, (resolveTurn s none).2 = .ok out := by
  have hcities := TurnResolver.resolveCitiesFrom_none_completes (List.range s.cities.length) s h
  rw [resolveTurn_eq]
  cases hout : TurnResolver.resolveCities s none with
  | mk s' thrown =>
      rw [TurnResolver.resolveCities] at hout
      rw [hout] at hcities
      obtain rfl : thrown = none := hcities
      exact ⟨_, rfl⟩

/-- **The units that fall due in the next turn are of known types.** -/
def GameState.KnownDue (reg : UnitTypeRegistry) (s : GameState) : Prop :=
  ∀ x ∈ TurnResolver.dueFrom s.buildings s.cities, TurnResolver.KnownType reg x.2

theorem resolveTurn_eq_ok_iff {s : GameState} {unitRegistry : Option UnitTypeRegistry} :
    (∃ out, (resolveTurn s unitRegistry).2 = .ok out) ↔
      (TurnResolver.resolveCities s unitRegistry).2 = none := by
  rw [resolveTurn_eq]
  split
  · next s' e hout => simp [hout]
  · next s' hout => simp [hout]

/-- **In every state that the requests of players lead to, the turn completes exactly when no unit
of an unknown type falls due.** -/
theorem resolveTurn_completes_iff (reg : UnitTypeRegistry) (session session' : GameSession)
    (h : session.state.AllOrders TurnResolver.HasFactory)
    (requests : List (PlayerId × ActionVariant))
    (hrun : Runs.run GameSession.step session
      (requests.map fun r => .processAction r.1 r.2) = some session') :
    (∃ out, (resolveTurn session'.state (some reg)).2 = .ok out) ↔
      session'.state.KnownDue reg := by
  have hend : session'.state.AllOrders TurnResolver.HasFactory := by
    refine Runs.run_invariant (P := fun _ _ => True)
      (I := fun session => session.state.AllOrders TurnResolver.HasFactory) ?_ _ session session' h
      (Runs.along_of_forall (fun _ _ => trivial) _ session) hrun
    intro session op session' hs _ hstep
    refine hs.apply (GameSession.step_eq_some hstep) fun i item heffect => ?_
    rcases SessionOp.effect_order heffect with ⟨_, a, -, rfl⟩ | ⟨_, a, factory, -, -, rfl⟩
    · exact fun htype => by cases htype
    · exact fun _ => Option.some_ne_none factory
  rw [resolveTurn_eq_ok_iff, TurnResolver.resolveCities, List.range_eq_range',
    TurnResolver.resolveCitiesFrom_completes_iff reg _ 0 session'.state session'.state.buildings rfl
      (by omega) hend]
  rfl

/-- A client orders a unit of a type that is not registered, and the next turn throws. -/
theorem unknown_type_stops_turn :
    ∃ reg session', UnitTypeRegistry.empty.registerDefaults = .ok reg ∧
      (∀ city ∈ capitalSession.state.cities, city.buildQueue.queue = []) ∧
      Runs.run GameSession.step capitalSession
        [.processAction 7 (.produceUnit { cityId := 1, templateKey := "Dragon" })] = some session' ∧
      (resolveTurn session'.state (some reg)).2 =
        .error (.outOfRange "UnitTemplate not found: Dragon") :=
  ⟨_, _, rfl, capitalSession_queues, rfl, rfl⟩

/-- A client orders a warrior, and the next turn completes or not by the condition. -/
theorem capitalSession_completes_iff :
    ∃ reg session', UnitTypeRegistry.empty.registerDefaults = .ok reg ∧
      Runs.run GameSession.step capitalSession
        ([(7, ActionVariant.produceUnit { cityId := 1, templateKey := "Warrior" })].map fun r =>
          .processAction r.1 r.2) = some session' ∧
      ((∃ out, (resolveTurn session'.state (some reg)).2 = .ok out) ↔
        session'.state.KnownDue reg) := by
  have hstart : ∃ reg session', UnitTypeRegistry.empty.registerDefaults = .ok reg ∧
      Runs.run GameSession.step capitalSession
        ([(7, ActionVariant.produceUnit { cityId := 1, templateKey := "Warrior" })].map fun r =>
          .processAction r.1 r.2) = some session' := ⟨_, _, rfl, rfl⟩
  obtain ⟨reg, session', hreg, hrun⟩ := hstart
  exact ⟨reg, session', hreg, hrun, resolveTurn_completes_iff reg capitalSession session'
    (GameState.allOrders_of_empty capitalSession_queues) _ hrun⟩

end My4X
