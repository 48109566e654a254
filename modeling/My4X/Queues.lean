/-
**What happens to the queues of the cities.**

The queue of a city changes in three ways: an accepted order is put at its back, the turn of the
city takes the front order off when it is paid for, and a capture empties it.  What holds of every
order that is accepted, and of those there were at the beginning, therefore holds of every order in
a queue.

Main definitions:

* `My4X.GameState.AllOrders` — every order in a queue has a property.

Main results:

* `My4X.GameAction.execute_cities` — what an action on units does to the cities;
* `My4X.TurnResolver.CityTurn.queue_subset` — the turn of a city adds no order;
* `My4X.GameState.AllOrders.apply` — **an effect keeps what the orders it queues have as well**.
-/

import My4X.SessionRuns

set_option relaxedAutoImplicit false
set_option autoImplicit false

namespace My4X

open GameState

/-! ### Actions -/

/-- **An action on units leaves the cities and the buildings as they are**, but for a city that is
captured. -/
theorem GameAction.execute_cities {action : GameAction} {s s' : GameState} {executed : Bool}
    (h : action.execute s = .ok (s', executed)) :
    s'.buildings = s.buildings ∧
      ((s'.cities = s.cities ∧ ∀ a, action = .capture a → a.validate s ≠ .valid) ∨
        ∃ a p i city, action = .capture a ∧ a.validate s = .valid ∧
          CaptureAction.Taken a s p i city ∧
          s'.cities = s.cities.set i (CaptureAction.captured city p.unit)) := by
  cases action with
  | move a =>
      obtain ⟨r, hex, -⟩ := GameAction.execute_move.1 h
      obtain ⟨-, ⟨-, -, rfl⟩ | ⟨-, -, p, u, t, -, -, -, rfl⟩⟩ := MoveAction.execute_cases hex
      · exact ⟨rfl, Or.inl ⟨rfl, fun _ hcapture => by cases hcapture⟩⟩
      · exact ⟨rfl, Or.inl ⟨rfl, fun _ hcapture => by cases hcapture⟩⟩
  | attack a =>
      obtain ⟨r, hex, -⟩ := GameAction.execute_attack.1 h
      have hsame : s'.buildings = s.buildings ∧ s'.cities = s.cities := by
        obtain ⟨-, ⟨-, -, rfl⟩ | ⟨-, -, p, q, attacker, target, -, rfl⟩⟩ :=
          AttackAction.execute_cases hex
        · exact ⟨rfl, rfl⟩
        · rw [AttackAction.outcome_eq]
          exact ⟨rfl, rfl⟩
      exact ⟨hsame.1, Or.inl ⟨hsame.2, fun _ hcapture => by cases hcapture⟩⟩
  | capture a =>
      obtain ⟨r, hex, -⟩ := GameAction.execute_capture.1 h
      obtain ⟨hv, ⟨-, hne, rfl⟩ | ⟨-, hvalid, p, i, city, htaken, rfl⟩⟩ :=
        CaptureAction.execute_cases hex
      · refine ⟨rfl, Or.inl ⟨rfl, ?_⟩⟩
        rintro _ ⟨⟩
        rw [← hv]
        exact hne
      · exact ⟨rfl, Or.inr ⟨a, p, i, city, rfl, hv.symm.trans hvalid, htaken, rfl⟩⟩

/-- The index of the city that a capture takes, if it takes one. -/
def CaptureAction.taken? (a : CaptureAction) (s : GameState) : Option ℕ :=
  if a.validate s = .valid then
    (s.units.get? a.unitIndex).bind fun p => findCityCenterAt s p.unit.row p.unit.col
  else none

/-- The index of the city that an action takes, if it takes one. -/
def GameAction.taken? (action : GameAction) (s : GameState) : Option ℕ :=
  match action with
  | .capture a => a.taken? s
  | .move _ | .attack _ => none

/-- **What an action does to the cities, by the city it takes.** -/
theorem GameAction.execute_taken {action : GameAction} {s s' : GameState} {executed : Bool}
    (h : action.execute s = .ok (s', executed)) :
    match action.taken? s with
    | none => s'.cities = s.cities
    | some i => ∃ city unit, s.cities[i]? = some city ∧
        s'.cities = s.cities.set i (CaptureAction.captured city unit) := by
  obtain ⟨-, ⟨hcities, hrefused⟩ | ⟨a, p, i, city, rfl, hvalid, htaken, hcities⟩⟩ :=
    GameAction.execute_cities h
  · have hnone : action.taken? s = none := by
      cases action with
      | capture a => exact if_neg (hrefused a rfl)
      | move a => rfl
      | attack a => rfl
    rw [hnone]
    exact hcities
  · have hsome : (GameAction.capture a).taken? s = some i := by
      rw [GameAction.taken?, CaptureAction.taken?, if_pos hvalid, htaken.unit]
      exact htaken.index
    rw [hsome]
    exact ⟨city, p.unit, htaken.get, hcities⟩

/-! ### The turn of a city -/

namespace TurnResolver

variable {unitRegistry : Option UnitTypeRegistry} {s s' : GameState} {city city' : City}
  {thrown : Option Fault}

/-- What the turn of a city does to its queue, by what becomes of the front order. -/
theorem CityTurn.queue_cases (h : CityTurn unitRegistry s city city' s' thrown) :
    city'.buildQueue = city.buildQueue.save (cityProduction s city) ∨
      ∃ item, dueOrder s city = some item ∧ city'.buildQueue = city.buildQueue.cancel := by
  cases h with
  | saves due queue buildings units => exact Or.inl queue
  | builds item factory due type made queue buildings units => exact Or.inr ⟨item, due, queue⟩
  | drops item due type types queue buildings units => exact Or.inr ⟨item, due, queue⟩
  | spawns item reg tmpl due type types known queue buildings units =>
      exact Or.inr ⟨item, due, queue⟩
  | misfires item due type made queue buildings units => exact Or.inl queue
  | fails item reg e due type types unknown queue buildings units => exact Or.inr ⟨item, due, queue⟩

/-- The turn of a city adds no order to its queue. -/
theorem CityTurn.queue_subset (h : CityTurn unitRegistry s city city' s' thrown) :
    city'.buildQueue.queue ⊆ city.buildQueue.queue := by
  rcases h.queue_cases with hsaved | ⟨item, hdue, hpaid⟩
  · rw [hsaved, BuildQueue.save_queue]
    exact fun _ => id
  · rw [hpaid, (BuildQueue.cancel_of_due hdue).1]
    exact List.subset_cons_self _ _

end TurnResolver

/-! ### All orders -/

/-- Every order in a queue has a property. -/
def GameState.AllOrders (P : BuildQueueItem → Prop) (s : GameState) : Prop :=
  ∀ city ∈ s.cities, ∀ item ∈ city.buildQueue.queue, P item

/-- Empty queues have no orders. -/
theorem GameState.allOrders_of_empty {P : BuildQueueItem → Prop} {s : GameState}
    (h : ∀ city ∈ s.cities, city.buildQueue.queue = []) : s.AllOrders P := by
  intro city hcity item hitem
  rw [h city hcity] at hitem
  cases hitem

namespace GameState.AllOrders

variable {P : BuildQueueItem → Prop} {s s' : GameState}

/-- A change of a city whose queue has the property as well. -/
theorem set (h : s.AllOrders P) {i : ℕ} {city' : City} (hcities : s'.cities = s.cities.set i city')
    (hqueue : ∀ item ∈ city'.buildQueue.queue, P item) : s'.AllOrders P := by
  intro city hcity item hitem
  rw [hcities] at hcity
  rcases List.mem_or_eq_of_mem_set hcity with hcity | rfl
  · exact h city hcity item hitem
  · exact hqueue item hitem

theorem resolveCity (unitRegistry : Option UnitTypeRegistry) (h : s.AllOrders P) (i : ℕ) :
    (TurnResolver.resolveCity unitRegistry s i).1.AllOrders P := by
  cases hcity : s.cities[i]? with
  | none =>
      rw [TurnResolver.resolveCity_of_none unitRegistry hcity]
      exact h
  | some city =>
      obtain ⟨city', hcities, -, -, hturn⟩ := TurnResolver.resolveCity_spec unitRegistry hcity
      refine h.set hcities fun item hitem => ?_
      exact h city (List.mem_of_getElem? hcity) item (hturn.queue_subset hitem)

theorem resolveTurn (unitRegistry : Option UnitTypeRegistry) (h : s.AllOrders P) :
    (My4X.resolveTurn s unitRegistry).1.AllOrders P := by
  refine (resolveTurn_iff (I := AllOrders P) (fun _ => Iff.rfl) s unitRegistry).2 ?_
  exact TurnResolver.resolveCitiesFrom_keeps (P := fun _ _ => True) (I := AllOrders P)
    (fun s i h _ => h.resolveCity unitRegistry i) _ s h
    (Runs.along_of_forall (fun _ _ => trivial) _ s)

/-- **An effect keeps what the order it queues has as well.** -/
theorem apply (h : s.AllOrders P) {effect : Effect} (heffect : effect.apply s = some s')
    (horder : ∀ i item, effect = .order i item → P item) : s'.AllOrders P := by
  cases effect with
  | nothing =>
      obtain rfl := Option.some_inj.1 heffect
      exact h
  | turn unitRegistry =>
      obtain rfl := Option.some_inj.1 heffect
      exact h.resolveTurn unitRegistry
  | order i item =>
      obtain rfl := Option.some_inj.1 heffect
      rw [GameState.order]
      split
      · exact h
      · next city hcity =>
          refine h.set rfl fun item' hitem => ?_
          rcases List.mem_append.1 hitem with hitem | hitem
          · exact h city (List.mem_of_getElem? hcity) item' hitem
          · rw [List.mem_singleton.1 hitem]
            exact horder i item rfl
  | act action =>
      rw [Effect.apply] at heffect
      split at heffect
      · simp at heffect
      · next hex =>
          obtain rfl := Option.some_inj.1 heffect
          obtain ⟨-, ⟨hcities, -⟩ | ⟨a, p, i, city, -, -, -, hcities⟩⟩ :=
            GameAction.execute_cities hex
          · intro city hcity
            rw [hcities] at hcity
            exact h city hcity
          · -- a captured city has nothing in its queue
            exact h.set hcities fun item hitem => by cases hitem

end GameState.AllOrders

/-- Ending the turn queues no order. -/
theorem SessionOp.advanceEffect_ne_order (session : GameSession) (i : ℕ) (item : BuildQueueItem) :
    SessionOp.advanceEffect session ≠ .order i item := by
  rw [SessionOp.advanceEffect]
  split <;> simp

/-- The orders that a session queues are the ones of its players. -/
theorem SessionOp.effect_order {session : GameSession} {op : SessionOp} {i : ℕ}
    {item : BuildQueueItem} (h : op.effect session = .order i item) :
    (∃ playerId a, op = .processAction playerId (.produceUnit a) ∧
      item = BuildQueue.unitOrder a.templateKey a.productionCost) ∨
    ∃ playerId a factory, op = .processAction playerId (.build a) ∧
      ActionProcessor.buildingFactory a.buildingType = some factory ∧
      item = BuildQueue.buildingOrder factory a.targetRow a.targetCol := by
  have horder : ∀ playerId cityId item', orderEffect session playerId cityId item' = .order i item →
      item' = some item := by
    intro playerId cityId item' h
    rw [orderEffect] at h
    split at h
    · split at h
      · simp at h
      · cases item' with
        | none => simp at h
        | some item' =>
            simp only [Option.map_some, Option.getD_some, Effect.order.injEq] at h
            rw [h.2]
    · simp at h
  cases op with
  | tryAdvanceTurn => exact absurd h (advanceEffect_ne_order session i item)
  | resolveTurn unitRegistry => simp [effect] at h
  | processAction playerId action =>
      rw [effect] at h
      split at h
      · simp at h
      · cases action with
        | game action => simp [actionEffect] at h
        | endTurn =>
            rw [actionEffect] at h
            split at h
            · simp at h
            · exact absurd h (advanceEffect_ne_order _ i item)
        | produceUnit a =>
            have hitem := horder _ _ _ h
            exact Or.inl ⟨playerId, a, rfl, (Option.some_inj.1 hitem).symm⟩
        | build a =>
            obtain ⟨factory, hfactory, hitem⟩ := Option.map_eq_some_iff.1 (horder _ _ _ h)
            exact Or.inr ⟨playerId, a, factory, rfl, hfactory, hitem.symm⟩

/-- A field with a city in its middle, and the player of the city. -/
def capitalSession : GameSession :=
  { state := (plainField.addCity (City.create "Capital" 1 1 1)).1
    players := AList.insert 7 { playerId := 7, factionId := 1 } ∅ }

theorem capitalSession_queues :
    ∀ city ∈ capitalSession.state.cities, city.buildQueue.queue = [] := by
  intro city hcity
  obtain rfl : city = (City.create "Capital" 1 1 1).setId 1 := List.mem_singleton.1 hcity
  rfl

end My4X
