/-
**What becomes of accepted orders.**

An accepted order waits in the queue of its city until it is paid for, unless the city is captured
before.  Then it should have been turned into one unit or one building.  A session ends its turns
without a registry of unit types, and then a unit that is paid for is never made.  This module keeps
a ledger of the orders that were accepted and of those that have left a queue, and says exactly when
no accepted order is lost.

Main definitions:

* `My4X.Fate`, `My4X.Delivered` — what becomes of an order, and when that is what was ordered;
* `My4X.Accounted` — no order is lost;
* `My4X.TurnResolver.Delivers` — a unit that falls due can be made.

Main results:

* `My4X.SessionOp.effect_queues` — an order that is reported as accepted is the one that is queued;
* `My4X.TurnResolver.accounted_resolveCity_iff` — the turn of one city;
* `My4X.accounted_along_iff` — **in every run no accepted order is lost exactly when every accepted
  order of a unit falls due in a turn that can make the unit**.
-/

import My4X.Lib.FifoLedger
import My4X.Queues

set_option relaxedAutoImplicit false
set_option autoImplicit false

namespace My4X

open GameState TurnResolver

/-! ### Fates -/

/-- **What becomes of an order that leaves the queue of its city**: the city is captured, or has had
its turn, in which these units and buildings were added to the game. -/
inductive Fate
  | captured
  | resolved (unitRegistry : Option UnitTypeRegistry) (owner : FactionId) (units : List Unit)
      (buildings : List Building)

/-- **What was ordered was delivered**: one unit of the type, or one building, of the owner of the
city; an order in a captured city is void. -/
def Delivered (item : BuildQueueItem) : Fate → Prop
  | .captured => True
  | .resolved unitRegistry owner units buildings =>
      match item.orderType with
      | .unit => buildings = [] ∧ ∃ u, units = [u] ∧ u.factionId = owner ∧
          ∀ reg, unitRegistry = some reg → reg.getTemplate item.templateKey = .ok u.template
      | .building => units = [] ∧ ∃ factory id, item.factory = some factory ∧
          buildings = [{ factory item.targetRow item.targetCol with factionId := owner, id }]

/-- The orders that were accepted and those that have left a queue, by the index of the city. -/
abbrev Ledger := FifoLedger ℕ BuildQueueItem Fate

/-- The orders in the queue of the city at an index. -/
def GameState.queueAt (s : GameState) (i : ℕ) : List BuildQueueItem :=
  match s.cities[i]? with
  | none => []
  | some city => city.buildQueue.queue

/-- **No order is lost**: the orders a city had at the start and the accepted ones are, in this
order, the ones that have left its queue and the ones in it, and what was accepted and has left the
queue was delivered. -/
def Accounted (start : ℕ → List BuildQueueItem) (x : GameState × Ledger) : Prop :=
  FifoLedger.Accounts Delivered start x.1.queueAt x.2

theorem queueAt_set_self {s s' : GameState} {i : ℕ} {city city' : City}
    (hcity : s.cities[i]? = some city) (hcities : s'.cities = s.cities.set i city') :
    s'.queueAt i = city'.buildQueue.queue := by
  rw [queueAt, hcities, List.getElem?_set_self (List.getElem?_eq_some_iff.1 hcity).1]

theorem queueAt_set_of_ne {s s' : GameState} {i : ℕ} {city' : City}
    (hcities : s'.cities = s.cities.set i city') (j : ℕ) (hj : j ≠ i) :
    s'.queueAt j = s.queueAt j := by
  rw [queueAt, queueAt, hcities, List.getElem?_set_ne hj.symm]

theorem queueAt_of_some {s : GameState} {i : ℕ} {city : City} (hcity : s.cities[i]? = some city) :
    s.queueAt i = city.buildQueue.queue := by
  rw [queueAt, hcity]

/-! ### The turn of a city -/

namespace TurnResolver

/-- The ledger after the turn of a city: what has left its queue meets what the turn has added to
the game. -/
def ledgerAfter (unitRegistry : Option UnitTypeRegistry) (s : GameState) (ledger : Ledger) (i : ℕ) :
    Ledger :=
  match s.cities[i]? with
  | none => ledger
  | some city =>
      let s' := (resolveCity unitRegistry s i).1
      ledger.depart i ((s.queueAt i).take ((s.queueAt i).length - (s'.queueAt i).length))
        (.resolved unitRegistry city.owner ((s'.units.list.drop s.units.size).map (·.unit))
          (s'.buildings.drop s.buildings.length))

/-- **An accepted order of a unit that falls due finds its type in the registry of the turn.** -/
def Delivers (unitRegistry : Option UnitTypeRegistry) (start : ℕ → List BuildQueueItem)
    (x : GameState × Ledger) (i : ℕ) : Prop :=
  ∀ city item, x.1.cities[i]? = some city → dueOrder x.1 city = some item →
    item.orderType = .unit → (start i).length ≤ (x.2.departed i).length →
    ∃ reg tmpl, unitRegistry = some reg ∧ reg.getTemplate item.templateKey = .ok tmpl

variable {unitRegistry : Option UnitTypeRegistry} {start : ℕ → List BuildQueueItem} {s : GameState}
  {ledger : Ledger} {i : ℕ}

variable (start ledger) in
/-- The books over the turn of a city, by the orders that leave its queue. -/
theorem accounted_turn_iff {city city' : City} {items : List BuildQueueItem}
    (hcity : s.cities[i]? = some city)
    (hcities : (resolveCity unitRegistry s i).1.cities = s.cities.set i city')
    (hqueue : city.buildQueue.queue = items ++ city'.buildQueue.queue) :
    Accounted start ((resolveCity unitRegistry s i).1, ledgerAfter unitRegistry s ledger i) ↔
      Accounted start (s, ledger) ∧
        ∀ item ∈ items.drop ((start i).length - (ledger.departed i).length),
          Delivered item (.resolved unitRegistry city.owner
            (((resolveCity unitRegistry s i).1.units.list.drop s.units.size).map (·.unit))
            ((resolveCity unitRegistry s i).1.buildings.drop s.buildings.length)) := by
  have hold := queueAt_of_some hcity
  have hnew := queueAt_set_self hcity hcities
  have hfront : s.queueAt i = items ++ (resolveCity unitRegistry s i).1.queueAt i := by
    rw [hold, hnew, hqueue]
  have hlost : (s.queueAt i).take
      ((s.queueAt i).length - ((resolveCity unitRegistry s i).1.queueAt i).length) = items := by
    rw [hfront, List.length_append, Nat.add_sub_cancel]
    exact List.take_left
  rw [ledgerAfter, hcity]
  dsimp only
  rw [hlost]
  exact FifoLedger.accounts_depart_iff hfront (queueAt_set_of_ne hcities)

/-- The units that are added when one is. -/
theorem units_added {s s' : GameState} {u : Unit} (h : SameUnits (s.addUnit u).1 s') :
    (s'.units.list.drop s.units.size).map (·.unit) = [u] := by
  rw [h.units]
  show ((s.units.list ++ [_]).drop s.units.list.length).map _ = [u]
  rw [List.drop_left]
  rfl

/-- The units that are added when none is. -/
theorem units_kept {s s' : GameState} (h : SameUnits s s') :
    (s'.units.list.drop s.units.size).map (·.unit) = [] := by
  rw [h.units, UnitVec.size, List.drop_length]
  rfl

theorem buildings_kept {s s' : GameState} (h : s'.buildings = s.buildings) :
    s'.buildings.drop s.buildings.length = [] := by
  rw [h, List.drop_length]

/-- Of one order that leaves a queue, what was accepted. -/
theorem forall_mem_drop_one {item : BuildQueueItem} {m n : ℕ} {P : BuildQueueItem → Prop} :
    (∀ item' ∈ [item].drop (m - n), P item') ↔ (m ≤ n → P item) := by
  rcases Nat.lt_or_ge n m with h | h
  · rw [List.drop_eq_nil_of_le (by rw [List.length_singleton]; omega)]
    exact iff_of_true (fun _ h => by cases h) fun h' => by omega
  · rw [Nat.sub_eq_zero_of_le h, List.drop_zero]
    simp [h]

variable (start ledger) in
/-- The books over a turn in which no order leaves the queue. -/
theorem accounted_saved_iff {city city' : City} (hcity : s.cities[i]? = some city)
    (hcities : (resolveCity unitRegistry s i).1.cities = s.cities.set i city')
    (hqueue : city'.buildQueue = city.buildQueue.save (cityProduction s city)) :
    Accounted start ((resolveCity unitRegistry s i).1, ledgerAfter unitRegistry s ledger i) ↔
      Accounted start (s, ledger) := by
  have hnone : city.buildQueue.queue = [] ++ city'.buildQueue.queue := by
    rw [hqueue, BuildQueue.save_queue]
    rfl
  rw [accounted_turn_iff start ledger hcity hcities hnone, List.drop_nil]
  exact and_iff_left fun _ h => by cases h

variable (start ledger) in
/-- The books over a turn in which the order that is due leaves the queue. -/
theorem accounted_paid_iff {city city' : City} {item : BuildQueueItem}
    (hcity : s.cities[i]? = some city)
    (hcities : (resolveCity unitRegistry s i).1.cities = s.cities.set i city')
    (hdue : dueOrder s city = some item) (hqueue : city'.buildQueue = city.buildQueue.cancel) :
    Accounted start ((resolveCity unitRegistry s i).1, ledgerAfter unitRegistry s ledger i) ↔
      Accounted start (s, ledger) ∧ ((start i).length ≤ (ledger.departed i).length →
        Delivered item (.resolved unitRegistry city.owner
          (((resolveCity unitRegistry s i).1.units.list.drop s.units.size).map (·.unit))
          ((resolveCity unitRegistry s i).1.buildings.drop s.buildings.length))) := by
  have hone : city.buildQueue.queue = [item] ++ city'.buildQueue.queue := by
    rw [hqueue]
    exact (BuildQueue.cancel_of_due hdue).1
  rw [accounted_turn_iff start ledger hcity hcities hone, forall_mem_drop_one]

/-- The condition on a turn, with the city and the order that is due at hand. -/
theorem delivers_iff_of_due {city : City} {item : BuildQueueItem} (hcity : s.cities[i]? = some city)
    (hdue : dueOrder s city = some item) :
    Delivers unitRegistry start (s, ledger) i ↔ (item.orderType = .unit →
      (start i).length ≤ (ledger.departed i).length →
      ∃ reg tmpl, unitRegistry = some reg ∧ reg.getTemplate item.templateKey = .ok tmpl) := by
  constructor
  · intro h
    exact h city item hcity hdue
  · intro h city₁ item₁ hcity₁ hdue₁
    obtain rfl := Option.some_inj.1 (hcity.symm.trans hcity₁)
    obtain rfl := Option.some_inj.1 (hdue.symm.trans hdue₁)
    exact h

/-- **The turn of a city loses no accepted order exactly when a unit that falls due can be
made.** -/
theorem accounted_resolveCity_iff :
    Accounted start ((resolveCity unitRegistry s i).1, ledgerAfter unitRegistry s ledger i) ↔
      Accounted start (s, ledger) ∧ Delivers unitRegistry start (s, ledger) i := by
  cases hcity : s.cities[i]? with
  | none =>
      have hnone : Delivers unitRegistry start (s, ledger) i := by
        intro city item hcity'
        rw [hcity] at hcity'
        cases hcity'
      rw [resolveCity_of_none unitRegistry hcity, ledgerAfter, hcity, and_iff_left hnone]
  | some city =>
      obtain ⟨city', hcities, -, -, hturn⟩ := resolveCity_spec unitRegistry hcity
      generalize (resolveCity unitRegistry s i).2 = thrown at hturn
      cases hturn with
      | saves due queue buildings units =>
          rw [accounted_saved_iff start ledger hcity hcities queue]
          refine (and_iff_left ?_).symm
          intro city₁ item₁ hcity₁ hdue₁
          obtain rfl := Option.some_inj.1 (hcity.symm.trans hcity₁)
          rw [due] at hdue₁
          cases hdue₁
      | misfires item due type made queue buildings units =>
          rw [accounted_saved_iff start ledger hcity hcities queue,
            delivers_iff_of_due hcity due, type]
          exact (and_iff_left fun h => by cases h).symm
      | builds item factory due type made queue buildings units =>
          rw [accounted_paid_iff start ledger hcity hcities due queue,
            delivers_iff_of_due hcity due,
            Delivered, type]
          refine and_congr_right fun _ => iff_of_true (fun _ => ?_) fun h => by cases h
          refine ⟨units_kept units, factory, s.nextBuildingId, made, ?_⟩
          rw [buildings, List.drop_left]
          rfl
      | spawns item reg tmpl due type types known queue buildings units =>
          rw [accounted_paid_iff start ledger hcity hcities due queue,
            delivers_iff_of_due hcity due,
            Delivered, type]
          refine and_congr_right fun _ => iff_of_true (fun _ => ?_) fun _ _ =>
            ⟨reg, tmpl, types, known⟩
          refine ⟨buildings_kept buildings, spawnedUnit s city tmpl, units_added units, rfl, ?_⟩
          intro reg' hreg
          obtain rfl := Option.some_inj.1 (types.symm.trans hreg)
          exact known
      | drops item due type types queue buildings units =>
          rw [accounted_paid_iff start ledger hcity hcities due queue,
            delivers_iff_of_due hcity due,
            Delivered, type, units_kept units, types]
          simp
      | fails item reg e due type types unknown queue buildings units =>
          rw [accounted_paid_iff start ledger hcity hcities due queue,
            delivers_iff_of_due hcity due,
            Delivered, type, units_kept units, types]
          simp [unknown]

end TurnResolver

/-! ### Acceptance -/

/-- The order that an action asks for, and the index of its city. -/
def ActionVariant.order? (s : GameState) : ActionVariant → Option (ℕ × BuildQueueItem)
  | .produceUnit a =>
      (s.cities.findIdx? fun c => c.id = a.cityId).map fun i =>
        (i, BuildQueue.unitOrder a.templateKey a.productionCost)
  | .build a => do
      let i ← s.cities.findIdx? fun c => c.id = a.cityId
      let factory ← ActionProcessor.buildingFactory a.buildingType
      some (i, BuildQueue.buildingOrder factory a.targetRow a.targetCol)
  | .game _ | .endTurn => none

/-- The order that an operation asks for and that is reported as accepted. -/
def SessionOp.accepted? (session : GameSession) : SessionOp → Option (ℕ × BuildQueueItem)
  | processAction playerId action =>
      match (ActionProcessor.processAction session playerId action).2 with
      | .ok result => if result.success then action.order? session.state else none
      | .error _ => none
  | tryAdvanceTurn | resolveTurn _ => none

/-- An effect queues the order that is reported as accepted, if one is. -/
def Effect.Queues (s : GameState) (effect : Effect)
    (accepted : Option (ℕ × BuildQueueItem)) : Prop :=
  (∃ i item city, accepted = some (i, item) ∧ effect = .order i item ∧ s.cities[i]? = some city) ∨
    (accepted = none ∧ ∀ i item, effect ≠ .order i item)

namespace SessionOp

/-- A city whose queue can be changed is there. -/
theorem exists_city_of_findIdx? {s : GameState} {cityId : CityId} {i : ℕ}
    (hi : (s.cities.findIdx? fun c => c.id = cityId) = some i) : ∃ city, s.cities[i]? = some city :=
  ⟨_, List.getElem?_eq_getElem (List.findIdx?_eq_some_iff_findIdx_eq.1 hi).1⟩

/-- A player that is refused has nothing accepted. -/
theorem success_of_validatePlayer {session : GameSession} {playerId : PlayerId}
    {error : ProcessedActionResult}
    (h : ActionProcessor.validatePlayer session playerId = some error) : error.success = false := by
  rw [ActionProcessor.validatePlayer] at h
  split at h
  · obtain rfl := Option.some_inj.1 h
    rfl
  · split at h
    · obtain rfl := Option.some_inj.1 h
      rfl
    · cases h

/-- An order of a unit is queued exactly when it is reported as accepted. -/
theorem produceUnit_queues (session : GameSession) (playerId : PlayerId) (a : ProduceUnitAction) :
    (actionEffect session playerId (.produceUnit a)).Queues session.state
      (if (ActionProcessor.processProduceUnit session playerId a).2.success then
        (ActionVariant.produceUnit a).order? session.state else none) := by
  rw [actionEffect, orderEffect, ActionProcessor.processProduceUnit]
  cases ActionProcessor.cityBelongsToPlayer session playerId a.cityId with
  | false => exact Or.inr ⟨rfl, fun i item => by simp⟩
  | true =>
      cases hi : session.state.cities.findIdx? fun c => c.id = a.cityId with
      | none =>
          refine Or.inr ⟨?_, fun i item => by simp⟩
          simp [ActionProcessor.enqueueIn_of_none hi, ActionProcessor.makeError]
      | some i =>
          obtain ⟨city, hcity⟩ := exists_city_of_findIdx? hi
          refine Or.inl ⟨i, _, city, ?_, rfl, hcity⟩
          simp only [BuildQueue.enqueueUnit_eq, ActionProcessor.enqueueIn_eq _ hi,
            ActionVariant.order?, hi]
          rfl

/-- An order of a building is queued exactly when it is reported as accepted. -/
theorem build_queues (session : GameSession) (playerId : PlayerId) (a : BuildAction) :
    (actionEffect session playerId (.build a)).Queues session.state
      (if (ActionProcessor.processBuild session playerId a).2.success then
        (ActionVariant.build a).order? session.state else none) := by
  rw [actionEffect, orderEffect, ActionProcessor.processBuild]
  cases ActionProcessor.cityBelongsToPlayer session playerId a.cityId with
  | false => exact Or.inr ⟨rfl, fun i item => by simp⟩
  | true =>
      simp only [not_true_eq_false, if_false, if_true]
      cases hi : session.state.cities.findIdx? fun c => c.id = a.cityId with
      | none =>
          refine Or.inr ⟨?_, fun i item => by simp⟩
          simp only [ActionProcessor.enqueueIn_of_none hi, ActionVariant.order?, hi]
          cases session.state.findCity a.cityId with
          | none => rfl
          | some city => cases ActionProcessor.buildingFactory a.buildingType <;> rfl
      | some i =>
          obtain ⟨city, hcity⟩ := exists_city_of_findIdx? hi
          obtain ⟨city₁, hfind⟩ := ActionProcessor.findCity_of_findIdx? hi
          rw [hfind]
          cases hmade : ActionProcessor.buildingFactory a.buildingType with
          | none => exact Or.inr ⟨rfl, fun i item => by simp⟩
          | some factory =>
              refine Or.inl ⟨i, _, city, ?_, rfl, hcity⟩
              simp only [BuildQueue.enqueue_eq, ActionProcessor.enqueueIn_eq _ hi,
                ActionVariant.order?, hi, hmade]
              rfl

/-- **An operation queues the order that is reported as accepted, if one is.** -/
theorem effect_queues (session : GameSession) (op : SessionOp) :
    (op.effect session).Queues session.state (op.accepted? session) := by
  cases op with
  | tryAdvanceTurn => exact Or.inr ⟨rfl, advanceEffect_ne_order session⟩
  | resolveTurn unitRegistry => exact Or.inr ⟨rfl, fun i item => by simp [effect]⟩
  | processAction playerId action =>
      rw [accepted?, effect, ActionProcessor.processAction.eq_def]
      cases hvalid : ActionProcessor.validatePlayer session playerId with
      | some error =>
          refine Or.inr ⟨if_neg ?_, fun i item => by simp⟩
          rw [success_of_validatePlayer hvalid]
          simp
      | none =>
          cases action with
          | produceUnit a => exact produceUnit_queues session playerId a
          | build a => exact build_queues session playerId a
          | endTurn =>
              refine Or.inr ⟨?_, fun i item => ?_⟩
              · dsimp only
                split
                · split <;> rfl
                · rfl
              · dsimp only
                rw [actionEffect]
                split
                · simp
                · exact advanceEffect_ne_order _ i item
          | game action =>
              refine Or.inr ⟨?_, fun i item => by simp [actionEffect]⟩
              dsimp only
              split
              · split <;> rfl
              · rfl

end SessionOp

/-! ### Runs -/

/-- What an effect does to the orders that have left a queue. -/
def Effect.ledgerAfter (s : GameState) (ledger : Ledger) : Effect → Ledger
  | turn unitRegistry =>
      recordCities unitRegistry (TurnResolver.ledgerAfter unitRegistry) s ledger
        (List.range s.cities.length)
  | act action =>
      match action.taken? s with
      | none => ledger
      | some i => ledger.depart i (s.queueAt i) .captured
  | nothing | order _ _ => ledger

/-- The ledger after an operation on a session. -/
def GameSession.ledgerAfter (session : GameSession) (ledger : Ledger) (op : SessionOp) : Ledger :=
  match op.accepted? session with
  | none => (op.effect session).ledgerAfter session.state ledger
  | some (i, item) => ((op.effect session).ledgerAfter session.state ledger).accept i item

/-- **Every accepted order of a unit that falls due finds its type**, city by city, in the state in
which the city has its turn. -/
def Effect.Delivers (start : ℕ → List BuildQueueItem) (x : GameState × Ledger) : Effect → Prop
  | turn unitRegistry =>
      Runs.Along (Runs.recorded (cityStep unitRegistry) (TurnResolver.ledgerAfter unitRegistry))
        (TurnResolver.Delivers unitRegistry start) x (List.range x.1.cities.length)
  | nothing | act _ | order _ _ => True

/-- The books depend on the queues of the cities alone. -/
theorem Accounted.congr {start : ℕ → List BuildQueueItem} {s s' : GameState} {ledger : Ledger}
    (hcities : s'.cities = s.cities) (h : Accounted start (s, ledger)) :
    Accounted start (s', ledger) := by
  have hqueues : s'.queueAt = s.queueAt := by
    funext i
    rw [queueAt, queueAt, hcities]
  rw [Accounted] at h ⊢
  rw [hqueues]
  exact h

/-- An effect that queues nothing loses no accepted order exactly when units that fall due can be
made. -/
theorem Effect.accounted_iff {start : ℕ → List BuildQueueItem} {s s' : GameState} {ledger : Ledger}
    (h : Accounted start (s, ledger)) {effect : Effect} (heffect : effect.apply s = some s')
    (horder : ∀ i item, effect ≠ .order i item) :
    Accounted start (s', effect.ledgerAfter s ledger) ↔ effect.Delivers start (s, ledger) := by
  cases effect with
  | nothing =>
      obtain rfl := Option.some_inj.1 heffect
      exact iff_of_true h trivial
  | order i item => exact absurd rfl (horder i item)
  | turn unitRegistry =>
      obtain rfl := Option.some_inj.1 heffect
      rw [resolveTurn_iff (I := fun s' => Accounted start (s',
        (Effect.turn unitRegistry).ledgerAfter s ledger))
        (fun _ => ⟨Accounted.congr rfl, Accounted.congr rfl⟩) s unitRegistry]
      refine recordCities_iff _ (I := Accounted start)
        (P := TurnResolver.Delivers unitRegistry start) (fun s ledger i h => ?_)
        (fun s ledger i h => (accounted_resolveCity_iff.1 h).1) _ s ledger h
      rw [accounted_resolveCity_iff]
      exact (and_iff_right h).symm
  | act action =>
      refine iff_of_true ?_ trivial
      rw [Effect.apply] at heffect
      split at heffect
      · cases heffect
      · next hex =>
          obtain rfl := Option.some_inj.1 heffect
          have htaken := GameAction.execute_taken hex
          rw [Effect.ledgerAfter]
          cases hindex : action.taken? s with
          | none =>
              rw [hindex] at htaken
              exact h.congr htaken
          | some i =>
              rw [hindex] at htaken
              obtain ⟨city, unit, hcity, hcities⟩ := htaken
              refine (FifoLedger.accounts_depart_iff ?_ (queueAt_set_of_ne hcities)).2
                ⟨h, fun _ _ => trivial⟩
              -- a captured city has nothing in its queue
              rw [queueAt_set_self hcity hcities]
              exact (List.append_nil _).symm

/-- **An operation loses no accepted order exactly when units that fall due can be made.** -/
theorem GameSession.accounted_iff {start : ℕ → List BuildQueueItem} {session session' : GameSession}
    {ledger : Ledger} (h : Accounted start (session.state, ledger)) {op : SessionOp}
    (hstep : session.step op = some session') :
    Accounted start (session'.state, session.ledgerAfter ledger op) ↔
      (op.effect session).Delivers start (session.state, ledger) := by
  have heffect := step_eq_some hstep
  rcases op.effect_queues session with ⟨i, item, city, haccepted, hqueued, hcity⟩ | ⟨hnone, horder⟩
  · rw [hqueued] at heffect
    rw [GameSession.ledgerAfter, haccepted, hqueued]
    refine iff_of_true ?_ trivial
    obtain hstate := Option.some_inj.1 heffect
    have hcities : session'.state.cities =
        session.state.cities.set i (city.setBuildQueue (city.buildQueue.restoreItem item)) := by
      rw [← hstate, GameState.order, hcity]
      rfl
    refine (FifoLedger.accounts_accept_iff ?_ (queueAt_set_of_ne hcities)).2 h
    rw [queueAt_set_self hcity hcities, queueAt_of_some hcity]
    rfl
  · rw [GameSession.ledgerAfter, hnone]
    exact Effect.accounted_iff h heffect horder

/-- **In every run no accepted order is lost exactly when every accepted order of a unit falls due
in a turn that can make the unit.** -/
theorem accounted_along_iff (session : GameSession) (ops : List SessionOp) :
    Runs.Along (Runs.recorded GameSession.step GameSession.ledgerAfter)
        (fun x op => ∀ y, Runs.recorded GameSession.step GameSession.ledgerAfter x op = some y →
          Accounted session.state.queueAt (y.1.state, y.2)) (session, FifoLedger.empty) ops ↔
      Runs.Along (Runs.recorded GameSession.step GameSession.ledgerAfter)
        (fun x op => ∀ session', x.1.step op = some session' →
          (op.effect x.1).Delivers session.state.queueAt (x.1.state, x.2))
        (session, FifoLedger.empty) ops := by
  refine Runs.along_recorded_keeps_iff _ _
    (I := fun x : GameSession × Ledger => Accounted session.state.queueAt (x.1.state, x.2))
    (J := fun _ => True) (fun _ _ _ _ _ => trivial) (fun x op _ hx => ?_) ops _ trivial
    (FifoLedger.accounts_empty _)
  exact forall₂_congr fun session' hstep => GameSession.accounted_iff hx hstep

/-- A client orders a warrior at its price, which is paid after four turns, and no warrior comes. -/
theorem warrior_is_lost :
    ∃ x, Runs.run (Runs.recorded GameSession.step GameSession.ledgerAfter)
        (capitalSession, FifoLedger.empty)
        [.processAction 7 (.produceUnit { cityId := 1, templateKey := "Warrior"
                                          productionCost := 20 }),
          .processAction 7 .endTurn, .processAction 7 .endTurn, .processAction 7 .endTurn,
          .processAction 7 .endTurn] = some x ∧
      ¬ Accounted capitalSession.state.queueAt (x.1.state, x.2) := by
  refine ⟨_, rfl, fun h => ?_⟩
  have hdelivered := h.fates 0 _ List.mem_cons_self
  obtain ⟨-, u, hu, -⟩ := hdelivered
  cases hu

end My4X
