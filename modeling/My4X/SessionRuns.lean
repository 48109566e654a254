/-
**What an operation on a session comes to.**

A session takes the actions of its players and ends turns.  Most of what an operation checks is
about the players; what it does to the game state is one of few things: an action on units is
carried out, an order is put into the queue of a city, the turn is resolved, or nothing happens.
This module names that effect and proves that every operation has no other one, so that a result
about runs of a session is a result about effects.

Main definitions:

* `My4X.SessionOp`, `My4X.GameSession.step` — the operations on a session;
* `My4X.Effect`, `My4X.Effect.apply` — what can happen to a game state;
* `My4X.SessionOp.effect` — what an operation comes to.

Main results:

* `My4X.GameSession.step_state` — **an operation does to the state what it comes to**;
* `My4X.GameSession.step_eq_some` — the same for an operation that has been carried out.
-/

import My4X.CityTurns
import My4X.RegistryRuns

set_option relaxedAutoImplicit false
set_option autoImplicit false

namespace My4X

/-! ### Orders -/

namespace BuildQueue

/-- The order that queues a unit. -/
def unitOrder (templateKey : String) (productionCost : ℤ) : BuildQueueItem :=
  { name := templateKey, productionCost, targetRow := 0, targetCol := 0, orderType := .unit
    factory := none, templateKey }

/-- The order that queues a building. -/
def buildingOrder (factory : BuildingFactory) (targetRow targetCol : ℤ) : BuildQueueItem :=
  { name := (factory 0 0).name, productionCost := (factory 0 0).constructionCost.production
    targetRow, targetCol, orderType := .building, factory := some factory, templateKey := "" }

theorem enqueueUnit_eq (q : BuildQueue) (templateKey : String) (productionCost : ℤ) :
    q.enqueueUnit templateKey productionCost =
      q.restoreItem (unitOrder templateKey productionCost) :=
  rfl

theorem enqueue_eq (q : BuildQueue) (factory : BuildingFactory) (targetRow targetCol : ℤ) :
    q.enqueue factory targetRow targetCol = q.restoreItem
    (buildingOrder factory targetRow targetCol) :=
  rfl

end BuildQueue

namespace GameState

/-- Puts an order into the queue of the city at an index. -/
def order (s : GameState) (i : ℕ) (item : BuildQueueItem) : GameState :=
  match s.cities[i]? with
  | none => s
  | some city => s.setCity i (city.setBuildQueue (city.buildQueue.restoreItem item))

/-- An order changes the queue of one city. -/
theorem order_eq (s : GameState) (i : ℕ) (item : BuildQueueItem) :
    s.order i item = s ∨ ∃ city, s.cities[i]? = some city ∧
      s.order i item = s.setCity i (city.setBuildQueue (city.buildQueue.restoreItem item)) := by
  rw [order]
  split
  · exact Or.inl rfl
  · next city hcity => exact Or.inr ⟨city, hcity, rfl⟩

end GameState

/-! ### Effects -/

/-- What can happen to a game state. -/
inductive Effect
  | nothing
  | act (action : GameAction)
  | order (i : ℕ) (item : BuildQueueItem)
  | turn (unitRegistry : Option UnitTypeRegistry)

/-- The state after an effect.  A failed assertion ends the run; an exception leaves the state in
which it is thrown. -/
def Effect.apply (s : GameState) : Effect → Option GameState
  | nothing => some s
  | act action =>
      match action.execute s with
      | .error _ => none
      | .ok (s', _) => some s'
  | order i item => some (s.order i item)
  | turn unitRegistry => some (resolveTurn s unitRegistry).1

/-! ### Operations -/

/-- The operations on a session. -/
inductive SessionOp
  | processAction (playerId : PlayerId) (action : ActionVariant)
  | tryAdvanceTurn
  | resolveTurn (unitRegistry : Option UnitTypeRegistry)

/-- The session after an operation.  A failed assertion ends the run; an exception leaves the
session in which it is thrown. -/
def GameSession.step (session : GameSession) : SessionOp → Option GameSession
  | .processAction playerId action =>
      match ActionProcessor.processAction session playerId action with
      | (_, .error .assertion) => none
      | (session, _) => some session
  | .tryAdvanceTurn => some session.tryAdvanceTurn.1
  | .resolveTurn unitRegistry =>
      some (session.setState (My4X.resolveTurn session.state unitRegistry).1)

namespace SessionOp

/-- What an order of a player comes to: it is queued in the first city with the identifier, if that
city is of the faction of the player. -/
def orderEffect (session : GameSession) (playerId : PlayerId) (cityId : CityId)
    (item : Option BuildQueueItem) : Effect :=
  if ActionProcessor.cityBelongsToPlayer session playerId cityId then
    match session.state.cities.findIdx? fun c => c.id = cityId with
    | none => .nothing
    | some i => (item.map fun item => Effect.order i item).getD .nothing
  else .nothing

/-- What ending the turn comes to when every connected player has ended it. -/
def advanceEffect (session : GameSession) : Effect :=
  if session.allPlayersEndedTurn then .turn none else .nothing

/-- What an action comes to whose player is connected. -/
def actionEffect (session : GameSession) (playerId : PlayerId) : ActionVariant → Effect
  | .game action => .act action
  | .endTurn =>
      match session.endTurn playerId with
      | (_, false) => .nothing
      | (session, true) => advanceEffect session
  | .produceUnit a =>
      orderEffect session playerId a.cityId
        (some (BuildQueue.unitOrder a.templateKey a.productionCost))
  | .build a =>
      orderEffect session playerId a.cityId
        ((ActionProcessor.buildingFactory a.buildingType).map fun factory =>
          BuildQueue.buildingOrder factory a.targetRow a.targetCol)

/-- **What an operation comes to.** -/
def effect (session : GameSession) : SessionOp → Effect
  | processAction playerId action =>
      match ActionProcessor.validatePlayer session playerId with
      | some _ => .nothing
      | none => actionEffect session playerId action
  | tryAdvanceTurn => advanceEffect session
  | resolveTurn unitRegistry => .turn unitRegistry

end SessionOp

/-! ### The effect of an operation -/

theorem GameSession.tryAdvanceTurn_state (session : GameSession) :
    (SessionOp.advanceEffect session).apply session.state =
      some session.tryAdvanceTurn.1.state := by
  rw [SessionOp.advanceEffect, GameSession.tryAdvanceTurn]
  cases session.allPlayersEndedTurn with
  | false => rfl
  | true =>
      simp only [if_true, Effect.apply, not_true_eq_false, if_false]
      split
      · next state e hout => rw [hout]; rfl
      · next state out hout => rw [hout]; rfl

namespace ActionProcessor

/-- The change of a queue, as an order. -/
theorem enqueueIn_eq {session : GameSession} {cityId : CityId} {i : ℕ} (item : BuildQueueItem)
    (hi : (session.state.cities.findIdx? fun c => c.id = cityId) = some i) :
    enqueueIn session cityId (fun q => q.restoreItem item) =
      some (session.setState (session.state.order i item)) := by
  rw [enqueueIn, hi]
  dsimp only
  have hlt : i < session.state.cities.length :=
    (List.findIdx?_eq_some_iff_findIdx_eq.1 hi).1
  rw [GameState.order, List.getElem?_eq_getElem hlt]
  rfl

theorem enqueueIn_of_none {session : GameSession} {cityId : CityId} {f : BuildQueue → BuildQueue}
    (hi : (session.state.cities.findIdx? fun c => c.id = cityId) = none) :
    enqueueIn session cityId f = none := by
  rw [enqueueIn, hi]

/-- A city whose queue can be changed is found when it is looked up. -/
theorem findCity_of_findIdx? {s : GameState} {cityId : CityId} {i : ℕ}
    (hi : (s.cities.findIdx? fun c => c.id = cityId) = some i) :
    ∃ city, s.findCity cityId = some city := by
  obtain ⟨hlt, hid, -⟩ := List.findIdx?_eq_some_iff_getElem.1 hi
  refine Option.isSome_iff_exists.1 ?_
  rw [GameState.findCity, List.find?_isSome]
  exact ⟨_, List.getElem_mem hlt, hid⟩

theorem processProduceUnit_state (session : GameSession) (playerId : PlayerId)
    (a : ProduceUnitAction) :
    (SessionOp.actionEffect session playerId (.produceUnit a)).apply session.state =
      some (processProduceUnit session playerId a).1.state := by
  rw [SessionOp.actionEffect, SessionOp.orderEffect, processProduceUnit]
  cases cityBelongsToPlayer session playerId a.cityId with
  | false => rfl
  | true =>
      simp only [if_true, not_true_eq_false, if_false]
      cases hi : session.state.cities.findIdx? fun c => c.id = a.cityId with
      | none => rw [enqueueIn_of_none hi]; rfl
      | some i =>
          have hqueued := enqueueIn_eq (BuildQueue.unitOrder a.templateKey a.productionCost) hi
          simp only [BuildQueue.enqueueUnit_eq, hqueued]
          rfl

theorem processBuild_state (session : GameSession) (playerId : PlayerId) (a : BuildAction) :
    (SessionOp.actionEffect session playerId (.build a)).apply session.state =
      some (processBuild session playerId a).1.state := by
  rw [SessionOp.actionEffect, SessionOp.orderEffect, processBuild]
  cases cityBelongsToPlayer session playerId a.cityId with
  | false => rfl
  | true =>
      simp only [if_true, not_true_eq_false, if_false]
      cases hi : session.state.cities.findIdx? fun c => c.id = a.cityId with
      | none =>
          simp only [enqueueIn_of_none hi]
          cases session.state.findCity a.cityId with
          | none => rfl
          | some city => cases buildingFactory a.buildingType <;> rfl
      | some i =>
          obtain ⟨city, hcity⟩ := findCity_of_findIdx? hi
          rw [hcity]
          cases buildingFactory a.buildingType with
          | none => rfl
          | some factory =>
              have hqueued :=
                enqueueIn_eq (BuildQueue.buildingOrder factory a.targetRow a.targetCol) hi
              simp only [Option.map_some, BuildQueue.enqueue_eq, hqueued]
              rfl

theorem processEndTurn_state (session : GameSession) (playerId : PlayerId) :
    (SessionOp.actionEffect session playerId .endTurn).apply session.state =
      some (processEndTurn session playerId).1.state := by
  have hstate := session.updatePlayer_state playerId fun info => { info with endedTurn := true }
  rw [SessionOp.actionEffect, processEndTurn]
  rw [show session.updatePlayer playerId (fun info => { info with endedTurn := true }) =
    session.endTurn playerId from rfl] at hstate
  cases hend : session.endTurn playerId with
  | mk session₁ ended =>
      rw [hend] at hstate
      cases ended with
      | false => exact congrArg some hstate.symm
      | true =>
          dsimp only at hstate ⊢
          rw [← hstate, GameSession.tryAdvanceTurn_state]
          cases session₁.tryAdvanceTurn with
          | mk session₂ advanced => cases advanced <;> rfl

/-- Ending the turn fails no assertion. -/
theorem processEndTurn_ne_assertion (session : GameSession) (playerId : PlayerId) :
    (processEndTurn session playerId).2 ≠ .error .assertion := by
  rw [processEndTurn]
  split
  · simp
  · next session₁ hend =>
      have hturn := resolveTurn_ne_assertion session₁.state none
      rw [GameSession.tryAdvanceTurn]
      split
      · next session₂ e hadvance =>
          split at hadvance
          · simp at hadvance
          · split at hadvance
            · next state e' hout =>
                rw [hout] at hturn
                obtain rfl := Except.error.inj (Prod.mk.inj hadvance).2
                exact fun h => hturn (by rw [Except.error.inj h])
            · simp at hadvance
      · simp

/-- An action whose execution fails is not processed. -/
theorem processGameAction_of_error {session : GameSession} (playerId : PlayerId)
    {action : GameAction} {e : Fault} (h : action.execute session.state = .error e) :
    processGameAction session playerId action = .error e := by
  cases action with
  | move a =>
      have hex := Except.eq_error_of_bind (fun _ => ⟨_, rfl⟩) h
      rw [processGameAction, hex]
      rfl
  | attack a =>
      have hex := Except.eq_error_of_bind (fun _ => ⟨_, rfl⟩) h
      rw [processGameAction, hex]
      rfl
  | capture a =>
      have hex := Except.eq_error_of_bind (fun _ => ⟨_, rfl⟩) h
      rw [processGameAction, hex]
      rfl

end ActionProcessor

namespace GameSession

/-- **An operation does to the state what it comes to.** -/
theorem step_state (session : GameSession) (op : SessionOp) :
    (session.step op).map (·.state) = (op.effect session).apply session.state := by
  cases op with
  | tryAdvanceTurn => exact (tryAdvanceTurn_state session).symm
  | resolveTurn unitRegistry => rfl
  | processAction playerId action =>
      rw [step, SessionOp.effect]
      cases hvalid : ActionProcessor.validatePlayer session playerId with
      | some error =>
          have hrefused : ActionProcessor.processAction session playerId action =
              (session, .ok error) := by
            rw [ActionProcessor.processAction.eq_def, hvalid]
          rw [hrefused]
          rfl
      | none =>
          cases action with
          | endTurn =>
              have hprocess : ActionProcessor.processAction session playerId .endTurn =
                  ActionProcessor.processEndTurn session playerId := by
                rw [ActionProcessor.processAction, hvalid]
              have hthrown := ActionProcessor.processEndTurn_ne_assertion session playerId
              rw [hprocess]
              dsimp only
              rw [ActionProcessor.processEndTurn_state]
              split
              · next hout => rw [hout] at hthrown; exact absurd rfl hthrown
              · next hout => rw [hout]; rfl
          | produceUnit a =>
              rw [ActionProcessor.processAction, hvalid]
              exact (ActionProcessor.processProduceUnit_state session playerId a).symm
          | build a =>
              rw [ActionProcessor.processAction, hvalid]
              exact (ActionProcessor.processBuild_state session playerId a).symm
          | game action =>
              rw [ActionProcessor.processAction, hvalid]
              dsimp only [SessionOp.actionEffect, Effect.apply]
              cases hex : action.execute session.state with
              | error e =>
                  -- an action that does not return fails an assertion
                  have hassert : e = .assertion := by
                    by_contra hne
                    exact action.execute_throws_nothing session.state e hex hne
                  rw [ActionProcessor.processGameAction_of_error playerId hex, hassert]
                  rfl
              | ok out =>
                  obtain ⟨state, executed⟩ := out
                  obtain ⟨result, hprocess, -⟩ :=
                    ActionProcessor.processGameAction_of_execute playerId hex
                  rw [hprocess]
                  rfl

/-- An operation that has been carried out has done to the state what it comes to. -/
theorem step_eq_some {session session' : GameSession} {op : SessionOp}
    (h : session.step op = some session') :
    (op.effect session).apply session.state = some session'.state := by
  rw [← step_state, h]
  rfl

end GameSession

end My4X
