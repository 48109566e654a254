/-
**Paying for units.**

A unit has a price in its template.  What a city has to spend on it, however, is the cost that came
with the order, and that is whatever the client has sent.  This module keeps the books: it records
the production that each city has spent since its queue last completed or lost an order, and says
exactly when every unit that is spawned was worth its price.

Main definitions:

* `My4X.TurnResolver.spentAfter`, `My4X.Effect.spentAfter` — the record, over the turn of a city and
  over an effect;
* `My4X.TurnResolver.PaidFor` — the unit that a city spawns was paid for;
* `My4X.TurnResolver.Covered` — an order priced below its template is covered all the same.

Main results:

* `My4X.TurnResolver.Balanced.resolveCity`, `My4X.Balanced.step` — the record agrees with the
  queues;
* `My4X.paidFor_along_iff` — **in every run all units are paid for exactly when every cheap order
  that falls due is covered**;
* `My4X.TurnResolver.covered_of_allOrders` — orders at the price of their template are.
-/

import My4X.Queues

set_option relaxedAutoImplicit false
set_option autoImplicit false

namespace My4X

namespace TurnResolver

/-! ### The record -/

/-- The record after the turn of a city: nothing is spent on an empty queue, and a queue that has
become shorter starts anew. -/
def spentAfter (unitRegistry : Option UnitTypeRegistry) (s : GameState) (spent : ℕ → ℤ) (i : ℕ) :
    ℕ → ℤ :=
  match s.cities[i]?, (resolveCity unitRegistry s i).1.cities[i]? with
  | some city, some city' =>
      if city'.buildQueue.queue.length < city.buildQueue.queue.length then
        Function.update spent i 0
      else if city.buildQueue.queue.isEmpty then spent
      else Function.update spent i (spent i + cityProduction s city)
  | _, _ => spent

/-- **The unit that a city spawns was paid for**: what the city has spent since the last completion
or loss of an order, this turn included, is at least the price in the template. -/
def PaidFor (unitRegistry : Option UnitTypeRegistry) (x : GameState × (ℕ → ℤ)) (i : ℕ) : Prop :=
  ∀ city u, x.1.cities[i]? = some city → spawn? unitRegistry x.1 i = some u →
    u.template.productionCost.production ≤ x.2 i + cityProduction x.1 city

/-- **A unit order that is due and priced below its template is covered all the same** by what has
accumulated and the production of the turn. -/
def Covered (unitRegistry : Option UnitTypeRegistry) (s : GameState) (i : ℕ) : Prop :=
  ∀ city item reg tmpl, s.cities[i]? = some city → dueOrder s city = some item →
    item.orderType = .unit → unitRegistry = some reg →
    reg.getTemplate item.templateKey = .ok tmpl →
    item.productionCost < tmpl.productionCost.production →
    tmpl.productionCost.production ≤ city.buildQueue.accumulated + cityProduction s city

/-- The record agrees with what has accumulated in the queues. -/
def Balanced (x : GameState × (ℕ → ℤ)) : Prop :=
  ∀ i city, x.1.cities[i]? = some city → x.2 i = city.buildQueue.accumulated

variable {unitRegistry : Option UnitTypeRegistry} {s : GameState} {spent : ℕ → ℤ}

/-- A city and its entry of the record change together. -/
theorem Balanced.set {s' : GameState} {spent' : ℕ → ℤ} {i : ℕ} {city' : City}
    (h : Balanced (s, spent)) (hcities : s'.cities = s.cities.set i city')
    (hspent : spent' i = city'.buildQueue.accumulated) (hother : ∀ j, j ≠ i → spent' j = spent j) :
    Balanced (s', spent') := by
  intro j c hc
  dsimp only at hc ⊢
  rw [hcities, List.getElem?_set] at hc
  split at hc
  · next hij =>
      split at hc
      · obtain rfl := Option.some_inj.1 hc
        rw [← hij]
        exact hspent
      · simp at hc
  · next hij =>
      rw [hother j (Ne.symm hij)]
      exact h j c hc

/-- **The turn of a city keeps the books balanced**, also when it throws. -/
theorem Balanced.resolveCity (h : Balanced (s, spent)) (i : ℕ) :
    Balanced ((resolveCity unitRegistry s i).1, spentAfter unitRegistry s spent i) := by
  cases hcity : s.cities[i]? with
  | none =>
      rw [spentAfter, resolveCity_of_none unitRegistry hcity, hcity]
      exact h
  | some city =>
      obtain ⟨city', hcities, -, -, hturn⟩ := resolveCity_spec unitRegistry hcity
      have hlt := (List.getElem?_eq_some_iff.1 hcity).1
      rw [spentAfter, hcity, hcities, List.getElem?_set_self hlt]
      dsimp only
      refine h.set hcities ?_ fun j hij => ?_
      · have hspent : spent i = city.buildQueue.accumulated := h i city hcity
        rcases hturn.queue_cases with hsaved | ⟨item, hdue, hpaid⟩
        · rw [hsaved, BuildQueue.save_queue, if_neg (lt_irrefl _), BuildQueue.save]
          cases hq : city.buildQueue.queue with
          | nil => simp [hspent]
          | cons front rest => simp [hspent]
        · obtain ⟨hqueue, hnothing⟩ := BuildQueue.cancel_of_due hdue
          rw [hpaid, hqueue, List.length_cons, if_pos (Nat.lt_succ_self _), hnothing,
            Function.update_self]
      · split
        · exact Function.update_of_ne hij 0 spent
        · split
          · rfl
          · exact Function.update_of_ne hij _ spent

/-- **A spawned unit was paid for exactly when its order is not both cheap and uncovered.** -/
theorem paidFor_iff (h : Balanced (s, spent)) (i : ℕ) :
    PaidFor unitRegistry (s, spent) i ↔ Covered unitRegistry s i := by
  constructor
  · intro hpaid city item reg tmpl hcity hdue htype hreg hknown _
    have hspawn : spawn? unitRegistry s i = some (spawnedUnit s city tmpl) := by
      simp [spawn?, hcity, hdue, hreg, htype, hknown]
    have hcost := hpaid city _ hcity hspawn
    rw [h i city hcity] at hcost
    exact hcost
  · intro hcovered city u hcity hspawn
    obtain ⟨city', item, reg, tmpl, hcity', hdue, htype, hreg, hknown, rfl⟩ :=
      spawn?_eq_some hspawn
    obtain rfl := Option.some_inj.1 (hcity.symm.trans hcity')
    have hcovers := hcovered city item reg tmpl hcity hdue htype hreg hknown
    -- what is due is worth what the client has offered for it
    have hpaid := (BuildQueue.due?_eq_some hdue).2
    have hspent : spent i = city.buildQueue.accumulated := h i city hcity
    have htmpl : (spawnedUnit s city tmpl).template = tmpl := rfl
    rw [htmpl]
    have hdue' : item.productionCost ≤ city.buildQueue.accumulated + cityProduction s city := hpaid
    dsimp only
    by_cases hcheap : item.productionCost < tmpl.productionCost.production
    · have := hcovers hcheap
      omega
    · omega

/-- Orders that are priced as their templates are covered. -/
theorem covered_of_allOrders {reg : UnitTypeRegistry}
    (h : s.AllOrders fun item => item.orderType = .unit → ∀ tmpl,
      reg.getTemplate item.templateKey = .ok tmpl →
        tmpl.productionCost.production ≤ item.productionCost) (i : ℕ) :
    Covered (some reg) s i := by
  intro city item reg' tmpl hcity hdue htype hreg hknown hcheap
  obtain rfl := Option.some_inj.1 hreg
  have hpriced := h city (List.mem_of_getElem? hcity) item (mem_of_dueOrder hdue) htype tmpl hknown
  omega

end TurnResolver

/-! ### Runs -/

open TurnResolver

/-- The record after an effect: a capture starts the queue of the city anew. -/
def Effect.spentAfter (s : GameState) (spent : ℕ → ℤ) : Effect → ℕ → ℤ
  | act action =>
      match action.taken? s with
      | none => spent
      | some i => Function.update spent i 0
  | turn unitRegistry =>
      recordCities unitRegistry (TurnResolver.spentAfter unitRegistry) s spent
        (List.range s.cities.length)
  | nothing | order _ _ => spent

/-- **An effect keeps the books balanced.** -/
theorem TurnResolver.Balanced.apply {s s' : GameState} {spent : ℕ → ℤ} (h : Balanced (s, spent))
    {effect : Effect} (heffect : effect.apply s = some s') :
    Balanced (s', effect.spentAfter s spent) := by
  cases effect with
  | nothing =>
      obtain rfl := Option.some_inj.1 heffect
      exact h
  | turn unitRegistry =>
      obtain rfl := Option.some_inj.1 heffect
      refine (resolveTurn_iff (I := fun s' => Balanced (s', (Effect.turn unitRegistry).spentAfter s
        spent)) (fun _ => Iff.rfl) s unitRegistry).2 ?_
      exact recordCities_keeps _ (I := Balanced) (P := fun _ _ => True)
        (fun s r i h _ => h.resolveCity i) _ s spent h
        (Runs.along_of_forall (fun _ _ => trivial) _ _)
  | order i item =>
      obtain rfl := Option.some_inj.1 heffect
      rw [GameState.order]
      split
      · exact h
      · next city hcity =>
          exact h.set rfl (h i city hcity) fun _ _ => rfl
  | act action =>
      rw [Effect.apply] at heffect
      split at heffect
      · simp at heffect
      · next hex =>
          obtain rfl := Option.some_inj.1 heffect
          have htaken := GameAction.execute_taken hex
          rw [Effect.spentAfter]
          cases hi : action.taken? s with
          | none =>
              rw [hi] at htaken
              intro j c hc
              dsimp only at hc
              rw [htaken] at hc
              exact h j c hc
          | some i =>
              -- the new owner finds an empty queue
              rw [hi] at htaken
              obtain ⟨city, unit, -, hcities⟩ := htaken
              exact h.set hcities (Function.update_self i 0 spent)
                fun j hij => Function.update_of_ne hij 0 spent

namespace GameSession

/-- The record over an operation of a session. -/
def spentAfter (session : GameSession) (spent : ℕ → ℤ) (op : SessionOp) : ℕ → ℤ :=
  (op.effect session).spentAfter session.state spent

/-- What has been spent when a run begins is what the queues say. -/
def spentBefore (session : GameSession) (i : ℕ) : ℤ :=
  (session.state.cities[i]?).elim 0 fun city => city.buildQueue.accumulated

/-- **Every unit that an operation spawns was paid for.** -/
def UnitsPaidFor (x : GameSession × (ℕ → ℤ)) (op : SessionOp) : Prop :=
  ∀ unitRegistry, op.effect x.1 = .turn unitRegistry →
    Runs.Along (Runs.recorded (cityStep unitRegistry) (TurnResolver.spentAfter unitRegistry))
      (PaidFor unitRegistry) (x.1.state, x.2) (List.range x.1.state.cities.length)

/-- **Every cheap order that falls due in an operation is covered**, city by city, in the state in
which the city has its turn. -/
def CheapOrdersCovered (session : GameSession) (op : SessionOp) : Prop :=
  ∀ unitRegistry, op.effect session = .turn unitRegistry →
    Runs.Along (cityStep unitRegistry) (Covered unitRegistry) session.state
      (List.range session.state.cities.length)

end GameSession

open GameSession in
/-- **In every run all units are paid for exactly when every cheap order that falls due is
covered.** -/
theorem paidFor_along_iff (session : GameSession) (ops : List SessionOp) :
    Runs.Along (Runs.recorded GameSession.step spentAfter) UnitsPaidFor
        (session, session.spentBefore) ops ↔
      Runs.Along GameSession.step CheapOrdersCovered session ops := by
  have hstart : Balanced (session.state, session.spentBefore) := by
    intro i city hcity
    dsimp only at hcity ⊢
    rw [spentBefore, hcity]
    rfl
  rw [← Runs.along_recorded GameSession.step spentAfter CheapOrdersCovered ops
    (session, session.spentBefore)]
  refine Runs.along_congr
    (I := fun x : GameSession × (ℕ → ℤ) => Balanced (x.1.state, x.2)) ?_ ?_ ops
    _ hstart
  · intro x op y hx hstep
    obtain ⟨hstate, hrecord⟩ := (Runs.recorded_eq_some _ _).1 hstep
    rw [hrecord]
    exact TurnResolver.Balanced.apply hx (GameSession.step_eq_some hstate)
  · -- within one turn, city by city
    intro x op hx
    refine forall₂_congr fun unitRegistry _ => ?_
    rw [← Runs.along_recorded (cityStep unitRegistry) (TurnResolver.spentAfter unitRegistry)
      (Covered unitRegistry) _ (x.1.state, x.2)]
    refine Runs.along_congr (I := Balanced) ?_ (fun y i hy => paidFor_iff hy i) _ _ hx
    intro y i z hy hstep
    obtain ⟨hcity, hrecord⟩ := (Runs.recorded_eq_some _ _).1 hstep
    have hz : Balanced ((TurnResolver.resolveCity unitRegistry y.1 i).1,
        spentAfter unitRegistry y.1 y.2 i) := hy.resolveCity i
    rw [(cityStep_eq_some unitRegistry).1 hcity, ← hrecord] at hz
    exact hz

open GameSession in
/-- A client offers nothing for a warrior, and has it after one turn. -/
theorem warrior_for_nothing :
    ∃ reg, UnitTypeRegistry.empty.registerDefaults = .ok reg ∧
      ¬ Runs.Along (Runs.recorded GameSession.step spentAfter) UnitsPaidFor
        (capitalSession, capitalSession.spentBefore)
        [.processAction 7 (.produceUnit { cityId := 1, templateKey := "Warrior" }),
          .resolveTurn (some reg)] := by
  refine ⟨_, rfl, fun h => ?_⟩
  have hturn := (h.2 _ rfl).1 _ rfl
  have hpaid : (20 : ℤ) ≤ 0 + 5 := hturn.1 _ _ rfl rfl
  exact absurd hpaid (by decide)

end My4X
