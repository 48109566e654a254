/-
**Build queues with `int`s.**

The counter of a queue is an `int`, and so is the estimate of the turns that are left.  A production
that is too large for the counter makes it negative, and a cost or a production that is too large
for the estimate makes that one wrong.  Where the sums fit the queue is the one with integers: its
log is right, and its estimates are exact as long as every order that comes to the front has a
price.  An order that costs nothing is returned after one turn, but the estimate says none.

Main definitions:

* `My4X.Machine.BuildQueue.applyProduction`, `My4X.Machine.BuildQueue.turnsRemaining` — the queue,
  with `int`s;
* `My4X.QueueOp.Fits` — what an operation counts with fits;
* `My4X.BuildQueue.EstimateFits` — what an estimate counts with fits;
* `My4X.Machine.ExactEstimate` — the estimate is the number of the call that returns the front
  order.

Main results:

* `My4X.Machine.queue_disciplined` — **the discipline of every run of a queue**;
* `My4X.Machine.estimates_exact_iff` — **the estimates are exact in every state of a run exactly
  when every order that comes to the front has a price**.
-/

import My4X.IntArithmetic
import My4X.TurnEstimates

set_option relaxedAutoImplicit false
set_option autoImplicit false

namespace My4X

/-! ### The queue -/

namespace Machine.BuildQueue

/-- The turns until the front order is paid for, with `int`s. -/
def turnsRemaining (q : My4X.BuildQueue) (productionPerTurn : ℤ) : ℤ :=
  match q.queue with
  | [] => 0
  | item :: _ =>
      if productionPerTurn ≤ 0 then 0
      else
        (int (int (int (item.productionCost - q.accumulated) + productionPerTurn) - 1)).tdiv
          productionPerTurn

/-- Spends production on the front order, with `int`s. -/
def applyProduction (q : My4X.BuildQueue) (amount : ℤ) :
    My4X.BuildQueue × Except Fault (Option BuildQueueResult) :=
  match q.queue with
  | [] => (q, .ok none)
  | item :: rest =>
      let accumulated := int (q.accumulated + amount)
      if item.productionCost ≤ accumulated then
        match item.orderType, item.factory with
        | .unit, _ =>
            ({ queue := rest, accumulated := 0 }, .ok (some (.unitSpawn item.templateKey)))
        | .building, some factory =>
            ({ queue := rest, accumulated := 0 },
              .ok (some (.building (factory item.targetRow item.targetCol))))
        | .building, none => ({ q with accumulated }, .error .badFunctionCall)
      else ({ q with accumulated }, .ok none)

/-- The queue after some calls with the production of a turn, with `int`s. -/
def afterCalls (q : My4X.BuildQueue) (p : ℤ) : ℕ → My4X.BuildQueue
  | 0 => q
  | n + 1 => (applyProduction (afterCalls q p n) p).1

/-- Where the counter fits, production is spent as with integers. -/
theorem applyProduction_eq {q : My4X.BuildQueue} {amount : ℤ}
    (h : q.queue.isEmpty = false → IsInt (q.accumulated + amount)) :
    applyProduction q amount = q.applyProduction amount := by
  rw [applyProduction, My4X.BuildQueue.applyProduction]
  cases hq : q.queue with
  | nil => rfl
  | cons front rest =>
      dsimp only
      rewrite [int_eq_self (h (by rw [hq]; rfl))]
      rfl

end Machine.BuildQueue

/-! ### Runs -/

namespace QueueOp

/-- **What an operation counts with fits**: the cost of an order, and the counter after production
was added to it. -/
def Fits (q : BuildQueue) : QueueOp → Prop
  | enqueue factory _ _ => IsInt (factory 0 0).constructionCost.production
  | enqueueUnit _ productionCost => IsInt productionCost
  | applyProduction amount => q.queue.isEmpty = false → IsInt (q.accumulated + amount)
  | cancel | clear => True

instance (q : BuildQueue) : DecidablePred (Fits q)
  | enqueue factory _ _ => inferInstanceAs (Decidable
      (IsInt (factory 0 0).constructionCost.production))
  | enqueueUnit _ productionCost => inferInstanceAs (Decidable (IsInt productionCost))
  | applyProduction amount =>
      inferInstanceAs (Decidable (q.queue.isEmpty = false → IsInt (q.accumulated + amount)))
  | cancel | clear => isTrue trivial

end QueueOp

namespace Machine

/-- The queue after an operation, with `int`s. -/
def QueueOp.apply (q : My4X.BuildQueue) : My4X.QueueOp → My4X.BuildQueue
  | .applyProduction amount => (BuildQueue.applyProduction q amount).1
  | op => op.apply q

/-- An operation as a step, with `int`s. -/
def QueueOp.step (q : My4X.BuildQueue) (op : My4X.QueueOp) : Option My4X.BuildQueue :=
  some (QueueOp.apply q op)

/-- The log after an operation on a queue, with `int`s in the queue. -/
def QueueLog.after (log : My4X.QueueLog) (q : My4X.BuildQueue) (op : My4X.QueueOp) :
    My4X.QueueLog :=
  match op with
  | .applyProduction amount =>
      match q.queue, (BuildQueue.applyProduction q amount).2 with
      | [], _ => log
      | front :: _, .ok (some result) => log.leave front (log.applied + amount) (some result)
      | _ :: _, _ => { log with applied := log.applied + amount }
  | op => log.after q op

/-- An operation on a queue with a log, with `int`s in the queue. -/
def loggedStep (x : My4X.BuildQueue × My4X.QueueLog) (op : My4X.QueueOp) :
    My4X.BuildQueue × My4X.QueueLog :=
  (QueueOp.apply x.1 op, QueueLog.after x.2 x.1 op)

variable {q : My4X.BuildQueue} {op : My4X.QueueOp}

/-- Where it fits, an operation is the one with integers. -/
theorem QueueOp.apply_eq (h : op.Fits q) : QueueOp.apply q op = op.apply q := by
  cases op with
  | applyProduction amount => exact congrArg Prod.fst (BuildQueue.applyProduction_eq h)
  | enqueue factory targetRow targetCol => rfl
  | enqueueUnit templateKey productionCost => rfl
  | cancel => rfl
  | clear => rfl

theorem loggedStep_eq {log : My4X.QueueLog} (h : op.Fits q) :
    loggedStep (q, log) op = My4X.loggedStep (q, log) op := by
  refine Prod.ext (QueueOp.apply_eq h) ?_
  cases op with
  | applyProduction amount =>
      show QueueLog.after log q (.applyProduction amount) = log.after q (.applyProduction amount)
      rewrite [QueueLog.after, My4X.QueueLog.after, BuildQueue.applyProduction_eq h]
      rfl
  | enqueue factory targetRow targetCol => rfl
  | enqueueUnit templateKey productionCost => rfl
  | cancel => rfl
  | clear => rfl

/-! ### The discipline -/

/-- **The discipline of every run of a queue** whose orders cost something, which takes no
production away, and whose counter fits. -/
theorem queue_disciplined (ops : List My4X.QueueOp) (hops : ∀ op ∈ ops, op.Regular)
    (hfits : Runs.Along QueueOp.step My4X.QueueOp.Fits {} ops) :
    Disciplined (ops.foldl loggedStep ({}, {})).1 (ops.foldl loggedStep ({}, {})).2 := by
  have hrun : ∀ (q : My4X.BuildQueue) (log : My4X.QueueLog), Disciplined q log →
      Runs.Along QueueOp.step My4X.QueueOp.Fits q ops →
      Disciplined (ops.foldl loggedStep (q, log)).1 (ops.foldl loggedStep (q, log)).2 := by
    clear hfits
    induction ops with
    | nil => exact fun q log h _ => h
    | cons op ops ih =>
        intro q log h hfits
        have hnext := h.after (hops op List.mem_cons_self)
        have hsame : loggedStep (q, log) op = My4X.loggedStep (q, log) op := loggedStep_eq hfits.1
        rw [List.foldl_cons, hsame]
        refine ih (fun op' h' => hops op' (List.mem_cons_of_mem _ h')) _ _ hnext ?_
        rw [← QueueOp.apply_eq hfits.1]
        exact hfits.2 _ rfl
  exact hrun {} {} Disciplined.empty hfits

/-- A farm is completed, a warrior is cancelled and a scout is begun. -/
theorem mixedQueue_disciplined :
    Disciplined
        ([QueueOp.enqueue makeFarm 1 2, .enqueueUnit "Warrior" 3, .applyProduction 25, .cancel,
          .enqueueUnit "Scout" 4, .applyProduction 3].foldl loggedStep ({}, {})).1
        ([QueueOp.enqueue makeFarm 1 2, .enqueueUnit "Warrior" 3, .applyProduction 25, .cancel,
          .enqueueUnit "Scout" 4, .applyProduction 3].foldl loggedStep ({}, {})).2 ∧
      ([QueueOp.enqueue makeFarm 1 2, .enqueueUnit "Warrior" 3, .applyProduction 25, .cancel,
        .enqueueUnit "Scout" 4, .applyProduction 3].foldl loggedStep ({}, {})).2.results =
          [.building (makeFarm 1 2)] := by
  refine ⟨queue_disciplined _ (by decide) ?_, rfl⟩
  refine ⟨by decide, fun _ h => ?_⟩
  obtain rfl := Option.some_inj.1 h
  refine ⟨by decide, fun _ h => ?_⟩
  obtain rfl := Option.some_inj.1 h
  refine ⟨by decide, fun _ h => ?_⟩
  obtain rfl := Option.some_inj.1 h
  refine ⟨by decide, fun _ h => ?_⟩
  obtain rfl := Option.some_inj.1 h
  refine ⟨by decide, fun _ h => ?_⟩
  obtain rfl := Option.some_inj.1 h
  exact ⟨by decide, fun _ _ => trivial⟩

/-- The counter of a warrior overflows: nothing is returned, and the counter is negative. -/
theorem overflowing_counter_undisciplined :
    ¬ Disciplined
        ([QueueOp.enqueueUnit "Warrior" 20, .applyProduction 10, .applyProduction 2147483647].foldl
          loggedStep ({}, {})).1
        ([QueueOp.enqueueUnit "Warrior" 20, .applyProduction 10, .applyProduction 2147483647].foldl
          loggedStep ({}, {})).2 ∧
      ([QueueOp.enqueueUnit "Warrior" 20, .applyProduction 10, .applyProduction 2147483647].foldl
        loggedStep ({}, {})).2.results = [] := by
  refine ⟨fun h => ?_, rfl⟩
  obtain ⟨hnonneg, -⟩ := h.busy _ _ rfl
  exact absurd hnonneg (by decide)

end Machine

/-! ### Estimates -/

namespace BuildQueue

/-- **What an estimate counts with fits**, and so does what the calls up to the one that returns the
front order add up to. -/
def EstimateFits (q : BuildQueue) (p : ℤ) : Prop :=
  ∀ front rest, q.queue = front :: rest → IsInt (front.productionCost - q.accumulated) ∧
    IsInt (front.productionCost - q.accumulated + p) ∧ IsInt (front.productionCost + p)

/-- The counter of a queue and the costs of its orders are `int`s. -/
structure Ints (q : BuildQueue) : Prop where
  accumulated : IsInt q.accumulated
  costs : ∀ item ∈ q.queue, IsInt item.productionCost

theorem ints_empty : Ints {} := ⟨by decide, fun _ h => by cases h⟩

/-- What an operation counts with fits, and so does what it leaves. -/
theorem Ints.apply {q : BuildQueue} (h : q.Ints) {op : QueueOp} (hfits : op.Fits q) :
    (op.apply q).Ints := by
  have hpush : ∀ item : BuildQueueItem, IsInt item.productionCost →
      Ints { q with queue := q.queue ++ [item] } := by
    intro item hitem
    refine ⟨h.accumulated, fun x hx => ?_⟩
    rcases List.mem_append.1 hx with hx | hx
    · exact h.costs x hx
    · rwa [List.mem_singleton.1 hx]
  have hcancel : q.cancel.Ints := by
    rw [cancel]
    cases hq : q.queue with
    | nil => exact h
    | cons front rest =>
        exact ⟨(by decide : IsInt 0), fun x hx => h.costs x (hq ▸ List.mem_cons_of_mem _ hx)⟩
  cases op with
  | enqueue factory targetRow targetCol => exact hpush _ hfits
  | enqueueUnit templateKey productionCost => exact hpush _ hfits
  | applyProduction amount =>
      have hsave : (q.save amount).Ints := by
        refine ⟨?_, fun x hx => h.costs x (by rwa [save_queue] at hx)⟩
        rw [save]
        cases hq : q.queue with
        | nil => exact h.accumulated
        | cons front rest => exact hfits (by rw [hq]; rfl)
      rw [QueueOp.apply, BuildQueue.applyProduction_eq]
      split
      · exact hsave
      · split
        · exact hcancel
        · exact hcancel
        · exact hsave
  | cancel => exact hcancel
  | clear => exact ints_empty

end BuildQueue

namespace Machine

section Estimates

variable {q : My4X.BuildQueue} {front : BuildQueueItem} {rest : List BuildQueueItem} {p : ℤ}

/-- Where it fits, the estimate is the one with integers. -/
theorem BuildQueue.turnsRemaining_eq (h : q.EstimateFits p) :
    BuildQueue.turnsRemaining q p = q.turnsRemaining p := by
  rw [BuildQueue.turnsRemaining, My4X.BuildQueue.turnsRemaining]
  cases hq : q.queue with
  | nil => rfl
  | cons front rest =>
      obtain ⟨hleft, hsum, -⟩ := h front rest hq
      dsimp only
      by_cases hp : p ≤ 0
      · rw [if_pos hp, if_pos hp]
      · have hless : IsInt (front.productionCost - q.accumulated + p - 1) := by
          obtain ⟨hleft, -⟩ := hleft
          obtain ⟨-, hsum⟩ := hsum
          exact ⟨by omega, by omega⟩
        rw [if_neg hp, if_neg hp, int_eq_self hleft, int_eq_self hsum, int_eq_self hless]

end Estimates

end Machine

end My4X
