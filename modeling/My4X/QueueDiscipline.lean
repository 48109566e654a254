/-
**The discipline of a build queue.**

A build queue has one counter for the production of whatever order is at its front.  A log of a run
notes every order that is put into the queue, every order that leaves it, completed or cancelled,
with the production that was applied while it was at the front, and the results that were returned.
If all orders cost something and no production is taken away, the log is right: orders leave in the
order in which they came, the results are those of the completed ones, and the counter is what was
applied to the front.

Main definitions:

* `My4X.QueueOp` — the operations on a queue;
* `My4X.QueueLog` — what has happened to a queue;
* `My4X.Disciplined` — the log of a queue is right, and its counter.

Main results:

* `My4X.Disciplined.after` — **every operation keeps the discipline**.
-/

import My4X.CityTurns

set_option relaxedAutoImplicit false
set_option autoImplicit false

namespace My4X

/-! ### Operations -/

/-- What can be done to a build queue. -/
inductive QueueOp
  | enqueue (factory : BuildingFactory) (targetRow targetCol : ℤ)
  | enqueueUnit (templateKey : String) (productionCost : ℤ)
  | applyProduction (amount : ℤ)
  | cancel
  | clear

/-- What an order costs, and what it asks for: nothing, if it is a building without a factory. -/
structure QueueOrder where
  cost : ℤ
  result : Option BuildQueueResult

/-- The order that an item of the queue stands for. -/
def BuildQueueItem.order (item : BuildQueueItem) : QueueOrder where
  cost := item.productionCost
  result := match item.orderType, item.factory with
    | .unit, _ => some (.unitSpawn item.templateKey)
    | .building, some factory => some (.building (factory item.targetRow item.targetCol))
    | .building, none => none

namespace QueueOp

/-- The queue after an operation. -/
def apply (q : BuildQueue) : QueueOp → BuildQueue
  | enqueue factory targetRow targetCol => q.enqueue factory targetRow targetCol
  | enqueueUnit templateKey productionCost => q.enqueueUnit templateKey productionCost
  | applyProduction amount => (q.applyProduction amount).1
  | cancel => q.cancel
  | clear => q.clear

/-- The order that an operation puts into the queue. -/
def order? : QueueOp → Option QueueOrder
  | enqueue factory targetRow targetCol =>
      some ⟨(factory 0 0).constructionCost.production,
        some (.building (factory targetRow targetCol))⟩
  | enqueueUnit templateKey productionCost => some ⟨productionCost, some (.unitSpawn templateKey)⟩
  | applyProduction _ | cancel | clear => none

/-- Orders cost something, and no production is taken away. -/
def Regular : QueueOp → Prop
  | enqueue factory _ _ => 0 < (factory 0 0).constructionCost.production
  | enqueueUnit _ productionCost => 0 < productionCost
  | applyProduction amount => 0 ≤ amount
  | cancel | clear => True

instance : DecidablePred Regular
  | enqueue factory _ _ =>
      inferInstanceAs (Decidable (0 < (factory 0 0).constructionCost.production))
  | enqueueUnit _ productionCost => inferInstanceAs (Decidable (0 < productionCost))
  | applyProduction amount => inferInstanceAs (Decidable (0 ≤ amount))
  | cancel | clear => isTrue trivial

end QueueOp

/-! ### The log -/

/-- An order that has left a queue: completed or cancelled, with the production that was applied
while it was at the front. -/
structure Departure where
  order : QueueOrder
  completed : Bool
  applied : ℤ

/-- **What has happened to a queue**: the orders that came and the ones that left, the results that
were returned, and the production that was applied since the front order came to the front. -/
structure QueueLog where
  enqueued : List QueueOrder := []
  departed : List Departure := []
  results : List BuildQueueResult := []
  applied : ℤ := 0

namespace QueueLog

/-- The front order leaves the queue, with a result if it is completed. -/
def leave (log : QueueLog) (front : BuildQueueItem) (applied : ℤ)
    (result : Option BuildQueueResult) : QueueLog :=
  { log with
    departed := log.departed ++ [⟨front.order, result.isSome, applied⟩]
    results := log.results ++ result.toList
    applied := 0 }

/-- All orders are cancelled, the front order first. -/
def cancelAll (log : QueueLog) : List BuildQueueItem → QueueLog
  | [] => log
  | front :: rest => cancelAll (log.leave front log.applied none) rest

/-- **The log after an operation on a queue.** -/
def after (log : QueueLog) (q : BuildQueue) (op : QueueOp) : QueueLog :=
  match op with
  | .enqueue _ _ _ | .enqueueUnit _ _ => { log with enqueued := log.enqueued ++ op.order?.toList }
  | .applyProduction amount =>
      match q.queue, (q.applyProduction amount).2 with
      | [], _ => log
      | front :: _, .ok (some result) => log.leave front (log.applied + amount) (some result)
      | _ :: _, _ => { log with applied := log.applied + amount }
  | .cancel => log.cancelAll (q.queue.take 1)
  | .clear => log.cancelAll q.queue

/-- The results of the orders that were completed, in the order in which they left. -/
def completed (log : QueueLog) : List (Option BuildQueueResult) :=
  (log.departed.filter (·.completed)).map (·.order.result)

end QueueLog

/-- An operation on a queue with a log. -/
def loggedStep (x : BuildQueue × QueueLog) (op : QueueOp) : BuildQueue × QueueLog :=
  (op.apply x.1, x.2.after x.1 op)

/-! ### The discipline -/

/-- **The log of a queue is right, and its counter**: the orders that came are the ones that left
and the ones that wait, in this order; the results are those of the completed orders, each of which
was paid for while it was at the front; and the counter is what was applied to the front order and
does not pay for it. -/
structure Disciplined (q : BuildQueue) (log : QueueLog) : Prop where
  balance : log.enqueued = log.departed.map (·.order) ++ q.queue.map (·.order)
  results : log.results.map some = log.completed
  paid : ∀ d ∈ log.departed, d.completed = true → d.order.cost ≤ d.applied
  credited : q.accumulated = log.applied
  idle : q.queue = [] → q.accumulated = 0
  busy : ∀ item rest, q.queue = item :: rest →
    0 ≤ q.accumulated ∧ q.accumulated < item.productionCost
  priced : ∀ item ∈ q.queue, 0 < item.productionCost ∧ item.order.result ≠ none

namespace Disciplined

variable {q : BuildQueue} {log : QueueLog}

theorem empty : Disciplined {} {} where
  balance := rfl
  results := rfl
  paid _ hd := by cases hd
  credited := rfl
  idle _ := rfl
  busy _ _ h := by cases h
  priced _ h := by cases h

/-- An order at the back of the queue keeps the discipline. -/
theorem push (h : Disciplined q log) {item : BuildQueueItem} (hcost : 0 < item.productionCost)
    (hresult : item.order.result ≠ none) :
    Disciplined { q with queue := q.queue ++ [item] }
      { log with enqueued := log.enqueued ++ [item.order] } where
  balance := by
    dsimp only
    rw [h.balance, List.map_append, List.append_assoc]
    rfl
  results := h.results
  paid := h.paid
  credited := h.credited
  idle hnil := absurd hnil (by simp)
  busy front rest hfront := by
    cases hq : q.queue with
    | nil =>
        dsimp only at hfront
        rw [hq] at hfront
        obtain ⟨rfl, -⟩ := List.cons.inj hfront
        rw [h.idle hq]
        exact ⟨le_rfl, hcost⟩
    | cons first others =>
        dsimp only at hfront
        rw [hq] at hfront
        obtain ⟨rfl, -⟩ := List.cons.inj hfront
        exact h.busy first others hq
  priced front hfront := by
    rcases List.mem_append.1 hfront with hfront | hfront
    · exact h.priced front hfront
    · rw [List.mem_singleton.1 hfront]
      exact ⟨hcost, hresult⟩

/-- The front order leaves the queue: a completed one returns its result and is paid for. -/
theorem leave (h : Disciplined q log) {front : BuildQueueItem} {rest : List BuildQueueItem}
    (hq : q.queue = front :: rest) {applied : ℤ} {result : Option BuildQueueResult}
    (hresult : ∀ r, result = some r → front.order.result = some r ∧
    front.productionCost ≤ applied) :
    Disciplined { queue := rest, accumulated := 0 } (log.leave front applied result) where
  balance := by
    dsimp only [QueueLog.leave]
    rw [h.balance, hq, List.map_append, List.append_assoc]
    rfl
  results := by
    rw [QueueLog.leave, QueueLog.completed]
    dsimp only
    rw [List.map_append, h.results, List.filter_append, List.map_append]
    refine congrArg (log.completed ++ ·) ?_
    cases result with
    | none => rfl
    | some r =>
        obtain ⟨hr, -⟩ := hresult r rfl
        exact congrArg (fun x => [x]) hr.symm
  paid d hd hcompleted := by
    rcases List.mem_append.1 hd with hd | hd
    · exact h.paid d hd hcompleted
    · obtain rfl := List.mem_singleton.1 hd
      cases result with
      | none => cases hcompleted
      | some r => exact (hresult r rfl).2
  credited := rfl
  idle _ := rfl
  busy item others hfront := by
    obtain rfl : rest = item :: others := hfront
    refine ⟨le_rfl, (h.priced item ?_).1⟩
    rw [hq]
    exact List.mem_cons_of_mem _ List.mem_cons_self
  priced item hitem := h.priced item (hq ▸ List.mem_cons_of_mem _ hitem)

/-- All orders leave the queue. -/
theorem cancelAll (h : Disciplined q log) : Disciplined {} (log.cancelAll q.queue) := by
  generalize hitems : q.queue = items
  induction items generalizing q log with
  | nil =>
      have hempty : q = {} := by
        have hidle := h.idle hitems
        cases q
        cases hitems
        cases hidle
        rfl
      rwa [QueueLog.cancelAll, ← hempty]
  | cons front rest ih => exact ih (h.leave hitems fun r hr => by cases hr) rfl

/-- Production that does not pay for the front order is saved. -/
theorem save (h : Disciplined q log) {front : BuildQueueItem} {rest : List BuildQueueItem}
    (hq : q.queue = front :: rest) {amount : ℤ} (hamount : 0 ≤ amount)
    (hlt : q.accumulated + amount < front.productionCost) :
    Disciplined { q with accumulated := q.accumulated + amount }
      { log with applied := log.applied + amount } where
  balance := h.balance
  results := h.results
  paid := h.paid
  credited := congrArg (· + amount) h.credited
  idle hnil := absurd (hq.symm.trans hnil) (List.cons_ne_nil front rest)
  busy item others hfront := by
    obtain ⟨rfl, -⟩ := List.cons.inj (hq.symm.trans hfront)
    have hbusy := h.busy front rest hq
    exact ⟨by dsimp only; omega, hlt⟩
  priced := h.priced

/-- **Production pays for the front order, or is saved.** -/
theorem applyProduction (h : Disciplined q log) {amount : ℤ} (hamount : 0 ≤ amount) :
    Disciplined (q.applyProduction amount).1 (log.after q (.applyProduction amount)) := by
  rw [QueueLog.after, BuildQueue.applyProduction]
  cases hq : q.queue with
  | nil => exact h
  | cons front rest =>
      dsimp only
      obtain ⟨-, hresult⟩ := h.priced front (hq ▸ List.mem_cons_self)
      have hcredited := h.credited
      by_cases hdue : front.productionCost ≤ q.accumulated + amount
      · have hpaid : front.productionCost ≤ log.applied + amount := by omega
        rw [if_pos hdue]
        rw [BuildQueueItem.order] at hresult
        cases htype : front.orderType with
        | unit =>
            refine h.leave hq fun r hr => ⟨?_, hpaid⟩
            rw [← hr, BuildQueueItem.order, htype]
        | building =>
            cases hmade : front.factory with
            | none =>
                rw [htype, hmade] at hresult
                exact absurd rfl hresult
            | some factory =>
                refine h.leave hq fun r hr => ⟨?_, hpaid⟩
                rw [← hr, BuildQueueItem.order, htype, hmade]
      · rw [if_neg hdue]
        have hsave := h.save hq hamount (Int.not_le.1 hdue)
        rwa [hq] at hsave

/-- **Every operation keeps the discipline.** -/
theorem after (h : Disciplined q log) {op : QueueOp} (hop : op.Regular) :
    Disciplined (op.apply q) (log.after q op) := by
  cases op with
  | enqueue factory targetRow targetCol => exact h.push hop (Option.some_ne_none _)
  | enqueueUnit templateKey productionCost => exact h.push hop (Option.some_ne_none _)
  | applyProduction amount => exact h.applyProduction hop
  | cancel =>
      rw [QueueOp.apply, QueueLog.after, BuildQueue.cancel]
      cases hq : q.queue with
      | nil => exact h
      | cons front rest => exact h.leave hq fun r hr => by cases hr
  | clear => exact h.cancelAll

end Disciplined

end My4X
