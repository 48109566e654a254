/-
**The books of a family of queues.**

Items are put at the back of queues and leave them at the front.  A ledger notes for each queue what
was accepted and what has left it, and what became of what has left.  The books are right when
nothing is unaccounted for, in order, and every accepted item that has left met a good fate.

Main definitions:

* `FifoLedger` — what was accepted and what has left, queue by queue;
* `FifoLedger.Accounts` — the books are right.

Main results:

* `FifoLedger.accounts_accept_iff` — an item more at the back of a queue keeps the books right;
* `FifoLedger.accounts_depart_iff` — **items that leave at the front keep the books right exactly
  when those among them that were accepted met a good fate**.
-/

import Mathlib.Logic.Function.Basic

set_option relaxedAutoImplicit false
set_option autoImplicit false

universe u v w

/-- **The books of a family of queues**: the accepted items and the ones that have left, with what
became of them. -/
structure FifoLedger (ι : Type u) (α : Type v) (φ : Type w) where
  accepted : ι → List α
  departed : ι → List (α × φ)

namespace FifoLedger

variable {ι : Type u} {α : Type v} {φ : Type w}

/-- Nothing was accepted, and nothing has left. -/
def empty : FifoLedger ι α φ := ⟨fun _ => [], fun _ => []⟩

variable [DecidableEq ι]

/-- An item is accepted into a queue. -/
def accept (l : FifoLedger ι α φ) (i : ι) (a : α) : FifoLedger ι α φ :=
  { l with accepted := Function.update l.accepted i (l.accepted i ++ [a]) }

/-- Items leave a queue, and all meet one fate. -/
def depart (l : FifoLedger ι α φ) (i : ι) (as : List α) (f : φ) : FifoLedger ι α φ :=
  { l with departed := Function.update l.departed i (l.departed i ++ as.map fun a => (a, f)) }

/-- **The books are right**: what a queue held at the start, followed by what was accepted, is what
has left it, followed by what it holds; and what has left it after what it held at the start met a
good fate. -/
structure Accounts (good : α → φ → Prop) (start queue : ι → List α) (l : FifoLedger ι α φ) :
    Prop where
  balance : ∀ i, start i ++ l.accepted i = (l.departed i).map Prod.fst ++ queue i
  fates : ∀ i, ∀ d ∈ (l.departed i).drop (start i).length, good d.1 d.2

variable {good : α → φ → Prop} {start queue queue' : ι → List α} {l : FifoLedger ι α φ} {i : ι}

omit [DecidableEq ι] in
theorem accounts_empty (start : ι → List α) : Accounts good start start empty where
  balance i := List.append_nil _
  fates i d hd := by
    rw [show (empty : FifoLedger ι α φ).departed i = [] from rfl, List.drop_nil] at hd
    cases hd

/-- An item more at the back of a queue keeps the books right. -/
theorem accounts_accept_iff {a : α} (hback : queue' i = queue i ++ [a])
    (hothers : ∀ j, j ≠ i → queue' j = queue j) :
    Accounts good start queue' (l.accept i a) ↔ Accounts good start queue l := by
  have hbalance : (∀ j, start j ++ (l.accept i a).accepted j =
      ((l.accept i a).departed j).map Prod.fst ++ queue' j) ↔
      ∀ j, start j ++ l.accepted j = (l.departed j).map Prod.fst ++ queue j := by
    refine forall_congr' fun j => ?_
    dsimp only [accept]
    rcases eq_or_ne j i with rfl | hj
    · rw [Function.update_self, hback, ← List.append_assoc, ← List.append_assoc]
      exact List.append_left_inj [a]
    · rw [Function.update_of_ne hj, hothers j hj]
  constructor
  · intro h
    exact ⟨hbalance.1 h.balance, h.fates⟩
  · intro h
    exact ⟨hbalance.2 h.balance, h.fates⟩

/-- **Items that leave a queue at the front keep the books right exactly when those among them that
were accepted met a good fate.** -/
theorem accounts_depart_iff {as : List α} {f : φ} (hfront : queue i = as ++ queue' i)
    (hothers : ∀ j, j ≠ i → queue' j = queue j) :
    Accounts good start queue' (l.depart i as f) ↔ Accounts good start queue l ∧
      ∀ a ∈ as.drop ((start i).length - (l.departed i).length), good a f := by
  have hbalance : (∀ j, start j ++ (l.depart i as f).accepted j =
      ((l.depart i as f).departed j).map Prod.fst ++ queue' j) ↔
      ∀ j, start j ++ l.accepted j = (l.departed j).map Prod.fst ++ queue j := by
    refine forall_congr' fun j => ?_
    dsimp only [depart]
    rcases eq_or_ne j i with rfl | hj
    · rw [Function.update_self, hfront, List.map_append, List.map_map, List.append_assoc]
      rw [show (Prod.fst ∘ fun a => (a, f)) = (id : α → α) from rfl, List.map_id]
    · rw [Function.update_of_ne hj, hothers j hj]
  have hfates : (∀ j, ∀ d ∈ ((l.depart i as f).departed j).drop (start j).length, good d.1 d.2) ↔
      (∀ j, ∀ d ∈ (l.departed j).drop (start j).length, good d.1 d.2) ∧
        ∀ a ∈ as.drop ((start i).length - (l.departed i).length), good a f := by
    have hsplit : ((l.depart i as f).departed i).drop (start i).length =
        (l.departed i).drop (start i).length ++
          (as.drop ((start i).length - (l.departed i).length)).map fun a => (a, f) := by
      dsimp only [depart]
      rw [Function.update_self, List.drop_append, List.map_drop]
    constructor
    · intro h
      refine ⟨fun j d hd => ?_, fun a ha => ?_⟩
      · rcases eq_or_ne j i with rfl | hj
        · refine h j d ?_
          rw [hsplit]
          exact List.mem_append_left _ hd
        · refine h j d ?_
          dsimp only [depart]
          rwa [Function.update_of_ne hj]
      · refine h i (a, f) ?_
        rw [hsplit]
        exact List.mem_append_right _ (List.mem_map.2 ⟨a, ha, rfl⟩)
    · intro h j d hd
      rcases eq_or_ne j i with rfl | hj
      · rw [hsplit] at hd
        rcases List.mem_append.1 hd with hd | hd
        · exact h.1 j d hd
        · obtain ⟨a, ha, rfl⟩ := List.mem_map.1 hd
          exact h.2 a ha
      · dsimp only [depart] at hd
        rw [Function.update_of_ne hj] at hd
        exact h.1 j d hd
  constructor
  · intro h
    obtain ⟨hold, hnew⟩ := hfates.1 h.fates
    exact ⟨⟨hbalance.1 h.balance, hold⟩, hnew⟩
  · intro h
    exact ⟨hbalance.2 h.1.balance, hfates.2 ⟨h.1.fates, h.2⟩⟩

end FifoLedger
