/-
**Operations that commute.**

An operation reads and changes a state and answers, or it fails.  Two operations commute at a state
when both orders give the same state, the same answer to each of the two, and the same failure.
Several operations that commute pairwise, and whose execution leaves the others commuting, can be
executed in any order.

Main definitions:

* `Commuting.both` — two operations, one after the other;
* `Commuting.CommuteAt` — both orders agree;
* `Commuting.executeAll` — a list of operations with their answers;
* `Commuting.Independence` — a relation of operations that makes them commute and that executing an
  operation keeps.

Main results:

* `Commuting.executeAll_perm` — **independent operations can be executed in any order**.
-/

import Mathlib.Data.List.Basic
import Mathlib.Data.List.Perm.Basic

set_option relaxedAutoImplicit false
set_option autoImplicit false

universe u

namespace Commuting

variable {σ ρ α ε : Type u} (exec : α → σ → Except ε (σ × ρ))

/-- Two operations, one after the other, with both answers. -/
def both (a b : α) (s : σ) : Except ε (σ × ρ × ρ) := do
  let (s, ra) ← exec a s
  let (s, rb) ← exec b s
  return (s, ra, rb)

/-- Both orders give the same state and the same answers, or the same failure. -/
def CommuteAt (s : σ) (a b : α) : Prop :=
  both exec a b s = (both exec b a s).map fun (s, rb, ra) => (s, ra, rb)

/-- The operations of a list, one after the other, each with its answer. -/
def executeAll : List α → σ → Except ε (σ × List (α × ρ))
  | [], s => .ok (s, [])
  | a :: as, s => do
      let (s, r) ← exec a s
      let (s, rs) ← executeAll as s
      return (s, (a, r) :: rs)

/-- The same outcome, up to the order of the answers. -/
inductive SameOutcome : Except ε (σ × List (α × ρ)) → Except ε (σ × List (α × ρ)) → Prop
  | error (e : ε) : SameOutcome (.error e) (.error e)
  | ok (s : σ) {rs rs' : List (α × ρ)} (h : rs.Perm rs') : SameOutcome (.ok (s, rs)) (.ok (s, rs'))

/-- Related operations commute, and executing an operation keeps those related that it is itself
related to. -/
structure Independence (I : σ → α → α → Prop) : Prop where
  symm : ∀ {s a b}, I s a b → I s b a
  commute : ∀ {s a b}, I s a b → CommuteAt exec s a b
  kept : ∀ {s s' a b c r}, exec c s = .ok (s', r) → I s c a → I s c b → I s a b → I s' a b

variable {exec}

namespace SameOutcome

theorem refl : ∀ x : Except ε (σ × List (α × ρ)), SameOutcome x x
  | .error e => error e
  | .ok (s, rs) => ok s (List.Perm.refl rs)

theorem trans {x y z : Except ε (σ × List (α × ρ))} (h : SameOutcome x y) (h' : SameOutcome y z) :
    SameOutcome x z := by
  cases h with
  | error e => exact h'
  | ok s hperm =>
      cases h' with
      | ok s hperm' => exact ok s (hperm.trans hperm')

end SameOutcome

theorem executeAll_cons_error {a : α} {as : List α} {s : σ} {e : ε} (h : exec a s = .error e) :
    executeAll exec (a :: as) s = .error e := by
  rw [executeAll, h]
  rfl

theorem executeAll_cons_ok {a : α} {as : List α} {s s' : σ} {r : ρ} (h : exec a s = .ok (s', r)) :
    executeAll exec (a :: as) s =
      (executeAll exec as s').map fun (t, rs) => (t, (a, r) :: rs) := by
  rw [executeAll, h]
  change (do let (t, rs) ← executeAll exec as s'; pure (t, (a, r) :: rs)) = _
  cases executeAll exec as s' <;> rfl

theorem both_error {a b : α} {s : σ} {e : ε} (h : exec a s = .error e) :
    both exec a b s = .error e := by
  rw [both, h]
  rfl

theorem both_ok {a b : α} {s t : σ} {ra : ρ} (h : exec a s = .ok (t, ra)) :
    both exec a b s = (exec b t).map fun (t, rb) => (t, ra, rb) := by
  rw [both, h]
  change (do let (t, rb) ← exec b t; pure (t, ra, rb)) = _
  cases exec b t <;> rfl

/-- The first two operations of a list. -/
theorem executeAll_cons_cons (a b : α) (as : List α) (s : σ) :
    executeAll exec (a :: b :: as) s = both exec a b s >>= fun (t, ra, rb) =>
      (executeAll exec as t).map fun (t, rs) => (t, (a, ra) :: (b, rb) :: rs) := by
  cases ha : exec a s with
  | error e => rw [executeAll_cons_error ha, both_error ha]; rfl
  | ok x =>
      rw [executeAll_cons_ok ha, both_ok ha]
      cases hb : exec b x.1 with
      | error e => rw [executeAll_cons_error hb]; rfl
      | ok y =>
          rw [executeAll_cons_ok hb]
          change _ = (executeAll exec as y.1).map _
          cases executeAll exec as y.1 <;> rfl

/-- **Independent operations can be executed in any order**: the state and the answers are the same,
and so is the failure, if there is one. -/
theorem executeAll_perm {I : σ → α → α → Prop} (h : Independence exec I) {as bs : List α}
    (hperm : as.Perm bs) :
    ∀ s, as.Pairwise (I s) → SameOutcome (executeAll exec as s) (executeAll exec bs s) := by
  induction hperm with
  | nil => intro s _; exact SameOutcome.refl _
  | cons a hperm ih =>
      intro s hpair
      obtain ⟨hhead, htail⟩ := List.pairwise_cons.1 hpair
      cases ha : exec a s with
      | error e =>
          rw [executeAll_cons_error ha, executeAll_cons_error ha]
          exact SameOutcome.error e
      | ok x =>
          obtain ⟨t, r⟩ := x
          have hrest := ih t (htail.imp_of_mem fun hb hc => h.kept ha (hhead _ hb) (hhead _ hc))
          rw [executeAll_cons_ok ha, executeAll_cons_ok ha]
          generalize executeAll exec _ t = out at hrest ⊢
          generalize executeAll exec _ t = out' at hrest ⊢
          cases hrest with
          | error e => exact SameOutcome.error e
          | ok s hrs => exact SameOutcome.ok s (hrs.cons _)
  | swap a b as =>
      intro s hpair
      obtain ⟨hhead, -⟩ := List.pairwise_cons.1 hpair
      have hcomm : both exec b a s = _ := h.commute (hhead a List.mem_cons_self)
      rw [executeAll_cons_cons, executeAll_cons_cons, hcomm]
      cases both exec a b s with
      | error e => exact SameOutcome.error e
      | ok x =>
          obtain ⟨t, ra, rb⟩ := x
          change SameOutcome ((executeAll exec as t).map _) ((executeAll exec as t).map _)
          cases executeAll exec as t with
          | error e => exact SameOutcome.error e
          | ok y => exact SameOutcome.ok _ (List.Perm.swap ..)
  | trans hperm _ ih ih' =>
      intro s hpair
      exact (ih s hpair).trans (ih' s (hpair.perm hperm h.symm))

end Commuting
