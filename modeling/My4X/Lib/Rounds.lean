/-
**Rounds of visitors who leave things behind.**

Visitors come to a pool in some order.  Each finds what was in the pool at first and what the
visitors before it have left, and leaves something in turn, which may depend on what it finds.  What
a visitor makes of its visit can then depend on the order in which they come.

Main definitions:

* `Rounds.visits` — what each visitor finds;
* `Rounds.OrderFree` — what a visitor makes of its visit does not depend on the order;
* `Rounds.worth`, `Rounds.collected` — what a visitor is paid for the things it finds, and what all
  visitors are paid.

Main results:

* `Rounds.orderFree_iff` — **the order does not matter to the visitors exactly when whatever some
  others leave makes no difference to any one of them**;
* `Rounds.collected_orderFree_iff` — **the order does not matter to the pay of all exactly when two
  visitors are worth the same to each other**.
-/

import Mathlib.Algebra.BigOperators.Group.List.Basic
import Mathlib.Algebra.Order.BigOperators.Group.List
import Mathlib.Algebra.Order.Group.Int
import Mathlib.Data.List.Nodup
import Mathlib.Tactic.Abel

set_option relaxedAutoImplicit false
set_option autoImplicit false

universe u v w

namespace Rounds

variable {ι : Type u} {β : Type v}

/-! ### Visits -/

section Visits

variable (leaves : ι → List β → List β)

/-- **What each visitor finds**, in the order in which they come. -/
def visits : List β → List ι → List (ι × List β)
  | _, [] => []
  | pool, i :: is => (i, pool) :: visits (pool ++ leaves i pool) is

/-- What the visitors leave, in the order in which they come. -/
def left (pool : List β) (is : List ι) : List β :=
  (visits leaves pool is).flatMap fun x => leaves x.1 x.2

theorem left_cons (pool : List β) (i : ι) (is : List ι) :
    left leaves pool (i :: is) = leaves i pool ++ left leaves (pool ++ leaves i pool) is := rfl

theorem visits_append (pool : List β) (is js : List ι) :
    visits leaves pool (is ++ js) =
      visits leaves pool is ++ visits leaves (pool ++ left leaves pool is) js := by
  induction is generalizing pool with
  | nil => rw [left, visits, List.flatMap_nil, List.append_nil, List.nil_append, List.nil_append]
  | cons i is ih =>
      rw [List.cons_append, visits, visits, ih, left_cons, List.append_assoc, List.cons_append]

/-- Visitors who leave the same find the same. -/
theorem visits_congr {leaves' : ι → List β → List β} {is : List ι}
    (h : ∀ i ∈ is, leaves i = leaves' i) (pool : List β) :
    visits leaves pool is = visits leaves' pool is := by
  induction is generalizing pool with
  | nil => rfl
  | cons i is ih =>
      rw [visits, visits, h i List.mem_cons_self,
        ih fun j hj => h j (List.mem_cons_of_mem _ hj)]

theorem left_congr {leaves' : ι → List β → List β} {is : List ι}
    (h : ∀ i ∈ is, leaves i = leaves' i) (pool : List β) :
    left leaves pool is = left leaves' pool is := by
  induction is generalizing pool with
  | nil => rfl
  | cons i is ih =>
      rw [left_cons, left_cons, h i List.mem_cons_self,
        ih fun j hj => h j (List.mem_cons_of_mem _ hj)]

/-- The visitor who comes after some others. -/
theorem mem_visits_append (pool : List β) (pre : List ι) (i : ι) (post : List ι) :
    (i, pool ++ left leaves pool pre) ∈ visits leaves pool (pre ++ i :: post) := by
  rw [visits_append]
  exact List.mem_append_right _ List.mem_cons_self

theorem exists_visit (pool : List β) {is : List ι} {i : ι} (h : i ∈ is) :
    ∃ p, (i, p) ∈ visits leaves pool is := by
  obtain ⟨pre, post, rfl⟩ := List.append_of_mem h
  exact ⟨_, mem_visits_append leaves pool pre i post⟩

variable {leaves}

theorem exists_of_mem_visits {pool : List β} {is : List ι} {x : ι × List β}
    (h : x ∈ visits leaves pool is) :
    ∃ pre post, is = pre ++ x.1 :: post ∧ x.2 = pool ++ left leaves pool pre := by
  induction is generalizing pool with
  | nil => cases h
  | cons i is ih =>
      rw [visits] at h
      rcases List.mem_cons.1 h with rfl | h
      · exact ⟨[], is, rfl, (List.append_nil pool).symm⟩
      · obtain ⟨pre, post, his, hfound⟩ := ih h
        exact ⟨i :: pre, post, by rw [his, List.cons_append],
          by rw [hfound, left_cons, List.append_assoc]⟩

theorem mem_of_mem_visits {pool : List β} {is : List ι} {x : ι × List β}
    (h : x ∈ visits leaves pool is) : x.1 ∈ is := by
  obtain ⟨pre, post, his, -⟩ := exists_of_mem_visits h
  rw [his]
  exact List.mem_append_right _ List.mem_cons_self

variable (placed : ι → List β)

/-- When what a visitor leaves is fixed, all of it is left. -/
theorem left_fixed (pool : List β) (is : List ι) :
    left (fun i _ => placed i) pool is = is.flatMap placed := by
  induction is generalizing pool with
  | nil => rfl
  | cons i is ih => rw [left_cons, ih, List.flatMap_cons]

/-- Numbered visitors, one after the other. -/
theorem visits_fixed_range (placed : ℕ → List β) (pool : List β) (n : ℕ) :
    visits (fun i _ => placed i) pool (List.range n) =
      (List.range n).map fun i => (i, pool ++ (List.range i).flatMap placed) := by
  induction n with
  | zero => rfl
  | succ n ih =>
      rw [List.range_succ, visits_append, ih, left_fixed, List.map_append]
      rfl

/-- **Visitors who leave what was foreseen find what was foreseen.** -/
theorem visits_eq_fixed {pool : List β} {is : List ι}
    (h : ∀ x ∈ visits leaves pool is, leaves x.1 x.2 = placed x.1) :
    visits leaves pool is = visits (fun i _ => placed i) pool is := by
  induction is generalizing pool with
  | nil => rfl
  | cons i is ih =>
      rw [visits] at h ⊢
      have hfirst : leaves i pool = placed i := h _ List.mem_cons_self
      rw [hfirst] at h ⊢
      rw [visits, ih fun x hx => h x (List.mem_cons_of_mem _ hx)]

/-- The same, when it is foreseen of the visits that were foreseen. -/
theorem visits_eq_fixed' {pool : List β} {is : List ι}
    (h : ∀ x ∈ visits (fun i _ => placed i) pool is, leaves x.1 x.2 = placed x.1) :
    visits leaves pool is = visits (fun i _ => placed i) pool is := by
  induction is generalizing pool with
  | nil => rfl
  | cons i is ih =>
      rw [visits] at h ⊢
      have hfirst : leaves i pool = placed i := h _ List.mem_cons_self
      rw [visits, hfirst, ih fun x hx => h x (List.mem_cons_of_mem _ hx)]

theorem left_eq_fixed' {pool : List β} {is : List ι}
    (h : ∀ x ∈ visits (fun i _ => placed i) pool is, leaves x.1 x.2 = placed x.1) :
    left leaves pool is = is.flatMap placed := by
  have hsame : (visits (fun i _ => placed i) pool is).flatMap (fun x => leaves x.1 x.2) =
      (visits (fun i _ => placed i) pool is).flatMap fun x => placed x.1 :=
    List.flatMap_congr h
  rw [left, visits_eq_fixed' placed h, hsame, ← left_fixed placed pool is, left]

end Visits

/-! ### What a visitor makes of its visit -/

/-- Some visitors of an order can come first, and another one after them. -/
theorem exists_perm_append {order before : List ι} {i : ι} (hbefore : before.Nodup)
    (hsub : before ⊆ order) (hi : i ∈ order) (hnot : i ∉ before) :
    ∃ rest, (before ++ i :: rest).Perm order := by
  have hnodup : (before ++ [i]).Nodup := by
    refine List.nodup_append.2 ⟨hbefore, List.nodup_singleton i, ?_⟩
    intro a ha b hb
    obtain rfl := List.mem_singleton.1 hb
    rintro rfl
    exact hnot ha
  have hall : before ++ [i] ⊆ order := by
    intro a ha
    rcases List.mem_append.1 ha with ha | ha
    · exact hsub ha
    · rw [List.mem_singleton.1 ha]
      exact hi
  obtain ⟨l, hl, hsublist⟩ := List.subperm_of_subset hnodup hall
  obtain ⟨rest, hrest⟩ := hsublist.exists_perm_append
  refine ⟨rest, ?_⟩
  have happ := (hrest.trans (hl.append_right rest)).symm
  rwa [List.append_assoc] at happ

section Results

variable {ρ : Type w} (leaves : ι → List β → List β) (result : ι → List β → ρ) (pool : List β)
  (order : List ι)

/-- **What a visitor makes of its visit does not depend on the order** in which the visitors
come. -/
def OrderFree : Prop :=
  ∀ is, is.Perm order → ∀ is', is'.Perm order → ∀ x ∈ visits leaves pool is,
    ∀ y ∈ visits leaves pool is', x.1 = y.1 → result x.1 x.2 = result y.1 y.2

variable {leaves result pool order}

/-- A visitor who comes first finds the pool as it was. -/
theorem OrderFree.result_eq (h : OrderFree leaves result pool order) {is : List ι}
    (his : is.Perm order) {x : ι × List β} (hx : x ∈ visits leaves pool is) :
    result x.1 x.2 = result x.1 pool := by
  obtain ⟨rest, hrest⟩ := exists_perm_append List.nodup_nil (List.nil_subset order)
    (his.subset (mem_of_mem_visits hx)) List.not_mem_nil
  exact h is his _ hrest x hx (x.1, pool) List.mem_cons_self rfl

/-- Then each visitor leaves what it would leave if it came first. -/
theorem OrderFree.visits_eq (h : OrderFree leaves result pool order)
    (hleaves : ∀ i p q, result i p = result i q → leaves i p = leaves i q) {is : List ι}
    (his : is.Perm order) :
    visits leaves pool is = visits (fun i _ => leaves i pool) pool is :=
  visits_eq_fixed (fun i => leaves i pool)
    fun _ hx => hleaves _ _ _ (h.result_eq his hx)

theorem OrderFree.left_eq (h : OrderFree leaves result pool order)
    (hleaves : ∀ i p q, result i p = result i q → leaves i p = leaves i q) {is : List ι}
    (his : is.Perm order) : left leaves pool is = is.flatMap fun i => leaves i pool := by
  have hsame : left leaves pool is =
      (visits leaves pool is).flatMap fun x => leaves x.1 pool := by
    rw [left]
    refine List.flatMap_congr fun x hx => ?_
    exact hleaves _ _ _ (h.result_eq his hx)
  rw [hsame, h.visits_eq hleaves his, ← left_fixed _ pool is, left]

/-- **The order does not matter to the visitors exactly when whatever some others leave makes no
difference to any one of them.** -/
theorem orderFree_iff (hleaves : ∀ i p q, result i p = result i q → leaves i p = leaves i q)
    (hnodup : order.Nodup) :
    OrderFree leaves result pool order ↔
      ∀ i ∈ order, ∀ before : List ι, before.Nodup → before ⊆ order → i ∉ before →
        result i (pool ++ before.flatMap fun k => leaves k pool) = result i pool := by
  constructor
  · intro h i hi before hbefore hsub hnot
    obtain ⟨rest, hrest⟩ := exists_perm_append hbefore hsub hi hnot
    have hmem := mem_visits_append (fun k _ => leaves k pool) pool before i rest
    rw [left_fixed, ← h.visits_eq hleaves hrest] at hmem
    exact h.result_eq hrest hmem
  · intro h
    -- in every order each visitor gets what it would get if it came first
    have hfirst : ∀ is, is.Perm order → ∀ x ∈ visits leaves pool is,
        result x.1 x.2 = result x.1 pool := by
      intro is his
      have hfixed : ∀ x ∈ visits (fun k _ => leaves k pool) pool is,
          result x.1 x.2 = result x.1 pool := by
        intro x hx
        obtain ⟨pre, post, heq, hfound⟩ := exists_of_mem_visits hx
        rw [left_fixed (fun k => leaves k pool)] at hfound
        have hnodup' : (pre ++ x.1 :: post).Nodup := heq ▸ his.nodup_iff.2 hnodup
        have hsub : pre ⊆ order := fun k hk =>
          his.subset (heq ▸ List.mem_append_left _ hk)
        rw [hfound]
        exact h x.1 (his.subset (mem_of_mem_visits hx)) pre (List.nodup_append.1 hnodup').1 hsub
          fun hmem => (List.nodup_append.1 hnodup').2.2 _ hmem _ List.mem_cons_self rfl
      rw [visits_eq_fixed' (fun k => leaves k pool)
        fun x hx => hleaves _ _ _ (hfixed x hx)]
      exact hfixed
    intro is his is' his' x hx y hy hxy
    rw [hfirst is his x hx, hfirst is' his' y hy, hxy]

end Results

/-! ### What the visitors are paid -/

section Pay

variable {M : Type w} [AddCommGroup M] (value : ι → β → M)

/-- What some things are worth to a visitor. -/
def worth (i : ι) (p : List β) : M := (p.map (value i)).sum

@[simp] theorem worth_append (i : ι) (p q : List β) :
    worth value i (p ++ q) = worth value i p + worth value i q := by
  rw [worth, List.map_append, List.sum_append]
  rfl

/-- What all visitors are paid for the things they find. -/
def collected (visited : List (ι × List β)) : M :=
  (visited.map fun x => worth value x.1 x.2).sum

@[simp] theorem collected_cons (x : ι × List β) (visited : List (ι × List β)) :
    collected value (x :: visited) = worth value x.1 x.2 + collected value visited := by
  rw [collected, List.map_cons, List.sum_cons]
  rfl

variable (placed : ι → List β)

/-- What is found in a pool in addition to something else pays in addition. -/
theorem collected_visits_append (is : List ι) (p q : List β) :
    collected value (visits (fun i _ => placed i) (p ++ q) is) =
      collected value (visits (fun i _ => placed i) p is) +
        (is.map fun i => worth value i q).sum := by
  induction is generalizing p q with
  | nil => simp [visits, collected]
  | cons i is ih =>
      have hswap : collected value (visits (fun i _ => placed i) (p ++ q ++ placed i) is) =
          collected value (visits (fun i _ => placed i) (p ++ placed i) is) +
            (is.map fun i => worth value i q).sum := by
        rw [List.append_assoc, ih p, ih p (placed i)]
        simp only [worth_append, List.sum_map_add]
        abel
      rw [visits, visits, collected_cons, collected_cons, hswap, worth_append, List.map_cons,
        List.sum_cons]
      abel

/-- The pay of the two first visitors, and of the ones after them. -/
theorem collected_visits_cons_cons (pool : List β) (i k : ι) (is : List ι) :
    collected value (visits (fun i _ => placed i) pool (i :: k :: is)) =
      worth value i pool + worth value k pool + worth value k (placed i) +
        (collected value (visits (fun i _ => placed i) pool is) +
          ((is.map fun j => worth value j (placed i)).sum +
            (is.map fun j => worth value j (placed k)).sum)) := by
  rw [visits, visits, collected_cons, collected_cons, worth_append, List.append_assoc,
    collected_visits_append]
  simp only [worth_append, List.sum_map_add]
  abel

/-- Visitors who are worth the same to each other are paid the same in every order. -/
theorem collected_visits_perm {is is' : List ι} (h : is.Perm is')
    (hsymm : ∀ i ∈ is, ∀ k ∈ is, worth value i (placed k) = worth value k (placed i))
    (pool : List β) :
    collected value (visits (fun i _ => placed i) pool is) =
      collected value (visits (fun i _ => placed i) pool is') := by
  induction h generalizing pool with
  | nil => rfl
  | cons i h ih =>
      rw [visits, visits, collected_cons, collected_cons, ih fun j hj k hk =>
        hsymm j (List.mem_cons_of_mem _ hj) k (List.mem_cons_of_mem _ hk)]
  | swap i k l =>
      have hpair := hsymm i (List.mem_cons_of_mem _ List.mem_cons_self) k List.mem_cons_self
      rw [collected_visits_cons_cons, collected_visits_cons_cons, hpair]
      abel
  | trans h₁ h₂ ih₁ ih₂ =>
      rw [ih₁ hsymm pool, ih₂ (fun j hj k hk => hsymm j (h₁.symm.subset hj) k (h₁.symm.subset hk))]

/-- **The order does not matter to the pay of all exactly when two visitors are worth the same to
each other.** -/
theorem collected_orderFree_iff {order : List ι} (pool : List β) :
    (∀ is, is.Perm order → collected value (visits (fun i _ => placed i) pool is) =
        collected value (visits (fun i _ => placed i) pool order)) ↔
      ∀ i ∈ order, ∀ k ∈ order, i ≠ k → worth value i (placed k) = worth value k (placed i) := by
  constructor
  · intro h i hi k hk hne
    have hnot : k ∉ [i] := fun hmem => hne (List.mem_singleton.1 hmem).symm
    obtain ⟨rest, hrest⟩ := exists_perm_append (List.nodup_singleton i)
      (List.cons_subset.2 ⟨hi, List.nil_subset order⟩) hk hnot
    -- the two come first, in the one order and in the other
    have hik := h _ hrest
    have hki := h (k :: i :: rest) ((List.Perm.swap i k rest).trans hrest)
    rw [← hki, List.singleton_append, collected_visits_cons_cons, collected_visits_cons_cons,
      add_comm (List.sum _) (List.sum _), add_left_inj, add_comm (worth value k pool),
      add_right_inj] at hik
    exact hik.symm
  · intro h is his
    refine collected_visits_perm value placed his (fun i hi k hk => ?_) pool
    by_cases hik : i = k
    · rw [hik]
    · exact h i (his.subset hi) k (his.subset hk) hik

end Pay

/-! ### What some others leave -/

/-- Nothing comes of any others exactly when nothing comes of each of them. -/
theorem forall_sum_eq_zero_iff {others : List ι} (gain : ι → ℤ) :
    (∀ before : List ι, before.Nodup → before ⊆ others → (before.map gain).sum = 0) ↔
      ∀ k ∈ others, gain k = 0 := by
  constructor
  · intro h k hk
    have hone := h [k] (List.nodup_singleton k) (List.cons_subset.2 ⟨hk, List.nil_subset others⟩)
    rwa [List.map_singleton, List.sum_singleton] at hone
  · intro h before _ hsub
    refine List.sum_eq_zero fun x hx => ?_
    obtain ⟨k, hk, rfl⟩ := List.mem_map.1 hx
    exact h k (hsub hk)

/-- **A bound is met whoever of some others came before exactly when it is met after all who take
something away.** -/
theorem forall_le_sum_iff {others : List ι} (hnodup : others.Nodup) (gain : ι → ℤ) (bound : ℤ) :
    (∀ before : List ι, before.Nodup → before ⊆ others → bound ≤ (before.map gain).sum) ↔
      bound ≤ (others.map fun k => min 0 (gain k)).sum := by
  constructor
  · intro h
    have hlosses : (others.map fun k => min 0 (gain k)).sum =
        ((others.filter fun k => gain k < 0).map gain).sum := by
      clear hnodup h
      induction others with
      | nil => rfl
      | cons k others ih =>
          rw [List.map_cons, List.sum_cons, ih]
          by_cases hk : gain k < 0
          · rw [List.filter_cons_of_pos (by simpa using hk), List.map_cons, List.sum_cons,
              min_eq_right (by omega)]
          · rw [List.filter_cons_of_neg (by simpa using hk), min_eq_left (by omega), zero_add]
    rw [hlosses]
    exact h _ (hnodup.filter _) (List.filter_subset_self others)
  · intro h before hbefore hsub
    obtain ⟨l, hl, hsublist⟩ := List.subperm_of_subset hbefore hsub
    obtain ⟨rest, hrest⟩ := hsublist.exists_perm_append
    have hsplit := ((hrest.trans (hl.append_right rest)).map fun k => min 0 (gain k)).sum_eq
    rw [List.map_append, List.sum_append] at hsplit
    have hlow : (before.map fun k => min 0 (gain k)).sum ≤ (before.map gain).sum :=
      List.sum_le_sum fun k _ => min_le_right 0 (gain k)
    have hrest' : (rest.map fun k => min 0 (gain k)).sum ≤ 0 := by
      have hbound := List.sum_le_sum (l := rest) (f := fun k => min 0 (gain k)) (g := fun _ => 0)
        fun k _ => min_le_left 0 (gain k)
      simpa using hbound
    omega

end Rounds
