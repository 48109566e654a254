/-
**Potentials that measure distance.**

A potential gives every vertex of a graph an estimate of the way to a goal.  If it is zero at the
goal, no step lowers it by more than one, and from every other vertex some step lowers it by one,
then it is the length of a shortest path to the goal.

Main definitions:

* `Potential.Metric` — the laws of a distance;
* `Potential.Measures` — a potential that every step lowers by one at most, and some step by one.

Main results:

* `Potential.Measures.le_length` — no path to the goal is shorter than the potential;
* `Potential.Measures.exists_leads` — following steps that lower the potential leads to the goal;
* `Potential.Measures.isLeast` — **the potential is the length of a shortest path**.
-/

import My4X.Lib.Flood
import Mathlib.Order.Bounds.Defs

set_option relaxedAutoImplicit false
set_option autoImplicit false

universe u

namespace Potential

open Flood (Leads)

variable {V : Type u}

/-- **The laws of a distance**, with integers for lengths. -/
structure Metric (dist : V → V → ℤ) : Prop where
  nonneg : ∀ v w, 0 ≤ dist v w
  eq_zero_iff : ∀ v w, dist v w = 0 ↔ v = w
  comm : ∀ v w, dist v w = dist w v
  triangle : ∀ u v w, dist u w ≤ dist u v + dist v w

/-- What agrees with a distance on some vertices is a distance on them. -/
theorem Metric.subtype {dist dist' : V → V → ℤ} (h : Metric dist) {P : V → Prop}
    (hsame : ∀ v w, P v → P w → dist' v w = dist v w) :
    Metric fun v w : {v : V // P v} => dist' v.1 w.1 where
  nonneg v w := by
    rw [hsame _ _ v.2 w.2]
    exact h.nonneg v.1 w.1
  eq_zero_iff v w := by
    rw [hsame _ _ v.2 w.2, h.eq_zero_iff]
    exact Subtype.ext_iff.symm
  comm v w := by
    rw [hsame _ _ v.2 w.2, hsame _ _ w.2 v.2]
    exact h.comm v.1 w.1
  triangle u v w := by
    rw [hsame _ _ u.2 w.2, hsame _ _ u.2 v.2, hsame _ _ v.2 w.2]
    exact h.triangle u.1 v.1 w.1

/-- **The potential measures the way to a goal**: it is zero there, no step lowers it by more than
one, and from every other vertex inside some step lowers it by one and stays inside. -/
structure Measures (Step : V → V → Prop) (Inside : V → Prop) (goal : V) (potential : V → ℤ) :
    Prop where
  nonneg : ∀ v, 0 ≤ potential v
  goal_eq_zero : potential goal = 0
  le_succ : ∀ v n, Step v n → potential v ≤ potential n + 1
  exists_step : ∀ v, Inside v → v ≠ goal → ∃ n, Step v n ∧ Inside n ∧ potential n + 1 = potential v

variable {Step : V → V → Prop} {Inside : V → Prop} {goal : V} {potential : V → ℤ}

/-- **No path to the goal is shorter than the potential.** -/
theorem Measures.le_length (h : Measures Step Inside goal potential) {path : List V} :
    ∀ {v : V}, Leads Step v path goal → potential v ≤ path.length := by
  induction path with
  | nil =>
      intro v hpath
      obtain rfl : v = goal := hpath
      exact h.goal_eq_zero.le
  | cons n path ih =>
      intro v hpath
      have hstep := h.le_succ v n hpath.1
      have hrest := ih hpath.2
      rw [List.length_cons]
      omega

/-- **Following steps that lower the potential leads to the goal.** -/
theorem Measures.exists_leads (h : Measures Step Inside goal potential) {v : V} (hv : Inside v) :
    ∃ path, Leads Step v path goal ∧ (path.length : ℤ) = potential v := by
  -- by induction on the potential
  obtain ⟨k, hk⟩ := Int.eq_ofNat_of_zero_le (h.nonneg v)
  induction k generalizing v with
  | zero =>
      by_cases hgoal : v = goal
      · exact ⟨[], hgoal, hk.symm⟩
      · obtain ⟨n, -, -, hless⟩ := h.exists_step v hv hgoal
        have hnonneg := h.nonneg n
        omega
  | succ k ih =>
      have hgoal : v ≠ goal := by
        rintro rfl
        have hzero := h.goal_eq_zero
        omega
      obtain ⟨n, hstep, hn, hless⟩ := h.exists_step v hv hgoal
      obtain ⟨path, hpath, hlength⟩ := ih hn (by omega)
      refine ⟨n :: path, ⟨hstep, hpath⟩, ?_⟩
      rw [List.length_cons]
      omega

/-- **The potential is the length of a shortest path.** -/
theorem Measures.isLeast (h : Measures Step Inside goal potential) {v : V} (hv : Inside v) :
    IsLeast {k : ℤ | ∃ path, Leads Step v path goal ∧ (path.length : ℤ) = k} (potential v) := by
  refine ⟨h.exists_leads hv, ?_⟩
  rintro k ⟨path, hpath, rfl⟩
  exact h.le_length hpath

end Potential
