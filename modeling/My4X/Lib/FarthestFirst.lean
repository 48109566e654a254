/-
**Farthest-first traversals.**

Points are picked from a list of candidates one after the other, each as far as possible from those
picked before, the first candidate of them where several are equally far.  All picked points are
then as far from each other as the last one is from those before it, and every candidate is that
close to one of those before it.  By the pigeonhole principle no choice of as many candidates keeps
them more than twice as far apart.

Main definitions:

* `FarthestFirst.gap` — how far a point is from a list of points, up to a bound;
* `FarthestFirst.farthest?` — the first candidate that is farthest from the points picked;
* `FarthestFirst.Traversal` — the points picked from a starting point on.

Main results:

* `FarthestFirst.Traversal.unique` — a traversal is determined by its length;
* `FarthestFirst.pairwise_next_iff` — **the points picked are a distance apart exactly when some
  candidate is that far from all but the last one**;
* `FarthestFirst.half_optimal` — **they are at least half as far apart as any choice of that many
  candidates**.
-/

import Mathlib.Algebra.Order.Monoid.Defs
import Mathlib.Data.Fintype.Pigeonhole
import Mathlib.Data.List.MinMax

set_option relaxedAutoImplicit false
set_option autoImplicit false

universe u v

namespace FarthestFirst

variable {α : Type u} {δ : Type v} [LinearOrder δ]

/-! ### The distance from a list of points -/

/-- The distance of a point from the nearest of some points, up to a bound. -/
def gap (dist : α → α → δ) (bound : δ) (picked : List α) (b : α) : δ :=
  picked.foldl (fun nearest p => min nearest (dist b p)) bound

variable {dist : α → α → δ} {bound r : δ} {picked : List α} {a b : α}

/-- A point keeps a distance from all the points. -/
theorem le_gap_iff : r ≤ gap dist bound picked b ↔ r ≤ bound ∧ ∀ p ∈ picked, r ≤ dist b p := by
  induction picked generalizing bound with
  | nil => simp [gap]
  | cons p picked ih =>
      rw [gap, List.foldl_cons, ← gap, ih, le_min_iff, List.forall_mem_cons, and_assoc]

/-- A point is within a distance of one of the points. -/
theorem gap_le_iff : gap dist bound picked b ≤ r ↔ bound ≤ r ∨ ∃ p ∈ picked, dist b p ≤ r := by
  induction picked generalizing bound with
  | nil => simp [gap]
  | cons p picked ih =>
      rw [gap, List.foldl_cons, ← gap, ih, min_le_iff, List.exists_mem_cons_iff, or_assoc]

/-! ### Traversals -/

/-- The first candidate that is farthest from the points picked. -/
def farthest? (dist : α → α → δ) (bound : δ) (candidates picked : List α) : Option α :=
  candidates.argmax (gap dist bound picked)

/-- **A scan finds it**: a later candidate replaces the best one so far only if it is farther. -/
theorem farthest?_concat (dist : α → α → δ) (bound : δ) (candidates picked : List α) (b : α) :
    farthest? dist bound (candidates ++ [b]) picked =
      match farthest? dist bound candidates picked with
      | none => some b
      | some best =>
          if gap dist bound picked best < gap dist bound picked b then some b else some best := by
  rw [farthest?, farthest?, List.argmax_concat]
  cases candidates.argmax (gap dist bound picked) with
  | none => rfl
  | some best => rfl

theorem farthest?_eq_none {dist : α → α → δ} {bound : δ} {candidates picked : List α} :
    farthest? dist bound candidates picked = none ↔ candidates = [] :=
  List.argmax_eq_none

/-- The points picked from a starting point on: each next one is the first candidate that is
farthest from those before it. -/
inductive Traversal (dist : α → α → δ) (bound : δ) (candidates : List α) (start : α) :
    List α → Prop
  | start : Traversal dist bound candidates start [start]
  | next {picked : List α} {a : α} (before : Traversal dist bound candidates start picked)
      (hnext : farthest? dist bound candidates picked = some a) :
      Traversal dist bound candidates start (picked ++ [a])

variable {candidates : List α} {start : α}

theorem Traversal.length_pos (h : Traversal dist bound candidates start picked) :
    0 < picked.length := by
  cases h with
  | start => exact Nat.one_pos
  | next before hnext => rw [List.length_append]; exact Nat.succ_pos _

/-- All points are candidates. -/
theorem Traversal.subset (h : Traversal dist bound candidates start picked)
    (hstart : start ∈ candidates) : picked ⊆ candidates := by
  induction h with
  | start => exact List.cons_subset.2 ⟨hstart, List.nil_subset _⟩
  | next before hnext ih =>
      exact List.append_subset.2
        ⟨ih, List.cons_subset.2 ⟨List.argmax_mem hnext, List.nil_subset _⟩⟩

/-- **A traversal is determined by its length.** -/
theorem Traversal.unique (h : Traversal dist bound candidates start picked) :
    ∀ {picked' : List α}, Traversal dist bound candidates start picked' →
      picked'.length = picked.length → picked' = picked := by
  induction h with
  | start =>
      intro picked' h' hlength
      cases h' with
      | start => rfl
      | next before' hnext' =>
          have hpos := before'.length_pos
          rw [List.length_append, List.length_singleton, List.length_singleton] at hlength
          omega
  | next before hnext ih =>
      intro picked' h' hlength
      cases h' with
      | start =>
          have hpos := before.length_pos
          rw [List.length_append, List.length_singleton, List.length_singleton] at hlength
          omega
      | next before' hnext' =>
          rw [List.length_append, List.length_append, List.length_singleton,
            List.length_singleton, Nat.add_right_cancel_iff] at hlength
          obtain rfl := ih before' hlength
          rw [Option.some_inj.1 (hnext'.symm.trans hnext)]

/-! ### How far apart the points are -/

/-- The next point keeps whatever distance some candidate keeps. -/
theorem keeps_of_farthest (hnext : farthest? dist bound candidates picked = some a)
    (hb : b ∈ candidates) (hr : r ≤ bound) (hkeep : ∀ p ∈ picked, r ≤ dist b p) :
    ∀ p ∈ picked, r ≤ dist a p := by
  have hfar : gap dist bound picked b ≤ gap dist bound picked a := List.le_of_mem_argmax hb hnext
  exact (le_gap_iff.1 ((le_gap_iff.2 ⟨hr, hkeep⟩).trans hfar)).2

/-- The points picked before are as far apart as a candidate is from all of them. -/
theorem Traversal.pairwise (h : Traversal dist bound candidates start picked)
    (hb : b ∈ candidates) (hr : r ≤ bound) (hkeep : ∀ p ∈ picked, r ≤ dist b p) :
    picked.Pairwise fun p q => r ≤ dist q p := by
  induction h with
  | start => exact List.pairwise_singleton _ _
  | next before hnext ih =>
      have hbefore : ∀ p ∈ _, r ≤ dist b p := fun p hp => hkeep p (List.mem_append_left _ hp)
      refine List.pairwise_append.2 ⟨ih hbefore, List.pairwise_singleton _ _, ?_⟩
      intro p hp q hq
      obtain rfl := List.mem_singleton.1 hq
      exact keeps_of_farthest hnext hb hr hbefore p hp

/-- **The points are a distance apart exactly when some candidate is that far from all but the last
one.** -/
theorem pairwise_next_iff (h : Traversal dist bound candidates start picked)
    (hnext : farthest? dist bound candidates picked = some a) (hr : r ≤ bound) :
    (picked ++ [a]).Pairwise (fun p q => r ≤ dist q p) ↔
      ∃ b ∈ candidates, ∀ p ∈ picked, r ≤ dist b p := by
  rw [List.pairwise_append]
  constructor
  · rintro ⟨-, -, hlast⟩
    exact ⟨a, List.argmax_mem hnext, fun p hp => hlast p hp a (List.mem_singleton_self a)⟩
  · rintro ⟨b, hb, hkeep⟩
    refine ⟨h.pairwise hb hr hkeep, List.pairwise_singleton _ _, fun p hp q hq => ?_⟩
    obtain rfl := List.mem_singleton.1 hq
    exact keeps_of_farthest hnext hb hr hkeep p hp

/-! ### Half as far apart as can be -/

/-- More points than there are places, each within a distance of some place: two of them are within
that distance of the same one. -/
theorem exists_common {places points : List α} (hlength : places.length < points.length)
    (hnear : ∀ b ∈ points, ∃ p ∈ places, dist b p ≤ r) :
    ∃ i j : Fin points.length, i < j ∧
      ∃ p, dist (points.get i) p ≤ r ∧ dist (points.get j) p ≤ r := by
  have hplace : ∀ i : Fin points.length, ∃ k : Fin places.length,
      dist (points.get i) (places.get k) ≤ r := by
    intro i
    obtain ⟨p, hp, hdist⟩ := hnear _ (List.get_mem points i)
    obtain ⟨k, rfl⟩ := List.mem_iff_get.1 hp
    exact ⟨k, hdist⟩
  choose place hdist using hplace
  obtain ⟨i, j, hij, hsame⟩ := Fintype.exists_ne_map_eq_of_card_lt place (by
    rw [Fintype.card_fin, Fintype.card_fin]
    exact hlength)
  rcases lt_or_gt_of_ne hij with hlt | hlt
  · exact ⟨i, j, hlt, places.get (place i), hdist i, hsame ▸ hdist j⟩
  · exact ⟨j, i, hlt, places.get (place i), hsame ▸ hdist j, hdist i⟩

/-- **No choice of more candidates than were picked before is more than twice as far apart as the
points are with the next one.** -/
theorem half_optimal [AddCommMonoid δ] [IsOrderedAddMonoid δ] (hsymm : ∀ a b, dist a b = dist b a)
    (htriangle : ∀ a b c, dist a c ≤ dist a b + dist b c)
    (hbound : ∀ a ∈ candidates, ∀ b ∈ candidates, dist a b ≤ bound)
    (hstart : start ∈ candidates) (h : Traversal dist bound candidates start picked)
    (hnext : farthest? dist bound candidates picked = some a) {others : List α}
    (hothers : others ⊆ candidates) (hlength : picked.length < others.length) {d : δ}
    (hd : others.Pairwise fun p q => d ≤ dist p q) :
    (picked ++ [a]).Pairwise fun p q => d ≤ dist q p + dist q p := by
  have ha : a ∈ candidates := List.argmax_mem hnext
  -- how far the last point is from those before it
  obtain ⟨r, hr⟩ : ∃ r, r = gap dist bound picked a := ⟨_, rfl⟩
  obtain ⟨hr_le, hkeep⟩ := le_gap_iff.1 hr.le
  have hnear : ∀ b ∈ others, ∃ p ∈ picked, dist b p ≤ r := by
    intro b hb
    have hfar : gap dist bound picked b ≤ gap dist bound picked a :=
      List.le_of_mem_argmax (hothers hb) hnext
    rw [← hr] at hfar
    rcases gap_le_iff.1 hfar with hle | hex
    · obtain ⟨p, hp⟩ := List.exists_mem_of_length_pos h.length_pos
      exact ⟨p, hp, (hbound b (hothers hb) p (h.subset hstart hp)).trans hle⟩
    · exact hex
  have hd_le : d ≤ r + r := by
    obtain ⟨i, j, hij, p, hi, hj⟩ := exists_common hlength hnear
    calc d ≤ dist (others.get i) (others.get j) := List.pairwise_iff_get.1 hd i j hij
      _ ≤ dist (others.get i) p + dist p (others.get j) := htriangle _ _ _
      _ ≤ r + r := add_le_add hi ((hsymm _ _).le.trans hj)
  have hpairwise := (pairwise_next_iff h hnext hr_le).2 ⟨a, ha, hkeep⟩
  exact hpairwise.imp fun hpq => hd_le.trans (add_le_add hpq hpq)

end FarthestFirst
