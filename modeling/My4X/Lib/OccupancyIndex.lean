/-
**Occupancy indices: which entries stand at a place.**

An occupancy index is a secondary index over a list of entries, each of which has a reference and
a place: for every place it stores the list of the references registered there.  The index and
the entries are updated separately, so that a program that keeps both has to keep them in step.
This module states what being in step means and proves that the three ways of updating both —
adding an entry, removing one and moving one — keep it.

Main definitions:

* `OccupancyIndex`, `OccupancyIndex.refsAt`, `OccupancyIndex.register`, `OccupancyIndex.unregister`
  — the index, the list stored at a place, and the two updates;
* `OccupancyIndex.Tracks` — the index lists each entry exactly once, at its place, and nothing
  else, and stores no empty list.

Main results:

* `OccupancyIndex.Tracks.register_append`, `OccupancyIndex.Tracks.unregister_eraseIdx`,
  `OccupancyIndex.Tracks.move_set` — **the three updates keep the index in step**;
* `OccupancyIndex.Tracks.refsAt_perm` — two indices of the same entries list the same references at
  every place, up to order;
* `OccupancyIndex.unregisterAll_perm` — the order in which entries are unregistered does not matter;
* `OccupancyIndex.move_comm` — nor the order in which two entries move, between different places.
-/

import Mathlib.Data.List.Basic
import Mathlib.Data.List.Nodup
import Mathlib.Data.List.Perm.Basic

set_option relaxedAutoImplicit false
set_option autoImplicit false

universe u v

/-- For every place the list of the references registered there, if one is stored. -/
structure OccupancyIndex (κ : Type u) (ρ : Type v) where
  lists : κ → Option (List ρ)

namespace OccupancyIndex

variable {κ : Type u} {ρ : Type v}

/-- The index that stores nothing. -/
def empty : OccupancyIndex κ ρ := ⟨fun _ => none⟩

/-- The references registered at a place. -/
def refsAt (idx : OccupancyIndex κ ρ) (k : κ) : List ρ := (idx.lists k).getD []

@[simp] theorem refsAt_empty (k : κ) : (empty : OccupancyIndex κ ρ).refsAt k = [] := rfl

/-! ### The index and the entries -/

/-- **The index tracks the entries**: at every place it lists the references of the entries of
that place, each once and nothing else, and it stores no empty list. -/
structure Tracks (idx : OccupancyIndex κ ρ) (es : List (ρ × κ)) : Prop where
  mem_refsAt : ∀ k r, r ∈ idx.refsAt k ↔ (r, k) ∈ es
  nodup_refsAt : ∀ k, (idx.refsAt k).Nodup
  ne_nil : ∀ k, idx.lists k ≠ some []

theorem tracks_empty : Tracks (empty : OccupancyIndex κ ρ) [] where
  mem_refsAt := by simp
  nodup_refsAt := by simp
  ne_nil := by simp [empty]

/-- Only the entries matter, not their order. -/
theorem Tracks.congr {idx : OccupancyIndex κ ρ} {es es' : List (ρ × κ)} (h : Tracks idx es)
    (hmem : ∀ e, e ∈ es ↔ e ∈ es') : Tracks idx es' where
  mem_refsAt := fun k r => (h.mem_refsAt k r).trans (hmem (r, k))
  nodup_refsAt := h.nodup_refsAt
  ne_nil := h.ne_nil

/-- Two indices of the same entries list the same references at every place, up to order. -/
theorem Tracks.refsAt_perm {idx idx' : OccupancyIndex κ ρ} {es : List (ρ × κ)} (h : Tracks idx es)
    (h' : Tracks idx' es) (k : κ) : (idx.refsAt k).Perm (idx'.refsAt k) :=
  (List.perm_ext_iff_of_nodup (h.nodup_refsAt k) (h'.nodup_refsAt k)).2
    fun r => (h.mem_refsAt k r).trans (h'.mem_refsAt k r).symm

/-- With distinct references, an entry is determined by its reference. -/
theorem eq_of_fst_eq {es : List (ρ × κ)} (hnd : (es.map Prod.fst).Nodup) {i j : ℕ} {r : ρ}
    {k k' : κ} (hi : es[i]? = some (r, k)) (hj : es[j]? = some (r, k')) : i = j := by
  have hi' : (es.map Prod.fst)[i]? = some r := by rw [List.getElem?_map, hi]; rfl
  have hj' : (es.map Prod.fst)[j]? = some r := by rw [List.getElem?_map, hj]; rfl
  have hlt : i < (es.map Prod.fst).length := (List.getElem?_eq_some_iff.1 hi').1
  exact (List.getElem?_inj hlt hnd).1 (hi'.trans hj'.symm)

/-- What remains after removing one of several entries with distinct references. -/
theorem mem_eraseIdx_iff {es : List (ρ × κ)} (hnd : (es.map Prod.fst).Nodup) {i : ℕ} {r : ρ}
    {k : κ} (hi : es[i]? = some (r, k)) (e : ρ × κ) : e ∈ es.eraseIdx i ↔ e ∈ es ∧ e.1 ≠ r := by
  obtain ⟨r', k'⟩ := e
  rw [List.mem_eraseIdx_iff_getElem?]
  constructor
  · rintro ⟨j, hne, hj⟩
    refine ⟨List.mem_of_getElem? hj, ?_⟩
    rintro rfl
    exact hne (eq_of_fst_eq hnd hj hi)
  · rintro ⟨hmem, hne⟩
    obtain ⟨j, hj⟩ := List.mem_iff_getElem?.1 hmem
    refine ⟨j, ?_, hj⟩
    rintro rfl
    rw [hi] at hj
    exact hne (Prod.mk.inj (Option.some_inj.1 hj)).1.symm

/-! ### Registering -/

variable [DecidableEq κ]

/-- Registering a reference at a place appends it to the list stored there. -/
def register (idx : OccupancyIndex κ ρ) (k : κ) (r : ρ) : OccupancyIndex κ ρ :=
  ⟨fun k' => if k' = k then some (idx.refsAt k ++ [r]) else idx.lists k'⟩

theorem refsAt_register (idx : OccupancyIndex κ ρ) (k k' : κ) (r : ρ) :
    (idx.register k r).refsAt k' = if k' = k then idx.refsAt k ++ [r] else idx.refsAt k' := by
  simp only [refsAt, register]
  split <;> rfl

theorem register_ne_nil {idx : OccupancyIndex κ ρ} (h : ∀ k, idx.lists k ≠ some []) (k : κ)
    (r : ρ) (k' : κ) : (idx.register k r).lists k' ≠ some [] := by
  simp only [register]
  split
  · simp
  · exact h k'

/-- Adding an entry with a new reference. -/
theorem Tracks.register_append {idx : OccupancyIndex κ ρ} {es : List (ρ × κ)} (h : Tracks idx es)
    {k : κ} {r : ρ} (hr : r ∉ es.map Prod.fst) : Tracks (idx.register k r) (es ++ [(r, k)]) where
  mem_refsAt := by
    intro k' r'
    rw [refsAt_register, List.mem_append, List.mem_singleton, Prod.mk.injEq]
    split
    · next hk => rw [List.mem_append, List.mem_singleton, h.mem_refsAt]; simp [hk]
    · next hk => rw [h.mem_refsAt]; simp [hk]
  nodup_refsAt := by
    intro k'
    rw [refsAt_register]
    split
    · refine List.nodup_append.2 ⟨h.nodup_refsAt k, List.nodup_singleton r, ?_⟩
      intro a ha b hb
      obtain rfl := List.mem_singleton.1 hb
      rintro rfl
      exact hr (List.mem_map.2 ⟨_, (h.mem_refsAt k a).1 ha, rfl⟩)
    · exact h.nodup_refsAt k'
  ne_nil := register_ne_nil h.ne_nil k r

/-! ### Unregistering and moving -/

variable [DecidableEq ρ]

/-- Unregistering a reference drops it from the list stored at the place; a list that becomes
empty is not kept. -/
def unregister (idx : OccupancyIndex κ ρ) (k : κ) (r : ρ) : OccupancyIndex κ ρ :=
  match idx.lists k with
  | none => idx
  | some l =>
      let l' := l.filter (· ≠ r)
      ⟨fun k' => if k' = k then (if l'.isEmpty then none else some l') else idx.lists k'⟩

theorem refsAt_unregister (idx : OccupancyIndex κ ρ) (k k' : κ) (r : ρ) :
    (idx.unregister k r).refsAt k' = if k' = k then (idx.refsAt k).filter (· ≠ r)
    else idx.refsAt k' := by
  have hat : idx.refsAt k = (idx.lists k).getD [] := rfl
  rw [unregister, hat]
  cases hl : idx.lists k with
  | none =>
      simp only [Option.getD_none, List.filter_nil]
      split
      · next hk => rw [hk, hat, hl, Option.getD_none]
      · rfl
  | some l =>
      simp only [refsAt, Option.getD_some]
      split
      · cases l.filter (· ≠ r) with
        | nil => rfl
        | cons a m => rfl
      · rfl

/-- Unregistering an item changes nothing about another one. -/
theorem mem_refsAt_unregister_of_ne (idx : OccupancyIndex κ ρ) (k k' : κ) {r r' : ρ} (h : r' ≠ r) :
    r' ∈ (idx.unregister k r).refsAt k' ↔ r' ∈ idx.refsAt k' := by
  rw [refsAt_unregister]
  split
  · next hk => rw [hk, List.mem_filter, and_iff_left (decide_eq_true h)]
  · rfl

theorem unregister_ne_nil {idx : OccupancyIndex κ ρ} (h : ∀ k, idx.lists k ≠ some []) (k : κ)
    (r : ρ) (k' : κ) : (idx.unregister k r).lists k' ≠ some [] := by
  rw [unregister]
  cases hl : idx.lists k with
  | none => exact h k'
  | some l =>
      simp only
      split
      · split
        · simp
        · next hne => simpa [List.isEmpty_iff] using hne
      · exact h k'

/-- Removing an entry. -/
theorem Tracks.unregister_eraseIdx {idx : OccupancyIndex κ ρ} {es : List (ρ × κ)}
    (h : Tracks idx es) (hnd : (es.map Prod.fst).Nodup) {i : ℕ} {r : ρ} {k : κ}
    (hi : es[i]? = some (r, k)) : Tracks (idx.unregister k r) (es.eraseIdx i) where
  mem_refsAt := by
    intro k' r'
    rw [refsAt_unregister, mem_eraseIdx_iff hnd hi]
    split
    · next hk => rw [hk, List.mem_filter, h.mem_refsAt]; simp
    · next hk =>
        rw [h.mem_refsAt]
        refine ⟨fun hmem => ⟨hmem, ?_⟩, And.left⟩
        rintro rfl
        obtain ⟨j, hj⟩ := List.mem_iff_getElem?.1 hmem
        obtain rfl := eq_of_fst_eq hnd hi hj
        rw [hi] at hj
        exact hk (Prod.mk.inj (Option.some_inj.1 hj)).2.symm
  nodup_refsAt := by
    intro k'
    rw [refsAt_unregister]
    split
    · exact (h.nodup_refsAt k).filter _
    · exact h.nodup_refsAt k'
  ne_nil := unregister_ne_nil h.ne_nil k r

/-- Moving an entry to another place, by removing it and registering it again. -/
theorem Tracks.move_set {idx : OccupancyIndex κ ρ} {es : List (ρ × κ)} (h : Tracks idx es)
    (hnd : (es.map Prod.fst).Nodup) {i : ℕ} {r : ρ} {k : κ} (hi : es[i]? = some (r, k)) (k' : κ) :
    Tracks ((idx.unregister k r).register k' r) (es.set i (r, k')) := by
  have hlt : i < es.length := (List.getElem?_eq_some_iff.1 hi).1
  have hout : r ∉ (es.eraseIdx i).map Prod.fst := by
    rintro hmem
    obtain ⟨e, he, rfl⟩ := List.mem_map.1 hmem
    exact ((mem_eraseIdx_iff hnd hi e).1 he).2 rfl
  refine ((h.unregister_eraseIdx hnd hi).register_append hout).congr fun e => ?_
  rw [List.mem_append, List.mem_singleton, List.mem_eraseIdx_iff_getElem?, List.mem_iff_getElem?]
  constructor
  · rintro (⟨j, hne, hj⟩ | rfl)
    · exact ⟨j, by rw [List.getElem?_set_ne (Ne.symm hne)]; exact hj⟩
    · exact ⟨i, by rw [List.getElem?_set_self hlt]⟩
  · rintro ⟨j, hj⟩
    by_cases hji : j = i
    · subst hji
      rw [List.getElem?_set_self hlt] at hj
      exact Or.inr (Option.some_inj.1 hj).symm
    · rw [List.getElem?_set_ne (Ne.symm hji)] at hj
      exact Or.inl ⟨j, hji, hj⟩

/-! ### Unregistering several entries -/

/-- A stored list without a reference. -/
def without (r : ρ) : Option (List ρ) → Option (List ρ)
  | none => none
  | some l => if (l.filter (· ≠ r)).isEmpty then none else some (l.filter (· ≠ r))

theorem lists_unregister (idx : OccupancyIndex κ ρ) (k k' : κ) (r : ρ) :
    (idx.unregister k r).lists k' =
      if k' = k then without r (idx.lists k') else idx.lists k' := by
  rw [unregister]
  cases hl : idx.lists k with
  | none =>
      dsimp only
      split
      · next hk => rw [hk, hl]; rfl
      · rfl
  | some l =>
      dsimp only
      split
      · next hk => rw [hk, hl]; rfl
      · rfl

theorem without_comm (r r' : ρ) (o : Option (List ρ)) :
    without r (without r' o) = without r' (without r o) := by
  have htwice : ∀ (a b : ρ) (l : List ρ), without a (without b (some l)) =
      if ((l.filter (· ≠ a)).filter (· ≠ b)).isEmpty then none
      else some ((l.filter (· ≠ a)).filter (· ≠ b)) := by
    intro a b l
    rw [without]
    split
    · next hempty =>
        rw [List.isEmpty_iff] at hempty
        rw [List.filter_comm, hempty]
        rfl
    · rw [without, List.filter_comm]
  cases o with
  | none => rfl
  | some l =>
      rw [htwice, htwice]
      rw [List.filter_comm]

omit [DecidableEq κ] [DecidableEq ρ] in
theorem eq_of_lists {idx idx' : OccupancyIndex κ ρ} (h : ∀ k, idx.lists k = idx'.lists k) :
    idx = idx' := by
  obtain ⟨lists⟩ := idx
  obtain ⟨lists'⟩ := idx'
  obtain rfl : lists = lists' := funext h
  rfl

/-- It does not matter in which order two references are unregistered. -/
theorem unregister_comm (idx : OccupancyIndex κ ρ) (k k' : κ) (r r' : ρ) :
    (idx.unregister k r).unregister k' r' = (idx.unregister k' r').unregister k r := by
  refine eq_of_lists fun k'' => ?_
  rw [lists_unregister, lists_unregister, lists_unregister, lists_unregister]
  by_cases hk : k'' = k
  · by_cases hk' : k'' = k'
    · rw [if_pos hk, if_pos hk', if_pos hk', if_pos hk, without_comm]
    · rw [if_pos hk, if_neg hk', if_neg hk', if_pos hk]
  · rw [if_neg hk, if_neg hk]

omit [DecidableEq ρ] in
theorem lists_register (idx : OccupancyIndex κ ρ) (k k' : κ) (r : ρ) :
    (idx.register k r).lists k' = if k' = k then some (idx.refsAt k ++ [r]) else idx.lists k' := rfl

omit [DecidableEq ρ] in
/-- Nor in which order two references are registered, at different places. -/
theorem register_comm (idx : OccupancyIndex κ ρ) {k k' : κ} (hk : k ≠ k') (r r' : ρ) :
    (idx.register k r).register k' r' = (idx.register k' r').register k r := by
  refine eq_of_lists fun k'' => ?_
  rw [lists_register, lists_register, lists_register, lists_register, refsAt_register,
    refsAt_register, if_neg hk, if_neg (Ne.symm hk)]
  by_cases h : k'' = k
  · rw [if_pos h, if_pos h, if_neg fun h' => hk (h.symm.trans h')]
  · rw [if_neg h, if_neg h]

/-- Nor whether one is registered or another one unregistered first, at different places. -/
theorem unregister_register_comm (idx : OccupancyIndex κ ρ) {k k' : κ} (hk : k ≠ k') (r r' : ρ) :
    (idx.register k r).unregister k' r' = (idx.unregister k' r').register k r := by
  refine eq_of_lists fun k'' => ?_
  rw [lists_unregister, lists_register, lists_register, lists_unregister, refsAt_unregister,
    if_neg hk]
  by_cases h : k'' = k
  · rw [if_pos h, if_pos h, if_neg fun h' => hk (h.symm.trans h')]
  · rw [if_neg h, if_neg h]

/-- **Nor in which order two references move**, between different places. -/
theorem move_comm (idx : OccupancyIndex κ ρ) {k₁ k₁' k₂ k₂' : κ} (hout : k₁ ≠ k₂')
    (hin : k₁' ≠ k₂) (hto : k₁' ≠ k₂') (r₁ r₂ : ρ) :
    (((idx.unregister k₁ r₁).register k₁' r₁).unregister k₂ r₂).register k₂' r₂ =
      (((idx.unregister k₂ r₂).register k₂' r₂).unregister k₁ r₁).register k₁' r₁ := by
  rw [unregister_register_comm _ hin, register_comm _ hto, unregister_comm,
    unregister_register_comm _ (Ne.symm hout)]

/-- Unregistering entries one after the other. -/
def unregisterAll (idx : OccupancyIndex κ ρ) (es : List (ρ × κ)) : OccupancyIndex κ ρ :=
  es.foldl (fun idx e => idx.unregister e.2 e.1) idx

theorem unregisterAll_append (idx : OccupancyIndex κ ρ) (es es' : List (ρ × κ)) :
    idx.unregisterAll (es ++ es') = (idx.unregisterAll es).unregisterAll es' := List.foldl_append

/-- **It does not matter in which order entries are unregistered.** -/
theorem unregisterAll_perm (idx : OccupancyIndex κ ρ) {es es' : List (ρ × κ)} (h : es.Perm es') :
    idx.unregisterAll es = idx.unregisterAll es' :=
  h.foldl_eq' (fun _ _ _ _ idx => unregister_comm idx _ _ _ _) idx

/-- Unregistering entries changes nothing about another item. -/
theorem mem_refsAt_unregisterAll {es : List (ρ × κ)} {r : ρ} (hr : r ∉ es.map Prod.fst) (k : κ) :
    ∀ idx : OccupancyIndex κ ρ, r ∈ (idx.unregisterAll es).refsAt k ↔ r ∈ idx.refsAt k := by
  induction es with
  | nil => intro idx; exact Iff.rfl
  | cons e es ih =>
      intro idx
      rw [List.map_cons, List.mem_cons, not_or] at hr
      exact (ih hr.2 _).trans (mem_refsAt_unregister_of_ne idx e.2 k hr.1)

end OccupancyIndex
