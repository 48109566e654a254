/-
**Owner indices: which entity a place belongs to.**

An owner index is a secondary index over a list of entities, each of which has an identifier and
a footprint of places: for every place it stores the identifier of the entity whose footprint
contains the place.  A program that keeps such an index claims places when an entity is added and
releases them when it is removed; how many of the places of the footprint it claims and releases
is its own affair.  This module shows that with disjoint footprints the index stays correct
exactly when every place is claimed and released.

Main definitions:

* `OwnerIndex`, `OwnerIndex.claimAll`, `OwnerIndex.releaseAll` — the index and its updates;
* `OwnerIndex.Covers` — the index answers for exactly the footprints of the entities.

Main results:

* `OwnerIndex.Covers.claimAll_append_iff` — **adding an entity keeps the index correct exactly if
  its whole footprint is claimed**;
* `OwnerIndex.Covers.releaseAll_append_iff` — **removing an entity keeps the index correct exactly
  if its whole footprint is released**.
-/

import Mathlib.Data.List.Basic

set_option relaxedAutoImplicit false
set_option autoImplicit false

universe u v

/-- For every place the identifier of its owner, if it has one. -/
structure OwnerIndex (κ : Type u) (ι : Type v) where
  owner : κ → Option ι

namespace OwnerIndex

variable {κ : Type u} {ι : Type v}

/-- The index in which no place has an owner. -/
def empty : OwnerIndex κ ι := ⟨fun _ => none⟩

@[simp] theorem owner_empty (k : κ) : (empty : OwnerIndex κ ι).owner k = none := rfl

/-- **The index covers the entities**: a place is owned by an identifier exactly if an entity with
this identifier has the place in its footprint. -/
def Covers (idx : OwnerIndex κ ι) (es : List (ι × List κ)) : Prop :=
  ∀ k i, idx.owner k = some i ↔ ∃ e ∈ es, e.1 = i ∧ k ∈ e.2

theorem covers_empty : Covers (empty : OwnerIndex κ ι) [] := by
  intro k i
  simp

/-- A place outside all footprints has no owner. -/
theorem Covers.owner_eq_none {idx : OwnerIndex κ ι} {es : List (ι × List κ)} (h : Covers idx es)
    {k : κ} (hk : ∀ e ∈ es, k ∉ e.2) : idx.owner k = none := by
  cases ho : idx.owner k with
  | none => rfl
  | some i =>
      obtain ⟨e, he, -, hke⟩ := (h k i).1 ho
      exact absurd hke (hk e he)

/-- Two indices of the same entities answer the same. -/
theorem Covers.owner_eq {idx idx' : OwnerIndex κ ι} {es : List (ι × List κ)} (h : Covers idx es)
    (h' : Covers idx' es) (k : κ) : idx.owner k = idx'.owner k := by
  ext i
  exact (h k i).trans (h' k i).symm

/-- Of entities with disjoint footprints, the places of one lie in no other. -/
theorem not_mem_of_pairwise {es₁ es₂ : List (ι × List κ)} {i : ι} {ks : List κ}
    (h : (es₁ ++ (i, ks) :: es₂).Pairwise fun e e' => ∀ k ∈ e'.2, k ∉ e.2) :
    ∀ e ∈ es₁ ++ es₂, ∀ k ∈ ks, k ∉ e.2 := by
  rw [List.pairwise_append, List.pairwise_cons] at h
  obtain ⟨-, ⟨hafter, -⟩, hbefore⟩ := h
  intro e he k hk
  rcases List.mem_append.1 he with he | he
  · exact hbefore e he (i, ks) List.mem_cons_self k hk
  · exact fun hke => hafter e he k hke hk

variable [DecidableEq κ]

/-- Claims a place for an entity. -/
def claim (idx : OwnerIndex κ ι) (k : κ) (i : ι) : OwnerIndex κ ι :=
  ⟨fun k' => if k' = k then some i else idx.owner k'⟩

/-- Releases a place. -/
def release (idx : OwnerIndex κ ι) (k : κ) : OwnerIndex κ ι :=
  ⟨fun k' => if k' = k then none else idx.owner k'⟩

/-- Claims a list of places for an entity. -/
def claimAll (idx : OwnerIndex κ ι) (ks : List κ) (i : ι) : OwnerIndex κ ι :=
  ks.foldl (fun idx k => idx.claim k i) idx

/-- Releases a list of places. -/
def releaseAll (idx : OwnerIndex κ ι) (ks : List κ) : OwnerIndex κ ι := ks.foldl release idx

theorem owner_claimAll (idx : OwnerIndex κ ι) (ks : List κ) (i : ι) (k : κ) :
    (idx.claimAll ks i).owner k = if k ∈ ks then some i else idx.owner k := by
  induction ks generalizing idx with
  | nil => simp [claimAll]
  | cons a ks ih =>
      rw [claimAll, List.foldl_cons, ← claimAll, ih]
      by_cases hka : k = a
      · subst hka; simp [claim]
      · simp [claim, hka]

theorem owner_releaseAll (idx : OwnerIndex κ ι) (ks : List κ) (k : κ) :
    (idx.releaseAll ks).owner k = if k ∈ ks then none else idx.owner k := by
  induction ks generalizing idx with
  | nil => simp [releaseAll]
  | cons a ks ih =>
      rw [releaseAll, List.foldl_cons, ← releaseAll, ih]
      by_cases hka : k = a
      · subst hka; simp [release]
      · simp [release, hka]

/-! ### When the index stays correct -/

/-- Claiming the whole footprint of a new entity. -/
theorem Covers.claimAll_append {idx : OwnerIndex κ ι} {es : List (ι × List κ)} (h : Covers idx es)
    {i : ι} {ks : List κ} (hdisj : ∀ e ∈ es, ∀ k ∈ ks, k ∉ e.2) :
    Covers (idx.claimAll ks i) (es ++ [(i, ks)]) := by
  intro k j
  rw [owner_claimAll]
  split
  · next hk =>
      constructor
      · intro hij
        exact ⟨(i, ks), by simp, Option.some_inj.1 hij, hk⟩
      · rintro ⟨e, he, rfl, hke⟩
        rcases List.mem_append.1 he with he | he
        · exact absurd hke (hdisj e he k hk)
        · obtain rfl := List.mem_singleton.1 he
          rfl
  · next hk =>
      rw [h k j]
      constructor
      · rintro ⟨e, he, hej, hke⟩
        exact ⟨e, List.mem_append_left _ he, hej, hke⟩
      · rintro ⟨e, he, hej, hke⟩
        rcases List.mem_append.1 he with he | he
        · exact ⟨e, he, hej, hke⟩
        · obtain rfl := List.mem_singleton.1 he
          exact absurd hke hk

/-- **Adding an entity keeps the index correct exactly if its whole footprint is claimed.** -/
theorem Covers.claimAll_append_iff {idx : OwnerIndex κ ι} {es : List (ι × List κ)}
    (h : Covers idx es) {i : ι} {ks : List κ} (claimed : List κ)
    (hdisj : ∀ e ∈ es, ∀ k ∈ ks, k ∉ e.2)
    (hsub : ∀ k ∈ claimed, k ∈ ks) :
    Covers (idx.claimAll claimed i) (es ++ [(i, ks)]) ↔ ∀ k ∈ ks, k ∈ claimed := by
  constructor
  · intro hc k hk
    have howner := (hc k i).2 ⟨(i, ks), by simp, rfl, hk⟩
    by_contra hout
    rw [owner_claimAll, if_neg hout, h.owner_eq_none fun e he => hdisj e he k hk] at howner
    simp at howner
  · intro hall k j
    have hiff : k ∈ claimed ↔ k ∈ ks := ⟨hsub k, hall k⟩
    rw [owner_claimAll]
    simp only [hiff]
    rw [← owner_claimAll]
    exact h.claimAll_append hdisj k j

/-- Claiming the whole footprints of entities, one after the other. -/
theorem Covers.foldl_claimAll (es : List (ι × List κ)) :
    ∀ {idx : OwnerIndex κ ι} {es₀ : List (ι × List κ)}, Covers idx es₀ →
      (es₀ ++ es).Pairwise (fun e e' => ∀ k ∈ e'.2, k ∉ e.2) →
      Covers (es.foldl (fun idx e => idx.claimAll e.2 e.1) idx) (es₀ ++ es) := by
  induction es with
  | nil =>
      intro idx es₀ h _
      rw [List.append_nil]
      exact h
  | cons e es ih =>
      intro idx es₀ h hdisj
      rw [List.append_cons] at hdisj ⊢
      refine ih (h.claimAll_append fun e' he' => ?_) hdisj
      rw [List.pairwise_append, List.pairwise_append] at hdisj
      exact hdisj.1.2.2 e' he' e (List.mem_singleton.2 rfl)

/-- **Removing an entity keeps the index correct exactly if its whole footprint is released.** -/
theorem Covers.releaseAll_append_iff {idx : OwnerIndex κ ι} {es₁ es₂ : List (ι × List κ)} {i : ι}
    {ks : List κ} (h : Covers idx (es₁ ++ (i, ks) :: es₂)) (released : List κ)
    (hdisj : ∀ e ∈ es₁ ++ es₂, ∀ k ∈ ks, k ∉ e.2) (hsub : ∀ k ∈ released, k ∈ ks) :
    Covers (idx.releaseAll released) (es₁ ++ es₂) ↔ ∀ k ∈ ks, k ∈ released := by
  have hmem : ∀ e, e ∈ es₁ ++ (i, ks) :: es₂ ↔ e = (i, ks) ∨ e ∈ es₁ ++ es₂ := by
    intro e
    simp only [List.mem_append, List.mem_cons]
    tauto
  constructor
  · intro hc k hk
    by_contra hout
    have hnone := hc.owner_eq_none fun e he => hdisj e he k hk
    rw [owner_releaseAll, if_neg hout] at hnone
    have hsome := (h k i).2 ⟨(i, ks), (hmem _).2 (Or.inl rfl), rfl, hk⟩
    rw [hnone] at hsome
    simp at hsome
  · intro hall k j
    rw [owner_releaseAll]
    split
    · next hk =>
        refine ⟨fun hn => by simp at hn, ?_⟩
        rintro ⟨e, he, -, hke⟩
        exact absurd hke (hdisj e he k (hsub k hk))
    · next hk =>
        rw [h k j]
        constructor
        · rintro ⟨e, he, hej, hke⟩
          rcases (hmem e).1 he with rfl | he
          · exact absurd (hall k hke) hk
          · exact ⟨e, he, hej, hke⟩
        · rintro ⟨e, he, hej, hke⟩
          exact ⟨e, (hmem e).2 (Or.inr he), hej, hke⟩

end OwnerIndex
