/-
**Ordered sets as strictly increasing lists.**

An ordered set of a linearly ordered type is determined by the increasing list of its elements,
and that list is what a program that iterates over the set sees.  This module keeps a set as this
list, with the proof that it is increasing, so that two sets with the same elements are equal.

Main definitions:

* `SortedSet` — a strictly increasing list;
* `SortedSet.insert`, `SortedSet.insertAll` — insertion of one element, and of a list of elements
  from left to right.

Main results:

* `SortedSet.ext` — **sets with the same elements are equal**;
* `SortedSet.mem_insertAll` — the elements after a run of insertions;
* `SortedSet.insertAll_toList` — inserting the elements of a set into a subset of it rebuilds it.
-/

import Mathlib.Order.Lattice
import Mathlib.Data.List.Basic
import Mathlib.Data.List.Perm.Basic

set_option relaxedAutoImplicit false
set_option autoImplicit false

universe u

/-- A finite set, kept as the strictly increasing list of its elements. -/
structure SortedSet (α : Type u) [LinearOrder α] where
  toList : List α
  sorted : toList.Pairwise (· < ·)
  deriving DecidableEq

namespace SortedSet

variable {α : Type u} [LinearOrder α]

instance : Membership α (SortedSet α) := ⟨fun s a => a ∈ s.toList⟩

theorem mem_def {s : SortedSet α} {a : α} : a ∈ s ↔ a ∈ s.toList := Iff.rfl

instance (s : SortedSet α) (a : α) : Decidable (a ∈ s) :=
  inferInstanceAs (Decidable (a ∈ s.toList))

/-- The empty set. -/
def empty : SortedSet α := ⟨[], List.Pairwise.nil⟩

/-- The set of one element. -/
def singleton (a : α) : SortedSet α := ⟨[a], List.pairwise_singleton _ a⟩

@[simp] theorem not_mem_empty (a : α) : a ∉ (empty : SortedSet α) := by
  simp [mem_def, empty]

@[simp] theorem mem_singleton {a b : α} : a ∈ singleton b ↔ a = b := by
  simp [mem_def, singleton]

/-- **Sets with the same elements are equal.** -/
@[ext] theorem ext {s t : SortedSet α} (h : ∀ a, a ∈ s ↔ a ∈ t) : s = t := by
  obtain ⟨l, hl⟩ := s
  obtain ⟨m, hm⟩ := t
  have hnl : l.Nodup := hl.imp fun h => ne_of_lt h
  have hnm : m.Nodup := hm.imp fun h => ne_of_lt h
  have hperm : l.Perm m := (List.perm_ext_iff_of_nodup hnl hnm).2 h
  have hanti : ∀ a b, a ∈ l → b ∈ m → a < b → b < a → a = b :=
    fun a b _ _ hab hba => absurd (lt_trans hab hba) (lt_irrefl a)
  obtain rfl : l = m := hperm.eq_of_pairwise hanti hl hm
  rfl

/-! ### Insertion -/

/-- Insertion into an increasing list, which keeps it increasing. -/
def insertSorted (a : α) : List α → List α
  | [] => [a]
  | b :: l => if a < b then a :: b :: l else if a = b then b :: l else b :: insertSorted a l

theorem mem_insertSorted {a b : α} {l : List α} : b ∈ insertSorted a l ↔ b = a ∨ b ∈ l := by
  induction l with
  | nil => simp [insertSorted]
  | cons c l ih =>
      rw [insertSorted]
      split_ifs with hlt heq
      · exact List.mem_cons
      · simp [heq]
      · simp only [List.mem_cons, ih]
        tauto

theorem pairwise_insertSorted {a : α} {l : List α} (h : l.Pairwise (· < ·)) :
    (insertSorted a l).Pairwise (· < ·) := by
  induction l with
  | nil => exact List.pairwise_singleton _ a
  | cons c l ih =>
      obtain ⟨hc, hl⟩ := List.pairwise_cons.1 h
      rw [insertSorted]
      split_ifs with hlt heq
      · refine List.pairwise_cons.2 ⟨fun b hb => ?_, h⟩
        rcases List.mem_cons.1 hb with rfl | hb
        · exact hlt
        · exact lt_trans hlt (hc b hb)
      · exact h
      · refine List.pairwise_cons.2 ⟨fun b hb => ?_, ih hl⟩
        rcases mem_insertSorted.1 hb with rfl | hb
        · exact lt_of_le_of_ne (not_lt.1 hlt) (Ne.symm heq)
        · exact hc b hb

/-- Insertion of an element; nothing changes when it is there already. -/
def insert (s : SortedSet α) (a : α) : SortedSet α :=
  ⟨insertSorted a s.toList, pairwise_insertSorted s.sorted⟩

@[simp] theorem mem_insert {s : SortedSet α} {a b : α} : b ∈ s.insert a ↔ b = a ∨ b ∈ s :=
  mem_insertSorted

/-- Insertion of the elements of a list, from left to right. -/
def insertAll (s : SortedSet α) (l : List α) : SortedSet α := l.foldl insert s

@[simp] theorem insertAll_nil (s : SortedSet α) : s.insertAll [] = s := rfl

@[simp] theorem insertAll_cons (s : SortedSet α) (a : α) (l : List α) :
    s.insertAll (a :: l) = (s.insert a).insertAll l := rfl

@[simp] theorem mem_insertAll {s : SortedSet α} {l : List α} {b : α} :
    b ∈ s.insertAll l ↔ b ∈ l ∨ b ∈ s := by
  induction l generalizing s with
  | nil => simp
  | cons a l ih =>
      simp only [insertAll_cons, ih, mem_insert, List.mem_cons]
      tauto

/-- Inserting the elements of a set into a subset of it rebuilds the set. -/
theorem insertAll_toList {s t : SortedSet α} (h : ∀ a ∈ s, a ∈ t) : s.insertAll t.toList = t := by
  ext a
  rw [mem_insertAll, mem_def (s := t)]
  exact ⟨fun ha => ha.elim id (h a), Or.inl⟩

end SortedSet
