/-
**Identifiers from a counter.**

A counter starts at some identifier and goes on to the next one each time it gives one out.  Some of
what was given an identifier is still there, the rest is gone; what is gone does not free its
identifier.  As long as the counter has not come back to where it was, no identifier is given twice
and what is there has distinct ones.

Main definitions:

* `FreshIds.Numbered` — the counter, the identifiers given so far and those that are still there.

Main results:

* `FreshIds.Numbered.give`, `FreshIds.Numbered.keep` — what gives an identifier or drops some keeps
  the numbering;
* `FreshIds.Numbered.given_nodup` — **no identifier is given twice** before the counter comes back;
* `FreshIds.Numbered.lt_counter` — every identifier given is below a counter that only grows.
-/

import Mathlib.Data.List.Nodup
import Mathlib.Data.List.Perm.Basic
import Mathlib.Logic.Function.Iterate

set_option relaxedAutoImplicit false
set_option autoImplicit false

universe u

namespace FreshIds

variable {α : Type u}

/-- The identifiers given so far are the first ones of the counter, which is at the next one, and
those that are still there are some of them, in order. -/
structure Numbered (next : α → α) (first counter : α) (given there : List α) : Prop where
  counter_eq : counter = next^[given.length] first
  given_eq : given = (List.range given.length).map fun k => next^[k] first
  sublist : there.Sublist given

variable {next : α → α} {first counter : α} {given there there' : List α}

/-- A new counter. -/
theorem Numbered.start (next : α → α) (first : α) : Numbered next first first [] [] where
  counter_eq := rfl
  given_eq := rfl
  sublist := List.Sublist.refl _

/-- The identifier at the counter is given to something new. -/
theorem Numbered.give (h : Numbered next first counter given there) :
    Numbered next first (next counter) (given ++ [counter]) (there ++ [counter]) where
  counter_eq := by
    rw [List.length_append, List.length_singleton, Function.iterate_succ_apply', ← h.counter_eq]
  given_eq := by
    rw [List.length_append, List.length_singleton, List.range_succ, List.map_append,
      List.map_singleton, ← h.given_eq, ← h.counter_eq]
  sublist := h.sublist.append (List.Sublist.refl _)

/-- What drops some of what is there gives nothing. -/
theorem Numbered.keep (h : Numbered next first counter given there) (hsub : there'.Sublist there) :
    Numbered next first counter given there' where
  counter_eq := h.counter_eq
  given_eq := h.given_eq
  sublist := hsub.trans h.sublist

/-- **No identifier is given twice** while the counter does not come back. -/
theorem Numbered.given_nodup (h : Numbered next first counter given there)
    (hinj : ∀ i < given.length, ∀ j < given.length, next^[i] first = next^[j] first → i = j) :
    given.Nodup := by
  rw [h.given_eq]
  refine List.Nodup.map_on ?_ List.nodup_range
  intro i hi j hj hij
  exact hinj i (List.mem_range.1 hi) j (List.mem_range.1 hj) hij

/-- What is there then has distinct identifiers. -/
theorem Numbered.nodup (h : Numbered next first counter given there)
    (hinj : ∀ i < given.length, ∀ j < given.length, next^[i] first = next^[j] first → i = j) :
    there.Nodup :=
  (h.given_nodup hinj).sublist h.sublist

/-- Every identifier given is below a counter that has only grown. -/
theorem Numbered.lt_counter [LT α] (h : Numbered next first counter given there)
    (hlt : ∀ i < given.length, next^[i] first < next^[given.length] first) {a : α}
    (ha : a ∈ given) : a < counter := by
  rw [h.given_eq, List.mem_map] at ha
  obtain ⟨i, hi, rfl⟩ := ha
  rw [h.counter_eq]
  exact hlt i (List.mem_range.1 hi)

end FreshIds
