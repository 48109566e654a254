/-
**Collecting what the elements of a list give.**

A program goes through a list, gets a few results from each element, and may fail at any of them;
the results are put one after the other.  An element that gives nothing might as well not be there,
so that two lists that differ in such elements alone give the same.

Main definitions:

* `Collecting.collect` — the results of all elements, one after the other.

Main results:

* `Collecting.mem_of_collect` — where a result comes from;
* `Collecting.exists_collect` — a list is collected when each of its elements is;
* `Collecting.collect_filter` — **elements that give nothing do not matter**;
* `Collecting.collect_eq_of_filter` — lists that differ in them alone give the same.
-/

import Mathlib.Data.List.Basic

set_option relaxedAutoImplicit false
set_option autoImplicit false

universe u v w

namespace Collecting

variable {ε : Type u} {α : Type v} {β : Type w}

/-- The results of all elements, one after the other. -/
def collect (f : α → Except ε (List β)) : List α → Except ε (List β)
  | [] => .ok []
  | a :: l => do
      let bs ← f a
      let rest ← collect f l
      return bs ++ rest

variable {f g : α → Except ε (List β)}

theorem collect_cons_eq_ok {a : α} {l : List α} {cs : List β} :
    collect f (a :: l) = .ok cs ↔
      ∃ bs rest, f a = .ok bs ∧ collect f l = .ok rest ∧ cs = bs ++ rest := by
  rw [collect]
  constructor
  · intro h
    cases ha : f a with
    | error e =>
        rw [ha] at h
        cases h
    | ok bs =>
        rw [ha] at h
        cases hl : collect f l with
        | error e =>
            rw [hl] at h
            cases h
        | ok rest =>
            rw [hl] at h
            exact ⟨bs, rest, rfl, rfl, (Except.ok.inj h).symm⟩
  · rintro ⟨bs, rest, ha, hl, rfl⟩
    rw [ha, hl]
    rfl

/-- **Where a result comes from.** -/
theorem mem_of_collect {l : List α} {cs : List β} (h : collect f l = .ok cs) {b : β} :
    b ∈ cs ↔ ∃ a ∈ l, ∃ bs, f a = .ok bs ∧ b ∈ bs := by
  induction l generalizing cs with
  | nil =>
      obtain rfl : [] = cs := Except.ok.inj h
      simp
  | cons a l ih =>
      obtain ⟨bs, rest, ha, hl, rfl⟩ := collect_cons_eq_ok.1 h
      rw [List.mem_append, ih hl, List.exists_mem_cons_iff]
      refine or_congr ⟨fun hb => ⟨bs, ha, hb⟩, ?_⟩ Iff.rfl
      rintro ⟨bs', ha', hb⟩
      rw [ha] at ha'
      exact Except.ok.inj ha' ▸ hb

/-- A list is collected when each of its elements is. -/
theorem exists_collect {l : List α} (h : ∀ a ∈ l, ∃ bs, f a = .ok bs) :
    ∃ cs, collect f l = .ok cs := by
  induction l with
  | nil => exact ⟨[], rfl⟩
  | cons a l ih =>
      obtain ⟨bs, ha⟩ := h a List.mem_cons_self
      obtain ⟨rest, hl⟩ := ih fun b hb => h b (List.mem_cons_of_mem a hb)
      exact ⟨bs ++ rest, collect_cons_eq_ok.2 ⟨bs, rest, ha, hl, rfl⟩⟩

/-- What is collected depends on what the elements give alone. -/
theorem collect_congr {l : List α} (h : ∀ a ∈ l, f a = g a) : collect f l = collect g l := by
  induction l with
  | nil => rfl
  | cons a l ih =>
      rw [collect, collect, h a List.mem_cons_self, ih fun b hb => h b (List.mem_cons_of_mem a hb)]

/-- **Elements that give nothing do not matter.** -/
theorem collect_filter {keep : α → Bool} {l : List α}
    (h : ∀ a ∈ l, keep a = false → f a = .ok []) : collect f (l.filter keep) = collect f l := by
  induction l with
  | nil => rfl
  | cons a l ih =>
      have hl := ih fun b hb => h b (List.mem_cons_of_mem a hb)
      cases hkeep : keep a with
      | true => rw [List.filter_cons_of_pos hkeep, collect, collect, hl]
      | false =>
          rw [List.filter_cons_of_neg (by simp [hkeep]), hl, collect,
            h a List.mem_cons_self hkeep]
          cases collect f l <;> rfl

/-- **Lists that differ in elements that give nothing, and otherwise give the same, are collected
alike.** -/
theorem collect_eq_of_filter {keep keep' : α → Bool} {l l' : List α}
    (hsame : l.filter keep = l'.filter keep') (h : ∀ a ∈ l, keep a = false → f a = .ok [])
    (h' : ∀ a ∈ l', keep' a = false → g a = .ok []) (hfg : ∀ a ∈ l.filter keep, f a = g a) :
    collect f l = collect g l' :=
  calc collect f l = collect f (l.filter keep) := (collect_filter h).symm
    _ = collect g (l.filter keep) := collect_congr hfg
    _ = collect g (l'.filter keep') := by rw [hsame]
    _ = collect g l' := collect_filter h'

end Collecting
