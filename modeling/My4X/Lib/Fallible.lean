/-
**Lists of fallible steps.**

A program that goes through a list and may fail at every element either fails at the first element
it fails at, or returns what the elements gave.  This module says so for `List.mapM` and
`List.foldlM` in the error monad, and which errors such a program cannot fail with.

Main definitions:

* `Fallible.Avoids` — a computation does not fail with an error of a given kind.

Main results:

* `Fallible.mapM_eq_ok` — **a list is gone through exactly when each of its elements is**;
* `Fallible.foldlM_eq_mapM` — restoring the elements one after the other is translating all of them
  first;
* `Fallible.Avoids.bind`, `Fallible.Avoids.mapM`, `Fallible.Avoids.foldlM` — errors that no step
  fails with.
-/

import Mathlib.Data.List.Basic
import Mathlib.Data.List.Forall2

set_option relaxedAutoImplicit false
set_option autoImplicit false

universe u v w

namespace Fallible

variable {ε : Type u} {α : Type v} {β σ : Type w}

/-! ### Going through a list -/

theorem mapM_cons (f : α → Except ε β) (a : α) (l : List α) :
    (a :: l).mapM f = match f a with
      | .error e => .error e
      | .ok b =>
          match l.mapM f with
          | .error e => .error e
          | .ok bs => .ok (b :: bs) := by
  rw [List.mapM_cons]
  cases f a with
  | error e => rfl
  | ok b => cases l.mapM f <;> rfl

/-- **A list is gone through exactly when each of its elements is.** -/
theorem mapM_eq_ok {f : α → Except ε β} {l : List α} {bs : List β} :
    l.mapM f = .ok bs ↔ List.Forall₂ (fun a b => f a = .ok b) l bs := by
  induction l generalizing bs with
  | nil =>
      constructor
      · intro h
        obtain rfl : [] = bs := Except.ok.inj h
        exact List.Forall₂.nil
      · intro h
        cases h
        rfl
  | cons a l ih =>
      rw [mapM_cons]
      constructor
      · intro h
        cases ha : f a with
        | error e => simp [ha] at h
        | ok b =>
            cases hl : l.mapM f with
            | error e => simp [ha, hl] at h
            | ok bs' =>
                simp only [ha, hl] at h
                obtain rfl := Except.ok.inj h
                exact List.Forall₂.cons ha (ih.1 hl)
      · intro h
        cases h with
        | cons ha hl =>
            rw [ha, ih.2 hl]

/-- What gives results of a list gives the first ones of its beginning. -/
theorem mapM_take {f : α → Except ε β} {l : List α} {bs : List β} (h : l.mapM f = .ok bs) (n : ℕ) :
    (l.take n).mapM f = .ok (bs.take n) :=
  mapM_eq_ok.2 (List.forall₂_take n (mapM_eq_ok.1 h))

/-- What every element gives, each of the results is. -/
theorem forall_of_mapM {f : α → Except ε β} {l : List α} {bs : List β} {P : β → Prop}
    (h : l.mapM f = .ok bs) (hP : ∀ a ∈ l, ∀ b, f a = .ok b → P b) : ∀ b ∈ bs, P b := by
  have h₂ := mapM_eq_ok.1 h
  clear h
  induction h₂ with
  | nil => simp
  | cons ha _ ih =>
      intro b hb
      rcases List.mem_cons.1 hb with rfl | hb
      · exact hP _ List.mem_cons_self b ha
      · exact ih (fun a' ha' => hP a' (List.mem_cons_of_mem _ ha')) b hb

/-- Every element gives one of the results. -/
theorem mem_of_mapM {f : α → Except ε β} {l : List α} {bs : List β} (h : l.mapM f = .ok bs)
    {a : α} (ha : a ∈ l) : ∃ b ∈ bs, f a = .ok b := by
  have h₂ := mapM_eq_ok.1 h
  clear h
  induction h₂ with
  | nil => simp at ha
  | cons hb _ ih =>
      rcases List.mem_cons.1 ha with rfl | ha
      · exact ⟨_, List.mem_cons_self, hb⟩
      · obtain ⟨b, hmem, hok⟩ := ih ha
        exact ⟨b, List.mem_cons_of_mem _ hmem, hok⟩

/-- What is written and then read, element by element. -/
theorem forall₂_comp {γ : Type v} {R : α → β → Prop} {S : β → γ → Prop} {T : α → γ → Prop}
    {l : List α} {bs : List β} {cs : List γ} (hR : List.Forall₂ R l bs) (hS : List.Forall₂ S bs cs)
    (hT : ∀ a ∈ l, ∀ b c, R a b → S b c → T a c) : List.Forall₂ T l cs := by
  induction hR generalizing cs with
  | nil =>
      cases hS
      exact List.Forall₂.nil
  | cons hab _ ih =>
      cases hS with
      | cons hbc hrest =>
          refine List.Forall₂.cons (hT _ List.mem_cons_self _ _ hab hbc) (ih hrest ?_)
          exact fun a ha => hT a (List.mem_cons_of_mem _ ha)

/-- A list is gone through if no element fails. -/
theorem exists_mapM_eq_ok {f : α → Except ε β} {l : List α} :
    (∃ bs, l.mapM f = .ok bs) ↔ ∀ a ∈ l, ∃ b, f a = .ok b := by
  constructor
  · intro h a ha
    obtain ⟨bs, hbs⟩ := h
    obtain ⟨b, -, hb⟩ := mem_of_mapM hbs ha
    exact ⟨b, hb⟩
  · induction l with
    | nil => intro _; exact ⟨[], rfl⟩
    | cons a l ih =>
        intro h
        obtain ⟨b, hb⟩ := h a List.mem_cons_self
        obtain ⟨bs, hbs⟩ := ih fun a' ha' => h a' (List.mem_cons_of_mem a ha')
        exact ⟨b :: bs, by rw [mapM_cons, hb, hbs]⟩

/-- Conditions on the elements and on what they give. -/
theorem forall_iff_of_mapM {f : α → Except ε β} {l : List α} {bs : List β} {P : α → Prop}
    {Q : β → Prop} (h : l.mapM f = .ok bs) (hPQ : ∀ a b, f a = .ok b → (P a ↔ Q b)) :
    (∀ a ∈ l, P a) ↔ ∀ b ∈ bs, Q b := by
  constructor
  · intro hP
    exact forall_of_mapM h fun a ha b hb => (hPQ a b hb).1 (hP a ha)
  · intro hQ a ha
    obtain ⟨b, hmem, hb⟩ := mem_of_mapM h ha
    exact (hPQ a b hb).2 (hQ b hmem)

/-- Restoring the elements one after the other is translating all of them first. -/
theorem foldlM_eq_mapM (f : α → Except ε β) (g : σ → β → σ) (l : List α) (s : σ) :
    l.foldlM (fun s a => do return g s (← f a)) s =
      (do let bs ← l.mapM f; return bs.foldl g s) := by
  induction l generalizing s with
  | nil => rfl
  | cons a l ih =>
      rw [List.foldlM_cons, mapM_cons]
      cases f a with
      | error e => rfl
      | ok b =>
          refine Eq.trans (ih (g s b)) ?_
          cases l.mapM f <;> rfl

/-- Steps that follow what is picked from each element, where something is. -/
theorem foldlM_eq_foldl_filterMap {f : σ → α → Except ε σ} {g : σ → β → σ} {pick : α → Option β}
    {l : List α} (hf : ∀ s, ∀ a ∈ l, f s a = .ok ((pick a).elim s (g s))) :
    ∀ s, l.foldlM f s = .ok ((l.filterMap pick).foldl g s) := by
  induction l with
  | nil => intro s; rfl
  | cons a l ih =>
      intro s
      rw [List.foldlM_cons, hf s a List.mem_cons_self]
      refine (ih (fun s a ha => hf s a (List.mem_cons_of_mem _ ha)) _).trans ?_
      cases hpick : pick a with
      | none => rw [List.filterMap_cons_none hpick]; rfl
      | some b => rw [List.filterMap_cons_some hpick]; rfl

/-- Steps that are the same on the elements of a list. -/
theorem foldlM_ext {f g : σ → α → Except ε σ} {l : List α} (h : ∀ s, ∀ a ∈ l, f s a = g s a) :
    ∀ s, l.foldlM f s = l.foldlM g s := by
  induction l with
  | nil => intro s; rfl
  | cons a l ih =>
      intro s
      rw [List.foldlM_cons, List.foldlM_cons, h s a List.mem_cons_self]
      exact bind_congr (ih fun s b hb => h s b (List.mem_cons_of_mem a hb))

/-! ### Errors that do not occur -/

/-- The computation does not fail with an error of a kind. -/
def Avoids (P : ε → Prop) (x : Except ε α) : Prop := ∀ e, x = .error e → ¬ P e

variable {P : ε → Prop}

theorem Avoids.ok (a : α) : Avoids P (.ok a : Except ε α) := by
  intro e h
  simp at h

theorem Avoids.error {e : ε} (h : ¬ P e) : Avoids P (.error e : Except ε α) := by
  intro e' he
  rw [← Except.error.inj he]
  exact h

theorem Avoids.bind {γ : Type v} {x : Except ε α} {f : α → Except ε γ} (hx : Avoids P x)
    (hf : ∀ a, x = .ok a → Avoids P (f a)) : Avoids P (x >>= f) := by
  cases x with
  | error e => exact Avoids.error (hx e rfl)
  | ok a => exact hf a rfl

theorem Avoids.mapM {f : α → Except ε β} {l : List α} (hf : ∀ a ∈ l, Avoids P (f a)) :
    Avoids P (l.mapM f) := by
  induction l with
  | nil => exact Avoids.ok _
  | cons a l ih =>
      rw [mapM_cons]
      have ha := hf a List.mem_cons_self
      have hl := ih fun a' ha' => hf a' (List.mem_cons_of_mem a ha')
      cases hfa : f a with
      | error e => exact Avoids.error (ha e hfa)
      | ok b =>
          cases hmap : l.mapM f with
          | error e => exact Avoids.error (hl e hmap)
          | ok bs => exact Avoids.ok _

theorem Avoids.foldlM {f : σ → α → Except ε σ} {l : List α} (hf : ∀ s, ∀ a ∈ l, Avoids P (f s a)) :
    ∀ s, Avoids P (l.foldlM f s) := by
  induction l with
  | nil => intro s; exact Avoids.ok s
  | cons a l ih =>
      intro s
      rw [List.foldlM_cons]
      have hstep := hf s a List.mem_cons_self
      have hrest := ih fun s' a' ha' => hf s' a' (List.mem_cons_of_mem a ha')
      cases hfa : f s a with
      | error e => exact Avoids.error (hstep e hfa)
      | ok s' => exact hrest s'

end Fallible
