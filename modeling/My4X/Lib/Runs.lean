/-
**Runs of a partial step function.**

A system takes one request after the other; a step may fail, and then the run stops.  A condition
on a state and a request holds along a run when every step of the run meets it in the state it is
taken in.  What every step keeps, or relates to the state before it, a whole run keeps or relates.

Main definitions:

* `Runs.run` — the state a list of requests leads to;
* `Runs.Along` — a condition that every step of a run meets;
* `Runs.count` — the number of steps of a run that meet a condition;
* `Runs.recorded` — a run with a record that is kept along the way;
* `Runs.Since` — a mark in a history that nothing later has cleared.

Main results:

* `Runs.along_congr`, `Runs.along_congr_of_kept` — conditions that agree in every state that keeps
  an invariant agree along every run;
* `Runs.run_append` — a run of two lists of requests is two runs;
* `Runs.run_invariant`, `Runs.run_relation` — **from one step to a whole run**;
* `Runs.exists_run` — a run of steps that do not fail comes to its end;
* `Runs.count_le` — **a quantity that no step raises bounds the steps that lower it**;
* `Runs.along_recorded` — a record does not change what the steps meet;
* `Runs.along_recorded_keeps_iff` — what a run keeps exactly when its steps meet a condition.
-/

import Mathlib.Data.Int.Order.Basic
import Mathlib.Data.List.Basic

set_option relaxedAutoImplicit false
set_option autoImplicit false

universe u v

namespace Runs

variable {σ : Type u} {α : Type v} (step : σ → α → Option σ)

/-- The state that a list of requests leads to, unless a step fails. -/
def run : σ → List α → Option σ
  | s, [] => some s
  | s, a :: as => (step s a).bind fun s' => run s' as

/-- Every step of the run meets the condition, in the state it is taken in. -/
def Along (P : σ → α → Prop) : σ → List α → Prop
  | _, [] => True
  | s, a :: as => P s a ∧ ∀ s', step s a = some s' → Along P s' as

variable {step} {P Q : σ → α → Prop} {I : σ → Prop}

/-- A condition that every step meets holds along every run. -/
theorem along_of_forall (h : ∀ s a, P s a) : ∀ (as : List α) (s : σ), Along step P s as := by
  intro as
  induction as with
  | nil => intro s; trivial
  | cons a as ih => intro s; exact ⟨h s a, fun s' _ => ih s'⟩

/-- A condition on the requests alone holds along a run when every request meets it. -/
theorem along_of_mem {p : α → Prop} :
    ∀ (as : List α) (s : σ), (∀ a ∈ as, p a) → Along step (fun _ a => p a) s as := by
  intro as
  induction as with
  | nil => intro s _; trivial
  | cons a as ih =>
      intro s h
      exact ⟨h a List.mem_cons_self, fun s' _ => ih s' fun b hb => h b (List.mem_cons_of_mem a hb)⟩

/-- The state after a run of one request more. -/
theorem run_cons {s t : σ} {a : α} {as : List α} :
    run step s (a :: as) = some t ↔ ∃ s', step s a = some s' ∧ run step s' as = some t :=
  Option.bind_eq_some_iff

/-- A run of two lists of requests, one after the other. -/
theorem run_append {s t : σ} {as bs : List α} :
    run step s (as ++ bs) = some t ↔ ∃ s', run step s as = some s' ∧ run step s' bs = some t := by
  induction as generalizing s with
  | nil => simp [run]
  | cons a as ih =>
      rw [List.cons_append, run_cons]
      simp only [ih, run_cons]
      constructor
      · intro h
        obtain ⟨s₁, h₁, s₂, h₂, h₃⟩ := h
        exact ⟨s₂, ⟨s₁, h₁, h₂⟩, h₃⟩
      · intro h
        obtain ⟨s₂, ⟨s₁, h₁, h₂⟩, h₃⟩ := h
        exact ⟨s₁, h₁, s₂, h₂, h₃⟩

/-- A condition along a run of two lists of requests is one along two runs. -/
theorem along_append {as bs : List α} : ∀ {s : σ},
    Along step P s (as ++ bs) ↔
      Along step P s as ∧ ∀ t, run step s as = some t → Along step P t bs := by
  induction as with
  | nil =>
      intro s
      exact ⟨fun h => ⟨trivial, fun t ht => Option.some_inj.1 ht ▸ h⟩, fun h => h.2 s rfl⟩
  | cons a as ih =>
      intro s
      rw [List.cons_append, Along, Along, and_assoc]
      refine and_congr_right fun _ => ?_
      constructor
      · intro h
        refine ⟨fun s' hs' => (ih.1 (h s' hs')).1, fun t ht => ?_⟩
        obtain ⟨s', hs', hrun⟩ := run_cons.1 ht
        exact (ih.1 (h s' hs')).2 t hrun
      · intro h s' hs'
        exact ih.2 ⟨h.1 s' hs', fun t ht => h.2 t (run_cons.2 ⟨s', hs', ht⟩)⟩

/-- Conditions that agree in every state that keeps an invariant agree along every run. -/
theorem along_congr (hInv : ∀ s a s', I s → step s a = some s' → I s')
    (hPQ : ∀ s a, I s → (P s a ↔ Q s a)) :
    ∀ (as : List α) (s : σ), I s → (Along step P s as ↔ Along step Q s as) := by
  intro as
  induction as with
  | nil => intro s _; exact Iff.rfl
  | cons a as ih =>
      intro s hs
      have hrest : (∀ s', step s a = some s' → Along step P s' as) ↔
          ∀ s', step s a = some s' → Along step Q s' as :=
        forall₂_congr fun s' hs' => ih s' (hInv s a s' hs hs')
      exact and_congr (hPQ s a hs) hrest

/-- Conditions that agree on every step which meets a third one, in every state that keeps an
invariant, agree along every run whose steps meet the third one, if they keep the invariant. -/
theorem along_congr_of_kept {D : σ → α → Prop} (hPQ : ∀ s a, I s → D s a → (P s a ↔ Q s a))
    (hInv : ∀ s a s', I s → D s a → P s a → step s a = some s' → I s') :
    ∀ (as : List α) (s : σ), I s → Along step D s as → (Along step P s as ↔ Along step Q s as) := by
  intro as
  induction as with
  | nil => intro s _ _; exact Iff.rfl
  | cons a as ih =>
      intro s hs hD
      have hone := hPQ s a hs hD.1
      constructor
      · intro h
        refine ⟨hone.1 h.1, fun s' hs' => ?_⟩
        exact (ih s' (hInv s a s' hs hD.1 h.1 hs') (hD.2 s' hs')).1 (h.2 s' hs')
      · intro h
        refine ⟨hone.2 h.1, fun s' hs' => ?_⟩
        exact (ih s' (hInv s a s' hs hD.1 (hone.2 h.1) hs') (hD.2 s' hs')).2 (h.2 s' hs')

/-- Two step functions that agree on every step which meets a condition have the same runs, where
the steps meet it. -/
theorem along_step_congr {step' : σ → α → Option σ} {D : σ → α → Prop}
    (hstep : ∀ s a, D s a → step s a = step' s a) :
    ∀ (as : List α) (s : σ), Along step D s as → (Along step P s as ↔ Along step' P s as) := by
  intro as
  induction as with
  | nil => intro s _; exact Iff.rfl
  | cons a as ih =>
      intro s hD
      refine and_congr_right fun _ => ?_
      rw [← hstep s a hD.1]
      exact forall₂_congr fun s' hs' => ih s' (hD.2 s' hs')

/-- What every step that meets the condition keeps, every run that meets it along the way keeps. -/
theorem run_invariant (hInv : ∀ s a s', I s → P s a → step s a = some s' → I s') :
    ∀ (as : List α) (s t : σ), I s → Along step P s as → run step s as = some t → I t := by
  intro as
  induction as with
  | nil =>
      intro s t hs _ hrun
      obtain rfl := Option.some_inj.1 hrun
      exact hs
  | cons a as ih =>
      intro s t hs hal hrun
      obtain ⟨s', hstep, hrun⟩ := run_cons.1 hrun
      exact ih s' t (hInv s a s' hs hal.1 hstep) (hal.2 s' hstep) hrun

/-- A run comes to its end when its steps meet a condition under which no step fails. -/
theorem exists_run (hstep : ∀ s a, P s a → ∃ s', step s a = some s') :
    ∀ (as : List α) (s : σ), Along step P s as → ∃ t, run step s as = some t := by
  intro as
  induction as with
  | nil => intro s _; exact ⟨s, rfl⟩
  | cons a as ih =>
      intro s hal
      obtain ⟨s', hs'⟩ := hstep s a hal.1
      obtain ⟨t, ht⟩ := ih s' (hal.2 s' hs')
      exact ⟨t, run_cons.2 ⟨s', hs', ht⟩⟩

/-- A reflexive and transitive relation that every step which meets the condition keeps relates the
ends of every run that meets it along the way. -/
theorem run_relation {R : σ → σ → Prop} (hrefl : ∀ s, R s s)
    (htrans : ∀ s s' s'', R s s' → R s' s'' → R s s'')
    (hInv : ∀ s a s', I s → step s a = some s' → I s')
    (hstep : ∀ s a s', I s → P s a → step s a = some s' → R s s') :
    ∀ (as : List α) (s t : σ), I s → Along step P s as → run step s as = some t → R s t := by
  intro as
  induction as with
  | nil =>
      intro s t _ _ hrun
      obtain rfl := Option.some_inj.1 hrun
      exact hrefl s
  | cons a as ih =>
      intro s t hs hal hrun
      obtain ⟨s', hs', hrun⟩ := run_cons.1 hrun
      exact htrans s s' t (hstep s a s' hs hal.1 hs')
        (ih s' t (hInv s a s' hs hs') (hal.2 s' hs') hrun)

/-! ### Counting -/

/-- The number of steps of a run that meet a condition. -/
def count (step : σ → α → Option σ) (p : σ → α → Bool) : σ → List α → ℕ
  | _, [] => 0
  | s, a :: as =>
      match step s a with
      | none => 0
      | some s' => (if p s a then 1 else 0) + count step p s' as

/-- **A quantity that no step raises bounds the number of steps that lower it**, if it is never
negative. -/
theorem count_le {p : σ → α → Bool} (quantity : σ → ℤ) (hnonneg : ∀ s, 0 ≤ quantity s)
    (hle : ∀ s a s', P s a → step s a = some s' → quantity s' ≤ quantity s)
    (hlt : ∀ s a s', p s a = true → step s a = some s' → quantity s' < quantity s) :
    ∀ (as : List α) (s : σ), Along step P s as → (count step p s as : ℤ) ≤ quantity s := by
  intro as
  induction as with
  | nil => intro s _; exact hnonneg s
  | cons a as ih =>
      intro s hal
      rw [count]
      cases hs : step s a with
      | none => exact hnonneg s
      | some s' =>
          have hrest := ih s' (hal.2 s' hs)
          have hstep := hle s a s' hal.1 hs
          dsimp only
          cases hp : p s a with
          | false =>
              rw [if_neg (by decide)]
              omega
          | true =>
              have hless := hlt s a s' hp hs
              rw [if_pos rfl]
              omega

/-! ### Records -/

section Record

universe w

variable {ρ : Type w} (step : σ → α → Option σ) (record : σ → ρ → α → ρ)

/-- A step with a record: the record is changed by the request and the state it is taken in. -/
def recorded (x : σ × ρ) (a : α) : Option (σ × ρ) :=
  (step x.1 a).map fun s' => (s', record x.1 x.2 a)

theorem recorded_eq_some {x y : σ × ρ} {a : α} :
    recorded step record x a = some y ↔ step x.1 a = some y.1 ∧ y.2 = record x.1 x.2 a := by
  rw [recorded, Option.map_eq_some_iff]
  constructor
  · intro h
    obtain ⟨s', hs', rfl⟩ := h
    exact ⟨hs', rfl⟩
  · intro h
    exact ⟨y.1, h.1, by rw [← h.2]⟩

/-- A condition on the states holds along a run with a record when it holds along the run. -/
theorem along_recorded (P : σ → α → Prop) :
    ∀ (as : List α) (x : σ × ρ),
      Along (recorded step record) (fun x a => P x.1 a) x as ↔ Along step P x.1 as := by
  intro as
  induction as with
  | nil => intro x; exact Iff.rfl
  | cons a as ih =>
      intro x
      refine and_congr_right fun _ => ?_
      constructor
      · intro h s' hs'
        exact (ih (s', record x.1 x.2 a)).1 (h _ ((recorded_eq_some step record).2 ⟨hs', rfl⟩))
      · intro h y hy
        exact (ih y).2 (h y.1 ((recorded_eq_some step record).1 hy).1)

/-- **What every step keeps exactly when it meets a condition, in every state that keeps an
invariant, is kept along a run with a record exactly when every step meets the condition.** -/
theorem along_recorded_keeps_iff {I J : σ × ρ → Prop} {Q : σ × ρ → α → Prop}
    (hJ : ∀ x a y, J x → recorded step record x a = some y → J y)
    (hQ : ∀ x a, J x → I x →
      ((∀ s', step x.1 a = some s' → I (s', record x.1 x.2 a)) ↔ Q x a)) :
    ∀ (as : List α) (x : σ × ρ), J x → I x →
      (Along (recorded step record) (fun x a => ∀ y, recorded step record x a = some y → I y) x as ↔
        Along (recorded step record) Q x as) := by
  intro as x hJx hIx
  refine along_congr_of_kept (I := fun x => J x ∧ I x) (D := fun _ _ => True) (fun x a hx _ => ?_)
    (fun x a y hx _ hkeep hy => ⟨hJ x a y hx.1 hy, hkeep y hy⟩) as x ⟨hJx, hIx⟩
    (along_of_forall (fun _ _ => trivial) as x)
  rw [← hQ x a hx.1 hx.2]
  constructor
  · intro hkeep s' hs'
    exact hkeep (s', _) ((recorded_eq_some step record).2 ⟨hs', rfl⟩)
  · intro hkeep y hy
    obtain ⟨hstep, hrecord⟩ := (recorded_eq_some step record).1 hy
    have hnext := hkeep y.1 hstep
    rwa [← hrecord] at hnext

end Record

/-! ### Histories -/

section History

variable {ε : Type u} {mark clear : ε → Prop}

/-- There is a mark in the history, and nothing after it clears it. -/
def Since (mark clear : ε → Prop) (history : List ε) : Prop :=
  ∃ before e after, history = before ++ e :: after ∧ mark e ∧ ∀ x ∈ after, ¬ clear x

/-- **One event more**: it is a mark, or there was one and it does not clear it. -/
theorem since_append {history : List ε} {e : ε} :
    Since mark clear (history ++ [e]) ↔ mark e ∨ (Since mark clear history ∧ ¬ clear e) := by
  constructor
  · rintro ⟨before, x, after, h, hmark, hclear⟩
    rcases List.eq_nil_or_concat' after with rfl | ⟨after', y, rfl⟩
    · obtain ⟨-, hx⟩ := List.append_inj' h rfl
      obtain rfl := List.cons.inj hx |>.1
      exact Or.inl hmark
    · rw [← List.cons_append, ← List.append_assoc] at h
      obtain ⟨hhistory, hy⟩ := List.append_inj' h rfl
      obtain rfl := List.cons.inj hy |>.1
      refine Or.inr ⟨⟨before, x, after', hhistory, hmark, fun z hz => ?_⟩, ?_⟩
      · exact hclear z (List.mem_append_left _ hz)
      · exact hclear e (List.mem_append_right _ List.mem_cons_self)
  · rintro (hmark | ⟨⟨before, x, after, rfl, hmark, hclear⟩, he⟩)
    · exact ⟨history, e, [], rfl, hmark, fun _ h => by cases h⟩
    · refine ⟨before, x, after ++ [e], by simp, hmark, fun z hz => ?_⟩
      rcases List.mem_append.1 hz with hz | hz
      · exact hclear z hz
      · rwa [List.mem_singleton.1 hz]

end History

end Runs
