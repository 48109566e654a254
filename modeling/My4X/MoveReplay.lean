/-
**Sequences of moves.**

A move changes the position and the movement of one unit.  Where a sequence of executed moves leaves
a unit therefore depends on the moves of that unit alone, and a state is known, up to the order of
the registry, by the moves of each unit.

Main definitions:

* `My4X.moveStep` — a move that has to be executed, so that `Runs.run moveStep` is a sequence of
  executed moves;
* `My4X.replayMoves` — a sequence of moves in which refused moves are skipped;
* `My4X.forceMoves` — a sequence of moves carried out without the checks of `validate`;
* `My4X.SameFrame` — two states differ at most in units and the registry of units.

Main results:

* `My4X.run_moveStep_congr` — the order in the registry does not matter;
* `My4X.forceMoves_of_run` — executed moves need no checks;
* `My4X.forceMoves_get?`, `My4X.forceMoves_sameUpToOrder` — **a unit depends on its own moves
  alone**.
-/

import My4X.Rollback
import My4X.Agreement
import My4X.Lib.Runs

set_option relaxedAutoImplicit false
set_option autoImplicit false

namespace My4X

open PredictionManager

/-! ### Executed moves -/

/-- A move that has to be executed. -/
def moveStep (s : GameState) (a : MoveAction) : Option GameState :=
  match a.execute s with
  | .ok (s', r) => if r.executed then some s' else none
  | .error _ => none

/-- Carries out moves in order and skips those that are refused. -/
def replayMoves : GameState → List MoveAction → Except Fault GameState
  | s, [] => .ok s
  | s, a :: as => do
      let (s, _) ← a.execute s
      replayMoves s as

theorem moveStep_eq_some {s s' : GameState} {a : MoveAction} :
    moveStep s a = some s' ↔ ∃ r, a.execute s = .ok (s', r) ∧ r.executed = true := by
  rw [moveStep]
  cases hex : a.execute s with
  | error e => simp
  | ok out =>
      obtain ⟨s₁, r⟩ := out
      dsimp only
      by_cases hr : r.executed = true
      · rw [if_pos hr, Option.some_inj]
        constructor
        · intro h
          exact ⟨r, by rw [h], hr⟩
        · intro h
          obtain ⟨r', h, -⟩ := h
          exact (Prod.mk.inj (Except.ok.inj h)).1
      · rw [if_neg hr]
        refine iff_of_false (by simp) ?_
        intro h
        obtain ⟨r', h, hr'⟩ := h
        obtain ⟨-, rfl⟩ := Prod.mk.inj (Except.ok.inj h)
        exact hr hr'

/-- What an executed move does. -/
theorem moveStep_cases {s s' : GameState} {a : MoveAction} (h : moveStep s a = some s') :
    a.validate s = .ok .valid ∧ ∃ p u t, s.units.get? a.unitIndex = some p ∧
      s.map.tile a.destRow a.destCol = .ok t ∧
      p.unit.moveTo a.destRow a.destCol (getTerrainProperties t.terrain).movementCost = .ok u ∧
      s' = s.relocate a.unitIndex p u := by
  obtain ⟨r, hex, hr⟩ := moveStep_eq_some.1 h
  exact MoveAction.cases_of_executed hex hr

/-- **A move is executed exactly when the unit can afford it and no zone of control blocks it.** -/
theorem exists_moveStep_iff {s : GameState} {a : MoveAction} :
    (∃ s', moveStep s a = some s') ↔ ∃ p tile, s.units.get? a.unitIndex = some p ∧
      a.Affords s.map p.unit tile ∧ ¬ a.Crosses s p.unit := by
  rw [← MoveAction.validate_eq_valid_iff]
  constructor
  · intro h
    obtain ⟨s', h⟩ := h
    exact (moveStep_cases h).1
  · intro h
    obtain ⟨p, u, t, -, -, -, hex⟩ := MoveAction.execute_of_valid h
    exact ⟨_, moveStep_eq_some.2 ⟨_, hex, rfl⟩⟩

/-- A sequence of executed moves is a replay in which nothing is skipped. -/
theorem replayMoves_of_run (as : List MoveAction) :
    ∀ {s t : GameState}, Runs.run moveStep s as = some t → replayMoves s as = .ok t := by
  induction as with
  | nil =>
      intro s t h
      obtain rfl := Option.some_inj.1 h
      rfl
  | cons a as ih =>
      intro s t h
      obtain ⟨s', hstep, hrun⟩ := Runs.run_cons.1 h
      obtain ⟨r, hex, -⟩ := moveStep_eq_some.1 hstep
      rw [replayMoves, hex, Except.ok_bind]
      exact ih hrun

/-! ### The frame of a move -/

/-- Two states differ at most in the units and the registry of units. -/
structure SameFrame (s t : GameState) : Prop where
  rest : { s with registry := t.registry, units := t.units } = t
  cities : s.registry.cities = t.registry.cities
  buildings : s.registry.buildings = t.registry.buildings

theorem SameFrame.refl (s : GameState) : SameFrame s s := ⟨rfl, rfl, rfl⟩

theorem SameFrame.trans {s t u : GameState} (h : SameFrame s t) (h' : SameFrame t u) :
    SameFrame s u where
  rest := by
    rw [← h'.rest, ← h.rest]
  cities := h.cities.trans h'.cities
  buildings := h.buildings.trans h'.buildings

theorem SameFrame.symm {s t : GameState} (h : SameFrame s t) : SameFrame t s where
  rest := by
    rw [← h.rest]
  cities := h.cities.symm
  buildings := h.buildings.symm

theorem SameFrame.map_eq {s t : GameState} (h : SameFrame s t) : s.map = t.map := by
  rw [← h.rest]

theorem SameFrame.relocate (s : GameState) (i : ℕ) (p : OwnedUnit) (u : Unit) :
    SameFrame s (s.relocate i p u) := ⟨rfl, rfl, rfl⟩

theorem SameUpToOrder.frame {s t : GameState} (h : SameUpToOrder s t) : SameFrame s t where
  rest := by
    rw [← h.rest]
  cities := h.cities
  buildings := h.buildings

/-- Coherent states with the same frame and the same units are the same. -/
theorem SameFrame.sameUpToOrder {s t : GameState} (h : SameFrame s t) (hs : s.Coherent)
    (ht : t.Coherent) (hunits : s.units = t.units) : SameUpToOrder s t := by
  refine sameUpToOrder_of_coherent hs ht ?_ h.cities h.buildings
  conv_rhs => rw [← h.rest, ← hunits]

theorem SameFrame.moveStep {s s' : GameState} {a : MoveAction} (h : moveStep s a = some s') :
    SameFrame s s' := by
  obtain ⟨-, p, u, t, -, -, -, rfl⟩ := moveStep_cases h
  exact SameFrame.relocate s _ p u

theorem SameFrame.rollbackPrediction (s : GameState) (pred : PendingPrediction) :
    SameFrame s (rollbackPrediction s pred) := by
  unfold PredictionManager.rollbackPrediction
  dsimp only
  split
  · exact SameFrame.refl s
  · exact SameFrame.relocate s _ _ _

/-! ### Sequences in states that are the same -/

/-- States that are the same agree. -/
theorem SameUpToOrder.agrees {s t : GameState} (h : SameUpToOrder s t) : s.Agrees t := by
  rw [← h.rest]
  refine ⟨rfl, ?_, rfl, rfl, fun _ _ => rfl, fun _ _ => rfl, ?_⟩
  · intro i
    cases s.units.get? i with
    | none => exact Option.Rel.none
    | some p => exact Option.Rel.some (Unit.Agrees.refl _)
  · intro i
    show Option.Rel City.Agrees s.cities[i]? s.cities[i]?
    cases s.cities[i]? with
    | none => exact Option.Rel.none
    | some c => exact Option.Rel.some (City.Agrees.refl c)

theorem moveStep_congr {s t s' : GameState} (h : SameUpToOrder s t) (hs : s.Coherent)
    (ht : t.Coherent) {a : MoveAction} (hstep : moveStep s a = some s') :
    ∃ t', moveStep t a = some t' ∧ SameUpToOrder s' t' := by
  obtain ⟨hv, p, u, tile, hp, htile, hmove, rfl⟩ := moveStep_cases hstep
  rw [MoveAction.validate_congr h.agrees hs ht] at hv
  obtain ⟨p', u', tile', hp', htile', hmove', hex⟩ := MoveAction.execute_of_valid hv
  rw [← h.units_eq] at hp'
  rw [← h.frame.map_eq] at htile'
  obtain rfl := Option.some_inj.1 (hp.symm.trans hp')
  obtain rfl := Except.ok.inj (htile.symm.trans htile')
  obtain rfl := Except.ok.inj (hmove.symm.trans hmove')
  refine ⟨_, moveStep_eq_some.2 ⟨_, hex, rfl⟩, ?_⟩
  have hpt : t.units.get? a.unitIndex = some p := by rw [← h.units_eq]; exact hp
  have hframe : SameFrame (s.relocate a.unitIndex p u) (t.relocate a.unitIndex p u) := by
    refine ⟨?_, h.cities, h.buildings⟩
    rw [← h.rest]
    rfl
  refine hframe.sameUpToOrder (hs.relocate hp u) (ht.relocate hpt u) ?_
  simp only [GameState.relocate, h.units_eq]

/-- The order in the registry does not matter to a sequence of moves. -/
theorem run_moveStep_congr (as : List MoveAction) :
    ∀ {s t s' : GameState}, SameUpToOrder s t → s.Coherent → t.Coherent →
      Runs.run moveStep s as = some s' →
      ∃ t', Runs.run moveStep t as = some t' ∧ SameUpToOrder s' t' := by
  induction as with
  | nil =>
      intro s t s' h _ _ hrun
      obtain rfl := Option.some_inj.1 hrun
      exact ⟨t, rfl, h⟩
  | cons a as ih =>
      intro s t s' h hs ht hrun
      obtain ⟨s₁, hstep, hrun⟩ := Runs.run_cons.1 hrun
      obtain ⟨t₁, hstep', h₁⟩ := moveStep_congr h hs ht hstep
      obtain ⟨r, hex, -⟩ := moveStep_eq_some.1 hstep
      obtain ⟨r', hex', -⟩ := moveStep_eq_some.1 hstep'
      obtain ⟨t', hrun', h'⟩ := ih h₁ (hs.move hex) (ht.move hex') hrun
      exact ⟨t', Runs.run_cons.2 ⟨t₁, hstep', hrun'⟩, h'⟩

/-! ### Moves without checks -/

/-- The unit after a move; what it cannot pay for, or cannot reach, leaves it as it is. -/
def movedUnit (map : Map) (u : Unit) (a : MoveAction) : Unit :=
  match map.tile a.destRow a.destCol with
  | .error _ => u
  | .ok t =>
      match u.moveTo a.destRow a.destCol (getTerrainProperties t.terrain).movementCost with
      | .ok u' => u'
      | .error _ => u

/-- Carries out a move without the checks of `validate`. -/
def forceMove (s : GameState) (a : MoveAction) : GameState :=
  match s.units.get? a.unitIndex with
  | none => s
  | some p => s.relocate a.unitIndex p (movedUnit s.map p.unit a)

/-- Carries out moves in order without the checks of `validate`. -/
def forceMoves (s : GameState) (as : List MoveAction) : GameState := as.foldl forceMove s

/-- A move changes nothing but what is written back. -/
theorem overwrite_movedUnit (map : Map) (u : Unit) (a : MoveAction) (h m r c : ℤ) :
    overwrite (movedUnit map u a) h m r c = overwrite u h m r c := by
  rw [movedUnit]
  split
  · rfl
  · split
    · next hu => exact overwrite_moveTo hu h m r c
    · rfl

theorem overwrite_foldl_movedUnit (map : Map) (as : List MoveAction) (h m r c : ℤ) :
    ∀ u : Unit, overwrite (as.foldl (movedUnit map) u) h m r c = overwrite u h m r c := by
  induction as with
  | nil => intro u; rfl
  | cons a as ih =>
      intro u
      rw [List.foldl_cons, ih, overwrite_movedUnit]

theorem SameFrame.forceMove (s : GameState) (a : MoveAction) : SameFrame s (forceMove s a) := by
  rw [My4X.forceMove]
  split
  · exact SameFrame.refl s
  · exact SameFrame.relocate s _ _ _

theorem SameFrame.forceMoves (as : List MoveAction) :
    ∀ s : GameState, SameFrame s (forceMoves s as) := by
  induction as with
  | nil => intro s; exact SameFrame.refl s
  | cons a as ih => intro s; exact (SameFrame.forceMove s a).trans (ih _)

theorem GameState.Coherent.forceMoves (as : List MoveAction) :
    ∀ {s : GameState}, s.Coherent → (forceMoves s as).Coherent := by
  induction as with
  | nil => intro s h; exact h
  | cons a as ih =>
      intro s h
      refine ih ?_
      rw [forceMove]
      cases hp : s.units.get? a.unitIndex with
      | none => exact h
      | some p => exact h.relocate hp _

theorem forceMove_get? (s : GameState) (a : MoveAction) (i : ℕ) :
    (forceMove s a).units.get? i =
      if a.unitIndex = i then
        (s.units.get? i).map fun p => { p with unit := movedUnit s.map p.unit a }
      else s.units.get? i := by
  rw [forceMove]
  cases hp : s.units.get? a.unitIndex with
  | none =>
      dsimp only
      split
      · next hi => rw [← hi, hp]; rfl
      · rfl
  | some p =>
      dsimp only [GameState.relocate]
      rw [UnitVec.get?_set]
      split
      · next hi => rw [← hi, hp]; rfl
      · rfl

/-- **A unit depends on its own moves alone.** -/
theorem forceMoves_get? (i : ℕ) (as : List MoveAction) :
    ∀ s : GameState, (forceMoves s as).units.get? i =
      (s.units.get? i).map fun p =>
        { p with unit := (as.filter (·.unitIndex = i)).foldl (movedUnit s.map) p.unit } := by
  induction as with
  | nil =>
      intro s
      exact (Option.map_id' ..).symm
  | cons a as ih =>
      intro s
      have hmap : (forceMove s a).map = s.map := (SameFrame.forceMove s a).map_eq.symm
      have hrest : forceMoves s (a :: as) = forceMoves (forceMove s a) as := rfl
      rw [hrest, ih, forceMove_get?, hmap, List.filter_cons]
      by_cases hi : a.unitIndex = i
      · rw [if_pos hi, if_pos (decide_eq_true hi), Option.map_map]
        rfl
      · rw [if_neg hi, if_neg (by simpa using hi)]

/-- An executed move needs no checks. -/
theorem forceMove_of_moveStep {s s' : GameState} {a : MoveAction} (h : moveStep s a = some s') :
    s' = forceMove s a := by
  obtain ⟨-, p, u, t, hp, ht, hu, rfl⟩ := moveStep_cases h
  unfold forceMove movedUnit
  rw [hp]
  dsimp only
  rw [ht]
  dsimp only
  rw [hu]

/-- Executed moves need no checks. -/
theorem forceMoves_of_run (as : List MoveAction) :
    ∀ {s t : GameState}, Runs.run moveStep s as = some t → t = forceMoves s as := by
  induction as with
  | nil =>
      intro s t h
      exact (Option.some_inj.1 h).symm
  | cons a as ih =>
      intro s t h
      obtain ⟨s', hstep, hrun⟩ := Runs.run_cons.1 h
      rw [ih hrun, forceMove_of_moveStep hstep]
      rfl

theorem GameState.Coherent.run_moveStep {s t : GameState} (h : s.Coherent) {as : List MoveAction}
    (hrun : Runs.run moveStep s as = some t) : t.Coherent := by
  rw [forceMoves_of_run as hrun]
  exact h.forceMoves as

/-- Sequences in which every unit makes the same moves lead to the same state. -/
theorem forceMoves_sameUpToOrder {s : GameState} (hs : s.Coherent) {as bs : List MoveAction}
    (h : ∀ i, as.filter (·.unitIndex = i) = bs.filter (·.unitIndex = i)) :
    SameUpToOrder (forceMoves s as) (forceMoves s bs) := by
  have hframe : SameFrame (forceMoves s as) (forceMoves s bs) :=
    (SameFrame.forceMoves as s).symm.trans (SameFrame.forceMoves bs s)
  refine hframe.sameUpToOrder (hs.forceMoves as) (hs.forceMoves bs) ?_
  refine UnitVec.ext_get? fun i => ?_
  rw [forceMoves_get?, forceMoves_get?, h i]

end My4X
