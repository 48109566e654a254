/-
**What every history of a unit keeps.**

A unit is changed by its setters only: by moves, by damage, by awards of experience, and by the
setters that loading a game and rolling back a prediction use.  Whatever their order, health and
movement stay in their intervals and the level is the number of thresholds that the experience has
passed.  An award may be split: the parts, given one after the other, do the same as the whole.

Main definitions:

* `My4X.recomputeLevel` — the loop over the thresholds;
* `My4X.UnitOp`, `My4X.UnitOp.apply` — what is done to a unit;
* `My4X.Unit.InOrder` — the bounds of a unit of a template.

Main results:

* `My4X.recomputeLevel_eq`, `My4X.levelOf_eq_countP` — **the level counts the thresholds passed**;
* `My4X.Unit.run_template` — a history leaves the template as it is;
* `My4X.Unit.foldl_addExperience` — **an award may be split**;
* `My4X.Unit.run_inOrder` — **every history keeps a unit in order**.
-/

import My4X.Lib.Runs
import My4X.Unit
import Mathlib.Algebra.Order.BigOperators.Group.List
import Mathlib.Algebra.Order.Group.Int
import Mathlib.Algebra.Ring.Int.Defs

set_option relaxedAutoImplicit false
set_option autoImplicit false

namespace My4X

/-! ### Levels -/

/-- The loop over the thresholds from a position on: the level is that of the last threshold passed,
and the first one that is not reached ends the loop. -/
def recomputeLevelFrom (experience : ℤ) : List ℤ → ℤ → ℤ → ℤ
  | [], _, newLevel => newLevel
  | threshold :: thresholds, i, newLevel =>
      if threshold ≤ experience then recomputeLevelFrom experience thresholds (i + 1) (i + 1)
      else newLevel

/-- The level that is recomputed for an experience. -/
def recomputeLevel (experience : ℤ) : ℤ :=
  min (recomputeLevelFrom experience xpThresholds 0 0) maxUnitLevel

/-- The loop counts the thresholds up to the first one that is not reached. -/
theorem recomputeLevelFrom_eq (experience : ℤ) (thresholds : List ℤ) :
    ∀ i, recomputeLevelFrom experience thresholds i i =
      i + (thresholds.takeWhile (· ≤ experience)).length := by
  induction thresholds with
  | nil => intro i; exact (Int.add_zero i).symm
  | cons threshold thresholds ih =>
      intro i
      rw [recomputeLevelFrom, List.takeWhile_cons]
      by_cases hpassed : threshold ≤ experience
      · rw [if_pos hpassed, if_pos (decide_eq_true hpassed), ih, List.length_cons]
        omega
      · rw [if_neg hpassed, if_neg (by simpa using hpassed)]
        exact (Int.add_zero i).symm

/-- **The loop computes the level.** -/
theorem recomputeLevel_eq (experience : ℤ) : recomputeLevel experience = levelOf experience := by
  rw [recomputeLevel, recomputeLevelFrom_eq, Int.zero_add, levelOf]

/-- Of thresholds in order those that are passed come first. -/
theorem length_takeWhile_passed {thresholds : List ℤ} (hsorted : thresholds.Pairwise (· ≤ ·))
    (experience : ℤ) :
    (thresholds.takeWhile (· ≤ experience)).length = thresholds.countP (· ≤ experience) := by
  induction thresholds with
  | nil => rfl
  | cons threshold thresholds ih =>
      obtain ⟨hfirst, hrest⟩ := List.pairwise_cons.1 hsorted
      rw [List.takeWhile_cons, List.countP_cons]
      by_cases hpassed : threshold ≤ experience
      · rw [if_pos (decide_eq_true hpassed), if_pos (decide_eq_true hpassed), List.length_cons,
          ih hrest]
      · have hnone : thresholds.countP (· ≤ experience) = 0 := by
          refine List.countP_eq_zero.2 fun later hlater => ?_
          have hle := hfirst later hlater
          simp only [decide_eq_true_eq]
          omega
        rw [if_neg (by simpa using hpassed), if_neg (by simpa using hpassed), hnone]
        rfl

/-- **The level is the number of thresholds that are not above the experience.** -/
theorem levelOf_eq_countP (experience : ℤ) :
    levelOf experience = xpThresholds.countP (· ≤ experience) := by
  have hle : xpThresholds.countP (· ≤ experience) ≤ 5 := List.countP_le_length
  rw [levelOf, length_takeWhile_passed (by decide), maxUnitLevel]
  omega

/-- More experience does not lower the level. -/
theorem levelOf_mono {x y : ℤ} (h : x ≤ y) : levelOf x ≤ levelOf y := by
  rw [levelOf_eq_countP, levelOf_eq_countP, Int.ofNat_le]
  refine List.countP_mono_left fun threshold _ hpassed => ?_
  exact decide_eq_true (le_trans (of_decide_eq_true hpassed) h)

/-! ### Awards -/

namespace Unit

/-- What a positive award does. -/
theorem addExperience_of_pos (u : Unit) {xp : ℤ} (h : 0 < xp) :
    (u.addExperience xp).1.experience = u.experience + xp ∧
      (u.addExperience xp).1.level = levelOf (u.experience + xp) ∧
      (u.addExperience xp).2 = decide (u.level < levelOf (u.experience + xp)) := by
  rw [addExperience, dif_neg (not_le.2 h)]
  exact ⟨rfl, rfl, rfl⟩

/-- **An award reports that the level rose exactly when it did.** -/
theorem addExperience_iff (u : Unit) (xp : ℤ) :
    (u.addExperience xp).2 = true ↔ u.level < (u.addExperience xp).1.level := by
  rcases le_or_gt xp 0 with hle | hpos
  · rw [addExperience, dif_pos hle]
    simp
  · obtain ⟨-, hlevel, hreport⟩ := u.addExperience_of_pos hpos
    rw [hreport, hlevel, decide_eq_true_iff]

/-- **Two awards do the same as one.** -/
theorem addExperience_addExperience (u : Unit) {x y : ℤ} (hx : 0 < x) (hy : 0 < y) :
    ((u.addExperience x).1.addExperience y).1 = (u.addExperience (x + y)).1 ∧
      ((u.addExperience x).2 || ((u.addExperience x).1.addExperience y).2) =
        (u.addExperience (x + y)).2 := by
  have hfirst : u.level ≤ levelOf (u.experience + x) := by
    rw [u.experience_level.2]
    exact levelOf_mono (by omega)
  have hsecond : levelOf (u.experience + x) ≤ levelOf (u.experience + (x + y)) :=
    levelOf_mono (by omega)
  -- the level rises on the whole when it rises in one of the two parts
  have hrises : (decide (u.level < levelOf (u.experience + x)) ||
      decide (levelOf (u.experience + x) < levelOf (u.experience + (x + y)))) =
      decide (u.level < levelOf (u.experience + (x + y))) := by
    rw [← Bool.decide_or, decide_eq_decide]
    omega
  have hsum : u.experience + x + y = u.experience + (x + y) := Int.add_assoc _ _ _
  rw [addExperience, addExperience, addExperience, dif_neg (not_le.2 hx), dif_neg (not_le.2 hy),
    dif_neg (not_le.2 (Int.add_pos hx hy))]
  dsimp only
  simp only [hsum, ← hrises, Unit.mk.injEq, true_and, and_true]
  rw [Bool.or_left_comm, Bool.or_assoc]

/-- **An award may be split** into positive parts. -/
theorem foldl_addExperience (awards : List ℤ) :
    ∀ u : Unit, (∀ xp ∈ awards, 0 < xp) →
      awards.foldl (fun u xp => (u.addExperience xp).1) u = (u.addExperience awards.sum).1 := by
  induction awards with
  | nil => intro u _; rw [List.foldl_nil, List.sum_nil, addExperience, dif_pos (le_refl 0)]
  | cons x awards ih =>
      intro u hpos
      have hx := hpos x List.mem_cons_self
      have hrest : ∀ xp ∈ awards, 0 < xp := fun xp hxp => hpos xp (List.mem_cons_of_mem x hxp)
      rw [List.foldl_cons, ih _ hrest, List.sum_cons]
      rcases eq_or_lt_of_le (List.sum_nonneg fun xp hxp => (hrest xp hxp).le) with hzero | hsum
      · rw [← hzero, Int.add_zero, addExperience, dif_pos (le_refl 0)]
      · exact (u.addExperience_addExperience hx hsum).1

end Unit

/-! ### Histories -/

/-- **What is done to a unit.** -/
inductive UnitOp
  | moveTo (row col cost : ℤ)
  | setPosition (row col : ℤ)
  | takeDamage (amount : ℤ)
  | setHealth (health : ℤ)
  | setMovementRemaining (remaining : ℤ)
  | resetMovement
  | addExperience (xp : ℤ)
  | setExperience (xp : ℤ)
  | clearLevelUpFlag

/-- The unit after an operation, unless an assertion fails. -/
def UnitOp.apply (u : Unit) : UnitOp → Except Fault Unit
  | .moveTo row col cost => u.moveTo row col cost
  | .setPosition row col => .ok (u.setPosition row col)
  | .takeDamage amount => u.takeDamage amount
  | .setHealth health => .ok (u.setHealth health)
  | .setMovementRemaining remaining => .ok (u.setMovementRemaining remaining)
  | .resetMovement => .ok u.resetMovement
  | .addExperience xp => .ok (u.addExperience xp).1
  | .setExperience xp => .ok (u.setExperience xp)
  | .clearLevelUpFlag => .ok u.clearLevelUpFlag

/-- The operation is within the assertions: a move costs something that the unit has left, and
damage is not negative. -/
def UnitOp.Asserted (u : Unit) : UnitOp → Prop
  | .moveTo _ _ cost => 0 < cost ∧ cost ≤ u.movementRemaining
  | .takeDamage amount => 0 ≤ amount
  | _ => True

namespace Unit

/-- One operation; a history ends where an assertion fails. -/
def step (u : Unit) (op : UnitOp) : Option Unit := (op.apply u).toOption

/-- No operation changes the template of a unit. -/
theorem step_template {u v : Unit} {op : UnitOp} (h : u.step op = some v) :
    v.template = u.template := by
  cases op with
  | moveTo row col cost =>
      rw [step, UnitOp.apply, moveTo] at h
      split at h
      · obtain rfl := Option.some_inj.1 h
        rfl
      · cases h
  | takeDamage amount =>
      rw [step, UnitOp.apply, takeDamage] at h
      split at h
      · obtain rfl := Option.some_inj.1 h
        rfl
      · cases h
  | addExperience xp =>
      obtain rfl := Option.some_inj.1 h
      rw [addExperience]
      split
      · rfl
      · rfl
  | setPosition row col => obtain rfl := Option.some_inj.1 h; rfl
  | setHealth health => obtain rfl := Option.some_inj.1 h; rfl
  | setMovementRemaining remaining => obtain rfl := Option.some_inj.1 h; rfl
  | resetMovement => obtain rfl := Option.some_inj.1 h; rfl
  | setExperience xp => obtain rfl := Option.some_inj.1 h; rfl
  | clearLevelUpFlag => obtain rfl := Option.some_inj.1 h; rfl

/-- **A history leaves the template as it is.** -/
theorem run_template {u v : Unit} {ops : List UnitOp} (h : Runs.run step u ops = some v) :
    v.template = u.template := by
  refine Runs.run_invariant (I := fun w => w.template = u.template) (P := fun _ _ => True)
    (fun w op w' hw _ hstep => (step_template hstep).trans hw) ops u v rfl ?_ h
  exact Runs.along_of_forall (fun _ _ => trivial) ops u

/-- An operation within the assertions does not fail. -/
theorem exists_step {u : Unit} {op : UnitOp} (h : op.Asserted u) : ∃ v, u.step op = some v := by
  cases op with
  | moveTo row col cost =>
      have haffords : 0 < cost ∧ cost ≤ u.movementRemaining := h
      rw [step, UnitOp.apply, moveTo, dif_pos haffords]
      exact ⟨_, rfl⟩
  | takeDamage amount =>
      have hamount : 0 ≤ amount := h
      rw [step, UnitOp.apply, takeDamage, dif_pos hamount]
      exact ⟨_, rfl⟩
  | setPosition row col => exact ⟨_, rfl⟩
  | setHealth health => exact ⟨_, rfl⟩
  | setMovementRemaining remaining => exact ⟨_, rfl⟩
  | resetMovement => exact ⟨_, rfl⟩
  | addExperience xp => exact ⟨_, rfl⟩
  | setExperience xp => exact ⟨_, rfl⟩
  | clearLevelUpFlag => exact ⟨_, rfl⟩

/-- **A unit of a template is in order**: health and movement are in their intervals, and the level
is the number of thresholds that are not above the experience. -/
structure InOrder (tmpl : UnitTemplate) (u : Unit) : Prop where
  health : 0 ≤ u.health ∧ u.health ≤ tmpl.maxHealth
  movement : 0 ≤ u.movementRemaining ∧ u.movementRemaining ≤ tmpl.movementRange
  experience : 0 ≤ u.experience
  level : u.level = xpThresholds.countP (· ≤ u.experience)

/-- Every unit of a template with health and movement is in order. -/
theorem inOrder_of_template {tmpl : UnitTemplate} {u : Unit} (htmpl : u.template = tmpl)
    (hhealth : 0 < tmpl.maxHealth) (hmovement : 0 < tmpl.movementRange) : u.InOrder tmpl := by
  subst htmpl
  have hle := u.health_le
  have hge := u.health_ge
  have hmle := u.movement_le
  have hmge := u.movement_ge
  exact ⟨⟨by omega, by omega⟩, ⟨by omega, by omega⟩, u.experience_level.1,
    u.experience_level.2.trans (levelOf_eq_countP u.experience)⟩

/-- **Every history keeps a unit in order.**  A history within the assertions, of a unit that was
built from a template with health and movement, comes to its end with health and movement in their
intervals, and with the level that counts the thresholds passed.  There an award reports exactly
whether the level rose, and an award in positive parts does the same as one. -/
theorem run_inOrder {tmpl : UnitTemplate} (hhealth : 0 < tmpl.maxHealth)
    (hmovement : 0 < tmpl.movementRange) (row col : ℤ) (factionId : FactionId) (ops : List UnitOp)
    (hops : Runs.Along step (fun u op => op.Asserted u) (create row col tmpl factionId) ops) :
    ∃ u, Runs.run step (create row col tmpl factionId) ops = some u ∧ u.InOrder tmpl ∧
      (∀ xp, (u.addExperience xp).2 = true ↔ u.level < (u.addExperience xp).1.level) ∧
      ∀ awards : List ℤ, (∀ xp ∈ awards, 0 < xp) →
        awards.foldl (fun u xp => (u.addExperience xp).1) u = (u.addExperience awards.sum).1 := by
  obtain ⟨u, hrun⟩ := Runs.exists_run (fun _ _ h => exists_step h) ops _ hops
  exact ⟨u, hrun, inOrder_of_template (run_template hrun) hhealth hmovement, u.addExperience_iff,
    fun awards hawards => foldl_addExperience awards u hawards⟩

/-- A warrior is struck down, rises two levels, moves and is healed. -/
theorem warrior_run_inOrder :
    ∃ u, Runs.run step (create 0 0 warriorTemplate 1)
        [.takeDamage 120, .addExperience 260, .moveTo 0 1 2, .setHealth 500] = some u ∧
      u.InOrder warriorTemplate ∧
      (∀ xp, (u.addExperience xp).2 = true ↔ u.level < (u.addExperience xp).1.level) ∧
      ∀ awards : List ℤ, (∀ xp ∈ awards, 0 < xp) →
        awards.foldl (fun u xp => (u.addExperience xp).1) u = (u.addExperience awards.sum).1 := by
  refine run_inOrder (by decide) (by decide) 0 0 1 _ ⟨show (0 : ℤ) ≤ 120 by decide, ?_⟩
  rintro u₁ h₁
  obtain rfl := Option.some_inj.1 h₁
  refine ⟨trivial, ?_⟩
  rintro u₂ h₂
  obtain rfl := Option.some_inj.1 h₂
  refine ⟨show (0 : ℤ) < 2 ∧ (2 : ℤ) ≤ 2 by decide, ?_⟩
  rintro u₃ h₃
  exact ⟨trivial, fun _ _ => trivial⟩

end Unit

end My4X
