/-
**The movement budget of a turn.**

A unit pays for a move with the cost of the terrain it enters, and for an attack with one point.
Between the ends of two turns nothing gives movement back, so that what a unit has paid is exactly
what it is short of; and as every price is checked before it is paid, no unit ever pays more than it
had.  Accounts are kept by the reference of the unit: the death of another unit changes the indices
of the list.

Main definitions:

* `My4X.GameAction.charge` — the account of what every unit has paid;
* `My4X.GameState.Budget` — the account agrees with the movement of every unit.

Main results:

* `My4X.UnitFate.movement` — what an action takes from a unit;
* `My4X.movement_budget` — **between the ends of two turns the account agrees with the movement of
  every unit, nobody overdraws it, and no move fails**.
-/

import My4X.SessionRuns
import My4X.UnitFates

set_option relaxedAutoImplicit false
set_option autoImplicit false

namespace My4X

/-! ### Prices -/

/-- The price of an action: the cost of the terrain for a move, one for an attack. -/
def GameAction.price (action : GameAction) (s : GameState) : ℤ :=
  match action with
  | move a =>
      match s.map.tile a.destRow a.destCol with
      | .ok tile => (getTerrainProperties tile.terrain).movementCost
      | .error _ => 0
  | attack _ => 1
  | capture _ => 0

/-- Enters an executed action in the account of the unit that acts. -/
def GameAction.charge (action : GameAction) (s : GameState) (spent : UnitRef → ℤ) : UnitRef → ℤ :=
  match action.execute s, s.units.get? action.actorIndex with
  | .ok (_, true), some p => Function.update spent p.ref (spent p.ref + action.price s)
  | _, _ => spent

/-- Enters an effect in the account. -/
def Effect.charge (s : GameState) (spent : UnitRef → ℤ) : Effect → UnitRef → ℤ
  | act action => action.charge s spent
  | _ => spent

/-- What an action takes from the unit at an index. -/
def GameAction.dueOf (action : GameAction) (s : GameState) (i : ℕ) : ℤ :=
  if action.Accepted s ∧ i = action.actorIndex then action.price s else 0

namespace GameAction

/-- The account of a unit after an action. -/
theorem charge_ref {action : GameAction} {s s' : GameState} {executed : Bool} {i : ℕ}
    {p : OwnedUnit} (h : action.execute s = .ok (s', executed)) (hp : s.units.get? i = some p)
    (spent : UnitRef → ℤ) : action.charge s spent p.ref = spent p.ref + action.dueOf s i := by
  have hacc := (execute_eq_ok h).1
  rw [charge, dueOf, h]
  cases executed with
  | false =>
      have hno : ¬ action.Accepted s := fun ha => Bool.false_ne_true (hacc.2 ha)
      rw [if_neg fun hboth => hno hboth.1, Int.add_zero]
  | true =>
      obtain ⟨q, hq⟩ := (hacc.1 rfl).exists_actor
      simp only [hq]
      by_cases hi : i = action.actorIndex
      · subst hi
        rw [hp] at hq
        obtain rfl := Option.some_inj.1 hq
        rw [Function.update_self, if_pos ⟨hacc.1 rfl, rfl⟩]
      · have href : p.ref ≠ q.ref := fun href => hi (UnitVec.index_eq_of_ref_eq hp hq href)
        rw [Function.update_of_ne href, if_neg fun hboth => hi hboth.2, Int.add_zero]

/-- The account of a unit that is not there is not changed. -/
theorem charge_of_absent {action : GameAction} {s : GameState} {r : UnitRef}
    (h : ∀ p ∈ s.units.list, p.ref ≠ r) (spent : UnitRef → ℤ) :
    action.charge s spent r = spent r := by
  rw [charge.eq_def]
  cases hex : action.execute s with
  | error e => rfl
  | ok out =>
      obtain ⟨s', executed⟩ := out
      cases executed with
      | false => rfl
      | true =>
          cases hp : s.units.get? action.actorIndex with
          | none => rfl
          | some p =>
              exact Function.update_of_ne (Ne.symm (h p (UnitVec.mem_list_of_get? hp))) _ _

/-- **What an action takes from a unit it has.** -/
theorem dueOf_le (action : GameAction) {s : GameState} {i : ℕ} {p : OwnedUnit}
    (hp : s.units.get? i = some p) :
    0 ≤ action.dueOf s i ∧ (action.dueOf s i ≠ 0 →
      action.dueOf s i ≤ p.unit.movementRemaining) := by
  rw [dueOf]
  split
  · next hdue =>
      obtain ⟨hacc, rfl⟩ := hdue
      cases action with
      | move a =>
          obtain ⟨q, t, hq, -, ht, hpass, hcost, -⟩ := MoveAction.validate_eq_valid hacc
          rw [actorIndex] at hp
          rw [hp] at hq
          obtain rfl := Option.some_inj.1 hq
          simp only [price, ht]
          exact ⟨(movementCost_pos hpass).le, fun _ => hcost⟩
      | attack a =>
          obtain ⟨q, q', hcheck⟩ := AttackAction.validate_eq_valid hacc
          rw [actorIndex] at hp
          rw [hcheck.attacker] at hp
          obtain rfl := Option.some_inj.1 hp
          exact ⟨Int.one_nonneg, fun _ => hcheck.movement⟩
      | capture a => exact ⟨le_refl 0, fun hne => absurd rfl hne⟩
  · exact ⟨le_refl 0, fun hne => absurd rfl hne⟩

end GameAction

/-- **What an action takes from a unit is what it has to pay**, and its template is the same. -/
theorem UnitFate.movement {s : GameState} {i : ℕ} {p p' : OwnedUnit} {action : GameAction}
    (h : UnitFate s i p action p') :
    p'.ref = p.ref ∧ p'.unit.template = p.unit.template ∧
      p'.unit.movementRemaining = p.unit.movementRemaining - action.dueOf s i := by
  cases h with
  | rests idle =>
      refine ⟨rfl, rfl, ?_⟩
      have hnothing : action.dueOf s i = 0 := by
        rw [GameAction.dueOf]
        split
        · next hdue =>
            have hidle := idle hdue.1
            rw [hdue.2] at hidle
            cases action with
            | move a => exact absurd List.mem_cons_self hidle
            | attack a => exact absurd List.mem_cons_self hidle
            | capture a => rfl
        · rfl
      rw [hnothing, Int.sub_zero]
  | @moves a tile u accepted actor lookup paid =>
      obtain ⟨-, -, -, -, hmovement, -, -, htemplate, -⟩ := Unit.moveTo_eq_ok paid
      refine ⟨rfl, htemplate, ?_⟩
      rw [GameAction.dueOf, if_pos ⟨accepted, actor⟩]
      simp only [GameAction.price, lookup]
      exact hmovement
  | strikes accepted actor round =>
      refine ⟨rfl, round.same_attacker.template, ?_⟩
      rw [GameAction.dueOf, if_pos ⟨accepted, actor⟩]
      exact round.attacker_pays
  | @isStruck a q combat attacker target accepted aimed round =>
      have hother : ¬ i = (GameAction.attack a).actorIndex := by
        rw [aimed]
        exact fun heq => round.checked.index_ne heq.symm
      refine ⟨rfl, round.same_target.template, ?_⟩
      rw [GameAction.dueOf, if_neg fun hboth => hother hboth.2, Int.sub_zero]
      exact round.target_keeps

/-! ### Accounts -/

/-- The movement lies between zero and the movement range. -/
def Unit.MovementInRange (u : Unit) : Prop :=
  0 ≤ u.movementRemaining ∧ u.movementRemaining ≤ u.template.movementRange

/-- **The account agrees with the movement of every unit since an earlier state**: nobody has spent
more than it had there. -/
structure GameState.Budget (start : GameState) (s : GameState) (spent : UnitRef → ℤ) : Prop where
  agrees : ∀ p' ∈ s.units.list, ∃ p ∈ start.units.list, p.ref = p'.ref ∧
    p'.unit.template = p.unit.template ∧
    spent p'.ref = p.unit.movementRemaining - p'.unit.movementRemaining
  within : ∀ p ∈ start.units.list, 0 ≤ spent p.ref ∧ spent p.ref ≤ max 0 p.unit.movementRemaining

namespace GameState

/-- The account at the start. -/
theorem budget_start (start : GameState) : Budget start start fun _ => 0 where
  agrees p hp := ⟨p, hp, rfl, rfl, (Int.sub_self _).symm⟩
  within _ _ := ⟨le_refl 0, le_max_left _ _⟩

theorem Budget.of_units {start s s' : GameState} {spent : UnitRef → ℤ} (h : Budget start s spent)
    (hunits : s'.units = s.units) : Budget start s' spent where
  agrees := hunits ▸ h.agrees
  within := h.within

/-- An action keeps the accounts. -/
theorem Budget.execute {start s s' : GameState} {spent : UnitRef → ℤ} {action : GameAction}
    {executed : Bool} (h : Budget start s spent) (hex : action.execute s = .ok (s', executed)) :
    Budget start s' (action.charge s spent) where
  agrees p'' hp'' := by
    obtain ⟨i, p', hp', -, hfate⟩ := (GameAction.execute_fates hex).origin p'' hp''
    obtain ⟨href, htemplate, hmovement⟩ := hfate.movement
    obtain ⟨p, hp, href', htemplate', hspent⟩ := h.agrees p' (UnitVec.mem_list_of_get? hp')
    refine ⟨p, hp, href'.trans href.symm, htemplate.trans htemplate', ?_⟩
    rw [href, GameAction.charge_ref hex hp', hspent, hmovement]
    omega
  within p hp := by
    obtain ⟨hnonneg, hle⟩ := h.within p hp
    by_cases hthere : ∀ p' ∈ s.units.list, p'.ref ≠ p.ref
    · rw [GameAction.charge_of_absent hthere]
      exact ⟨hnonneg, hle⟩
    · push Not at hthere
      obtain ⟨p', hp', href⟩ := hthere
      obtain ⟨q, hq, href', -, hspent⟩ := h.agrees p' hp'
      obtain rfl := UnitVec.eq_of_ref_eq hq hp (href'.trans href)
      obtain ⟨i, hi⟩ := UnitVec.exists_get?_of_mem hp'
      obtain ⟨hdue, hafford⟩ := GameAction.dueOf_le action hi
      rw [← href, GameAction.charge_ref hex hi]
      rw [← href] at hnonneg hle
      refine ⟨by omega, ?_⟩
      by_cases hfree : action.dueOf s i = 0
      · rw [hfree, Int.add_zero]
        exact hle
      · have := hafford hfree
        omega

/-- An effect that is not the end of a turn keeps the accounts. -/
theorem Budget.apply {start s s' : GameState} {spent : UnitRef → ℤ} {effect : Effect}
    (h : Budget start s spent) (hturn : ∀ unitRegistry, effect ≠ .turn unitRegistry)
    (happly : effect.apply s = some s') : Budget start s' (effect.charge s spent) := by
  cases effect with
  | nothing =>
      obtain rfl := Option.some_inj.1 happly
      exact h
  | act action =>
      rw [Effect.apply] at happly
      cases hex : action.execute s with
      | error e => simp [hex] at happly
      | ok out =>
          obtain ⟨s₁, executed⟩ := out
          rw [hex] at happly
          obtain rfl := Option.some_inj.1 happly
          exact h.execute hex
  | order i item =>
      obtain rfl := Option.some_inj.1 happly
      refine h.of_units ?_
      rcases GameState.order_eq s i item with hsame | ⟨city, -, hset⟩
      · rw [hsame]
      · rw [hset]
        rfl
  | turn unitRegistry => exact absurd rfl (hturn unitRegistry)

end GameState

/-- An effect with the account. -/
abbrev chargedStep : GameState × (UnitRef → ℤ) → Effect → Option (GameState × (UnitRef → ℤ)) :=
  Runs.recorded (fun s effect => Effect.apply s effect) fun s spent effect => effect.charge s spent

/-- **The movement budget**: after any actions between the ends of two turns, what a unit has paid
for its moves and attacks is what it is short of since the start; it has not paid more than it had,
its movement has stayed within its range, and a move that is valid meets the assertions on its cost
and is carried out. -/
theorem movement_budget (start s : GameState) (spent : UnitRef → ℤ) (effects : List Effect)
    (hperiod : ∀ effect ∈ effects, ∀ unitRegistry, effect ≠ .turn unitRegistry)
    (hrun : Runs.run chargedStep (start, fun _ => 0) effects = some (s, spent)) :
    (∀ p' ∈ s.units.list, ∃ p ∈ start.units.list, p.ref = p'.ref ∧
        spent p'.ref = p.unit.movementRemaining - p'.unit.movementRemaining ∧
        (p.unit.MovementInRange → p'.unit.MovementInRange)) ∧
      (∀ p ∈ start.units.list, spent p.ref ≤ max 0 p.unit.movementRemaining) ∧
      ∀ a : MoveAction, a.validate s = .ok .valid →
        (∃ p t, s.units.get? a.unitIndex = some p ∧ s.map.tile a.destRow a.destCol = .ok t ∧
          0 < (getTerrainProperties t.terrain).movementCost ∧
          (getTerrainProperties t.terrain).movementCost ≤ p.unit.movementRemaining) ∧
        ∃ s' r, a.execute s = .ok (s', r) := by
  have hbudget : GameState.Budget start s spent :=
    Runs.run_invariant (I := fun x => GameState.Budget start x.1 x.2)
      (fun x effect y h hturn hstep => by
        obtain ⟨happly, hcharge⟩ := (Runs.recorded_eq_some _ _).1 hstep
        rw [hcharge]
        exact h.apply hturn happly)
      effects (start, fun _ => 0) (s, spent) (GameState.budget_start start)
      (Runs.along_of_mem effects _ hperiod) hrun
  refine ⟨fun p' hp' => ?_, fun p hp => (hbudget.within p hp).2, fun a hvalid => ⟨?_, ?_⟩⟩
  · obtain ⟨p, hp, href, htemplate, hspent⟩ := hbudget.agrees p' hp'
    refine ⟨p, hp, href, hspent, fun hrange => ?_⟩
    obtain ⟨hlow, hhigh⟩ := hrange
    have hge := p'.unit.movement_ge
    have hle := p'.unit.movement_le
    rw [Unit.MovementInRange]
    rw [htemplate] at hge hle ⊢
    omega
  · obtain ⟨p, t, hp, -, ht, hpass, hcost, -⟩ := MoveAction.validate_eq_valid hvalid
    exact ⟨p, t, hp, ht, movementCost_pos hpass, hcost⟩
  · obtain ⟨p, u, t, -, -, -, hex⟩ := MoveAction.execute_of_valid hvalid
    exact ⟨_, _, hex⟩

/-- A warrior that moves twice. -/
theorem warrior_budget :
    ∃ s spent,
      Runs.run chargedStep ((plainField.addUnit (Unit.create 1 1 warriorTemplate 1)).1, fun _ => 0)
        [.act (.move { unitIndex := 0, destRow := 1, destCol := 0 }),
          .act (.move { unitIndex := 0, destRow := 1, destCol := 1 })] = some (s, spent) ∧
      (∀ p' ∈ s.units.list, spent p'.ref = 2) ∧
      ∀ p ∈ (plainField.addUnit (Unit.create 1 1 warriorTemplate 1)).1.units.list,
        spent p.ref ≤ max 0 p.unit.movementRemaining := by
  have hrun : ∃ s spent,
      Runs.run chargedStep ((plainField.addUnit (Unit.create 1 1 warriorTemplate 1)).1, fun _ => 0)
        [.act (.move { unitIndex := 0, destRow := 1, destCol := 0 }),
          .act (.move { unitIndex := 0, destRow := 1, destCol := 1 })] = some (s, spent) ∧
      ∀ p' ∈ s.units.list, spent p'.ref = 2 := ⟨_, _, rfl, by decide⟩
  obtain ⟨s, spent, hrun, htwo⟩ := hrun
  exact ⟨s, spent, hrun, htwo, (movement_budget _ s spent _ (by simp) hrun).2.1⟩

end My4X
