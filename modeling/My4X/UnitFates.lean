/-
**What becomes of a unit in an action.**

An action on units leaves most of them as they are.  A move takes one unit to another tile and lets
it pay for the terrain; an attack changes two units, and one of them may die of it and leave the
list.  This module says for every unit of the list what becomes of it, so that a result about units
is a case analysis over their fates.

Main definitions:

* `My4X.UnitFate` — what can become of a unit that is still there after an action.

Main results:

* `My4X.AttackAction.mem_outcome` — the units after an attack;
* `My4X.GameAction.execute_fates` — **every unit but the casualty meets one of the fates, and no
  other unit is there afterwards**.
-/

import My4X.Interleaving

set_option relaxedAutoImplicit false
set_option autoImplicit false

namespace My4X

/-! ### Fates -/

/-- The indices of the units that an action changes. -/
def GameAction.changedIndices : GameAction → List ℕ
  | move a => [a.unitIndex]
  | attack a => [a.attackerIndex, a.targetIndex]
  | capture _ => []

/-- **What can become of the unit at an index** that is still there after an action. -/
inductive UnitFate (s : GameState) (i : ℕ) (p : OwnedUnit) : GameAction → OwnedUnit → Prop
  /-- It is left as it is. -/
  | rests {action : GameAction}
      (idle : action.Accepted s → i ∉ action.changedIndices) : UnitFate s i p action p
  /-- It moves to another tile and pays for the terrain. -/
  | moves {a : MoveAction} {tile : Tile} {u : Unit} (accepted : (GameAction.move a).Accepted s)
      (actor : i = a.unitIndex) (lookup : s.map.tile a.destRow a.destCol = .ok tile)
      (paid : p.unit.moveTo a.destRow a.destCol (getTerrainProperties tile.terrain).movementCost =
        .ok u) :
      UnitFate s i p (.move a) ⟨p.ref, u⟩
  /-- It attacks. -/
  | strikes {a : AttackAction} {q : OwnedUnit} {combat : CombatResult} {attacker target : Unit}
      (accepted : (GameAction.attack a).Accepted s) (actor : i = a.attackerIndex)
      (round : AttackAction.Round a s p q combat attacker target) :
      UnitFate s i p (.attack a) ⟨p.ref, attacker⟩
  /-- It is attacked. -/
  | isStruck {a : AttackAction} {q : OwnedUnit} {combat : CombatResult} {attacker target : Unit}
      (accepted : (GameAction.attack a).Accepted s) (aimed : i = a.targetIndex)
      (round : AttackAction.Round a s q p combat attacker target) :
      UnitFate s i p (.attack a) ⟨p.ref, target⟩

/-! ### Attacks -/

namespace AttackAction

variable {a : AttackAction} {s : GameState} {p q : OwnedUnit} {combat : CombatResult}
  {attacker target : Unit}

/-- The units after a round, before the dead are removed. -/
theorem fought_get? (h : Checked a s p q) (i : ℕ) :
    (a.fought s attacker target).units.get? i =
      if i = a.attackerIndex then some ⟨p.ref, attacker⟩
      else if i = a.targetIndex then some ⟨q.ref, target⟩ else s.units.get? i := by
  split
  · next hi => rw [hi, fought_get?_attacker h]
  · next hi =>
      split
      · next hi' => rw [hi', fought_get?_target h]
      · next hi' =>
          simp only [fought, GameState.setUnit, UnitVec.get?_set, if_neg (Ne.symm hi),
            if_neg (Ne.symm hi')]

/-- A unit is in a list after a removal when it is at another index. -/
theorem mem_dropUnit {s : GameState} {i : ℕ} {p u : OwnedUnit} :
    u ∈ (s.dropUnit i p).units.list ↔ ∃ j, s.units.get? j = some u ∧ i ≠ j := by
  rw [GameState.dropUnit, UnitVec.erase]
  rw [List.mem_eraseIdx_iff_getElem?]
  exact exists_congr fun j => ⟨fun h => ⟨h.2, Ne.symm h.1⟩, fun h => ⟨Ne.symm h.2, h.1⟩⟩

/-- **The units after an attack**: those after the round, without the casualty. -/
theorem mem_outcome (hvalid : a.validate s = .valid) (h : Round a s p q combat attacker target)
    {u : OwnedUnit} :
    u ∈ (a.outcome s p q attacker target).units.list ↔
      ∃ i, (a.fought s attacker target).units.get? i = some u ∧ a.casualty s ≠ some i := by
  rw [casualty_eq hvalid h, outcome]
  split
  · simp only [mem_dropUnit, ne_eq, Option.some.injEq]
  · split
    · simp only [mem_dropUnit, ne_eq, Option.some.injEq]
    · simp only [ne_eq, reduceCtorEq, not_false_eq_true, and_true]
      exact List.mem_iff_getElem?

/-- The fate of the unit at an index in an attack that is carried out. -/
theorem fate_of_fought (hvalid : a.validate s = .valid)
    (h : Round a s p q combat attacker target) {i : ℕ} {o u : OwnedUnit}
    (ho : s.units.get? i = some o) (hu : (a.fought s attacker target).units.get? i = some u) :
    UnitFate s i o (.attack a) u := by
  rw [fought_get? h.checked] at hu
  split at hu
  · next hi =>
      obtain rfl := Option.some_inj.1 hu
      rw [hi, h.checked.attacker] at ho
      obtain rfl := Option.some_inj.1 ho
      exact .strikes hvalid hi h
  · next hi =>
      split at hu
      · next hi' =>
          obtain rfl := Option.some_inj.1 hu
          rw [hi', h.checked.target] at ho
          obtain rfl := Option.some_inj.1 ho
          exact .isStruck hvalid hi' h
      · next hi' =>
          rw [ho] at hu
          obtain rfl := Option.some_inj.1 hu
          exact .rests fun _ hmem => by
            rcases List.mem_pair.1 hmem with h | h
            · exact hi h
            · exact hi' h

end AttackAction

/-! ### Actions -/

/-- The relation between the units before and after an action: every unit but the casualty meets a
fate, and no other unit is there. -/
structure GameAction.Fates (action : GameAction) (s s' : GameState) : Prop where
  survive : ∀ i p, s.units.get? i = some p → action.casualty s ≠ some i →
    ∃ p' ∈ s'.units.list, UnitFate s i p action p'
  origin : ∀ p' ∈ s'.units.list, ∃ i p, s.units.get? i = some p ∧ action.casualty s ≠ some i ∧
    UnitFate s i p action p'

/-- An action that leaves the units as they are. -/
theorem GameAction.fates_of_same {action : GameAction} {s s' : GameState}
    (hunits : s'.units = s.units) (hcasualty : action.casualty s = none)
    (hidle : action.Accepted s → action.changedIndices = []) : action.Fates s s' where
  survive i p hp _ := by
    refine ⟨p, ?_, .rests fun hacc hmem => ?_⟩
    · rw [hunits]
      exact UnitVec.mem_list_of_get? hp
    · rw [hidle hacc] at hmem
      cases hmem
  origin p hp := by
    rw [hunits] at hp
    obtain ⟨i, hi⟩ := UnitVec.exists_get?_of_mem hp
    refine ⟨i, p, hi, by rw [hcasualty]; simp, .rests fun hacc hmem => ?_⟩
    rw [hidle hacc] at hmem
    cases hmem

/-- An action that kills nobody and keeps the length of the list, and after which the unit at every
index has met a fate. -/
theorem GameAction.fates_of_indexed {action : GameAction} {s s' : GameState}
    (hcasualty : action.casualty s = none) (hsize : s'.units.size = s.units.size)
    (hfate : ∀ i p p', s.units.get? i = some p → s'.units.get? i = some p' →
      UnitFate s i p action p') : action.Fates s s' where
  survive i p hp _ := by
    obtain ⟨p', hp'⟩ := UnitVec.exists_get?_of_lt (hsize ▸ UnitVec.get?_lt hp)
    exact ⟨p', UnitVec.mem_list_of_get? hp', hfate i p p' hp hp'⟩
  origin p' hp' := by
    obtain ⟨i, hi⟩ := UnitVec.exists_get?_of_mem hp'
    obtain ⟨p, hp⟩ := UnitVec.exists_get?_of_lt (hsize ▸ UnitVec.get?_lt hi)
    exact ⟨i, p, hp, by rw [hcasualty]; simp, hfate i p p' hp hi⟩

/-- The fates of the units in a move that is carried out. -/
theorem MoveAction.relocate_fates {a : MoveAction} {s : GameState} {p : OwnedUnit} {u : Unit}
    {tile : Tile} (haccepted : (GameAction.move a).Accepted s)
    (hp : s.units.get? a.unitIndex = some p) (hlookup : s.map.tile a.destRow a.destCol = .ok tile)
    (hu : p.unit.moveTo a.destRow a.destCol (getTerrainProperties tile.terrain).movementCost =
      .ok u) :
    (GameAction.move a).Fates s (s.relocate a.unitIndex p u) := by
  refine GameAction.fates_of_indexed rfl (UnitVec.size_set ..) fun j o o' ho ho' => ?_
  rw [GameState.relocate, UnitVec.get?_set, ho] at ho'
  split at ho'
  · next hj =>
      subst hj
      rw [hp] at ho
      obtain rfl := Option.some_inj.1 ho
      obtain rfl := Option.some_inj.1 ho'
      exact .moves haccepted rfl hlookup hu
  · next hj =>
      obtain rfl := Option.some_inj.1 ho'
      exact .rests fun _ hmem => hj (List.mem_singleton.1 hmem).symm

/-- The fates of the units in an attack that is carried out. -/
theorem AttackAction.outcome_fates {a : AttackAction} {s : GameState} {p q : OwnedUnit}
    {combat : CombatResult} {attacker target : Unit} (hvalid : a.validate s = .valid)
    (hround : AttackAction.Round a s p q combat attacker target) :
    (GameAction.attack a).Fates s (a.outcome s p q attacker target) := by
  have hsize := AttackAction.size_fought a s attacker target
  constructor
  · intro j o ho hj
    obtain ⟨o', ho'⟩ := UnitVec.exists_get?_of_lt (hsize.symm ▸ UnitVec.get?_lt ho)
    exact ⟨o', (AttackAction.mem_outcome hvalid hround).2 ⟨j, ho', hj⟩,
      AttackAction.fate_of_fought hvalid hround ho ho'⟩
  · intro o' ho'
    obtain ⟨j, hj, hcasualty⟩ := (AttackAction.mem_outcome hvalid hround).1 ho'
    obtain ⟨o, ho⟩ := UnitVec.exists_get?_of_lt (hsize ▸ UnitVec.get?_lt hj)
    exact ⟨j, o, ho, hcasualty, AttackAction.fate_of_fought hvalid hround ho hj⟩

/-- **Every unit but the casualty meets one of the fates, and no other unit is there
afterwards.** -/
theorem GameAction.execute_fates {action : GameAction} {s s' : GameState} {executed : Bool}
    (h : action.execute s = .ok (s', executed)) : action.Fates s s' := by
  have hacc := (GameAction.execute_eq_ok h).1
  cases action with
  | move a =>
      obtain ⟨r, hex, hr⟩ := GameAction.execute_move.1 h
      obtain ⟨hv, ⟨hf, hne, rfl⟩ | ⟨ht, hvalid, p, u, t, hp, hlookup, hu, rfl⟩⟩ :=
        MoveAction.execute_cases hex
      · refine GameAction.fates_of_same rfl rfl fun hacc' => ?_
        rw [← hacc, ← hr, hf] at hacc'
        cases hacc'
      · have haccepted : (GameAction.move a).Accepted s := by rw [← hacc, ← hr, ht]
        exact MoveAction.relocate_fates haccepted hp hlookup hu
  | capture a =>
      obtain ⟨r, hex, -⟩ := GameAction.execute_capture.1 h
      obtain ⟨-, ⟨-, -, rfl⟩ | ⟨-, -, p, i, city, -, rfl⟩⟩ := CaptureAction.execute_cases hex
      · exact GameAction.fates_of_same rfl rfl fun _ => rfl
      · exact GameAction.fates_of_same rfl rfl fun _ => rfl
  | attack a =>
      obtain ⟨r, hex, hr⟩ := GameAction.execute_attack.1 h
      obtain ⟨hv, ⟨hf, hne, rfl⟩ | ⟨ht, hvalid, p, q, attacker, target, hround, rfl⟩⟩ :=
        AttackAction.execute_cases hex
      · refine GameAction.fates_of_same rfl ?_ fun hacc' => ?_
        · rw [hv] at hne
          exact if_pos hne
        · rw [← hacc, ← hr, hf] at hacc'
          cases hacc'
      · exact AttackAction.outcome_fates (hv ▸ hvalid) hround

end My4X
