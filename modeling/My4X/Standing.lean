/-
**Where units stand.**

Attacks, captures and production orders let no unit appear and move none: every unit they leave is
one that was there before, at the same place and of the same faction, and alive before if it is
alive now.  A move changes the place of one unit; the turn of a city adds one unit at most.

Main definitions:

* `My4X.GameState.Descends` — every unit is one of another state.

Main results:

* `My4X.AttackAction.outcome_descends`, `My4X.GameState.descends_closeTurn` — an attack and the
  close of a turn;
* `My4X.GameAction.execute_stands` — **an executed action moves one unit, or none**.
-/

import My4X.CityTurns
import My4X.Session

set_option relaxedAutoImplicit false
set_option autoImplicit false

namespace My4X

/-! ### Lists of units -/

namespace UnitVec

/-- The changed entry is in the list. -/
theorem mem_set_self {v : UnitVec} {i : ℕ} {p : OwnedUnit} (hp : v.get? i = some p) (u : Unit) :
    (⟨p.ref, u⟩ : OwnedUnit) ∈ (v.set i u).list := by
  refine mem_list_of_get? (i := i) ?_
  rw [get?_set, if_pos rfl, hp]
  rfl

/-- So are the other ones. -/
theorem mem_set_of_ne {v : UnitVec} {i : ℕ} {p q : OwnedUnit} (hp : v.get? i = some p)
    (hq : q ∈ v.list) (hne : q.ref ≠ p.ref) (u : Unit) : q ∈ (v.set i u).list := by
  obtain ⟨j, hj⟩ := exists_get?_of_mem hq
  refine mem_list_of_get? (i := j) ?_
  rw [get?_set]
  split
  · next hij =>
      subst hij
      rw [hp] at hj
      exact absurd (congrArg OwnedUnit.ref (Option.some_inj.1 hj)) (Ne.symm hne)
  · exact hj

theorem mem_push {v : UnitVec} {u : Unit} {p : OwnedUnit} :
    p ∈ (v.push u).list ↔ p ∈ v.list ∨ p = ⟨v.freshRef, u⟩ := by
  rw [push, List.mem_append, List.mem_singleton]

end UnitVec

/-! ### The units of another state -/

/-- Every unit is one of another state: the same soldier, which was alive there if it is alive
here. -/
def GameState.Descends (s s' : GameState) : Prop :=
  ∀ p' ∈ s'.units.list, ∃ p ∈ s.units.list, p.ref = p'.ref ∧ SameSoldier p.unit p'.unit ∧
    (p'.unit.isAlive = true → p.unit.isAlive = true)

namespace GameState

theorem Descends.trans {s s' s'' : GameState} (h : Descends s s') (h' : Descends s' s'') :
    Descends s s'' := by
  intro p'' hp''
  obtain ⟨p', hp', href', hsame', halive'⟩ := h' p'' hp''
  obtain ⟨p, hp, href, hsame, halive⟩ := h p' hp'
  exact ⟨p, hp, href.trans href', hsame.trans hsame', fun hal => halive (halive' hal)⟩

theorem SameUnits.descends {s s' : GameState} (h : SameUnits s s') : Descends s s' := by
  intro p hp
  rw [h.units] at hp
  exact ⟨p, hp, rfl, SameSoldier.refl _, id⟩

/-- A change of one unit that leaves it in its place. -/
theorem descends_setUnit {s : GameState} {i : ℕ} {p : OwnedUnit} {u : Unit}
    (hp : s.units.get? i = some p) (hsame : SameSoldier p.unit u)
    (halive : u.isAlive = true → p.unit.isAlive = true) : Descends s (s.setUnit i u) := by
  intro q hq
  rcases UnitVec.mem_set hp hq with rfl | ⟨hq, -⟩
  · exact ⟨p, UnitVec.mem_list_of_get? hp, rfl, hsame, halive⟩
  · exact ⟨q, hq, rfl, SameSoldier.refl _, id⟩

theorem descends_dropUnit (s : GameState) (i : ℕ) (p : OwnedUnit) :
    Descends s (s.dropUnit i p) := by
  intro q hq
  exact ⟨q, UnitVec.mem_of_mem_erase hq, rfl, SameSoldier.refl _, id⟩

/-- The units after the close of a turn. -/
theorem mem_closeTurn {s : GameState} {p : OwnedUnit} :
    p ∈ s.closeTurn.units.list ↔
      ∃ q ∈ s.units.list, p = { q with unit := q.unit.resetMovement } := by
  have hlist : s.closeTurn.units.list =
      s.units.list.map fun q => { q with unit := q.unit.resetMovement } := rfl
  rw [hlist, List.mem_map]
  exact exists_congr fun q => and_congr_right fun _ => eq_comm

theorem descends_closeTurn (s : GameState) : Descends s s.closeTurn := by
  intro p hp
  obtain ⟨q, hq, rfl⟩ := mem_closeTurn.1 hp
  exact ⟨q, hq, rfl, ⟨rfl, rfl, rfl, rfl⟩, id⟩

end GameState

/-! ### The actions -/

open GameState

/-- **An attack lets no unit appear and moves none.** -/
theorem AttackAction.outcome_descends {a : AttackAction} {s : GameState} {p q : OwnedUnit}
    {combat : CombatResult} {attacker target : Unit}
    (h : Round a s p q combat attacker target) : Descends s (a.outcome s p q attacker target) := by
  have hp := h.checked.attacker
  have hfought : Descends s (a.fought s attacker target) := by
    refine (descends_setUnit h.checked.target h.same_target fun _ => h.checked.target_alive).trans
      (descends_setUnit (p := p) ?_ h.same_attacker fun _ => h.checked.attacker_alive)
    simp only [GameState.setUnit, UnitVec.get?_set, if_neg h.checked.index_ne.symm, hp]
  rw [AttackAction.outcome]
  split
  · exact hfought.trans (descends_dropUnit _ _ _)
  · split
    · exact hfought.trans (descends_dropUnit _ _ _)
    · exact hfought

/-- **An executed action moves one unit, or none.** -/
theorem GameAction.execute_stands {action : GameAction} {s s' : GameState} {executed : Bool}
    (h : action.execute s = .ok (s', executed)) :
    (Descends s s' ∧ ∀ a, action = .move a → a.validate s ≠ .ok .valid) ∨
      ∃ a p u, action = .move a ∧ a.validate s = .ok .valid ∧
        s.units.get? a.unitIndex = some p ∧ u.coord = ⟨a.destRow, a.destCol⟩ ∧
        u.factionId = p.unit.factionId ∧ u.isAlive = true ∧
        InBounds a.destRow a.destCol s.map.height s.map.width ∧
        s' = s.relocate a.unitIndex p u := by
  cases action with
  | move a =>
      obtain ⟨r, hex, -⟩ := GameAction.execute_move.1 h
      obtain ⟨hv, ⟨-, hne, rfl⟩ | ⟨-, hvalid, p, u, t, hp, ht, hu, rfl⟩⟩ :=
        MoveAction.execute_cases hex
      · refine Or.inl ⟨(SameUnits.refl _).descends, ?_⟩
        rintro _ ⟨⟩ hvalid
        rw [hv] at hvalid
        exact hne (Except.ok.inj hvalid)
      · rw [hvalid] at hv
        obtain ⟨p', -, hp', halive, -⟩ := MoveAction.validate_eq_valid hv
        rw [hp] at hp'
        obtain rfl := Option.some_inj.1 hp'
        obtain ⟨-, -, hrow, hcol, -, hhealth, hfaction, -⟩ := Unit.moveTo_eq_ok hu
        refine Or.inr ⟨a, p, u, rfl, hv, hp, ?_, hfaction, ?_, ?_, rfl⟩
        · rw [Unit.coord, hrow, hcol]
        · rw [Unit.isAlive, hhealth]
          exact halive
        · exact (Map.tile_eq_ok_iff _ _ _).1 ⟨t, ht⟩
  | attack a =>
      obtain ⟨r, hex, -⟩ := GameAction.execute_attack.1 h
      refine Or.inl ⟨?_, fun _ hmove => by cases hmove⟩
      obtain ⟨-, ⟨-, -, rfl⟩ | ⟨-, -, p, q, attacker, target, hround, rfl⟩⟩ :=
        AttackAction.execute_cases hex
      · exact (SameUnits.refl _).descends
      · exact AttackAction.outcome_descends hround
  | capture a =>
      obtain ⟨r, hex, -⟩ := GameAction.execute_capture.1 h
      refine Or.inl ⟨?_, fun _ hmove => by cases hmove⟩
      obtain ⟨-, ⟨-, -, rfl⟩ | ⟨-, -, p, i, city, -, rfl⟩⟩ := CaptureAction.execute_cases hex
      · exact (SameUnits.refl _).descends
      · exact ((SameUnits.refl s).setCity i _).descends

end My4X
