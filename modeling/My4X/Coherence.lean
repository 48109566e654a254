/-
**Coherence of the unit registry.**

The position of a unit is stored twice: in the unit, and as the tile under which the registry lists
the unit.  The two are changed by separate statements all over the game code.  A state in which
they agree is coherent.  This module proves that the operations of the game state and the player
actions keep coherence, and says what the readers of the registry see in a coherent state.

Main definitions:

* `My4X.GameState.Coherent` — at every tile the registry lists the units that stand there.

Main results:

* `My4X.GameState.Coherent.addUnit`, `My4X.GameState.Coherent.dropUnit`,
  `My4X.GameState.Coherent.relocate`, `My4X.GameState.Coherent.removeDeadUnits` — the operations;
* `My4X.GameState.Coherent.move`, `My4X.GameState.Coherent.attack`,
  `My4X.GameState.Coherent.capture` — **the actions keep coherence**;
* `My4X.GameState.Coherent.mem_unitsOnTile` — what a reader of the registry sees.
-/

import My4X.Actions

set_option relaxedAutoImplicit false
set_option autoImplicit false

namespace My4X

namespace GameState

/-- **The registry is coherent**: for every tile it lists each unit that stands there exactly once
and nothing else, and it stores no empty list. -/
def Coherent (s : GameState) : Prop := s.registry.units.Tracks s.units.entries

/-- Coherence depends on the registered units and on the places of the units alone. -/
theorem Coherent.of_eq {s s' : GameState} (h : s.Coherent)
    (hreg : s'.registry.units = s.registry.units) (hunits : s'.units.entries = s.units.entries) :
    s'.Coherent := by
  rw [Coherent]
  rw [hreg, hunits]
  exact h

theorem coherent_create {mapRows mapCols : ℤ} {draws : ℕ → TerrainType} {s : GameState}
    (h : GameState.create mapRows mapCols draws = .ok s) : s.Coherent := by
  obtain ⟨m, -, h⟩ := Except.bind_eq_ok.1 h
  obtain rfl := Except.ok.inj h
  exact OccupancyIndex.tracks_empty

/-! ### The operations -/

theorem Coherent.addUnit {s : GameState} (h : s.Coherent) (u : Unit) :
    (s.addUnit u).1.Coherent := by
  rw [Coherent]
  have hfresh : s.units.freshRef ∉ s.units.entries.map Prod.fst := by
    rw [UnitVec.entries_fst]
    exact s.units.freshRef_not_mem
  have hreg : (s.addUnit u).1.registry.units = s.registry.units.register u.coord s.units.freshRef :=
    rfl
  have hunits : (s.addUnit u).1.units.entries = s.units.entries ++ [(s.units.freshRef, u.coord)] :=
    s.units.entries_push u
  rw [hreg, hunits]
  exact h.register_append hfresh

theorem Coherent.dropUnit {s : GameState} (h : s.Coherent) {i : ℕ} {p : OwnedUnit}
    (hp : s.units.get? i = some p) : (s.dropUnit i p).Coherent := by
  rw [Coherent]
  have hreg : (s.dropUnit i p).registry.units = s.registry.units.unregister p.unit.coord p.ref :=
    rfl
  have hunits : (s.dropUnit i p).units.entries = s.units.entries.eraseIdx i :=
    s.units.entries_erase i
  rw [hreg, hunits]
  exact h.unregister_eraseIdx s.units.entries_nodup (UnitVec.entries_get? hp)

theorem Coherent.removeUnit {s s' : GameState} (h : s.Coherent) {i : ℕ}
    (hs : s.removeUnit i = .ok s') : s'.Coherent := by
  obtain ⟨p, hp, rfl⟩ := removeUnit_eq_ok hs
  exact h.dropUnit hp

theorem Coherent.relocate {s : GameState} (h : s.Coherent) {i : ℕ} {p : OwnedUnit}
    (hp : s.units.get? i = some p) (u : Unit) : (s.relocate i p u).Coherent := by
  rw [Coherent]
  have hreg : (s.relocate i p u).registry.units =
      (s.registry.units.unregister p.unit.coord p.ref).register u.coord p.ref := rfl
  have hunits : (s.relocate i p u).units.entries = s.units.entries.set i (p.ref, u.coord) :=
    UnitVec.entries_set hp u
  rw [hreg, hunits]
  exact h.move_set s.units.entries_nodup (UnitVec.entries_get? hp) u.coord

/-- A change of a unit that leaves it in its place. -/
theorem Coherent.setUnit {s : GameState} (h : s.Coherent) {i : ℕ} {p : OwnedUnit}
    (hp : s.units.get? i = some p) {u : Unit} (hu : u.coord = p.unit.coord) :
    (s.setUnit i u).Coherent := by
  refine h.of_eq rfl ?_
  have hunits : (s.setUnit i u).units.entries = s.units.entries.set i (p.ref, u.coord) :=
    UnitVec.entries_set hp u
  rw [hunits, hu]
  -- what is written back is what is there
  obtain ⟨hlt, hget⟩ := List.getElem?_eq_some_iff.1 (UnitVec.entries_get? hp)
  rw [← hget]
  exact List.set_getElem_self hlt

/-- One turn of the loop that removes the dead units. -/
theorem Coherent.removeDeadUnitAt {sweep : DeadUnitSweep} (h : sweep.state.Coherent) (i : ℕ) :
    (GameState.removeDeadUnitAt sweep i).state.Coherent := by
  rw [GameState.removeDeadUnitAt]
  cases hp : sweep.state.units.get? i with
  | none => exact h
  | some p =>
      dsimp only
      split
      · exact h
      · exact h.dropUnit hp

theorem Coherent.removeDeadUnits {s : GameState} (h : s.Coherent) (selectedIndex : Option ℤ) :
    (s.removeDeadUnits selectedIndex).state.Coherent := by
  -- the loop keeps it from one index to the next
  refine List.foldlRecOn (motive := fun sweep : DeadUnitSweep => sweep.state.Coherent) _ _ h ?_
  intro sweep hs i _
  exact hs.removeDeadUnitAt i

/-! ### The actions -/

theorem Coherent.move {s s' : GameState} {a : MoveAction} {r : MoveResult} (h : s.Coherent)
    (hex : a.execute s = .ok (s', r)) : s'.Coherent := by
  obtain ⟨-, ⟨-, -, rfl⟩ | ⟨-, -, p, u, t, hp, -, -, rfl⟩⟩ := MoveAction.execute_cases hex
  · exact h
  · exact h.relocate hp u

/-- The round of an attack leaves both units in their places. -/
theorem Coherent.fought {s : GameState} {a : AttackAction} {p q : OwnedUnit}
    {combat : CombatResult} {attacker target : Unit} (h : s.Coherent)
    (hround : AttackAction.Round a s p q combat attacker target) :
    (a.fought s attacker target).Coherent := by
  have htarget : (s.setUnit a.targetIndex target).Coherent :=
    h.setUnit hround.checked.target hround.same_target.coord_eq
  refine htarget.setUnit (p := p) ?_ hround.same_attacker.coord_eq
  simp only [GameState.setUnit, UnitVec.get?_set, if_neg hround.checked.index_ne.symm,
    hround.checked.attacker]

theorem Coherent.attack {s s' : GameState} {a : AttackAction} {r : AttackResult} (h : s.Coherent)
    (hex : a.execute s = .ok (s', r)) : s'.Coherent := by
  obtain ⟨-, ⟨-, -, rfl⟩ | ⟨-, -, p, q, attacker, target, hround, rfl⟩⟩ :=
    AttackAction.execute_cases hex
  · exact h
  · have hfought := h.fought hround
    rw [AttackAction.outcome]
    split
    · exact hfought.dropUnit (AttackAction.fought_get?_target hround.checked attacker target)
    · split
      · exact hfought.dropUnit (AttackAction.fought_get?_attacker hround.checked attacker target)
      · exact hfought

theorem Coherent.capture {s s' : GameState} {a : CaptureAction} {r : CaptureResult}
    (h : s.Coherent) (hex : a.execute s = .ok (s', r)) : s'.Coherent := by
  obtain ⟨-, ⟨-, -, rfl⟩ | ⟨-, -, p, i, city, -, rfl⟩⟩ := CaptureAction.execute_cases hex
  · exact h
  · exact h.of_eq rfl rfl

/-! ### Reading the registry -/

/-- In a coherent state the units that the registry finds on a tile are the ones that stand
there. -/
theorem Coherent.mem_unitsOnTile {s : GameState} (h : s.Coherent) {row col : ℤ} {u : Unit} :
    u ∈ unitsOnTile s.registry s.units row col ↔
      (∃ p ∈ s.units.list, p.unit = u) ∧ u.row = row ∧ u.col = col := by
  rw [unitsOnTile, TileRegistry.unitsAt]
  rw [List.mem_filterMap]
  constructor
  · intro hmem
    obtain ⟨r, hr, hu⟩ := hmem
    have hin := UnitVec.deref_eq_some.1 hu
    obtain ⟨u', hu', hcoord⟩ := UnitVec.mem_entries.1 ((h.mem_refsAt _ r).1 hr)
    have hsame := UnitVec.eq_of_ref_eq hu' hin rfl
    obtain rfl := (OwnedUnit.mk.inj hsame).2
    obtain ⟨hrow, hcol⟩ := TileCoord.mk.inj hcoord
    exact ⟨⟨_, hin, rfl⟩, hrow, hcol⟩
  · intro hmem
    obtain ⟨⟨p, hp, rfl⟩, rfl, rfl⟩ := hmem
    have hentry : (p.ref, p.unit.coord) ∈ s.units.entries := UnitVec.mem_entries.2 ⟨p.unit, hp, rfl⟩
    exact ⟨p.ref, (h.mem_refsAt _ _).2 hentry, UnitVec.deref_eq_some.2 hp⟩

/-- In a coherent state every registered pointer leads to a unit that stands on the tile. -/
theorem Coherent.deref_of_mem_unitsAt {s : GameState} (h : s.Coherent) {row col : ℤ} {r : UnitRef}
    (hr : r ∈ s.registry.unitsAt row col) :
    ∃ u, s.units.deref r = some u ∧ u.row = row ∧ u.col = col := by
  obtain ⟨u, hu, hcoord⟩ := UnitVec.mem_entries.1 ((h.mem_refsAt _ r).1 hr)
  obtain ⟨hrow, hcol⟩ := TileCoord.mk.inj hcoord
  exact ⟨u, UnitVec.deref_eq_some.2 hu, hrow, hcol⟩

end GameState

end My4X
