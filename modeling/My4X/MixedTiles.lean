/-
**Tiles of one faction.**

The path finder treats a tile with a living unit of another faction as blocked, and the result of a
move has a code for an occupied destination.  Nothing keeps units of different factions apart,
though: carrying out a move never looks at the units on the destination, and a city whose
neighbouring tiles are all occupied spawns its units on its centre, whoever stands there.  This
module says exactly which actions and turns mix a tile.

Main definitions:

* `My4X.GameState.Unmixed` — the living units of each tile are of one faction;
* `My4X.FieldOp`, `My4X.FieldOp.step` — the actions on units and the end of a turn;
* `My4X.FieldOp.Clear` — no unit is put on a tile with a living unit of another faction.

Main results:

* `My4X.GameState.unmixed_relocate_iff`, `My4X.TurnResolver.unmixed_resolveCity_iff` — one move, and
  the turn of one city;
* `My4X.unmixed_along_iff` — **a run keeps the factions apart exactly when every move and every
  spawned unit finds no living enemy where it is put**;
* `My4X.GameState.Coherent.spawn_on_centre` — a unit is spawned among enemies on the centre of a
  city only.
-/

import My4X.Standing

set_option relaxedAutoImplicit false
set_option autoImplicit false

namespace My4X

/-! ### Units of one faction -/

namespace GameState

/-- The units of each tile are of one faction. -/
def OneFaction (s : GameState) : Prop :=
  ∀ p ∈ s.units.list, ∀ q ∈ s.units.list, p.unit.coord = q.unit.coord →
    p.unit.factionId = q.unit.factionId

instance (s : GameState) : Decidable s.OneFaction :=
  inferInstanceAs (Decidable (∀ p ∈ s.units.list, ∀ q ∈ s.units.list, _ → _))

/-- **The living units of each tile are of one faction.** -/
def Unmixed (s : GameState) : Prop :=
  ∀ p ∈ s.units.list, ∀ q ∈ s.units.list, p.unit.isAlive = true → q.unit.isAlive = true →
    p.unit.coord = q.unit.coord → p.unit.factionId = q.unit.factionId

instance (s : GameState) : Decidable s.Unmixed :=
  inferInstanceAs (Decidable (∀ p ∈ s.units.list, ∀ q ∈ s.units.list, _ → _ → _ → _))

/-- A living unit of another faction stands on a tile. -/
def HoldsEnemy (s : GameState) (factionId : FactionId) (tile : TileCoord) : Prop :=
  ∃ q ∈ s.units.list, q.unit.isAlive = true ∧ q.unit.coord = tile ∧ q.unit.factionId ≠ factionId

instance (s : GameState) (factionId : FactionId) (tile : TileCoord) :
    Decidable (s.HoldsEnemy factionId tile) :=
  inferInstanceAs (Decidable (∃ q ∈ s.units.list, _))

theorem OneFaction.unmixed {s : GameState} (h : s.OneFaction) : s.Unmixed :=
  fun p hp q hq _ _ => h p hp q hq

/-- Units that were there before do not mix a tile. -/
theorem Descends.unmixed {s s' : GameState} (h : Descends s s') (hs : s.Unmixed) : s'.Unmixed := by
  intro p' hp' q' hq' hpa hqa hcoord
  obtain ⟨p, hp, -, hpsame, hpalive⟩ := h p' hp'
  obtain ⟨q, hq, -, hqsame, hqalive⟩ := h q' hq'
  rw [hpsame.factionId, hqsame.factionId]
  rw [hpsame.coord_eq, hqsame.coord_eq] at hcoord
  exact hs p hp q hq (hpalive hpa) (hqalive hqa) hcoord

theorem SameUnits.unmixed_iff {s s' : GameState} (h : SameUnits s s') :
    s'.Unmixed ↔ s.Unmixed := by
  unfold Unmixed
  rw [h.units]

theorem unmixed_closeTurn (s : GameState) : s.closeTurn.Unmixed ↔ s.Unmixed := by
  constructor
  · intro h p hp q hq
    exact h { p with unit := p.unit.resetMovement } (mem_closeTurn.2 ⟨p, hp, rfl⟩)
      { q with unit := q.unit.resetMovement } (mem_closeTurn.2 ⟨q, hq, rfl⟩)
  · exact (descends_closeTurn s).unmixed

/-- One more unit, among those that were there before, keeps the factions apart exactly when it
finds no living enemy. -/
theorem unmixed_insert_iff {s s' : GameState} {u : Unit} {r : UnitRef} (h : s.Unmixed)
    (hnew : (⟨r, u⟩ : OwnedUnit) ∈ s'.units.list)
    (hold : ∀ q ∈ s'.units.list, q = ⟨r, u⟩ ∨ q ∈ s.units.list)
    (henemies : ∀ q ∈ s.units.list, q.unit.factionId ≠ u.factionId → q ∈ s'.units.list) :
    s'.Unmixed ↔ (u.isAlive = true → ¬ s.HoldsEnemy u.factionId u.coord) := by
  constructor
  · rintro hs' halive ⟨q, hq, hqa, hcoord, hne⟩
    exact hne (hs' q (henemies q hq hne) ⟨r, u⟩ hnew hqa halive hcoord)
  · intro hclear p hp q hq hpa hqa hcoord
    -- whoever shares the tile with the new unit is no enemy
    have hfriend : ∀ q ∈ s.units.list, u.isAlive = true → q.unit.isAlive = true →
        q.unit.coord = u.coord → q.unit.factionId = u.factionId := by
      intro q hq halive hqa hcoord
      by_contra hne
      exact hclear halive ⟨q, hq, hqa, hcoord, hne⟩
    rcases hold p hp with rfl | hp
    · rcases hold q hq with rfl | hq
      · rfl
      · exact (hfriend q hq hpa hqa hcoord.symm).symm
    · rcases hold q hq with rfl | hq
      · exact hfriend p hp hqa hpa hcoord
      · exact h p hp q hq hpa hqa hcoord

/-- **A move keeps the factions apart exactly when it finds no living enemy at its end.** -/
theorem unmixed_relocate_iff {s : GameState} {i : ℕ} {p : OwnedUnit} {u : Unit} (h : s.Unmixed)
    (hp : s.units.get? i = some p) (hfaction : u.factionId = p.unit.factionId)
    (halive : u.isAlive = true) :
    (s.relocate i p u).Unmixed ↔ ¬ s.HoldsEnemy u.factionId u.coord := by
  have hinsert : (s.relocate i p u).Unmixed ↔
      (u.isAlive = true → ¬ s.HoldsEnemy u.factionId u.coord) := by
    refine unmixed_insert_iff (r := p.ref) h (UnitVec.mem_set_self hp u) ?_ ?_
    · intro q hq
      rcases UnitVec.mem_set hp hq with rfl | ⟨hq, -⟩
      · exact Or.inl rfl
      · exact Or.inr hq
    · intro q hq hne
      refine UnitVec.mem_set_of_ne hp hq ?_ u
      intro href
      rw [UnitVec.eq_of_ref_eq hq (UnitVec.mem_list_of_get? hp) href] at hne
      exact hne hfaction.symm
  rw [hinsert]
  exact ⟨fun hclear => hclear halive, fun hclear _ => hclear⟩

theorem unmixed_addUnit_iff {s : GameState} (h : s.Unmixed) (u : Unit) :
    (s.addUnit u).1.Unmixed ↔ (u.isAlive = true → ¬ s.HoldsEnemy u.factionId u.coord) := by
  refine unmixed_insert_iff (r := s.units.freshRef) h (UnitVec.mem_push.2 (Or.inr rfl)) ?_ ?_
  · intro q hq
    exact (UnitVec.mem_push.1 hq).symm
  · intro q hq _
    exact UnitVec.mem_push.2 (Or.inl hq)

/-- A unit less does not mix a tile. -/
theorem unmixed_of_addUnit {s : GameState} {u : Unit} (h : (s.addUnit u).1.Unmixed) :
    s.Unmixed :=
  fun p hp q hq => h p (UnitVec.mem_push.2 (Or.inl hp)) q (UnitVec.mem_push.2 (Or.inl hq))

end GameState

/-! ### The turn of a city -/

namespace TurnResolver

open GameState

/-- The unit that a city spawns finds no living enemy where it is put. -/
def SpawnsClear (unitRegistry : Option UnitTypeRegistry) (s : GameState) (i : ℕ) : Prop :=
  ∀ u, spawn? unitRegistry s i = some u → u.isAlive = true → ¬ s.HoldsEnemy u.factionId u.coord

/-- **The turn of a city keeps the factions apart exactly when the unit it spawns finds no living
enemy.** -/
theorem unmixed_resolveCity_iff {unitRegistry : Option UnitTypeRegistry} {s : GameState} {i : ℕ}
    (h : s.Unmixed) :
    SpawnsClear unitRegistry s i ↔ (resolveCity unitRegistry s i).1.Unmixed := by
  have hspawn := resolveCity_spawn unitRegistry s i
  rw [SpawnsClear]
  cases hu : spawn? unitRegistry s i with
  | none =>
      rw [hu] at hspawn
      simp only [hspawn.unmixed_iff, h, iff_true]
      intro u hu'
      simp at hu'
  | some u =>
      rw [hu] at hspawn
      simp only [hspawn.unmixed_iff, unmixed_addUnit_iff h, Option.some.injEq, forall_eq']

/-- The turn of a city parts no factions. -/
theorem unmixed_of_resolveCity {unitRegistry : Option UnitTypeRegistry} {s : GameState} {i : ℕ}
    (h : (resolveCity unitRegistry s i).1.Unmixed) : s.Unmixed := by
  have hspawn := resolveCity_spawn unitRegistry s i
  cases hu : spawn? unitRegistry s i with
  | none =>
      rw [hu] at hspawn
      exact hspawn.unmixed_iff.1 h
  | some u =>
      rw [hu] at hspawn
      exact unmixed_of_addUnit (hspawn.unmixed_iff.1 h)

/-- The end of a turn keeps the factions apart exactly when every spawned unit finds no living
enemy. -/
theorem unmixed_resolveTurn_iff {unitRegistry : Option UnitTypeRegistry} {s : GameState}
    (h : s.Unmixed) :
    (resolveTurn s unitRegistry).1.Unmixed ↔
      Runs.Along (cityStep unitRegistry) (SpawnsClear unitRegistry) s
        (List.range s.cities.length) := by
  rw [resolveTurn_iff unmixed_closeTurn, resolveCities]
  exact resolveCitiesFrom_iff (fun s i h => unmixed_resolveCity_iff h)
    (fun s i h => unmixed_of_resolveCity h) _ s h

end TurnResolver

/-! ### Runs -/

/-- The actions on units and the end of a turn. -/
inductive FieldOp
  | execute (action : GameAction)
  | resolveTurn (unitRegistry : Option UnitTypeRegistry)

namespace FieldOp

/-- The state after an operation.  A failed assertion ends the run; an exception leaves the state in
which it is thrown. -/
def step (s : GameState) : FieldOp → Option GameState
  | execute action =>
      match action.execute s with
      | .error _ => none
      | .ok (s', _) => some s'
  | resolveTurn unitRegistry => some (My4X.resolveTurn s unitRegistry).1

/-- **No unit is put on a tile with a living unit of another faction**: neither by a move that is
carried out, nor by a city that spawns it, in the state it is spawned in. -/
def Clear (s : GameState) : FieldOp → Prop
  | execute (.move a) =>
      a.validate s = .ok .valid → ∀ p, s.units.get? a.unitIndex = some p →
        ¬ s.HoldsEnemy p.unit.factionId ⟨a.destRow, a.destCol⟩
  | execute (.attack _) | execute (.capture _) => True
  | resolveTurn unitRegistry =>
      Runs.Along (TurnResolver.cityStep unitRegistry) (TurnResolver.SpawnsClear unitRegistry) s
        (List.range s.cities.length)

/-- **One operation keeps the factions apart exactly when it puts no unit among enemies.** -/
theorem unmixed_step_iff {s : GameState} (h : s.Unmixed) (op : FieldOp) :
    (∀ s', step s op = some s' → s'.Unmixed) ↔ op.Clear s := by
  cases op with
  | resolveTurn unitRegistry =>
      rw [Clear, ← TurnResolver.unmixed_resolveTurn_iff h]
      simp only [step, Option.some.injEq, forall_eq']
  | execute action =>
      rw [step]
      cases hex : action.execute s with
      | error e =>
          simp only [reduceCtorEq, false_implies, implies_true, true_iff]
          cases action with
          | move a =>
              -- a valid move is carried out
              intro hvalid
              obtain ⟨p, u, t, -, -, -, hok⟩ := MoveAction.execute_of_valid hvalid
              have hmove := GameAction.execute_move.2 ⟨_, hok, rfl⟩
              rw [hex] at hmove
              simp at hmove
          | attack a => trivial
          | capture a => trivial
      | ok out =>
          obtain ⟨s₁, executed⟩ := out
          simp only [Option.some.injEq, forall_eq']
          rcases GameAction.execute_stands hex with ⟨hsame, hrefused⟩ |
            ⟨a, p, u, rfl, hvalid, hp, hcoord, hfaction, halive, -, rfl⟩
          · simp only [hsame.unmixed h, true_iff]
            cases action with
            | move a => exact fun hvalid => absurd hvalid (hrefused a rfl)
            | attack a => trivial
            | capture a => trivial
          · rw [GameState.unmixed_relocate_iff h hp hfaction halive, hfaction, hcoord]
            simp only [Clear, hvalid, hp, true_implies, Option.some.injEq, forall_eq']

end FieldOp

/-- **A run keeps the factions apart exactly when every move that is carried out and every unit that
is spawned finds no living enemy where it is put.** -/
theorem unmixed_along_iff (s : GameState) (h : s.OneFaction) (ops : List FieldOp) :
    Runs.Along FieldOp.step (fun s op => ∀ s', FieldOp.step s op = some s' → s'.Unmixed) s ops ↔
      Runs.Along FieldOp.step (fun s op => op.Clear s) s ops := by
  refine Runs.along_congr_of_kept (I := GameState.Unmixed) (D := fun _ _ => True)
    (fun s op hs _ => FieldOp.unmixed_step_iff hs op) (fun s op s' _ _ hkeep => hkeep s') ops s
    h.unmixed ?_
  exact Runs.along_of_forall (fun _ _ => trivial) ops s

/-- Warriors of two factions on neighbouring tiles. -/
def borderField : GameState :=
  ((plainField.addUnit (Unit.create 0 0 warriorTemplate 1)).1.addUnit
    (Unit.create 0 1 warriorTemplate 2)).1

theorem borderField_along_iff :
    borderField.OneFaction ∧
      (Runs.Along FieldOp.step (fun s op => ∀ s', FieldOp.step s op = some s' → s'.Unmixed)
          borderField
          [.execute (.move { unitIndex := 0, destRow := 1, destCol := 0 }), .resolveTurn none] ↔
        Runs.Along FieldOp.step (fun s op => op.Clear s) borderField
          [.execute (.move { unitIndex := 0, destRow := 1, destCol := 0 }), .resolveTurn none]) :=
  ⟨by decide, unmixed_along_iff borderField (by decide) _⟩

/-- A warrior moves onto the tile of an enemy. -/
theorem move_mixes_tile :
    borderField.OneFaction ∧
      ∃ s', Runs.run FieldOp.step borderField
          [.execute (.move { unitIndex := 0, destRow := 0, destCol := 1 })] = some s' ∧
        ¬ s'.Unmixed := by
  exact ⟨by decide, _, rfl, by decide⟩

/-! ### Spawning among enemies -/

/-- When the registry is coherent, a unit is spawned among living enemies on the centre of a city
only, and only when every neighbouring tile of the map is occupied. -/
theorem GameState.Coherent.spawn_on_centre {s : GameState} (h : s.Coherent) {city : City}
    {factionId : FactionId} {row col : ℤ}
    (hspawn : TurnResolver.findSpawnTile city.centerRow city.centerCol s = (row, col))
    (henemy : s.HoldsEnemy factionId ⟨row, col⟩) :
    (row, col) = (city.centerRow, city.centerCol) ∧
      ∀ n ∈ TurnResolver.hexNeighbors city.centerRow city.centerCol s.map.height s.map.width,
        s.registry.unitsAt n.1 n.2 ≠ [] := by
  -- the registry lists the enemy
  obtain ⟨q, hq, -, hcoord, -⟩ := henemy
  have hlisted : q.ref ∈ s.registry.unitsAt row col :=
    (h.mem_refsAt _ _).2 (UnitVec.mem_entries.2 ⟨q.unit, hq, hcoord⟩)
  rw [TurnResolver.findSpawnTile] at hspawn
  cases hfree : (TurnResolver.hexNeighbors city.centerRow city.centerCol s.map.height
      s.map.width).find? fun n => (s.registry.unitsAt n.1 n.2).isEmpty with
  | some n =>
      rw [hfree, Option.getD_some] at hspawn
      have hempty := List.find?_some hfree
      rw [hspawn] at hempty
      rw [List.isEmpty_iff.1 hempty] at hlisted
      simp at hlisted
  | none =>
      rw [hfree, Option.getD_none] at hspawn
      refine ⟨hspawn.symm, fun n hn hnil => ?_⟩
      have hne := List.find?_eq_none.1 hfree n hn
      rw [hnil] at hne
      simp at hne

end My4X
