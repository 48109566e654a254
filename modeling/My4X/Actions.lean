/-
**The player actions: moving, attacking and capturing.**

An action names the units it is about by their indices in the unit list.  It is first validated
against the state; a valid action is then carried out, an invalid one changes nothing.  For each
action one theorem says everything that carrying it out can do; later results about actions are
case analyses of these three.

Main definitions:

* `My4X.MoveAction`, `My4X.AttackAction`, `My4X.CaptureAction` — the actions, each with
  `validate` and `execute`;
* `My4X.MoveAction.Affords`, `My4X.MoveAction.Crosses` — what the validation of a move asks.

Main results:

* `My4X.MoveAction.validate_eq_valid_iff` — **when a move is valid**;
* `My4X.MoveAction.execute_cases`, `My4X.AttackAction.execute_cases`,
  `My4X.CaptureAction.execute_cases` — **what carrying out an action can do**.
-/

import My4X.Combat
import My4X.ZoneOfControl

set_option relaxedAutoImplicit false
set_option autoImplicit false

namespace My4X

/-! ### Moving -/

/-- Why a move is refused. -/
inductive MoveValidation
  | valid
  | unitNotFound
  | unitDead
  | noMovementRemaining
  | notAdjacent
  | impassableTerrain
  | insufficientMovement
  | destinationOccupied
  | blockedByZoneOfControl
  deriving DecidableEq, Repr

/-- The result of a move. -/
structure MoveResult where
  executed : Bool := false
  validation : MoveValidation := .valid
  movementCostDeducted : ℤ := 0
  deriving DecidableEq, Repr

/-- Move a unit to an adjacent tile. -/
structure MoveAction where
  unitIndex : ℕ
  destRow : ℤ
  destCol : ℤ
  deriving DecidableEq, Repr

/-- The distance of adjacent tiles. -/
def adjacentDistance : ℤ := 1

namespace MoveAction

/-- The checks on the unit that is to move. -/
def validateUnit (a : MoveAction) (state : GameState) (unit : Unit) :
    Except Fault MoveValidation :=
  if ¬ unit.isAlive then .ok .unitDead
  else if unit.movementRemaining ≤ 0 then .ok .noMovementRemaining
  else if hexDistance unit.row unit.col a.destRow a.destCol ≠ adjacentDistance then .ok .notAdjacent
  else do
    let destTile ← state.map.tile a.destRow a.destCol
    let terrainProps := getTerrainProperties destTile.terrain
    if ¬ terrainProps.passable then return .impassableTerrain
    else if unit.movementRemaining < terrainProps.movementCost then return .insufficientMovement
    else if isMovementBlockedByZoc unit.row unit.col a.destRow a.destCol unit.factionId state.map
        state.registry state.units state.diplomacy then return .blockedByZoneOfControl
    else return .valid

/-- Whether the move can be carried out; the access to the destination tile can fail. -/
def validate (a : MoveAction) (state : GameState) : Except Fault MoveValidation :=
  match state.units.get? a.unitIndex with
  | none => .ok .unitNotFound
  | some p => a.validateUnit state p.unit

/-- Moves the unit, which pays the terrain cost of the destination and is registered there. -/
def execute (a : MoveAction) (state : GameState) : Except Fault (GameState × MoveResult) := do
  let validation ← a.validate state
  if validation ≠ .valid then return (state, { executed := false, validation })
  else
    match state.units.get? a.unitIndex with
    | none => .error .assertion
    | some p => do
        let destTile ← state.map.tile a.destRow a.destCol
        let terrainProps := getTerrainProperties destTile.terrain
        let unit ← p.unit.moveTo a.destRow a.destCol terrainProps.movementCost
        return (state.relocate a.unitIndex p unit,
          { executed := true, validation, movementCostDeducted := terrainProps.movementCost })

/-- What the validation asks of a move of a unit onto a tile, zones of control apart. -/
structure Affords (a : MoveAction) (map : Map) (unit : Unit) (tile : Tile) : Prop where
  alive : unit.isAlive = true
  lookup : map.tile a.destRow a.destCol = .ok tile
  passable : (getTerrainProperties tile.terrain).passable = true
  cost : (getTerrainProperties tile.terrain).movementCost ≤ unit.movementRemaining
  adjacent : hexDistance unit.row unit.col a.destRow a.destCol = 1

/-- The zone of control of an enemy blocks the move. -/
def Crosses (a : MoveAction) (s : GameState) (unit : Unit) : Prop :=
  isMovementBlockedByZoc unit.row unit.col a.destRow a.destCol unit.factionId s.map s.registry
    s.units s.diplomacy = true

/-- **When a move is valid.** -/
theorem validate_eq_valid_iff {a : MoveAction} {s : GameState} :
    a.validate s = .ok .valid ↔ ∃ p t, s.units.get? a.unitIndex = some p ∧
      a.Affords s.map p.unit t ∧ ¬ a.Crosses s p.unit := by
  rw [validate]
  cases hp : s.units.get? a.unitIndex with
  | none => simp
  | some p =>
      rw [show (∃ q t, some p = some q ∧ a.Affords s.map q.unit t ∧ ¬ a.Crosses s q.unit) ↔
        ∃ t, a.Affords s.map p.unit t ∧ ¬ a.Crosses s p.unit by simp]
      simp only [validateUnit]
      constructor
      · intro h
        split at h
        · simp at h
        · next halive =>
            split at h
            · simp at h
            · split at h
              · simp at h
              · next hdist =>
                  rw [not_not] at halive hdist
                  obtain ⟨t, ht, h⟩ := Except.bind_eq_ok.1 h
                  split at h
                  · simp [pure, Except.pure] at h
                  · next hpass =>
                      split at h
                      · simp [pure, Except.pure] at h
                      · next hcost =>
                          split at h
                          · simp [pure, Except.pure] at h
                          · next hzoc =>
                              rw [not_not] at hpass
                              exact ⟨t, ⟨halive, ht, hpass, by omega, hdist⟩, hzoc⟩
      · intro h
        obtain ⟨t, ⟨halive, ht, hpass, hcost, hdist⟩, hzoc⟩ := h
        have hpos := movementCost_pos hpass
        rw [Crosses] at hzoc
        rw [if_neg (not_not.2 halive), if_neg (by omega),
          if_neg (not_not.2 (show _ = adjacentDistance
          from hdist)), ht, Except.ok_bind]
        rw [if_neg (not_not.2 hpass), if_neg (by omega), if_neg hzoc]
        rfl

/-- What a valid move has checked. -/
theorem validate_eq_valid {a : MoveAction} {s : GameState} (h : a.validate s = .ok .valid) :
    ∃ p t, s.units.get? a.unitIndex = some p ∧ p.unit.isAlive = true ∧
      s.map.tile a.destRow a.destCol = .ok t ∧
      (getTerrainProperties t.terrain).passable = true ∧
      (getTerrainProperties t.terrain).movementCost ≤ p.unit.movementRemaining ∧
      hexDistance p.unit.row p.unit.col a.destRow a.destCol = 1 := by
  obtain ⟨p, t, hp, haffords, -⟩ := validate_eq_valid_iff.1 h
  exact ⟨p, t, hp, haffords.alive, haffords.lookup, haffords.passable, haffords.cost,
    haffords.adjacent⟩

/-- The validation fails only at the access to the destination tile. -/
theorem validate_error {a : MoveAction} {s : GameState} {e : Fault}
    (h : a.validate s = .error e) : e = .assertion := by
  rw [validate] at h
  cases hp : s.units.get? a.unitIndex with
  | none => simp [hp] at h
  | some p =>
      simp only [hp, validateUnit, Map.tile] at h
      split at h
      · simp at h
      · split at h
        · simp at h
        · split at h
          · simp at h
          · cases hget : s.map.tiles.get? a.destRow a.destCol with
            | none =>
                rw [hget] at h
                exact (Except.error.inj h).symm
            | some t =>
                rw [hget] at h
                simp only [Except.ok_bind] at h
                split at h
                · cases h
                · split at h
                  · cases h
                  · split at h <;> cases h

/-- **What carrying out a move can do**: a refused move changes nothing, a valid one takes its unit
to the destination. -/
theorem execute_cases {a : MoveAction} {s s' : GameState} {r : MoveResult}
    (h : a.execute s = .ok (s', r)) :
    a.validate s = .ok r.validation ∧
      ((r.executed = false ∧ r.validation ≠ .valid ∧ s' = s) ∨
        (r.executed = true ∧ r.validation = .valid ∧
          ∃ p u t, s.units.get? a.unitIndex = some p ∧
            s.map.tile a.destRow a.destCol = .ok t ∧
            p.unit.moveTo a.destRow a.destCol (getTerrainProperties t.terrain).movementCost =
              .ok u ∧
            s' = s.relocate a.unitIndex p u)) := by
  obtain ⟨v, hv, h⟩ := Except.bind_eq_ok.1 h
  dsimp only at h
  split at h
  · next hne =>
      obtain ⟨rfl, rfl⟩ := Prod.mk.inj (Except.ok.inj h)
      exact ⟨hv, Or.inl ⟨rfl, hne, rfl⟩⟩
  · next hvalid =>
      rw [not_not] at hvalid
      subst hvalid
      cases hp : s.units.get? a.unitIndex with
      | none => simp [hp] at h
      | some p =>
          simp only [hp] at h
          obtain ⟨t, ht, h⟩ := Except.bind_eq_ok.1 h
          obtain ⟨u, hu, h⟩ := Except.bind_eq_ok.1 h
          obtain ⟨rfl, rfl⟩ := Prod.mk.inj (Except.ok.inj h)
          exact ⟨hv, Or.inr ⟨rfl, rfl, p, u, t, rfl, ht, hu, rfl⟩⟩

/-- What a move that is carried out has done. -/
theorem cases_of_executed {a : MoveAction} {s s' : GameState} {r : MoveResult}
    (h : a.execute s = .ok (s', r)) (hexecuted : r.executed = true) :
    a.validate s = .ok .valid ∧ ∃ p u t, s.units.get? a.unitIndex = some p ∧
      s.map.tile a.destRow a.destCol = .ok t ∧
      p.unit.moveTo a.destRow a.destCol (getTerrainProperties t.terrain).movementCost = .ok u ∧
      s' = s.relocate a.unitIndex p u := by
  obtain ⟨hv, ⟨hrefused, -⟩ | ⟨-, hvalid, hdone⟩⟩ := execute_cases h
  · rw [hexecuted] at hrefused
    cases hrefused
  · rw [hvalid] at hv
    exact ⟨hv, hdone⟩

/-- A valid move is carried out: nothing that follows the validation fails. -/
theorem execute_of_valid {a : MoveAction} {s : GameState} (h : a.validate s = .ok .valid) :
    ∃ p u t, s.units.get? a.unitIndex = some p ∧ s.map.tile a.destRow a.destCol = .ok t ∧
      p.unit.moveTo a.destRow a.destCol (getTerrainProperties t.terrain).movementCost = .ok u ∧
      a.execute s = .ok (s.relocate a.unitIndex p u,
        { executed := true, validation := .valid
          movementCostDeducted := (getTerrainProperties t.terrain).movementCost }) := by
  obtain ⟨p, t, hp, -, ht, hpass, hcost, -⟩ := validate_eq_valid h
  obtain ⟨u, hu⟩ := Unit.moveTo_ok a.destRow a.destCol (movementCost_pos hpass)
    hcost
  refine ⟨p, u, t, hp, ht, hu, ?_⟩
  rw [execute]
  rw [h, Except.ok_bind]
  simp only [ne_eq, not_true_eq_false, if_false, hp, ht, Except.ok_bind, hu]
  rfl

/-- A refused move changes nothing. -/
theorem execute_of_refused {a : MoveAction} {s : GameState} {v : MoveValidation}
    (h : a.validate s = .ok v) (hv : v ≠ .valid) :
    a.execute s = .ok (s, { executed := false, validation := v }) := by
  rw [execute]
  rw [h, Except.ok_bind, if_pos hv]
  rfl

end MoveAction

/-! ### Attacking -/

/-- Why an attack is refused. -/
inductive AttackValidation
  | valid
  | attackerNotFound
  | targetNotFound
  | attackerDead
  | targetDead
  | sameFaction
  | notAtWar
  | outOfRange
  | noMovementRemaining
  deriving DecidableEq, Repr

/-- The result of an attack. -/
structure AttackResult where
  combat : CombatResult := {}
  executed : Bool := false
  validation : AttackValidation := .valid
  deriving DecidableEq, Repr

/-- Attack an enemy unit. -/
structure AttackAction where
  attackerIndex : ℕ
  targetIndex : ℕ
  deriving DecidableEq, Repr

namespace GameState

/-- Changes the unit at an index in place. -/
def setUnit (s : GameState) (index : ℕ) (unit : Unit) : GameState :=
  { s with units := s.units.set index unit }

/-- Removes the unit at an index if it is dead. -/
def removeIfDead (s : GameState) (index : ℕ) : Except Fault GameState :=
  match s.units.get? index with
  | none => .error .assertion
  | some p => if p.unit.isAlive then .ok s else s.removeUnit index

theorem removeIfDead_of_alive {s : GameState} {index : ℕ} {p : OwnedUnit}
    (h : s.units.get? index = some p) (halive : p.unit.isAlive = true) :
    s.removeIfDead index = .ok s := by
  rw [removeIfDead, h]
  exact if_pos halive

theorem removeIfDead_of_dead {s : GameState} {index : ℕ} {p : OwnedUnit}
    (h : s.units.get? index = some p) (hdead : p.unit.isAlive = false) :
    s.removeIfDead index = .ok (s.dropUnit index p) := by
  rw [removeIfDead, h]
  simp only [hdead, Bool.false_eq_true, if_false, removeUnit_ok h]

/-- Two removals, the one of the higher index first, when at most one of the units is dead. -/
theorem removeIfDead_removeIfDead {s : GameState} {hi lo : ℕ} {p q : OwnedUnit} (hlt : lo < hi)
    (hp : s.units.get? hi = some p) (hq : s.units.get? lo = some q)
    (hone : p.unit.isAlive = false → q.unit.isAlive = true) :
    (s.removeIfDead hi >>= fun s => s.removeIfDead lo) =
      .ok (if p.unit.isAlive = false then s.dropUnit hi p
        else if q.unit.isAlive = false then s.dropUnit lo q else s) := by
  cases hpa : p.unit.isAlive with
  | true =>
      rw [removeIfDead_of_alive hp hpa, Except.ok_bind]
      cases hqa : q.unit.isAlive with
      | true => exact removeIfDead_of_alive hq hqa
      | false => exact removeIfDead_of_dead hq hqa
  | false =>
      rw [removeIfDead_of_dead hp hpa, Except.ok_bind]
      -- the lower index still names the same unit
      have hq' : (s.dropUnit hi p).units.get? lo = some q := by
        rw [dropUnit, UnitVec.get?_erase, if_pos hlt, hq]
      exact removeIfDead_of_alive hq' (hone hpa)

end GameState

namespace AttackAction

/-- The checks on the attacker and the target. -/
def validateUnits (state : GameState) (attacker target : Unit) : AttackValidation :=
  if ¬ attacker.isAlive then .attackerDead
  else if ¬ target.isAlive then .targetDead
  else if attacker.factionId = target.factionId then .sameFaction
  else if ¬ state.diplomacy.areAtWar attacker.factionId target.factionId then .notAtWar
  else if attacker.movementRemaining < attackMovementCost then .noMovementRemaining
  else if attacker.attackRange < hexDistance attacker.row attacker.col target.row target.col then
    .outOfRange
  else .valid

/-- Whether the attack can be carried out. -/
def validate (a : AttackAction) (state : GameState) : AttackValidation :=
  match state.units.get? a.attackerIndex with
  | none => .attackerNotFound
  | some p =>
      match state.units.get? a.targetIndex with
      | none => .targetNotFound
      | some q => validateUnits state p.unit q.unit

/-- The circumstances of a round between two units, from their distance and their terrain. -/
def combatContext (map : Map) (attacker target : Unit) : Except Fault CombatContext := do
  let distance := hexDistance attacker.row attacker.col target.row target.col
  let defenderTile ← map.tile target.row target.col
  let attackerTile ← map.tile attacker.row attacker.col
  return { rangedAttack := meleeRange < distance
           terrainDefenseBonus := (getTerrainProperties defenderTile.terrain).defenseModifier
           attackerTerrainDefenseBonus :=
             (getTerrainProperties attackerTile.terrain).defenseModifier }

/-- Removes the units that died, the one with the higher index first. -/
def removeCasualties (a : AttackAction) (state : GameState) : Except Fault GameState :=
  let firstToRemove := max a.attackerIndex a.targetIndex
  let secondToRemove := min a.attackerIndex a.targetIndex
  if firstToRemove ≠ secondToRemove then do
    let state ← state.removeIfDead firstToRemove
    state.removeIfDead secondToRemove
  else .ok state

/-- Fights one round between the two units and removes the one that died, if any. -/
def execute (a : AttackAction) (state : GameState) : Except Fault (GameState × AttackResult) :=
  let validation := a.validate state
  if validation ≠ .valid then .ok (state, { executed := false, validation })
  else
    match state.units.get? a.attackerIndex, state.units.get? a.targetIndex with
    | some p, some q => do
        let context ← combatContext state.map p.unit q.unit
        let combat := resolveCombat p.unit q.unit context
        let (attacker, target) ← applyCombat p.unit q.unit combat
        let state ← a.removeCasualties
          ((state.setUnit a.targetIndex target).setUnit a.attackerIndex attacker)
        return (state, { combat, executed := true, validation })
    | _, _ => .error .assertion

/-- What a valid attack has checked. -/
structure Checked (a : AttackAction) (s : GameState) (p q : OwnedUnit) : Prop where
  attacker : s.units.get? a.attackerIndex = some p
  target : s.units.get? a.targetIndex = some q
  attacker_alive : p.unit.isAlive = true
  target_alive : q.unit.isAlive = true
  faction_ne : p.unit.factionId ≠ q.unit.factionId
  movement : attackMovementCost ≤ p.unit.movementRemaining

theorem validate_eq_valid {a : AttackAction} {s : GameState} (h : a.validate s = .valid) :
    ∃ p q, Checked a s p q := by
  rw [validate] at h
  cases hp : s.units.get? a.attackerIndex with
  | none => simp [hp] at h
  | some p =>
      cases hq : s.units.get? a.targetIndex with
      | none => simp [hp, hq] at h
      | some q =>
          simp only [hp, hq, validateUnits] at h
          split at h
          · simp at h
          · next hpa =>
              split at h
              · simp at h
              · next hqa =>
                  split at h
                  · simp at h
                  · next hne =>
                      split at h
                      · simp at h
                      · split at h
                        · simp at h
                        · next hm =>
                            rw [not_not] at hpa hqa
                            exact ⟨p, q, hp, hq, hpa, hqa, hne, by omega⟩

/-- The attacker is not its own target. -/
theorem Checked.index_ne {a : AttackAction} {s : GameState} {p q : OwnedUnit}
    (h : Checked a s p q) : a.attackerIndex ≠ a.targetIndex := by
  intro heq
  have hpq : some p = some q := by rw [← h.attacker, ← h.target, heq]
  exact h.faction_ne (by rw [Option.some_inj.1 hpq])

/-- The state after the round, before the dead are removed. -/
def fought (a : AttackAction) (s : GameState) (attacker target : Unit) : GameState :=
  (s.setUnit a.targetIndex target).setUnit a.attackerIndex attacker

theorem fought_get?_attacker {a : AttackAction} {s : GameState} {p q : OwnedUnit}
    (h : Checked a s p q) (attacker target : Unit) :
    (a.fought s attacker target).units.get? a.attackerIndex = some ⟨p.ref, attacker⟩ := by
  simp only [fought, GameState.setUnit, UnitVec.get?_set, if_true, if_neg h.index_ne.symm,
    h.attacker, Option.map_some]

theorem fought_get?_target {a : AttackAction} {s : GameState} {p q : OwnedUnit}
    (h : Checked a s p q) (attacker target : Unit) :
    (a.fought s attacker target).units.get? a.targetIndex = some ⟨q.ref, target⟩ := by
  simp only [fought, GameState.setUnit, UnitVec.get?_set, if_true, if_neg h.index_ne, h.target,
    Option.map_some]

/-- A round leaves the number of units as it is. -/
theorem size_fought (a : AttackAction) (s : GameState) (attacker target : Unit) :
    (a.fought s attacker target).units.size = s.units.size := by
  rw [fought, GameState.setUnit, GameState.setUnit, UnitVec.size_set, UnitVec.size_set]

/-- The removal of the casualties when at most one of the two units died. -/
theorem removeCasualties_fought {a : AttackAction} {s : GameState} {p q : OwnedUnit}
    (h : Checked a s p q) {attacker target : Unit}
    (hone : target.isAlive = false → attacker.isAlive = true) :
    a.removeCasualties (a.fought s attacker target) =
      .ok (if target.isAlive = false then
          (a.fought s attacker target).dropUnit a.targetIndex ⟨q.ref, target⟩
        else if attacker.isAlive = false then
          (a.fought s attacker target).dropUnit a.attackerIndex ⟨p.ref, attacker⟩
        else a.fought s attacker target) := by
  have hp := fought_get?_attacker h attacker target
  have hq := fought_get?_target h attacker target
  have hne := h.index_ne
  unfold removeCasualties
  dsimp only
  rw [if_pos (by omega)]
  rcases Nat.lt_or_gt_of_ne hne with hlt | hlt
  · rw [max_eq_right hlt.le, min_eq_left hlt.le]
    exact GameState.removeIfDead_removeIfDead hlt hq hp hone
  · rw [max_eq_left hlt.le, min_eq_right hlt.le,
      GameState.removeIfDead_removeIfDead hlt hp hq]
    · cases ht : target.isAlive with
      | true => simp only [Bool.true_eq_false, if_false]
      | false => simp only [hone ht, Bool.true_eq_false, if_false]
    · intro ha
      cases ht : target.isAlive with
      | true => rfl
      | false => exact absurd (hone ht) (by simp [show attacker.isAlive = false from ha])

/-- What a round of combat between the units of an attack comes to. -/
structure Round (a : AttackAction) (s : GameState) (p q : OwnedUnit) (combat : CombatResult)
    (attacker target : Unit) : Prop where
  checked : Checked a s p q
  resolved : ∃ context, combatContext s.map p.unit q.unit = .ok context ∧
    combat = resolveCombat p.unit q.unit context
  applied : applyCombat p.unit q.unit combat = .ok (attacker, target)
  same_attacker : SameSoldier p.unit attacker
  same_target : SameSoldier q.unit target
  attacker_pays : attacker.movementRemaining = p.unit.movementRemaining - attackMovementCost
  target_keeps : target.movementRemaining = q.unit.movementRemaining
  target_hurt : target.health < q.unit.health
  attacker_dead : attacker.isAlive = false ↔ combat.attackerDied = true
  target_dead : target.isAlive = false ↔ combat.defenderDied = true
  one_dead : target.isAlive = false → attacker.isAlive = true

theorem round_of_checked {a : AttackAction} {s : GameState} {p q : OwnedUnit}
    (h : Checked a s p q) {context : CombatContext}
    (hc : combatContext s.map p.unit q.unit = .ok context) :
    ∃ attacker target,
      Round a s p q (resolveCombat p.unit q.unit context) attacker target := by
  obtain ⟨attacker, target, happly, hsa, hst, hpays, hkeeps, hhurt, hadead, htdead⟩ :=
    applyCombat_ok (rfl : resolveCombat p.unit q.unit context = _) h.attacker_alive h.target_alive
      h.movement
  have hone := (resolveCombat_bounds (rfl : resolveCombat p.unit q.unit context = _)
    (of_decide_eq_true h.attacker_alive) (of_decide_eq_true h.target_alive)).2.2.2.2.2.2
  refine ⟨attacker, target, h, ⟨context, hc, rfl⟩, happly, hsa, hst, hpays, hkeeps, hhurt, hadead,
    htdead, ?_⟩
  intro ht
  have hnot := hone (htdead.1 ht)
  cases ha : attacker.isAlive with
  | true => rfl
  | false =>
      rw [hadead.1 ha] at hnot
      exact absurd hnot (by simp)

/-- The state an attack leaves, by the casualty of the round. -/
def outcome (a : AttackAction) (s : GameState) (p q : OwnedUnit) (attacker target : Unit) :
    GameState :=
  if target.isAlive = false then
    (a.fought s attacker target).dropUnit a.targetIndex ⟨q.ref, target⟩
  else if attacker.isAlive = false then
    (a.fought s attacker target).dropUnit a.attackerIndex ⟨p.ref, attacker⟩
  else a.fought s attacker target

/-- An attack changes the units and their registry, and nothing else. -/
theorem outcome_eq (a : AttackAction) (s : GameState) (p q : OwnedUnit) (attacker target : Unit) :
    a.outcome s p q attacker target =
      { s with
        units := (a.outcome s p q attacker target).units
        registry := (a.outcome s p q attacker target).registry } := by
  rw [outcome]
  split
  · rfl
  · split
    · rfl
    · rfl

/-- A valid attack whose units stand on the map is carried out. -/
theorem execute_of_valid {a : AttackAction} {s : GameState} {p q : OwnedUnit}
    (h : a.validate s = .valid) (hcheck : Checked a s p q) {context : CombatContext}
    (hc : combatContext s.map p.unit q.unit = .ok context) :
    ∃ attacker target,
      Round a s p q (resolveCombat p.unit q.unit context) attacker target ∧
      a.execute s = .ok (a.outcome s p q attacker target,
        { combat := resolveCombat p.unit q.unit context
          executed := true
          validation := .valid }) := by
  obtain ⟨attacker, target, hround⟩ := round_of_checked hcheck hc
  refine ⟨attacker, target, hround, ?_⟩
  rw [execute]
  simp only [h, ne_eq, not_true_eq_false, if_false, hcheck.attacker, hcheck.target, hc,
    Except.ok_bind, hround.applied]
  rw [show (s.setUnit a.targetIndex target).setUnit a.attackerIndex attacker =
    a.fought s attacker target from rfl, removeCasualties_fought hcheck hround.one_dead]
  rfl

/-- **What carrying out an attack can do**: a refused attack changes nothing, a valid one changes
the two units and removes the one that died. -/
theorem execute_cases {a : AttackAction} {s s' : GameState} {r : AttackResult}
    (h : a.execute s = .ok (s', r)) :
    r.validation = a.validate s ∧
      ((r.executed = false ∧ r.validation ≠ .valid ∧ s' = s) ∨
        (r.executed = true ∧ r.validation = .valid ∧
          ∃ p q attacker target, Round a s p q r.combat attacker target ∧
            s' = a.outcome s p q attacker target)) := by
  by_cases hv : a.validate s = .valid
  · obtain ⟨p, q, hcheck⟩ := validate_eq_valid hv
    cases hc : combatContext s.map p.unit q.unit with
    | error e =>
        rw [execute] at h
        simp [hv, hcheck.attacker, hcheck.target, hc] at h
    | ok context =>
        obtain ⟨attacker, target, hround, hex⟩ := execute_of_valid hv hcheck hc
        rw [hex] at h
        obtain ⟨rfl, rfl⟩ := Prod.mk.inj (Except.ok.inj h)
        exact ⟨hv.symm, Or.inr ⟨rfl, rfl, p, q, attacker, target, hround, rfl⟩⟩
  · rw [execute] at h
    rw [if_pos hv] at h
    obtain ⟨rfl, rfl⟩ := Prod.mk.inj (Except.ok.inj h)
    exact ⟨rfl, Or.inl ⟨rfl, hv, rfl⟩⟩

/-- What an attack that is carried out has done. -/
theorem cases_of_executed {a : AttackAction} {s s' : GameState} {r : AttackResult}
    (h : a.execute s = .ok (s', r)) (hexecuted : r.executed = true) :
    a.validate s = .valid ∧ ∃ p q attacker target, Round a s p q r.combat attacker target ∧
      s' = a.outcome s p q attacker target := by
  obtain ⟨hv, ⟨hrefused, -⟩ | ⟨-, hvalid, hdone⟩⟩ := execute_cases h
  · rw [hexecuted] at hrefused
    cases hrefused
  · exact ⟨hv.symm.trans hvalid, hdone⟩

end AttackAction

/-! ### Capturing -/

/-- Why a capture is refused. -/
inductive CaptureValidation
  | valid
  | unitNotFound
  | unitDead
  | noCityAtPosition
  | cityOwnedBySameFaction
  | notAtWar
  | cityIsDefended
  deriving DecidableEq, Repr

/-- The result of a capture. -/
structure CaptureResult where
  executed : Bool := false
  validation : CaptureValidation := .valid
  capturedCityName : String := ""
  previousOwner : FactionId := 0
  newOwner : FactionId := 0
  factionEliminated : Bool := false
  eliminatedFactionId : FactionId := 0
  deriving DecidableEq, Repr

/-- Capture the city on whose centre a unit stands. -/
structure CaptureAction where
  unitIndex : ℕ
  deriving DecidableEq, Repr

namespace CaptureAction

/-- The index of the first city whose centre is a tile. -/
def findCityCenterAt (state : GameState) (row col : ℤ) : Option ℕ :=
  state.cities.findIdx? fun city => city.centerRow = row ∧ city.centerCol = col

/-- Whether a living unit of the owner stands on a tile of the city. -/
def isCityDefended (state : GameState) (city : City) : Bool :=
  city.tiles.toList.any fun t =>
    (unitsOnTile state.registry state.units t.row t.col).any fun unit =>
      unit.isAlive && unit.factionId = city.owner

/-- Whether a faction has neither a city nor a living unit. -/
def isFactionEliminated (state : GameState) (factionId : FactionId) : Bool :=
  !(state.cities.any fun city => city.ownedBy factionId) &&
    !(state.units.list.any fun p => p.unit.isAlive && p.unit.factionId = factionId)

/-- The checks on the city. -/
def validateCity (state : GameState) (unit : Unit) (city : City) : CaptureValidation :=
  if city.owner = unit.factionId then .cityOwnedBySameFaction
  else if ¬ state.diplomacy.areAtWar unit.factionId city.owner then .notAtWar
  else if isCityDefended state city then .cityIsDefended
  else .valid

/-- The checks on the unit, and then on the city it stands on. -/
def validateUnit (state : GameState) (unit : Unit) : CaptureValidation :=
  if ¬ unit.isAlive then .unitDead
  else
    match state.cities.find? fun city => city.centerRow = unit.row ∧ city.centerCol = unit.col with
    | none => .noCityAtPosition
    | some city => validateCity state unit city

/-- Whether the capture can be carried out. -/
def validate (a : CaptureAction) (state : GameState) : CaptureValidation :=
  match state.units.get? a.unitIndex with
  | none => .unitNotFound
  | some p => validateUnit state p.unit

/-- What becomes of a captured city: it changes hands and its queue is cleared. -/
def captured (city : City) (unit : Unit) : City :=
  (city.setFactionId unit.factionId.toInt32).setBuildQueue city.buildQueue.clear

/-- Hands the city to the faction of the unit. -/
def execute (a : CaptureAction) (state : GameState) : Except Fault (GameState × CaptureResult) :=
  let validation := a.validate state
  if validation ≠ .valid then .ok (state, { executed := false, validation })
  else
    match state.units.get? a.unitIndex with
    | none => .error .assertion
    | some p =>
        match findCityCenterAt state p.unit.row p.unit.col with
        | none => .error .assertion
        | some i =>
            match state.cities[i]? with
            | none => .error .assertion
            | some city =>
                let state := state.setCity i (captured city p.unit)
                let eliminated := isFactionEliminated state city.owner
                .ok (state,
                  { executed := true, validation
                    capturedCityName := city.name
                    previousOwner := city.owner
                    newOwner := p.unit.factionId
                    factionEliminated := eliminated
                    eliminatedFactionId := if eliminated then city.owner else 0 })

/-- The city that a valid capture takes: the first one whose centre is the tile of the unit. -/
structure Taken (a : CaptureAction) (s : GameState) (p : OwnedUnit) (i : ℕ) (city : City) :
    Prop where
  unit : s.units.get? a.unitIndex = some p
  alive : p.unit.isAlive = true
  index : findCityCenterAt s p.unit.row p.unit.col = some i
  get : s.cities[i]? = some city
  center : city.centerRow = p.unit.row ∧ city.centerCol = p.unit.col
  enemy : city.owner ≠ p.unit.factionId

theorem validate_eq_valid {a : CaptureAction} {s : GameState} (h : a.validate s = .valid) :
    ∃ p i city, Taken a s p i city := by
  rw [validate] at h
  cases hp : s.units.get? a.unitIndex with
  | none => simp [hp] at h
  | some p =>
      simp only [hp, validateUnit] at h
      split at h
      · simp at h
      · next halive =>
          rw [not_not] at halive
          split at h
          · simp at h
          · next city hfind =>
              rw [validateCity] at h
              split at h
              · simp at h
              · next henemy =>
                  -- the scan of the validation and the one of the execution stop at the same city
                  have hcenter := List.find?_some hfind
                  rw [List.find?_eq_bind_findIdx?_getElem?] at hfind
                  obtain ⟨i, hi, hget⟩ := Option.bind_eq_some_iff.1 hfind
                  exact ⟨p, i, city, hp, halive, hi, hget, of_decide_eq_true hcenter, henemy⟩

/-- **What carrying out a capture can do**: a refused capture changes nothing, a valid one changes
the owner of one city and clears its queue. -/
theorem execute_cases {a : CaptureAction} {s s' : GameState} {r : CaptureResult}
    (h : a.execute s = .ok (s', r)) :
    r.validation = a.validate s ∧
      ((r.executed = false ∧ r.validation ≠ .valid ∧ s' = s) ∨
        (r.executed = true ∧ r.validation = .valid ∧
          ∃ p i city, Taken a s p i city ∧ s' = s.setCity i (captured city p.unit))) := by
  rw [execute] at h
  by_cases hv : a.validate s = .valid
  · obtain ⟨p, i, city, htaken⟩ := validate_eq_valid hv
    simp only [hv, ne_eq, not_true_eq_false, if_false, htaken.unit, htaken.index, htaken.get] at h
    obtain ⟨rfl, rfl⟩ := Prod.mk.inj (Except.ok.inj h)
    exact ⟨hv.symm, Or.inr ⟨rfl, rfl, p, i, city, htaken, rfl⟩⟩
  · rw [if_pos hv] at h
    obtain ⟨rfl, rfl⟩ := Prod.mk.inj (Except.ok.inj h)
    exact ⟨rfl, Or.inl ⟨rfl, hv, rfl⟩⟩

/-- A valid capture is carried out. -/
theorem execute_of_valid {a : CaptureAction} {s : GameState} (h : a.validate s = .valid) :
    ∃ p i city r, Taken a s p i city ∧ r.executed = true ∧
      a.execute s = .ok (s.setCity i (captured city p.unit), r) := by
  obtain ⟨p, i, city, htaken⟩ := validate_eq_valid h
  rw [execute]
  simp only [h, ne_eq, not_true_eq_false, if_false, htaken.unit, htaken.index, htaken.get]
  exact ⟨p, i, city, _, htaken, rfl, rfl⟩

end CaptureAction

end My4X
