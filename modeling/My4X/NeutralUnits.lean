/-
**What the neutral units intend.**

Every living unit of a neutral faction intends one thing: to attack an enemy that stands next to it,
or to hold its position.  The search for an enemy has a table of neighbours and a test of the
borders of its own.  When the units stand in the map, what it finds is what the rules of attacks
allow: a living unit of a faction at war, at distance one.

Main definitions:

* `My4X.NeutralAI.Enemy` — a living unit at war with a unit, and next to it;
* `My4X.NeutralAI.ExactIntent` — what a neutral unit has to intend.

Main results:

* `My4X.NeutralAI.findAdjacentEnemy_eq_some`, `My4X.NeutralAI.findAdjacentEnemy_eq_none` — **the
  search finds an enemy exactly when there is one**;
* `My4X.NeutralAI.generateActions_exact` — **every living neutral unit, and no other, has one
  intention, and it is the right one**.
-/

import My4X.Adjacency
import My4X.MapBounds

set_option relaxedAutoImplicit false
set_option autoImplicit false

namespace My4X

namespace NeutralAI

/-! ### Enemies -/

/-- **An enemy next to a unit**: a living unit at war with it, at distance one. -/
def Enemy (s : GameState) (unit : Unit) (q : OwnedUnit) : Prop :=
  q ∈ s.units.list ∧ q.unit.isAlive = true ∧
    s.diplomacy.areAtWar unit.factionId q.unit.factionId = true ∧
    hexDistance unit.row unit.col q.unit.row q.unit.col = 1

/-- No faction is at war with itself. -/
theorem ne_of_areAtWar {d : DiplomacyManager} {f g : FactionId} (h : d.areAtWar f g = true) :
    g ≠ f := by
  rintro rfl
  rw [DiplomacyManager.areAtWar, DiplomacyManager.getRelation, if_pos rfl] at h
  cases h

/-- The first enemy on a tile. -/
theorem enemyOnTile_eq_some {s : GameState} {f : FactionId} {row col : ℤ} {j : ℕ}
    (h : enemyOnTile s f row col = some j) :
    ∃ q, s.units.get? j = some q ∧ q.unit.row = row ∧ q.unit.col = col ∧
      q.unit.isAlive = true ∧ s.diplomacy.areAtWar f q.unit.factionId = true := by
  obtain ⟨hlt, hq, -⟩ := List.findIdx?_eq_some_iff_getElem.1 h
  simp only [Bool.and_eq_true, decide_eq_true_eq] at hq
  obtain ⟨⟨⟨⟨hrow, hcol⟩, halive⟩, -⟩, hwar⟩ := hq
  exact ⟨_, List.getElem?_eq_getElem hlt, hrow, hcol, halive, hwar⟩

theorem enemyOnTile_eq_none {s : GameState} {f : FactionId} {row col : ℤ}
    (h : enemyOnTile s f row col = none) {q : OwnedUnit} (hq : q ∈ s.units.list)
    (hrow : q.unit.row = row) (hcol : q.unit.col = col) (halive : q.unit.isAlive = true) :
    ¬ s.diplomacy.areAtWar f q.unit.factionId = true := by
  intro hwar
  have hnot := List.findIdx?_eq_none_iff.1 h q hq
  simp [hrow, hcol, halive, ne_of_areAtWar hwar, hwar] at hnot

/-- **What the search finds is an enemy.** -/
theorem findAdjacentEnemy_eq_some {s : GameState} {unit : Unit} {j : ℕ}
    (h : findAdjacentEnemy s unit.row unit.col unit.factionId = some j) :
    ∃ q, s.units.get? j = some q ∧ Enemy s unit q := by
  obtain ⟨n, hn, hfound⟩ := List.exists_of_findSome?_eq_some h
  split at hfound
  · cases hfound
  · next hin =>
      have hbounds : InBounds n.1 n.2 s.map.height s.map.width := by
        rw [InBounds]
        omega
      obtain ⟨q, hq, hrow, hcol, halive, hwar⟩ := enemyOnTile_eq_some hfound
      refine ⟨q, hq, UnitVec.mem_list_of_get? hq, halive, hwar, ?_⟩
      rw [hrow, hcol]
      exact (mem_hexNeighbors_iff hbounds).1 hn

/-- **Where the search finds nothing, there is no enemy**, if the units stand in the map. -/
theorem findAdjacentEnemy_eq_none {s : GameState} (hinside : s.UnitsInside) {unit : Unit}
    (h : findAdjacentEnemy s unit.row unit.col unit.factionId = none) (q : OwnedUnit) :
    ¬ Enemy s unit q := by
  rintro ⟨hq, halive, hwar, hdistance⟩
  have hbounds := hinside q hq
  have hn : (q.unit.row, q.unit.col) ∈ hexNeighbors unit.row unit.col :=
    (mem_hexNeighbors_iff hbounds).2 hdistance
  have hnone := List.findSome?_eq_none_iff.1 h _ hn
  rw [InBounds] at hbounds
  dsimp only at hnone
  rw [if_neg (by omega)] at hnone
  exact enemyOnTile_eq_none hnone hq rfl rfl halive hwar

/-! ### Intentions -/

/-- **What a neutral unit has to intend**: to attack exactly when there is an enemy next to it, and
then the tile of an enemy that the unit can attack as soon as it has movement and range; and
otherwise to hold its own tile. -/
structure ExactIntent (s : GameState) (unit : Unit) (a : AIAction) : Prop where
  attack_iff : a.type = .attack ↔ ∃ q, Enemy s unit q
  attacks : a.type = .attack → ∃ j q, s.units.get? j = some q ∧ Enemy s unit q ∧
    (a.targetRow, a.targetCol) = (q.unit.row, q.unit.col) ∧
    (1 ≤ unit.movementRemaining → 1 ≤ unit.attackRange →
      AttackAction.validate { attackerIndex := a.unitIndex, targetIndex := j } s = .valid)
  holds : a.type = .hold → (a.targetRow, a.targetCol) = (unit.row, unit.col)

/-- A unit with movement and range can attack an enemy next to it. -/
theorem validate_of_enemy {s : GameState} {i j : ℕ} {p q : OwnedUnit} (hp : s.units.get? i = some p)
    (halive : p.unit.isAlive = true) (hq : s.units.get? j = some q) (henemy : Enemy s p.unit q)
    (hmovement : 1 ≤ p.unit.movementRemaining) (hrange : 1 ≤ p.unit.attackRange) :
    AttackAction.validate { attackerIndex := i, targetIndex := j } s = .valid := by
  obtain ⟨-, hqalive, hwar, hdistance⟩ := henemy
  have hne := ne_of_areAtWar hwar
  rw [AttackAction.validate, hp, hq]
  dsimp only
  rw [AttackAction.validateUnits, if_neg (not_not.2 halive), if_neg (not_not.2 hqalive),
    if_neg (Ne.symm hne), if_neg (not_not.2 hwar), if_neg, if_neg]
  · rw [hdistance]
    omega
  · rw [attackMovementCost]
    omega

/-- **The intention of a living unit is the right one.** -/
theorem unitAction_exact {s : GameState} (hinside : s.UnitsInside) {i : ℕ} {p : OwnedUnit}
    (hp : s.units.get? i = some p) (halive : p.unit.isAlive = true) :
    ExactIntent s p.unit (unitAction s p.unit.factionId i p.unit) := by
  rw [unitAction]
  cases hfound : findAdjacentEnemy s p.unit.row p.unit.col p.unit.factionId with
  | none =>
      have hnone := findAdjacentEnemy_eq_none hinside hfound
      refine ⟨⟨fun h => (by cases h), fun ⟨q, hq⟩ => absurd hq (hnone q)⟩, fun h => (by cases h),
        fun _ => rfl⟩
  | some j =>
      obtain ⟨q, hq, henemy⟩ := findAdjacentEnemy_eq_some hfound
      rw [Option.bind_some, hq]
      refine ⟨⟨fun _ => ⟨q, henemy⟩, fun _ => rfl⟩, fun _ => ⟨j, q, hq, henemy, rfl, ?_⟩,
        fun h => (by cases h)⟩
      exact validate_of_enemy hp halive hq henemy

/-! ### One intention for each unit -/

theorem unitAction_unitIndex (s : GameState) (f : FactionId) (i : ℕ) (unit : Unit) :
    (unitAction s f i unit).unitIndex = i ∧ (unitAction s f i unit).actingFactionId = f := by
  rw [unitAction]
  split
  · exact ⟨rfl, rfl⟩
  · exact ⟨rfl, rfl⟩

/-- **The living units of a faction have an intention.** -/
theorem mem_generateFactionActions {s : GameState} {f : FactionId} {a : AIAction} :
    a ∈ generateFactionActions s f ↔ ∃ i p, s.units.get? i = some p ∧ p.unit.factionId = f ∧
      p.unit.isAlive = true ∧ a = unitAction s f i p.unit := by
  rw [generateFactionActions, List.mem_filterMap]
  constructor
  · rintro ⟨⟨p, i⟩, hmem, hacts⟩
    dsimp only at hacts
    split at hacts
    · cases hacts
    · next hof =>
        rw [not_or, not_not, not_not] at hof
        exact ⟨i, p, List.mk_mem_zipIdx_iff_getElem?.1 hmem, hof.1, hof.2,
          (Option.some_inj.1 hacts).symm⟩
  · rintro ⟨i, p, hp, hf, halive, rfl⟩
    refine ⟨(p, i), List.mk_mem_zipIdx_iff_getElem?.2 hp, ?_⟩
    dsimp only
    rw [if_neg (by simp [hf, halive])]

/-- No unit of a faction has two intentions. -/
theorem generateFactionActions_nodup (s : GameState) (f : FactionId) :
    ((generateFactionActions s f).map (·.unitIndex)).Nodup := by
  have hindices : ∀ xs : List (OwnedUnit × ℕ),
      ((xs.filterMap fun x =>
        if x.1.unit.factionId ≠ f ∨ ¬ x.1.unit.isAlive then none
        else some (unitAction s f x.2 x.1.unit)).map (·.unitIndex)).Sublist (xs.map Prod.snd) := by
    intro xs
    induction xs with
    | nil => exact List.Sublist.refl []
    | cons x xs ih =>
        obtain ⟨p, i⟩ := x
        rw [List.filterMap_cons]
        dsimp only
        by_cases hother : p.unit.factionId ≠ f ∨ ¬ p.unit.isAlive
        · rw [if_pos hother]
          exact List.Sublist.cons _ ih
        · rw [if_neg hother]
          dsimp only
          rw [List.map_cons, List.map_cons, (unitAction_unitIndex s f i p.unit).1]
          exact List.Sublist.cons_cons _ ih
  refine (hindices s.units.list.zipIdx).nodup ?_
  rw [List.zipIdx_map_snd]
  exact List.nodup_range'

/-- A faction is registered, and is not that of a player. -/
def IsNeutral (s : GameState) (f : FactionId) : Prop :=
  ∃ faction ∈ s.factionRegistry.factions, faction.type ≠ .player ∧ faction.id = f

/-- **The living units of neutral factions have an intention.** -/
theorem mem_generateActions {s : GameState} {a : AIAction} :
    a ∈ generateActions s ↔ ∃ i p, s.units.get? i = some p ∧ IsNeutral s p.unit.factionId ∧
      p.unit.isAlive = true ∧ a = unitAction s p.unit.factionId i p.unit := by
  rw [generateActions, List.mem_flatMap]
  constructor
  · rintro ⟨faction, hfaction, hacts⟩
    obtain ⟨hmem, htype⟩ := List.mem_filter.1 hfaction
    obtain ⟨i, p, hp, hf, halive, rfl⟩ := mem_generateFactionActions.1 hacts
    exact ⟨i, p, hp, ⟨faction, hmem, of_decide_eq_true htype, hf.symm⟩, halive, by rw [hf]⟩
  · rintro ⟨i, p, hp, ⟨faction, hmem, htype, hid⟩, halive, rfl⟩
    refine ⟨faction, List.mem_filter.2 ⟨hmem, decide_eq_true htype⟩, ?_⟩
    exact mem_generateFactionActions.2 ⟨i, p, hp, hid.symm, halive, by rw [hid]⟩

/-- No unit has two intentions, if no two factions have the same identifier. -/
theorem generateActions_nodup {s : GameState}
    (hids : (s.factionRegistry.factions.map (·.id)).Nodup) :
    ((generateActions s).map (·.unitIndex)).Nodup := by
  rw [generateActions, List.map_flatMap, List.nodup_flatMap]
  refine ⟨fun faction _ => generateFactionActions_nodup s faction.id, ?_⟩
  have hpairwise : s.factionRegistry.factions.Pairwise fun x y => x.id ≠ y.id :=
    List.pairwise_map.1 hids
  refine (hpairwise.sublist List.filter_sublist).imp fun {x y} hne => ?_
  -- a unit is of one faction
  intro i hx hy
  obtain ⟨a, ha, rfl⟩ := List.mem_map.1 hx
  obtain ⟨b, hb, hab⟩ := List.mem_map.1 hy
  obtain ⟨i, p, hp, hpf, -, rfl⟩ := mem_generateFactionActions.1 ha
  obtain ⟨j, q, hq, hqf, -, rfl⟩ := mem_generateFactionActions.1 hb
  rw [(unitAction_unitIndex _ _ _ _).1, (unitAction_unitIndex _ _ _ _).1] at hab
  rw [← hab, hq] at hp
  obtain rfl := Option.some_inj.1 hp
  exact hne (hpf.symm.trans hqf)

/-- **Every living unit of a neutral faction, and no other unit, has one intention, and it is the
right one**, if no two factions have the same identifier and the units stand in the map. -/
theorem generateActions_exact {s : GameState}
    (hids : (s.factionRegistry.factions.map (·.id)).Nodup) (hinside : s.UnitsInside) :
    ((generateActions s).map (·.unitIndex)).Nodup ∧
      (∀ i, i ∈ (generateActions s).map (·.unitIndex) ↔ ∃ p, s.units.get? i = some p ∧
        IsNeutral s p.unit.factionId ∧ p.unit.isAlive = true) ∧
      ∀ a ∈ generateActions s, ∃ p, s.units.get? a.unitIndex = some p ∧
        a.actingFactionId = p.unit.factionId ∧ ExactIntent s p.unit a := by
  refine ⟨generateActions_nodup hids, fun i => ?_, fun a ha => ?_⟩
  · rw [List.mem_map]
    constructor
    · rintro ⟨a, ha, rfl⟩
      obtain ⟨i, p, hp, hneutral, halive, rfl⟩ := mem_generateActions.1 ha
      rw [(unitAction_unitIndex _ _ _ _).1]
      exact ⟨p, hp, hneutral, halive⟩
    · rintro ⟨p, hp, hneutral, halive⟩
      exact ⟨_, mem_generateActions.2 ⟨i, p, hp, hneutral, halive, rfl⟩,
        (unitAction_unitIndex _ _ _ _).1⟩
  · obtain ⟨i, p, hp, hneutral, halive, rfl⟩ := mem_generateActions.1 ha
    obtain ⟨hindex, hfaction⟩ := unitAction_unitIndex s p.unit.factionId i p.unit
    exact ⟨p, by rw [hindex, hp], hfaction, unitAction_exact hinside hp halive⟩

/-- A warrior next to one of two hostile guards. -/
def guardedField : GameState :=
  { (((plainField.addUnit (Unit.create 0 0 warriorTemplate 1)).1.addUnit
      (Unit.create 0 1 warriorTemplate 2)).1.addUnit (Unit.create 2 2 warriorTemplate 2)).1 with
    factionRegistry :=
      (((({} : FactionRegistry).addFaction "Romans" .player 0).1).addFaction "Barbarians"
        .neutralHostile 6).1
    diplomacy := DiplomacyManager.empty.setRelation 1 2 .war }

/-- The one attacks, and the other holds its tile. -/
theorem guardedField_exact :
    generateActions guardedField =
        [{ type := .attack, unitIndex := 1, actingFactionId := 2, targetRow := 0, targetCol := 0 },
          { type := .hold, unitIndex := 2, actingFactionId := 2, targetRow := 2, targetCol := 2 }] ∧
      ((generateActions guardedField).map (·.unitIndex)).Nodup ∧
      (∀ i, i ∈ (generateActions guardedField).map (·.unitIndex) ↔
        ∃ p, guardedField.units.get? i = some p ∧ IsNeutral guardedField p.unit.factionId ∧
          p.unit.isAlive = true) ∧
      ∀ a ∈ generateActions guardedField, ∃ p, guardedField.units.get? a.unitIndex = some p ∧
        a.actingFactionId = p.unit.factionId ∧ ExactIntent guardedField p.unit a :=
  ⟨by decide, generateActions_exact (by decide) (by decide)⟩

end NeutralAI

end My4X
