/-
**Who controls a tile.**

The enemy factions that control a tile are collected by two nested loops, over its neighbours and
over the units on each of them, and a faction that was found before is not added again.  When the
tile registry is coherent, what is found is exactly the factions at war that have a unit on a tile
of the map next to the tile, and the two questions that the rules ask about zones of control are
questions about these lists.

Main definitions:

* `My4X.enemyZocSources` — the enemy factions that control a tile.

Main results:

* `My4X.nodup_enemyZocSources` — no faction is listed twice;
* `My4X.GameState.Coherent.mem_enemyZocSources` — which factions are listed;
* `My4X.isMovementBlockedByZoc_comm` — a move is blocked when the move back is;
* `My4X.enemyZocSources_exact` — **zones of control are exact**.
-/

import My4X.Coherence
import My4X.NeutralUnits

set_option relaxedAutoImplicit false
set_option autoImplicit false

namespace My4X

/-- **The enemy factions that control a tile.** -/
def enemyZocSources (row col : ℤ) (factionId : FactionId) (map : Map) (registry : TileRegistry)
    (units : UnitVec) (diplomacy : DiplomacyManager) : List FactionId :=
  findAdjacentEnemyFactions row col factionId map registry units diplomacy

/-! ### No faction twice -/

/-- A faction that was found is not added again. -/
theorem nodup_collectEnemyFaction {factionId : FactionId} {diplomacy : DiplomacyManager}
    {result : List FactionId} (h : result.Nodup) (unit : Unit) :
    (collectEnemyFaction factionId diplomacy result unit).Nodup := by
  rw [collectEnemyFaction]
  split
  · exact h
  · split
    · exact h
    · split
      · exact h
      · next hnew =>
          rw [← List.concat_eq_append]
          exact h.concat hnew

section Sources

variable {row col : ℤ} {factionId : FactionId} {map : Map} {registry : TileRegistry}
    {units : UnitVec}
  {diplomacy : DiplomacyManager}

/-- **No faction is listed twice.** -/
theorem nodup_enemyZocSources :
    (enemyZocSources row col factionId map registry units diplomacy).Nodup := by
  rw [enemyZocSources, findAdjacentEnemyFactions]
  -- the outer loop is over the neighbours, the inner one over the units of a neighbour
  refine List.foldlRecOn (motive := List.Nodup) _ _ List.nodup_nil fun result hresult n _ => ?_
  refine List.foldlRecOn (motive := List.Nodup) _ _ hresult fun result hresult unit _ => ?_
  exact nodup_collectEnemyFaction hresult unit

/-- A tile is in the zone of an enemy exactly when someone is listed. -/
theorem isInEnemyZoc_iff :
    isInEnemyZoc row col factionId map registry units diplomacy = true ↔
      enemyZocSources row col factionId map registry units diplomacy ≠ [] := by
  rw [isInEnemyZoc, enemyZocSources, decide_eq_true_iff, Ne, List.isEmpty_iff]

end Sources

/-- In a coherent state the factions listed are those at war that have a unit next to the tile. -/
theorem GameState.Coherent.mem_enemyZocSources {s : GameState} (h : s.Coherent) {row col : ℤ}
    {factionId enemy : FactionId} :
    enemy ∈ enemyZocSources row col factionId s.map s.registry s.units s.diplomacy ↔
      s.diplomacy.areAtWar factionId enemy = true ∧
        ∃ p ∈ s.units.list, p.unit.factionId = enemy ∧
          InBounds p.unit.row p.unit.col s.map.height s.map.width ∧
          hexDistance row col p.unit.row p.unit.col = 1 := by
  rw [enemyZocSources, mem_findAdjacentEnemyFactions, IsEnemy]
  constructor
  · rintro ⟨⟨n, hn, u, hu, rfl⟩, -, hwar⟩
    obtain ⟨⟨p, hp, rfl⟩, hrow, hcol⟩ := h.mem_unitsOnTile.1 hu
    have hin := mem_hexNeighbors_inBounds hn
    have hnear := (mem_hexNeighbors_iff hin).1 hn
    rw [← hrow, ← hcol] at hin hnear
    exact ⟨hwar, p, hp, rfl, hin, hnear⟩
  · rintro ⟨hwar, p, hp, rfl, hin, hnear⟩
    refine ⟨⟨p.unit.coord, (mem_hexNeighbors_iff hin).2 hnear, p.unit, ?_, rfl⟩,
      NeutralAI.ne_of_areAtWar hwar, hwar⟩
    exact h.mem_unitsOnTile.2 ⟨⟨p, hp, rfl⟩, rfl, rfl⟩

/-- **A move is blocked when the move back is.** -/
theorem isMovementBlockedByZoc_comm (fromRow fromCol toRow toCol : ℤ) (factionId : FactionId)
    (map : Map) (registry : TileRegistry) (units : UnitVec) (diplomacy : DiplomacyManager) :
    isMovementBlockedByZoc fromRow fromCol toRow toCol factionId map registry units diplomacy =
      isMovementBlockedByZoc toRow toCol fromRow fromCol factionId map registry units
      diplomacy := by
  rw [Bool.eq_iff_iff, isMovementBlockedByZoc_iff, isMovementBlockedByZoc_iff]
  exact exists_congr fun enemy => and_comm

/-- **Zones of control are exact.**  In a coherent state the list of a tile holds, each once,
exactly the factions at war that have a unit on a tile of the map at distance one; a tile is in the
zone of an enemy exactly when its list is not empty, and a move is blocked exactly when the lists of
its ends share a faction, in both directions alike. -/
theorem enemyZocSources_exact {s : GameState} (h : s.Coherent) (factionId : FactionId) :
    (∀ row col,
      (enemyZocSources row col factionId s.map s.registry s.units s.diplomacy).Nodup ∧
      (∀ enemy, enemy ∈ enemyZocSources row col factionId s.map s.registry s.units s.diplomacy ↔
        s.diplomacy.areAtWar factionId enemy = true ∧
          ∃ p ∈ s.units.list, p.unit.factionId = enemy ∧
            InBounds p.unit.row p.unit.col s.map.height s.map.width ∧
            hexDistance row col p.unit.row p.unit.col = 1) ∧
      (isInEnemyZoc row col factionId s.map s.registry s.units s.diplomacy = true ↔
        enemyZocSources row col factionId s.map s.registry s.units s.diplomacy ≠ [])) ∧
    ∀ fromRow fromCol toRow toCol,
      (isMovementBlockedByZoc fromRow fromCol toRow toCol factionId s.map s.registry s.units
          s.diplomacy = true ↔
        ∃ enemy,
          enemy ∈ enemyZocSources fromRow fromCol factionId s.map s.registry s.units s.diplomacy ∧
          enemy ∈ enemyZocSources toRow toCol factionId s.map s.registry s.units s.diplomacy) ∧
      isMovementBlockedByZoc fromRow fromCol toRow toCol factionId s.map s.registry s.units
          s.diplomacy =
        isMovementBlockedByZoc toRow toCol fromRow fromCol factionId s.map s.registry s.units
          s.diplomacy := by
  refine ⟨fun row col => ⟨nodup_enemyZocSources, fun enemy => h.mem_enemyZocSources,
    isInEnemyZoc_iff⟩, fun fromRow fromCol toRow toCol => ⟨?_, ?_⟩⟩
  · rw [isMovementBlockedByZoc_iff]
    exact exists_congr fun enemy => and_comm
  · exact isMovementBlockedByZoc_comm _ _ _ _ _ _ _ _ _

/-- Two units of one enemy on opposite sides of a tile, and a third one of a faction at peace: the
enemy is listed once. -/
def crowdedField : GameState :=
  let s := (((plainField.addUnit (Unit.create 1 0 warriorTemplate 2)).1.addUnit
    (Unit.create 1 2 warriorTemplate 2)).1.addUnit (Unit.create 0 1 warriorTemplate 3)).1
  { s with diplomacy := s.diplomacy.setRelation 1 2 .war }

theorem crowdedField_coherent : crowdedField.Coherent := by
  have hempty : plainField.Coherent := OccupancyIndex.tracks_empty
  exact (((hempty.addUnit _).addUnit _).addUnit _).of_eq rfl rfl

/-- The centre of the crowded field is controlled by the enemy, which blocks moves inside its
zone. -/
theorem crowdedField_sources :
    enemyZocSources 1 1 1 crowdedField.map crowdedField.registry crowdedField.units
        crowdedField.diplomacy = [2] ∧
      (∀ enemy, enemy ∈ [(2 : FactionId)] ↔
        crowdedField.diplomacy.areAtWar 1 enemy = true ∧
          ∃ p ∈ crowdedField.units.list, p.unit.factionId = enemy ∧
            InBounds p.unit.row p.unit.col 3 3 ∧ hexDistance 1 1 p.unit.row p.unit.col = 1) ∧
      isMovementBlockedByZoc 1 1 0 1 1 crowdedField.map crowdedField.registry crowdedField.units
        crowdedField.diplomacy = true := by
  obtain ⟨hsources, hblocked⟩ := enemyZocSources_exact crowdedField_coherent 1
  have hcentre : enemyZocSources 1 1 1 crowdedField.map crowdedField.registry crowdedField.units
      crowdedField.diplomacy = [2] := by decide
  have hnorth : enemyZocSources 0 1 1 crowdedField.map crowdedField.registry crowdedField.units
      crowdedField.diplomacy = [2] := by decide
  refine ⟨hcentre, fun enemy => ?_, (hblocked 1 1 0 1).1.2 ⟨2, ?_, ?_⟩⟩
  · rw [← hcentre]
    exact (hsources 1 1).2.1 enemy
  · rw [hcentre]
    exact List.mem_singleton_self 2
  · rw [hnorth]
    exact List.mem_singleton_self 2

end My4X
