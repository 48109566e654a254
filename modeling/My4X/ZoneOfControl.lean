/-
**Zones of control.**

A unit exerts a zone of control over the tiles next to it.  A move from one tile to another is
blocked when one enemy faction controls both.  The factions that control a tile are collected from
the tile registry, so that the order in which they are found depends on the order in which the
units were registered; whether a move is blocked does not.

Main definitions:

* `My4X.findAdjacentEnemyFactions` — the enemy factions next to a tile;
* `My4X.isInEnemyZoc` — whether a tile is in the zone of an enemy;
* `My4X.isMovementBlockedByZoc` — whether a move is blocked.

Main results:

* `My4X.mem_findAdjacentEnemyFactions` — a faction is found exactly when one of its units stands
  next to the tile and the factions are at war;
* `My4X.isMovementBlockedByZoc_iff` — **a move is blocked exactly when one enemy faction is next to
  both of its ends**.
-/

import My4X.GameState

set_option relaxedAutoImplicit false
set_option autoImplicit false

namespace My4X

/-- The body of the loop over the units of a neighbour: keeps the faction of a unit that is an
enemy and not yet found. -/
def collectEnemyFaction (factionId : FactionId) (diplomacy : DiplomacyManager)
    (result : List FactionId) (unit : Unit) : List FactionId :=
  if unit.factionId = factionId then result
  else if ¬ diplomacy.areAtWar factionId unit.factionId then result
  else if unit.factionId ∈ result then result
  else result ++ [unit.factionId]

/-- The enemy factions whose units stand next to a tile, each once. -/
def findAdjacentEnemyFactions (row col : ℤ) (factionId : FactionId) (map : Map)
    (registry : TileRegistry) (units : UnitVec) (diplomacy : DiplomacyManager) : List FactionId :=
  (hexNeighbors row col map.height map.width).foldl
    (fun result neighbor =>
      (unitsOnTile registry units neighbor.row neighbor.col).foldl
        (collectEnemyFaction factionId diplomacy) result) []

/-- Whether a tile lies in the zone of control of an enemy. -/
def isInEnemyZoc (row col : ℤ) (factionId : FactionId) (map : Map) (registry : TileRegistry)
    (units : UnitVec) (diplomacy : DiplomacyManager) : Bool :=
  ¬ (findAdjacentEnemyFactions row col factionId map registry units diplomacy).isEmpty

/-- Whether a move is blocked: the destination is controlled by an enemy faction that also controls
the source. -/
def isMovementBlockedByZoc (fromRow fromCol toRow toCol : ℤ) (factionId : FactionId) (map : Map)
    (registry : TileRegistry) (units : UnitVec) (diplomacy : DiplomacyManager) : Bool :=
  let destEnemies :=
    findAdjacentEnemyFactions toRow toCol factionId map registry units diplomacy
  if destEnemies.isEmpty then false
  else
    let srcEnemies :=
      findAdjacentEnemyFactions fromRow fromCol factionId map registry units diplomacy
    destEnemies.any fun enemy => enemy ∈ srcEnemies

/-! ### What the loops find -/

/-- The faction of a unit is an enemy of a faction. -/
def IsEnemy (factionId : FactionId) (diplomacy : DiplomacyManager) (enemy : FactionId) : Prop :=
  enemy ≠ factionId ∧ diplomacy.areAtWar factionId enemy = true

theorem mem_collectEnemyFaction {factionId enemy : FactionId} {diplomacy : DiplomacyManager}
    {result : List FactionId} {unit : Unit} :
    enemy ∈ collectEnemyFaction factionId diplomacy result unit ↔
      enemy ∈ result ∨ (unit.factionId = enemy ∧ IsEnemy factionId diplomacy enemy) := by
  rw [collectEnemyFaction, IsEnemy]
  split
  · next hown =>
      constructor
      · exact Or.inl
      · intro h
        rcases h with h | ⟨rfl, hne, -⟩
        · exact h
        · exact absurd hown hne
  · next hown =>
      split
      · next hpeace =>
          constructor
          · exact Or.inl
          · intro h
            rcases h with h | ⟨rfl, -, hwar⟩
            · exact h
            · exact absurd hwar hpeace
      · next hwar =>
          rw [not_not] at hwar
          split
          · next hmem =>
              constructor
              · exact Or.inl
              · intro h
                rcases h with h | ⟨rfl, -⟩
                · exact h
                · exact hmem
          · rw [List.mem_append, List.mem_singleton]
            constructor
            · intro h
              rcases h with h | rfl
              · exact Or.inl h
              · exact Or.inr ⟨rfl, hown, hwar⟩
            · intro h
              rcases h with h | ⟨rfl, -⟩
              · exact Or.inl h
              · exact Or.inr rfl

/-- The inner loop, over the units of one tile. -/
theorem mem_foldl_collectEnemyFaction {factionId enemy : FactionId}
    {diplomacy : DiplomacyManager} (us : List Unit) :
    ∀ result : List FactionId,
      enemy ∈ us.foldl (collectEnemyFaction factionId diplomacy) result ↔
        enemy ∈ result ∨ ((∃ u ∈ us, u.factionId = enemy) ∧ IsEnemy factionId diplomacy enemy) := by
  induction us with
  | nil => intro result; simp
  | cons u us ih =>
      intro result
      rw [List.foldl_cons, ih, mem_collectEnemyFaction, List.exists_mem_cons_iff]
      rw [or_and_right, or_assoc]

/-- **A faction is found exactly when one of its units stands next to the tile and the two factions
are at war.** -/
theorem mem_findAdjacentEnemyFactions {row col : ℤ} {factionId enemy : FactionId} {map : Map}
    {registry : TileRegistry} {units : UnitVec} {diplomacy : DiplomacyManager} :
    enemy ∈ findAdjacentEnemyFactions row col factionId map registry units diplomacy ↔
      (∃ n ∈ hexNeighbors row col map.height map.width,
        ∃ u ∈ unitsOnTile registry units n.row n.col, u.factionId = enemy) ∧
      IsEnemy factionId diplomacy enemy := by
  -- the outer loop, over the neighbours, from any list of factions found so far
  have houter : ∀ (ns : List TileCoord) (result : List FactionId),
      enemy ∈ ns.foldl (fun result n => (unitsOnTile registry units n.row n.col).foldl
          (collectEnemyFaction factionId diplomacy) result) result ↔
        enemy ∈ result ∨
          ((∃ n ∈ ns, ∃ u ∈ unitsOnTile registry units n.row n.col, u.factionId = enemy) ∧
            IsEnemy factionId diplomacy enemy) := by
    intro ns
    induction ns with
    | nil => intro result; simp
    | cons n ns ih =>
        intro result
        rw [List.foldl_cons, ih, mem_foldl_collectEnemyFaction, List.exists_mem_cons_iff]
        rw [or_and_right, or_assoc]
  rw [findAdjacentEnemyFactions, houter]
  simp

/-- **A move is blocked exactly when one enemy faction is next to both of its ends.** -/
theorem isMovementBlockedByZoc_iff {fromRow fromCol toRow toCol : ℤ} {factionId : FactionId}
    {map : Map} {registry : TileRegistry} {units : UnitVec} {diplomacy : DiplomacyManager} :
    isMovementBlockedByZoc fromRow fromCol toRow toCol factionId map registry units diplomacy =
        true ↔
      ∃ enemy,
        enemy ∈ findAdjacentEnemyFactions toRow toCol factionId map registry units diplomacy ∧
        enemy ∈ findAdjacentEnemyFactions fromRow fromCol factionId map registry units
        diplomacy := by
  rw [isMovementBlockedByZoc]
  cases hdest : findAdjacentEnemyFactions toRow toCol factionId map registry units diplomacy with
  | nil => simp
  | cons e es => simp

end My4X
