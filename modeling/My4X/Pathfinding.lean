/-
**The movement range.**

The tiles that are shown as reachable are found by a flood from the tile of the unit: a tile is
entered when its terrain is passable and no unit of another faction stands on it, within a budget.
The frontier is a priority queue, which leaves open which of several cheapest nodes it hands out
first; the range does not depend on it.

Main definitions:

* `My4X.isTileBlocked` — whether a tile cannot be entered;
* `My4X.CostQueue` — a priority queue of nodes;
* `My4X.computeMovementRange` — the tiles in range, with what it costs to get there;
* `My4X.passableEdges`, `My4X.freeEdges` — the steps to tiles that are passable, and not blocked.

Main results:

* `My4X.floodRange_eq` — the search is the flood along the steps that are not blocked;
* `My4X.computeMovementRange_spec` — **the range holds the tiles that walks over tiles that are not
  blocked lead to within the budget, at the least cost**.
-/

import My4X.Lib.Fallible
import My4X.Lib.Flood
import My4X.ZoneOfControl
import Mathlib.Data.Finset.Prod
import Mathlib.Data.List.Sigma

set_option relaxedAutoImplicit false
set_option autoImplicit false

namespace My4X

/-- The cost of a tile that was not visited, `std::numeric_limits<int>::max()`. -/
def infiniteCost : ℤ := 2147483647

/-- Whether a tile is blocked for a faction: its terrain is impassable, or a unit of another faction
stands on it. -/
def isTileBlocked (row col : ℤ) (map : Map) (registry : TileRegistry) (units : UnitVec)
    (factionId : FactionId) : Except Fault Bool := do
  let tile ← map.tile row col
  let props := getTerrainProperties tile.terrain
  if ¬ props.passable then return true
  else return (unitsOnTile registry units row col).any fun unit => unit.factionId ≠ factionId

/-! ### The search -/

/-- A tile and the accumulated cost of getting there. -/
abbrev CostNode := Flood.Node TileCoord

/-- The frontier and the best costs of a search. -/
abbrev RangeSearch := Flood.State TileCoord

/-- **A priority queue of nodes**, `std::priority_queue`: it hands out a node of least cost; which
one of several is left open. -/
structure CostQueue extends Flood.Queue TileCoord where
  pop_least : ∀ nodes node rest, pop nodes = some (node, rest) → ∀ other ∈ rest,
    node.cost ≤ other.cost

/-- A tile in range and the least cost of getting there. -/
structure ReachableTile where
  coord : TileCoord
  cost : ℤ
  deriving DecidableEq, Repr

section Search

variable (movementBudget : ℤ) (map : Map) (registry : TileRegistry) (units : UnitVec)
  (factionId : FactionId)

/-- The body of the loop over the neighbours of a node. -/
def visitNeighbor (current : CostNode) (search : RangeSearch) (neighbor : TileCoord) :
    Except Fault RangeSearch := do
  let blocked ← isTileBlocked neighbor.row neighbor.col map registry units factionId
  if blocked then return search
  else
    let tile ← map.tile neighbor.row neighbor.col
    let props := getTerrainProperties tile.terrain
    let newCost := current.cost + props.movementCost
    if movementBudget < newCost then return search
    else
      let existingCost := (search.best.lookup neighbor).getD infiniteCost
      if newCost < existingCost then
        return { frontier := search.frontier ++ [⟨neighbor, newCost⟩]
                 best := search.best.insert neighbor newCost }
      else return search

/-- The loop over the frontier, for a number of rounds: a stale node is skipped, the neighbours of
another one are visited. -/
def floodRange (queue : CostQueue) : ℕ → RangeSearch → Except Fault RangeSearch
  | 0, search => .ok search
  | rounds + 1, search =>
      match queue.pop search.frontier with
      | none => .ok search
      | some (current, frontier) =>
          let search := { search with frontier }
          let isStale := match search.best.lookup current.vertex with
            | none => false
            | some best => best < current.cost
          if isStale then floodRange queue rounds search
          else do
            let search ← (hexNeighbors current.vertex.row current.vertex.col map.height
              map.width).foldlM (visitNeighbor movementBudget map registry units factionId current)
              search
            floodRange queue rounds search

/-- Rounds in which the frontier is certain to become empty. -/
def rangeRounds : ℕ := map.height.toNat * map.width.toNat * (movementBudget.toNat + 1) + 1

/-- **The tiles in range of a starting tile**, without the starting tile itself; the order of the
result is that of an unordered map. -/
def computeMovementRange (queue : CostQueue) (startRow startCol : ℤ) :
    Except Fault (List ReachableTile) := do
  let start : TileCoord := ⟨startRow, startCol⟩
  let search ← floodRange movementBudget map registry units factionId queue
    (rangeRounds movementBudget map)
    { frontier := [⟨start, 0⟩], best := AList.singleton start 0 }
  return (search.best.entries.filter fun entry => entry.1 ≠ start).map fun entry =>
    ⟨entry.1, entry.2⟩

end Search

/-! ### Steps -/

/-- The step to a neighbour of passable terrain, with the cost of entering it. -/
def passableEdge (map : Map) (neighbor : TileCoord) : Option (TileCoord × ℤ) :=
  match map.tile neighbor.row neighbor.col with
  | .error _ => none
  | .ok tile =>
      if (getTerrainProperties tile.terrain).passable then
        some (neighbor, (getTerrainProperties tile.terrain).movementCost)
      else none

/-- **The steps to neighbours of passable terrain.** -/
def passableEdges (map : Map) (t : TileCoord) : List (TileCoord × ℤ) :=
  (hexNeighbors t.row t.col map.height map.width).filterMap (passableEdge map)

/-- A unit of another faction stands on the tile. -/
def holdsForeign (registry : TileRegistry) (units : UnitVec) (factionId : FactionId)
    (t : TileCoord) : Bool :=
  (unitsOnTile registry units t.row t.col).any fun unit => unit.factionId ≠ factionId

/-- **The steps to neighbours that are not blocked.** -/
def freeEdges (map : Map) (registry : TileRegistry) (units : UnitVec) (factionId : FactionId)
    (t : TileCoord) : List (TileCoord × ℤ) :=
  (passableEdges map t).filter fun e => ¬ holdsForeign registry units factionId e.1

theorem passableEdge_eq_some {map : Map} {n : TileCoord} {e : TileCoord × ℤ} :
    passableEdge map n = some e ↔ ∃ tile, map.tile n.row n.col = .ok tile ∧
      (getTerrainProperties tile.terrain).passable = true ∧
      e = (n, (getTerrainProperties tile.terrain).movementCost) := by
  rw [passableEdge]
  cases htile : map.tile n.row n.col with
  | error e => simp
  | ok tile =>
      dsimp only
      split
      · next hpass =>
          constructor
          · intro h
            exact ⟨tile, rfl, hpass, (Option.some_inj.1 h).symm⟩
          · intro h
            obtain ⟨tile', htile', -, rfl⟩ := h
            obtain rfl := Except.ok.inj htile'
            rfl
      · next hpass =>
          refine iff_of_false (by simp) ?_
          intro h
          obtain ⟨tile', htile', hpass', -⟩ := h
          obtain rfl := Except.ok.inj htile'
          exact hpass hpass'

theorem mem_passableEdges {map : Map} {t : TileCoord} {e : TileCoord × ℤ} :
    e ∈ passableEdges map t ↔ e.1 ∈ hexNeighbors t.row t.col map.height map.width ∧
      ∃ tile, map.tile e.1.row e.1.col = .ok tile ∧
        (getTerrainProperties tile.terrain).passable = true ∧
        e.2 = (getTerrainProperties tile.terrain).movementCost := by
  rw [passableEdges, List.mem_filterMap]
  constructor
  · intro h
    obtain ⟨n, hn, he⟩ := h
    obtain ⟨tile, htile, hpass, rfl⟩ := passableEdge_eq_some.1 he
    exact ⟨hn, tile, htile, hpass, rfl⟩
  · intro h
    obtain ⟨hn, tile, htile, hpass, hcost⟩ := h
    exact ⟨e.1, hn, passableEdge_eq_some.2 ⟨tile, htile, hpass, Prod.ext rfl hcost⟩⟩

/-- A step costs something. -/
theorem passableEdges_pos {map : Map} {t : TileCoord} {e : TileCoord × ℤ}
    (h : e ∈ passableEdges map t) : 0 < e.2 := by
  obtain ⟨-, tile, -, hpass, hcost⟩ := mem_passableEdges.1 h
  rw [hcost]
  exact movementCost_pos hpass

/-- The step to a neighbour, unless it is blocked. -/
def freeEdge (map : Map) (registry : TileRegistry) (units : UnitVec) (factionId : FactionId)
    (n : TileCoord) : Option (TileCoord × ℤ) :=
  (passableEdge map n).filter fun e => ¬ holdsForeign registry units factionId e.1

theorem freeEdges_eq (map : Map) (registry : TileRegistry) (units : UnitVec) (factionId : FactionId)
    (t : TileCoord) :
    freeEdges map registry units factionId t =
      (hexNeighbors t.row t.col map.height map.width).filterMap
        (freeEdge map registry units factionId) :=
  List.filter_filterMap

theorem mem_freeEdges {map : Map} {registry : TileRegistry} {units : UnitVec}
    {factionId : FactionId} {t : TileCoord} {e : TileCoord × ℤ} :
    e ∈ freeEdges map registry units factionId t ↔
      e ∈ passableEdges map t ∧ holdsForeign registry units factionId e.1 = false := by
  rw [freeEdges, List.mem_filter]
  simp

/-- The tiles of a map. -/
def Map.coords (map : Map) : Finset TileCoord :=
  (Finset.range map.height.toNat ×ˢ Finset.range map.width.toNat).image fun p => ⟨p.1, p.2⟩

theorem Map.mem_coords {map : Map} {t : TileCoord}
    (h : InBounds t.row t.col map.height map.width) : t ∈ map.coords := by
  obtain ⟨h1, h2, h3, h4⟩ := h
  refine Finset.mem_image.2 ⟨(t.row.toNat, t.col.toNat), ?_, ?_⟩
  · rw [Finset.mem_product, Finset.mem_range, Finset.mem_range]
    exact ⟨by omega, by omega⟩
  · rw [TileCoord.ext_iff']
    exact ⟨by dsimp only; omega, by dsimp only; omega⟩

theorem Map.card_coords_le (map : Map) :
    map.coords.card ≤ map.height.toNat * map.width.toNat := by
  refine le_trans Finset.card_image_le ?_
  rw [Finset.card_product, Finset.card_range, Finset.card_range]

/-! ### The search is a flood -/

section Search

variable {movementBudget : ℤ} {map : Map} {registry : TileRegistry} {units : UnitVec}
  {factionId : FactionId}

/-- A neighbour is blocked where there is no step to it. -/
theorem isTileBlocked_cases (registry : TileRegistry) (units : UnitVec) (factionId : FactionId)
    {n : TileCoord} (hn : InBounds n.row n.col map.height map.width) :
    (isTileBlocked n.row n.col map registry units factionId = .ok true ∧
      freeEdge map registry units factionId n = none) ∨
    (isTileBlocked n.row n.col map registry units factionId = .ok false ∧
      ∃ tile, map.tile n.row n.col = .ok tile ∧
        freeEdge map registry units factionId n =
          some (n, (getTerrainProperties tile.terrain).movementCost)) := by
  obtain ⟨tile, htile⟩ := (map.tile_eq_ok_iff n.row n.col).2 hn
  rw [isTileBlocked, freeEdge, passableEdge, htile, Except.ok_bind]
  dsimp only
  by_cases hpass : (getTerrainProperties tile.terrain).passable = true
  · rw [if_neg (not_not.2 hpass), if_pos hpass]
    show (Except.ok (holdsForeign registry units factionId n) = _ ∧ _) ∨
      (Except.ok (holdsForeign registry units factionId n) = _ ∧ _)
    cases hforeign : holdsForeign registry units factionId n with
    | true => exact Or.inl ⟨rfl, Option.filter_some_neg (by simp [hforeign])⟩
    | false => exact Or.inr ⟨rfl, tile, rfl, Option.filter_some_pos (by simp [hforeign])⟩
  · rw [if_pos hpass, if_neg hpass]
    exact Or.inl ⟨rfl, rfl⟩

/-- Visiting a neighbour follows the step to it, unless it is blocked. -/
theorem visitNeighbor_eq (current : CostNode) (search : RangeSearch) {n : TileCoord}
    (hn : InBounds n.row n.col map.height map.width) :
    visitNeighbor movementBudget map registry units factionId current search n =
      .ok ((freeEdge map registry units factionId n).elim search
        (Flood.relax movementBudget infiniteCost current.cost search)) := by
  rw [visitNeighbor]
  rcases isTileBlocked_cases registry units factionId hn with
    ⟨hblocked, hedge⟩ | ⟨hfree, tile, htile, hedge⟩
  · rw [hblocked, hedge]
    rfl
  · rw [hfree, hedge, htile, Except.ok_bind, if_neg Bool.false_ne_true, Except.ok_bind]
    show (if movementBudget < _ then _ else _) = Except.ok (Flood.relax _ _ _ _ _)
    rw [Flood.relax]
    split
    · rfl
    · dsimp only
      split
      · rfl
      · rfl

/-- Visiting all neighbours of a node follows the steps that are not blocked. -/
theorem foldlM_visitNeighbor (current : CostNode) (search : RangeSearch) :
    (hexNeighbors current.vertex.row current.vertex.col map.height map.width).foldlM
        (visitNeighbor movementBudget map registry units factionId current) search =
      .ok ((freeEdges map registry units factionId current.vertex).foldl
        (Flood.relax movementBudget infiniteCost current.cost) search) := by
  rw [freeEdges_eq]
  refine Fallible.foldlM_eq_foldl_filterMap (fun search n hn => ?_) search
  exact visitNeighbor_eq current search (mem_hexNeighbors_inBounds hn)

/-- **The search is the flood along the steps that are not blocked.** -/
theorem floodRange_eq (queue : CostQueue) (rounds : ℕ) :
    ∀ search : RangeSearch,
      floodRange movementBudget map registry units factionId queue rounds search =
        .ok (Flood.run (freeEdges map registry units factionId) movementBudget infiniteCost
          queue.toQueue rounds search) := by
  induction rounds with
  | zero => intro search; rfl
  | succ rounds ih =>
      intro search
      rw [floodRange, Flood.run]
      cases queue.pop search.frontier with
      | none => rfl
      | some out =>
          obtain ⟨current, frontier⟩ := out
          dsimp only
          rw [foldlM_visitNeighbor, Except.ok_bind, ih, ih]
          show (if Flood.stale search current = true then _ else _) = _
          cases Flood.stale search current with
          | true => rfl
          | false => rfl

/-- Every step that is not blocked leads to a tile of the map, and costs something. -/
theorem freeEdges_inside (map : Map) (registry : TileRegistry) (units : UnitVec)
    (factionId : FactionId) (t : TileCoord) :
    ∀ e ∈ freeEdges map registry units factionId t, e.1 ∈ map.coords ∧ 0 ≤ e.2 := by
  intro e he
  have hpass := (mem_freeEdges.1 he).1
  exact ⟨Map.mem_coords (mem_hexNeighbors_inBounds (mem_passableEdges.1 hpass).1),
    (passableEdges_pos hpass).le⟩

/-- A walk over tiles that are not blocked, within the budget. -/
def RangeWalk (movementBudget : ℤ) (map : Map) (registry : TileRegistry) (units : UnitVec)
    (factionId : FactionId) (start t : TileCoord) (es : List (TileCoord × ℤ)) : Prop :=
  Flood.Walk (freeEdges map registry units factionId) start es ∧ Flood.last start es = t ∧
    Flood.cost es ≤ movementBudget ∧ Flood.cost es < infiniteCost

/-- **The range holds the tiles that walks over tiles that are not blocked lead to within the
budget, each at the least cost of such a walk.** -/
theorem computeMovementRange_spec (movementBudget : ℤ) (map : Map) (registry : TileRegistry)
    (units : UnitVec) (factionId : FactionId) (queue : CostQueue) (startRow startCol : ℤ) :
    ∃ range, computeMovementRange movementBudget map registry units factionId queue startRow
        startCol = .ok range ∧
      (∀ r ∈ range, r.coord ≠ ⟨startRow, startCol⟩ ∧ ∃ es,
        RangeWalk movementBudget map registry units factionId ⟨startRow, startCol⟩ r.coord es ∧
        Flood.cost es = r.cost) ∧
      ∀ t es, t ≠ ⟨startRow, startCol⟩ →
        RangeWalk movementBudget map registry units factionId ⟨startRow, startCol⟩ t es →
        ∃ r ∈ range, r.coord = t ∧ r.cost ≤ Flood.cost es := by
  have hentry : ∀ (search : RangeSearch) (r : ReachableTile),
      r ∈ ((search.best.entries.filter fun entry => entry.1 ≠ ⟨startRow, startCol⟩).map
        fun entry => (⟨entry.1, entry.2⟩ : ReachableTile)) ↔
      r.coord ≠ ⟨startRow, startCol⟩ ∧ search.best.lookup r.coord = some r.cost := by
    intro search r
    rw [List.mem_map]
    constructor
    · intro h
      obtain ⟨entry, hentry, rfl⟩ := h
      obtain ⟨hmem, hne⟩ := List.mem_filter.1 hentry
      exact ⟨of_decide_eq_true hne, AList.mem_lookup_iff.2 hmem⟩
    · intro h
      exact ⟨⟨r.coord, r.cost⟩,
        List.mem_filter.2 ⟨AList.mem_lookup_iff.1 h.2, decide_eq_true h.1⟩, rfl⟩
  have hrounds : map.coords.card * (movementBudget.toNat + 1) + 1 ≤
      rangeRounds movementBudget map :=
    Nat.add_le_add_right (Nat.mul_le_mul_right _ map.card_coords_le) 1
  rw [computeMovementRange, floodRange_eq, Except.ok_bind]
  refine ⟨_, rfl, fun r hr => ?_, fun t es ht hwalk => ?_⟩
  · obtain ⟨hne, hlookup⟩ := (hentry _ r).1 hr
    obtain ⟨es, hwalk, hlast, hcost, hlimit, hbudget⟩ :=
      Flood.exists_walk_of_lookup queue.toQueue _ (by decide) hlookup
    refine ⟨hne, es, ⟨hwalk, hlast, ?_, by rw [hcost]; exact hlimit⟩, hcost⟩
    rcases hbudget with rfl | hbudget
    · exact absurd hlast.symm hne
    · rw [hcost]
      exact hbudget
  · obtain ⟨hwalk, rfl, hbudget, hlimit⟩ := hwalk
    obtain ⟨c, hle, hc⟩ := Flood.exists_lookup_of_walk queue.toQueue
      (freeEdges_inside map registry units factionId) hrounds hwalk hbudget hlimit
    exact ⟨⟨_, c⟩, (hentry _ _).2 ⟨ht, hc⟩, rfl, hle⟩

/-! ### A queue -/

/-- A node of least cost, the first of several, and the other nodes. -/
def popLeast : List CostNode → Option (CostNode × List CostNode)
  | [] => none
  | node :: nodes =>
      match popLeast nodes with
      | none => some (node, [])
      | some (least, rest) =>
          if node.cost ≤ least.cost then some (node, nodes) else some (least, node :: rest)

theorem popLeast_some (nodes : List CostNode) :
    ∀ {least : CostNode} {rest : List CostNode}, popLeast nodes = some (least, rest) →
      nodes.Perm (least :: rest) ∧ ∀ other ∈ rest, least.cost ≤ other.cost := by
  induction nodes with
  | nil => intro least rest h; cases h
  | cons node nodes ih =>
      intro least rest h
      rw [popLeast] at h
      cases hpop : popLeast nodes with
      | none =>
          rw [hpop] at h
          cases h
          have hnil : nodes = [] := by
            cases nodes with
            | nil => rfl
            | cons node' nodes =>
                rw [popLeast] at hpop
                split at hpop
                · cases hpop
                · split at hpop <;> cases hpop
          rw [hnil]
          exact ⟨List.Perm.refl _, fun _ h => absurd h List.not_mem_nil⟩
      | some out =>
          obtain ⟨least', rest'⟩ := out
          obtain ⟨hperm, hleast⟩ := ih hpop
          rw [hpop] at h
          dsimp only at h
          split at h
          · next hle =>
              cases h
              refine ⟨List.Perm.refl _, fun other hother => ?_⟩
              rcases List.mem_cons.1 (hperm.mem_iff.1 hother) with rfl | hother
              · exact hle
              · exact le_trans hle (hleast other hother)
          · next hlt =>
              cases h
              refine ⟨(hperm.cons node).trans (List.Perm.swap _ _ _), fun other hother => ?_⟩
              rcases List.mem_cons.1 hother with rfl | hother
              · omega
              · exact hleast other hother

/-- The queue that hands out the first of several cheapest nodes. -/
def CostQueue.firstLeast : CostQueue where
  pop := popLeast
  pop_none nodes h := by
    cases nodes with
    | nil => rfl
    | cons node nodes =>
        rw [popLeast] at h
        split at h
        · cases h
        · split at h <;> cases h
  pop_some nodes node rest h := (popLeast_some nodes h).1
  pop_least nodes node rest h := (popLeast_some nodes h).2

end Search

end My4X
