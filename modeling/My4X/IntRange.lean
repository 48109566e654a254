/-
**The movement range with `int`s.**

The flood adds up the costs of the tiles in `int`s.  A cost on the frontier is within the budget,
and entering a tile costs three at most, so that every sum fits for a budget of up to `2147483644`.
With the largest budget nothing need overflow either, but the end of a long corridor is left out
there.

Main definitions:

* `My4X.Machine.computeMovementRange` — the tiles in range, with `int`s.

Main results:

* `My4X.Machine.floodRange_eq` — where the sums fit, the flood is the one with integers;
* `My4X.Machine.computeMovementRange_eq` — **for a budget of up to `2147483644` the range is the one
  with integers**;
* `My4X.Machine.computeMovementRange_exact` — **the range is exact for such a budget**.
-/

import My4X.Lib.Association
import My4X.IntArithmetic
import My4X.Routes

set_option relaxedAutoImplicit false
set_option autoImplicit false

namespace My4X

open Flood (Leads)

/-- Entering a tile costs three at most. -/
theorem movementCost_le (t : TerrainType) : (getTerrainProperties t).movementCost ≤ 3 := by
  cases t <;> decide

theorem Map.entryCost_le (map : Map) (t : TileCoord) : map.entryCost t ≤ 3 := by
  rw [Map.entryCost]
  cases map.tile t.row t.col with
  | error e => exact Int.le.intro_sub 3 rfl
  | ok tile => exact movementCost_le tile.terrain

namespace Machine

/-! ### The search -/

section Search

variable (movementBudget : ℤ) (map : Map) (registry : TileRegistry) (units : UnitVec)
  (factionId : FactionId)

/-- The body of the loop over the neighbours of a node, with `int`s. -/
def visitNeighbor (current : CostNode) (search : RangeSearch) (neighbor : TileCoord) :
    Except Fault RangeSearch := do
  let blocked ← isTileBlocked neighbor.row neighbor.col map registry units factionId
  if blocked then return search
  else
    let tile ← map.tile neighbor.row neighbor.col
    let props := getTerrainProperties tile.terrain
    let newCost := int (current.cost + props.movementCost)
    if movementBudget < newCost then return search
    else
      let existingCost := (search.best.lookup neighbor).getD infiniteCost
      if newCost < existingCost then
        return { frontier := search.frontier ++ [⟨neighbor, newCost⟩]
                 best := search.best.insert neighbor newCost }
      else return search

/-- The loop over the frontier, for a number of rounds, with `int`s. -/
def floodRange (queue : CostQueue) : ℕ → RangeSearch → Except Fault RangeSearch
  | 0, search => .ok search
  | rounds + 1, search =>
      match queue.pop search.frontier with
      | none => .ok search
      | some (current, frontier) =>
          let search := { search with frontier }
          let isStale := match search.best.lookup current.vertex with
            | none => false
            | some best => best < current.cost
          if isStale then floodRange queue rounds search
          else do
            let search ← (hexNeighbors current.vertex.row current.vertex.col map.height
              map.width).foldlM (visitNeighbor movementBudget map registry units factionId current)
              search
            floodRange queue rounds search

/-- **The tiles in range of a starting tile**, with `int`s. -/
def computeMovementRange (queue : CostQueue) (startRow startCol : ℤ) :
    Except Fault (List ReachableTile) := do
  let start : TileCoord := ⟨startRow, startCol⟩
  let search ← floodRange movementBudget map registry units factionId queue
    (rangeRounds movementBudget map)
    { frontier := [⟨start, 0⟩], best := AList.singleton start 0 }
  return (search.best.entries.filter fun entry => entry.1 ≠ start).map fun entry =>
    ⟨entry.1, entry.2⟩

end Search

/-! ### Where the sums fit -/

section Search

variable {movementBudget : ℤ} {map : Map} {registry : TileRegistry} {units : UnitVec}
  {factionId : FactionId}

/-- Visiting a neighbour is as it is with integers, where the cost that comes out fits. -/
theorem visitNeighbor_eq {current : CostNode} (search : RangeSearch) (n : TileCoord)
    (hfits : IsInt (current.cost + map.entryCost n)) :
    visitNeighbor movementBudget map registry units factionId current search n =
      My4X.visitNeighbor movementBudget map registry units factionId current search n := by
  rw [visitNeighbor, My4X.visitNeighbor]
  cases htile : map.tile n.row n.col with
  | error e => rfl
  | ok tile =>
      rw [Map.entryCost, htile] at hfits
      simp only [Except.ok_bind, int_eq_self hfits]

/-- Visiting all neighbours follows the steps that are not blocked, where every sum fits. -/
theorem foldlM_visitNeighbor {current : CostNode} (search : RangeSearch)
    (hfits : ∀ n ∈ hexNeighbors current.vertex.row current.vertex.col map.height map.width,
      IsInt (current.cost + map.entryCost n)) :
    (hexNeighbors current.vertex.row current.vertex.col map.height map.width).foldlM
        (visitNeighbor movementBudget map registry units factionId current) search =
      .ok (Flood.expand (freeEdges map registry units factionId) movementBudget infiniteCost search
        current) := by
  rw [Flood.expand, freeEdges_eq]
  refine Fallible.foldlM_eq_foldl_filterMap (fun search n hn => ?_) search
  rw [visitNeighbor_eq search n (hfits n hn)]
  exact My4X.visitNeighbor_eq current search (mem_hexNeighbors_inBounds hn)

/-- **Where every sum fits the flood is the one with integers.** -/
theorem floodRange_eq (queue : CostQueue) {Inv : RangeSearch → Prop}
    (hfits : ∀ {search : RangeSearch} {current : CostNode}, Inv search →
      current ∈ search.frontier → Flood.stale search current = false →
      ∀ n ∈ hexNeighbors current.vertex.row current.vertex.col map.height map.width,
        IsInt (current.cost + map.entryCost n))
    (hround : ∀ {search : RangeSearch} {current : CostNode} {rest : List CostNode}, Inv search →
      search.frontier.Perm (current :: rest) →
      Inv (if Flood.stale search current then { search with frontier := rest }
        else Flood.expand (freeEdges map registry units factionId) movementBudget infiniteCost
          { search with frontier := rest } current)) (rounds : ℕ) :
    ∀ {search : RangeSearch}, Inv search →
      floodRange movementBudget map registry units factionId queue rounds search =
        My4X.floodRange movementBudget map registry units factionId queue rounds search := by
  induction rounds with
  | zero => intro search _; rfl
  | succ rounds ih =>
      intro search hinv
      rw [floodRange, My4X.floodRange]
      cases hpop : queue.pop search.frontier with
      | none => rfl
      | some out =>
          obtain ⟨current, rest⟩ := out
          have hperm := queue.pop_some _ _ _ hpop
          have hnext := hround hinv hperm
          dsimp only
          show (if Flood.stale search current = true then _ else _) =
            (if Flood.stale search current = true then _ else _)
          cases hstale : Flood.stale search current with
          | true =>
              rw [hstale, if_pos rfl] at hnext
              rw [if_pos rfl, if_pos rfl]
              exact ih hnext
          | false =>
              rw [hstale, if_neg Bool.false_ne_true] at hnext
              have hexpand : (hexNeighbors current.vertex.row current.vertex.col map.height
                  map.width).foldlM
                    (visitNeighbor movementBudget map registry units factionId current)
                    { search with frontier := rest } = _ :=
                foldlM_visitNeighbor { search with frontier := rest }
                (hfits hinv (hperm.mem_iff.2 List.mem_cons_self) hstale)
              rw [if_neg Bool.false_ne_true, if_neg Bool.false_ne_true, hexpand,
                My4X.foldlM_visitNeighbor, Except.ok_bind, Except.ok_bind]
              exact ih hnext

/-- Where entering a tile of the map costs so little that every sum fits, the range is the one with
integers: what is on the frontier is within the budget, and below what a tile that was not visited
counts as. -/
theorem computeMovementRange_eq_of_entryCost_le {most : ℤ}
    (hmost : ∀ n : TileCoord, InBounds n.row n.col map.height map.width → map.entryCost n ≤ most)
    (hbudget : min movementBudget 2147483646 + most ≤ 2147483647) (queue : CostQueue)
    (startRow startCol : ℤ) :
    computeMovementRange movementBudget map registry units factionId queue startRow startCol =
      My4X.computeMovementRange movementBudget map registry units factionId queue startRow
        startCol := by
  have hstart : Flood.Sound (freeEdges map registry units factionId) movementBudget infiniteCost
      ⟨startRow, startCol⟩ (Flood.start ⟨startRow, startCol⟩) := Flood.sound_start (by decide)
  have hfits : ∀ {search : RangeSearch} {current : CostNode},
      Flood.Sound (freeEdges map registry units factionId) movementBudget infiniteCost
        ⟨startRow, startCol⟩ search → current ∈ search.frontier →
      Flood.stale search current = false →
      ∀ n ∈ hexNeighbors current.vertex.row current.vertex.col map.height map.width,
        IsInt (current.cost + map.entryCost n) := by
    intro search current hsound hmem _ n hn
    obtain ⟨es, hwalk, -, hcost, hlimit, hpaid⟩ := hsound.reached.frontier current hmem
    have hnonneg := hwalk.cost_nonneg fun t e he =>
      (freeEdges_inside map registry units factionId t e he).2
    have hentry := hmost n (mem_hexNeighbors_inBounds hn)
    have hthree := map.entryCost_le n
    have hentry0 := map.entryCost_nonneg n
    rw [infiniteCost] at hlimit
    rcases hpaid with rfl | hpaid
    · rw [Flood.cost_nil] at hcost
      exact ⟨by omega, by omega⟩
    · exact ⟨by omega, by omega⟩
  have hflood := floodRange_eq queue hfits (fun hsound hperm => hsound.pop hperm)
    (rangeRounds movementBudget map) hstart
  rw [Flood.start] at hflood
  rw [computeMovementRange, My4X.computeMovementRange, hflood]

/-- **For a budget of up to `2147483644` the range is the one with integers.** -/
theorem computeMovementRange_eq (hbudget : movementBudget ≤ 2147483644) (queue : CostQueue)
    (startRow startCol : ℤ) :
    computeMovementRange movementBudget map registry units factionId queue startRow startCol =
      My4X.computeMovementRange movementBudget map registry units factionId queue startRow
        startCol :=
  computeMovementRange_eq_of_entryCost_le (fun n _ => map.entryCost_le n) (by omega) queue startRow
    startCol

/-- **The range is exact for a budget of up to `2147483644`**: it holds every tile that routes lead
to within the budget, once, with the least cost of a route. -/
theorem computeMovementRange_exact (movementBudget : ℤ) (map : Map) (registry : TileRegistry)
    (units : UnitVec) (factionId : FactionId) (queue : CostQueue) (startRow startCol : ℤ)
    (hbudget : movementBudget ≤ 2147483644) :
    ∃ range,
      computeMovementRange movementBudget map registry units factionId queue startRow startCol =
        .ok range ∧
      (range.map ReachableTile.coord).Nodup ∧
      ∀ t c, (⟨t, c⟩ : ReachableTile) ∈ range ↔
        t ≠ ⟨startRow, startCol⟩ ∧ c ≤ movementBudget ∧
        (∃ path, Leads (FreeStep map registry units factionId) ⟨startRow, startCol⟩ path t ∧
          map.pathCost path = c) ∧
        ∀ path, Leads (FreeStep map registry units factionId) ⟨startRow, startCol⟩ path t →
          c ≤ map.pathCost path := by
  obtain ⟨range, hrange, hnodup, hexact⟩ := computeMovementRange_routes movementBudget map registry
    units factionId queue startRow startCol
  refine ⟨range, (computeMovementRange_eq hbudget queue startRow startCol).trans hrange, hnodup,
    fun t c => (hexact t c).trans ?_⟩
  constructor
  · rintro ⟨hne, hle, -, hroute⟩
    exact ⟨hne, hle, hroute⟩
  · rintro ⟨hne, hle, hroute⟩
    have hlimit : c < infiniteCost := lt_of_le_of_lt (le_trans hle hbudget) (by decide)
    exact ⟨hne, hle, hlimit, hroute⟩

/-- The end of a short corridor is in range. -/
theorem corridor_inRange :
    ∃ range, computeMovementRange 4 (corridor 2) .empty .empty 1 CostQueue.firstLeast 0 0 =
        .ok range ∧ ⟨⟨0, 2⟩, 4⟩ ∈ range := by
  obtain ⟨range, hrange, -, hexact⟩ := computeMovementRange_exact 4 (corridor 2) .empty .empty 1
    CostQueue.firstLeast 0 0 (by decide)
  obtain ⟨hleads, hcost⟩ := corridor_leads .empty 1 (n := 2) 2 (le_refl 0) (by decide)
  refine ⟨range, hrange, (hexact ⟨0, 2⟩ 4).2 ⟨by decide, by decide, ⟨_, hleads, hcost⟩, ?_⟩⟩
  intro path hpath
  exact corridor_le_pathCost .empty 1 path rfl hpath

end Search

end Machine

/-! ### The long corridor -/

/-- **What a search keeps in the corridor**: what the way there costs, for the tiles up to some
column before the last. -/
def CorridorScores (n : ℕ) (scores : AList fun _ : TileCoord => ℤ) : Prop :=
  ∀ t c, scores.lookup t = some c → t.row = 0 ∧ 0 ≤ t.col ∧ t.col < n ∧ c = corridorCost t.col ∧
    (0 < t.col → ∃ c', scores.lookup ⟨0, t.col - 1⟩ = some c')

section Corridor

variable {n : ℕ} {scores : AList fun _ : TileCoord => ℤ} {t m : TileCoord} {g : ℤ}

theorem corridorScores_start (hn : 0 < n) :
    CorridorScores n (AList.singleton ⟨0, 0⟩ 0) := by
  intro t c hc
  have hmem := AList.mem_lookup_iff.1 hc
  rw [AList.singleton_entries, List.mem_singleton] at hmem
  cases hmem
  exact ⟨rfl, le_refl 0, Int.natCast_pos.2 hn, rfl, fun hpos => absurd hpos (lt_irrefl 0)⟩

/-- **A better score is found only one column further on**, before the last column, when the way to
the last one costs as much as a tile that was not visited. -/
theorem CorridorScores.better (h : CorridorScores n scores) (hn : corridorCost n = infiniteCost)
    (hg : scores.lookup t = some g) {registry : TileRegistry} {factionId : FactionId}
    (hstep : FreeStep (corridor n) registry .empty factionId t m)
    (hlower : g + (corridor n).entryCost m < (scores.lookup m).getD infiniteCost) :
    scores.lookup m = none ∧ m.row = 0 ∧ m.col = t.col + 1 ∧ m.col < n ∧
      g + (corridor n).entryCost m = corridorCost m.col := by
  obtain ⟨hrow, h0, hcol, rfl, hwest⟩ := h t g hg
  obtain ⟨hmrow, hstepcost⟩ := corridor_step registry factionId hrow hstep
  obtain ⟨-, -, hm0, hmn⟩ := hstep.inBounds
  have hwidth : (corridor n).width = n + 1 := rfl
  have hnear := hstep.near
  rw [hexDistance_eq, cubeDistance_eq_one_iff, cubeX, cubeX, hrow, hmrow] at hnear
  have hm : m = ⟨0, m.col⟩ := TileCoord.ext_iff'.2 ⟨hmrow, rfl⟩
  have hpos := hstep.entryCost_pos
  by_cases heast : m.col = t.col + 1
  · have hcost := corridor_entryCost n m.col (by omega) (by omega)
    rw [← hm, heast, Int.add_sub_cancel, ← heast] at hcost
    have hsum : corridorCost t.col + (corridor n).entryCost m = corridorCost m.col := by omega
    cases hlook : scores.lookup m with
    | none =>
        rw [hlook, Option.getD_none, hsum] at hlower
        refine ⟨rfl, hmrow, heast, ?_, hsum⟩
        by_contra hlast
        rw [show m.col = n from by omega, hn] at hlower
        exact lt_irrefl _ hlower
    | some c =>
        obtain ⟨-, -, -, hc, -⟩ := h m c hlook
        rw [hlook, Option.getD_some, hsum, hc] at hlower
        exact absurd hlower (lt_irrefl _)
  · obtain ⟨c, hc⟩ := hwest (by omega)
    rw [show (⟨0, t.col - 1⟩ : TileCoord) = m from
      TileCoord.ext_iff'.2 ⟨hmrow.symm, by dsimp only; omega⟩] at hc
    obtain ⟨-, -, -, hcost, -⟩ := h m c hc
    have hless : corridorCost m.col ≤ corridorCost t.col := by
      rw [show m.col = t.col - 1 from by omega, corridorCost, corridorCost]
      split
      · split
        · omega
        · omega
      · split
        · omega
        · omega
    rw [hc, Option.getD_some] at hlower
    omega

/-- Keeping such a score. -/
theorem CorridorScores.insert (h : CorridorScores n scores) (hrow : m.row = 0)
    (hcol : m.col = t.col + 1) (hlast : m.col < n) (hg : scores.lookup t = some g) :
    CorridorScores n (scores.insert m (corridorCost m.col)) := by
  obtain ⟨htrow, h0, -⟩ := h t g hg
  have hlookup := fun u => Association.lookup_insert scores m u (corridorCost m.col)
  intro u c hc
  rw [hlookup] at hc
  have hkept : ∀ {v : TileCoord}, (∃ c', scores.lookup v = some c') →
      ∃ c', (scores.insert m (corridorCost m.col)).lookup v = some c' := by
    rintro v ⟨c', hc'⟩
    rw [hlookup]
    split
    · exact ⟨_, rfl⟩
    · exact ⟨c', hc'⟩
  split at hc
  · next hu =>
      obtain rfl := hu
      obtain rfl := Option.some_inj.1 hc
      refine ⟨hrow, by omega, hlast, rfl, fun _ => hkept ⟨g, ?_⟩⟩
      rw [show (⟨0, u.col - 1⟩ : TileCoord) = t from
        TileCoord.ext_iff'.2 ⟨htrow.symm, by dsimp only; omega⟩]
      exact hg
  · obtain ⟨h1, h2, h3, h4, h5⟩ := h u c hc
    exact ⟨h1, h2, h3, h4, fun hpos => hkept (h5 hpos)⟩

end Corridor

namespace Machine

/-- What a flood through the corridor keeps, and has on its frontier. -/
structure CorridorFlood (n : ℕ) (search : RangeSearch) : Prop where
  scores : CorridorScores n search.best
  frontier : ∀ node ∈ search.frontier, search.best.lookup node.vertex = some node.cost

/-- Following steps from a tile of the corridor keeps the frontier as it is kept. -/
theorem CorridorFlood.foldl {n : ℕ} (hn : corridorCost n = infiniteCost) {registry : TileRegistry}
    {factionId : FactionId} {movementBudget g : ℤ} {t : TileCoord} (es : List (TileCoord × ℤ)) :
    ∀ {search : RangeSearch}, CorridorFlood n search → search.best.lookup t = some g →
      (∀ e ∈ es, e ∈ freeEdges (corridor n) registry .empty factionId t) →
      CorridorFlood n (es.foldl (Flood.relax movementBudget infiniteCost g) search) := by
  induction es with
  | nil => intro search h _ _; exact h
  | cons e es ih =>
      intro search h hg hes
      obtain ⟨hstep, hcost⟩ := ((freeEdges_weighs (corridor n) registry .empty factionId).mem_iff
        t e).1 (hes e List.mem_cons_self)
      have hrest := fun e' he' => hes e' (List.mem_cons_of_mem e he')
      rcases Flood.relax_cases movementBudget infiniteCost g search e with
        ⟨hsame, -⟩ | ⟨hnew, -, hlower⟩
      · rw [List.foldl_cons, hsame]
        exact ih h hg hrest
      · rw [hcost] at hlower
        obtain ⟨hnone, hrow, hcol, hlast, hsum⟩ := h.scores.better hn hg hstep hlower
        have hlookup := fun u => Association.lookup_insert search.best e.1 u (g + e.2)
        -- what was kept was kept for other tiles
        have hkept : ∀ {u c}, search.best.lookup u = some c →
            (search.best.insert e.1 (g + e.2)).lookup u = some c := by
          intro u c hu
          rw [hlookup, if_neg (fun heq => by rw [heq, hnone] at hu; cases hu)]
          exact hu
        rw [List.foldl_cons, hnew]
        refine ih ⟨?_, fun node hnode => ?_⟩ (hkept hg) hrest
        · dsimp only
          rw [hcost, hsum]
          exact h.scores.insert hrow hcol hlast hg
        · rcases List.mem_append.1 hnode with hnode | hnode
          · exact hkept (h.frontier node hnode)
          · obtain rfl := List.mem_singleton.1 hnode
            exact (hlookup e.1).trans (if_pos rfl)

/-- In the long corridor every sum fits, with any budget. -/
theorem longCorridor_range_eq (movementBudget : ℤ) (registry : TileRegistry)
    (factionId : FactionId) (queue : CostQueue) :
    computeMovementRange movementBudget (corridor 715827883) registry .empty factionId queue 0 0 =
      My4X.computeMovementRange movementBudget (corridor 715827883) registry .empty factionId queue
        0 0 := by
  have hn : corridorCost (715827883 : ℕ) = infiniteCost := rfl
  have hstart : CorridorFlood 715827883
      { frontier := [⟨⟨0, 0⟩, 0⟩], best := AList.singleton ⟨0, 0⟩ 0 } := by
    refine ⟨corridorScores_start (by decide), fun node hnode => ?_⟩
    obtain rfl := List.mem_singleton.1 hnode
    exact AList.mem_lookup_iff.2 (List.mem_singleton.2 rfl)
  have hfits : ∀ {search : RangeSearch} {current : CostNode}, CorridorFlood 715827883 search →
      current ∈ search.frontier → Flood.stale search current = false →
      ∀ n ∈ hexNeighbors current.vertex.row current.vertex.col (corridor 715827883).height
        (corridor 715827883).width, IsInt (current.cost + (corridor 715827883).entryCost n) := by
    intro search current hinv hmem _ n _
    obtain ⟨-, h0, hlast, hcost, -⟩ := hinv.scores _ _ (hinv.frontier current hmem)
    have hentry := (corridor 715827883).entryCost_le n
    have hentry0 := (corridor 715827883).entryCost_nonneg n
    have hle : 0 ≤ current.cost ∧ current.cost ≤ 2147483644 := by
      rw [hcost, corridorCost]
      split
      · omega
      · omega
    exact ⟨by omega, by omega⟩
  have hround : ∀ {search : RangeSearch} {current : CostNode} {rest : List CostNode},
      CorridorFlood 715827883 search → search.frontier.Perm (current :: rest) →
      CorridorFlood 715827883
        (if Flood.stale search current then { search with frontier := rest }
          else Flood.expand (freeEdges (corridor 715827883) registry .empty factionId)
            movementBudget infiniteCost { search with frontier := rest } current) := by
    intro search current rest hinv hperm
    have hrest : CorridorFlood 715827883 { search with frontier := rest } :=
      ⟨hinv.scores, fun node hnode =>
        hinv.frontier node (hperm.mem_iff.2 (List.mem_cons_of_mem _ hnode))⟩
    split
    · exact hrest
    · exact CorridorFlood.foldl hn _ hrest
        (hinv.frontier current (hperm.mem_iff.2 List.mem_cons_self)) fun _ he => he
  rw [computeMovementRange, My4X.computeMovementRange, floodRange_eq queue hfits hround _ hstart]

/-- The end of a long corridor is not in range, although a way within the budget leads there. -/
theorem longCorridor_not_inRange :
    (∃ path, Leads (FreeStep (corridor 715827883) .empty .empty 1) ⟨0, 0⟩ path ⟨0, 715827883⟩ ∧
      (corridor 715827883).pathCost path = 2147483647) ∧
    (∀ path, Leads (FreeStep (corridor 715827883) .empty .empty 1) ⟨0, 0⟩ path ⟨0, 715827883⟩ →
      2147483647 ≤ (corridor 715827883).pathCost path) ∧
    ∀ queue, ∃ range,
      computeMovementRange 2147483647 (corridor 715827883) .empty .empty 1 queue 0 0 = .ok range ∧
      ∀ c, (⟨⟨0, 715827883⟩, c⟩ : ReachableTile) ∉ range := by
  obtain ⟨hroute, hleast⟩ := longCorridor_cost .empty 1
  refine ⟨hroute, hleast, fun queue => ?_⟩
  obtain ⟨range, hrange, -, hexact⟩ := computeMovementRange_routes 2147483647 (corridor 715827883)
    .empty .empty 1 queue 0 0
  refine ⟨range, (longCorridor_range_eq 2147483647 .empty 1 queue).trans hrange, fun c hmem => ?_⟩
  obtain ⟨-, -, hlimit, ⟨path, hpath, hcost⟩, -⟩ := (hexact _ c).1 hmem
  exact absurd hlimit (not_lt.2 (hcost ▸ hleast path hpath))

end Machine

end My4X
