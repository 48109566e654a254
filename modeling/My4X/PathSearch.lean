/-
**Finding paths.**

A path from a tile to another is found by a best-first search with the distance to the goal as its
estimate: once over tiles that are not blocked, and once with the rules of zones of control on top
of that, by which a unit stops where it comes into the zone of an enemy and does not move inside
one. Both searches are one loop with different rules.  The rules belong to the step from a tile, not
to the tile that is entered, so that a path back is another path.

Main definitions:

* `My4X.ZocRules` — where a unit stops and which moves are blocked;
* `My4X.searchLoop` — the loop over the open set, for a number of rounds;
* `My4X.findPath`, `My4X.findPathWithZoc` — the two searches;
* `My4X.PathStep` — a step that the rules allow;
* `My4X.ZocRoute` — a route that keeps the rules of zones of control.

Main results:

* `My4X.searchLoop_eq` — the loop is the best-first search along the steps that the rules allow;
* `My4X.searchPath_spec` — **what a search returns under any rules**: it ends, with a cheapest path
  to the goal if one leads there for less than a tile that was not visited.
-/

import My4X.Lib.BestFirst
import My4X.Routes

set_option relaxedAutoImplicit false
set_option autoImplicit false

namespace My4X

open Flood (Leads)

/-! ### The search -/

/-- The open set, the scores of the tiles and the tiles they were reached from. -/
abbrev PathSearch := BestFirst.State TileCoord

/-- What zones of control add to a search: the tiles at which a unit stops, and the moves that are
blocked. -/
structure ZocRules where
  isZocStop : TileCoord → Bool
  isZocBlocked : TileCoord → TileCoord → Bool

/-- The loop that walks back to the start, for a number of rounds; the path that it has collected so
far comes goal first. -/
def walkBack (start : TileCoord) (cameFrom : AList fun _ : TileCoord => TileCoord) :
    ℕ → TileCoord → List TileCoord → Except Fault (Option (List TileCoord))
  | 0, step, path => .ok (if step = start then some path else none)
  | rounds + 1, step, path =>
      if step = start then .ok (some path)
      else
        match cameFrom.lookup step with
        | none => .error (.outOfRange "unordered_map::at")
        | some next => walkBack start cameFrom rounds next (path ++ [step])

/-- The path from the start to the goal, or `none` when the way back does not come to the start. -/
def reconstructPath (goal start : TileCoord) (cameFrom : AList fun _ : TileCoord => TileCoord) :
    Except Fault (Option (List TileCoord)) := do
  let path ← walkBack start cameFrom infiniteCost.toNat goal []
  return path.map List.reverse

/-- Gives a neighbour a lower score and puts it in the open set, if the way to it is cheaper than
the one known. -/
def tryExpandNeighbor (neighbor current : TileCoord) (currentG goalRow goalCol : ℤ) (map : Map)
    (search : PathSearch) : Except Fault PathSearch := do
  let tile ← map.tile neighbor.row neighbor.col
  let props := getTerrainProperties tile.terrain
  let tentativeG := currentG + props.movementCost
  let bestG := (search.gScore.lookup neighbor).getD infiniteCost
  if tentativeG < bestG then
    let heuristic := hexDistance neighbor.row neighbor.col goalRow goalCol
    return { openSet := search.openSet ++ [⟨neighbor, tentativeG + heuristic⟩]
             gScore := search.gScore.insert neighbor tentativeG
             cameFrom := search.cameFrom.insert neighbor current }
  else return search

/-- `gScore[coord]`, which puts in a zero where there is no score. -/
def scoreAt (search : PathSearch) (coord : TileCoord) : ℤ × PathSearch :=
  match search.gScore.lookup coord with
  | some g => (g, search)
  | none => (0, { search with gScore := search.gScore.insert coord 0 })

section Search

variable (rules : ZocRules) (map : Map) (registry : TileRegistry) (units : UnitVec)
  (factionId : FactionId)

/-- The body of the loop over the neighbours of a tile. -/
def expandNeighbor (current goal : TileCoord) (currentG : ℤ) (search : PathSearch)
    (neighbor : TileCoord) : Except Fault PathSearch := do
  let blocked ← isTileBlocked neighbor.row neighbor.col map registry units factionId
  if blocked then return search
  else if rules.isZocBlocked current neighbor then return search
  else tryExpandNeighbor neighbor current currentG goal.row goal.col map search

/-- **The loop over the open set**, for a number of rounds: `none` when they do not suffice, and the
empty path when nothing is left to expand. -/
def searchLoop (queue : CostQueue) (start goal : TileCoord) :
    ℕ → PathSearch → Except Fault (Option (List TileCoord))
  | 0, _ => .ok none
  | rounds + 1, search =>
      match queue.pop search.openSet with
      | none => .ok (some [])
      | some (node, openSet) =>
          let current := node.vertex
          if current = goal then reconstructPath goal start search.cameFrom
          else
            let (currentG, search) := scoreAt { search with openSet } current
            -- the test compares the score with itself
            let isStale := match search.gScore.lookup current with
              | none => false
              | some best => currentG < best
            if isStale then searchLoop queue start goal rounds search
            else if rules.isZocStop current then searchLoop queue start goal rounds search
            else do
              let search ← (hexNeighbors current.row current.col map.height map.width).foldlM
                (expandNeighbor rules map registry units factionId current goal currentG) search
              searchLoop queue start goal rounds search

/-- Rounds in which a search is certain to come to its end. -/
def searchRounds : ℕ := map.height.toNat * map.width.toNat * (infiniteCost.toNat + 1) + 2

/-- A search from a tile for another one, by rules of zones of control. -/
def searchPath (queue : CostQueue) (startRow startCol goalRow goalCol : ℤ) :
    Except Fault (Option (List TileCoord)) := do
  if startRow = goalRow ∧ startCol = goalCol then return some []
  else
    let blocked ← isTileBlocked goalRow goalCol map registry units factionId
    if blocked then return some []
    else
      let start : TileCoord := ⟨startRow, startCol⟩
      let goal : TileCoord := ⟨goalRow, goalCol⟩
      searchLoop rules map registry units factionId queue start goal (searchRounds map)
        { openSet := [⟨start, hexDistance startRow startCol goalRow goalCol⟩]
          gScore := AList.singleton start 0
          cameFrom := ∅ }

/-- **A path over tiles that are not blocked.** -/
def findPath (queue : CostQueue) (startRow startCol goalRow goalCol : ℤ) :
    Except Fault (Option (List TileCoord)) :=
  searchPath { isZocStop := fun _ => false, isZocBlocked := fun _ _ => false } map registry units
    factionId queue startRow startCol goalRow goalCol

/-- The rules of zones of control for a unit that starts from a tile. -/
def zocRules (diplomacy : DiplomacyManager) (start : TileCoord) : ZocRules where
  isZocStop t := t ≠ start ∧ isInEnemyZoc t.row t.col factionId map registry units diplomacy
  isZocBlocked t n :=
    isMovementBlockedByZoc t.row t.col n.row n.col factionId map registry units diplomacy

/-- **A path over tiles that are not blocked, by the rules of zones of control.** -/
def findPathWithZoc (queue : CostQueue) (startRow startCol goalRow goalCol : ℤ)
    (diplomacy : DiplomacyManager) : Except Fault (Option (List TileCoord)) :=
  searchPath (zocRules map registry units factionId diplomacy ⟨startRow, startCol⟩) map registry
    units factionId queue startRow startCol goalRow goalCol

end Search

/-! ### The steps that the rules allow -/

/-- **A step that the rules allow.** -/
structure PathStep (rules : ZocRules) (map : Map) (registry : TileRegistry) (units : UnitVec)
    (factionId : FactionId) (t n : TileCoord) : Prop where
  goesOn : rules.isZocStop t = false
  free : FreeStep map registry units factionId t n
  unblocked : rules.isZocBlocked t n = false

/-- The distance to a tile. -/
def distanceTo (goal t : TileCoord) : ℤ := hexDistance t.row t.col goal.row goal.col

section Steps

variable (rules : ZocRules) (map : Map) (registry : TileRegistry) (units : UnitVec)
  (factionId : FactionId)

/-- The steps that the rules allow, with their costs. -/
def searchEdges (t : TileCoord) : List (TileCoord × ℤ) :=
  if rules.isZocStop t then []
  else (freeEdges map registry units factionId t).filter fun e => ¬ rules.isZocBlocked t e.1

theorem searchEdges_weighs :
    Flood.Weighs (searchEdges rules map registry units factionId)
      (PathStep rules map registry units factionId) map.entryCost where
  mem_iff t e := by
    have hfree := (freeEdges_weighs map registry units factionId).mem_iff t e
    rw [searchEdges]
    cases hstop : rules.isZocStop t with
    | true =>
        rw [if_pos rfl]
        exact iff_of_false List.not_mem_nil fun h => absurd h.1.goesOn (by rw [hstop]; decide)
    | false =>
        rw [if_neg Bool.false_ne_true, List.mem_filter, hfree]
        simp only [decide_eq_true_eq, Bool.not_eq_true]
        constructor
        · intro h
          exact ⟨⟨hstop, h.1.1, h.2⟩, h.1.2⟩
        · intro h
          exact ⟨⟨h.1.free, h.2⟩, h.1.unblocked⟩

/-- A step leads to a tile of the map, and costs something. -/
theorem searchEdges_inside (t : TileCoord) :
    ∀ e ∈ searchEdges rules map registry units factionId t, e.1 ∈ map.coords ∧ 0 < e.2 := by
  intro e he
  obtain ⟨hstep, hcost⟩ :=
    ((searchEdges_weighs rules map registry units factionId).mem_iff t e).1 he
  rw [hcost]
  exact ⟨Map.mem_coords hstep.free.inBounds, hstep.free.entryCost_pos⟩

/-- **The distance to the goal is a consistent estimate**: a step brings the goal nearer by one at
most, and costs one at least. -/
theorem distanceTo_consistent (goal : TileCoord) :
    BestFirst.Consistent (searchEdges rules map registry units factionId)
    (distanceTo goal) goal where
  le_edge t e he := by
    obtain ⟨hstep, hcost⟩ :=
      ((searchEdges_weighs rules map registry units factionId).mem_iff t e).1 he
    have htriangle := hexDistance_triangle t.row t.col e.1.row e.1.col goal.row goal.col
    rw [hstep.free.near] at htriangle
    have hpos := hstep.free.entryCost_pos
    rw [hcost, distanceTo, distanceTo]
    omega
  goal_eq_zero := hexDistance_self goal.row goal.col

/-- **The distance to the goal is never too high an estimate.** -/
theorem distanceTo_admissible (goal : TileCoord) :
    BestFirst.Admissible (searchEdges rules map registry units factionId) (distanceTo goal) goal :=
  (distanceTo_consistent rules map registry units factionId goal).admissible

variable {rules map registry units factionId}

/-- Expanding a neighbour follows the step to it, if the rules allow one. -/
theorem expandNeighbor_eq (current goal : TileCoord) (currentG : ℤ) (search : PathSearch)
    {n : TileCoord} (hn : InBounds n.row n.col map.height map.width) :
    expandNeighbor rules map registry units factionId current goal currentG search n =
      .ok (((freeEdge map registry units factionId n).filter
          fun e => ¬ rules.isZocBlocked current e.1).elim search
        (BestFirst.relax (distanceTo goal) infiniteCost current currentG search)) := by
  rw [expandNeighbor]
  rcases isTileBlocked_cases registry units factionId hn with
    ⟨hblocked, hedge⟩ | ⟨hfree, tile, htile, hedge⟩
  · rw [hblocked, hedge]
    rfl
  · rw [hfree, hedge, Except.ok_bind, if_neg Bool.false_ne_true]
    cases hzoc : rules.isZocBlocked current n with
    | true =>
        rw [Option.filter_some_neg (by simp [hzoc])]
        rfl
    | false =>
        rw [Option.filter_some_pos (by simp [hzoc]), if_neg Bool.false_ne_true, tryExpandNeighbor,
          htile, Except.ok_bind]
        show _ = Except.ok (BestFirst.relax _ _ _ _ _ _)
        rw [BestFirst.relax]
        dsimp only
        split
        · rfl
        · rfl

/-- Expanding all neighbours of a tile follows the steps that the rules allow. -/
theorem foldlM_expandNeighbor {current : TileCoord} (hstop : rules.isZocStop current = false)
    (goal : TileCoord) (currentG : ℤ) (search : PathSearch) :
    (hexNeighbors current.row current.col map.height map.width).foldlM
        (expandNeighbor rules map registry units factionId current goal currentG) search =
      .ok ((searchEdges rules map registry units factionId current).foldl
        (BestFirst.relax (distanceTo goal) infiniteCost current currentG) search) := by
  rw [searchEdges, hstop, if_neg Bool.false_ne_true, freeEdges_eq, List.filter_filterMap]
  refine Fallible.foldlM_eq_foldl_filterMap (fun search n hn => ?_) search
  exact expandNeighbor_eq current goal currentG search (mem_hexNeighbors_inBounds hn)

/-! ### The loop is a best-first search -/

/-- The path that is returned when a search has ended. -/
def outcomePath (start goal : TileCoord) :
    BestFirst.Outcome TileCoord → Except Fault (Option (List TileCoord))
  | .found search => reconstructPath goal start search.cameFrom
  | .exhausted => .ok (some [])
  | .outOfRounds => .ok none

/-- **The loop is the best-first search along the steps that the rules allow.** -/
theorem searchLoop_eq (queue : CostQueue) {start goal : TileCoord} (rounds : ℕ) :
    ∀ search : PathSearch,
      BestFirst.Sound (searchEdges rules map registry units factionId)
      (distanceTo goal) infiniteCost
        start goal search →
      searchLoop rules map registry units factionId queue start goal rounds search =
        outcomePath start goal (BestFirst.run (searchEdges rules map registry units factionId)
          (distanceTo goal) infiniteCost queue.toQueue goal rounds search) := by
  induction rounds with
  | zero => intro search _; rfl
  | succ rounds ih =>
      intro search hsound
      rw [searchLoop, BestFirst.run]
      cases hpop : queue.pop search.openSet with
      | none => rfl
      | some out =>
          obtain ⟨node, openSet⟩ := out
          dsimp only
          by_cases hgoal : node.vertex = goal
          · rw [if_pos hgoal, if_pos hgoal]
            rfl
          · have hperm := queue.pop_some _ _ _ hpop
            obtain ⟨g, hg, -⟩ := hsound.priority node (hperm.mem_iff.2 List.mem_cons_self)
            have hnext := hsound.pop
              (fun v e he => (searchEdges_inside rules map registry units factionId v e he).2) hperm
              hgoal
            have hexpand : BestFirst.expand (searchEdges rules map registry units factionId)
                (distanceTo goal) infiniteCost { search with openSet } node.vertex =
              (searchEdges rules map registry units factionId node.vertex).foldl
                (BestFirst.relax (distanceTo goal) infiniteCost node.vertex g)
                { search with openSet } := by
              rw [BestFirst.expand, hg, Option.getD_some]
            rw [if_neg hgoal, if_neg hgoal, ← ih _ hnext, hexpand, scoreAt]
            dsimp only
            rw [hg]
            dsimp only
            rw [hg, if_neg (by simp)]
            cases hstop : rules.isZocStop node.vertex with
            | true =>
                rw [if_pos rfl, searchEdges, hstop, if_pos rfl]
                rfl
            | false => rw [if_neg Bool.false_ne_true, foldlM_expandNeighbor hstop, Except.ok_bind]

/-- The loop that walks back collects the way back. -/
theorem walkBack_of_retrace {start : TileCoord} {cameFrom : AList fun _ : TileCoord => TileCoord}
    (rounds : ℕ) :
    ∀ {step : TileCoord} {back : List TileCoord} (path : List TileCoord),
      BestFirst.retrace cameFrom start rounds step = some back →
      walkBack start cameFrom rounds step path = .ok (some (path ++ back)) := by
  induction rounds with
  | zero =>
      intro step back path h
      rw [BestFirst.retrace] at h
      rw [walkBack]
      split at h
      · next hstart =>
          cases h
          rw [if_pos hstart, List.append_nil]
      · cases h
  | succ rounds ih =>
      intro step back path h
      rw [BestFirst.retrace] at h
      rw [walkBack]
      split at h
      · next hstart =>
          cases h
          rw [if_pos hstart, List.append_nil]
      · next hstart =>
          obtain ⟨next, hnext, h⟩ := Option.bind_eq_some_iff.1 h
          obtain ⟨rest, hrest, rfl⟩ := Option.map_eq_some_iff.1 h
          rw [if_neg hstart, hnext]
          dsimp only
          rw [ih _ hrest, List.append_assoc]
          rfl

end Steps

/-! ### What a search returns -/

/-- A tile that may be entered is not blocked. -/
theorem FreeStep.isTileBlocked {map : Map} {registry : TileRegistry} {units : UnitVec}
    {factionId : FactionId} {t n : TileCoord} (h : FreeStep map registry units factionId t n) :
    isTileBlocked n.row n.col map registry units factionId = .ok false := by
  obtain ⟨tile, htile, hpass⟩ := h.passable
  rw [My4X.isTileBlocked, htile, Except.ok_bind]
  dsimp only
  rw [if_neg (not_not.2 hpass)]
  exact congrArg Except.ok (holdsForeign_eq_false.2 h.unheld)

section Results

variable (rules : ZocRules) (map : Map) (registry : TileRegistry) (units : UnitVec)
  (factionId : FactionId) (queue : CostQueue) {start goal : TileCoord}

/-- From a tile to another one that is not blocked, a search is a best-first search. -/
theorem searchPath_eq (hne : start ≠ goal)
    (hfree : isTileBlocked goal.row goal.col map registry units factionId = .ok false) :
    searchPath rules map registry units factionId queue start.row start.col goal.row goal.col =
      outcomePath start goal (BestFirst.run (searchEdges rules map registry units factionId)
        (distanceTo goal) infiniteCost queue.toQueue goal (searchRounds map)
        (BestFirst.start (distanceTo goal) start)) := by
  have hdiff : ¬ (start.row = goal.row ∧ start.col = goal.col) :=
    fun h => hne (TileCoord.ext_iff'.2 h)
  rw [searchPath, if_neg hdiff, hfree, Except.ok_bind, if_neg Bool.false_ne_true]
  exact searchLoop_eq queue (searchRounds map) _ (BestFirst.sound_start _ _ (by decide) hne)

/-- **What a search returns**: a cheapest path along the steps that the rules allow, or the empty
path when the start is the goal or every path costs as much as a tile that was not visited. -/
theorem searchPath_spec (start goal : TileCoord)
    (hgoal : InBounds goal.row goal.col map.height map.width) :
    ∃ path,
      searchPath rules map registry units factionId queue start.row start.col goal.row goal.col =
        .ok (some path) ∧
      ((path = [] ∧ (start = goal ∨
          ∀ route, Leads (PathStep rules map registry units factionId) start route goal →
            infiniteCost ≤ map.pathCost route)) ∨
        (start ≠ goal ∧ Leads (PathStep rules map registry units factionId) start path goal ∧
          start ∉ path ∧ map.pathCost path < infiniteCost ∧
          ∀ route, Leads (PathStep rules map registry units factionId) start route goal →
            map.pathCost path ≤ map.pathCost route)) := by
  have hweighs := searchEdges_weighs rules map registry units factionId
  by_cases hne : start = goal
  · refine ⟨[], ?_, Or.inl ⟨rfl, Or.inl hne⟩⟩
    rw [searchPath, if_pos (TileCoord.ext_iff'.1 hne)]
    rfl
  rcases isTileBlocked_cases registry units factionId hgoal with ⟨hblocked, -⟩ | ⟨hfree, -⟩
  · -- no step leads to a goal that is blocked
    refine ⟨[], ?_, Or.inl ⟨rfl, Or.inr fun route hroute => ?_⟩⟩
    · rw [searchPath, if_neg fun h => hne (TileCoord.ext_iff'.2 h), hblocked]
      rfl
    · obtain ⟨t, hstep⟩ := hroute.exists_last hne
      rw [hstep.free.isTileBlocked] at hblocked
      cases hblocked
  · have hrounds : map.coords.card * (infiniteCost.toNat + 1) + 1 < searchRounds map :=
      Nat.lt_succ_of_le (Nat.add_le_add_right (Nat.mul_le_mul_right _ map.card_coords_le) 1)
    rw [searchPath_eq rules map registry units factionId queue hne hfree]
    rcases BestFirst.run_spec queue.toQueue queue.pop_least
      (searchEdges_inside rules map registry units factionId)
      (distanceTo_admissible rules map registry units factionId goal) (by decide) hne hrounds
      (le_refl _) with
      ⟨s, back, es, hrun, hback, hwalk, hlast, hmap, hsource, hlimit, hleast⟩ | ⟨hrun, hnone⟩
    · obtain ⟨hleads, hcost⟩ := hweighs.leads_of_walk hwalk
      rw [hlast, hmap] at hleads
      rw [hmap] at hcost
      rw [hrun]
      refine ⟨back.reverse, ?_, Or.inr ⟨hne, hleads, ?_, ?_, fun route hroute => ?_⟩⟩
      · rw [outcomePath, reconstructPath, walkBack_of_retrace _ [] hback]
        rfl
      · rw [List.mem_reverse]
        exact hsource
      · rw [Map.pathCost, ← hcost]
        exact hlimit
      · obtain ⟨es', hwalk', hlast', -, hcost'⟩ := hweighs.walk_of_leads hroute
        rw [Map.pathCost, Map.pathCost, ← hcost, ← hcost']
        exact hleast es' hwalk' hlast'
    · rw [hrun]
      refine ⟨[], rfl, Or.inl ⟨rfl, Or.inr fun route hroute => ?_⟩⟩
      obtain ⟨es, hwalk, hlast, -, hcost⟩ := hweighs.walk_of_leads hroute
      rw [Map.pathCost, ← hcost]
      exact hnone es hwalk hlast

/-- A search finds a cheapest one of the routes that can be shortened to paths along the steps that
the rules allow. -/
theorem searchPath_exact {Route : List TileCoord → Prop}
    (hgoal : InBounds goal.row goal.col map.height map.width)
    (hroute : ∀ path, start ≠ goal →
      Leads (PathStep rules map registry units factionId) start path goal → Route path)
    (hpath : ∀ route, start ≠ goal → Route route →
      ∃ path, Leads (PathStep rules map registry units factionId) start path goal ∧
        map.pathCost path ≤ map.pathCost route) :
    ∃ path,
      searchPath rules map registry units factionId queue start.row start.col goal.row goal.col =
        .ok (some path) ∧
      (path ≠ [] ↔ start ≠ goal ∧ ∃ route, Route route ∧ map.pathCost route < infiniteCost) ∧
      (path ≠ [] → Route path ∧ start ∉ path ∧
        ∀ route, Route route → map.pathCost path ≤ map.pathCost route) := by
  obtain ⟨path, hfound, hspec⟩ := searchPath_spec rules map registry units factionId queue
    start goal hgoal
  refine ⟨path, hfound, ?_⟩
  rcases hspec with ⟨rfl, hnone⟩ | ⟨hne, hleads, hsource, hlimit, hleast⟩
  · refine ⟨iff_of_false (fun h => h rfl) ?_, fun h => absurd rfl h⟩
    rintro ⟨hne, route, hr, hless⟩
    obtain ⟨path, hleads, hle⟩ := hpath route hne hr
    rcases hnone with hsame | hnone
    · exact hne hsame
    · have hge := hnone path hleads
      omega
  · have hnonempty : path ≠ [] := by
      rintro rfl
      exact hne hleads
    refine ⟨iff_of_true hnonempty ⟨hne, path, hroute path hne hleads, hlimit⟩, fun _ =>
      ⟨hroute path hne hleads, hsource, fun route hr => ?_⟩⟩
    obtain ⟨path', hleads', hle⟩ := hpath route hne hr
    exact le_trans (hleast path' hleads') hle

/-- A search does not find the way through a long corridor. -/
theorem searchPath_longCorridor
    (hfree : ∀ t n, PathStep rules (corridor 715827883) registry .empty factionId t n →
      FreeStep (corridor 715827883) registry .empty factionId t n) :
    searchPath rules (corridor 715827883) registry .empty factionId queue 0 0 0 715827883 =
      .ok (some []) := by
  obtain ⟨path, hfound, hspec⟩ := searchPath_spec rules (corridor 715827883) registry .empty
    factionId queue ⟨0, 0⟩ ⟨0, 715827883⟩ ⟨by decide, by decide, by decide, by decide⟩
  rcases hspec with ⟨rfl, -⟩ | ⟨-, hleads, -, hlimit, -⟩
  · exact hfound
  · have hle := (longCorridor_cost registry factionId).2 path (hleads.mono hfree)
    omega

end Results

/-! ### Paths by the rules of zones of control -/

section Zoc

variable (map : Map) (registry : TileRegistry) (units : UnitVec) (factionId : FactionId)
  (diplomacy : DiplomacyManager)

/-- **An enemy has a zone of control over a tile**: one of its units stands next to it. -/
def InZocOf (enemy : FactionId) (t : TileCoord) : Prop :=
  IsEnemy factionId diplomacy enemy ∧
    ∃ n : TileCoord, InBounds n.row n.col map.height map.width ∧
      hexDistance t.row t.col n.row n.col = 1 ∧
      ∃ unit ∈ unitsOnTile registry units n.row n.col, unit.factionId = enemy

/-- **A step to a neighbour that may be entered, out of the zones over it.** -/
structure ZocStep (t n : TileCoord) : Prop extends FreeStep map registry units factionId t n where
  leavesZoc : ¬ ∃ enemy, InZocOf map registry units factionId diplomacy enemy t ∧
    InZocOf map registry units factionId diplomacy enemy n

/-- **A route that keeps the rules**: it does not go on from the zone of an enemy, unless that is
where it starts. -/
structure ZocRoute (start goal : TileCoord) (route : List TileCoord) : Prop where
  leads : Leads (ZocStep map registry units factionId diplomacy) start route goal
  stops : ∀ t ∈ route, t ≠ start → t ≠ goal →
    ¬ ∃ enemy, InZocOf map registry units factionId diplomacy enemy t

variable {map registry units factionId diplomacy}

theorem mem_adjacentEnemies {enemy : FactionId} {t : TileCoord} :
    enemy ∈ findAdjacentEnemyFactions t.row t.col factionId map registry units diplomacy ↔
      InZocOf map registry units factionId diplomacy enemy t := by
  rw [mem_findAdjacentEnemyFactions, InZocOf, and_comm]
  refine and_congr_right fun _ => exists_congr fun n => ?_
  constructor
  · intro h
    have hin := mem_hexNeighbors_inBounds h.1
    exact ⟨hin, (mem_hexNeighbors_iff hin).1 h.1, h.2⟩
  · intro h
    exact ⟨(mem_hexNeighbors_iff h.1).2 h.2.1, h.2.2⟩

theorem isInEnemyZoc_eq_true {t : TileCoord} :
    isInEnemyZoc t.row t.col factionId map registry units diplomacy = true ↔
      ∃ enemy, InZocOf map registry units factionId diplomacy enemy t := by
  simp only [← mem_adjacentEnemies]
  rw [isInEnemyZoc]
  cases findAdjacentEnemyFactions t.row t.col factionId map registry units diplomacy with
  | nil => simp
  | cons enemy enemies => exact iff_of_true (by simp) ⟨enemy, List.mem_cons_self⟩

/-- **The rules allow a step** out of a zone only from the start, and none inside a zone. -/
theorem zocRules_pathStep_iff {start t n : TileCoord} :
    PathStep (zocRules map registry units factionId diplomacy start) map registry units factionId
        t n ↔
      (t = start ∨ ¬ ∃ enemy, InZocOf map registry units factionId diplomacy enemy t) ∧
        ZocStep map registry units factionId diplomacy t n := by
  have hstop : (zocRules map registry units factionId diplomacy start).isZocStop t = false ↔
      (t = start ∨ ¬ ∃ enemy, InZocOf map registry units factionId diplomacy enemy t) := by
    rw [← isInEnemyZoc_eq_true, zocRules]
    simp only [decide_eq_false_iff_not, not_and_or, not_not]
  have hblocked : (zocRules map registry units factionId diplomacy start).isZocBlocked t n = false ↔
      ¬ ∃ enemy, InZocOf map registry units factionId diplomacy enemy t ∧
        InZocOf map registry units factionId diplomacy enemy n := by
    rw [← Bool.not_eq_true, zocRules, isMovementBlockedByZoc_iff]
    simp only [mem_adjacentEnemies, and_comm]
  constructor
  · intro h
    exact ⟨hstop.1 h.goesOn, h.free, hblocked.1 h.unblocked⟩
  · intro h
    exact ⟨hstop.2 h.1, h.2.toFreeStep, hblocked.2 h.2.leavesZoc⟩

/-- A path along the steps of the search keeps the rules. -/
theorem zocRoute_of_leads {start goal : TileCoord} {path : List TileCoord}
    (h : Leads (PathStep (zocRules map registry units factionId diplomacy start) map registry units
      factionId) start path goal) :
    ZocRoute map registry units factionId diplomacy start goal path where
  leads := h.mono fun _ _ hstep => (zocRules_pathStep_iff.1 hstep).2
  stops t ht hstart hgoal := by
    obtain ⟨n, hstep⟩ := h.exists_step t ht hgoal
    exact (zocRules_pathStep_iff.1 hstep).1.resolve_left hstart

/-- A route that keeps the rules, as far as where it first comes to its end, is a path along the
steps of the search. -/
theorem ZocRoute.exists_leads {start goal : TileCoord} {route : List TileCoord}
    (h : ZocRoute map registry units factionId diplomacy start goal route) (hne : start ≠ goal) :
    ∃ path, Leads (PathStep (zocRules map registry units factionId diplomacy start) map registry
        units factionId) start path goal ∧ map.pathCost path ≤ map.pathCost route := by
  have hfree : ∀ t ∈ route, t ≠ goal →
      t = start ∨ ¬ ∃ enemy, InZocOf map registry units factionId diplomacy enemy t := by
    intro t ht hgoal
    by_cases hstart : t = start
    · exact Or.inl hstart
    · exact Or.inr (h.stops t ht hstart hgoal)
  obtain ⟨path, hprefix, hleads⟩ := h.leads.exists_prefix hne (Or.inl rfl) hfree
  exact ⟨path, hleads.mono fun _ _ hstep => zocRules_pathStep_iff.2 hstep,
    map.pathCost_le_of_prefix hprefix⟩

end Zoc

/-- Where there are no units there are no zones of control. -/
theorem not_inZocOf_empty {map : Map} {registry : TileRegistry} {factionId enemy : FactionId}
    {diplomacy : DiplomacyManager} {t : TileCoord} :
    ¬ InZocOf map registry .empty factionId diplomacy enemy t := by
  rintro ⟨-, n, -, -, unit, hunit, -⟩
  rw [unitsOnTile_noUnits] at hunit
  exact List.not_mem_nil hunit

/-- Where there are no units every route keeps the rules. -/
theorem zocRoute_of_noUnits {map : Map} {registry : TileRegistry} {factionId : FactionId}
    {start goal : TileCoord} {route : List TileCoord} (diplomacy : DiplomacyManager)
    (h : Leads (FreeStep map registry .empty factionId) start route goal) :
    ZocRoute map registry .empty factionId diplomacy start goal route where
  leads := h.mono fun _ _ hstep => ⟨hstep, fun ⟨_, hzoc, _⟩ => not_inZocOf_empty hzoc⟩
  stops _ _ _ _ := fun ⟨_, hzoc⟩ => not_inZocOf_empty hzoc

end My4X
