/-
**Finding paths with `int`s.**

The searches for paths keep scores and estimates in `int`s.  A score is bounded by the number of
tiles that were reached, since entering a tile costs three at most, so that on a map of `h` rows and
`w` columns everything fits as long as `3 h w + h + w` is an `int`.  On such a map no route need
cost as much as a tile that was not visited, and the searches find a cheapest route whenever there
is one.

Main definitions:

* `My4X.Machine.findPath`, `My4X.Machine.findPathWithZoc` — the two searches, with `int`s;
* `My4X.Machine.Fitting` — a property of the scores under which every sum fits.

Main results:

* `My4X.Machine.searchLoop_eq` — where the sums fit, the loop is the one with integers;
* `My4X.Machine.findPath_exact`, `My4X.Machine.findPathWithZoc_exact` — **on such a map a search
  ends, with a cheapest route to the goal if one leads there**.
-/

import My4X.IntRange
import My4X.PathSearch

set_option relaxedAutoImplicit false
set_option autoImplicit false

namespace My4X

open Flood (Leads)

/-! ### Short routes -/

/-- A path that enters no tile twice costs three for every tile of the map at most. -/
theorem Map.pathCost_le_of_nodup (map : Map) {path : List TileCoord} (hnodup : path.Nodup)
    (hinside : ∀ t ∈ path, InBounds t.row t.col map.height map.width) :
    map.pathCost path ≤ 3 * (map.height * map.width) := by
  have hsub : path.toFinset ⊆ map.coords :=
    fun t ht => Map.mem_coords (hinside t (List.mem_toFinset.1 ht))
  have hlength : path.length ≤ map.height.toNat * map.width.toNat := by
    rw [← List.toFinset_card_of_nodup hnodup]
    exact le_trans (Finset.card_le_card hsub) map.card_coords_le
  have hcost : map.pathCost path ≤ 3 * path.length := by
    rw [Map.pathCost]
    clear hsub hlength hnodup hinside
    induction path with
    | nil => exact le_refl 0
    | cons t path ih =>
        have hentry := map.entryCost_le t
        rw [List.map_cons, List.sum_cons, List.length_cons, Nat.cast_succ]
        omega
  have hheight := map.height_pos
  have hwidth := map.width_pos
  have harea : ((map.height.toNat * map.width.toNat : ℕ) : ℤ) = map.height * map.width := by
    rw [Int.natCast_mul, Int.toNat_of_nonneg hheight.le, Int.toNat_of_nonneg hwidth.le]
  omega

/-- A path along steps of a search can be shortened to one that costs no more than that. -/
theorem exists_short_path {rules : ZocRules} {map : Map} {registry : TileRegistry} {units : UnitVec}
    {factionId : FactionId} {start goal : TileCoord} {path : List TileCoord}
    (h : Leads (PathStep rules map registry units factionId) start path goal) :
    ∃ path', Leads (PathStep rules map registry units factionId) start path' goal ∧
      map.pathCost path' ≤ 3 * (map.height * map.width) := by
  obtain ⟨path', -, hnodup, hleads⟩ := h.exists_nodup
  exact ⟨path', hleads, map.pathCost_le_of_nodup hnodup
    (hleads.forall_mem fun _ _ hstep => hstep.free.inBounds)⟩

namespace Machine

/-! ### The search -/

/-- Gives a neighbour a lower score and puts it in the open set, with `int`s. -/
def tryExpandNeighbor (neighbor current : TileCoord) (currentG goalRow goalCol : ℤ) (map : Map)
    (search : PathSearch) : Except Fault PathSearch := do
  let tile ← map.tile neighbor.row neighbor.col
  let props := getTerrainProperties tile.terrain
  let tentativeG := int (currentG + props.movementCost)
  let bestG := (search.gScore.lookup neighbor).getD infiniteCost
  if tentativeG < bestG then
    let heuristic := hexDistance neighbor.row neighbor.col goalRow goalCol
    return { openSet := search.openSet ++ [⟨neighbor, int (tentativeG + heuristic)⟩]
             gScore := search.gScore.insert neighbor tentativeG
             cameFrom := search.cameFrom.insert neighbor current }
  else return search

section Search

variable (rules : ZocRules) (map : Map) (registry : TileRegistry) (units : UnitVec)
  (factionId : FactionId)

/-- The body of the loop over the neighbours of a tile, with `int`s. -/
def expandNeighbor (current goal : TileCoord) (currentG : ℤ) (search : PathSearch)
    (neighbor : TileCoord) : Except Fault PathSearch := do
  let blocked ← isTileBlocked neighbor.row neighbor.col map registry units factionId
  if blocked then return search
  else if rules.isZocBlocked current neighbor then return search
  else tryExpandNeighbor neighbor current currentG goal.row goal.col map search

/-- The loop over the open set, for a number of rounds, with `int`s. -/
def searchLoop (queue : CostQueue) (start goal : TileCoord) :
    ℕ → PathSearch → Except Fault (Option (List TileCoord))
  | 0, _ => .ok none
  | rounds + 1, search =>
      match queue.pop search.openSet with
      | none => .ok (some [])
      | some (node, openSet) =>
          let current := node.vertex
          if current = goal then reconstructPath goal start search.cameFrom
          else
            let (currentG, search) := scoreAt { search with openSet } current
            -- the test compares the score with itself
            let isStale := match search.gScore.lookup current with
              | none => false
              | some best => currentG < best
            if isStale then searchLoop queue start goal rounds search
            else if rules.isZocStop current then searchLoop queue start goal rounds search
            else do
              let search ← (hexNeighbors current.row current.col map.height map.width).foldlM
                (expandNeighbor rules map registry units factionId current goal currentG) search
              searchLoop queue start goal rounds search

/-- A search from a tile for another one, by rules of zones of control, with `int`s. -/
def searchPath (queue : CostQueue) (startRow startCol goalRow goalCol : ℤ) :
    Except Fault (Option (List TileCoord)) := do
  if startRow = goalRow ∧ startCol = goalCol then return some []
  else
    let blocked ← isTileBlocked goalRow goalCol map registry units factionId
    if blocked then return some []
    else
      let start : TileCoord := ⟨startRow, startCol⟩
      let goal : TileCoord := ⟨goalRow, goalCol⟩
      searchLoop rules map registry units factionId queue start goal (searchRounds map)
        { openSet := [⟨start, hexDistance startRow startCol goalRow goalCol⟩]
          gScore := AList.singleton start 0
          cameFrom := ∅ }

/-- **A path over tiles that are not blocked**, with `int`s. -/
def findPath (queue : CostQueue) (startRow startCol goalRow goalCol : ℤ) :
    Except Fault (Option (List TileCoord)) :=
  searchPath { isZocStop := fun _ => false, isZocBlocked := fun _ _ => false } map registry units
    factionId queue startRow startCol goalRow goalCol

/-- **A path over tiles that are not blocked, by the rules of zones of control**, with `int`s. -/
def findPathWithZoc (queue : CostQueue) (startRow startCol goalRow goalCol : ℤ)
    (diplomacy : DiplomacyManager) : Except Fault (Option (List TileCoord)) :=
  searchPath (zocRules map registry units factionId diplomacy ⟨startRow, startCol⟩) map registry
    units factionId queue startRow startCol goalRow goalCol

end Search

/-! ### Where the sums fit -/

/-- **A property of the scores under which every sum fits**, and which is kept when a tile gets a
better score: entering a neighbour of a tile with a score fits, and so does the estimate from
there. -/
structure Fitting (map : Map) (registry : TileRegistry) (units : UnitVec) (factionId : FactionId)
    (goal : TileCoord) (Inv : (AList fun _ : TileCoord => ℤ) → Prop) : Prop where
  score : ∀ {scores t n g}, Inv scores → scores.lookup t = some g →
    FreeStep map registry units factionId t n → IsInt (g + map.entryCost n)
  better : ∀ {scores t n g}, Inv scores → scores.lookup t = some g →
    FreeStep map registry units factionId t n →
    g + map.entryCost n < (scores.lookup n).getD infiniteCost →
    IsInt (g + map.entryCost n + distanceTo goal n) ∧ Inv (scores.insert n (g + map.entryCost n))

section Search

variable (rules : ZocRules) {map : Map} {registry : TileRegistry} {units : UnitVec}
  {factionId : FactionId} {goal : TileCoord} {Inv : (AList fun _ : TileCoord => ℤ) → Prop}

/-- Expanding a neighbour is as it is with integers, and keeps the property and the score of the
tile that is expanded. -/
theorem expandNeighbor_eq (hfitting : Fitting map registry units factionId goal Inv)
    (hsize : map.height + map.width ≤ 1073741824)
    (hgoal : InBounds goal.row goal.col map.height map.width) {current : TileCoord} {currentG : ℤ}
    {search : PathSearch} (hinv : Inv search.gScore)
    (hscore : search.gScore.lookup current = some currentG) {n : TileCoord}
    (hn : n ∈ hexNeighbors current.row current.col map.height map.width) :
    ∃ search', expandNeighbor rules map registry units factionId current goal currentG search n =
        .ok search' ∧
      My4X.expandNeighbor rules map registry units factionId current goal currentG search n =
        .ok search' ∧
      Inv search'.gScore ∧ search'.gScore.lookup current = some currentG := by
  have hin := mem_hexNeighbors_inBounds hn
  rw [expandNeighbor, My4X.expandNeighbor]
  cases hblocked : isTileBlocked n.row n.col map registry units factionId with
  | error e =>
      rcases isTileBlocked_cases registry units factionId hin with ⟨hcase, -⟩ | ⟨hcase, -⟩
      · rw [hcase] at hblocked
        cases hblocked
      · rw [hcase] at hblocked
        cases hblocked
  | ok blocked =>
      rw [Except.ok_bind, Except.ok_bind]
      cases blocked with
      | true => exact ⟨search, rfl, rfl, hinv, hscore⟩
      | false =>
          rw [if_neg Bool.false_ne_true, if_neg Bool.false_ne_true]
          cases hzoc : rules.isZocBlocked current n with
          | true => exact ⟨search, rfl, rfl, hinv, hscore⟩
          | false =>
              rw [if_neg Bool.false_ne_true, if_neg Bool.false_ne_true]
              have hstep := freeStep_of_not_blocked hn hblocked
              obtain ⟨tile, htile, -⟩ := hstep.passable
              have hcost : map.entryCost n = (getTerrainProperties tile.terrain).movementCost := by
                rw [Map.entryCost, htile]
              have hfits := hfitting.score hinv hscore hstep
              rw [tryExpandNeighbor, My4X.tryExpandNeighbor, htile, Except.ok_bind, Except.ok_bind]
              dsimp only
              rw [← hcost, int_eq_self hfits]
              by_cases hlower : currentG + map.entryCost n <
                  (search.gScore.lookup n).getD infiniteCost
              · obtain ⟨hestimate, hnext⟩ := hfitting.better hinv hscore hstep hlower
                rw [if_pos hlower, if_pos hlower, hexDistance_eq hsize hin hgoal]
                rw [distanceTo] at hestimate
                rw [int_eq_self hestimate]
                refine ⟨_, rfl, rfl, hnext, ?_⟩
                dsimp only
                rw [Association.lookup_insert, if_neg hstep.ne, hscore]
              · rw [if_neg hlower, if_neg hlower]
                exact ⟨search, rfl, rfl, hinv, hscore⟩

/-- Expanding a list of neighbours. -/
theorem foldlM_expandNeighbor (hfitting : Fitting map registry units factionId goal Inv)
    (hsize : map.height + map.width ≤ 1073741824)
    (hgoal : InBounds goal.row goal.col map.height map.width) {current : TileCoord} {currentG : ℤ}
    (ns : List TileCoord) :
    ∀ {search : PathSearch}, Inv search.gScore → search.gScore.lookup current = some currentG →
      (∀ n ∈ ns, n ∈ hexNeighbors current.row current.col map.height map.width) →
      ∃ search', ns.foldlM (expandNeighbor rules map registry units factionId current goal currentG)
          search = .ok search' ∧
        ns.foldlM (My4X.expandNeighbor rules map registry units factionId current goal currentG)
          search = .ok search' ∧
        Inv search'.gScore := by
  induction ns with
  | nil => intro search hinv _ _; exact ⟨search, rfl, rfl, hinv⟩
  | cons n ns ih =>
      intro search hinv hscore hns
      obtain ⟨search₁, hint, heq, hinv₁, hscore₁⟩ := expandNeighbor_eq rules hfitting hsize
        hgoal hinv hscore (hns n List.mem_cons_self)
      rw [List.foldlM_cons, List.foldlM_cons, hint, heq]
      exact ih hinv₁ hscore₁ fun n' hn' => hns n' (List.mem_cons_of_mem n hn')

/-- **Where every sum fits the loop is the one with integers.** -/
theorem searchLoop_eq (hfitting : Fitting map registry units factionId goal Inv)
    (hsize : map.height + map.width ≤ 1073741824)
    (hgoal : InBounds goal.row goal.col map.height map.width) (queue : CostQueue)
    {start : TileCoord} (rounds : ℕ) :
    ∀ {search : PathSearch}, Inv search.gScore →
      BestFirst.Sound (searchEdges rules map registry units factionId)
      (distanceTo goal) infiniteCost
        start goal search →
      searchLoop rules map registry units factionId queue start goal rounds search =
        My4X.searchLoop rules map registry units factionId queue start goal rounds search := by
  induction rounds with
  | zero => intro search _ _; rfl
  | succ rounds ih =>
      intro search hinv hsound
      rw [searchLoop, My4X.searchLoop]
      cases hpop : queue.pop search.openSet with
      | none => rfl
      | some out =>
          obtain ⟨node, openSet⟩ := out
          dsimp only
          by_cases hcurrent : node.vertex = goal
          · rw [if_pos hcurrent, if_pos hcurrent]
          · have hperm := queue.pop_some _ _ _ hpop
            obtain ⟨g, hg, -⟩ := hsound.priority node (hperm.mem_iff.2 List.mem_cons_self)
            have hnext := hsound.pop
              (fun v e he => (searchEdges_inside rules map registry units factionId v e he).2) hperm
              hcurrent
            rw [BestFirst.expand, hg, Option.getD_some] at hnext
            rw [if_neg hcurrent, if_neg hcurrent, scoreAt]
            dsimp only
            rw [hg]
            dsimp only
            rw [hg]
            simp only [lt_irrefl, decide_false, Bool.false_eq_true, if_false]
            cases hstop : rules.isZocStop node.vertex with
            | true =>
                rw [if_pos rfl, if_pos rfl]
                refine ih hinv ?_
                rwa [searchEdges, hstop, if_pos rfl] at hnext
            | false =>
                have hinv₁ : Inv ({ search with openSet } : PathSearch).gScore := hinv
                obtain ⟨search', hint, heq, hinv'⟩ :=
                  foldlM_expandNeighbor rules hfitting hsize hgoal _ hinv₁ hg fun _ hn => hn
                have hfold : (hexNeighbors node.vertex.row node.vertex.col map.height
                  map.width).foldlM
                    (My4X.expandNeighbor rules map registry units factionId node.vertex goal g)
                      { search with openSet } = _ :=
                  My4X.foldlM_expandNeighbor hstop goal g { search with openSet }
                rw [hfold] at heq
                rw [Except.ok.inj heq] at hnext
                rw [if_neg Bool.false_ne_true, if_neg Bool.false_ne_true, hint, hfold, heq]
                exact ih hinv' hnext

/-- Where every sum fits a search is the one with integers. -/
theorem searchPath_eq (hfitting : Fitting map registry units factionId goal Inv)
    (hsize : map.height + map.width ≤ 1073741824)
    (hgoal : InBounds goal.row goal.col map.height map.width) (queue : CostQueue)
    {start : TileCoord} (hstart : InBounds start.row start.col map.height map.width)
    (hinv : Inv (AList.singleton start 0)) :
    searchPath rules map registry units factionId queue start.row start.col goal.row goal.col =
      My4X.searchPath rules map registry units factionId queue start.row start.col goal.row
        goal.col := by
  rw [searchPath, My4X.searchPath]
  generalize searchRounds map = rounds
  by_cases hne : start.row = goal.row ∧ start.col = goal.col
  · rw [if_pos hne, if_pos hne]
  · rw [if_neg hne, if_neg hne]
    cases isTileBlocked goal.row goal.col map registry units factionId with
    | error e => rw [Except.error_bind, Except.error_bind]
    | ok blocked =>
        rw [Except.ok_bind, Except.ok_bind]
        cases blocked with
        | true => rw [if_pos rfl, if_pos rfl]
        | false =>
            have hlimit : 0 < infiniteCost := by decide
            have hsound := BestFirst.sound_start (searchEdges rules map registry units factionId)
              (distanceTo goal) hlimit
              fun heq : start = goal => hne (TileCoord.ext_iff'.1 heq)
            have hloop := searchLoop_eq rules hfitting hsize hgoal queue rounds hinv hsound
            rw [BestFirst.start, distanceTo] at hloop
            rw [if_neg Bool.false_ne_true, if_neg Bool.false_ne_true,
              hexDistance_eq hsize hstart hgoal]
            exact hloop

end Search

/-! ### Maps on which everything fits -/

/-- **The map is of a size at which every sum of a search fits.** -/
def SearchFits (map : Map) : Prop :=
  3 * (map.height * map.width) + map.height + map.width ≤ 2147483647

instance (map : Map) : Decidable (SearchFits map) := inferInstanceAs (Decidable (_ ≤ _))

section SearchFits

variable {map : Map} {registry : TileRegistry} {units : UnitVec} {factionId : FactionId}

theorem SearchFits.size (h : SearchFits map) : map.height + map.width ≤ 1073741824 := by
  have hheight := map.height_pos
  have hwidth := map.width_pos
  have harea := Int.mul_nonneg (Int.sub_nonneg_of_le hheight) (Int.sub_nonneg_of_le hwidth)
  rw [Int.zero_add, Int.mul_sub, Int.sub_mul, Int.mul_one, Int.one_mul] at harea
  rw [SearchFits] at h
  omega

/-- **The scores of a search are bounded by the number of tiles of the map.** -/
theorem SearchFits.fitting (h : SearchFits map) {goal : TileCoord}
    (hgoal : InBounds goal.row goal.col map.height map.width) :
    Fitting map registry units factionId goal fun scores =>
      BestFirst.Counted 3 map.coords scores ∧ ∀ t c, scores.lookup t = some c → 0 ≤ c := by
  have hcard : (map.coords.card : ℤ) ≤ map.height * map.width := by
    have hle := Int.ofNat_le.2 map.card_coords_le
    rwa [Int.natCast_mul, Int.toNat_of_nonneg map.height_pos.le,
      Int.toNat_of_nonneg map.width_pos.le] at hle
  have hsum : ∀ {scores : AList fun _ : TileCoord => ℤ} {t n : TileCoord} {g : ℤ},
      BestFirst.Counted 3 map.coords scores → 0 ≤ g → scores.lookup t = some g →
      0 ≤ g + map.entryCost n ∧ g + map.entryCost n ≤ 3 * (map.height * map.width) := by
    intro scores t n g hcounted hg0 hg
    have hle := hcounted.add_le (by decide) hg
    have hentry := map.entryCost_le n
    have hentry0 := map.entryCost_nonneg n
    exact ⟨by omega, by omega⟩
  have hheight := map.height_pos
  have hwidth := map.width_pos
  rw [SearchFits] at h
  refine ⟨fun {scores t n g} hinv hg hstep => ?_, fun {scores t n g} hinv hg hstep hlower => ?_⟩
  · obtain ⟨hge, hle⟩ := hsum (n := n) hinv.1 (hinv.2 t g hg) hg
    exact ⟨by omega, by omega⟩
  · obtain ⟨hge, hle⟩ := hsum (n := n) hinv.1 (hinv.2 t g hg) hg
    have hnear := hexDistance_lt hstep.inBounds hgoal
    have hnear0 := hexDistance_nonneg n.row n.col goal.row goal.col
    rw [distanceTo]
    refine ⟨⟨by omega, by omega⟩, ?_, fun u c hc => ?_⟩
    · refine hinv.1.insert (by decide) hg (map.entryCost_le n) (Map.mem_coords hstep.inBounds) ?_
      intro c hc
      rw [hc, Option.getD_some] at hlower
      exact hlower.le
    · rw [Association.lookup_insert] at hc
      split at hc
      · obtain rfl := Option.some_inj.1 hc
        exact hge
      · exact hinv.2 u c hc

/-- **A search under any rules ends with a cheapest route whenever there is one**, when routes can
be shortened to paths along the steps that the rules allow. -/
theorem searchPath_exact {rules : ZocRules} (h : SearchFits map) (queue : CostQueue)
    {start goal : TileCoord} {Route : List TileCoord → Prop}
    (hstart : InBounds start.row start.col map.height map.width)
    (hgoal : InBounds goal.row goal.col map.height map.width)
    (hroute : ∀ path, start ≠ goal →
      Leads (PathStep rules map registry units factionId) start path goal → Route path)
    (hpath : ∀ route, start ≠ goal → Route route →
      ∃ path, Leads (PathStep rules map registry units factionId) start path goal ∧
        map.pathCost path ≤ map.pathCost route) :
    ∃ path,
      searchPath rules map registry units factionId queue start.row start.col goal.row goal.col =
        .ok (some path) ∧
      (path ≠ [] ↔ start ≠ goal ∧ ∃ route, Route route) ∧
      (path ≠ [] → Route path ∧ start ∉ path ∧
        ∀ route, Route route → map.pathCost path ≤ map.pathCost route) := by
  have hfitting : Fitting map registry units factionId goal _ := h.fitting hgoal
  have heq := searchPath_eq rules hfitting h.size hgoal queue hstart
    ⟨BestFirst.counted_singleton 3 (Map.mem_coords hstart), fun t c hc => by
      have hmem := AList.mem_lookup_iff.1 hc
      rw [AList.singleton_entries, List.mem_singleton] at hmem
      cases hmem
      exact le_refl 0⟩
  obtain ⟨path, hfound, hiff, hbest⟩ := My4X.searchPath_exact rules map registry units
    factionId queue
    hgoal hroute hpath
  refine ⟨path, heq.trans hfound, hiff.trans (and_congr_right fun hne => ?_), hbest⟩
  constructor
  · rintro ⟨route, hr, -⟩
    exact ⟨route, hr⟩
  · rintro ⟨route, hr⟩
    -- a route that enters no tile twice is cheap enough
    obtain ⟨long, hlong, -⟩ := hpath route hne hr
    obtain ⟨short, hshort, hcost⟩ := exists_short_path hlong
    have hheight := map.height_pos
    have hwidth := map.width_pos
    have hlimit : map.pathCost short < infiniteCost := by
      rw [SearchFits] at h
      rw [infiniteCost]
      omega
    exact ⟨short, hroute short hne hshort, hlimit⟩

end SearchFits

/-! ### Paths over tiles that are not blocked -/

/-- **The search for a path ends, and it is sound, complete and optimal**, on a map of a size at
which every sum fits. -/
theorem findPath_exact (map : Map) (registry : TileRegistry) (units : UnitVec)
    (factionId : FactionId) (queue : CostQueue) (start goal : TileCoord) (hsize : SearchFits map)
    (hstart : InBounds start.row start.col map.height map.width)
    (hgoal : InBounds goal.row goal.col map.height map.width) :
    ∃ path, findPath map registry units factionId queue start.row start.col goal.row goal.col =
        .ok (some path) ∧
      (path ≠ [] ↔ start ≠ goal ∧ ∃ route,
        Leads (FreeStep map registry units factionId) start route goal) ∧
      (path ≠ [] → Leads (FreeStep map registry units factionId) start path goal ∧ start ∉ path ∧
        ∀ route, Leads (FreeStep map registry units factionId) start route goal →
          map.pathCost path ≤ map.pathCost route) := by
  refine searchPath_exact hsize queue hstart hgoal (fun path _ hleads => ?_)
    fun route _ hroute => ⟨route, ?_, le_refl _⟩
  · exact hleads.mono fun t n hstep => hstep.free
  · exact hroute.mono fun t n hstep => ⟨rfl, hstep, rfl⟩

/-- The way through a short corridor is found. -/
theorem corridor_findPath :
    ∃ path, findPath (corridor 2) .empty .empty 1 CostQueue.firstLeast 0 0 0 2 = .ok (some path) ∧
      path ≠ [] ∧ (corridor 2).pathCost path = 4 := by
  obtain ⟨path, hfound, hiff, hbest⟩ := findPath_exact (corridor 2) .empty .empty 1
    CostQueue.firstLeast ⟨0, 0⟩ ⟨0, 2⟩ (by decide) ⟨by decide, by decide, by decide, by decide⟩
    ⟨by decide, by decide, by decide, by decide⟩
  obtain ⟨hleads, hcost⟩ := corridor_leads .empty 1 (n := 2) 2 (le_refl 0) (by decide)
  have hfour : (corridor 2).pathCost (eastward 0 2) = 4 := hcost
  have hne : path ≠ [] := hiff.2 ⟨by decide, eastward 0 2, hleads⟩
  obtain ⟨hpath, -, hleast⟩ := hbest hne
  have hle := hleast (eastward 0 2) hleads
  have hge : 4 ≤ (corridor 2).pathCost path := corridor_le_pathCost .empty 1 path rfl hpath
  exact ⟨path, hfound, hne, by omega⟩

/-! ### Paths by the rules of zones of control -/

/-- **The search by the rules of zones of control ends, and it is sound, complete and optimal**, on
a map of a size at which every sum fits. -/
theorem findPathWithZoc_exact (map : Map) (registry : TileRegistry) (units : UnitVec)
    (factionId : FactionId) (diplomacy : DiplomacyManager) (queue : CostQueue)
    (start goal : TileCoord) (hsize : SearchFits map)
    (hstart : InBounds start.row start.col map.height map.width)
    (hgoal : InBounds goal.row goal.col map.height map.width) :
    ∃ path,
      findPathWithZoc map registry units factionId queue start.row start.col goal.row goal.col
        diplomacy = .ok (some path) ∧
      (path ≠ [] ↔ start ≠ goal ∧ ∃ route,
        ZocRoute map registry units factionId diplomacy start goal route) ∧
      (path ≠ [] → ZocRoute map registry units factionId diplomacy start goal path ∧ start ∉ path ∧
        ∀ route, ZocRoute map registry units factionId diplomacy start goal route →
          map.pathCost path ≤ map.pathCost route) :=
  searchPath_exact hsize queue hstart hgoal (fun _ _ hleads => zocRoute_of_leads hleads)
    fun _ hne hroute => hroute.exists_leads hne

/-- The way through a short corridor is found by the rules of zones of control as well. -/
theorem corridor_findPathWithZoc :
    ∃ path, findPathWithZoc (corridor 2) .empty .empty 1 CostQueue.firstLeast 0 0 0 2 .empty =
        .ok (some path) ∧
      path ≠ [] ∧ (corridor 2).pathCost path = 4 := by
  obtain ⟨path, hfound, hiff, hbest⟩ := findPathWithZoc_exact (corridor 2) .empty .empty 1 .empty
    CostQueue.firstLeast ⟨0, 0⟩ ⟨0, 2⟩ (by decide) ⟨by decide, by decide, by decide, by decide⟩
    ⟨by decide, by decide, by decide, by decide⟩
  obtain ⟨hleads, hcost⟩ := corridor_leads .empty 1 (n := 2) 2 (le_refl 0) (by decide)
  have hfour : (corridor 2).pathCost (eastward 0 2) = 4 := hcost
  have hroute := zocRoute_of_noUnits .empty hleads
  have hne : path ≠ [] := hiff.2 ⟨by decide, eastward 0 2, hroute⟩
  obtain ⟨hpath, -, hleast⟩ := hbest hne
  have hle := hleast (eastward 0 2) hroute
  have hge : 4 ≤ (corridor 2).pathCost path :=
    corridor_le_pathCost .empty 1 path rfl (hpath.leads.mono fun _ _ hstep => hstep.toFreeStep)
  exact ⟨path, hfound, hne, by omega⟩

/-! ### The long corridor -/

/-- In the long corridor every sum fits. -/
theorem longCorridor_fitting (registry : TileRegistry) (factionId : FactionId) :
    Fitting (corridor 715827883) registry .empty factionId ⟨0, 715827883⟩
      (CorridorScores 715827883) := by
  have hn : corridorCost (715827883 : ℕ) = infiniteCost := rfl
  refine ⟨fun {scores t n g} hinv hg hstep => ?_, fun {scores t n g} hinv hg hstep hlower => ?_⟩
  · obtain ⟨-, h0, hlast, hcost, -⟩ := hinv t g hg
    have hentry := (corridor 715827883).entryCost_le n
    have hentry0 := (corridor 715827883).entryCost_nonneg n
    have hle : 0 ≤ g ∧ g ≤ 2147483644 := by
      rw [hcost, corridorCost]
      split
      · omega
      · omega
    exact ⟨by omega, by omega⟩
  · obtain ⟨-, hrow, hcol, hlast, hsum⟩ := hinv.better hn hg hstep hlower
    obtain ⟨-, h0, -⟩ := hinv t g hg
    have hdistance := two_mul_cubeDistance (cubeX n.row n.col - cubeX 0 715827883) (n.row - 0)
    rw [← My4X.hexDistance_eq, hrow, cubeX, cubeX] at hdistance
    rw [hsum, distanceTo, hrow]
    dsimp only at hdistance ⊢
    refine ⟨?_, hinv.insert hrow hcol hlast hg⟩
    rw [corridorCost]
    split
    · exact ⟨by omega, by omega⟩
    · exact ⟨by omega, by omega⟩

/-- A search does not find the way through the long corridor. -/
theorem searchPath_longCorridor {rules : ZocRules} {registry : TileRegistry} {factionId : FactionId}
    (queue : CostQueue)
    (hfree : ∀ t n, PathStep rules (corridor 715827883) registry .empty factionId t n →
      FreeStep (corridor 715827883) registry .empty factionId t n) :
    searchPath rules (corridor 715827883) registry .empty factionId queue 0 0 0 715827883 =
      .ok (some []) :=
  have hstart : InBounds (⟨0, 0⟩ : TileCoord).row (⟨0, 0⟩ : TileCoord).col 1 715827884 := by decide
  (searchPath_eq rules (longCorridor_fitting registry factionId) (by decide)
    ⟨by decide, by decide, by decide, by decide⟩ queue hstart
    (corridorScores_start (by decide))).trans
      (My4X.searchPath_longCorridor rules registry factionId queue hfree)

/-- No path is found through the long corridor, although one leads there. -/
theorem longCorridor_not_found :
    (∃ path, Leads (FreeStep (corridor 715827883) .empty .empty 1) ⟨0, 0⟩ path ⟨0, 715827883⟩ ∧
      (corridor 715827883).pathCost path = 2147483647) ∧
    ∀ queue, findPath (corridor 715827883) .empty .empty 1 queue 0 0 0 715827883 =
      .ok (some []) :=
  ⟨(longCorridor_cost .empty 1).1, fun queue =>
    searchPath_longCorridor queue fun _ _ hstep => hstep.free⟩

/-- No path is found through the long corridor, although a route that keeps the rules leads
there. -/
theorem longCorridor_not_found_zoc :
    (∃ path, ZocRoute (corridor 715827883) .empty .empty 1 .empty ⟨0, 0⟩ ⟨0, 715827883⟩ path ∧
      (corridor 715827883).pathCost path = 2147483647) ∧
    ∀ queue, findPathWithZoc (corridor 715827883) .empty .empty 1 queue 0 0 0 715827883 .empty =
      .ok (some []) := by
  obtain ⟨path, hleads, hcost⟩ := (longCorridor_cost .empty 1).1
  exact ⟨⟨path, zocRoute_of_noUnits .empty hleads, hcost⟩, fun queue =>
    searchPath_longCorridor queue fun _ _ hstep => hstep.free⟩

end Machine

end My4X
