/-
**The choice of spawn points.**

The spawn points are a farthest-first traversal of the candidate tiles: the first one is the
candidate closest to the centre, and each further one keeps the largest distance that a candidate
can keep from those before.  They are passable tiles away from the border, and at least half as far
apart as any choice of that many candidates.  Nothing compares their distance with the documented
minimum.

Main definitions:

* `My4X.MapGenerator.LegalSpawns` — as many points as factions, on passable tiles off the border;
* `My4X.MapGenerator.SpawnTraversal` — the farthest-first traversals of the candidates;
* `My4X.MapGenerator.RoomForSpawns` — after all spawn points but one some candidate is still at the
  minimum distance from each.

Main results:

* `My4X.MapGenerator.exists_traversal` — what is chosen is a traversal;
* `My4X.MapGenerator.spawns_apart_iff` — **spawn points are legal, and at the minimum distance
  exactly when there is room for the last one**;
* `My4X.MapGenerator.spawns_half_optimal` — **no choice of as many candidates is more than twice as
  far apart**;
* `My4X.MapGenerator.roomForSpawns_of_spread` — candidates nine steps apart leave room.
-/

import My4X.MapGenerator
import My4X.Lib.FarthestFirst
import Mathlib.Algebra.Order.Group.Int

set_option relaxedAutoImplicit false
set_option autoImplicit false

namespace My4X

namespace MapGenerator

open FarthestFirst

/-! ### Candidates and distances -/

/-- **The candidates are the passable tiles off the border.** -/
theorem mem_spawnCandidates {map : Map} {p : SpawnPoint} :
    p ∈ spawnCandidates map ↔
      (spawnBorderMargin ≤ p.1 ∧ p.1 < map.height - spawnBorderMargin) ∧
      (spawnBorderMargin ≤ p.2 ∧ p.2 < map.width - spawnBorderMargin) ∧
      ∃ terrain, map.terrain? p.1 p.2 = some terrain ∧
        (getTerrainProperties terrain).passable = true := by
  have hinner : ∀ size k : ℤ, k ∈ (List.range (size - 2 * spawnBorderMargin).toNat).map
      (fun i : ℕ => spawnBorderMargin + (i : ℤ)) ↔
        spawnBorderMargin ≤ k ∧ k < size - spawnBorderMargin := by
    intro size k
    rw [List.mem_map, spawnBorderMargin]
    constructor
    · rintro ⟨i, hi, rfl⟩
      rw [List.mem_range] at hi
      omega
    · rintro ⟨hlow, hhigh⟩
      exact ⟨(k - 2).toNat, List.mem_range.2 (by omega), by omega⟩
  obtain ⟨row, col⟩ := p
  simp only [spawnCandidates, List.mem_flatMap, List.mem_map (f := fun col => (_, col)),
    List.mem_filter, hinner, Prod.mk.injEq, Option.any_eq_true]
  constructor
  · rintro ⟨row', hrow, col', ⟨hcol, hpassable⟩, rfl, rfl⟩
    exact ⟨hrow, hcol, hpassable⟩
  · rintro ⟨hrow, hcol, hpassable⟩
    exact ⟨row, hrow, col, ⟨hcol, hpassable⟩, rfl, rfl⟩

/-- Points are within a distance when their rows and their columns are. -/
theorem chebyshev_le_iff {a b : SpawnPoint} {d : ℤ} :
    chebyshev a b ≤ d ↔ ((a.1 - b.1).natAbs : ℤ) ≤ d ∧ ((a.2 - b.2).natAbs : ℤ) ≤ d :=
  max_le_iff

theorem chebyshev_nonneg (a b : SpawnPoint) : 0 ≤ chebyshev a b :=
  le_max_of_le_left (Int.natCast_nonneg _)

theorem chebyshev_comm (a b : SpawnPoint) : chebyshev a b = chebyshev b a := by
  have hrows : (a.1 - b.1).natAbs = (b.1 - a.1).natAbs := by omega
  have hcols : (a.2 - b.2).natAbs = (b.2 - a.2).natAbs := by omega
  rw [chebyshev, chebyshev, hrows, hcols]

theorem chebyshev_triangle (a b c : SpawnPoint) :
    chebyshev a c ≤ chebyshev a b + chebyshev b c := by
  obtain ⟨hab, hab'⟩ := chebyshev_le_iff.1 (le_refl (chebyshev a b))
  obtain ⟨hbc, hbc'⟩ := chebyshev_le_iff.1 (le_refl (chebyshev b c))
  refine chebyshev_le_iff.2 ⟨?_, ?_⟩
  · omega
  · omega

/-- On a map whose sizes are `int`s, so are the distances of candidates. -/
theorem chebyshev_le_intMax {map : Map} (hheight : map.height ≤ intMax)
    (hwidth : map.width ≤ intMax)
    {a b : SpawnPoint} (ha : a ∈ spawnCandidates map) (hb : b ∈ spawnCandidates map) :
    chebyshev a b ≤ intMax := by
  obtain ⟨⟨ha1, ha2⟩, ⟨ha3, ha4⟩, -⟩ := mem_spawnCandidates.1 ha
  obtain ⟨⟨hb1, hb2⟩, ⟨hb3, hb4⟩, -⟩ := mem_spawnCandidates.1 hb
  rw [spawnBorderMargin] at *
  refine chebyshev_le_iff.2 ⟨?_, ?_⟩
  · omega
  · omega

/-- The distance of a candidate from the nearest spawn point is the gap it leaves. -/
theorem minDist_eq_gap (spawns : List SpawnPoint) : minDist spawns = gap chebyshev intMax spawns :=
  rfl

theorem minDist_nonneg (spawns : List SpawnPoint) (candidate : SpawnPoint) :
    0 ≤ minDist spawns candidate := by
  rw [minDist_eq_gap]
  exact le_gap_iff.2 ⟨by decide, fun p _ => chebyshev_nonneg candidate p⟩

/-! ### The loops -/

/-- **The loop over the candidates finds the first one that is farthest.** -/
theorem foldl_betterCandidate (spawns : List SpawnPoint) (front : SpawnPoint)
    (candidates : List SpawnPoint) :
    candidates.foldl (betterCandidate spawns) (-1, front) =
      match farthest? chebyshev intMax candidates spawns with
      | some best => (minDist spawns best, best)
      | none => (-1, front) := by
  induction candidates using List.reverseRecOn with
  | nil => rfl
  | append_singleton candidates candidate ih =>
      rw [List.foldl_append, List.foldl_cons, List.foldl_nil, ih, farthest?_concat,
        ← minDist_eq_gap]
      cases farthest? chebyshev intMax candidates spawns with
      | none =>
          have hnonneg := minDist_nonneg spawns candidate
          dsimp only
          rw [betterCandidate, if_pos (by dsimp only; omega)]
      | some best =>
          dsimp only
          rw [betterCandidate]
          split
          · rfl
          · rfl

/-- Each further spawn point is the candidate that is farthest from those before. -/
theorem farthest?_eq {candidates : List SpawnPoint} (h : candidates ≠ [])
    (spawns : List SpawnPoint) (front : SpawnPoint) :
    farthest? chebyshev intMax candidates spawns =
      some (candidates.foldl (betterCandidate spawns) (-1, front)).2 := by
  rw [foldl_betterCandidate]
  cases hmax : farthest? chebyshev intMax candidates spawns with
  | none => exact absurd (farthest?_eq_none.1 hmax) h
  | some best => rfl

theorem length_pickSpawns (candidates : List SpawnPoint) (front first : SpawnPoint) (i : ℕ) :
    (pickSpawns candidates front first i).length = i + 1 := by
  induction i with
  | zero => rfl
  | succ i ih => rw [pickSpawns, List.length_append, ih, List.length_singleton]

/-- **The spawn points are a farthest-first traversal of the candidates.** -/
theorem traversal_pickSpawns {candidates : List SpawnPoint} (h : candidates ≠ [])
    (front first : SpawnPoint) (i : ℕ) :
    Traversal chebyshev intMax candidates first (pickSpawns candidates front first i) := by
  induction i with
  | zero => exact Traversal.start
  | succ i ih => exact ih.next (farthest?_eq h _ front)

/-- What is chosen: nothing without candidates, and otherwise the points picked from the candidate
closest to the centre on. -/
theorem findSpawnPoints_cases (map : Map) {n : ℤ} (hn : 1 ≤ n) :
    (spawnCandidates map = [] ∧ findSpawnPoints map n = []) ∨
      ∃ front first, spawnCandidates map ≠ [] ∧
        minElement? (distToCenter map) (spawnCandidates map) = some first ∧
        findSpawnPoints map n = pickSpawns (spawnCandidates map) front first (n.toNat - 1) := by
  rw [findSpawnPoints]
  cases hcand : spawnCandidates map with
  | nil => exact Or.inl ⟨rfl, rfl⟩
  | cons front rest =>
      cases hmin : minElement? (distToCenter map) (front :: rest) with
      | none => exact absurd (List.argmin_eq_none.1 hmin) (List.cons_ne_nil _ _)
      | some first =>
          refine Or.inr ⟨front, first, List.cons_ne_nil _ _, rfl, ?_⟩
          rw [List.head?_cons]
          dsimp only
          rw [if_neg (by omega)]

/-! ### Legal spawn points -/

/-- **Spawn points are legal**: there is one for each faction unless the map has no candidate, and
they are on passable tiles away from every edge. -/
structure LegalSpawns (map : Map) (n : ℤ) (spawns : List SpawnPoint) : Prop where
  length : (spawnCandidates map = [] ∧ spawns = []) ∨ (spawns.length : ℤ) = n
  margin : ∀ p ∈ spawns,
    (spawnBorderMargin ≤ p.1 ∧ p.1 < map.height - spawnBorderMargin) ∧
      (spawnBorderMargin ≤ p.2 ∧ p.2 < map.width - spawnBorderMargin)
  passable : ∀ p ∈ spawns, ∃ terrain, map.terrain? p.1 p.2 = some terrain ∧
    (getTerrainProperties terrain).passable = true

theorem findSpawnPoints_subset (map : Map) {n : ℤ} (hn : 1 ≤ n) :
    findSpawnPoints map n ⊆ spawnCandidates map := by
  obtain ⟨-, hnone⟩ | ⟨front, first, hsome, hfirst, hpick⟩ := findSpawnPoints_cases map hn
  · rw [hnone]
    exact List.nil_subset _
  · rw [hpick]
    exact (traversal_pickSpawns hsome front first _).subset (List.argmin_mem hfirst)

theorem legalSpawns_findSpawnPoints (map : Map) {n : ℤ} (hn : 1 ≤ n) :
    LegalSpawns map n (findSpawnPoints map n) where
  length := by
    obtain ⟨hcand, hnone⟩ | ⟨front, first, -, -, hpick⟩ := findSpawnPoints_cases map hn
    · exact Or.inl ⟨hcand, hnone⟩
    · refine Or.inr ?_
      rw [hpick, length_pickSpawns]
      omega
  margin p hp :=
    have hmem := mem_spawnCandidates.1 (findSpawnPoints_subset map hn hp)
    ⟨hmem.1, hmem.2.1⟩
  passable p hp := (mem_spawnCandidates.1 (findSpawnPoints_subset map hn hp)).2.2

/-! ### The minimum distance -/

/-- A farthest-first traversal of the candidates, from the one closest to the centre on. -/
def SpawnTraversal (map : Map) (picked : List SpawnPoint) : Prop :=
  ∃ first, minElement? (distToCenter map) (spawnCandidates map) = some first ∧
    Traversal chebyshev intMax (spawnCandidates map) first picked

/-- **There is room for all spawn points**: there are no two of them, or after all but the last one
some candidate is still at the minimum distance from each. -/
def RoomForSpawns (map : Map) (n : ℤ) : Prop :=
  n ≤ 1 ∨ spawnCandidates map = [] ∨
    ∃ picked, SpawnTraversal map picked ∧ (picked.length : ℤ) + 1 = n ∧
      ∃ b ∈ spawnCandidates map, ∀ p ∈ picked, minSpawnDistance ≤ chebyshev b p

/-- The order of two points does not matter for their distance. -/
theorem pairwise_comm {points : List SpawnPoint} {d : ℤ} :
    points.Pairwise (fun p q => d ≤ chebyshev p q) ↔
      points.Pairwise fun p q => d ≤ chebyshev q p :=
  List.Pairwise.iff fun p q => by rw [chebyshev_comm]

/-- Two spawn points or more are a traversal and one point more. -/
theorem exists_traversal {map : Map} {n : ℤ} (hn : 2 ≤ n) (hcand : spawnCandidates map ≠ []) :
    ∃ first picked last, minElement? (distToCenter map) (spawnCandidates map) = some first ∧
      Traversal chebyshev intMax (spawnCandidates map) first picked ∧
      (picked.length : ℤ) + 1 = n ∧
      farthest? chebyshev intMax (spawnCandidates map) picked = some last ∧
      findSpawnPoints map n = picked ++ [last] := by
  obtain ⟨hnone, -⟩ | ⟨front, first, hsome, hfirst, hpick⟩ :=
    findSpawnPoints_cases map (n := n) (by omega)
  · exact absurd hnone hcand
  · have hindex : n.toNat - 1 = (n.toNat - 2) + 1 := by omega
    refine ⟨first, _, _, hfirst, traversal_pickSpawns hsome front first (n.toNat - 2), ?_,
      farthest?_eq hsome _ front, ?_⟩
    · rw [length_pickSpawns]
      omega
    · rw [hpick, hindex, pickSpawns]

/-- Spawn points are at the minimum distance from each other exactly when there is room for all of
them. -/
theorem pairwise_apart_iff (map : Map) {n : ℤ} (hn : 1 ≤ n) :
    (findSpawnPoints map n).Pairwise (fun p q => minSpawnDistance ≤ chebyshev p q) ↔
      RoomForSpawns map n := by
  have hbound : minSpawnDistance ≤ intMax := by decide
  by_cases hcand : spawnCandidates map = []
  · obtain ⟨-, hnone⟩ | ⟨-, -, hsome, -⟩ := findSpawnPoints_cases map hn
    · rw [hnone]
      exact ⟨fun _ => Or.inr (Or.inl hcand), fun _ => List.Pairwise.nil⟩
    · exact absurd hcand hsome
  · by_cases hone : n ≤ 1
    · obtain ⟨-, hnone⟩ | ⟨front, first, -, -, hpick⟩ := findSpawnPoints_cases map hn
      · rw [hnone]
        exact ⟨fun _ => Or.inl hone, fun _ => List.Pairwise.nil⟩
      · rw [hpick, show n.toNat - 1 = 0 by omega]
        exact ⟨fun _ => Or.inl hone, fun _ => List.pairwise_singleton _ _⟩
    · obtain ⟨first, picked, last, hfirst, htraversal, hlength, hlast, hpick⟩ :=
        exists_traversal (n := n) (by omega) hcand
      rw [hpick, pairwise_comm, pairwise_next_iff htraversal hlast hbound]
      constructor
      · intro hroom
        exact Or.inr (Or.inr ⟨picked, ⟨first, hfirst, htraversal⟩, hlength, hroom⟩)
      · rintro (hle | hnone | ⟨picked', ⟨first', hfirst', htraversal'⟩, hlength', hroom⟩)
        · exact absurd hle hone
        · exact absurd hnone hcand
        · obtain rfl := Option.some_inj.1 (hfirst'.symm.trans hfirst)
          obtain rfl := htraversal.unique htraversal' (by omega)
          exact hroom

/-! ### Half as far apart as can be -/

/-- The traversal that is chosen, with its distances against those of any other candidates. -/
theorem exists_traversal_half {map : Map} (hheight : map.height ≤ intMax)
    (hwidth : map.width ≤ intMax) {n : ℤ} (hn : 2 ≤ n) {tiles : List SpawnPoint}
    (htiles : tiles ⊆ spawnCandidates map) (hlength : (tiles.length : ℤ) = n) {d : ℤ}
    (hd : tiles.Pairwise fun p q => d ≤ chebyshev p q) :
    ∃ picked last, SpawnTraversal map picked ∧ (picked.length : ℤ) + 1 = n ∧
      farthest? chebyshev intMax (spawnCandidates map) picked = some last ∧
      findSpawnPoints map n = picked ++ [last] ∧
      (picked ++ [last]).Pairwise fun p q => d ≤ 2 * chebyshev q p := by
  have hcand : spawnCandidates map ≠ [] := by
    intro hnone
    rw [hnone] at htiles
    rw [List.eq_nil_of_subset_nil htiles, List.length_nil] at hlength
    omega
  obtain ⟨first, picked, last, hfirst, htraversal, hlength', hlast, hpick⟩ :=
    exists_traversal hn hcand
  refine ⟨picked, last, ⟨first, hfirst, htraversal⟩, hlength', hlast, hpick, ?_⟩
  have hhalf := half_optimal chebyshev_comm chebyshev_triangle
    (fun _ ha _ hb => chebyshev_le_intMax hheight hwidth ha hb) (List.argmin_mem hfirst)
    htraversal hlast htiles (by omega) hd
  refine hhalf.imp fun {p q} hpq => ?_
  omega

/-- **The spawn points are at least half as far apart as any choice of that many candidates.** -/
theorem spawns_half_optimal (map : Map) (hheight : map.height ≤ intMax)
    (hwidth : map.width ≤ intMax) {n : ℤ} (hn : 2 ≤ n) {tiles : List SpawnPoint}
    (htiles : tiles ⊆ spawnCandidates map) (hlength : (tiles.length : ℤ) = n) {d : ℤ}
    (hd : tiles.Pairwise fun p q => d ≤ chebyshev p q) :
    ((findSpawnPoints map n).length : ℤ) = n ∧
      (findSpawnPoints map n).Pairwise fun p q => d ≤ 2 * chebyshev p q := by
  obtain ⟨picked, last, -, hlength', -, hpick, hhalf⟩ :=
    exists_traversal_half hheight hwidth hn htiles hlength hd
  rw [hpick]
  constructor
  · rw [List.length_append, List.length_singleton]
    omega
  · refine hhalf.imp fun {p q} hpq => ?_
    rw [chebyshev_comm]
    exact hpq

/-- Two tiles of a map of seven by seven plains are two steps apart, so the spawn points are at
least one. -/
theorem two_spawns_half_optimal :
    ∃ map, Map.create 7 7 (fun _ => .plains) = .ok map ∧
      ((findSpawnPoints map 2).length : ℤ) = 2 ∧
        (findSpawnPoints map 2).Pairwise fun p q => 2 ≤ 2 * chebyshev p q := by
  refine ⟨_, rfl, spawns_half_optimal _ (by decide) (by decide) (by decide)
    (show ([(2, 2), (4, 4)] : List SpawnPoint) ⊆ _ by decide) (by decide) (by decide)⟩

/-- **There is room for as many spawn points as there are candidates nine steps apart.** -/
theorem roomForSpawns_of_spread (map : Map) (hheight : map.height ≤ intMax)
    (hwidth : map.width ≤ intMax) {n : ℤ} {tiles : List SpawnPoint}
    (htiles : tiles ⊆ spawnCandidates map) (hlength : (tiles.length : ℤ) = n)
    (hspread : tiles.Pairwise fun p q => 2 * minSpawnDistance - 1 ≤ chebyshev p q) :
    RoomForSpawns map n := by
  by_cases hn : n ≤ 1
  · exact Or.inl hn
  · obtain ⟨picked, last, htraversal, hlength', hlast, -, hhalf⟩ :=
      exists_traversal_half hheight hwidth (by omega) htiles hlength hspread
    have hapart : (picked ++ [last]).Pairwise fun p q => minSpawnDistance ≤ chebyshev q p := by
      refine hhalf.imp fun {p q} hpq => ?_
      rw [minSpawnDistance] at hpq ⊢
      omega
    obtain ⟨first, hfirst, htraversal'⟩ := htraversal
    exact Or.inr (Or.inr ⟨picked, ⟨first, hfirst, htraversal'⟩, hlength',
      (pairwise_next_iff htraversal' hlast (by decide)).1 hapart⟩)

/-! ### The minimum distance between the spawn points -/

/-- **Spawn points are legal, and at the minimum distance from each other exactly when there is room
for all of them**, as there is when as many candidates are nine steps apart. -/
theorem spawns_apart_iff (map : Map) {n : ℤ} (hn : 1 ≤ n) :
    LegalSpawns map n (findSpawnPoints map n) ∧
      ((findSpawnPoints map n).Pairwise (fun p q => minSpawnDistance ≤ chebyshev p q) ↔
        RoomForSpawns map n) ∧
      (map.height ≤ intMax → map.width ≤ intMax → ∀ tiles ⊆ spawnCandidates map,
        (tiles.length : ℤ) = n →
        tiles.Pairwise (fun p q => 2 * minSpawnDistance - 1 ≤ chebyshev p q) →
        (findSpawnPoints map n).Pairwise fun p q => minSpawnDistance ≤ chebyshev p q) := by
  refine ⟨legalSpawns_findSpawnPoints map hn, pairwise_apart_iff map hn, ?_⟩
  intro hheight hwidth tiles htiles hlength hspread
  exact (pairwise_apart_iff map hn).2
    (roomForSpawns_of_spread map hheight hwidth htiles hlength hspread)

/-- On a map of five by five plains the second of two spawn points is the first one again. -/
theorem spawns_coincide :
    ∃ map, Map.create 5 5 (fun _ => .plains) = .ok map ∧
      findSpawnPoints map 2 = [(2, 2), (2, 2)] ∧
      ¬ (findSpawnPoints map 2).Pairwise (fun p q => minSpawnDistance ≤ chebyshev p q) := by
  refine ⟨_, rfl, by decide, by decide⟩

/-- There are two legal spawn points on this map, and no room for the second one. -/
theorem two_spawns_apart_iff :
    ∃ map, Map.create 5 5 (fun _ => .plains) = .ok map ∧
      LegalSpawns map 2 (findSpawnPoints map 2) ∧
        ((findSpawnPoints map 2).Pairwise (fun p q => minSpawnDistance ≤ chebyshev p q) ↔
          RoomForSpawns map 2) ∧
        (map.height ≤ intMax → map.width ≤ intMax → ∀ tiles ⊆ spawnCandidates map,
          (tiles.length : ℤ) = 2 →
          tiles.Pairwise (fun p q => 2 * minSpawnDistance - 1 ≤ chebyshev p q) →
          (findSpawnPoints map 2).Pairwise fun p q => minSpawnDistance ≤ chebyshev p q) := by
  obtain ⟨map, hmap⟩ : ∃ map, Map.create 5 5 (fun _ => .plains) = .ok map := ⟨_, rfl⟩
  exact ⟨map, hmap, spawns_apart_iff map (by decide)⟩

end MapGenerator

end My4X
