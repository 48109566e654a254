/-
**One adjacency relation.**

The neighbours of a tile are listed in four places: for the searches, for spawning, for the neutral
units and, direction by direction, for rivers.  Each place has its own table of offsets for even and
for odd rows, in its own order.  In cube coordinates a direction is the same step in every row, and
the opposite direction is the step back; each of the four tables lists these six steps.

Main definitions:

* `My4X.allDirections`, `My4X.cubeOffset` — the directions, and their steps in cube coordinates;
* `My4X.neighborCoords` — the neighbours in the six directions;
* `My4X.ListsNeighbors` — a list of the tiles of the map at distance one, each once.

Main results:

* `My4X.rowOffset_eq_iff` — an offset of a row is a step in cube coordinates;
* `My4X.listsNeighbors_of_perm` — every table of the six offsets lists the neighbours;
* `My4X.neighborCoord_opposite` — **stepping back returns to the start**;
* `My4X.one_adjacency` — **the four lists have the same neighbours, and adjacency is symmetric**.
-/

import My4X.TurnResolver

set_option relaxedAutoImplicit false
set_option autoImplicit false

namespace My4X

/-! ### Directions -/

/-- All six directions, in the order of the enumeration. -/
def allDirections : List HexDirection := [.NE, .E, .SE, .SW, .W, .NW]

/-- The neighbours in the six directions. -/
def neighborCoords (row col mapHeight mapWidth : ℤ) : List (ℤ × ℤ) :=
  allDirections.filterMap fun dir => neighborCoord row col dir mapHeight mapWidth

/-- The offset of a direction in a row. -/
def rowOffset (row : ℤ) (dir : HexDirection) : ℤ × ℤ :=
  if row % 2 = 0 then evenRowOffset dir else oddRowOffset dir

/-- **The step of a direction in cube coordinates**, the first and the last one, which is the same
in every row. -/
def cubeOffset : HexDirection → ℤ × ℤ
  | .NE => (1, -1)
  | .E => (1, 0)
  | .SE => (0, 1)
  | .SW => (-1, 1)
  | .W => (-1, 0)
  | .NW => (0, -1)

theorem mem_allDirections (dir : HexDirection) : dir ∈ allDirections := by
  cases dir <;> decide

/-- The step of the opposite direction is the step back. -/
theorem cubeOffset_oppositeDirection (dir : HexDirection) :
    cubeOffset (oppositeDirection dir) = (-(cubeOffset dir).1, -(cubeOffset dir).2) := by
  cases dir <;> rfl

/-- A step changes the row in the same way everywhere. -/
theorem rowOffset_fst (row : ℤ) (dir : HexDirection) :
    (rowOffset row dir).1 = (cubeOffset dir).2 := by
  rw [rowOffset]
  split
  · cases dir <;> rfl
  · cases dir <;> rfl

/-- A step changes the first cube coordinate in the same way everywhere. -/
theorem cubeX_rowOffset (row col : ℤ) (dir : HexDirection) :
    cubeX (row + (rowOffset row dir).1) (col + (rowOffset row dir).2) =
      cubeX row col + (cubeOffset dir).1 := by
  rw [rowOffset, cubeX, cubeX]
  split
  · cases dir <;> simp only [evenRowOffset, cubeOffset] <;> omega
  · cases dir <;> simp only [oddRowOffset, cubeOffset] <;> omega

/-- A tile is determined by its row and its first cube coordinate. -/
theorem col_eq_of_cubeX (row : ℤ) {col col' : ℤ} (h : cubeX row col = cubeX row col') :
    col = col' := by
  rw [cubeX, cubeX] at h
  omega

/-- **An offset of a row is a step in cube coordinates.** -/
theorem rowOffset_eq_iff {row col row' col' : ℤ} {dir : HexDirection} :
    (row + (rowOffset row dir).1, col + (rowOffset row dir).2) = (row', col') ↔
      cubeX row' col' - cubeX row col = (cubeOffset dir).1 ∧ row' - row = (cubeOffset dir).2 := by
  have hx := cubeX_rowOffset row col dir
  have hrow := rowOffset_fst row dir
  rw [Prod.mk.injEq]
  constructor
  · rintro ⟨rfl, rfl⟩
    exact ⟨by omega, by omega⟩
  · rintro ⟨hx', hrow'⟩
    obtain rfl : row' = row + (rowOffset row dir).1 := by omega
    refine ⟨rfl, col_eq_of_cubeX (row + (rowOffset row dir).1) ?_⟩
    omega

/-- Tiles at distance one are one step apart. -/
theorem cubeDistance_eq_one_iff_exists (dx dz : ℤ) :
    cubeDistance dx dz = 1 ↔ ∃ dir, dx = (cubeOffset dir).1 ∧ dz = (cubeOffset dir).2 := by
  rw [cubeDistance_eq_one_iff]
  constructor
  · rintro (⟨rfl, rfl⟩ | ⟨rfl, rfl⟩ | ⟨rfl, rfl⟩ | ⟨rfl, rfl⟩ | ⟨rfl, rfl⟩ | ⟨rfl, rfl⟩)
    · exact ⟨.SE, rfl, rfl⟩
    · exact ⟨.SW, rfl, rfl⟩
    · exact ⟨.E, rfl, rfl⟩
    · exact ⟨.W, rfl, rfl⟩
    · exact ⟨.NE, rfl, rfl⟩
    · exact ⟨.NW, rfl, rfl⟩
  · rintro ⟨dir, rfl, rfl⟩
    cases dir <;> decide

/-- **The tiles at distance one are those that the six offsets of the row lead to.** -/
theorem hexDistance_eq_one_iff {row col row' col' : ℤ} :
    hexDistance row col row' col' = 1 ↔
      ∃ dir, (row + (rowOffset row dir).1, col + (rowOffset row dir).2) = (row', col') := by
  rw [hexDistance_comm, hexDistance_eq, cubeDistance_eq_one_iff_exists]
  exact exists_congr fun dir => rowOffset_eq_iff.symm

/-! ### Lists of neighbours -/

/-- **The list holds the tiles of the map at distance one, each once.** -/
structure ListsNeighbors (row col mapHeight mapWidth : ℤ) (l : List (ℤ × ℤ)) : Prop where
  nodup : l.Nodup
  mem_iff : ∀ n, n ∈ l ↔ InBounds n.1 n.2 mapHeight mapWidth ∧ hexDistance row col n.1 n.2 = 1

/-- Two lists of the neighbours differ in their order at most. -/
theorem ListsNeighbors.perm {row col mapHeight mapWidth : ℤ} {l l' : List (ℤ × ℤ)}
    (h : ListsNeighbors row col mapHeight mapWidth l)
    (h' : ListsNeighbors row col mapHeight mapWidth l') : l.Perm l' :=
  (List.perm_ext_iff_of_nodup h.nodup h'.nodup).2 fun n => (h.mem_iff n).trans (h'.mem_iff n).symm

theorem rowOffset_of_even {row : ℤ} (h : row % 2 = 0) : rowOffset row = evenRowOffset :=
  funext fun _ => if_pos h

theorem rowOffset_of_odd {row : ℤ} (h : ¬ row % 2 = 0) : rowOffset row = oddRowOffset :=
  funext fun _ => if_neg h

theorem nodup_rowOffsets (row : ℤ) : (allDirections.map (rowOffset row)).Nodup := by
  by_cases heven : row % 2 = 0
  · rw [rowOffset_of_even heven]
    decide
  · rw [rowOffset_of_odd heven]
    decide

/-- **Every table of the six offsets of a row lists the neighbours.** -/
theorem listsNeighbors_of_perm {row : ℤ} (col mapHeight mapWidth : ℤ) {table : List (ℤ × ℤ)}
    (hperm : table.Perm (allDirections.map (rowOffset row))) :
    ListsNeighbors row col mapHeight mapWidth
      ((table.map fun offset => (row + offset.1, col + offset.2)).filter
        fun n => InBounds n.1 n.2 mapHeight mapWidth) where
  nodup := by
    refine List.Nodup.filter _ (List.Nodup.map ?_ (hperm.nodup_iff.2 (nodup_rowOffsets row)))
    intro offset offset' h
    obtain ⟨hrow, hcol⟩ := Prod.mk.inj h
    exact Prod.ext (Int.add_left_cancel hrow) (Int.add_left_cancel hcol)
  mem_iff n := by
    rw [List.mem_filter, decide_eq_true_iff, and_comm, hexDistance_eq_one_iff, List.mem_map]
    refine and_congr_right fun _ => ?_
    constructor
    · rintro ⟨offset, hoffset, rfl⟩
      obtain ⟨dir, -, rfl⟩ := List.mem_map.1 (hperm.mem_iff.1 hoffset)
      exact ⟨dir, rfl⟩
    · rintro ⟨dir, hdir⟩
      exact ⟨rowOffset row dir, hperm.mem_iff.2 (List.mem_map_of_mem (mem_allDirections dir)), hdir⟩

section Lists

variable (row col mapHeight mapWidth : ℤ)

/-- The neighbours in the six directions. -/
theorem listsNeighbors_neighborCoords :
    ListsNeighbors row col mapHeight mapWidth (neighborCoords row col mapHeight mapWidth) := by
  have hguard : (fun dir => neighborCoord row col dir mapHeight mapWidth) =
      fun dir => Option.guard (fun n : ℤ × ℤ => InBounds n.1 n.2 mapHeight mapWidth)
        (row + (rowOffset row dir).1, col + (rowOffset row dir).2) := by
    funext dir
    rw [Option.guard]
    simp only [decide_eq_true_eq]
    rfl
  have hlist : neighborCoords row col mapHeight mapWidth =
      (((allDirections.map (rowOffset row)).map fun offset =>
        (row + offset.1, col + offset.2)).filter fun n => InBounds n.1 n.2 mapHeight mapWidth) := by
    rw [neighborCoords, hguard, List.map_map, ← List.filterMap_eq_filter, List.filterMap_map]
    rfl
  rw [hlist]
  exact listsNeighbors_of_perm col mapHeight mapWidth (List.Perm.refl _)

/-- The table of the searches. -/
theorem directions_perm :
    (if row % 2 = 0 then evenRowDirections else oddRowDirections).Perm
      (allDirections.map (rowOffset row)) := by
  by_cases heven : row % 2 = 0
  · rw [if_pos heven, rowOffset_of_even heven]
    decide
  · rw [if_neg heven, rowOffset_of_odd heven]
    decide

/-- The neighbours that the searches know. -/
theorem listsNeighbors_hexNeighbors :
    ListsNeighbors row col mapHeight mapWidth
      ((hexNeighbors row col mapHeight mapWidth).map fun n => (n.row, n.col)) := by
  have hlist := listsNeighbors_of_perm col mapHeight mapWidth (directions_perm row)
  rw [List.filter_map] at hlist
  rw [hexNeighbors, List.filter_map, List.map_map]
  exact hlist

/-- The neighbours that the neutral units know, inside the map. -/
theorem NeutralAI.listsNeighbors_hexNeighbors :
    ListsNeighbors row col mapHeight mapWidth
      ((NeutralAI.hexNeighbors row col).filter fun n => InBounds n.1 n.2 mapHeight mapWidth) :=
  listsNeighbors_of_perm col mapHeight mapWidth (directions_perm row)

/-- A tile of the map is one of the neighbours that the neutral units know when it is at distance
one. -/
theorem NeutralAI.mem_hexNeighbors_iff {row col mapHeight mapWidth : ℤ} {n : ℤ × ℤ}
    (hn : InBounds n.1 n.2 mapHeight mapWidth) :
    n ∈ NeutralAI.hexNeighbors row col ↔ hexDistance row col n.1 n.2 = 1 := by
  have hmem := (NeutralAI.listsNeighbors_hexNeighbors row col mapHeight mapWidth).mem_iff n
  rwa [List.mem_filter, decide_eq_true_iff, and_iff_left hn, and_iff_right hn] at hmem

/-- The neighbours that spawning knows. -/
theorem TurnResolver.listsNeighbors_hexNeighbors :
    ListsNeighbors row col mapHeight mapWidth
      (TurnResolver.hexNeighbors row col mapHeight mapWidth) := by
  refine listsNeighbors_of_perm col mapHeight mapWidth ?_
  by_cases heven : row % 2 = 0
  · rw [if_neg (not_not.2 heven), rowOffset_of_even heven]
    decide
  · rw [if_pos heven, rowOffset_of_odd heven]
    decide

/-- The four lists of the neighbours of a tile: of the searches, of spawning, of the neutral units
and of the six directions. -/
def neighborLists : List (List (ℤ × ℤ)) :=
  [(hexNeighbors row col mapHeight mapWidth).map fun n => (n.row, n.col),
    TurnResolver.hexNeighbors row col mapHeight mapWidth,
    (NeutralAI.hexNeighbors row col).filter fun n => InBounds n.1 n.2 mapHeight mapWidth,
    neighborCoords row col mapHeight mapWidth]

/-- Each of the four lists holds the neighbours. -/
theorem listsNeighbors_of_mem {l : List (ℤ × ℤ)}
    (hl : l ∈ neighborLists row col mapHeight mapWidth) :
    ListsNeighbors row col mapHeight mapWidth l := by
  simp only [neighborLists, List.mem_cons, List.not_mem_nil, or_false] at hl
  rcases hl with rfl | rfl | rfl | rfl
  · exact listsNeighbors_hexNeighbors row col mapHeight mapWidth
  · exact TurnResolver.listsNeighbors_hexNeighbors row col mapHeight mapWidth
  · exact NeutralAI.listsNeighbors_hexNeighbors row col mapHeight mapWidth
  · exact listsNeighbors_neighborCoords row col mapHeight mapWidth

end Lists

/-! ### Back again -/

section Back

variable {row col mapHeight mapWidth : ℤ}

theorem neighborCoord_eq_some {dir : HexDirection} {n : ℤ × ℤ} :
    neighborCoord row col dir mapHeight mapWidth = some n ↔
      (row + (rowOffset row dir).1, col + (rowOffset row dir).2) = n ∧
        InBounds n.1 n.2 mapHeight mapWidth := by
  show (if InBounds (row + (rowOffset row dir).1) (col + (rowOffset row dir).2) mapHeight mapWidth
    then some (row + (rowOffset row dir).1, col + (rowOffset row dir).2) else none) = some n ↔ _
  rw [Option.ite_none_right_eq_some, Option.some_inj]
  constructor
  · rintro ⟨hin, rfl⟩
    exact ⟨rfl, hin⟩
  · rintro ⟨rfl, hin⟩
    exact ⟨hin, rfl⟩

/-- **Stepping back returns to the start.** -/
theorem neighborCoord_opposite (hin : InBounds row col mapHeight mapWidth) {dir : HexDirection}
    {n : ℤ × ℤ} (h : neighborCoord row col dir mapHeight mapWidth = some n) :
    neighborCoord n.1 n.2 (oppositeDirection dir) mapHeight mapWidth = some (row, col) := by
  obtain ⟨hx, hrow⟩ := rowOffset_eq_iff.1 (neighborCoord_eq_some.1 h).1
  refine neighborCoord_eq_some.2 ⟨rowOffset_eq_iff.2 ?_, hin⟩
  rw [cubeOffset_oppositeDirection, ← hx, ← hrow]
  exact ⟨by omega, by omega⟩

/-- **There is one adjacency relation.**  The four lists hold the same neighbours of a tile, each
once: the tiles of the map at distance one.  A tile is a neighbour of its neighbours, and a step in
a direction that stays in the map is undone by a step in the opposite direction. -/
theorem one_adjacency (hin : InBounds row col mapHeight mapWidth) :
    (∀ l ∈ neighborLists row col mapHeight mapWidth,
      l.Nodup ∧
      (∀ n, n ∈ l ↔ InBounds n.1 n.2 mapHeight mapWidth ∧ hexDistance row col n.1 n.2 = 1) ∧
      (∀ l' ∈ neighborLists row col mapHeight mapWidth, l.Perm l') ∧
      ∀ n ∈ l, ∀ l' ∈ neighborLists n.1 n.2 mapHeight mapWidth, (row, col) ∈ l') ∧
    ∀ dir n, neighborCoord row col dir mapHeight mapWidth = some n →
      neighborCoord n.1 n.2 (oppositeDirection dir) mapHeight mapWidth = some (row, col) := by
  refine ⟨fun l hl => ?_, fun dir n h => neighborCoord_opposite hin h⟩
  have hlists := listsNeighbors_of_mem row col mapHeight mapWidth hl
  refine ⟨hlists.nodup, hlists.mem_iff, fun l' hl' => ?_, fun n hn l' hl' => ?_⟩
  · exact hlists.perm (listsNeighbors_of_mem row col mapHeight mapWidth hl')
  · have hlists' := listsNeighbors_of_mem n.1 n.2 mapHeight mapWidth hl'
    refine (hlists'.mem_iff _).2 ⟨hin, ?_⟩
    rw [hexDistance_comm]
    exact ((hlists.mem_iff n).1 hn).2

/-- The corner of a map of three rows and three columns has two neighbours. -/
theorem corner_adjacency :
    neighborLists 0 0 3 3 =
        [[(0, 1), (1, 0)], [(0, 1), (1, 0)], [(0, 1), (1, 0)], [(0, 1), (1, 0)]] ∧
      (∀ l ∈ neighborLists 0 0 3 3,
        l.Nodup ∧
        (∀ n, n ∈ l ↔ InBounds n.1 n.2 3 3 ∧ hexDistance 0 0 n.1 n.2 = 1) ∧
        (∀ l' ∈ neighborLists 0 0 3 3, l.Perm l') ∧
        ∀ n ∈ l, ∀ l' ∈ neighborLists n.1 n.2 3 3, (0, 0) ∈ l') ∧
      ∀ dir n, neighborCoord 0 0 dir 3 3 = some n →
        neighborCoord n.1 n.2 (oppositeDirection dir) 3 3 = some (0, 0) :=
  ⟨by decide, one_adjacency (by decide)⟩

end Back

end My4X
