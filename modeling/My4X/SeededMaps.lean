/-
**The seed of a game and its map.**

The settings of a game hold a seed for its map.  The map of a started game is drawn by a generator
that is seeded all the same with a number from the random device of the system: two games with the
same settings have the same map only where their generators happen to draw the same terrains.  The
river that is carved on every larger map covers what was drawn beneath it.

Main definitions:

* `My4X.mt19937_64` — the generator, `std::mt19937_64`;
* `My4X.terrainDraws` — the terrains that are drawn when the random device has given a number;
* `My4X.riverTiles` — the tiles of the river;
* `My4X.SameMap`, `My4X.SameDraws` — maps, and draws, that are the same tile by tile.

Main results:

* `My4X.create_sameMap_iff` — two new maps are the same exactly when the same is drawn for every
  tile that the river does not cover;
* `My4X.startGame_sameMap_iff` — **so are the maps of two started games, whatever their seed**.
-/

import My4X.Handover
import Mathlib.Algebra.Group.Nat.Defs

set_option relaxedAutoImplicit false
set_option autoImplicit false

namespace My4X

/-! ### The generator -/

/-- A word of the generator mixed with its lowest bit. -/
def twist (y : UInt64) : UInt64 := (y >>> 1) ^^^ if y &&& 1 = 0 then 0 else 0xB5026F5AA96619E9

/-- The word after some words, the last of which come first: the first 312 words follow one from the
other, the later ones from three earlier ones. -/
def nextWord (i : ℕ) (words : List UInt64) : UInt64 :=
  if i < 312 then
    (6364136223846793005 : UInt64) * (words.headD 0 ^^^ (words.headD 0 >>> 62)) + UInt64.ofNat i
  else
    words.getD 155 0 ^^^
      twist ((words.getD 311 0 &&& 0xFFFFFFFF80000000) ||| (words.getD 310 0 &&& 0x7FFFFFFF))

/-- The words of a seed up to an index, the last one first. -/
def seededWords (seed : UInt64) : ℕ → List UInt64
  | 0 => [seed]
  | i + 1 =>
      let words := seededWords seed i
      nextWord (i + 1) words :: words

/-- What the generator makes of a word. -/
def temper (word : UInt64) : UInt64 :=
  let y := word ^^^ ((word >>> 29) &&& 0x5555555555555555)
  let y := y ^^^ ((y <<< 17) &&& 0x71D67FFFEDA60000)
  let y := y ^^^ ((y <<< 37) &&& 0xFFF7EEE000000000)
  y ^^^ (y >>> 43)

/-- **The generator**, `std::mt19937_64`: the `k`-th number after seeding. -/
def mt19937_64 (seed : UInt64) (k : ℕ) : UInt64 := temper ((seededWords seed (k + 312)).headD 0)

/-- The terrains, in the order of their enumeration. -/
def allTerrains : List TerrainType := [.plains, .hills, .forest, .water, .mountain, .desert, .swamp]

/-- **The terrains that are drawn** when the random device has given a number.  How a uniform
distribution is drawn from the numbers of a generator is left to the standard library. -/
def terrainDraws (uniform : (ℕ → UInt64) → ℕ → TerrainType) (device : UInt32) : ℕ → TerrainType :=
  uniform (mt19937_64 device.toUInt64)

/-! ### The river -/

/-- The tiles that a course leads to. -/
def courseTiles (height width row col : ℤ) : List (HexDirection × ℤ) → List (ℤ × ℤ)
  | [] => []
  | (dir, _) :: course =>
      match neighborCoord row col dir height width with
      | none => []
      | some (nr, nc) => (nr, nc) :: courseTiles height width nr nc course

/-- The tiles of the demo river. -/
def riverTiles (height width : ℤ) : List (ℤ × ℤ) :=
  if height < 15 ∨ width < 15 then []
  else (5, 10) :: courseTiles height width 5 10 [(.SE, 2), (.E, 2), (.SE, 1), (.E, 1), (.SE, 1)]

/-- Two tiles that differ in their terrain, elevation and water level at most. -/
structure Tile.SameBed (t t' : Tile) : Prop where
  row : t'.row = t.row
  col : t'.col = t.col
  hasIncomingRiver : t'.hasIncomingRiver = t.hasIncomingRiver
  hasOutgoingRiver : t'.hasOutgoingRiver = t.hasOutgoingRiver
  incomingRiverDir : t'.incomingRiverDir = t.incomingRiverDir
  outgoingRiverDir : t'.outgoingRiverDir = t.outgoingRiverDir

namespace TileGrid

variable {height width : ℤ} {g g' : TileGrid height width} {P : ℤ × ℤ → Prop}

/-- Two grids that are the same but for the terrain, elevation and water level at some places. -/
def AlikeBut (P : ℤ × ℤ → Prop) (g g' : TileGrid height width) : Prop :=
  ∀ row col t t', g.get? row col = some t → g'.get? row col = some t' →
    t.SameBed t' ∧ (¬ P (row, col) → t' = t)

/-- The same change of a tile in both grids. -/
theorem AlikeBut.update (h : AlikeBut P g g') (row col : ℤ) (f : Tile → Tile)
    (hf : ∀ t, (f t).row = t.row ∧ (f t).col = t.col)
    (hbed : ∀ t t' : Tile, t.SameBed t' → (f t).SameBed (f t')) :
    AlikeBut P (g.update row col f hf) (g'.update row col f hf) := by
  intro r c t t' ht ht'
  rw [get?_update] at ht ht'
  split at ht
  · next hrc =>
      obtain ⟨rfl, rfl⟩ := hrc
      rw [if_pos ⟨rfl, rfl⟩] at ht'
      obtain ⟨u, hu, rfl⟩ := Option.map_eq_some_iff.1 ht
      obtain ⟨u', hu', rfl⟩ := Option.map_eq_some_iff.1 ht'
      obtain ⟨hsame, heq⟩ := h r c u u' hu hu'
      exact ⟨hbed u u' hsame, fun hP => by rw [heq hP]⟩
  · next hrc =>
      rw [if_neg hrc] at ht'
      exact h r c t t' ht ht'

/-- What is settled does not depend on the terrain, elevation and water level before. -/
theorem settled_eq {t t' : Tile} (h : t.SameBed t') (terrain : TerrainType) (elevation : ℤ) :
    ((t'.setTerrainType terrain).setElevation elevation).setWaterLevel 0 =
      ((t.setTerrainType terrain).setElevation elevation).setWaterLevel 0 := by
  obtain ⟨hrow, hcol, hin, hout, hindir, houtdir⟩ := h
  simp only [Tile.setTerrainType, Tile.setElevation, Tile.setWaterLevel, hrow, hcol, hin, hout,
    hindir, houtdir]

/-- A tile whose terrain, elevation and water level are settled is the same afterwards. -/
theorem AlikeBut.settle (h : AlikeBut P g g') (row col : ℤ) (terrain : TerrainType)
    (elevation : ℤ) :
    AlikeBut (fun p => P p ∧ p ≠ (row, col))
      (g.update row col
        fun t => ((t.setTerrainType terrain).setElevation elevation).setWaterLevel 0)
      (g'.update row col fun t =>
        ((t.setTerrainType terrain).setElevation elevation).setWaterLevel 0) := by
  intro r c t t' ht ht'
  rw [get?_update] at ht ht'
  split at ht
  · next hrc =>
      obtain ⟨rfl, rfl⟩ := hrc
      rw [if_pos ⟨rfl, rfl⟩] at ht'
      obtain ⟨u, hu, rfl⟩ := Option.map_eq_some_iff.1 ht
      obtain ⟨u', hu', rfl⟩ := Option.map_eq_some_iff.1 ht'
      rw [settled_eq (h r c u u' hu hu').1]
      exact ⟨⟨rfl, rfl, rfl, rfl, rfl, rfl⟩, fun _ => rfl⟩
  · next hrc =>
      rw [if_neg hrc] at ht'
      obtain ⟨hsame, heq⟩ := h r c t t' ht ht'
      refine ⟨hsame, fun hP => heq fun hmem => hP ⟨hmem, fun heq' => hrc ?_⟩⟩
      exact Prod.mk.inj heq'

theorem AlikeBut.segment (h : AlikeBut P g g') (row col : ℤ) (dir : HexDirection) :
    AlikeBut P (setRiverSegment g row col dir) (setRiverSegment g' row col dir) := by
  rw [setRiverSegment, setRiverSegment]
  cases neighborCoord row col dir height width with
  | none => exact h
  | some n =>
      refine (h.update row col _ _ fun t t' hbed => ?_).update _ _ _ _ fun t t' hbed => ?_
      · exact ⟨hbed.row, hbed.col, hbed.hasIncomingRiver, rfl, hbed.incomingRiverDir, rfl⟩
      · exact ⟨hbed.row, hbed.col, rfl, hbed.hasOutgoingRiver, rfl, hbed.outgoingRiverDir⟩

/-- **Carving a river makes two grids the same along its course.** -/
theorem AlikeBut.course (course : List (HexDirection × ℤ)) :
    ∀ (row col : ℤ) {g g' : TileGrid height width} {P : ℤ × ℤ → Prop}, AlikeBut P g g' →
      AlikeBut (fun p => P p ∧ p ∉ courseTiles height width row col course)
        (addRiverCourse g row col course) (addRiverCourse g' row col course) := by
  induction course with
  | nil =>
      intro row col g g' P h r c t t' ht ht'
      obtain ⟨hsame, heq⟩ := h r c t t' ht ht'
      exact ⟨hsame, fun hP => heq fun hmem => hP ⟨hmem, List.not_mem_nil⟩⟩
  | cons step course ih =>
      intro row col g g' P h
      obtain ⟨dir, elevation⟩ := step
      have hsegment := h.segment row col dir
      rw [addRiverCourse, addRiverCourse, courseTiles]
      cases neighborCoord row col dir height width with
      | none =>
          intro r c t t' ht ht'
          obtain ⟨hsame, heq⟩ := hsegment r c t t' ht ht'
          exact ⟨hsame, fun hP => heq fun hmem => hP ⟨hmem, List.not_mem_nil⟩⟩
      | some n =>
          have hrest := ih n.1 n.2 (hsegment.settle n.1 n.2 .plains elevation)
          intro r c t t' ht ht'
          obtain ⟨hsame, heq⟩ := hrest r c t t' ht ht'
          refine ⟨hsame, fun hP => heq fun hmem => hP ⟨hmem.1.1, fun hin => ?_⟩⟩
          rcases List.mem_cons.1 hin with hin | hin
          · exact hmem.1.2 hin
          · exact hmem.2 hin

/-- The terrain at a place. -/
def terrain? (g : TileGrid height width) (row col : ℤ) : Option TerrainType :=
  (g.get? row col).map (·.terrain)

/-- A change that leaves what is read off a tile, or a change of another tile. -/
theorem map_update {α : Type} (f : Tile → α) (g : TileGrid height width) (row col r c : ℤ)
    (change : Tile → Tile) (hchange : ∀ t, (change t).row = t.row ∧ (change t).col = t.col)
    (hkeep : (r = row ∧ c = col) → ∀ t, f (change t) = f t) :
    ((g.update row col change hchange).get? r c).map f = (g.get? r c).map f := by
  rw [get?_update]
  split
  · next hrc =>
      rw [Option.map_map, ← hrc.1, ← hrc.2]
      exact congrArg (Option.map · _) (funext fun t => hkeep hrc t)
  · rfl

theorem map_segment {α : Type} {f : Tile → α}
    (hf : ∀ t dir, f (t.setOutgoingRiver dir) = f t ∧ f (t.setIncomingRiver dir) = f t)
    (g : TileGrid height width) (row col r c : ℤ) (dir : HexDirection) :
    ((setRiverSegment g row col dir).get? r c).map f = (g.get? r c).map f := by
  rw [setRiverSegment]
  cases neighborCoord row col dir height width with
  | none => rfl
  | some n =>
      refine (map_update f _ _ _ _ _ (fun t => t.setIncomingRiver (oppositeDirection dir)) _
        fun _ t => (hf t _).2).trans ?_
      exact map_update f _ _ _ _ _ (fun t => t.setOutgoingRiver dir) _ fun _ t => (hf t _).1

/-- **A river leaves everything but river edges beside its course.** -/
theorem map_course {α : Type} {f : Tile → α}
    (hf : ∀ t dir, f (t.setOutgoingRiver dir) = f t ∧ f (t.setIncomingRiver dir) = f t)
    (course : List (HexDirection × ℤ)) :
    ∀ (g : TileGrid height width) (row col r c : ℤ),
      (r, c) ∉ courseTiles height width row col course →
        ((addRiverCourse g row col course).get? r c).map f = (g.get? r c).map f := by
  induction course with
  | nil => intro g row col r c _; rfl
  | cons step course ih =>
      intro g row col r c hnot
      obtain ⟨dir, elevation⟩ := step
      rw [addRiverCourse]
      rw [courseTiles] at hnot
      cases hn : neighborCoord row col dir height width with
      | none => exact map_segment hf g row col r c dir
      | some n =>
          rw [hn, List.mem_cons, not_or] at hnot
          refine (ih _ n.1 n.2 r c hnot.2).trans ((map_update f _ _ _ _ _ _ _ ?_).trans
            (map_segment hf g row col r c dir))
          rintro ⟨rfl, rfl⟩
          exact absurd rfl hnot.1

end TileGrid

/-- **The demo river settles its own tiles, and no others.** -/
theorem addDemoRivers_alike {height width : ℤ} {g g' : TileGrid height width} {P : ℤ × ℤ → Prop}
    (h : TileGrid.AlikeBut P g g') :
    TileGrid.AlikeBut (fun p => P p ∧ p ∉ riverTiles height width) (addDemoRivers g)
      (addDemoRivers g') := by
  rw [addDemoRivers, addDemoRivers, riverTiles]
  split
  · intro r c t t' ht ht'
    obtain ⟨hsame, heq⟩ := h r c t t' ht ht'
    exact ⟨hsame, fun hP => heq fun hmem => hP ⟨hmem, List.not_mem_nil⟩⟩
  · have hcourse := TileGrid.AlikeBut.course [(.SE, 2), (.E, 2), (.SE, 1), (.E, 1), (.SE, 1)] 5 10
      (h.settle 5 10 .hills 3)
    intro r c t t' ht ht'
    obtain ⟨hsame, heq⟩ := hcourse r c t t' ht ht'
    refine ⟨hsame, fun hP => heq fun hmem => hP ⟨hmem.1.1, fun hin => ?_⟩⟩
    rcases List.mem_cons.1 hin with hin | hin
    · exact hmem.1.2 hin
    · exact hmem.2 hin

theorem addDemoRivers_map {α : Type} {f : Tile → α}
    (hf : ∀ t dir, f (t.setOutgoingRiver dir) = f t ∧ f (t.setIncomingRiver dir) = f t)
    {height width : ℤ} (g : TileGrid height width) {row col : ℤ}
    (hnot : (row, col) ∉ riverTiles height width) :
    ((addDemoRivers g).get? row col).map f = (g.get? row col).map f := by
  rw [addDemoRivers]
  rw [riverTiles] at hnot
  split
  · rfl
  · next hlarge =>
      rw [if_neg hlarge, List.mem_cons, not_or] at hnot
      refine (TileGrid.map_course hf _ _ 5 10 row col hnot.2).trans
        (TileGrid.map_update f _ _ _ _ _ _ _ ?_)
      rintro ⟨rfl, rfl⟩
      exact absurd rfl hnot.1

theorem addDemoRivers_terrain {height width : ℤ} (g : TileGrid height width) {row col : ℤ}
    (hnot : (row, col) ∉ riverTiles height width) :
    (addDemoRivers g).terrain? row col = g.terrain? row col :=
  addDemoRivers_map (f := fun t => t.terrain) (fun _ _ => ⟨rfl, rfl⟩) g hnot

/-! ### New maps -/

theorem generateTile_sameBed (row col : ℕ) (terrain terrain' : TerrainType) :
    (generateTile row col terrain).SameBed (generateTile row col terrain') := by
  rw [generateTile, generateTile]
  split
  · split
    · exact ⟨rfl, rfl, rfl, rfl, rfl, rfl⟩
    · exact ⟨rfl, rfl, rfl, rfl, rfl, rfl⟩
  · split
    · exact ⟨rfl, rfl, rfl, rfl, rfl, rfl⟩
    · exact ⟨rfl, rfl, rfl, rfl, rfl, rfl⟩

/-- Two maps are the same tile by tile. -/
def SameMap (map map' : Map) : Prop := ∀ row col, map'.tile row col = map.tile row col

/-- **The same is drawn for every tile that the river does not cover.** -/
def SameDraws (height width : ℤ) (draws draws' : ℕ → TerrainType) : Prop :=
  ∀ row col, InBounds row col height width → (row, col) ∉ riverTiles height width →
    draws' (row * width + col).toNat = draws (row * width + col).toNat

/-- **Two new maps of one size are the same exactly when the same is drawn for them.** -/
theorem create_sameMap_iff {height width : ℤ} {draws draws' : ℕ → TerrainType} {map map' : Map}
    (h : Map.create height width draws = .ok map) (h' : Map.create height width draws' = .ok map') :
    SameMap map map' ↔ SameDraws height width draws draws' := by
  rw [Map.create] at h h'
  split at h
  · next hpos =>
      rw [dif_pos hpos] at h'
      obtain rfl := Except.ok.inj h
      obtain rfl := Except.ok.inj h'
      constructor
      · intro hsame row col hin hnot
        have htile := hsame row col
        obtain ⟨t, ht⟩ := (addDemoRivers (generateTiles height width draws)).exists_get? hin
        have ht' := Map.tile_eq_ok.1 (htile.trans (Map.tile_eq_ok.2 ht))
        have hterrain := addDemoRivers_terrain (generateTiles height width draws) hnot
        have hterrain' := addDemoRivers_terrain (generateTiles height width draws') hnot
        rw [TileGrid.terrain?, TileGrid.terrain?, generateTiles_get? _ hin, ht, Option.map_some,
          Option.map_some, generateTile_terrain] at hterrain
        rw [TileGrid.terrain?, TileGrid.terrain?, generateTiles_get? _ hin,
          show (addDemoRivers (generateTiles height width draws')).get? row col = some t from ht',
          Option.map_some, Option.map_some, generateTile_terrain] at hterrain'
        rw [← Option.some_inj.1 hterrain, ← Option.some_inj.1 hterrain']
      · intro hdraws row col
        have hdrawn : TileGrid.AlikeBut (fun p => p ∈ riverTiles height width)
            (generateTiles height width draws) (generateTiles height width draws') := by
          intro r c t t' ht ht'
          have hin := (TileGrid.place_of_get? ht).1
          rw [generateTiles_get? _ hin] at ht ht'
          obtain rfl := Option.some_inj.1 ht
          obtain rfl := Option.some_inj.1 ht'
          exact ⟨generateTile_sameBed _ _ _ _, fun hnot => by rw [hdraws r c hin hnot]⟩
        have hcarved := addDemoRivers_alike hdrawn
        rw [Map.tile, Map.tile]
        dsimp only
        by_cases hin : InBounds row col height width
        · obtain ⟨t, ht⟩ := (addDemoRivers (generateTiles height width draws)).exists_get? hin
          obtain ⟨t', ht'⟩ := (addDemoRivers (generateTiles height width draws')).exists_get? hin
          rw [ht, ht', (hcarved row col t t' ht ht').2 fun hmem => hmem.2 hmem.1]
        · rw [TileGrid.get?, if_neg hin, TileGrid.get?, if_neg hin]
  · cases h

/-! ### Started games -/

/-- The map of a session that is returned for a started game is a new one. -/
theorem started_map {m m' : LobbyManager} {gameId : GameId} {requestingPlayerId : PlayerId}
    {draws : ℕ → TerrainType} {session : GameSession} {lobby : LobbyGame}
    (hfound : m.games.lookup gameId = some lobby)
    (h : m.startGame gameId requestingPlayerId draws = .ok (m', some session)) :
    Map.create lobby.settings.mapRows lobby.settings.mapCols draws = .ok session.state.map := by
  obtain ⟨hnone, -⟩ | ⟨lobby', session₀, hfound', -, hcreate, hsession, -⟩ :=
    LobbyManager.startGame_cases h
  · cases hnone
  · rw [hfound] at hfound'
    obtain rfl := Option.some_inj.1 hfound'
    obtain rfl := Option.some_inj.1 hsession
    rw [registerPlayers_state]
    obtain ⟨state, hstate, hreturn⟩ := Except.bind_eq_ok.1 hcreate
    obtain rfl := Except.ok.inj hreturn
    obtain ⟨map, hmap, hreturn⟩ := Except.bind_eq_ok.1 hstate
    obtain rfl := Except.ok.inj hreturn
    exact hmap

/-- **Two games that are started with the same settings have the same map exactly when the same is
drawn for them**, whatever their seed and whatever numbers the random device gives. -/
theorem startGame_sameMap_iff (uniform : (ℕ → UInt64) → ℕ → TerrainType)
    (m₁ m₁' m₂ m₂' : LobbyManager) (gameId₁ gameId₂ : GameId) (player₁ player₂ : PlayerId)
    (lobby₁ lobby₂ : LobbyGame) (device₁ device₂ : UInt32) (session₁ session₂ : GameSession)
    (hfound₁ : m₁.games.lookup gameId₁ = some lobby₁)
    (hfound₂ : m₂.games.lookup gameId₂ = some lobby₂)
    (hsettings : lobby₂.settings = lobby₁.settings)
    (hstart₁ : m₁.startGame gameId₁ player₁ (terrainDraws uniform device₁) =
      .ok (m₁', some session₁))
    (hstart₂ : m₂.startGame gameId₂ player₂ (terrainDraws uniform device₂) =
      .ok (m₂', some session₂)) :
    SameMap session₁.state.map session₂.state.map ↔
      SameDraws lobby₁.settings.mapRows lobby₁.settings.mapCols (terrainDraws uniform device₁)
        (terrainDraws uniform device₂) := by
  have hmap₁ := started_map hfound₁ hstart₁
  have hmap₂ := started_map hfound₂ hstart₂
  rw [hsettings] at hmap₂
  exact create_sameMap_iff hmap₁ hmap₂

/-- A uniform distribution over the terrains that multiplies and shifts. -/
def multiplyShift (numbers : ℕ → UInt64) (k : ℕ) : TerrainType :=
  allTerrains.getD ((numbers k).toNat * 7 / 2 ^ 64) .plains

/-- A small game of two players with a seed. -/
def seededDuel : List LobbyOp :=
  [.createGame 1 { mapSize := .small, randomSeed := 7 }, .joinGame 1 2]

/-- Its host can start it, whatever number the random device gives. -/
theorem seededDuel_starts :
    ∃ m lobby m₁ session₁ m₂ session₂, Runs.run LobbyManager.step {} seededDuel = some m ∧
      m.games.lookup 1 = some lobby ∧
      lobby.settings = { mapSize := .small, randomSeed := 7 } ∧
      m.startGame 1 1 (terrainDraws multiplyShift 1) = .ok (m₁, some session₁) ∧
      m.startGame 1 1 (terrainDraws multiplyShift 2) = .ok (m₂, some session₂) :=
  ⟨_, _, _, _, _, _, rfl, rfl, rfl, rfl, rfl⟩

/-- Two random devices draw differently for the first tile. -/
theorem draws_differ :
    ¬ SameDraws 16 16 (terrainDraws multiplyShift 1) (terrainDraws multiplyShift 2) := by
  intro h
  exact absurd (h 0 0 (by decide) (by decide)) (by decide +kernel)

/-- **A game with a seed does not have the same map when it is started again.** -/
theorem seededDuel_maps_differ :
    ∃ m lobby m₁ session₁ m₂ session₂, Runs.run LobbyManager.step {} seededDuel = some m ∧
      m.games.lookup 1 = some lobby ∧ lobby.settings.randomSeed ≠ 0 ∧
      m.startGame 1 1 (terrainDraws multiplyShift 1) = .ok (m₁, some session₁) ∧
      m.startGame 1 1 (terrainDraws multiplyShift 2) = .ok (m₂, some session₂) ∧
      ¬ SameMap session₁.state.map session₂.state.map := by
  obtain ⟨m, lobby, m₁, session₁, m₂, session₂, hrun, hfound, hsettings, hstart₁, hstart₂⟩ :=
    seededDuel_starts
  refine ⟨m, lobby, m₁, session₁, m₂, session₂, hrun, hfound, ?_, hstart₁, hstart₂, fun hsame => ?_⟩
  · rw [hsettings]
    decide
  · have hmap₁ := started_map hfound hstart₁
    have hmap₂ := started_map hfound hstart₂
    rw [hsettings] at hmap₁ hmap₂
    exact draws_differ ((create_sameMap_iff hmap₁ hmap₂).1 hsame)

/-- The same game, by the theorem. -/
theorem seededDuel_sameMap_iff :
    ∃ m m₁ session₁ m₂ session₂, Runs.run LobbyManager.step {} seededDuel = some m ∧
      m.startGame 1 1 (terrainDraws multiplyShift 1) = .ok (m₁, some session₁) ∧
      m.startGame 1 1 (terrainDraws multiplyShift 2) = .ok (m₂, some session₂) ∧
      (SameMap session₁.state.map session₂.state.map ↔
        SameDraws 16 16 (terrainDraws multiplyShift 1) (terrainDraws multiplyShift 2)) := by
  obtain ⟨m, lobby, m₁, session₁, m₂, session₂, hrun, hfound, hsettings, hstart₁, hstart₂⟩ :=
    seededDuel_starts
  refine ⟨m, m₁, session₁, m₂, session₂, hrun, hstart₁, hstart₂, ?_⟩
  have hiff := startGame_sameMap_iff multiplyShift m m₁ m m₂ 1 1 1 1 lobby lobby 1 2 session₁
    session₂ hfound hfound rfl hstart₁ hstart₂
  rw [hsettings] at hiff
  exact hiff

end My4X
