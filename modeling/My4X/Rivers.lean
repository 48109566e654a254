/-
**Rivers.**

A river is a chain of tiles, each of which knows through which edge the water comes in and through
which it goes out.  The renderer carves the bed on both sides of an edge by what the two tiles say,
so that the tiles have to agree.  They do in every map of the program: carving a course of tiles
keeps the rivers joined and flowing downhill as long as it meets no other river and not itself, and
all that happens to a map later is that terrains are written.

Main definitions:

* `My4X.Tile.hasRiverThroughEdge` — a river passes through an edge of a tile;
* `My4X.TileGrid.RiversJoin` — the tiles agree on the rivers, and the rivers flow downhill;
* `My4X.Map.EdgesAgree` — what the renderer relies on.

Main results:

* `My4X.TileGrid.RiversJoin.carve`, `My4X.TileGrid.RiversJoin.course` — a segment and a course;
* `My4X.MapGenerator.generate_riversJoin` — the rivers of a generated map;
* `My4X.AppState.rivers_join` — **in every run the rivers of the map join and flow downhill**.
-/

import My4X.Adjacency
import My4X.GeneratedMaps
import My4X.LoadedGames

set_option relaxedAutoImplicit false
set_option autoImplicit false

namespace My4X

/-! ### The rivers of a tile -/

namespace Tile

def hasRiver (t : Tile) : Bool := t.hasIncomingRiver || t.hasOutgoingRiver

/-- A river comes in or goes out through an edge. -/
def hasRiverThroughEdge (t : Tile) (dir : HexDirection) : Bool :=
  (t.hasIncomingRiver && t.incomingRiverDir = dir) ||
  (t.hasOutgoingRiver && t.outgoingRiverDir = dir)

/-- A tile on the course of a river after it is carved. -/
def settled (terrain : TerrainType) (elevation : ℤ) (t : Tile) : Tile :=
  ((t.setTerrainType terrain).setElevation elevation).setWaterLevel 0

/-- It stays where it is. -/
theorem settled_place (terrain : TerrainType) (elevation : ℤ) (t : Tile) :
    (t.settled terrain elevation).row = t.row ∧ (t.settled terrain elevation).col = t.col :=
  ⟨rfl, rfl⟩

theorem hasRiver_eq_false {t : Tile} :
    t.hasRiver = false ↔ t.hasIncomingRiver = false ∧ t.hasOutgoingRiver = false := by
  rw [hasRiver, Bool.or_eq_false_iff]

end Tile

/-- The opposite direction of the opposite direction. -/
theorem oppositeDirection_opposite (dir : HexDirection) :
    oppositeDirection (oppositeDirection dir) = dir := by
  cases dir <;> rfl

/-! ### Joined rivers -/

namespace TileGrid

variable {height width : ℤ} {g : TileGrid height width}

/-- **The rivers join and flow downhill**: where a river leaves a tile it comes into the neighbour,
which is not higher, and where it comes in it has left the neighbour. -/
structure RiversJoin (g : TileGrid height width) : Prop where
  flows : ∀ row col t, g.get? row col = some t → t.hasOutgoingRiver = true →
    ∃ n t', neighborCoord row col t.outgoingRiverDir height width = some n ∧
      g.get? n.1 n.2 = some t' ∧ t'.hasIncomingRiver = true ∧
      t'.incomingRiverDir = oppositeDirection t.outgoingRiverDir ∧ t'.elevation ≤ t.elevation
  comes : ∀ row col t, g.get? row col = some t → t.hasIncomingRiver = true →
    ∃ n t', neighborCoord row col t.incomingRiverDir height width = some n ∧
      g.get? n.1 n.2 = some t' ∧ t'.hasOutgoingRiver = true ∧
      t.incomingRiverDir = oppositeDirection t'.outgoingRiverDir

/-- Where there is no river. -/
theorem riversJoin_of_none (h : ∀ row col t, g.get? row col = some t → t.hasRiver = false) :
    g.RiversJoin where
  flows row col t ht hout := by
    rw [(Tile.hasRiver_eq_false.1 (h row col t ht)).2] at hout
    cases hout
  comes row col t ht hin := by
    rw [(Tile.hasRiver_eq_false.1 (h row col t ht)).1] at hin
    cases hin

/-- The grid with one segment of a river more, whose end is settled. -/
def carve (g : TileGrid height width) (row col : ℤ) (dir : HexDirection) (n : ℤ × ℤ)
    (elevation : ℤ) : TileGrid height width :=
  (setRiverSegment g row col dir).update n.1 n.2 (Tile.settled .plains elevation)
    (Tile.settled_place .plains elevation)

section Carve

variable {row col elevation : ℤ} {dir : HexDirection} {n : ℤ × ℤ}

/-- Reading after a segment is carved. -/
theorem get?_carve (hn : neighborCoord row col dir height width = some n) (hne : n ≠ (row, col))
    (r c : ℤ) : (g.carve row col dir n elevation).get? r c =
      if (r, c) = n then
        (g.get? r c).map fun t =>
          (t.setIncomingRiver (oppositeDirection dir)).settled .plains elevation
      else if (r, c) = (row, col) then (g.get? r c).map fun t => t.setOutgoingRiver dir
      else g.get? r c := by
  obtain ⟨nr, nc⟩ := n
  have hne' : ¬ (nr = row ∧ nc = col) := fun h => hne (Prod.ext h.1 h.2)
  rw [carve, setRiverSegment, hn]
  simp only [get?_update, Prod.mk.injEq]
  by_cases hend : r = nr ∧ c = nc
  · obtain ⟨rfl, rfl⟩ := hend
    simp only [and_self, if_true, if_neg hne', Option.map_map]
    rfl
  · simp only [if_neg hend]
    by_cases hstart : r = row ∧ c = col
    · obtain ⟨rfl, rfl⟩ := hstart
      simp only [and_self, if_true]
    · simp only [if_neg hstart]

/-- **Carving a segment keeps the rivers joined** when the river has no way out of its start yet,
and its end is not higher and has no river. -/
theorem RiversJoin.carve (h : g.RiversJoin) (hn : neighborCoord row col dir height width = some n)
    (hne : n ≠ (row, col)) {t₀ t₁ : Tile} (hstart : g.get? row col = some t₀)
    (hopen : t₀.hasOutgoingRiver = false) (hend : g.get? n.1 n.2 = some t₁)
    (hdry : t₁.hasRiver = false) (hdown : elevation ≤ t₀.elevation) :
    (g.carve row col dir n elevation).RiversJoin := by
  obtain ⟨hnoIn, hnoOut⟩ := Tile.hasRiver_eq_false.1 hdry
  have hgetStart : (g.carve row col dir n elevation).get? row col =
      some (t₀.setOutgoingRiver dir) := by
    rw [get?_carve hn hne, if_neg hne.symm, if_pos rfl, hstart]
    rfl
  have hgetEnd : (g.carve row col dir n elevation).get? n.1 n.2 =
      some ((t₁.setIncomingRiver (oppositeDirection dir)).settled .plains elevation) := by
    rw [get?_carve hn hne, if_pos rfl, hend]
    rfl
  have hgetOther : ∀ {m : ℤ × ℤ}, m ≠ n → m ≠ (row, col) →
      (g.carve row col dir n elevation).get? m.1 m.2 = g.get? m.1 m.2 := by
    intro m hmn hm
    rw [get?_carve hn hne, if_neg hmn, if_neg hm]
  -- a river that left a tile before has not left the start, and not the end
  have hsource : ∀ {m : ℤ × ℤ} {t : Tile}, g.get? m.1 m.2 = some t → t.hasOutgoingRiver = true →
      m ≠ n ∧ m ≠ (row, col) := by
    intro m t ht hout
    refine ⟨?_, ?_⟩
    · rintro rfl
      rw [hend] at ht
      obtain rfl := Option.some_inj.1 ht
      rw [hnoOut] at hout
      cases hout
    · rintro rfl
      rw [hstart] at ht
      obtain rfl := Option.some_inj.1 ht
      rw [hopen] at hout
      cases hout
  constructor
  · intro r c t ht hout
    by_cases hrn : (r, c) = n
    · subst hrn
      rw [hgetEnd] at ht
      obtain rfl := Option.some_inj.1 ht
      have hout₁ : t₁.hasOutgoingRiver = true := hout
      rw [hnoOut] at hout₁
      cases hout₁
    · by_cases hrs : (r, c) = (row, col)
      · obtain ⟨rfl, rfl⟩ := Prod.mk.inj hrs
        rw [hgetStart] at ht
        obtain rfl := Option.some_inj.1 ht
        exact ⟨n, _, hn, hgetEnd, rfl, rfl, hdown⟩
      · rw [hgetOther (m := (r, c)) hrn hrs] at ht
        obtain ⟨m, t', hm, ht', hin, hdir, hlow⟩ := h.flows r c t ht hout
        have hmn : m ≠ n := by
          rintro rfl
          rw [hend] at ht'
          obtain rfl := Option.some_inj.1 ht'
          rw [hnoIn] at hin
          cases hin
        by_cases hms : m = (row, col)
        · subst hms
          rw [hstart] at ht'
          obtain rfl := Option.some_inj.1 ht'
          exact ⟨(row, col), _, hm, hgetStart, hin, hdir, hlow⟩
        · exact ⟨m, t', hm, (hgetOther hmn hms).trans ht', hin, hdir, hlow⟩
  · intro r c t ht hin
    by_cases hrn : (r, c) = n
    · subst hrn
      rw [hgetEnd] at ht
      obtain rfl := Option.some_inj.1 ht
      exact ⟨(row, col), _, neighborCoord_opposite (place_of_get? hstart).1 hn, hgetStart, rfl, rfl⟩
    · have hold : ∃ t', g.get? r c = some t' ∧ t'.hasIncomingRiver = true ∧
          t'.incomingRiverDir = t.incomingRiverDir := by
        by_cases hrs : (r, c) = (row, col)
        · obtain ⟨rfl, rfl⟩ := Prod.mk.inj hrs
          rw [hgetStart] at ht
          obtain rfl := Option.some_inj.1 ht
          exact ⟨t₀, hstart, hin, rfl⟩
        · rw [hgetOther (m := (r, c)) hrn hrs] at ht
          exact ⟨t, ht, hin, rfl⟩
      obtain ⟨t', ht', hin', hdir'⟩ := hold
      obtain ⟨m, u, hm, hu, hout, hdir⟩ := h.comes r c t' ht' hin'
      obtain ⟨hmn, hms⟩ := hsource hu hout
      rw [hdir'] at hm hdir
      exact ⟨m, u, hm, (hgetOther hmn hms).trans hu, hout, hdir⟩

end Carve

/-- **Carving a course keeps the rivers joined** when it does not rise, meets no river and does not
come back to itself. -/
theorem RiversJoin.course (course : List (HexDirection × ℤ)) :
    ∀ (row col : ℤ) {g : TileGrid height width} {t₀ : Tile}, g.RiversJoin →
      g.get? row col = some t₀ → t₀.hasOutgoingRiver = false →
      (∀ p ∈ courseTiles height width row col course, ∀ t, g.get? p.1 p.2 = some t →
        t.hasRiver = false) →
      ((row, col) :: courseTiles height width row col course).Nodup →
      (t₀.elevation :: course.map Prod.snd).IsChain (fun a b => b ≤ a) →
      (addRiverCourse g row col course).RiversJoin := by
  induction course with
  | nil => intro row col g t₀ h _ _ _ _ _; exact h
  | cons step course ih =>
      intro row col g t₀ h hstart hopen hdry honce hdown
      obtain ⟨dir, elevation⟩ := step
      rw [addRiverCourse]
      rw [courseTiles] at hdry honce
      cases hn : neighborCoord row col dir height width with
      | none =>
          rw [setRiverSegment, hn]
          exact h
      | some n =>
          rw [hn] at hdry honce
          dsimp only at hdry honce ⊢
          obtain ⟨hfirst, hrest⟩ := List.nodup_cons.1 honce
          have hne : n ≠ (row, col) := fun heq => hfirst (heq ▸ List.mem_cons_self)
          obtain ⟨-, hin⟩ := neighborCoord_eq_some.1 hn
          obtain ⟨t₁, ht₁⟩ := g.exists_get? hin
          have hend := hdry n List.mem_cons_self t₁ ht₁
          obtain ⟨hfall, hdown⟩ := List.isChain_cons_cons.1 hdown
          have hnext : (g.carve row col dir n elevation).get? n.1 n.2 =
              some ((t₁.setIncomingRiver (oppositeDirection dir)).settled .plains elevation) := by
            rw [get?_carve hn hne, if_pos rfl, ht₁]
            rfl
          refine ih n.1 n.2 (h.carve hn hne hstart hopen ht₁ hend hfall) hnext ?_ ?_ hrest hdown
          · exact (Tile.hasRiver_eq_false.1 hend).2
          · intro p hp t ht
            have hpn : p ≠ n := fun heq => (List.nodup_cons.1 hrest).1 (heq ▸ hp)
            have hps : p ≠ (row, col) := fun heq => hfirst (List.mem_cons_of_mem n (heq ▸ hp))
            refine hdry p (List.mem_cons_of_mem n hp) t (Eq.trans ?_ ht)
            exact ((get?_carve hn hne p.1 p.2).trans ((if_neg hpn).trans (if_neg hps))).symm

/-! ### The demo river -/

/-- A course to the east and the southeast goes on from row to row and never comes back. -/
theorem courseTiles_ahead (course : List (HexDirection × ℤ))
    (hdirs : ∀ step ∈ course, step.1 = .E ∨ step.1 = .SE) :
    ∀ row col, (∀ p ∈ courseTiles height width row col course,
      row < p.1 ∨ (row = p.1 ∧ col < p.2)) ∧
      (courseTiles height width row col course).Nodup := by
  induction course with
  | nil =>
      intro row col
      exact ⟨fun p hp => absurd hp List.not_mem_nil, List.nodup_nil⟩
  | cons step course ih =>
      intro row col
      obtain ⟨dir, elevation⟩ := step
      rw [courseTiles]
      cases hn : neighborCoord row col dir height width with
      | none => exact ⟨fun p hp => absurd hp List.not_mem_nil, List.nodup_nil⟩
      | some n =>
          obtain ⟨hplace, -⟩ := neighborCoord_eq_some.1 hn
          have hdir : dir = .E ∨ dir = .SE := hdirs (dir, elevation) List.mem_cons_self
          have hnext : row < n.1 ∨ (row = n.1 ∧ col < n.2) := by
            rw [← hplace, rowOffset]
            rcases hdir with rfl | rfl
            · split <;> simp [evenRowOffset, oddRowOffset]
            · split <;> simp [evenRowOffset, oddRowOffset]
          obtain ⟨hahead, honce⟩ := ih (fun s hs => hdirs s (List.mem_cons_of_mem _ hs)) n.1 n.2
          refine ⟨fun p hp => ?_, List.nodup_cons.2 ⟨fun hmem => ?_, honce⟩⟩
          · rcases List.mem_cons.1 hp with rfl | hp
            · exact hnext
            · have := hahead p hp
              omega
          · have := hahead n hmem
            omega

end TileGrid

/-- A newly drawn tile has no river. -/
theorem generateTiles_hasRiver {height width : ℤ} (draws : ℕ → TerrainType) (row col : ℤ) (t : Tile)
    (ht : (generateTiles height width draws).get? row col = some t) : t.hasRiver = false := by
  obtain ⟨hin, -⟩ := TileGrid.place_of_get? ht
  rw [generateTiles_get? draws hin] at ht
  obtain rfl := Option.some_inj.1 ht
  rw [generateTile]
  split
  · rfl
  · rfl

/-- **The demo river joins**, on a grid without rivers. -/
theorem addDemoRivers_riversJoin {height width : ℤ} {g : TileGrid height width}
    (hdry : ∀ row col t, g.get? row col = some t → t.hasRiver = false) :
    (addDemoRivers g).RiversJoin := by
  rw [addDemoRivers]
  split
  · exact TileGrid.riversJoin_of_none hdry
  · next hlarge =>
      have hinside : InBounds 5 10 height width := ⟨by decide, by omega, by decide, by omega⟩
      obtain ⟨t, ht⟩ := g.exists_get? hinside
      have hdry' : ∀ row col t', (g.update 5 10 fun t =>
          ((t.setTerrainType .hills).setElevation 3).setWaterLevel 0).get? row col = some t' →
          t'.hasRiver = false := by
        intro row col t' ht'
        rw [TileGrid.get?_update] at ht'
        split at ht'
        · obtain ⟨u, hu, rfl⟩ := Option.map_eq_some_iff.1 ht'
          exact hdry 5 10 u hu
        · exact hdry row col t' ht'
      have hstart : (g.update 5 10 fun t =>
          ((t.setTerrainType .hills).setElevation 3).setWaterLevel 0).get? 5 10 =
            some (t.settled .hills 3) := by
        rw [TileGrid.get?_update, if_pos ⟨rfl, rfl⟩, ht]
        rfl
      have hdirs : ∀ step ∈ [(HexDirection.SE, (2 : ℤ)), (.E, 2), (.SE, 1), (.E, 1), (.SE, 1)],
          step.1 = .E ∨ step.1 = .SE := by decide
      obtain ⟨(hahead : ∀ p ∈ courseTiles height width 5 10 _, _), honce⟩ :=
        TileGrid.courseTiles_ahead _ hdirs 5 10
      refine TileGrid.RiversJoin.course _ 5 10 (TileGrid.riversJoin_of_none hdry') hstart
        (Tile.hasRiver_eq_false.1 (hdry' 5 10 _ hstart)).2 (fun p _ t' => hdry' p.1 p.2 t')
        (List.nodup_cons.2 ⟨fun hmem => ?_, honce⟩)
        (show [3, 2, 2, 1, 1, 1].IsChain (fun a b : ℤ => b ≤ a) by decide)
      have hself := hahead (5, 10) hmem
      omega

/-! ### The rivers of a map -/

namespace Map

/-- The rivers of a map join and flow downhill. -/
def RiversJoin (m : Map) : Prop := m.tiles.RiversJoin

theorem riversJoin_create {height width : ℤ} {draws : ℕ → TerrainType} {m : Map}
    (h : Map.create height width draws = .ok m) : m.RiversJoin := by
  rw [create] at h
  split at h
  · obtain rfl := Except.ok.inj h
    exact addDemoRivers_riversJoin (generateTiles_hasRiver draws)
  · cases h

/-- **Writing terrains leaves the rivers.** -/
theorem RiversJoin.of_ground {m m' : Map} (h : m.RiversJoin) (hheight : m'.height = m.height)
    (hwidth : m'.width = m.width) (hground : SameGround m m') : m'.RiversJoin := by
  have hold : ∀ {row col : ℤ} {t' : Tile}, m'.tiles.get? row col = some t' →
      ∃ t, m.tiles.get? row col = some t ∧ t'.ground = t.ground := by
    intro row col t' ht'
    have hsame := hground row col
    rw [ht', Option.map_some] at hsame
    obtain ⟨t, ht, heq⟩ := Option.map_eq_some_iff.1 hsame.symm
    exact ⟨t, ht, heq.symm⟩
  have hnew : ∀ {row col : ℤ} {t : Tile}, m.tiles.get? row col = some t →
      ∃ t', m'.tiles.get? row col = some t' ∧ t'.ground = t.ground := by
    intro row col t ht
    have hsame := hground row col
    rw [ht, Option.map_some] at hsame
    exact Option.map_eq_some_iff.1 hsame
  constructor
  · intro row col t' ht' hout
    obtain ⟨t, ht, heq⟩ := hold ht'
    have hdir : t'.outgoingRiverDir = t.outgoingRiverDir := (congrArg Tile.outgoingRiverDir heq :)
    have hheld : t'.elevation = t.elevation := (congrArg Tile.elevation heq :)
    obtain ⟨n, u, hn, hu, hin, hback, hlow⟩ :=
      h.flows row col t ht ((congrArg Tile.hasOutgoingRiver heq).symm.trans hout)
    obtain ⟨u', hu', heq'⟩ := hnew hu
    refine ⟨n, u', ?_, hu', (congrArg Tile.hasIncomingRiver heq').trans hin, ?_, ?_⟩
    · rw [hdir, hheight, hwidth]
      exact hn
    · rw [hdir]
      exact (congrArg Tile.incomingRiverDir heq').trans hback
    · rw [hheld]
      exact (congrArg Tile.elevation heq').le.trans hlow
  · intro row col t' ht' hin
    obtain ⟨t, ht, heq⟩ := hold ht'
    have hdir : t'.incomingRiverDir = t.incomingRiverDir := (congrArg Tile.incomingRiverDir heq :)
    obtain ⟨n, u, hn, hu, hout, hback⟩ :=
      h.comes row col t ht ((congrArg Tile.hasIncomingRiver heq).symm.trans hin)
    obtain ⟨u', hu', heq'⟩ := hnew hu
    refine ⟨n, u', ?_, hu', (congrArg Tile.hasOutgoingRiver heq').trans hout, ?_⟩
    · rw [hdir, hheight, hwidth]
      exact hn
    · have hdir' : u'.outgoingRiverDir = u.outgoingRiverDir :=
        (congrArg Tile.outgoingRiverDir heq' :)
      rw [hdir, hdir']
      exact hback

/-- **The tiles agree on every edge**: no river leaves the map, the two tiles at an edge say the
same of it, and a river flows to a tile that is not higher. -/
structure EdgesAgree (m : Map) : Prop where
  inside : ∀ row col t dir, m.tile row col = .ok t → t.hasRiverThroughEdge dir = true →
    ∃ n, neighborCoord row col dir m.height m.width = some n
  agree : ∀ row col t dir n t', m.tile row col = .ok t →
    neighborCoord row col dir m.height m.width = some n → m.tile n.1 n.2 = .ok t' →
      t'.hasRiverThroughEdge (oppositeDirection dir) = t.hasRiverThroughEdge dir
  downhill : ∀ row col t n t', m.tile row col = .ok t → t.hasOutgoingRiver = true →
    neighborCoord row col t.outgoingRiverDir m.height m.width = some n → m.tile n.1 n.2 = .ok t' →
      t'.elevation ≤ t.elevation

/-- A river through an edge goes on behind it. -/
theorem RiversJoin.edge {m : Map} (h : m.RiversJoin) {row col : ℤ} {t : Tile} {dir : HexDirection}
    (ht : m.tiles.get? row col = some t) (hedge : t.hasRiverThroughEdge dir = true) :
    ∃ n t', neighborCoord row col dir m.height m.width = some n ∧
      m.tiles.get? n.1 n.2 = some t' ∧
        t'.hasRiverThroughEdge (oppositeDirection dir) = true := by
  rw [Tile.hasRiverThroughEdge, Bool.or_eq_true, Bool.and_eq_true, Bool.and_eq_true,
    decide_eq_true_eq, decide_eq_true_eq] at hedge
  rcases hedge with ⟨hin, rfl⟩ | ⟨hout, rfl⟩
  · obtain ⟨n, t', hn, ht', hout, hback⟩ := h.comes row col t ht hin
    refine ⟨n, t', hn, ht', ?_⟩
    rw [hback, oppositeDirection_opposite, Tile.hasRiverThroughEdge, hout]
    simp
  · obtain ⟨n, t', hn, ht', hin, hback, -⟩ := h.flows row col t ht hout
    refine ⟨n, t', hn, ht', ?_⟩
    rw [Tile.hasRiverThroughEdge, hin, hback]
    simp

/-- **Where rivers join the tiles agree.** -/
theorem RiversJoin.edgesAgree {m : Map} (h : m.RiversJoin) : m.EdgesAgree where
  inside row col t dir ht hedge := by
    obtain ⟨n, -, hn, -⟩ := h.edge (tile_eq_ok.1 ht) hedge
    exact ⟨n, hn⟩
  agree row col t dir n t' ht hn ht' := by
    rw [tile_eq_ok] at ht ht'
    have hback := neighborCoord_opposite (TileGrid.place_of_get? ht).1 hn
    rw [Bool.eq_iff_iff]
    constructor
    · intro hedge
      obtain ⟨n', u, hn', hu, hedge'⟩ := h.edge ht' hedge
      rw [hback] at hn'
      obtain rfl := Option.some_inj.1 hn'
      rw [ht] at hu
      obtain rfl := Option.some_inj.1 hu
      rwa [oppositeDirection_opposite] at hedge'
    · intro hedge
      obtain ⟨n', u, hn', hu, hedge'⟩ := h.edge ht hedge
      rw [hn] at hn'
      obtain rfl := Option.some_inj.1 hn'
      rw [ht'] at hu
      obtain rfl := Option.some_inj.1 hu
      exact hedge'
  downhill row col t n t' ht hout hn ht' := by
    rw [tile_eq_ok] at ht ht'
    obtain ⟨n', u, hn', hu, -, -, hlow⟩ := h.flows row col t ht hout
    rw [hn] at hn'
    obtain rfl := Option.some_inj.1 hn'
    rw [ht'] at hu
    obtain rfl := Option.some_inj.1 hu
    exact hlow

end Map

/-- **The rivers of a generated map join.** -/
theorem MapGenerator.generate_riversJoin {g : MapGenerator} {draws : ℕ → TerrainType} {map : Map}
    (h : g.generate draws = .ok map) : map.RiversJoin := by
  obtain ⟨new, hnew, -, rfl⟩ := generate_eq_ok h
  refine smoothMap_induction (P := Map.RiversJoin) ?_ (fun before after hsmooths hbefore => ?_) 2
  · obtain ⟨hheight, hwidth⟩ := new.overwrite_size _ new.places
    exact (Map.riversJoin_create hnew).of_ground hheight hwidth fun row col =>
      Map.overwrite_ground _ _ _ row col
  · refine hbefore.of_ground hsmooths.height hsmooths.width fun row col => ?_
    rw [hsmooths.tile, Option.map_map]
    exact congrArg (Option.map · _) (funext fun t => Map.ground_written _ t)

/-- The rivers of a loaded map join. -/
theorem Loaded.riversJoin {draws : ℕ → TerrainType} {proto : Proto.GameState} {fresh : Map}
    {reg : UnitTypeRegistry} {t : GameState} (h : Loaded draws proto fresh reg t) :
    t.map.RiversJoin := by
  obtain ⟨hheight, hwidth, hget⟩ := restoreTiles_get? _ h.map
  refine (Map.riversJoin_create h.created).of_ground hheight hwidth fun row col => ?_
  rw [hget, Option.map_map]
  refine congrArg (Option.map · _) (funext fun tile => ?_)
  rw [Function.comp_apply]
  cases terrainAt proto.map.tiles row col with
  | none => rfl
  | some terrain => rfl

/-! ### Runs -/

namespace AppState

variable {codec : Codec} {queue : CostQueue} {draws : ℕ → TerrainType} {saves : SavesDirectory}

/-- What the player does leaves the map. -/
theorem Play.map {i : FrameInput} {app app' : AppState} (h : Play i app app')
    (hkept : Kept codec app) :
    app'.state.map = app.state.map := by
  cases h with
  | rests state log saves entered => rw [state]
  | @acts action s fog events player executes view state reported quiet log saves entered =>
      have hrest := GameState.execute_rest executes
      have hmap : s.map = app.state.map := by rw [hrest]
      rw [state]
      exact hmap
  | orders found queued state log saves entered =>
      rw [state]
      rfl
  | ends completes log saves entered =>
      obtain ⟨s', hturn, -, hended⟩ := hkept.sound.processTurn
      obtain rfl := (Prod.mk.inj (completes.symm.trans hturn)).1
      exact hended.map

/-- **In every run the tiles of the map agree on the rivers**, whether the game is new, played on or
loaded. -/
theorem rivers_join (hcodec : codec.Exact) (hsaves : ∀ file ∈ saves.files, file.Readable codec)
    {app app' : AppState} (hstart : start draws saves = .ok app) {inputs : List FrameInput}
    (hfair : ∀ i ∈ inputs, i.Fair codec)
    (hrun : Runs.run (appStep codec queue) app inputs = some app') :
    app'.state.map.EdgesAgree := by
  have hnew : app.state.map.RiversJoin := by
    obtain ⟨state, hcreate, hstart⟩ := Except.bind_eq_ok.1 hstart
    obtain ⟨map, hmap, hcreate⟩ := Except.bind_eq_ok.1 hcreate
    obtain rfl := Except.ok.inj hcreate
    obtain rfl := Except.ok.inj hstart
    exact Map.riversJoin_create hmap
  refine (of_run (P := fun _ => True) (I := fun x => x.state.map.RiversJoin) hcodec
    (fun i x x' _ hkept hx hchange => ?_) (fun i hi => ⟨hfair i hi, trivial⟩)
    (ready_of_start hsaves hstart) hnew hrun).2.edgesAgree
  cases hchange with
  | rests state log saves entered =>
      rw [state]
      exact hx
  | plays playing play =>
      rw [play.map hkept]
      exact hx
  | saves playing asked state log saves entered =>
      rw [state]
      exact hx
  | loads playing asked loaded view state log saves entered =>
      obtain ⟨draws, proto, fresh, reg, hloaded⟩ := loaded_of_loadLatest loaded
      rw [state]
      exact hloaded.riversJoin
  | begins fresh setUp log saves entered =>
      obtain ⟨s', hok, -, hmap, -⟩ := setupDemoState_ok hkept.sound hkept.size
      obtain rfl := Except.ok.inj (setUp.symm.trans hok)
      rw [hmap]
      exact hx

/-- The rivers of a game that was loaded. -/
theorem playFrames_rivers : ∃ app' : AppState, app'.state.map.EdgesAgree := by
  obtain ⟨m, s, hdemo⟩ := exists_savedDemo
  obtain ⟨started, app', hstart, hrun⟩ := hdemo.reached
  exact ⟨app', rivers_join (Codec.only_exact m) hdemo.readable hstart
    (playFrames_fair (Codec.only_cutsShort m)) hrun⟩

end AppState

end My4X
