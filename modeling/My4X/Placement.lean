/-
**Where buildings are placed.**

A building knows the terrains it can stand on, terrains know whether they can be built on, and a
city knows its tiles.  The request for a building is checked against none of these, and neither is
the order when it is paid for.  This module keeps a record of the cities that have placed the
buildings and says exactly when all of them stand where they may.

Main definitions:

* `My4X.LegalSite` — a tile on which a city may place a building;
* `My4X.Legal` — every building stands on legal sites of the city that has placed it, and no two
  buildings share a tile;
* `My4X.TurnResolver.PlacesLegally` — the building that falls due finds legal sites that are free.

Main results:

* `My4X.TurnResolver.legal_resolveCity_iff` — the turn of one city;
* `My4X.legal_along_iff` — **in every run all buildings stand where they may exactly when every
  building that falls due finds its tiles legal and free**.
-/

import My4X.MapBounds
import My4X.Queues

set_option relaxedAutoImplicit false
set_option autoImplicit false

namespace My4X

open GameState TurnResolver

/-! ### Legal sites -/

/-- **A tile on which a city may place a building**: one of its own tiles, in the map, of a terrain
that can be built on and that the building can stand on. -/
def LegalSite (map : Map) (footprint : SortedSet TileCoord) (b : Building) (t : TileCoord) : Prop :=
  t ∈ footprint ∧ ∃ tile, map.tile t.row t.col = .ok tile ∧
    (getTerrainProperties tile.terrain).buildable = true ∧ b.canBuildOn tile.terrain = true

/-- The tiles of the city at an index. -/
def GameState.footprint? (s : GameState) (i : ℕ) : Option (SortedSet TileCoord) :=
  (s.cities[i]?).map (·.tiles)

/-- **Every building stands where it may**, given the indices of the cities that have placed the
buildings: on legal sites of that city, and on no tile of another building. -/
structure Legal (x : GameState × List ℕ) : Prop where
  builders : x.2.length = x.1.buildings.length
  placed : ∀ (k : ℕ) (b : Building) (i : ℕ), x.1.buildings[k]? = some b → x.2[k]? = some i →
    ∃ footprint, x.1.footprint? i = some footprint ∧
      ∀ t ∈ b.occupiedTiles, LegalSite x.1.map footprint b t
  apart : ∀ (k l : ℕ) (b b' : Building), k ≠ l → x.1.buildings[k]? = some b →
    x.1.buildings[l]? = some b' → ∀ t ∈ b.occupiedTiles, t ∉ b'.occupiedTiles

/-- A game without buildings. -/
theorem legal_of_empty {s : GameState} (h : s.buildings = []) : Legal (s, []) where
  builders := by simp [h]
  placed k b i hb := by rw [h] at hb; simp at hb
  apart k l b b' _ hb := by rw [h] at hb; simp at hb

/-- Where buildings stand depends on the map, the buildings and the tiles of the cities alone. -/
theorem Legal.congr {s s' : GameState} {builders : List ℕ} (hmap : s'.map = s.map)
    (hbuildings : s'.buildings = s.buildings) (htiles : ∀ i, s'.footprint? i = s.footprint? i)
    (h : Legal (s, builders)) : Legal (s', builders) where
  builders := by rw [hbuildings]; exact h.builders
  placed := by
    dsimp only
    rw [hbuildings, hmap]
    simp only [htiles]
    exact h.placed
  apart := by
    dsimp only
    rw [hbuildings]
    exact h.apart

/-- A change of a city that keeps its tiles. -/
theorem footprint?_set {s s' : GameState} {i : ℕ} {city city' : City}
    (hcity : s.cities[i]? = some city) (hcities : s'.cities = s.cities.set i city')
    (htiles : city'.tiles = city.tiles) (j : ℕ) : s'.footprint? j = s.footprint? j := by
  rw [footprint?, footprint?, hcities, List.getElem?_set]
  split
  · next hij =>
      subst hij
      rw [hcity, if_pos (List.getElem?_eq_some_iff.1 hcity).1, Option.map_some, Option.map_some,
        htiles]
  · rfl

/-! ### One building more -/

theorem getElem?_append_one {α : Type} (l : List α) (a : α) (k : ℕ) :
    (l ++ [a])[k]? = if k = l.length then some a else l[k]? := by
  split
  · next hk => rw [hk, List.getElem?_concat_length]
  · next hk =>
      rcases Nat.lt_or_gt_of_ne hk with hlt | hgt
      · exact List.getElem?_append_left hlt
      · rw [List.getElem?_eq_none (by rw [List.length_append, List.length_singleton]; omega),
          List.getElem?_eq_none (by omega)]

section Append

variable {s s' : GameState} {builders : List ℕ} {i : ℕ} {b : Building}
  {footprint : SortedSet TileCoord}

/-- Without the last building the others still stand where they may. -/
theorem Legal.of_append (hmap : s'.map = s.map) (htiles : ∀ j, s'.footprint? j = s.footprint? j)
    (hbuildings : s'.buildings = s.buildings ++ [b]) (h : Legal (s', builders ++ [i])) :
    Legal (s, builders) := by
  obtain ⟨hlength, hplaced, hapart⟩ := h
  dsimp only at hlength hplaced hapart
  rw [hbuildings, List.length_append, List.length_append] at hlength
  have hbuilders : builders.length = s.buildings.length := by simpa using hlength
  have hleft : ∀ {k : ℕ} {b₁ : Building},
      s.buildings[k]? = some b₁ → s'.buildings[k]? = some b₁ := by
    intro k b₁ hk
    rw [hbuildings, List.getElem?_append_left (List.getElem?_eq_some_iff.1 hk).1, hk]
  refine ⟨hbuilders, ?_, ?_⟩
  · intro k b₁ j hk hj
    have hj' : (builders ++ [i])[k]? = some j := by
      rw [List.getElem?_append_left (List.getElem?_eq_some_iff.1 hj).1, hj]
    rw [← hmap, ← htiles]
    exact hplaced k b₁ j (hleft hk) hj'
  · intro k l b₁ b₂ hkl hk hl
    exact hapart k l b₁ b₂ hkl (hleft hk) (hleft hl)

/-- The last building stands on legal sites, away from all others. -/
theorem Legal.last_of_append (hmap : s'.map = s.map)
    (htiles : ∀ j, s'.footprint? j = s.footprint? j)
    (hbuildings : s'.buildings = s.buildings ++ [b]) (hfootprint : s.footprint? i = some footprint)
    (h : Legal (s', builders ++ [i])) :
    ∀ t ∈ b.occupiedTiles, LegalSite s.map footprint b t ∧ ∀ b' ∈ s.buildings,
      t ∉ b'.occupiedTiles := by
  intro t ht
  have hbuilders : builders.length = s.buildings.length :=
    (Legal.of_append hmap htiles hbuildings h).builders
  have hlast : s'.buildings[s.buildings.length]? = some b := by
    rw [hbuildings, List.getElem?_concat_length]
  have hbuilder : (builders ++ [i])[s.buildings.length]? = some i := by
    rw [← hbuilders, List.getElem?_concat_length]
  obtain ⟨footprint', hfootprint', hlegal⟩ := h.placed _ b i hlast hbuilder
  dsimp only at hfootprint' hlegal
  rw [htiles] at hfootprint'
  rw [hmap] at hlegal
  obtain rfl := Option.some_inj.1 (hfootprint.symm.trans hfootprint')
  refine ⟨hlegal t ht, fun b' hb' => ?_⟩
  obtain ⟨l, hl⟩ := List.mem_iff_getElem?.1 hb'
  have hlt : l < s.buildings.length := (List.getElem?_eq_some_iff.1 hl).1
  have hother : s'.buildings[l]? = some b' := by
    rw [hbuildings, List.getElem?_append_left hlt, hl]
  exact h.apart _ l b b' hlt.ne' hlast hother t ht

/-- A building on legal sites, away from all others, may be added. -/
theorem Legal.append (hmap : s'.map = s.map) (htiles : ∀ j, s'.footprint? j = s.footprint? j)
    (hbuildings : s'.buildings = s.buildings ++ [b]) (hfootprint : s.footprint? i = some footprint)
    (h : Legal (s, builders))
    (hsite : ∀ t ∈ b.occupiedTiles, LegalSite s.map footprint b t ∧ ∀ b' ∈ s.buildings,
      t ∉ b'.occupiedTiles) :
    Legal (s', builders ++ [i]) := by
  obtain ⟨hbuilders, hplaced, hapart⟩ := h
  dsimp only at hbuilders hplaced hapart
  constructor
  · dsimp only
    rw [hbuildings, List.length_append, List.length_append, hbuilders]
    rfl
  · intro k b₁ j hk hj
    dsimp only at hk hj ⊢
    rw [hbuildings, getElem?_append_one] at hk
    rw [getElem?_append_one, hbuilders] at hj
    rw [hmap, htiles]
    split at hk
    · next hlast =>
        rw [if_pos hlast] at hj
        obtain rfl := Option.some_inj.1 hk
        obtain rfl := Option.some_inj.1 hj
        exact ⟨footprint, hfootprint, fun t ht => (hsite t ht).1⟩
    · next hlast =>
        rw [if_neg hlast] at hj
        exact hplaced k b₁ j hk hj
  · intro k l b₁ b₂ hkl hk hl t ht ht'
    dsimp only at hk hl
    rw [hbuildings, getElem?_append_one] at hk hl
    split at hk
    · next hlast =>
        rw [if_neg fun h => hkl (hlast.trans h.symm)] at hl
        obtain rfl := Option.some_inj.1 hk
        exact (hsite t ht).2 b₂ (List.mem_of_getElem? hl) ht'
    · split at hl
      · obtain rfl := Option.some_inj.1 hl
        exact (hsite t ht').2 b₁ (List.mem_of_getElem? hk) ht
      · exact hapart k l b₁ b₂ hkl hk hl t ht ht'

/-- **One building more stands where it may exactly when its tiles are legal and free.** -/
theorem legal_append_iff (hmap : s'.map = s.map) (htiles : ∀ j, s'.footprint? j = s.footprint? j)
    (hbuildings : s'.buildings = s.buildings ++ [b])
    (hfootprint : s.footprint? i = some footprint) :
    Legal (s', builders ++ [i]) ↔ Legal (s, builders) ∧
      ∀ t ∈ b.occupiedTiles, LegalSite s.map footprint b t ∧ ∀ b' ∈ s.buildings,
        t ∉ b'.occupiedTiles := by
  constructor
  · intro h
    exact ⟨Legal.of_append hmap htiles hbuildings h,
      Legal.last_of_append hmap htiles hbuildings hfootprint h⟩
  · rintro ⟨h, hsite⟩
    exact h.append hmap htiles hbuildings hfootprint hsite

end Append

/-! ### The turn of a city -/

namespace TurnResolver

/-- The record after the turn of a city: whoever has had the turn has placed what is new. -/
def buildersAfter (unitRegistry : Option UnitTypeRegistry) (s : GameState) (builders : List ℕ)
    (i : ℕ) : List ℕ :=
  builders ++
    List.replicate ((resolveCity unitRegistry s i).1.buildings.length - s.buildings.length) i

/-- **The building that falls due finds its tiles legal and free.** -/
def PlacesLegally (s : GameState) (i : ℕ) : Prop :=
  ∀ city item factory, s.cities[i]? = some city → dueOrder s city = some item →
    item.orderType = .building → item.factory = some factory →
    ∀ t ∈ (factory item.targetRow item.targetCol).occupiedTiles,
      LegalSite s.map city.tiles (factory item.targetRow item.targetCol) t ∧
        ∀ b ∈ s.buildings, t ∉ b.occupiedTiles

/-- The turn of a city places nothing, or the building that is due. -/
theorem resolveCity_buildings (unitRegistry : Option UnitTypeRegistry) (s : GameState) (i : ℕ) :
    ((resolveCity unitRegistry s i).1.buildings = s.buildings ∧ PlacesLegally s i) ∨
      ∃ city item factory, s.cities[i]? = some city ∧ dueOrder s city = some item ∧
        item.orderType = .building ∧ item.factory = some factory ∧
        (resolveCity unitRegistry s i).1.buildings =
          s.buildings ++ [placedBuilding s city item factory] := by
  -- nothing is to be checked when no building with a factory is due
  have hnone : ∀ {city : City}, s.cities[i]? = some city →
      (∀ item factory, dueOrder s city = some item → item.orderType = .building →
        item.factory ≠ some factory) → PlacesLegally s i := by
    intro city hcity hnot city' item factory hcity' hdue htype hmade
    obtain rfl := Option.some_inj.1 (hcity.symm.trans hcity')
    exact absurd hmade (hnot item factory hdue htype)
  cases hcity : s.cities[i]? with
  | none =>
      rw [resolveCity_of_none unitRegistry hcity]
      refine Or.inl ⟨rfl, fun city item factory hcity' => ?_⟩
      rw [hcity] at hcity'
      simp at hcity'
  | some city =>
      obtain ⟨city', -, -, -, hturn⟩ := resolveCity_spec unitRegistry hcity
      generalize (resolveCity unitRegistry s i).2 = thrown at hturn
      cases hturn with
      | saves due queue buildings units =>
          exact Or.inl ⟨buildings, hnone hcity fun _ _ h => by rw [due] at h; simp at h⟩
      | builds item factory due type made queue buildings units =>
          exact Or.inr ⟨city, item, factory, rfl, due, type, made, buildings⟩
      | drops item due type types queue buildings units =>
          refine Or.inl ⟨buildings, hnone hcity fun item' _ h htype => ?_⟩
          rw [due, Option.some_inj] at h
          rw [← h, type] at htype
          cases htype
      | spawns item reg tmpl due type types known queue buildings units =>
          refine Or.inl ⟨buildings, hnone hcity fun item' _ h htype => ?_⟩
          rw [due, Option.some_inj] at h
          rw [← h, type] at htype
          cases htype
      | misfires item due type made queue buildings units =>
          refine Or.inl ⟨buildings, hnone hcity fun item' _ h _ => ?_⟩
          rw [due, Option.some_inj] at h
          rw [← h, made]
          simp
      | fails item reg e due type types unknown queue buildings units =>
          refine Or.inl ⟨buildings, hnone hcity fun item' _ h htype => ?_⟩
          rw [due, Option.some_inj] at h
          rw [← h, type] at htype
          cases htype

/-- The turn of a city changes neither the map nor the tiles of a city. -/
theorem resolveCity_site (unitRegistry : Option UnitTypeRegistry) (s : GameState) (i : ℕ) :
    (resolveCity unitRegistry s i).1.map = s.map ∧
      ∀ j, (resolveCity unitRegistry s i).1.footprint? j = s.footprint? j := by
  cases hcity : s.cities[i]? with
  | none =>
      rw [resolveCity_of_none unitRegistry hcity]
      exact ⟨rfl, fun _ => rfl⟩
  | some city =>
      obtain ⟨city', hcities, hsite, hworld, -⟩ := resolveCity_spec unitRegistry hcity
      exact ⟨hworld.map, footprint?_set hcity hcities hsite.tiles⟩

variable {unitRegistry : Option UnitTypeRegistry} {s : GameState} {builders : List ℕ} {i : ℕ}

theorem buildersAfter_of_same
    (h : (resolveCity unitRegistry s i).1.buildings = s.buildings) :
    buildersAfter unitRegistry s builders i = builders := by
  rw [buildersAfter, h, Nat.sub_self]
  exact List.append_nil _

theorem buildersAfter_of_placed {b : Building}
    (h : (resolveCity unitRegistry s i).1.buildings = s.buildings ++ [b]) :
    buildersAfter unitRegistry s builders i = builders ++ [i] := by
  rw [buildersAfter, h, List.length_append, Nat.add_sub_cancel_left]
  rfl

/-- **The turn of a city leaves all buildings where they may be exactly when they were, and the one
that is due finds its tiles legal and free.** -/
theorem legal_resolveCity_iff :
    Legal ((resolveCity unitRegistry s i).1, buildersAfter unitRegistry s builders i) ↔
      Legal (s, builders) ∧ PlacesLegally s i := by
  obtain ⟨hmap, htiles⟩ := resolveCity_site unitRegistry s i
  rcases resolveCity_buildings unitRegistry s i with
    ⟨hsame, hplaces⟩ | ⟨city, item, factory, hcity, hdue, htype, hmade, hplaced⟩
  · rw [buildersAfter_of_same hsame, and_iff_left hplaces]
    exact ⟨Legal.congr hmap.symm hsame.symm fun j => (htiles j).symm, Legal.congr hmap hsame htiles⟩
  · have hfootprint : s.footprint? i = some city.tiles := by rw [footprint?, hcity]; rfl
    rw [buildersAfter_of_placed hplaced, legal_append_iff hmap htiles hplaced hfootprint]
    refine and_congr_right fun _ => ?_
    constructor
    · intro h city' item' factory' hcity' hdue' _ hmade'
      obtain rfl := Option.some_inj.1 (hcity.symm.trans hcity')
      obtain rfl := Option.some_inj.1 (hdue.symm.trans hdue')
      obtain rfl := Option.some_inj.1 (hmade.symm.trans hmade')
      exact h
    · intro h
      exact h city item factory hcity hdue htype hmade

end TurnResolver

/-! ### Runs -/

/-- The record over an effect. -/
def Effect.buildersAfter (s : GameState) (builders : List ℕ) : Effect → List ℕ
  | turn unitRegistry =>
      recordCities unitRegistry (TurnResolver.buildersAfter unitRegistry) s builders
        (List.range s.cities.length)
  | nothing | act _ | order _ _ => builders

/-- **Every building that falls due finds its tiles legal and free**, city by city, in the state in
which the city has its turn. -/
def Effect.PlacesLegally (s : GameState) : Effect → Prop
  | turn unitRegistry =>
      Runs.Along (cityStep unitRegistry) TurnResolver.PlacesLegally s
        (List.range s.cities.length)
  | nothing | act _ | order _ _ => True

/-- An effect leaves all buildings where they may be exactly when what falls due is placed
legally. -/
theorem Effect.legal_iff {s s' : GameState} {builders : List ℕ} (h : Legal (s, builders))
    {effect : Effect} (heffect : effect.apply s = some s') :
    Legal (s', effect.buildersAfter s builders) ↔ effect.PlacesLegally s := by
  cases effect with
  | nothing =>
      obtain rfl := Option.some_inj.1 heffect
      exact iff_of_true h trivial
  | turn unitRegistry =>
      obtain rfl := Option.some_inj.1 heffect
      rw [resolveTurn_iff (I := fun s' => Legal (s', (Effect.turn unitRegistry).buildersAfter s
        builders)) (fun _ => ⟨Legal.congr rfl rfl fun _ => rfl, Legal.congr rfl rfl fun _ => rfl⟩) s
        unitRegistry]
      refine (recordCities_iff _ (I := Legal) (P := fun x i => TurnResolver.PlacesLegally x.1 i)
        (fun s r i h => ?_) (fun s r i h => (legal_resolveCity_iff.1 h).1) _ s builders h).trans
        (Runs.along_recorded _ _ TurnResolver.PlacesLegally _ (s, builders))
      rw [legal_resolveCity_iff]
      exact (and_iff_right h).symm
  | order i item =>
      obtain rfl := Option.some_inj.1 heffect
      refine iff_of_true ?_ trivial
      rw [GameState.order]
      split
      · exact h
      · next city hcity =>
          have htiles : ∀ j, (s.setCity i (city.setBuildQueue
              (city.buildQueue.restoreItem item))).footprint? j = s.footprint? j :=
            footprint?_set hcity rfl rfl
          exact Legal.congr (s := s) rfl rfl htiles h
  | act action =>
      refine iff_of_true ?_ trivial
      rw [Effect.apply] at heffect
      split at heffect
      · simp at heffect
      · next hex =>
          obtain rfl := Option.some_inj.1 heffect
          have hbuildings := (GameAction.execute_cities hex).1
          have hmap := GameAction.execute_map hex
          have htaken := GameAction.execute_taken hex
          split at htaken
          · exact Legal.congr hmap hbuildings (fun j => by rw [footprint?, htaken]; rfl) h
          · obtain ⟨city, unit, hcity, hcities⟩ := htaken
            exact Legal.congr hmap hbuildings (footprint?_set hcity hcities rfl) h

/-- The record over an operation of a session. -/
def GameSession.buildersAfter (session : GameSession) (builders : List ℕ) (op : SessionOp) :
    List ℕ := (op.effect session).buildersAfter session.state builders

/-- **From a game without buildings all buildings stand where they may along a run exactly when
every building that falls due finds its tiles legal and free.** -/
theorem legal_along_iff (session : GameSession) (h : session.state.buildings = [])
    (ops : List SessionOp) :
    Runs.Along (Runs.recorded GameSession.step GameSession.buildersAfter)
        (fun x op => ∀ y, Runs.recorded GameSession.step GameSession.buildersAfter x op = some y →
          Legal (y.1.state, y.2)) (session, []) ops ↔
      Runs.Along GameSession.step
        (fun session op => ∀ session', session.step op = some session' →
          (op.effect session).PlacesLegally session.state) session ops := by
  rw [← Runs.along_recorded GameSession.step GameSession.buildersAfter _ ops (session, [])]
  refine Runs.along_recorded_keeps_iff _ _
    (I := fun x : GameSession × List ℕ => Legal (x.1.state, x.2)) (J := fun _ => True)
    (fun _ _ _ _ _ => trivial) (fun x op _ hx => ?_) ops _ trivial (legal_of_empty h)
  exact forall₂_congr fun session' hstep => Effect.legal_iff hx (GameSession.step_eq_some hstep)

/-- A client orders a mine on the plains, and two turns later it stands outside of the city. -/
theorem mine_outside_city :
    capitalSession.state.buildings = [] ∧
      (∀ city ∈ capitalSession.state.cities, city.buildQueue.queue = []) ∧
      ∃ x, Runs.run (Runs.recorded GameSession.step GameSession.buildersAfter) (capitalSession, [])
          [.processAction 7 (.build { cityId := 1, buildingType := "Mine" }), .resolveTurn none,
            .resolveTurn none] = some x ∧ ¬ Legal (x.1.state, x.2) := by
  refine ⟨rfl, capitalSession_queues, _, rfl, fun h => ?_⟩
  obtain ⟨footprint, hfootprint, hsites⟩ := h.placed 0 _ 0 rfl rfl
  obtain rfl := Option.some_inj.1 hfootprint
  have hcorner := hsites { row := 0, col := 0 } (by decide)
  exact absurd hcorner.1 (by decide)

/-- The condition on the capital as it orders a mine and a turn is resolved. -/
theorem capitalSession_legal_iff :
    Runs.Along (Runs.recorded GameSession.step GameSession.buildersAfter)
        (fun x op => ∀ y, Runs.recorded GameSession.step GameSession.buildersAfter x op = some y →
          Legal (y.1.state, y.2)) (capitalSession, [])
        [.processAction 7 (.build { cityId := 1, buildingType := "Mine" }), .resolveTurn none] ↔
      Runs.Along GameSession.step
        (fun session op => ∀ session', session.step op = some session' →
          (op.effect session).PlacesLegally session.state) capitalSession
        [.processAction 7 (.build { cityId := 1, buildingType := "Mine" }), .resolveTurn none] :=
  legal_along_iff capitalSession rfl _

end My4X
