/-
**Every frame can be drawn.**

Drawing looks up the tile under every unit, every centre of a city and every building, and what the
player sees of it; a look-up outside the map fails, and the application ends.  Nothing checks that
the cities, their orders and the buildings lie on the map.  But they do: the mouse points at no
other tile, and what is built comes from an order.  This module carries it through every run, with
new and loaded games, so that no frame of the game fails to be drawn.

Main definitions:

* `My4X.GameState.Placed` — the cities, their orders and the buildings lie on the map;
* `My4X.LoadsPlaced` — a content that gives no other states.

Main results:

* `My4X.AppState.renderGameFrame_ok` — a state whose things lie on the map can be drawn;
* `My4X.AppState.every_frame_drawn` — **in every run every frame can be drawn**;
* `My4X.AppState.panels_fit` — what the panels of a frame draw stays within their boxes.
-/

import My4X.AppRuns
import My4X.Panels
import My4X.Queues

set_option relaxedAutoImplicit false
set_option autoImplicit false

namespace My4X

open Collecting

/-! ### On the map -/

/-- A building with all its tiles on a map. -/
def Building.OnMap (b : Building) (map : Map) : Prop :=
  ∀ t ∈ b.occupiedTiles.toList, InBounds t.row t.col map.height map.width

/-- A queue whose orders make buildings on a map. -/
def BuildQueue.OnMap (q : BuildQueue) (map : Map) : Prop :=
  ∀ item ∈ q.queue, ∀ b ∈ madeBuilding item, b.OnMap map

/-- A city with its centre and its orders on a map. -/
structure City.OnMap (c : City) (map : Map) : Prop where
  center : InBounds c.centerRow c.centerCol map.height map.width
  orders : c.buildQueue.OnMap map

/-- **The cities, their orders and the buildings lie on the map.** -/
structure GameState.Placed (s : GameState) : Prop where
  cities : ∀ c ∈ s.cities, c.OnMap s.map
  buildings : ∀ b ∈ s.buildings, b.OnMap s.map

/-- What a built-in factory makes on a tile of the map lies on the map. -/
theorem onMap_of_builtin {factory : BuildingFactory} (h : factory ∈ builtinFactories) {row col : ℤ}
    {map : Map} (hin : InBounds row col map.height map.width) : (factory row col).OnMap map := by
  have hone : (factory row col).occupiedTiles = SortedSet.singleton ⟨row, col⟩ := by
    simp only [builtinFactories, List.mem_cons, List.not_mem_nil, or_false] at h
    rcases h with rfl | rfl | rfl | rfl | rfl | rfl <;> rfl
  intro t ht
  rw [hone] at ht
  obtain rfl := List.mem_singleton.1 ht
  exact hin

namespace BuildQueue

variable {q q' : BuildQueue} {map : Map}

theorem OnMap.of_subset (h : q.OnMap map) (hsubset : q'.queue ⊆ q.queue) : q'.OnMap map :=
  fun item hitem => h item (hsubset hitem)

theorem OnMap.enqueue (h : q.OnMap map) {factory : BuildingFactory}
    (hfactory : factory ∈ builtinFactories) {row col : ℤ}
    (hin : InBounds row col map.height map.width) : (q.enqueue factory row col).OnMap map := by
  intro item hitem b hb
  rcases List.mem_append.1 hitem with hitem | hitem
  · exact h item hitem b hb
  · rw [List.mem_singleton.1 hitem] at hb
    obtain rfl := List.mem_singleton.1 hb
    exact onMap_of_builtin hfactory hin

/-- What production completes is what an order of the queue makes. -/
theorem OnMap.applyProduction (h : q.OnMap map) {amount : ℤ} {b : Building}
    (hdone : (q.applyProduction amount).2 = .ok (some (.building b))) : b.OnMap map := by
  rw [applyProduction_eq] at hdone
  cases hdue : q.due? amount with
  | none =>
      rw [hdue] at hdone
      cases hdone
  | some item =>
      obtain ⟨⟨rest, hqueue⟩, -⟩ := due?_eq_some hdue
      rw [hdue] at hdone
      dsimp only at hdone
      split at hdone
      · cases hdone
      · next factory htype hfactory =>
          obtain rfl := BuildQueueResult.building.inj (Option.some_inj.1 (Except.ok.inj hdone))
          refine h item (hqueue ▸ List.mem_cons_self) _ ?_
          rw [madeBuilding, htype, hfactory]
          exact List.mem_singleton.2 rfl
      · cases hdone

end BuildQueue

/-! ### What keeps things on the map -/

namespace GameState.Placed

variable {s s' : GameState}

theorem of_eq (h : s.Placed) (hmap : s'.map = s.map) (hcities : s'.cities = s.cities)
    (hbuildings : s'.buildings = s.buildings) : s'.Placed where
  cities := by
    rw [hcities, hmap]
    exact h.cities
  buildings := by
    rw [hbuildings, hmap]
    exact h.buildings

theorem addCity (h : s.Placed) {c : City} (hc : c.OnMap s.map) : (s.addCity c).1.Placed where
  cities c' hc' := by
    rcases List.mem_append.1 hc' with hc' | hc'
    · exact h.cities c' hc'
    · rw [List.mem_singleton.1 hc']
      exact ⟨hc.center, hc.orders⟩
  buildings := h.buildings

theorem addBuilding (h : s.Placed) {b : Building} (hb : b.OnMap s.map) :
    (s.addBuilding b).1.Placed where
  cities := h.cities
  buildings b' hb' := by
    rcases List.mem_append.1 hb' with hb' | hb'
    · exact h.buildings b' hb'
    · rw [List.mem_singleton.1 hb']
      exact hb

theorem setCity (h : s.Placed) (i : ℕ) {c : City} (hc : c.OnMap s.map) :
    (s.setCity i c).Placed where
  cities c' hc' := by
    rcases List.mem_or_eq_of_mem_set hc' with hc' | rfl
    · exact h.cities c' hc'
    · exact hc
  buildings := h.buildings

/-- **An action moves no city and builds nothing.** -/
theorem execute (h : s.Placed) {action : GameAction} {executed : Bool}
    (hex : action.execute s = .ok (s', executed)) : s'.Placed := by
  have hmap : s'.map = s.map := GameAction.execute_map hex
  obtain ⟨hbuildings, ⟨hcities, -⟩ | ⟨a, p, i, city, -, -, htaken, hcities⟩⟩ :=
    GameAction.execute_cities hex
  · exact h.of_eq hmap hcities hbuildings
  · -- a city that is taken stays in its place, and loses its orders
    have hcity := h.cities city (List.mem_of_getElem? htaken.get)
    have hset := h.setCity i (c := CaptureAction.captured city p.unit)
      ⟨hcity.center, fun item hitem => by cases hitem⟩
    exact hset.of_eq hmap hcities hbuildings

/-- The production of a city. -/
theorem produceCity (h : s.Placed) (i : ℕ) : (produceCity s i).1.Placed := by
  cases hcity : s.cities[i]? with
  | none =>
      rw [My4X.produceCity, hcity]
      exact h
  | some city =>
      have hon := h.cities city (List.mem_of_getElem? hcity)
      have hset := h.setCity i (c := city.setBuildQueue
        (city.buildQueue.applyProduction City.productionPerTurn).1)
        ⟨hon.center, hon.orders.of_subset
          (City.applyProduction_subset city.buildQueue City.productionPerTurn)⟩
      rw [My4X.produceCity, hcity]
      dsimp only
      split
      · exact hset
      · next b hdone => exact hset.addBuilding (hon.orders.applyProduction hdone)
      · exact hset

/-- **The end of a turn builds on the map only.** -/
theorem processTurn (h : s.Placed) (hend : processTurn s = (s', none)) : s'.Placed := by
  have hproduced : (produceCitiesFrom s.startTurn (List.range s.cities.length)).1.Placed :=
    produceCitiesFrom_keeps (fun s' i _ hs' => hs'.produceCity i) _ (h.of_eq rfl rfl rfl)
  rw [processTurn_eq] at hend
  split at hend
  · cases (Prod.mk.inj hend).2
  · next s₁ hout =>
      rw [hout] at hproduced
      split at hend
      · cases (Prod.mk.inj hend).2
      · obtain rfl := (Prod.mk.inj hend).1
        exact hproduced.of_eq rfl rfl rfl

/-- **What is loaded of a state on the map lies on the map.** -/
theorem restored (h : s.Placed) (hrestored : Restored s s') : s'.Placed where
  cities c' hc' := by
    obtain ⟨i, hi⟩ := List.mem_iff_getElem?.1 hc'
    obtain ⟨c, hc, hsame⟩ := exists_of_forall₂_getElem? hrestored.cities hi
    have hcity := h.cities c (List.mem_of_getElem? hc)
    refine ⟨?_, fun item' hitem' b hb => ?_⟩
    · rw [hsame.centerRow, hsame.centerCol, hrestored.height, hrestored.width]
      exact hcity.center
    · obtain ⟨k, hk⟩ := List.mem_iff_getElem?.1 hitem'
      obtain ⟨item, hitem, hsameItem⟩ := exists_of_forall₂_getElem? hsame.queue hk
      have hmade : madeBuilding item' = madeBuilding item := by
        rw [madeBuilding, madeBuilding, hsameItem.orderType, hsameItem.targetRow,
          hsameItem.targetCol]
        cases htype : item.orderType with
        | unit => rfl
        | building => rw [hsameItem.factory htype]
      rw [hmade] at hb
      intro t ht
      rw [hrestored.height, hrestored.width]
      exact hcity.orders item (List.mem_of_getElem? hitem) b hb t ht
  buildings b hb t ht := by
    rw [hrestored.buildings] at hb
    rw [hrestored.height, hrestored.width]
    exact h.buildings b hb t ht

end GameState.Placed

/-! ### A new game -/

/-- Tiles added to a city leave its centre and its queue as they are. -/
theorem City.withTiles_keeps (c : City) (tiles : List TileCoord) :
    (c.withTiles tiles).centerRow = c.centerRow ∧ (c.withTiles tiles).centerCol = c.centerCol ∧
      (c.withTiles tiles).buildQueue = c.buildQueue := by
  rw [City.withTiles]
  induction tiles generalizing c with
  | nil => exact ⟨rfl, rfl, rfl⟩
  | cons t tiles ih =>
      rw [List.foldl_cons]
      exact ih (c.addTile t.row t.col)

section Setup

/-- A city of a new game. -/
theorem onMap_founded {map : Map} (hheight : map.height = appMapRows)
    (hwidth : map.width = appMapCols) (name : String) (row col : ℤ) (owner : Int32)
    (tiles : List TileCoord) (hin : InBounds row col appMapRows appMapCols) :
    ((City.create name row col owner).withTiles tiles).OnMap map := by
  obtain ⟨hrow, hcol, hqueue⟩ := City.withTiles_keeps (City.create name row col owner) tiles
  refine ⟨?_, fun item hitem => ?_⟩
  · rw [hrow, hcol, hheight, hwidth]
    exact hin
  · rw [hqueue] at hitem
    cases hitem

/-- A farm of a new game. -/
theorem onMap_farm {map : Map} (hheight : map.height = appMapRows) (hwidth : map.width = appMapCols)
    {row col : ℤ} (hin : InBounds row col appMapRows appMapCols) :
    (makeFarm row col).OnMap map := by
  refine onMap_of_builtin (by simp [builtinFactories]) ?_
  rw [hheight, hwidth]
  exact hin

namespace GameState.Placed

variable {unitReg : UnitTypeRegistry} {s s' : GameState}

/-- The units are no part of what lies on the map. -/
theorem of_sameButUnits (h : s.Placed) (hsame : s.SameButUnits s') : s'.Placed :=
  h.of_eq (congrArg GameState.map hsame :) (congrArg GameState.cities hsame :)
    (congrArg GameState.buildings hsame :)

theorem placeUnits (h : s.Placed) (hreg : UnitTypeRegistry.empty.registerDefaults = .ok unitReg)
    {factionId : FactionId} {places : List (ℤ × ℤ × String)}
    (hkeys : ∀ place ∈ places, place.2.2 ∈ builtinKeys)
    (hok : placeUnits unitReg factionId s places = .ok s') : s'.Placed := by
  obtain ⟨s'', hok', hsame, -⟩ := placeUnits_ok hreg factionId places s hkeys
  obtain rfl := Except.ok.inj (hok.symm.trans hok')
  exact h.of_sameButUnits hsame

/-- The empire of the player. -/
theorem foundRome (h : s.Placed) (hreg : UnitTypeRegistry.empty.registerDefaults = .ok unitReg)
    (hsize : s.OfAppSize) (hok : foundRome unitReg s = .ok s') : s'.Placed := by
  have hfounded : ({ s with
      factionRegistry := (s.factionRegistry.addFaction "Roman Empire" .player 0).1.addResources
        s.factionRegistry.nextFactionId { gold := 100, production := 40, food := 60 }
      factionResources := s.factionResources + { gold := 100, production := 40, food := 60 } } :
      GameState).Placed := h.of_eq rfl rfl rfl
  have hroma := hfounded.addCity (onMap_founded hsize.height hsize.width "Roma" 10 5
    s.factionRegistry.nextFactionId.toInt32 [⟨10, 6⟩, ⟨9, 5⟩, ⟨11, 5⟩] (by decide))
  have hfarms := (hroma.addBuilding (onMap_farm hsize.height hsize.width
    (show InBounds 10 6 _ _ by decide))).addBuilding (onMap_farm hsize.height hsize.width
    (show InBounds 9 5 _ _ by decide))
  have hmediolanum := hfarms.addCity (onMap_founded hsize.height hsize.width "Mediolanum" 14 8
    s.factionRegistry.nextFactionId.toInt32 [⟨14, 9⟩, ⟨13, 8⟩] (by decide))
  have hfarm := hmediolanum.addBuilding (onMap_farm hsize.height hsize.width
    (show InBounds 14 9 _ _ by decide))
  exact hfarm.placeUnits hreg (by decide) hok

/-- The other empire. -/
theorem foundPersia (h : s.Placed) (hreg : UnitTypeRegistry.empty.registerDefaults = .ok unitReg)
    (hsize : s.OfAppSize) (hok : foundPersia unitReg s = .ok s') : s'.Placed := by
  have hfounded : ({ s with
      factionRegistry := (s.factionRegistry.addFaction "Persian Empire" .player 1).1.addResources
        s.factionRegistry.nextFactionId { gold := 80, production := 35, food := 50 } } :
      GameState).Placed := h.of_eq rfl rfl rfl
  have hpersepolis := hfounded.addCity (onMap_founded hsize.height hsize.width "Persepolis" 8 18
    s.factionRegistry.nextFactionId.toInt32 [⟨8, 19⟩, ⟨7, 18⟩] (by decide))
  have hfarm := hpersepolis.addBuilding (onMap_farm hsize.height hsize.width
    (show InBounds 8 19 _ _ by decide))
  have hsusa := hfarm.addCity (onMap_founded hsize.height hsize.width "Susa" 12 20
    s.factionRegistry.nextFactionId.toInt32 [⟨12, 21⟩] (by decide))
  exact hsusa.placeUnits hreg (by decide) hok

/-- **A new game lies on the map.** -/
theorem setupDemoState (h : s.Placed) (hsound : s.Sound) (hsize : s.OfAppSize)
    (hok : setupDemoState s = .ok s') : s'.Placed := by
  obtain ⟨unitReg, hreg, -⟩ := exists_registerDefaults
  rw [My4X.setupDemoState, hreg, Except.ok_bind] at hok
  obtain ⟨s₁, hrome, hok⟩ := Except.bind_eq_ok.1 hok
  obtain ⟨s₂, hpersia, hok⟩ := Except.bind_eq_ok.1 hok
  obtain ⟨s₃, hneutral, hok⟩ := Except.bind_eq_ok.1 hok
  obtain ⟨fog, -, hok⟩ := Except.bind_eq_ok.1 hok
  obtain rfl := Except.ok.inj hok
  obtain ⟨s₁', hrome', -, hmap, -⟩ := foundRome_ok hreg hsound hsize
  obtain rfl := Except.ok.inj (hrome.symm.trans hrome')
  obtain ⟨s₃', hneutral', hsame, -⟩ := NeutralAI.spawnNeutralFactions_ok s₂
  obtain rfl := Except.ok.inj (hneutral.symm.trans hneutral')
  have h₁ := h.foundRome hreg hsize hrome
  have h₂ := h₁.foundPersia hreg (hsize.of_map hmap) hpersia
  have hjoined : (NeutralAI.joined s₂).Placed := h₂.of_eq rfl rfl rfl
  exact (hjoined.of_sameButUnits hsame).of_eq rfl rfl rfl

end GameState.Placed

end Setup

/-! ### Saves -/

/-- A content that gives no state but such as lie on the map. -/
def LoadsPlaced (codec : Codec) (data : List UInt8) : Prop :=
  ∀ draws t, deserializeGameState codec draws data = .ok t → t.Placed

/-- **What is saved of a state on the map is loaded as one.** -/
theorem loadsPlaced_of_serialize {codec : Codec} (hcodec : codec.Exact) {s : GameState}
    (hsound : s.Sound) (h : s.Placed) {data : List UInt8}
    (hdata : serializeGameState codec s = .ok data) : LoadsPlaced codec data := by
  intro draws t ht
  obtain ⟨t', ht', hrestored, -⟩ := exists_restored hcodec hsound hdata draws
  obtain rfl := Except.ok.inj (ht.symm.trans ht')
  exact h.restored hrestored

/-- **A save of a state on the map that was cut off** gives nothing but states on the map: what is
left of the cities and buildings lies where it lay. -/
theorem loadsPlaced_of_cut {codec : Codec} (hcodec : codec.CutsShort) {s : GameState}
    (hsound : s.Sound) (h : s.Placed) {data : List UInt8}
    (hdata : serializeGameState codec s = .ok data) (written : ℕ) :
    LoadsPlaced codec (data.take written) := by
  intro draws t ht
  rcases restored_of_cut hcodec hsound.savable hdata written draws with
    ⟨message, hfails⟩ | ⟨part, t', ht', hrestored, -⟩
  · rw [hfails] at ht
    cases ht
  · obtain rfl := Except.ok.inj (ht.symm.trans ht')
    have hpart : (s.cutTo part).Placed :=
      { cities := fun c hc => h.cities c (s.cutTo_cities_subset part hc)
        buildings := fun b hb => h.buildings b (s.cutTo_buildings_subset part hb) }
    exact hpart.restored hrestored

namespace AppState

variable {codec : Codec} {queue : CostQueue} {draws : ℕ → TerrainType} {saves : SavesDirectory}

/-- **The game lies on the map, and so does every game in the saves.** -/
structure OnMap (codec : Codec) (app : AppState) : Prop where
  game : app.state.Placed
  saves : ∀ file ∈ app.saves.files, LoadsPlaced codec file.data

/-- What the player does keeps the game on the map. -/
theorem Play.placed {i : FrameInput} (hfair : i.Fair codec) {app app' : AppState}
    (hkept : Kept codec app) (h : app.state.Placed) (hplay : Play i app app') :
    app'.state.Placed := by
  cases hplay with
  | rests state log saves entered =>
      rw [state]
      exact h
  | @acts action s fog events player executes view state reported quiet log saves entered =>
      rw [state]
      exact (h.execute executes).of_eq rfl rfl rfl
  | @orders k city queue found queued state log saves entered =>
      have hcity := h.cities city (List.mem_of_getElem? found)
      rw [state]
      refine h.setCity k ⟨hcity.center, ?_⟩
      cases queued with
      | cancels asked => exact hcity.orders.of_subset (City.cancel_subset city.buildQueue)
      | @enqueues factory known tile hovered =>
          refine hcity.orders.enqueue known ?_
          rw [hkept.size.height, hkept.size.width]
          exact hfair.hovered tile hovered
  | ends completes log saves entered => exact h.processTurn completes

/-- **Every change keeps the game on the map.** -/
theorem OnMap.change (hcodec : codec.Exact) {i : FrameInput} (hfair : i.Fair codec)
    {app app' : AppState} (h : OnMap codec app) (hkept : Kept codec app)
    (hchange : Change codec i app app') : OnMap codec app' := by
  have hgame : app'.state.Placed → app'.saves = app.saves → OnMap codec app' := by
    intro hplaced hsaves
    refine ⟨hplaced, ?_⟩
    rw [hsaves]
    exact h.saves
  cases hchange with
  | rests state log saves entered =>
      refine hgame ?_ saves
      rw [state]
      exact h.game
  | plays playing play => exact hgame (play.placed hfair hkept h.game) play.rest.1
  | saves playing asked state log saves entered =>
      refine ⟨?_, ?_⟩
      · rw [state]
        exact h.game
      · rw [saves]
        exact forall_data_saveGame h.saves _
          (fun data hdata => loadsPlaced_of_serialize hcodec hkept.sound h.game hdata)
          (fun written hwritten data hdata =>
            loadsPlaced_of_cut (hfair.cut written hwritten) hkept.sound h.game hdata written)
  | @loads t fog playing asked loaded view state log saves entered =>
      obtain ⟨file, hfile, hload⟩ := exists_file_of_loadLatest hkept hfair loaded
      refine hgame ?_ saves
      rw [state]
      exact (h.saves file hfile i.draws t hload).of_eq rfl rfl rfl
  | begins fresh setUp log saves entered =>
      exact hgame (h.game.setupDemoState hkept.sound hkept.size setUp) saves

end AppState

/-! ### Drawing -/

section Drawing

variable {s : GameState} {fog : Option FogOfWar} {F : Type}

/-- The fog that a frame goes by knows every tile of the map. -/
theorem AppState.exists_shownFog {app : AppState} (h : app.state.Sound) {row col : ℤ}
    (hin : InBounds row col app.state.map.height app.state.map.width) :
    ∃ seen, FogOfWar.shown app.shownFog playerFactionId row col = .ok seen := by
  rw [AppState.shownFog]
  split
  · exact ⟨_, rfl⟩
  · obtain ⟨seen, hseen, -⟩ := h.fits.getVisibility playerFactionId hin
    exact ⟨seen, hseen⟩

-- what is assumed of the fog from here on
variable (hshown : ∀ row col, InBounds row col s.map.height s.map.width →
  ∃ seen, FogOfWar.shown fog playerFactionId row col = .ok seen)
include hshown

namespace Rendering

/-- Whether something on the map is hidden can be told. -/
theorem exists_hides (owner : FactionId) {row col : ℤ}
    (hin : InBounds row col s.map.height s.map.width) :
    ∃ hidden, hides fog playerFactionId owner row col = .ok hidden := by
  rw [hides]
  split
  · obtain ⟨seen, hseen⟩ := hshown row col hin
    exact ⟨_, by rw [hseen]; rfl⟩
  · exact ⟨_, rfl⟩

theorem exists_drawUnit {m : MarkedUnit F}
    (hin : InBounds m.unit.row m.unit.col s.map.height s.map.width) :
    ∃ ds, drawUnit s.map s.factionRegistry s.diplomacy playerFactionId fog m = .ok ds := by
  rw [drawUnit]
  split
  · exact ⟨_, rfl⟩
  · obtain ⟨hidden, hhidden⟩ := exists_hides hshown m.unit.factionId hin
    obtain ⟨center, hcenter⟩ := exists_resolveUnitCenter hin
    rw [hhidden, Except.ok_bind]
    split
    · exact ⟨_, rfl⟩
    · exact ⟨_, by rw [hcenter]; rfl⟩

theorem exists_drawCity (selectedCityId : Option CityId) {city : City}
    (hin : InBounds city.centerRow city.centerCol s.map.height s.map.width) :
    ∃ ds, drawCity s.map s.factionRegistry s.diplomacy selectedCityId playerFactionId fog city =
      .ok ds := by
  obtain ⟨hidden, hhidden⟩ := exists_hides hshown city.owner hin
  obtain ⟨center, hcenter⟩ := exists_tileCenterElevated hin
  rw [drawCity, hhidden, Except.ok_bind]
  split
  · exact ⟨_, rfl⟩
  · exact ⟨_, by rw [hcenter]; rfl⟩

/-- A building is drawn tile after tile. -/
theorem exists_drawTiles (building : Building) {tiles : List TileCoord}
    (hin : ∀ t ∈ tiles, InBounds t.row t.col s.map.height s.map.width) (dimmed : ℕ) :
    ∃ ds, drawTiles s.map s.factionRegistry playerFactionId fog building dimmed tiles = .ok ds := by
  induction tiles generalizing dimmed with
  | nil => exact ⟨[], rfl⟩
  | cons tile tiles ih =>
      obtain ⟨seen, hseen⟩ := hshown tile.row tile.col (hin tile List.mem_cons_self)
      obtain ⟨center, hcenter⟩ := exists_tileCenterElevated (hin tile List.mem_cons_self)
      have hrest := ih fun t ht => hin t (List.mem_cons_of_mem tile ht)
      rw [drawTiles, hseen, Except.ok_bind]
      split
      · exact hrest dimmed
      · obtain ⟨rest, hrest⟩ := hrest (if seen = .explored then dimmed + 1 else dimmed)
        dsimp only
        rw [hcenter, Except.ok_bind, hrest]
        exact ⟨_, rfl⟩

theorem exists_drawUnits (hinside : s.UnitsInside) (selectedIndex : ℤ)
    (animator : UnitAnimator F) :
    ∃ ds, drawUnits s selectedIndex playerFactionId fog animator = .ok ds := by
  refine exists_collect fun m hm => ?_
  obtain ⟨⟨p, i⟩, hp, rfl⟩ := List.mem_map.1 hm
  exact exists_drawUnit hshown (hinside p (List.fst_mem_of_mem_zipIdx hp))

theorem exists_drawCities (hplaced : s.Placed) (selectedCityId : Option CityId) :
    ∃ ds, drawCities s selectedCityId playerFactionId fog = .ok ds :=
  exists_collect fun c hc => exists_drawCity hshown selectedCityId (hplaced.cities c hc).center

theorem exists_drawBuildings (hplaced : s.Placed) :
    ∃ ds, drawBuildings s playerFactionId fog = .ok ds :=
  exists_collect fun b hb => exists_drawTiles hshown b (hplaced.buildings b hb) 0

end Rendering

namespace Minimap

theorem exists_drawTerrain : ∃ cells, drawTerrain s.map fog playerFactionId = .ok cells := by
  refine exists_collect fun place hplace => ?_
  have hin := mem_places.1 hplace
  obtain ⟨seen, hseen⟩ := hshown place.1 place.2 hin
  obtain ⟨tile, htile⟩ := (s.map.tile_eq_ok_iff place.1 place.2).2 hin
  rw [drawTile, hseen, Except.ok_bind]
  split
  · exact ⟨_, rfl⟩
  · exact ⟨_, by rw [htile]; rfl⟩

theorem exists_drawCities (hplaced : s.Placed) :
    ∃ marks, drawCities s fog playerFactionId = .ok marks := by
  refine exists_collect fun c hc => ?_
  obtain ⟨seen, hseen⟩ := hshown _ _ (hplaced.cities c hc).center
  exact ⟨_, by rw [drawCity, hseen]; rfl⟩

theorem exists_drawUnits (hinside : s.UnitsInside) :
    ∃ marks, drawUnits s fog playerFactionId = .ok marks := by
  refine exists_collect fun u hu => ?_
  obtain ⟨p, hp, rfl⟩ := List.mem_map.1 hu
  obtain ⟨seen, hseen⟩ := hshown _ _ (hinside p hp)
  rw [drawUnit]
  split
  · exact ⟨_, rfl⟩
  · exact ⟨_, by rw [hseen]; rfl⟩

end Minimap

end Drawing

/-- The tooltip of a tile of the map. -/
theorem Tooltip.exists_draw {s : GameState} (h : s.Sound) {hovered : Option TileCoord}
    (hin : ∀ t, hovered = some t → InBounds t.row t.col s.map.height s.map.width) :
    ∃ lines, Tooltip.draw s playerFactionId hovered = .ok lines := by
  cases hovered with
  | none => exact ⟨[], rfl⟩
  | some t =>
      obtain ⟨seen, hseen, -⟩ := h.fits.getVisibility playerFactionId (hin t rfl)
      obtain ⟨tile, htile⟩ := (s.map.tile_eq_ok_iff t.row t.col).2 (hin t rfl)
      rw [Tooltip.draw, Tooltip.buildLines, hseen, Except.ok_bind]
      split
      · exact ⟨_, rfl⟩
      · rw [htile, Except.ok_bind]
        dsimp only
        split
        · exact ⟨_, rfl⟩
        · exact ⟨_, rfl⟩

namespace AppState

open Panels

variable {F : Type}

/-- The range of the selected unit. -/
theorem exists_shownAttackRange {app : AppState} (hselects : app.Selects) :
    ∃ tiles, shownAttackRange app = .ok tiles := by
  rw [shownAttackRange]
  split
  · exact ⟨_, rfl⟩
  · next hsome =>
      obtain ⟨k, p, hk, hp⟩ := hselects.exists_at hsome
      rw [at_eq_ok.2 ⟨k, hk, hp⟩]
      exact ⟨_, rfl⟩

/-- The panel of the selected unit. -/
theorem exists_drawLeftPanel (measureText : String → ℤ → ℤ) {app : AppState}
    (hinside : app.state.UnitsInside) (hselects : app.Selects) :
    ∃ commands, drawLeftPanel measureText app = .ok commands := by
  rw [drawLeftPanel]
  split
  · next hsome =>
      obtain ⟨k, p, hk, hp⟩ := hselects.exists_at hsome
      obtain ⟨tile, htile⟩ :=
        (app.state.map.tile_eq_ok_iff p.unit.row p.unit.col).2 (hinside p (List.mem_of_getElem? hp))
      rw [drawUnitInfoPanel, if_neg hsome, at_eq_ok.2 ⟨k, hk, hp⟩, Except.ok_bind]
      dsimp only
      rw [htile]
      exact ⟨_, rfl⟩
  · exact ⟨_, rfl⟩

/-- **A game on the map can be drawn**, with the mouse on any of its tiles. -/
theorem renderGameFrame_ok (measureText : String → ℤ → ℤ) (animator : Rendering.UnitAnimator F)
    {app : AppState} (hsound : app.state.Sound) (hplaced : app.state.Placed)
    (hselects : app.Selects)
    {hovered : Option TileCoord}
    (hin : ∀ t, hovered = some t → InBounds t.row t.col app.state.map.height app.state.map.width)
    (lingers : Bool) :
    ∃ frame, renderGameFrame measureText animator app hovered lingers = .ok frame := by
  have hshown := fun row col => @exists_shownFog app hsound row col
  obtain ⟨range, hrange⟩ := exists_shownAttackRange hselects
  obtain ⟨units, hunits⟩ :=
    Rendering.exists_drawUnits hshown hsound.inside app.selectedUnit animator
  obtain ⟨cities, hcities⟩ := Rendering.exists_drawCities hshown hplaced app.selectedCity
  obtain ⟨buildings, hbuildings⟩ := Rendering.exists_drawBuildings hshown hplaced
  obtain ⟨panel, hpanel⟩ := exists_drawLeftPanel measureText hsound.inside hselects
  obtain ⟨terrain, hterrain⟩ := Minimap.exists_drawTerrain hshown
  obtain ⟨marks, hmarks⟩ := Minimap.exists_drawCities hshown hplaced
  obtain ⟨dots, hdots⟩ := Minimap.exists_drawUnits hshown hsound.inside
  have htip : ∀ t, (if lingers = true then hovered else none) = some t →
      InBounds t.row t.col app.state.map.height app.state.map.width := by
    intro t ht
    split at ht
    · exact hin t ht
    · cases ht
  obtain ⟨tooltip, htooltip⟩ := Tooltip.exists_draw hsound htip
  rw [renderGameFrame, hrange, Except.ok_bind, hunits, Except.ok_bind, hcities, Except.ok_bind,
    hbuildings, Except.ok_bind, hpanel, Except.ok_bind, hterrain, Except.ok_bind, hmarks,
    Except.ok_bind, hdots, Except.ok_bind, htooltip]
  exact ⟨_, rfl⟩

/-! ### Runs -/

variable {codec : Codec} {queue : CostQueue} {draws : ℕ → TerrainType} {saves : SavesDirectory}

/-- Nothing is on the map before the first frame. -/
theorem placed_of_start {app : AppState} (hstart : start draws saves = .ok app) :
    app.state.Placed := by
  obtain ⟨state, hcreate, hstart⟩ := Except.bind_eq_ok.1 hstart
  obtain ⟨map, -, hcreate⟩ := Except.bind_eq_ok.1 hcreate
  obtain rfl := Except.ok.inj hcreate
  obtain rfl := Except.ok.inj hstart
  exact { cities := fun c hc => by cases hc
          buildings := fun b hb => by cases hb }

/-- **Every run stays on the map.** -/
theorem onMap_of_run (hcodec : codec.Exact)
    (hsaves : ∀ file ∈ saves.files, file.Readable codec ∧ LoadsPlaced codec file.data)
    {app app' : AppState} (hstart : start draws saves = .ok app) {inputs : List FrameInput}
    (hfair : ∀ i ∈ inputs, i.Fair codec)
    (hrun : Runs.run (appStep codec queue) app inputs = some app') :
    Ready codec app' ∧ OnMap codec app' := by
  have hready := ready_of_start (fun file hfile => (hsaves file hfile).1) hstart
  have hbegan : OnMap codec app := by
    refine ⟨placed_of_start hstart, ?_⟩
    obtain ⟨state, -, hstart⟩ := Except.bind_eq_ok.1 hstart
    obtain rfl := Except.ok.inj hstart
    exact fun file hfile => (hsaves file hfile).2
  exact of_run (P := fun i => i.Fair codec) hcodec
    (fun i _ _ hi hkept h hchange => h.change hcodec hi hkept hchange)
    (fun i hi => ⟨hfair i hi, hfair i hi⟩) hready hbegan hrun

/-- **In every run the game stays on the map and every frame can be drawn**, in games that were set
up and in games that were loaded, wherever the mouse is, whatever is selected and whatever is
animated. -/
theorem every_frame_drawn (hcodec : codec.Exact)
    (hsaves : ∀ file ∈ saves.files, file.Readable codec ∧ LoadsPlaced codec file.data)
    {app app' : AppState} (hstart : start draws saves = .ok app) {inputs : List FrameInput}
    (hfair : ∀ i ∈ inputs, i.Fair codec)
    (hrun : Runs.run (appStep codec queue) app inputs = some app') :
    app'.state.Placed ∧
      ∀ (measureText : String → ℤ → ℤ) (animator : Rendering.UnitAnimator F)
        (hovered : Option TileCoord) (lingers : Bool),
        (∀ t, hovered = some t → InBounds t.row t.col appMapRows appMapCols) →
        ∃ frame, renderGameFrame measureText animator app' hovered lingers = .ok frame := by
  obtain ⟨hready, hplaced⟩ := onMap_of_run hcodec hsaves hstart hfair hrun
  refine ⟨hplaced.game, fun measureText animator hovered lingers hin => ?_⟩
  refine renderGameFrame_ok measureText animator hready.kept.sound hplaced.game hready.selects
    (fun t ht => ?_) lingers
  rw [hready.kept.size.height, hready.kept.size.width]
  exact hin t ht

/-- The frames of a game that was loaded. -/
theorem playFrames_drawn : ∃ app' : AppState, app'.state.Placed ∧
    ∀ (measureText : String → ℤ → ℤ) (animator : Rendering.UnitAnimator ℚ)
      (hovered : Option TileCoord) (lingers : Bool),
      (∀ t, hovered = some t → InBounds t.row t.col appMapRows appMapCols) →
      ∃ frame, renderGameFrame measureText animator app' hovered lingers = .ok frame := by
  obtain ⟨m, s, hdemo⟩ := exists_savedDemo
  obtain ⟨started, app', hstart, hrun⟩ := hdemo.reached
  obtain ⟨fresh, hfresh, hsetup⟩ := hdemo.setUp
  have hready : Ready (Codec.only m) fresh :=
    ready_of_start (fun file hfile => by cases hfile) hfresh
  have hplaced : s.Placed :=
    (placed_of_start hfresh).setupDemoState hready.kept.sound hready.kept.size hsetup
  exact ⟨app', every_frame_drawn (Codec.only_exact m)
    (fun file hfile => ⟨hdemo.readable file hfile, by
      rw [List.mem_singleton.1 hfile]
      exact loadsPlaced_of_serialize (Codec.only_exact m) hdemo.sound hplaced
        (serialize_only hdemo.message)⟩)
    hstart (playFrames_fair (Codec.only_cutsShort m)) hrun⟩

end AppState

end My4X
