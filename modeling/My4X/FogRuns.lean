/-
**What the player sees in the application.**

The view of the player is kept beside the units and the cities, and is computed anew after a move,
an attack, the end of a turn and a load.  A capture comes after the view has been computed for the
move that leads to it, so until the next time the captured city sees nothing.  This module shows
that this is the only way in which the view is ever out of date, and that what the player has seen
of a game is not forgotten until another game is loaded.

Main definitions:

* `My4X.GameState.ShowsSight` — the player sees exactly what is in sight of his units and some
  cities;
* `My4X.GameState.ViewOf` — the view is out of date for one captured city at most;
* `My4X.AppState.CapturedLast` — a city is the one that was captured last.

Main results:

* `My4X.FogOfWar.Fits.seen` — what a view that is computed anew shows;
* `My4X.AppState.fog_shows_sight` — **in every run the player sees exactly what is in sight**, but
  for what only the city sees that was captured last;
* `My4X.AppState.explored_stays` — **nothing the player has seen is forgotten** until a game is
  loaded.
-/

import My4X.LoadedGames

set_option relaxedAutoImplicit false
set_option autoImplicit false

namespace My4X

/-! ### Views that are computed anew -/

namespace FogOfWar

/-- What a view that is computed anew shows. -/
theorem Fits.seen {fog fog' : FogOfWar} {map : Map} (h : fog.Fits map) {factionId : FactionId}
    {units : UnitVec} {cities : List City}
    (hfog : fog.recalculate factionId units cities map = .ok fog') {row col : ℤ}
    (ht : InBounds row col map.height map.width) :
    ∃ before after, fog.getVisibility factionId row col = .ok before ∧
      fog'.getVisibility factionId row col = .ok after ∧
      Seen (InSight factionId units cities row col) before after := by
  obtain ⟨view, hview, hmarked⟩ := h.recalculate_grid factionId units cities
  obtain rfl := Except.ok.inj (hview.symm.trans hfog)
  obtain ⟨before, hbefore, hentry⟩ := h.getVisibility factionId ht
  have hafter : ∀ after, view[fog.index row col]? = some after →
      FogOfWar.getVisibility { fog with grids := fog.grids.insert factionId view } factionId
      row col =
        .ok after := by
    intro after hget
    have hindex : FogOfWar.index { fog with grids := fog.grids.insert factionId view } row col =
        fog.index row col := rfl
    rw [FogOfWar.getVisibility, AList.lookup_insert]
    dsimp only
    rw [hindex, hget]
  by_cases hsight : InSight factionId units cities row col
  · exact ⟨before, .visible, hbefore, hafter _ (hmarked.inside row col ht hsight),
      seen_visible hsight before⟩
  · refine ⟨before, _, hbefore, hafter _ ?_, seen_demoted hsight before⟩
    rw [hmarked.outside row col ht hsight, demote, List.getElem?_map, hentry]
    rfl

/-- The views of the other factions stay as they are. -/
theorem recalculate_others {fog fog' : FogOfWar} {map : Map} (h : fog.Fits map)
    {factionId f : FactionId} {units : UnitVec} {cities : List City}
    (hfog : fog.recalculate factionId units cities map = .ok fog') (hf : f ≠ factionId) :
    fog'.grids.lookup f = fog.grids.lookup f := by
  obtain ⟨view, hview, -⟩ := h.recalculate_grid factionId units cities
  obtain rfl := Except.ok.inj (hview.symm.trans hfog)
  exact AList.lookup_insert_ne hf

/-- What a city sees depends on its owner and its tiles alone. -/
theorem inSight_congr {f : FactionId} {units : UnitVec} {cities cities' : List City}
    (h : cities'.map (fun c => (c.factionId, c.tiles)) = cities.map fun c => (c.factionId, c.tiles))
    (row col : ℤ) : InSight f units cities' row col ↔ InSight f units cities row col := by
  have hsees : ∀ cities : List City,
      (∃ city ∈ cities, city.ownedBy f = true ∧
        ∃ t ∈ city.tiles, My4X.hexDistance t.row t.col row col ≤ citySightRange) ↔
      ∃ sees ∈ cities.map fun c => (c.factionId, c.tiles), sees.1.toInt = (f.toNat : ℤ) ∧
        ∃ t ∈ sees.2, My4X.hexDistance t.row t.col row col ≤ citySightRange := by
    intro cities
    simp only [List.mem_map, exists_exists_and_eq_and, City.ownedBy, decide_eq_true_eq]
  rw [InSight, InSight, hsees cities', hsees cities, h]

/-- A city of another faction sees nothing for a faction. -/
theorem inSight_eraseIdx {f : FactionId} {units : UnitVec} {cities : List City} {k : ℕ}
    {city : City}
    (hcity : cities[k]? = some city) (hother : city.ownedBy f = false) (row col : ℤ) :
    InSight f units (cities.eraseIdx k) row col ↔ InSight f units cities row col := by
  refine or_congr Iff.rfl ⟨?_, ?_⟩
  · rintro ⟨c, hc, hsees⟩
    exact ⟨c, List.mem_of_mem_eraseIdx hc, hsees⟩
  · rintro ⟨c, hc, howned, hsees⟩
    refine ⟨c, ?_, howned, hsees⟩
    rw [List.mem_eraseIdx_iff_getElem?]
    obtain ⟨j, hj⟩ := List.mem_iff_getElem?.1 hc
    refine ⟨j, ?_, hj⟩
    rintro rfl
    rw [hcity] at hj
    obtain rfl := Option.some_inj.1 hj
    rw [hother] at howned
    cases howned

end FogOfWar

/-! ### The view and the sight -/

namespace GameState

/-- The cities, but for the one at an index. -/
def citiesBut (s : GameState) (late : Option ℕ) : List City := late.elim s.cities s.cities.eraseIdx

/-- **The player sees exactly what is in sight** of his units and of some cities. -/
def ShowsSight (s : GameState) (cities : List City) : Prop :=
  ∀ row col, InBounds row col s.map.height s.map.width →
    (s.fog.getVisibility playerFactionId row col = .ok .visible ↔
      FogOfWar.InSight playerFactionId s.units cities row col)

/-- **The view is out of date for one city of the player at most.** -/
structure ViewOf (s : GameState) (late : Option ℕ) : Prop where
  captured : ∀ k, late = some k → ∃ city, s.cities[k]? = some city ∧
    city.ownedBy playerFactionId = true
  shows : s.ShowsSight (s.citiesBut late)

/-- A view that has just been computed is up to date. -/
theorem viewOf_recalculate {s : GameState} {fog : FogOfWar} (hfits : fog.Fits s.map)
    (hfog : fog.recalculate playerFactionId s.units s.cities s.map = .ok s.fog) :
    s.ViewOf none where
  captured k hk := by cases hk
  shows row col ht := by
    obtain ⟨before, after, -, hafter, hseen⟩ := hfits.seen hfog ht
    rw [hafter, Except.ok.injEq]
    exact hseen.visible_iff

/-- A view that has just been computed by name. -/
theorem viewOf_recalculateFog {s s' : GameState} (hsound : s.Sound)
    (hfog : s.recalculateFog playerFactionId = .ok s') : s'.ViewOf none := by
  obtain ⟨fog, hview, hstate⟩ := Except.bind_eq_ok.1 hfog
  obtain rfl := Except.ok.inj hstate
  exact viewOf_recalculate hsound.fits hview

/-- What the view shows does not depend on what the cities build. -/
theorem ViewOf.setCity {s : GameState} {late : Option ℕ} (h : s.ViewOf late) {k : ℕ} {city : City}
    (hcity : s.cities[k]? = some city) (queue : BuildQueue) :
    (s.setCity k (city.setBuildQueue queue)).ViewOf late := by
  have hsees : (s.setCity k (city.setBuildQueue queue)).cities.map
    (fun c => (c.factionId, c.tiles)) =
      s.cities.map fun c => (c.factionId, c.tiles) := by
    have hlt := (List.getElem?_eq_some_iff.1 hcity).1
    rw [GameState.setCity, List.map_set]
    refine List.ext_getElem? fun j => ?_
    rw [List.getElem?_set, List.length_map, List.getElem?_map]
    split
    · next heq =>
        rw [← heq, hcity]
        rfl
    · rfl
  have hbut : ((s.setCity k (city.setBuildQueue queue)).citiesBut late).map
        (fun c => (c.factionId, c.tiles)) =
      (s.citiesBut late).map fun c => (c.factionId, c.tiles) := by
    cases late with
    | none => exact hsees
    | some j =>
        rw [citiesBut, citiesBut, Option.elim_some, Option.elim_some, ← List.eraseIdx_map,
          ← List.eraseIdx_map, hsees]
  refine ⟨fun j hj => ?_, fun row col ht => ?_⟩
  · obtain ⟨c, hc, howned⟩ := h.captured j hj
    have hone := congrArg (fun sees => sees[j]?) hsees
    simp only [List.getElem?_map, hc, Option.map_some, Option.map_eq_some_iff,
      Prod.mk.injEq] at hone
    obtain ⟨c', hc', hfaction, -⟩ := hone
    refine ⟨c', hc', ?_⟩
    rw [City.ownedBy, hfaction]
    exact howned
  · rw [FogOfWar.inSight_congr hbut]
    exact h.shows row col ht

/-- Which city has its centre on a tile depends on the centres of the cities alone. -/
theorem findCityCenterAt_congr_centers {s s' : GameState}
    (h : s'.cities.map (fun c => (c.centerRow, c.centerCol)) =
      s.cities.map fun c => (c.centerRow, c.centerCol)) (row col : ℤ) :
    CaptureAction.findCityCenterAt s' row col = CaptureAction.findCityCenterAt s row col := by
  have hfind : ∀ cities : List City,
      cities.findIdx? (fun c => decide (c.centerRow = row ∧ c.centerCol = col)) =
        (cities.map fun c => (c.centerRow, c.centerCol)).findIdx? fun place =>
          decide (place.1 = row ∧ place.2 = col) := by
    intro cities
    rw [List.findIdx?_map]
    rfl
  rw [CaptureAction.findCityCenterAt, CaptureAction.findCityCenterAt, hfind, hfind, h]

/-- A city with the same centre in place of another leaves the centres as they are. -/
theorem findCityCenterAt_setCity {s : GameState} {k : ℕ} {city city' : City}
    (hcity : s.cities[k]? = some city) (hrow : city'.centerRow = city.centerRow)
    (hcol : city'.centerCol = city.centerCol) (row col : ℤ) :
    CaptureAction.findCityCenterAt (s.setCity k city') row col =
      CaptureAction.findCityCenterAt s row col := by
  refine findCityCenterAt_congr_centers ?_ row col
  rw [GameState.setCity, List.map_set, hrow, hcol]
  refine List.ext_getElem? fun j => ?_
  rw [List.getElem?_set, List.length_map, List.getElem?_map]
  split
  · next heq =>
      have hlt := (List.getElem?_eq_some_iff.1 hcity).1
      rw [← heq, if_pos hlt, hcity]
      rfl
  · rfl

/-- **A capture leaves the view out of date for the captured city alone**: the one with its centre
on the tile of the unit. -/
theorem ViewOf.capture {s s' : GameState} (h : s.ViewOf none) {a : CaptureAction}
    (hex : (GameAction.capture a).execute s = .ok (s', true)) {p : OwnedUnit}
    (hp : s.units.get? a.unitIndex = some p) (hplayer : p.unit.factionId = playerFactionId) :
    ∃ k, s'.ViewOf (some k) ∧
      CaptureAction.findCityCenterAt s' p.unit.row p.unit.col = some k := by
  obtain ⟨r, hcapture, hdone⟩ := GameAction.execute_capture.1 hex
  obtain ⟨-, ⟨hnot, -, -⟩ | ⟨-, -, q, i, city, htaken, rfl⟩⟩ := CaptureAction.execute_cases hcapture
  · rw [hdone] at hnot
    cases hnot
  · have hq := htaken.unit
    rw [hp] at hq
    obtain rfl := Option.some_inj.1 hq
    have hlt : i < s.cities.length := (List.getElem?_eq_some_iff.1 htaken.get).1
    have hother : city.ownedBy playerFactionId = false := by
      by_contra howned
      rw [Bool.not_eq_false] at howned
      exact htaken.enemy ((City.owner_of_ownedBy howned).trans hplayer.symm)
    refine ⟨i, ⟨fun k hk => ?_, fun row col ht => ?_⟩, ?_⟩
    · obtain rfl := Option.some_inj.1 hk
      refine ⟨_, List.getElem?_set_self hlt, ?_⟩
      rw [City.ownedBy, CaptureAction.captured, hplayer]
      rfl
    · have herased : (s.setCity i (CaptureAction.captured city p.unit)).citiesBut (some i) =
          s.cities.eraseIdx i := by
        rw [citiesBut, Option.elim_some, GameState.setCity, List.eraseIdx_set_eq]
      rw [herased, FogOfWar.inSight_eraseIdx htaken.get hother]
      exact h.shows row col ht
    · refine (findCityCenterAt_setCity htaken.get ?_ ?_ _ _).trans htaken.index
      · rfl
      · rfl

end GameState

/-! ### Changes -/

namespace AppState

open GameState

variable {codec : Codec} {draws : ℕ → TerrainType} {saves : SavesDirectory} {queue : CostQueue}

/-- **A city is the one that was captured last**: the log ends with its capture, in this turn. -/
def CapturedLast (app : AppState) (k : ℕ) : Prop :=
  ∃ e, app.combatLog.allEvents.getLast? = some e ∧ e.isCaptureEvent = true ∧
    e.turn = app.state.turn ∧
    CaptureAction.findCityCenterAt app.state e.tileRow e.tileCol = some k

/-- An event that is appended is the last one of the log. -/
theorem getLast?_append (log : CombatLog) (event : CombatEvent) :
    (log.append event).allEvents.getLast? = some event := by
  have hcapacity := Nat.zero_lt_of_lt log.head_lt
  rw [CombatLog.allEvents_append, List.rtake, List.getLast?_drop, List.length_append,
    List.length_singleton, if_neg (by omega), List.getLast?_append]
  rfl

/-- **The player alone has a view, and it is out of date for the city at most that was captured
last.** Until the game is entered there are no factions. -/
structure Views (app : AppState) : Prop where
  others : ∀ f, f ≠ playerFactionId → app.state.fog.grids.lookup f = none
  shown : app.gameInitialized = true →
    ∃ late, app.state.ViewOf late ∧ ∀ k, late = some k → app.CapturedLast k
  fresh : app.gameInitialized = false → app.state.factionRegistry = {}

/-- A change of nothing that matters to the view. -/
theorem Views.of_eq {app app' : AppState} (h : Views app) (hstate : app'.state = app.state)
    (hlog : app'.combatLog = app.combatLog)
    (hentered : app'.gameInitialized = app.gameInitialized) : Views app' where
  others := by
    rw [hstate]
    exact h.others
  shown hplaying := by
    obtain ⟨late, hview, hlast⟩ := h.shown (hentered.symm.trans hplaying)
    refine ⟨late, by rw [hstate]; exact hview, fun k hk => ?_⟩
    rw [CapturedLast, hstate, hlog]
    exact hlast k hk
  fresh := by
    rw [hstate, hentered]
    exact h.fresh

/-- The view of the player is computed anew. -/
theorem views_of_recalculate {app : AppState} (fog : FogOfWar) (hfits : fog.Fits app.state.map)
    (hothers : ∀ f, f ≠ playerFactionId → fog.grids.lookup f = none)
    (hfog : fog.recalculate playerFactionId app.state.units app.state.cities app.state.map =
      .ok app.state.fog) (hentered : app.gameInitialized = true) : Views app where
  others f hf := (FogOfWar.recalculate_others hfits hfog hf).trans (hothers f hf)
  shown _ := ⟨none, viewOf_recalculate hfits hfog, fun k hk => by cases hk⟩
  fresh hfresh := by
    rw [hentered] at hfresh
    cases hfresh

/-- **What the player does to the view.** -/
theorem Views.play {i : FrameInput} {app app' : AppState} (h : Views app) (hkept : Kept codec app)
    (hplaying : app.gameInitialized = true) (hplay : Play i app app') : Views app' := by
  cases hplay with
  | rests state log saves entered => exact h.of_eq state log entered
  | @acts action s fog events player executes view state reported quiet log saves entered =>
      have hrest := execute_rest executes
      have hfogs : s.fog = app.state.fog := by rw [hrest]
      have hsound := hkept.sound.execute executes
      cases view with
      | anew computed =>
          obtain ⟨fog', hview, hstate⟩ := Except.bind_eq_ok.1 computed
          obtain rfl : fog' = fog := congrArg GameState.fog (Except.ok.inj hstate)
          refine views_of_recalculate s.fog ?_ ?_ ?_ (entered.trans hplaying)
          · rw [state]
            exact hsound.fits
          · rw [hfogs]
            exact h.others
          · rw [state]
            exact hview
      | @late a capture same moved =>
          obtain rfl := capture
          obtain ⟨s₀, hsound₀, hfog₀⟩ := moved
          obtain ⟨p, hp, hplayer⟩ := player
          have hstate : app'.state = s := by rw [state, same]
          refine ⟨?_, fun _ => ?_, fun hfresh => ?_⟩
          · rw [hstate, hfogs]
            exact h.others
          · obtain ⟨k, hview, hcenter⟩ :=
              (viewOf_recalculateFog hsound₀ hfog₀).capture executes hp hplayer
            obtain ⟨e, rfl, hevent, hrow, hcol⟩ := reported.capture a p rfl hp
            refine ⟨some k, by rw [hstate]; exact hview, fun j hj => ?_⟩
            obtain rfl := Option.some_inj.1 hj
            refine ⟨e, ?_, hevent, ?_, ?_⟩
            · rw [log]
              exact getLast?_append app.combatLog e
            · rw [reported.turn e List.mem_cons_self, hstate, hrest]
            · rw [hstate, hrow, hcol]
              exact hcenter
          · rw [entered, hplaying] at hfresh
            cases hfresh
  | @orders k city queue found queued state log saves entered =>
      refine ⟨?_, fun _ => ?_, fun hfresh => ?_⟩
      · rw [state]
        exact h.others
      · obtain ⟨late, hview, hlast⟩ := h.shown hplaying
        refine ⟨late, by rw [state]; exact hview.setCity found queue, fun j hj => ?_⟩
        obtain ⟨e, he, hevent, hturn, hcenter⟩ := hlast j hj
        refine ⟨e, by rw [log]; exact he, hevent, by rw [state]; exact hturn, ?_⟩
        rw [state]
        refine (findCityCenterAt_setCity found ?_ ?_ _ _).trans hcenter
        · rfl
        · rfl
      · rw [entered, hplaying] at hfresh
        cases hfresh
  | ends completes log saves entered =>
      obtain ⟨s', hturn, hsound, hended⟩ := hkept.sound.processTurn
      obtain rfl := (Prod.mk.inj (completes.symm.trans hturn)).1
      refine views_of_recalculate app.state.fog ?_ h.others hended.view
        (entered.trans hplaying)
      rw [hended.map]
      exact hkept.sound.fits

/-- What is loaded has no views. -/
theorem fog_of_loadLatest {app : AppState} {i : FrameInput} {t : GameState}
    (h : loadLatest codec app i = .ok t) (f : FactionId) : t.fog.grids.lookup f = none := by
  obtain ⟨draws, proto, fresh, reg, hloaded⟩ := loaded_of_loadLatest h
  rw [hloaded.fog]
  rfl

/-- **What a change does to the view.** -/
theorem Views.change {i : FrameInput} {app app' : AppState} (h : Views app)
    (hkept : Kept codec app) (hfair : i.Fair codec) (hchange : Change codec i app app') :
    Views app' := by
  cases hchange with
  | rests state log saves entered => exact h.of_eq state log entered
  | plays playing play => exact h.play hkept playing play
  | saves playing asked state log saves entered =>
      exact h.of_eq state log (entered.trans playing.symm)
  | @loads t fog playing asked loaded view state log saves entered =>
      obtain ⟨fog', hview, hstate⟩ := Except.bind_eq_ok.1 view
      obtain rfl : fog' = fog := congrArg GameState.fog (Except.ok.inj hstate)
      refine views_of_recalculate t.fog ?_ (fun f _ => fog_of_loadLatest loaded f) ?_ entered
      · rw [state]
        exact (sound_of_loadLatest hkept hfair loaded).1.fits
      · rw [state]
        exact hview
  | begins fresh setUp log saves entered =>
      obtain ⟨s', hok, -, hmap, -, -, -, hview, -⟩ := setupDemoState_ok hkept.sound hkept.size
      obtain rfl := Except.ok.inj (setUp.symm.trans hok)
      rw [h.fresh fresh] at hview
      refine views_of_recalculate app.state.fog ?_ h.others hview entered
      rw [hmap]
      exact hkept.sound.fits

/-- Before the first frame nobody has a view. -/
theorem views_of_start {app : AppState} (hstart : start draws saves = .ok app) : Views app := by
  obtain ⟨state, hcreate, hstart⟩ := Except.bind_eq_ok.1 hstart
  obtain ⟨map, hmap, hcreate⟩ := Except.bind_eq_ok.1 hcreate
  obtain rfl := Except.ok.inj hcreate
  obtain rfl := Except.ok.inj hstart
  exact ⟨fun f _ => rfl, fun h => (by cases h), fun _ => rfl⟩

/-- **In every run the player sees exactly what is in sight** of his units and his cities, but for
what only the city sees that was captured last, when the log ends with its capture; no other faction
is given a view. -/
theorem fog_shows_sight (hcodec : codec.Exact)
    (hsaves : ∀ file ∈ saves.files, file.Readable codec) {app app' : AppState}
    (hstart : start draws saves = .ok app) {inputs : List FrameInput}
    (hfair : ∀ i ∈ inputs, i.Fair codec)
    (hrun : Runs.run (appStep codec queue) app inputs = some app')
    (hentered : app'.gameInitialized = true) :
    (∃ late, app'.state.ViewOf late ∧ ∀ k, late = some k → app'.CapturedLast k) ∧
      ∀ f, f ≠ playerFactionId → ∀ row col,
        app'.state.fog.getVisibility f row col = .ok .unexplored := by
  obtain ⟨-, hviews⟩ := of_run (P := fun i => i.Fair codec) (I := Views) hcodec
    (fun i _ _ hi hkept ha hchange => ha.change hkept hi hchange)
    (fun i hi => ⟨hfair i hi, hfair i hi⟩) (ready_of_start hsaves hstart) (views_of_start hstart)
    hrun
  refine ⟨hviews.shown hentered, fun f hf row col => ?_⟩
  rw [FogOfWar.getVisibility, hviews.others f hf]

/-- The view of a game that was entered and saved. -/
theorem savedGame_shows_sight : ∃ app' : AppState, app'.gameInitialized = true ∧
    (∃ late, app'.state.ViewOf late ∧ ∀ k, late = some k → app'.CapturedLast k) ∧
      ∀ f, f ≠ playerFactionId → ∀ row col,
        app'.state.fog.getVisibility f row col = .ok .unexplored := by
  obtain ⟨codec, started, s, app₃, app₄, t, hcodec, hsound, hstart, henter, hsaved, -⟩ :=
    saveAndLoad_run
  exact ⟨savedGame codec s, rfl, fog_shows_sight hcodec (fun file hfile => by cases hfile) hstart
    (fun k hk => saveAndLoad_fair k (List.mem_append_left _ (List.mem_append_left _ hk)))
    hsaved rfl⟩

/-! ### What has been explored -/

/-- The player knows a tile. -/
def Explored (s : GameState) (row col : ℤ) : Prop :=
  ∃ seen, s.fog.getVisibility playerFactionId row col = .ok seen ∧ seen ≠ .unexplored

/-- What a view has explored, a later one has. -/
theorem explored_recalculate {s : GameState} (s' : GameState) (hfits : s.fog.Fits s'.map)
    (hfog : s.fog.recalculate playerFactionId s'.units s'.cities s'.map = .ok s'.fog) {row col : ℤ}
    (ht : InBounds row col s'.map.height s'.map.width) (h : Explored s row col) :
    Explored s' row col := by
  obtain ⟨before, after, hbefore, hafter, hseen⟩ := hfits.seen hfog ht
  obtain ⟨seen, hsame, hknown⟩ := h
  obtain rfl := Except.ok.inj (hsame.symm.trans hbefore)
  exact ⟨after, hafter, fun hnone => hknown (hseen.unexplored_iff.1 hnone).2⟩

/-- **What the player does makes him forget nothing.** -/
theorem Play.explored {i : FrameInput} {app app' : AppState} (hplay : Play i app app')
    (hkept : Kept codec app)
    {row col : ℤ} (ht : InBounds row col appMapRows appMapCols) (h : Explored app.state row col) :
    Explored app'.state row col := by
  rw [← hkept.size.height, ← hkept.size.width] at ht
  cases hplay with
  | rests state log saves entered =>
      rw [state]
      exact h
  | @acts action s fog events player executes view state reported quiet log saves entered =>
      have hrest := execute_rest executes
      have hmap : s.map = app.state.map := by rw [hrest]
      have hfogs : s.fog = app.state.fog := by rw [hrest]
      have hknown : Explored s row col := by
        rw [Explored, hfogs]
        exact h
      rw [state]
      cases view with
      | anew computed =>
          obtain ⟨fog', hview, hstate⟩ := Except.bind_eq_ok.1 computed
          obtain rfl : fog' = fog := congrArg GameState.fog (Except.ok.inj hstate)
          refine explored_recalculate { s with fog := fog' }
            (hkept.sound.execute executes).fits hview ?_ hknown
          rw [hmap]
          exact ht
      | late capture same moved =>
          rw [same]
          exact hknown
  | orders found queued state log saves entered =>
      rw [state]
      exact h
  | ends completes log saves entered =>
      obtain ⟨s', hturn, hsound, hended⟩ := hkept.sound.processTurn
      obtain rfl := (Prod.mk.inj (completes.symm.trans hturn)).1
      refine explored_recalculate _ ?_ hended.view ?_ h
      · rw [hended.map]
        exact hkept.sound.fits
      · rw [hended.map]
        exact ht

/-- **Nothing the player has seen of a game is forgotten** until a game is loaded. -/
theorem explored_stays (hcodec : codec.Exact)
    (hsaves : ∀ file ∈ saves.files, file.Readable codec) {started app app' : AppState}
    (hstart : start draws saves = .ok started) {before after : List FrameInput}
    (hfair : ∀ i ∈ before ++ after, i.Fair codec)
    (hbefore : Runs.run (appStep codec queue) started before = some app)
    (hentered : app.gameInitialized = true)
    (hafter : Runs.run (appStep codec queue) app after = some app')
    (hloads : ∀ i ∈ after, i.f9 = false) {row col : ℤ}
    (ht : InBounds row col appMapRows appMapCols) (h : Explored app.state row col) :
    Explored app'.state row col := by
  obtain ⟨hready, -⟩ := of_run (P := fun _ => True) (I := fun _ => True) hcodec
    (fun _ _ _ _ _ _ _ => trivial)
    (fun i hi => ⟨hfair i (List.mem_append_left _ hi), trivial⟩) (ready_of_start hsaves hstart)
    trivial hbefore
  refine (of_run (P := fun i => i.f9 = false)
    (I := fun x => x.gameInitialized = true ∧ Explored x.state row col) hcodec
    (fun i x x' hi hkept hx hchange => ?_)
    (fun i hi => ⟨hfair i (List.mem_append_right _ hi), hloads i hi⟩) hready ⟨hentered, h⟩
    hafter).2.2
  obtain ⟨hplaying, hknown⟩ := hx
  cases hchange with
  | rests state log saves entered =>
      rw [state]
      exact ⟨entered.trans hplaying, hknown⟩
  | plays playing play => exact ⟨play.rest.2.trans hplaying, play.explored hkept ht hknown⟩
  | saves playing asked state log saves entered =>
      rw [state]
      exact ⟨entered, hknown⟩
  | loads playing asked loaded view state log saves entered =>
      rw [hi] at asked
      cases asked
  | begins fresh setUp log saves entered =>
      rw [hplaying] at fresh
      cases fresh

/-- The capital of a new game stays explored when the turn ends. -/
theorem endTurn_explored : ∃ app' : AppState, Explored app'.state 10 5 := by
  obtain ⟨started, s, hstart, hsound, hsize, ⟨capital, hcapital, howned, htile⟩,
    ⟨fog, hfits, hview⟩, henter⟩ := enterGame_run fun _ => .plains
  have hfair : ∀ i ∈ enterGame ++ [{ transitionEnds := true }, { space := true }],
      i.Fair hamletCodec := by
    simp only [enterGame, List.cons_append, List.nil_append, List.forall_mem_cons]
    exact ⟨fair_of_idle rfl rfl rfl, fair_of_idle rfl rfl rfl, fair_of_idle rfl rfl rfl,
      fair_of_idle rfl rfl rfl, fair_of_idle rfl rfl rfl, fun k hk => by cases hk⟩
  obtain ⟨app', hrun, -⟩ := run_ready (P := fun _ => True) (I := fun _ => True) hamletCodec_exact
    .firstLeast (fun _ _ _ _ _ _ _ => trivial) _ (fun k hk => ⟨hfair k hk, trivial⟩)
    (ready_of_start (fun file hfile => by cases hfile) hstart) trivial
  obtain ⟨app, hentered, hafter⟩ := Runs.run_append.1 hrun
  obtain rfl := Option.some_inj.1 ((henter _ _).symm.trans hentered)
  have hinside : InBounds 10 5 s.map.height s.map.width := by
    rw [hsize.height, hsize.width]
    decide
  have hsight : FogOfWar.InSight playerFactionId s.units s.cities 10 5 :=
    Or.inr ⟨capital, hcapital, howned, _, htile, by decide⟩
  have hshown := ((viewOf_recalculate hfits hview).shows 10 5 hinside).2 hsight
  exact ⟨app', explored_stays hamletCodec_exact (fun file hfile => by cases hfile) hstart hfair
    (henter _ _) rfl hafter (by decide) (by decide) ⟨.visible, hshown, by decide⟩⟩

end AppState

end My4X
