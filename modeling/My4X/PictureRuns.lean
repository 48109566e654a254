/-
**Whom the player gets to see.**

What a frame draws goes by the view of the player, and the view is kept beside the units and cities.
This module puts the two together: in every run of the application the units that are drawn, on the
map as on the map in small, are exactly those of the player and those that are in sight of one of
his units or cities, but for what only the city sees that was captured last.

Main results:

* `My4X.AppState.units_drawn_in_sight` — **in every run exactly the units in sight are drawn**.
-/

import My4X.FogRuns
import My4X.Rendering

set_option relaxedAutoImplicit false
set_option autoImplicit false

namespace My4X

open Collecting

namespace AppState

open GameState

variable {codec : Codec} {draws : ℕ → TerrainType} {saves : SavesDirectory} {queue : CostQueue}
  {F : Type}

/-- A unit that is the player's or in sight. -/
def InView (s : GameState) (late : Option ℕ) (u : Unit) : Prop :=
  u.factionId = playerFactionId ∨
    FogOfWar.InSight playerFactionId s.units (s.citiesBut late) u.row u.col

/-- A unit sees the tile it stands on. -/
theorem inSight_own {s : GameState} (h : s.Sound) {p : OwnedUnit} (hp : p ∈ s.units.list)
    (hown : p.unit.factionId = playerFactionId) (cities : List City) :
    FogOfWar.InSight playerFactionId s.units cities p.unit.row p.unit.col := by
  have hsight : 0 ≤ p.unit.template.sightRange := by
    have htemplate := h.templates p hp
    simp only [builtinTemplates, List.mem_cons, List.not_mem_nil, or_false] at htemplate
    rcases htemplate with htemplate | htemplate | htemplate <;> rw [htemplate] <;> decide
  refine Or.inl ⟨p, hp, hown, ?_⟩
  rw [hexDistance_self]
  exact hsight

/-- What the player sees of the tile of a unit. -/
theorem exists_shown {s : GameState} (h : s.Sound) {late : Option ℕ} (hview : s.ViewOf late)
    {p : OwnedUnit} (hp : p ∈ s.units.list) :
    ∃ seen, FogOfWar.shown (some s.fog) playerFactionId p.unit.row p.unit.col = .ok seen ∧
      (seen = .visible ↔
        FogOfWar.InSight playerFactionId s.units (s.citiesBut late) p.unit.row p.unit.col) := by
  obtain ⟨seen, hseen, -⟩ := h.fits.getVisibility playerFactionId (h.inside p hp)
  refine ⟨seen, hseen, ?_⟩
  have hshows := hview.shows p.unit.row p.unit.col (h.inside p hp)
  rw [hseen, Except.ok.injEq] at hshows
  exact hshows

/-- How a unit in view is drawn: where the animator shows it, or in the middle of its tile. -/
def DrawnAs (s : GameState) (m : Rendering.MarkedUnit F) (d : Rendering.DrawnUnit F) : Prop :=
  ∃ center, Rendering.resolveUnitCenter s.map m = .ok center ∧
    d = Rendering.unitPicture s.factionRegistry s.diplomacy playerFactionId center m

/-- A unit is hidden on the map exactly when it is not in view. -/
theorem hides_inView {s : GameState} (h : s.Sound) {late : Option ℕ} (hview : s.ViewOf late)
    {p : OwnedUnit} (hp : p ∈ s.units.list) :
    ∃ hidden, Rendering.hides (some s.fog) playerFactionId p.unit.factionId p.unit.row p.unit.col =
      .ok hidden ∧ (hidden = true ↔ ¬ InView s late p.unit) := by
  obtain ⟨seen, hseen, hshown⟩ := exists_shown h hview hp
  rw [Rendering.hides, InView]
  by_cases hown : p.unit.factionId = playerFactionId
  · rw [if_neg (not_not.2 hown)]
    exact ⟨_, rfl, iff_of_false Bool.false_ne_true (not_not.2 (Or.inl hown))⟩
  · rw [if_pos hown, hseen, Except.ok_bind, or_iff_right hown]
    exact ⟨_, rfl, decide_eq_true_iff.trans (not_congr hshown)⟩

/-- **A unit is drawn on the map exactly when it is in view.** -/
theorem drawUnit_inView {s : GameState} (h : s.Sound) {late : Option ℕ} (hview : s.ViewOf late)
    {m : Rendering.MarkedUnit F} {p : OwnedUnit} (hp : p ∈ s.units.list) (hunit : p.unit = m.unit) :
    ∃ ds, Rendering.drawUnit s.map s.factionRegistry s.diplomacy playerFactionId (some s.fog) m =
        .ok ds ∧ ∀ d, d ∈ ds ↔ InView s late m.unit ∧ DrawnAs s m d := by
  obtain ⟨hidden, hhides, hiff⟩ := hides_inView h hview hp
  have hliving := h.living p hp
  have hinside := h.inside p hp
  rw [hunit] at hhides hiff hliving hinside
  rw [Rendering.drawUnit, if_neg (not_not.2 hliving), hhides, Except.ok_bind]
  cases hidden with
  | true =>
      refine ⟨_, rfl, fun d => ?_⟩
      exact iff_of_false List.not_mem_nil fun hd => hiff.1 rfl hd.1
  | false =>
      have hin : InView s late m.unit := not_not.1 fun hout => Bool.false_ne_true (hiff.2 hout)
      obtain ⟨center, hcenter⟩ := Rendering.exists_resolveUnitCenter hinside
      rw [if_neg Bool.false_ne_true, hcenter]
      refine ⟨_, rfl, fun d => ?_⟩
      rw [List.mem_singleton, and_iff_right hin, DrawnAs, hcenter]
      constructor
      · rintro rfl
        exact ⟨_, rfl, rfl⟩
      · rintro ⟨center', hcenter', rfl⟩
        rw [Except.ok.inj hcenter']

/-- **A unit is marked on the map in small exactly when it is in view.** -/
theorem minimap_drawUnit_inView {s : GameState} (h : s.Sound) {late : Option ℕ}
    (hview : s.ViewOf late) {p : OwnedUnit} (hp : p ∈ s.units.list) :
    ∃ ms, Minimap.drawUnit s.factionRegistry (some s.fog) playerFactionId p.unit = .ok ms ∧
      ∀ m, m ∈ ms ↔ InView s late p.unit ∧
        m = ⟨p.unit.row, p.unit.col, s.factionRegistry.findFaction p.unit.factionId⟩ := by
  obtain ⟨seen, hseen, hshown⟩ := exists_shown h hview hp
  have hview' : InView s late p.unit ↔ seen = .visible := by
    refine ⟨fun hin => hshown.2 ?_, fun hvisible => Or.inr (hshown.1 hvisible)⟩
    rcases hin with hown | hin
    · exact inSight_own h hp hown _
    · exact hin
  rw [Minimap.drawUnit, if_neg (not_not.2 (h.living p hp)), hseen, Except.ok_bind]
  by_cases hvisible : seen = .visible
  · rw [if_neg (not_not.2 hvisible)]
    refine ⟨_, rfl, fun m => ?_⟩
    rw [List.mem_singleton, and_iff_right (hview'.2 hvisible)]
  · rw [if_pos hvisible]
    refine ⟨_, rfl, fun m => ?_⟩
    exact iff_of_false List.not_mem_nil fun hm => hvisible (hview'.1 hm.1)

theorem mem_marked {animator : Rendering.UnitAnimator F} {units : UnitVec} {selectedIndex : ℤ}
    {m : Rendering.MarkedUnit F} (h : m ∈ Rendering.marked animator units selectedIndex) :
    ∃ p ∈ units.list, p.unit = m.unit := by
  obtain ⟨⟨p, i⟩, hp, rfl⟩ := List.mem_map.1 h
  exact ⟨p, List.fst_mem_of_mem_zipIdx hp, rfl⟩

/-- **In every run exactly the units in view are drawn**, on the map and on the map in small: those
of the player, and those in sight of his units and his cities, but for what only the city sees that
was captured last.  On the map they are drawn where the animator shows them. -/
theorem units_drawn_in_sight (hcodec : codec.Exact)
    (hsaves : ∀ file ∈ saves.files, file.Readable codec) {app app' : AppState}
    (hstart : start draws saves = .ok app) {inputs : List FrameInput}
    (hfair : ∀ i ∈ inputs, i.Fair codec)
    (hrun : Runs.run (appStep codec queue) app inputs = some app')
    (hentered : app'.gameInitialized = true) (hfoggy : app'.debugNoFog = false)
    (animator : Rendering.UnitAnimator F) :
    ∃ late drawn marks, app'.state.ViewOf late ∧ (∀ k, late = some k → app'.CapturedLast k) ∧
      Rendering.drawUnits app'.state app'.selectedUnit playerFactionId app'.shownFog animator =
        .ok drawn ∧
      Minimap.drawUnits app'.state app'.shownFog playerFactionId = .ok marks ∧
      (∀ d, d ∈ drawn ↔ ∃ m ∈ Rendering.marked animator app'.state.units app'.selectedUnit,
        InView app'.state late m.unit ∧ DrawnAs app'.state m d) ∧
      ∀ m, m ∈ marks ↔ ∃ p ∈ app'.state.units.list, InView app'.state late p.unit ∧
        m = ⟨p.unit.row, p.unit.col,
          app'.state.factionRegistry.findFaction p.unit.factionId⟩ := by
  obtain ⟨hready, hviews⟩ := of_run (P := fun i => i.Fair codec) (I := Views) hcodec
    (fun i _ _ hi hkept ha hchange => ha.change hkept hi hchange)
    (fun i hi => ⟨hfair i hi, hfair i hi⟩) (ready_of_start hsaves hstart) (views_of_start hstart)
    hrun
  obtain ⟨late, hview, hlast⟩ := hviews.shown hentered
  have hsound := hready.kept.sound
  have hfog : app'.shownFog = some app'.state.fog := if_neg (by simp [hfoggy])
  -- on the map
  have hunit : ∀ m ∈ Rendering.marked animator app'.state.units app'.selectedUnit, ∃ ds,
      Rendering.drawUnit app'.state.map app'.state.factionRegistry app'.state.diplomacy
        playerFactionId (some app'.state.fog) m = .ok ds ∧
        ∀ d, d ∈ ds ↔ InView app'.state late m.unit ∧ DrawnAs app'.state m d := by
    intro m hm
    obtain ⟨p, hp, hunit⟩ := mem_marked hm
    exact drawUnit_inView hsound hview hp hunit
  obtain ⟨drawn, hdrawn⟩ := exists_collect fun q hq => (hunit q hq).imp fun _ h => h.1
  -- on the map in small
  have hmark : ∀ u ∈ app'.state.units.list.map (·.unit), ∃ ms,
      Minimap.drawUnit app'.state.factionRegistry (some app'.state.fog) playerFactionId u = .ok ms ∧
      ∀ m, m ∈ ms ↔ InView app'.state late u ∧
        m = ⟨u.row, u.col, app'.state.factionRegistry.findFaction u.factionId⟩ := by
    intro u hu
    obtain ⟨p, hp, rfl⟩ := List.mem_map.1 hu
    exact minimap_drawUnit_inView hsound hview hp
  obtain ⟨marks, hmarks⟩ := exists_collect fun u hu => (hmark u hu).imp fun _ h => h.1
  refine ⟨late, drawn, marks, hview, hlast, ?_, ?_, fun d => ?_, fun m => ?_⟩
  · rw [hfog]
    exact hdrawn
  · rw [hfog]
    exact hmarks
  · rw [mem_of_collect hdrawn]
    refine exists_congr fun q => and_congr_right fun hq => ?_
    obtain ⟨ds, hds, hmem⟩ := hunit q hq
    rw [← hmem d]
    refine ⟨?_, fun hd => ⟨ds, hds, hd⟩⟩
    rintro ⟨ds', hds', hd⟩
    rw [hds] at hds'
    exact Except.ok.inj hds' ▸ hd
  · rw [mem_of_collect hmarks]
    constructor
    · rintro ⟨u, hu, ms, hms, hm⟩
      obtain ⟨ms', hms', hmem⟩ := hmark u hu
      rw [hms] at hms'
      obtain rfl := Except.ok.inj hms'
      obtain ⟨p, hp, rfl⟩ := List.mem_map.1 hu
      exact ⟨p, hp, (hmem m).1 hm⟩
    · rintro ⟨p, hp, hm⟩
      have hu := List.mem_map_of_mem (f := (·.unit)) hp
      obtain ⟨ms, hms, hmem⟩ := hmark p.unit hu
      exact ⟨p.unit, hu, ms, hms, (hmem m).2 hm⟩

/-- The units that are drawn of a game that was entered and saved. -/
theorem savedGame_drawn : ∃ app' : AppState, ∃ late drawn marks,
    app'.state.ViewOf late ∧ (∀ k, late = some k → app'.CapturedLast k) ∧
      Rendering.drawUnits app'.state app'.selectedUnit playerFactionId app'.shownFog
        (showsOne 0) = .ok drawn ∧
      Minimap.drawUnits app'.state app'.shownFog playerFactionId = .ok marks ∧
      (∀ d, d ∈ drawn ↔ ∃ m ∈ Rendering.marked (showsOne 0) app'.state.units app'.selectedUnit,
        InView app'.state late m.unit ∧ DrawnAs app'.state m d) ∧
      ∀ m, m ∈ marks ↔ ∃ p ∈ app'.state.units.list, InView app'.state late p.unit ∧
        m = ⟨p.unit.row, p.unit.col,
          app'.state.factionRegistry.findFaction p.unit.factionId⟩ := by
  obtain ⟨codec, started, s, app₃, app₄, t, hcodec, hsound, hstart, henter, hsaved, -⟩ :=
    saveAndLoad_run
  exact ⟨savedGame codec s, units_drawn_in_sight hcodec (fun file hfile => by cases hfile) hstart
    (fun k hk => saveAndLoad_fair k (List.mem_append_left _ (List.mem_append_left _ hk))) hsaved rfl
    rfl (showsOne 0)⟩

end AppState

end My4X
