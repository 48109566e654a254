/-
**Sound states.**

The application plays one game after the other, by orders of the player, ends of turns and saves,
and nothing of it checks the state again.  This module says what every one of these keeps: the units
live, stand in the map and are registered, all that is in the state can be saved, and the view of
the player can be computed anew.

Main definitions:

* `My4X.City.Orderly` — a city that can be kept and saved;
* `My4X.GameState.Sound` — a sound state.

Main results:

* `My4X.GameState.Sound.execute` — **an action keeps a state sound**;
* `My4X.GameState.Sound.processTurn` — the end of a turn completes, and keeps it sound;
* `My4X.GameState.Sound.restored` — what is loaded of a sound state is sound.
-/

import My4X.Battles
import My4X.LocalTurn
import My4X.MapBounds
import My4X.RoundTrip

set_option relaxedAutoImplicit false
set_option autoImplicit false

namespace My4X

/-! ### What the application keeps -/

/-- **A city that the application can keep**: it is populated, and its orders are buildings of the
built-in factories. -/
structure City.Orderly (c : City) : Prop where
  population : 1 ≤ c.population
  orders : ∀ item ∈ c.buildQueue.queue, item.orderType = .building ∧
    ∃ f ∈ builtinFactories, item.factory = some f ∧ item.name = (f 0 0).name

namespace GameState

/-- **A sound state**: the units live, stand in the map, are registered and are of the built-in
types, the views fit the map, and the cities are orderly. -/
structure Sound (s : GameState) : Prop where
  living : ∀ p ∈ s.units.list, p.unit.isAlive = true
  inside : s.UnitsInside
  coherent : s.Coherent
  fits : s.fog.Fits s.map
  templates : ∀ p ∈ s.units.list, p.unit.template ∈ builtinTemplates
  cities : ∀ c ∈ s.cities, c.Orderly

/-- The format can name what is in it. -/
theorem Sound.savable {s : GameState} (h : s.Sound) : Savable s where
  units := h.templates
  orders c hc item hitem _ := ((h.cities c hc).orders item hitem).2
  population c hc := (h.cities c hc).population

/-- **A new state is sound.** -/
theorem sound_create {mapRows mapCols : ℤ} {draws : ℕ → TerrainType} {s : GameState}
    (h : GameState.create mapRows mapCols draws = .ok s) : s.Sound := by
  have hcoherent := coherent_create h
  obtain ⟨map, hmap, h⟩ := Except.bind_eq_ok.1 h
  obtain ⟨hheight, hwidth⟩ := Map.create_size hmap
  obtain rfl := Except.ok.inj h
  exact
    { living := fun p hp => by cases hp
      inside := fun p hp => by cases hp
      coherent := hcoherent
      fits := ⟨hheight.symm, hwidth.symm, fun _ _ hgrid => by cases hgrid⟩
      templates := fun p hp => by cases hp
      cities := fun c hc => by cases hc }

/-- A change of the cities, and of what is neither unit, map nor view. -/
theorem Sound.of_sameUnits {s s' : GameState} (h : s.Sound) (hunits : SameUnits s s')
    (hmap : s'.map = s.map) (hfog : s'.fog = s.fog) (hcities : ∀ c ∈ s'.cities, c.Orderly) :
    s'.Sound where
  living := by
    rw [hunits.units]
    exact h.living
  inside := (hunits.inside_iff hmap).2 h.inside
  coherent := hunits.coherent h.coherent
  fits := by
    rw [hfog, hmap]
    exact h.fits
  templates := by
    rw [hunits.units]
    exact h.templates
  cities := hcities

theorem Sound.addUnit {s : GameState} (h : s.Sound) {u : Unit} (halive : u.isAlive = true)
    (hin : InBounds u.row u.col s.map.height s.map.width) (htmpl : u.template ∈ builtinTemplates) :
    (s.addUnit u).1.Sound where
  living p hp := by
    rcases UnitVec.mem_push.1 hp with hp | rfl
    · exact h.living p hp
    · exact halive
  inside := inside_addUnit_iff.2 ⟨h.inside, hin⟩
  coherent := h.coherent.addUnit u
  fits := h.fits
  templates p hp := by
    rcases UnitVec.mem_push.1 hp with hp | rfl
    · exact h.templates p hp
    · exact htmpl
  cities := h.cities

theorem Sound.addCity {s : GameState} (h : s.Sound) {c : City} (hc : c.Orderly) :
    (s.addCity c).1.Sound := by
  refine h.of_sameUnits ⟨rfl, rfl⟩ rfl rfl fun c' hc' => ?_
  rcases List.mem_append.1 hc' with hc' | hc'
  · exact h.cities c' hc'
  · rw [List.mem_singleton.1 hc']
    exact ⟨hc.population, hc.orders⟩

theorem Sound.addBuilding {s : GameState} (h : s.Sound) (b : Building) :
    (s.addBuilding b).1.Sound :=
  h.of_sameUnits (TurnResolver.addBuilding_sameUnits s b) rfl rfl h.cities

/-- A change of one city. -/
theorem Sound.setCity {s : GameState} (h : s.Sound) (i : ℕ) {c : City} (hc : c.Orderly) :
    (s.setCity i c).Sound := by
  refine h.of_sameUnits ⟨rfl, rfl⟩ rfl rfl fun c' hc' => ?_
  rcases List.mem_or_eq_of_mem_set hc' with hc' | rfl
  · exact h.cities c' hc'
  · exact hc

/-- The view of a faction, computed anew. -/
def recalculateFog (s : GameState) (factionId : FactionId) : Except Fault GameState := do
  let fog ← s.fog.recalculate factionId s.units s.cities s.map
  return { s with fog }

/-- **The view can be computed anew, and nothing else changes.** -/
theorem Sound.recalculateFog {s : GameState} (h : s.Sound) (factionId : FactionId) :
    ∃ fog, s.recalculateFog factionId = .ok { s with fog } ∧
    ({ s with fog } : GameState).Sound := by
  obtain ⟨fog, hfog, hfits⟩ := h.fits.recalculate factionId s.units s.cities
  refine ⟨fog, ?_, h.living, h.inside, h.coherent.of_eq rfl rfl, hfits, h.templates, h.cities⟩
  rw [GameState.recalculateFog]
  rw [hfog]
  rfl

/-- Where all units live, there is nothing to sweep. -/
theorem removeDeadUnits_of_living {s : GameState} (h : ∀ p ∈ s.units.list, p.unit.isAlive = true)
    (selectedIndex : Option ℤ) : s.removeDeadUnits selectedIndex = ⟨s, selectedIndex, 0⟩ := by
  have hone : ∀ i, removeDeadUnitAt ⟨s, selectedIndex, 0⟩ i = ⟨s, selectedIndex, 0⟩ := by
    intro i
    rw [removeDeadUnitAt]
    cases hp : s.units.get? i with
    | none => rfl
    | some p => exact if_pos (h p (UnitVec.mem_list_of_get? hp))
  have hloop : ∀ is : List ℕ,
      is.foldl removeDeadUnitAt ⟨s, selectedIndex, 0⟩ = ⟨s, selectedIndex, 0⟩ := by
    intro is
    induction is with
    | nil => rfl
    | cons i is ih => rw [List.foldl_cons, hone, ih]
  exact hloop _

/-! ### Actions -/

/-- A unit after a move. -/
theorem Sound.relocate {s : GameState} (h : s.Sound) {i : ℕ} {p : OwnedUnit} {u : Unit}
    (hp : s.units.get? i = some p) (halive : u.isAlive = true)
    (hin : InBounds u.row u.col s.map.height s.map.width) (htmpl : u.template = p.unit.template) :
    (s.relocate i p u).Sound where
  living q hq := by
    rcases UnitVec.mem_set hp hq with rfl | ⟨hq, -⟩
    · exact halive
    · exact h.living q hq
  inside := inside_relocate h.inside hp hin
  coherent := h.coherent.relocate hp u
  fits := h.fits
  templates q hq := by
    rcases UnitVec.mem_set hp hq with rfl | ⟨hq, -⟩
    · dsimp only
      rw [htmpl]
      exact h.templates p (UnitVec.mem_list_of_get? hp)
    · exact h.templates q hq
  cities := h.cities

/-- The units after an attack. -/
theorem Sound.attack {s s' : GameState} (h : s.Sound) {a : AttackAction} {r : AttackResult}
    (hex : a.execute s = .ok (s', r)) : s'.Sound := by
  have hcoherent := h.coherent.attack hex
  obtain ⟨-, ⟨-, -, rfl⟩ | ⟨-, -, p, q, attacker, target, hround, rfl⟩⟩ :=
    AttackAction.execute_cases hex
  · exact h
  · have hlist := AttackAction.outcome_list hround h.living
    have hrest := AttackAction.outcome_eq a s p q attacker target
    have hmap : (a.outcome s p q attacker target).map = s.map := (congrArg GameState.map hrest :)
    have hfog : (a.outcome s p q attacker target).fog = s.fog := (congrArg GameState.fog hrest :)
    have hcities : (a.outcome s p q attacker target).cities = s.cities :=
      (congrArg GameState.cities hrest :)
    refine ⟨fun u hu => ?_, (AttackAction.outcome_descends hround).inside hmap h.inside, hcoherent,
      ?_, fun u hu => ?_, ?_⟩
    · rw [hlist] at hu
      exact (List.mem_filter.1 hu).2
    · rw [hfog, hmap]
      exact h.fits
    · rw [hlist] at hu
      obtain ⟨i, hi⟩ := List.mem_iff_getElem?.1 (List.mem_filter.1 hu).1
      have hget := (AttackAction.fought_get? hround.checked i).symm.trans hi
      split at hget
      · obtain rfl := Option.some_inj.1 hget
        dsimp only
        rw [hround.same_attacker.template]
        exact h.templates p (UnitVec.mem_list_of_get? hround.checked.attacker)
      · split at hget
        · obtain rfl := Option.some_inj.1 hget
          dsimp only
          rw [hround.same_target.template]
          exact h.templates q (UnitVec.mem_list_of_get? hround.checked.target)
        · exact h.templates u (UnitVec.mem_list_of_get? hget)
    · rw [hcities]
      exact h.cities

/-- **An action keeps a state sound.** -/
theorem Sound.execute {s s' : GameState} (h : s.Sound) {action : GameAction} {executed : Bool}
    (hex : action.execute s = .ok (s', executed)) : s'.Sound := by
  cases action with
  | move a =>
      obtain ⟨r, hex, -⟩ := GameAction.execute_move.1 hex
      obtain ⟨hv, ⟨-, -, rfl⟩ | ⟨-, -, p, u, t, hp, ht, hu, rfl⟩⟩ := MoveAction.execute_cases hex
      · exact h
      · obtain ⟨-, -, hrow, hcol, -, hhealth, -, htmpl, -⟩ := Unit.moveTo_eq_ok hu
        refine h.relocate hp ?_ ?_ htmpl
        · rw [Unit.isAlive, hhealth]
          exact h.living p (UnitVec.mem_list_of_get? hp)
        · rw [hrow, hcol]
          exact (Map.tile_eq_ok_iff _ _ _).1 ⟨t, ht⟩
  | attack a =>
      obtain ⟨r, hex, -⟩ := GameAction.execute_attack.1 hex
      exact h.attack hex
  | capture a =>
      obtain ⟨r, hex, -⟩ := GameAction.execute_capture.1 hex
      obtain ⟨-, ⟨-, -, rfl⟩ | ⟨-, -, p, i, city, htaken, rfl⟩⟩ := CaptureAction.execute_cases hex
      · exact h
      · have hcity := h.cities city (List.mem_of_getElem? htaken.get)
        exact h.setCity i ⟨hcity.population, fun item hitem => by cases hitem⟩

/-- **An action changes units, the registry and cities alone.** -/
theorem execute_rest {s s' : GameState} {action : GameAction} {executed : Bool}
    (hex : action.execute s = .ok (s', executed)) :
    s' = { s with units := s'.units, registry := s'.registry, cities := s'.cities } := by
  cases action with
  | move a =>
      obtain ⟨r, hex, -⟩ := GameAction.execute_move.1 hex
      obtain ⟨-, ⟨-, -, rfl⟩ | ⟨-, -, p, u, t, -, -, -, rfl⟩⟩ := MoveAction.execute_cases hex
      · rfl
      · rfl
  | attack a =>
      obtain ⟨r, hex, -⟩ := GameAction.execute_attack.1 hex
      obtain ⟨-, ⟨-, -, rfl⟩ | ⟨-, -, p, q, attacker, target, -, rfl⟩⟩ :=
        AttackAction.execute_cases hex
      · rfl
      · rw [AttackAction.outcome_eq]
  | capture a =>
      obtain ⟨r, hex, -⟩ := GameAction.execute_capture.1 hex
      obtain ⟨-, ⟨-, -, rfl⟩ | ⟨-, -, p, i, city, -, rfl⟩⟩ := CaptureAction.execute_cases hex
      · rfl
      · rfl

/-! ### Production -/

end GameState

namespace City

theorem Orderly.of_subset {c c' : City} (h : c.Orderly) (hpopulation : c'.population = c.population)
    (hqueue : c'.buildQueue.queue ⊆ c.buildQueue.queue) : c'.Orderly where
  population := by
    rw [hpopulation]
    exact h.population
  orders item hitem := h.orders item (hqueue hitem)

theorem cancel_subset (q : BuildQueue) : q.cancel.queue ⊆ q.queue := by
  rw [BuildQueue.cancel]
  cases hq : q.queue with
  | nil => exact fun _ hitem => hq ▸ hitem
  | cons item rest => exact List.subset_cons_self item rest

/-- Production adds no order to a queue. -/
theorem applyProduction_subset (q : BuildQueue) (amount : ℤ) :
    (q.applyProduction amount).1.queue ⊆ q.queue := by
  have hcancel := cancel_subset q
  have hsave : (q.save amount).queue ⊆ q.queue := by
    rw [BuildQueue.save_queue]
    exact List.Subset.refl _
  rw [BuildQueue.applyProduction_eq]
  split
  · exact hsave
  · split
    · exact hcancel
    · exact hcancel
    · exact hsave

/-- The order that falls due in an orderly city has a factory. -/
theorem Orderly.hasFactory {c : City} (h : c.Orderly) {item : BuildQueueItem}
    (hdue : c.dueAtBase = some item) : TurnResolver.HasFactory item := by
  intro _ hnone
  obtain ⟨⟨rest, hqueue⟩, -⟩ := BuildQueue.due?_eq_some hdue
  have hitem : item ∈ c.buildQueue.queue := by
    rw [hqueue]
    exact List.mem_cons_self
  obtain ⟨-, f, -, hfactory, -⟩ := h.orders item hitem
  rw [hfactory] at hnone
  cases hnone

/-- A building of a built-in factory can be ordered. -/
theorem Orderly.enqueue {c : City} (h : c.Orderly) {factory : BuildingFactory}
    (hfactory : factory ∈ builtinFactories) (row col : ℤ) :
    (c.setBuildQueue (c.buildQueue.enqueue factory row col)).Orderly where
  population := h.population
  orders item hitem := by
    rcases List.mem_append.1 hitem with hitem | hitem
    · exact h.orders item hitem
    · rw [List.mem_singleton.1 hitem]
      exact ⟨rfl, factory, hfactory, rfl, rfl⟩

/-- The first order can be cancelled. -/
theorem Orderly.cancel {c : City} (h : c.Orderly) : (c.setBuildQueue c.buildQueue.cancel).Orderly :=
  h.of_subset rfl (cancel_subset c.buildQueue)

end City

namespace GameState

/-- **What the end of a turn makes of a game**: the units recover where they stand, the cities stay
what they are, the yields of all buildings go into both accounts, the view of the player is computed
anew, and the rest is as it was. -/
structure TurnEnded (s s' : GameState) : Prop where
  turn : s'.turn = s.turn + 1
  map : s'.map = s.map
  units : s'.units = s.units.mapUnits Unit.startTurn
  registry : s'.registry.units = s.registry.units
  cities : List.Forall₂ City.SameSite s.cities s'.cities
  factionRegistry : s'.factionRegistry =
    s.factionRegistry.addResources playerFactionId (totalYield s'.buildings)
  factionResources : s'.factionResources = s.factionResources + totalYield s'.buildings
  diplomacy : s'.diplomacy = s.diplomacy
  nextCityId : s'.nextCityId = s.nextCityId
  view : s.fog.recalculate playerFactionId s'.units s'.cities s'.map = .ok s'.fog

/-- What the production of cities keeps besides. -/
structure Producing (s s' : GameState) : Prop where
  units : SameUnits s s'
  cities : List.Forall₂ City.SameSite s.cities s'.cities
  orderly : ∀ c ∈ s'.cities, c.Orderly
  diplomacy : s'.diplomacy = s.diplomacy
  nextCityId : s'.nextCityId = s.nextCityId

/-- The element that one of a related list is related to. -/
theorem exists_of_forall₂_getElem? {α β : Type} {R : α → β → Prop} {l : List α} {m : List β}
    (h : List.Forall₂ R l m) : ∀ {i : ℕ} {b : β}, m[i]? = some b → ∃ a, l[i]? = some a ∧ R a b := by
  induction h with
  | nil => intro i b hb; cases hb
  | cons hab hrest ih =>
      intro i b hb
      cases i with
      | zero =>
          obtain rfl := Option.some_inj.1 hb
          exact ⟨_, rfl, hab⟩
      | succ i => exact ih hb

/-- A change of one element of a list. -/
theorem forall₂_set {α β : Type} {R : α → β → Prop} {l : List α} {m : List β}
    (h : List.Forall₂ R l m) : ∀ {i : ℕ} {b b' : β}, m[i]? = some b → (∀ a, R a b → R a b') →
      List.Forall₂ R l (m.set i b') := by
  induction h with
  | nil => intro i b b' hb; cases hb
  | cons hab hrest ih =>
      intro i b b' hb hR
      cases i with
      | zero =>
          obtain rfl := Option.some_inj.1 hb
          exact List.Forall₂.cons (hR _ hab) hrest
      | succ i => exact List.Forall₂.cons hab (ih hb hR)

/-- The production of a city. -/
theorem Producing.produceCity {s s' : GameState} (h : Producing s s') (i : ℕ) :
    Producing s (produceCity s' i).1 := by
  cases hcity : s'.cities[i]? with
  | none =>
      rw [My4X.produceCity, hcity]
      exact h
  | some city =>
      have horderly := h.orderly city (List.mem_of_getElem? hcity)
      have hset : ∀ q : BuildQueue, q.queue ⊆ city.buildQueue.queue →
          Producing s (s'.setCity i (city.setBuildQueue q)) := by
        intro q hq
        refine ⟨⟨h.units.units, h.units.registry⟩, ?_, fun c hc => ?_, h.diplomacy, h.nextCityId⟩
        · exact forall₂_set h.cities hcity fun c hsite =>
            ⟨hsite.id, hsite.name, hsite.centerRow, hsite.centerCol, hsite.factionId, hsite.tiles⟩
        · rcases List.mem_or_eq_of_mem_set hc with hc | rfl
          · exact h.orderly c hc
          · exact horderly.of_subset rfl hq
      have hone := hset _ (City.applyProduction_subset city.buildQueue City.productionPerTurn)
      rw [My4X.produceCity, hcity]
      dsimp only
      split
      · exact hone
      · next b _ =>
          exact ⟨hone.units.trans (TurnResolver.addBuilding_sameUnits _ b), hone.cities,
            hone.orderly, hone.diplomacy, hone.nextCityId⟩
      · exact hone

theorem entries_startTurn (v : UnitVec) : (v.mapUnits Unit.startTurn).entries = v.entries := by
  rw [UnitVec.entries, UnitVec.mapUnits]
  rw [List.map_map]
  refine List.map_congr_left fun p _ => ?_
  rw [Function.comp_apply]
  dsimp only
  rw [Unit.startTurn]
  split <;> rfl

/-- A unit at the start of a turn. -/
theorem mem_startTurn {v : UnitVec} {p : OwnedUnit} (h : p ∈ (v.mapUnits Unit.startTurn).list) :
    ∃ q ∈ v.list, p.ref = q.ref ∧ SameSoldier q.unit p.unit ∧ p.unit.health = q.unit.health ∧
      p.unit.experience = q.unit.experience := by
  obtain ⟨q, hq, rfl⟩ := List.mem_map.1 h
  refine ⟨q, hq, rfl, ?_⟩
  dsimp only
  rw [Unit.startTurn]
  split
  · exact ⟨⟨rfl, rfl, rfl, rfl⟩, rfl, rfl⟩
  · exact ⟨SameSoldier.refl _, rfl, rfl⟩

/-- **The end of a turn completes, and keeps a state sound.** -/
theorem Sound.processTurn {s : GameState} (h : s.Sound) :
    ∃ s', processTurn s = (s', none) ∧ s'.Sound ∧ TurnEnded s s' := by
  have hdone := (processTurn_completes_iff h.fits).1.2 fun city hcity item hdue =>
    (h.cities city hcity).hasFactory hdue
  have hrest := produceCitiesFrom_rest (List.range s.cities.length) s.startTurn
  have hstart : Producing s.startTurn s.startTurn :=
    ⟨SameUnits.refl _, List.forall₂_same.2 fun c _ => ⟨rfl, rfl, rfl, rfl, rfl, rfl⟩, h.cities, rfl,
      rfl⟩
  have hproduced := @produceCitiesFrom_keeps (Producing s.startTurn) (List.range s.cities.length)
    (fun s' i _ hs' => hs'.produceCity i) s.startTurn hstart
  rw [processTurn_eq] at hdone ⊢
  cases hout : produceCitiesFrom s.startTurn (List.range s.cities.length) with
  | mk s₁ thrown =>
      rw [hout] at hdone hrest hproduced
      cases thrown with
      | some e => cases hdone
      | none =>
          dsimp only at hdone ⊢
          have hfits : s₁.fog.Fits s₁.map := by
            rw [hrest.fog, hrest.map]
            exact h.fits
          obtain ⟨fog, hview, hfog⟩ := hfits.recalculate playerFactionId s₁.units s₁.cities
          rw [hview]
          have hunits : s₁.units = s.units.mapUnits Unit.startTurn := hrest.units
          have horigin : ∀ p ∈ s₁.units.list, ∃ q ∈ s.units.list, p.ref = q.ref ∧
              SameSoldier q.unit p.unit ∧ p.unit.health = q.unit.health ∧
              p.unit.experience = q.unit.experience := fun p hp => mem_startTurn (hunits ▸ hp)
          refine ⟨_, rfl, ⟨fun p hp => ?_, fun p hp => ?_, ?_, hfog, fun p hp => ?_,
            hproduced.orderly⟩, hrest.turn, hrest.map, hunits, hproduced.units.registry,
            hproduced.cities, ?_, ?_, hproduced.diplomacy, hproduced.nextCityId, ?_⟩
          · obtain ⟨q, hq, -, -, hhealth, -⟩ := horigin p hp
            rw [Unit.isAlive, hhealth]
            exact h.living q hq
          · obtain ⟨q, hq, -, hsame, -⟩ := horigin p hp
            change InBounds p.unit.row p.unit.col s₁.map.height s₁.map.width
            rw [hsame.row, hsame.col, hrest.map]
            exact h.inside q hq
          · refine h.coherent.of_eq hproduced.units.registry ?_
            exact (congrArg UnitVec.entries hunits).trans (entries_startTurn s.units)
          · obtain ⟨q, hq, -, hsame, -⟩ := horigin p hp
            rw [hsame.template]
            exact h.templates q hq
          · exact congrArg (fun reg => FactionRegistry.addResources reg playerFactionId
              (totalYield s₁.buildings)) hrest.factionRegistry
          · exact congrArg (· + totalYield s₁.buildings) hrest.factionResources
          · have hsame : s₁.fog = s.fog := hrest.fog
            rw [← hsame]
            exact hview

/-! ### Loading -/

/-- A restored city is orderly when the saved one is. -/
theorem orderly_restored {c c' : City} (h : c.Orderly) (hrestored : City.Restored c c') :
    c'.Orderly where
  population := by
    rw [hrestored.population]
    exact h.population
  orders item' hitem' := by
    obtain ⟨i, hi⟩ := List.mem_iff_getElem?.1 hitem'
    obtain ⟨item, hitem, hsame⟩ := exists_of_forall₂_getElem? hrestored.queue hi
    obtain ⟨htype, f, hf, hfactory, hname⟩ := h.orders item (List.mem_of_getElem? hitem)
    refine ⟨hsame.orderType.trans htype, f, hf, (hsame.factory htype).trans hfactory, ?_⟩
    rw [hsame.name, hname]

/-- What is loaded of a state with sound units and cities is sound. -/
theorem sound_of_restored {s t : GameState} (hliving : ∀ p ∈ s.units.list, p.unit.isAlive = true)
    (hinside : s.UnitsInside) (htemplates : ∀ p ∈ s.units.list, p.unit.template ∈ builtinTemplates)
    (hcities : ∀ c ∈ s.cities, c.Orderly) (hrestored : Restored s t)
    (hcoherent : t.Coherent) (hfog : t.fog = FogOfWar.create t.map.height t.map.width) :
    t.Sound := by
  have horigin : ∀ q ∈ t.units.list, ∃ p ∈ s.units.list, p.unit.Agrees q.unit := by
    intro q hq
    obtain ⟨i, hi⟩ := List.mem_iff_getElem?.1 hq
    obtain ⟨p, hp, hagrees⟩ := exists_of_forall₂_getElem? hrestored.units hi
    exact ⟨p, List.mem_of_getElem? hp, hagrees⟩
  refine ⟨fun q hq => ?_, fun q hq => ?_, hcoherent, ?_, fun q hq => ?_, fun c' hc' => ?_⟩
  · obtain ⟨p, hp, hagrees⟩ := horigin q hq
    rw [← hagrees.isAlive]
    exact hliving p hp
  · obtain ⟨p, hp, hagrees⟩ := horigin q hq
    rw [← hagrees.row, ← hagrees.col, hrestored.height, hrestored.width]
    exact hinside p hp
  · rw [hfog]
    exact ⟨rfl, rfl, fun _ _ hlookup => by cases hlookup⟩
  · obtain ⟨p, hp, hagrees⟩ := horigin q hq
    rw [← hagrees.template]
    exact htemplates p hp
  · obtain ⟨i, hi⟩ := List.mem_iff_getElem?.1 hc'
    obtain ⟨c, hc, hsame⟩ := exists_of_forall₂_getElem? hrestored.cities hi
    exact orderly_restored (hcities c (List.mem_of_getElem? hc)) hsame

/-- **What is loaded of a sound state is sound.** -/
theorem Sound.restored {s t : GameState} (h : s.Sound) (hrestored : Restored s t)
    (hcoherent : t.Coherent) (hfog : t.fog = FogOfWar.create t.map.height t.map.width) :
    t.Sound :=
  sound_of_restored h.living h.inside h.templates h.cities hrestored hcoherent hfog

end GameState

end My4X
