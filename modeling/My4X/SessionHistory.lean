/-
**The history of a game on the server.**

Whatever actions, orders and turns a session sees, the game stays the same one: its map, relations
and factions stay, its cities stay where they are, buildings are only added and turns only pass.
And what the winner of a war relies on holds: a faction that has lost its last city and its last
living unit never comes back, for cities and units come from cities and living units alone.  (A city
keeps its owner as a signed number, so that this is about identifiers below `2 ^ 31`; a city of a
negative owner is counted for no faction, yet its units are of one.)

Main definitions:

* `My4X.GameState.Gone` — a faction has no city and no living unit, as units and captures count;
* `My4X.GameState.Continues` — a later state of the same game.

Main results:

* `My4X.Effect.apply_related`, `My4X.GameSession.run_related` — what actions, orders and the parts
  of a turn all do, every run does;
* `My4X.GameSession.session_continues` — **every run leaves the same game**;
* `My4X.GameSession.eliminated_stays` — **an eliminated faction stays eliminated**.
-/

import My4X.Elimination
import My4X.Peace
import My4X.SoundStates
import My4X.TurnFlags

set_option relaxedAutoImplicit false
set_option autoImplicit false

namespace My4X

open GameState

/-! ### What every effect does -/

section Related

variable {R : GameState → GameState → Prop} (hrefl : ∀ s, R s s)
  (htrans : ∀ s s' s'', R s s' → R s' s'' → R s s'')
  (hact : ∀ (action : GameAction) (s s' : GameState) (executed : Bool),
    action.execute s = .ok (s', executed) → R s s')
  (horder : ∀ (s : GameState) (i : ℕ) (city : City) (item : BuildQueueItem),
    s.cities[i]? = some city →
      R s (s.setCity i (city.setBuildQueue (city.buildQueue.restoreItem item))))
  (hcity : ∀ (unitRegistry : Option UnitTypeRegistry) (s : GameState) (i : ℕ),
    R s (TurnResolver.resolveCity unitRegistry s i).1)
  (hclose : ∀ s : GameState, R s s.closeTurn)

include hrefl htrans hcity hclose in
/-- What the turns of the cities and the close of a turn do, the end of a turn does. -/
theorem resolveTurn_related (unitRegistry : Option UnitTypeRegistry) (s : GameState) :
    R s (resolveTurn s unitRegistry).1 := by
  have hcities : R s (TurnResolver.resolveCities s unitRegistry).1 :=
    TurnResolver.resolveCitiesFrom_keeps (I := fun s' => R s s') (P := fun _ _ => True)
      (fun s' i h _ => htrans _ _ _ h (hcity unitRegistry s' i)) _ s (hrefl s)
      (Runs.along_of_forall (fun _ _ => trivial) _ s)
  rw [resolveTurn_eq]
  cases hout : TurnResolver.resolveCities s unitRegistry with
  | mk s' thrown =>
      rw [hout] at hcities
      cases thrown with
      | some e => exact hcities
      | none => exact htrans _ _ _ hcities (hclose s')

include hrefl htrans hact horder hcity hclose in
/-- **What actions, orders and the parts of a turn do, every effect does.** -/
theorem Effect.apply_related {effect : Effect} {s s' : GameState}
    (h : effect.apply s = some s') : R s s' := by
  cases effect with
  | nothing =>
      obtain rfl := Option.some_inj.1 h
      exact hrefl s
  | act action =>
      rw [Effect.apply] at h
      split at h
      · cases h
      · next executed hex =>
          obtain rfl := Option.some_inj.1 h
          exact hact action s _ executed hex
  | order i item =>
      obtain rfl := Option.some_inj.1 h
      rcases GameState.order_eq s i item with hsame | ⟨city, hfound, hset⟩
      · rw [hsame]
        exact hrefl s
      · rw [hset]
        exact horder s i city item hfound
  | turn unitRegistry =>
      obtain rfl := Option.some_inj.1 h
      exact resolveTurn_related hrefl htrans hcity hclose unitRegistry s

include hrefl htrans hact horder hcity hclose in
/-- **And so does every run of operations on a session.** -/
theorem GameSession.run_related {session session' : GameSession} {ops : List SessionOp}
    (hrun : Runs.run GameSession.step session ops = some session') :
    R session.state session'.state :=
  Runs.run_relation (I := fun _ => True) (P := fun _ _ => True)
    (R := fun x x' : GameSession => R x.state x'.state)
    (fun x => hrefl x.state) (fun x x' x'' => htrans x.state x'.state x''.state)
    (fun _ _ _ _ _ => trivial)
    (fun _ _ _ _ _ hstep => Effect.apply_related hrefl htrans hact horder hcity hclose
      (GameSession.step_eq_some hstep))
    ops session session' trivial (Runs.along_of_forall (fun _ _ => trivial) ops session) hrun

end Related

/-! ### The same game -/

/-- A city in the same place: its owner, its queue and its inhabitants may differ. -/
structure City.SamePlace (c c' : City) : Prop where
  id : c'.id = c.id
  name : c'.name = c.name
  centerRow : c'.centerRow = c.centerRow
  centerCol : c'.centerCol = c.centerCol
  tiles : c'.tiles = c.tiles

namespace City.SamePlace

theorem refl (c : City) : c.SamePlace c := ⟨rfl, rfl, rfl, rfl, rfl⟩

theorem trans {c c' c'' : City} (h : c.SamePlace c') (h' : c'.SamePlace c'') : c.SamePlace c'' :=
  ⟨h'.id.trans h.id, h'.name.trans h.name, h'.centerRow.trans h.centerRow,
    h'.centerCol.trans h.centerCol, h'.tiles.trans h.tiles⟩

end City.SamePlace

/-- A city on the same site is in the same place. -/
theorem City.SameSite.samePlace {c c' : City} (h : c.SameSite c') : c.SamePlace c' :=
  ⟨h.id, h.name, h.centerRow, h.centerCol, h.tiles⟩

/-- What stays of a faction: all but its stockpile. -/
def Faction.identity (f : Faction) : FactionId × String × FactionType × UInt8 :=
  (f.id, f.name, f.type, f.colorIndex)

/-- **A later state of the same game**: the same map, relations and factions, the same cities in the
same places, no building gone and no turn taken back. -/
structure GameState.Continues (s s' : GameState) : Prop where
  world : s.SameWorld s'
  factions : s'.factionRegistry.factions.map Faction.identity =
    s.factionRegistry.factions.map Faction.identity
  cities : List.Forall₂ City.SamePlace s.cities s'.cities
  buildings : s.buildings <+: s'.buildings
  turn : s.turn ≤ s'.turn

namespace GameState.Continues

variable {s s' s'' : GameState}

theorem samePlaces_refl (cities : List City) : List.Forall₂ City.SamePlace cities cities :=
  List.forall₂_same.2 fun c _ => City.SamePlace.refl c

theorem refl (s : GameState) : s.Continues s :=
  ⟨⟨rfl, rfl⟩, rfl, samePlaces_refl _, List.prefix_rfl, le_rfl⟩

theorem trans (h : s.Continues s') (h' : s'.Continues s'') : s.Continues s'' where
  world := ⟨h'.world.map.trans h.world.map, h'.world.diplomacy.trans h.world.diplomacy⟩
  factions := h'.factions.trans h.factions
  cities := Fallible.forall₂_comp h.cities h'.cities fun _ _ _ _ hc hc' => hc.trans hc'
  buildings := h.buildings.trans h'.buildings
  turn := h.turn.trans h'.turn

/-- One city that is changed in its place. -/
theorem samePlaces_set {cities : List City} {i : ℕ} {city city' : City}
    (hcity : cities[i]? = some city) (hplace : city.SamePlace city') :
    List.Forall₂ City.SamePlace cities (cities.set i city') :=
  forall₂_set (samePlaces_refl cities) hcity fun _ hc => hc.trans hplace

end GameState.Continues

namespace TurnResolver

/-- Gold that is paid leaves the factions what they are. -/
theorem routeGoldToFaction_identity (s : GameState) (factionId : Int32) (gold : ℤ) :
    (routeGoldToFaction s factionId gold).factionRegistry.factions.map Faction.identity =
      s.factionRegistry.factions.map Faction.identity := by
  rw [routeGoldToFaction]
  dsimp only
  split
  · next i _ =>
      refine List.ext_getElem? fun k => ?_
      rw [List.getElem?_map, List.getElem?_map, List.getElem?_modify]
      cases s.factionRegistry.factions[k]? with
      | none => rfl
      | some f =>
          by_cases hik : i = k
          · simp [hik, Faction.identity]
          · simp [hik]
  · rfl

/-- **The turn of a city goes on with the game.** -/
theorem resolveCity_continues (unitRegistry : Option UnitTypeRegistry) (s : GameState) (i : ℕ) :
    s.Continues (resolveCity unitRegistry s i).1 := by
  cases hcity : s.cities[i]? with
  | none =>
      rw [resolveCity_of_none unitRegistry hcity]
      exact Continues.refl s
  | some city =>
      obtain ⟨city', hcities, hsite, hworld, hturn⟩ := resolveCity_spec unitRegistry hcity
      refine ⟨hworld, ?_, ?_, ?_, (resolveCity_turn unitRegistry s i).ge⟩
      · rw [(resolveCity_accounts unitRegistry hcity).1]
        exact routeGoldToFaction_identity s _ _
      · rw [hcities]
        exact Continues.samePlaces_set hcity hsite.samePlace
      · generalize (resolveCity unitRegistry s i).2 = thrown at hturn
        cases hturn with
        | builds item factory due type made queue buildings units =>
            rw [buildings]
            exact List.prefix_append _ _
        | saves due queue buildings units => rw [buildings]
        | drops item due type types queue buildings units => rw [buildings]
        | spawns item reg tmpl due type types known queue buildings units => rw [buildings]
        | misfires item due type made queue buildings units => rw [buildings]
        | fails item reg e due type types unknown queue buildings units => rw [buildings]

end TurnResolver

/-- **An action goes on with the game.** -/
theorem GameAction.execute_continues {action : GameAction} {s s' : GameState} {executed : Bool}
    (h : action.execute s = .ok (s', executed)) : s.Continues s' := by
  have hrest := execute_rest h
  have hmap : s'.map = s.map := by rw [hrest]
  have hfactions : s'.factionRegistry = s.factionRegistry := by rw [hrest]
  have hturn : s'.turn = s.turn := by rw [hrest]
  obtain ⟨hbuildings, hcities⟩ := GameAction.execute_cities h
  refine ⟨⟨hmap, GameAction.execute_diplomacy h⟩, by rw [hfactions], ?_, by rw [hbuildings],
    hturn.ge⟩
  rcases hcities with ⟨hsame, -⟩ | ⟨a, p, i, city, -, -, htaken, hset⟩
  · rw [hsame]
    exact Continues.samePlaces_refl _
  · rw [hset]
    exact Continues.samePlaces_set htaken.get ⟨rfl, rfl, rfl, rfl, rfl⟩

namespace GameSession

/-- **Every run of operations leaves the same game**: it keeps the map, the relations and who the
factions are, every city in its place, and every building, and takes no turn back. -/
theorem session_continues (session session' : GameSession) (ops : List SessionOp)
    (hrun : Runs.run GameSession.step session ops = some session') :
    session.state.Continues session'.state :=
  run_related Continues.refl (fun _ _ _ => Continues.trans)
    (fun _ _ _ _ => GameAction.execute_continues)
    (fun _ _ _ _ hcity => ⟨⟨rfl, rfl⟩, rfl,
      Continues.samePlaces_set hcity ⟨rfl, rfl, rfl, rfl, rfl⟩, List.prefix_rfl, le_rfl⟩)
    TurnResolver.resolveCity_continues
    (fun s => ⟨⟨rfl, rfl⟩, rfl, Continues.samePlaces_refl _, List.prefix_rfl,
      (le_add_of_nonneg_right zero_le_one : s.turn ≤ s.turn + 1)⟩) hrun

/-- The capital has a farm and a warrior, and an enemy stands next to him. -/
def frontierSession : GameSession :=
  { capitalSession with
    state :=
      [Unit.create 0 0 warriorTemplate 1, Unit.create 0 1 warriorTemplate 2].foldl
        (fun s u => (s.addUnit u).1)
        ({ capitalSession.state with
          diplomacy := DiplomacyManager.empty.setRelation 1 2 .war }.addBuilding (makeFarm 2 1)).1 }

/-- An attack, an order for a mine, and the two turns it takes. -/
theorem frontierSession_continues : ∃ session', Runs.run GameSession.step frontierSession
      [.processAction 7 (.game (.attack { attackerIndex := 0, targetIndex := 1 })),
        .processAction 7 (.build { cityId := 1, buildingType := "Mine" }),
        .resolveTurn none, .resolveTurn none] = some session' ∧
    session'.state.buildings.length = 2 ∧ frontierSession.state.Continues session'.state := by
  have hrun : ∃ session', Runs.run GameSession.step frontierSession
      [.processAction 7 (.game (.attack { attackerIndex := 0, targetIndex := 1 })),
        .processAction 7 (.build { cityId := 1, buildingType := "Mine" }),
        .resolveTurn none, .resolveTurn none] = some session' ∧
      session'.state.buildings.length = 2 := ⟨_, rfl, rfl⟩
  obtain ⟨session', hrun, hbuilt⟩ := hrun
  exact ⟨session', hrun, hbuilt, session_continues frontierSession session' _ hrun⟩

end GameSession

/-! ### Eliminated factions -/

/-- **A faction has no city and no living unit**, by the owner that units and captures go by. -/
structure GameState.Gone (f : FactionId) (s : GameState) : Prop where
  cities : ∀ c ∈ s.cities, c.owner ≠ f
  units : ∀ p ∈ s.units.list, p.unit.isAlive = true → p.unit.factionId ≠ f

/-- An owner that is not negative is the same by both counts. -/
theorem City.ownedBy_iff_of_lt (c : City) {f : FactionId} (hf : f.toNat < 2 ^ 31) :
    c.ownedBy f = true ↔ c.owner = f := by
  refine ⟨City.owner_of_ownedBy, ?_⟩
  rintro rfl
  rw [City.ownedBy, decide_eq_true_eq]
  exact BitVec.toInt_eq_toNat_of_lt (x := c.factionId.toBitVec) (by
    have hlt : c.factionId.toBitVec.toNat < 2 ^ 31 := hf
    omega)

namespace GameState.Gone

variable {f : FactionId} {s s' : GameState}

/-- **For an identifier below `2 ^ 31` this is to be eliminated.** -/
theorem iff_eliminated (hf : f.toNat < 2 ^ 31) :
    s.Gone f ↔ CaptureAction.isFactionEliminated s f = true := by
  rw [isFactionEliminated_eq_true_iff, Holds, HasCity, HasUnit]
  simp only [not_or, not_exists, not_and]
  constructor
  · intro h
    exact ⟨fun c hc howned => h.cities c hc ((c.ownedBy_iff_of_lt hf).1 howned), fun p hp halive =>
      h.units p hp halive⟩
  · rintro ⟨hcities, hunits⟩
    exact ⟨fun c hc howner => hcities c hc ((c.ownedBy_iff_of_lt hf).2 howner), hunits⟩

/-- A city that is changed and goes to another faction. -/
theorem set (h : s.Gone f) {i : ℕ} {city' : City} (hcities : s'.cities = s.cities.set i city')
    (howner : city'.owner ≠ f)
    (hunits : ∀ p ∈ s'.units.list, p.unit.isAlive = true → p.unit.factionId ≠ f) : s'.Gone f where
  cities c hc := by
    rw [hcities] at hc
    rcases List.mem_or_eq_of_mem_set hc with hc | rfl
    · exact h.cities c hc
    · exact howner
  units := hunits

/-- **No action brings a faction back.** -/
theorem execute (h : s.Gone f) {action : GameAction} {executed : Bool}
    (hex : action.execute s = .ok (s', executed)) : s'.Gone f := by
  have hunits : ∀ p ∈ s'.units.list, p.unit.isAlive = true → p.unit.factionId ≠ f := by
    intro p' hp' halive hfaction
    obtain ⟨i, p, hp, -, hlives, hof⟩ :=
      (GameAction.execute_hasUnit hex f).1 ⟨p', hp', halive, hfaction⟩
    exact h.units p (UnitVec.mem_list_of_get? hp) hlives hof
  obtain ⟨-, ⟨hcities, -⟩ | ⟨a, p, i, city, -, -, htaken, hcities⟩⟩ := GameAction.execute_cities hex
  · exact ⟨fun c hc => h.cities c (hcities ▸ hc), hunits⟩
  · -- the city goes to the faction of a living unit
    refine h.set hcities ?_ hunits
    have howner : (CaptureAction.captured city p.unit).owner = p.unit.factionId :=
      UInt32.toUInt32_toInt32 _
    rw [howner]
    exact h.units p (UnitVec.mem_list_of_get? htaken.unit) htaken.alive

/-- **No city brings a faction back that has none.** -/
theorem resolveCity (unitRegistry : Option UnitTypeRegistry) (h : s.Gone f) (i : ℕ) :
    (TurnResolver.resolveCity unitRegistry s i).1.Gone f := by
  cases hcity : s.cities[i]? with
  | none =>
      rw [TurnResolver.resolveCity_of_none unitRegistry hcity]
      exact h
  | some city =>
      have howner := h.cities city (List.mem_of_getElem? hcity)
      obtain ⟨city', hcities, hsite, -, -⟩ := TurnResolver.resolveCity_spec unitRegistry hcity
      have hspawn := TurnResolver.resolveCity_spawn unitRegistry s i
      refine h.set hcities (by rw [City.owner, hsite.factionId]; exact howner) fun p hp => ?_
      cases hu : TurnResolver.spawn? unitRegistry s i with
      | none =>
          rw [hu] at hspawn
          rw [hspawn.units] at hp
          exact h.units p hp
      | some u =>
          rw [hu] at hspawn
          rw [hspawn.units] at hp
          rcases UnitVec.mem_push.1 hp with hp | rfl
          · exact h.units p hp
          · -- a new unit is of the owner of the city
            obtain ⟨city₀, item, reg, tmpl, hfound, -, -, -, -, rfl⟩ :=
              TurnResolver.spawn?_eq_some hu
            rw [hcity] at hfound
            obtain rfl := Option.some_inj.1 hfound
            exact fun _ => howner

/-- The close of a turn revives nobody. -/
theorem closeTurn (h : s.Gone f) : s.closeTurn.Gone f where
  cities := h.cities
  units p hp halive := by
    obtain ⟨q, hq, rfl⟩ := mem_closeTurn.1 hp
    exact h.units q hq halive

end GameState.Gone

namespace GameSession

/-- **An eliminated faction stays eliminated**, whatever actions, orders and turns follow. -/
theorem eliminated_stays (f : FactionId) (hf : f.toNat < 2 ^ 31) (session session' : GameSession)
    (ops : List SessionOp) (hgone : CaptureAction.isFactionEliminated session.state f = true)
    (hrun : Runs.run GameSession.step session ops = some session') :
    CaptureAction.isFactionEliminated session'.state f = true := by
  rw [← Gone.iff_eliminated hf] at hgone ⊢
  exact run_related (R := fun s s' => s.Gone f → s'.Gone f) (fun _ => id)
    (fun _ _ _ h h' hs => h' (h hs)) (fun _ _ _ _ hex h => h.execute hex)
    (fun s i city item hcity h => h.set rfl (h.cities city (List.mem_of_getElem? hcity)) h.units)
    (fun unitRegistry s i h => h.resolveCity unitRegistry i) (fun _ h => h.closeTurn) hrun hgone

/-- The faction that loses its last unit is still eliminated after the end of the turn. -/
theorem lastStandSession_eliminated : ∃ session session',
    Runs.run GameSession.step lastStandSession
      [.processAction 7 (.game (.attack { attackerIndex := 0, targetIndex := 1 }))] =
        some session ∧
    Runs.run GameSession.step session [.resolveTurn none] = some session' ∧
    CaptureAction.isFactionEliminated session'.state 2 = true := by
  have hattack : ∃ session, Runs.run GameSession.step lastStandSession
      [.processAction 7 (.game (.attack { attackerIndex := 0, targetIndex := 1 }))] =
        some session ∧ CaptureAction.isFactionEliminated session.state 2 = true := ⟨_, rfl, rfl⟩
  obtain ⟨session, hattack, hgone⟩ := hattack
  have hturn : ∃ session', Runs.run GameSession.step session [.resolveTurn none] = some session' :=
    ⟨_, rfl⟩
  obtain ⟨session', hturn⟩ := hturn
  exact ⟨session, session', hattack, hturn,
    eliminated_stays 2 (by decide) session session' _ hgone hturn⟩

end GameSession

end My4X
