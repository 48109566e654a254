/-
**What the end of a turn does to the units.**

The turn of a city pays, produces and grows; the only thing it can do to the units is to add one.
When the cities are through, every unit recovers its movement where it stands.  The registry of
units therefore stays coherent, also when a city throws.  Queueing an order does not concern the
units at all.

Main definitions:

* `My4X.GameState.SameUnits` — the units and their registry are the ones of another state.

Main results:

* `My4X.TurnResolver.resolveCity_units` — what the turn of a city does to the units;
* `My4X.GameState.Coherent.resolveTurn` — **the end of a turn keeps coherence**;
* `My4X.resolveTurn_refs` — without a registry of unit types the units stay the same ones.
-/

import My4X.Coherence
import My4X.Session

set_option relaxedAutoImplicit false
set_option autoImplicit false

namespace My4X

/-! ### States with the same units -/

/-- The units and their registry are the ones of another state. -/
structure GameState.SameUnits (s s' : GameState) : Prop where
  units : s'.units = s.units
  registry : s'.registry.units = s.registry.units

namespace GameState.SameUnits

theorem refl (s : GameState) : SameUnits s s := ⟨rfl, rfl⟩

theorem trans {s s' s'' : GameState} (h : SameUnits s s') (h' : SameUnits s' s'') :
    SameUnits s s'' :=
  ⟨h'.units.trans h.units, h'.registry.trans h.registry⟩

theorem coherent {s s' : GameState} (h : SameUnits s s') (hs : s.Coherent) : s'.Coherent :=
  hs.of_eq h.registry (congrArg UnitVec.entries h.units)

/-- Adding a unit to both states. -/
theorem addUnit {s s' : GameState} (h : SameUnits s s') (u : Unit) :
    SameUnits (s.addUnit u).1 (s'.addUnit u).1 := by
  refine ⟨?_, ?_⟩
  · unfold GameState.addUnit
    simp only [h.units]
  · unfold GameState.addUnit TileRegistry.registerUnit
    simp only [h.units, h.registry]

end GameState.SameUnits

/-! ### The turn of a city -/

namespace TurnResolver

open GameState

theorem routeGoldToFaction_sameUnits (s : GameState) (factionId : Int32) (gold : ℤ) :
    SameUnits s (routeGoldToFaction s factionId gold) := by
  rw [routeGoldToFaction]
  dsimp only
  split <;> exact ⟨rfl, rfl⟩

theorem addBuilding_sameUnits (s : GameState) (b : Building) :
    SameUnits s (s.addBuilding b).1 := by
  rw [GameState.addBuilding]
  dsimp only
  cases b.occupiedTiles.toList.head? <;> exact ⟨rfl, rfl⟩

/-- The units are the ones of another state, but for a new one if there is a registry of unit
types to take it from. -/
def SpawnsAtMostOne (unitRegistry : Option UnitTypeRegistry) (s s' : GameState) : Prop :=
  SameUnits s s' ∨ unitRegistry ≠ none ∧ ∃ u, SameUnits (s.addUnit u).1 s'

variable {unitRegistry : Option UnitTypeRegistry}

theorem SpawnsAtMostOne.trans_sameUnits {s s' s'' : GameState}
    (h : SpawnsAtMostOne unitRegistry s s') (h' : SameUnits s' s'') :
    SpawnsAtMostOne unitRegistry s s'' := by
  rcases h with hsame | ⟨hreg, u, hadd⟩
  · exact Or.inl (hsame.trans h')
  · exact Or.inr ⟨hreg, u, hadd.trans h'⟩

/-- What a completed order does to the units. -/
theorem handleCompletedProduction_units {s s₀ s' : GameState} {city : City}
    {result : BuildQueueResult} (h₀ : SameUnits s s₀)
    (h : handleCompletedProduction s₀ city result unitRegistry = .ok s') :
    SpawnsAtMostOne unitRegistry s s' := by
  cases result with
  | building b =>
      obtain rfl := Except.ok.inj h
      exact Or.inl (h₀.trans (addBuilding_sameUnits s₀ _))
  | unitSpawn templateKey =>
      cases unitRegistry with
      | none =>
          obtain rfl := Except.ok.inj h
          exact Or.inl h₀
      | some reg =>
          obtain ⟨tmpl, -, h⟩ := Except.bind_eq_ok.1 h
          obtain rfl := Except.ok.inj h
          exact Or.inr ⟨by simp, _, h₀.addUnit _⟩

/-- **What the turn of a city does to the units**, also when it throws: it adds one at most. -/
theorem resolveCity_units (unitRegistry : Option UnitTypeRegistry) (s : GameState) (i : ℕ) :
    SpawnsAtMostOne unitRegistry s (resolveCity unitRegistry s i).1 := by
  rw [resolveCity]
  cases hcity : s.cities[i]? with
  | none => exact Or.inl (SameUnits.refl s)
  | some city =>
      dsimp only
      have hpaid := routeGoldToFaction_sameUnits s city.factionId (collectCityYields city s).gold
      have hset : ∀ c, SameUnits s ((routeGoldToFaction s city.factionId
          (collectCityYields city s).gold).setCity i c) := fun _ => hpaid.trans ⟨rfl, rfl⟩
      -- the order that is paid for is placed first, and then the city is fed
      split
      · exact Or.inl (hset _)
      · next s₁ hplaced =>
          have hspawn : SpawnsAtMostOne unitRegistry s s₁ := by
            split at hplaced
            · simp at hplaced
            · obtain rfl := Except.ok.inj hplaced
              exact Or.inl (hset _)
            · exact handleCompletedProduction_units (hset _) hplaced
          split
          · exact hspawn
          · exact hspawn.trans_sameUnits ⟨rfl, rfl⟩

/-- Without a registry of unit types the turns of the cities leave the units as they are. -/
theorem resolveCitiesFrom_sameUnits (is : List ℕ) :
    ∀ s : GameState, SameUnits s (resolveCitiesFrom none s is).1 := by
  induction is with
  | nil => exact SameUnits.refl
  | cons i is ih =>
      intro s
      have hcity : SameUnits s (resolveCity none s i).1 := by
        rcases resolveCity_units none s i with hsame | ⟨hreg, -⟩
        · exact hsame
        · exact absurd rfl hreg
      rw [resolveCitiesFrom]
      split
      · next s₁ e hout => rw [hout] at hcity; exact hcity
      · next s₁ hout => rw [hout] at hcity; exact hcity.trans (ih s₁)

end TurnResolver

/-! ### Production orders -/

namespace ActionProcessor

open GameState

/-- Queueing an order changes a city. -/
theorem enqueueIn_sameUnits {session session' : GameSession} {cityId : CityId}
    {f : BuildQueue → BuildQueue} (h : enqueueIn session cityId f = some session') :
    SameUnits session.state session'.state := by
  rw [enqueueIn] at h
  split at h
  · simp at h
  · obtain ⟨city, -, rfl⟩ := Option.map_eq_some_iff.1 h
    exact ⟨rfl, rfl⟩

theorem processProduceUnit_sameUnits (session : GameSession) (playerId : PlayerId)
    (action : ProduceUnitAction) :
    SameUnits session.state (processProduceUnit session playerId action).1.state := by
  rw [processProduceUnit]
  split
  · exact SameUnits.refl _
  · split
    · exact SameUnits.refl _
    · next session₁ hout => exact enqueueIn_sameUnits hout

theorem processBuild_sameUnits (session : GameSession) (playerId : PlayerId)
    (action : BuildAction) :
    SameUnits session.state (processBuild session playerId action).1.state := by
  rw [processBuild]
  split
  · exact SameUnits.refl _
  · split
    · exact SameUnits.refl _
    · split
      · exact SameUnits.refl _
      · split
        · exact SameUnits.refl _
        · next session₁ hout => exact enqueueIn_sameUnits hout

end ActionProcessor

/-! ### Coherence -/

namespace GameState

open TurnResolver

theorem Coherent.resolveCitiesFrom (unitRegistry : Option UnitTypeRegistry) (is : List ℕ) :
    ∀ {s : GameState}, s.Coherent →
      (TurnResolver.resolveCitiesFrom unitRegistry s is).1.Coherent := by
  induction is with
  | nil => intro s h; exact h
  | cons i is ih =>
      intro s h
      have hcity : (resolveCity unitRegistry s i).1.Coherent := by
        rcases resolveCity_units unitRegistry s i with hsame | ⟨-, u, hadd⟩
        · exact hsame.coherent h
        · exact hadd.coherent (h.addUnit u)
      rw [TurnResolver.resolveCitiesFrom]
      split
      · next s₁ e hout => rw [hout] at hcity; exact hcity
      · next s₁ hout => rw [hout] at hcity; exact ih hcity

/-- Recovering movement leaves every unit in its place. -/
theorem entries_resetMovement (v : UnitVec) :
    (v.mapUnits Unit.resetMovement).entries = v.entries := by
  rw [UnitVec.entries, UnitVec.mapUnits]
  rw [List.map_map]
  refine List.map_congr_left fun p _ => ?_
  unfold Unit.resetMovement Unit.coord
  dsimp only [Function.comp]

/-- **The end of a turn keeps coherence**, also when a city throws. -/
theorem Coherent.resolveTurn {s : GameState} (h : s.Coherent)
    (unitRegistry : Option UnitTypeRegistry) : (resolveTurn s unitRegistry).1.Coherent := by
  have hcities := Coherent.resolveCitiesFrom unitRegistry (List.range s.cities.length) h
  rw [My4X.resolveTurn, resolveCities]
  split
  · next s₁ e hout => rw [hout] at hcities; exact hcities
  · next s₁ hout =>
      rw [hout] at hcities
      exact hcities.of_eq rfl (entries_resetMovement s₁.units)

end GameState

/-! ### The same units -/

/-- The pointers of a vector of units, in order. -/
def UnitVec.refs (v : UnitVec) : List UnitRef := v.list.map (·.ref)

/-- Without a registry of unit types the same units are there after the turn, in the same order. -/
theorem resolveTurn_refs (s : GameState) : (resolveTurn s none).1.units.refs = s.units.refs := by
  have hcities := TurnResolver.resolveCitiesFrom_sameUnits (List.range s.cities.length) s
  rw [resolveTurn, TurnResolver.resolveCities]
  split
  · next s₁ e hout =>
      rw [hout] at hcities
      rw [hcities.units]
  · next s₁ hout =>
      rw [hout] at hcities
      have hsame : s₁.units.refs = s.units.refs := congrArg UnitVec.refs hcities.units
      have hmap : (s₁.units.mapUnits Unit.resetMovement).refs = s₁.units.refs := by
        rw [UnitVec.refs, UnitVec.mapUnits]
        rw [List.map_map]
        rfl
      exact hmap.trans hsame

end My4X
