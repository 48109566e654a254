/-
**Requests and the bounds of the map.**

A request names tiles by any two integers.  The distance of hexagons says nothing about the map, so
that a move may ask for a tile just outside it; the check of the terrain is then an access out of
range.  A city spawns its units next to its centre, and on the centre when there is no room; that
the centre lies in the map is checked nowhere.  This module says exactly which requests and turns
are safe.

Main definitions:

* `My4X.GameState.UnitsInside` — the units stand in the map;
* `My4X.GameSession.Safe` — an operation makes no access out of range, refuses a destination outside
  the map and leaves the units inside;
* `My4X.Effect.InMap` — what is asked for lies in the map.

Main results:

* `My4X.MoveAction.execute_of_outside` — a move to a tile outside the map;
* `My4X.AttackAction.execute_of_inside` — an attack between units in the map returns;
* `My4X.TurnResolver.spawnsInside_of_city` — a city in the map spawns its units in the map;
* `My4X.safe_along_iff` — **a run is safe exactly when every move that gets as far as the check of
  the terrain, and every spawned unit, stays in the map**.
-/

import My4X.SessionRuns
import My4X.Standing
import My4X.Submission

set_option relaxedAutoImplicit false
set_option autoImplicit false

namespace My4X

/-! ### Units in the map -/

namespace GameState

/-- **The units stand in the map.** -/
def UnitsInside (s : GameState) : Prop :=
  ∀ p ∈ s.units.list, InBounds p.unit.row p.unit.col s.map.height s.map.width

instance (s : GameState) : Decidable s.UnitsInside :=
  inferInstanceAs (Decidable (∀ p ∈ s.units.list, _))

theorem Descends.inside {s s' : GameState} (h : Descends s s') (hmap : s'.map = s.map)
    (hs : s.UnitsInside) : s'.UnitsInside := by
  intro p' hp'
  obtain ⟨p, hp, -, hsame, -⟩ := h p' hp'
  rw [hsame.row, hsame.col, hmap]
  exact hs p hp

theorem SameUnits.inside_iff {s s' : GameState} (h : SameUnits s s') (hmap : s'.map = s.map) :
    s'.UnitsInside ↔ s.UnitsInside := by
  unfold UnitsInside
  rw [h.units, hmap]

theorem inside_closeTurn (s : GameState) : s.closeTurn.UnitsInside ↔ s.UnitsInside := by
  constructor
  · intro h p hp
    exact h { p with unit := p.unit.resetMovement } (mem_closeTurn.2 ⟨p, hp, rfl⟩)
  · exact (descends_closeTurn s).inside rfl

theorem inside_addUnit_iff {s : GameState} {u : Unit} :
    (s.addUnit u).1.UnitsInside ↔
      s.UnitsInside ∧ InBounds u.row u.col s.map.height s.map.width := by
  constructor
  · intro h
    exact ⟨fun p hp => h p (UnitVec.mem_push.2 (Or.inl hp)),
      h ⟨s.units.freshRef, u⟩ (UnitVec.mem_push.2 (Or.inr rfl))⟩
  · rintro ⟨hs, hu⟩ p hp
    rcases UnitVec.mem_push.1 hp with hp | rfl
    · exact hs p hp
    · exact hu

theorem inside_relocate {s : GameState} {i : ℕ} {p : OwnedUnit} {u : Unit} (h : s.UnitsInside)
    (hp : s.units.get? i = some p) (hu : InBounds u.row u.col s.map.height s.map.width) :
    (s.relocate i p u).UnitsInside := by
  intro q hq
  rcases UnitVec.mem_set hp hq with rfl | ⟨hq, -⟩
  · exact hu
  · exact h q hq

end GameState

/-! ### Moves -/

namespace MoveAction

/-- The move passes the checks that come before the one of the terrain: the unit is there and alive,
it has movement left, and the destination is at the distance of adjacent tiles. -/
def ReachesTerrain (a : MoveAction) (s : GameState) : Prop :=
  ∃ p, s.units.get? a.unitIndex = some p ∧ p.unit.isAlive = true ∧ 0 < p.unit.movementRemaining ∧
    hexDistance p.unit.row p.unit.col a.destRow a.destCol = adjacentDistance

/-- A move that does not get as far as the check of the terrain is refused. -/
theorem validate_of_not_reaches {a : MoveAction} {s : GameState} (h : ¬ a.ReachesTerrain s) :
    ∃ v, a.validate s = .ok v ∧ v ≠ .valid := by
  rw [validate]
  cases hp : s.units.get? a.unitIndex with
  | none => exact ⟨_, rfl, by decide⟩
  | some p =>
      dsimp only
      rw [validateUnit]
      split
      · exact ⟨_, rfl, by decide⟩
      · next halive =>
          split
          · exact ⟨_, rfl, by decide⟩
          · next hmove =>
              split
              · exact ⟨_, rfl, by decide⟩
              · next hdist =>
                  rw [not_not] at halive hdist
                  exact absurd ⟨p, hp, halive, by omega, hdist⟩ h

/-- A move that does fails or not as the access to the destination does. -/
theorem validate_of_reaches {a : MoveAction} {s : GameState} (h : a.ReachesTerrain s) :
    (∃ v, a.validate s = .ok v) ↔ InBounds a.destRow a.destCol s.map.height s.map.width := by
  obtain ⟨p, hp, halive, hmove, hdist⟩ := h
  rw [← Map.tile_eq_ok_iff, validate]
  simp only [hp, validateUnit, halive, not_true_eq_false, if_false, hdist,
    if_neg (not_le.2 hmove), ne_eq]
  cases s.map.tile a.destRow a.destCol with
  | error e => simp
  | ok t =>
      simp only [Except.ok_bind, Except.ok.injEq, exists_eq', iff_true]
      split
      · exact ⟨_, rfl⟩
      · split
        · exact ⟨_, rfl⟩
        · split <;> exact ⟨_, rfl⟩

/-- A move returns when its validation does. -/
theorem execute_of_validate {a : MoveAction} {s : GameState} {v : MoveValidation}
    (h : a.validate s = .ok v) : ∃ out, a.execute s = .ok out := by
  by_cases hv : v = .valid
  · rw [hv] at h
    obtain ⟨p, u, t, -, -, -, hok⟩ := execute_of_valid h
    exact ⟨_, hok⟩
  · exact ⟨_, execute_of_refused h hv⟩

/-- **A move to a tile outside the map is refused exactly when it does not get as far as the check
of the terrain**; otherwise it does not return. -/
theorem execute_of_outside {a : MoveAction} {s : GameState}
    (h : ¬ InBounds a.destRow a.destCol s.map.height s.map.width) :
    (¬ a.ReachesTerrain s ∧ ∃ r, a.execute s = .ok (s, r) ∧ r.executed = false) ∨
      (a.ReachesTerrain s ∧ ∃ e, a.execute s = .error e) := by
  by_cases hreach : a.ReachesTerrain s
  · refine Or.inr ⟨hreach, ?_⟩
    cases hv : a.validate s with
    | ok v => exact absurd ((validate_of_reaches hreach).1 ⟨v, hv⟩) h
    | error e =>
        refine ⟨e, ?_⟩
        rw [execute, hv]
        rfl
  · obtain ⟨v, hv, hne⟩ := validate_of_not_reaches hreach
    exact Or.inl ⟨hreach, _, execute_of_refused hv hne, rfl⟩

end MoveAction

/-! ### Attacks and captures -/

/-- **An attack between units in the map returns.** -/
theorem AttackAction.execute_of_inside (a : AttackAction) {s : GameState} (h : s.UnitsInside) :
    ∃ out, a.execute s = .ok out := by
  by_cases hv : a.validate s = .valid
  · obtain ⟨p, q, hcheck⟩ := validate_eq_valid hv
    obtain ⟨attackerTile, hattacker⟩ :=
      (Map.tile_eq_ok_iff _ _ _).2 (h p (UnitVec.mem_list_of_get? hcheck.attacker))
    obtain ⟨defenderTile, hdefender⟩ :=
      (Map.tile_eq_ok_iff _ _ _).2 (h q (UnitVec.mem_list_of_get? hcheck.target))
    have hcontext : ∃ context, combatContext s.map p.unit q.unit = .ok context := by
      rw [combatContext, hdefender, hattacker]
      exact ⟨_, rfl⟩
    obtain ⟨context, hc⟩ := hcontext
    obtain ⟨attacker, target, -, hok⟩ := execute_of_valid hv hcheck hc
    exact ⟨_, hok⟩
  · rw [execute, if_pos hv]
    exact ⟨_, rfl⟩

theorem CaptureAction.execute_returns (a : CaptureAction) (s : GameState) :
    ∃ out, a.execute s = .ok out := by
  by_cases hv : a.validate s = .valid
  · obtain ⟨p, i, city, r, -, -, hok⟩ := execute_of_valid hv
    exact ⟨_, hok⟩
  · rw [execute, if_pos hv]
    exact ⟨_, rfl⟩

/-- No action changes the map. -/
theorem GameAction.execute_map {action : GameAction} {s s' : GameState} {executed : Bool}
    (h : action.execute s = .ok (s', executed)) : s'.map = s.map := by
  cases action with
  | move a =>
      obtain ⟨r, hex, -⟩ := GameAction.execute_move.1 h
      obtain ⟨-, ⟨-, -, rfl⟩ | ⟨-, -, p, u, t, -, -, -, rfl⟩⟩ := MoveAction.execute_cases hex
      · rfl
      · rfl
  | attack a =>
      obtain ⟨r, hex, -⟩ := GameAction.execute_attack.1 h
      obtain ⟨-, ⟨-, -, rfl⟩ | ⟨-, -, p, q, attacker, target, -, rfl⟩⟩ :=
        AttackAction.execute_cases hex
      · rfl
      · rw [AttackAction.outcome_eq]
  | capture a =>
      obtain ⟨r, hex, -⟩ := GameAction.execute_capture.1 h
      obtain ⟨-, ⟨-, -, rfl⟩ | ⟨-, -, p, i, city, -, rfl⟩⟩ := CaptureAction.execute_cases hex
      · rfl
      · rfl

/-! ### The turn of a city -/

namespace TurnResolver

open GameState

/-- The unit that a city spawns is put into the map. -/
def SpawnsInside (unitRegistry : Option UnitTypeRegistry) (s : GameState) (i : ℕ) : Prop :=
  ∀ u, spawn? unitRegistry s i = some u → InBounds u.row u.col s.map.height s.map.width

theorem resolveCity_map (unitRegistry : Option UnitTypeRegistry) (s : GameState) (i : ℕ) :
    (resolveCity unitRegistry s i).1.map = s.map := by
  cases hcity : s.cities[i]? with
  | none => rw [resolveCity_of_none unitRegistry hcity]
  | some city =>
      obtain ⟨city', -, -, hworld, -⟩ := resolveCity_spec unitRegistry hcity
      exact hworld.map

/-- The units stand in the map after the turn of a city exactly when they did before and the unit
it spawns does. -/
theorem inside_resolveCity_iff (unitRegistry : Option UnitTypeRegistry) (s : GameState) (i : ℕ) :
    (resolveCity unitRegistry s i).1.UnitsInside ↔
      s.UnitsInside ∧ SpawnsInside unitRegistry s i := by
  have hspawn := resolveCity_spawn unitRegistry s i
  have hmap := resolveCity_map unitRegistry s i
  rw [SpawnsInside]
  cases hu : spawn? unitRegistry s i with
  | none =>
      rw [hu] at hspawn
      rw [hspawn.inside_iff hmap]
      simp
  | some u =>
      rw [hu] at hspawn
      rw [hspawn.inside_iff hmap, inside_addUnit_iff]
      simp

theorem inside_resolveTurn_iff {unitRegistry : Option UnitTypeRegistry} {s : GameState}
    (h : s.UnitsInside) :
    (resolveTurn s unitRegistry).1.UnitsInside ↔
      Runs.Along (cityStep unitRegistry) (SpawnsInside unitRegistry) s
        (List.range s.cities.length) := by
  rw [resolveTurn_iff inside_closeTurn, resolveCities]
  refine resolveCitiesFrom_iff (fun s i h => ?_)
    (fun s i h => ((inside_resolveCity_iff unitRegistry s i).1 h).1) _ s h
  rw [inside_resolveCity_iff]
  exact (and_iff_right h).symm

/-- A city in the map spawns its units in the map. -/
theorem spawnsInside_of_city {unitRegistry : Option UnitTypeRegistry} {s : GameState} {i : ℕ}
    (h : ∀ city, s.cities[i]? = some city →
      InBounds city.centerRow city.centerCol s.map.height s.map.width) :
    SpawnsInside unitRegistry s i := by
  intro u hu
  obtain ⟨city, item, reg, tmpl, hcity, -, -, -, -, rfl⟩ := spawn?_eq_some hu
  have hcentre := h city hcity
  have hspawn : InBounds (findSpawnTile city.centerRow city.centerCol s).1
      (findSpawnTile city.centerRow city.centerCol s).2 s.map.height s.map.width := by
    rw [findSpawnTile]
    cases hfree : (hexNeighbors city.centerRow city.centerCol s.map.height s.map.width).find?
        fun n => (s.registry.unitsAt n.1 n.2).isEmpty with
    | none => exact hcentre
    | some n =>
        have hn := List.mem_of_find?_eq_some hfree
        rw [hexNeighbors, List.mem_filter] at hn
        exact of_decide_eq_true hn.2
  exact hspawn

end TurnResolver

/-! ### Runs -/

/-- **What is asked for lies in the map**: the destination of a move that gets as far as the check
of the terrain, and the tiles of the units that cities spawn, in the state they are spawned in. -/
def Effect.InMap (s : GameState) : Effect → Prop
  | act (.move a) => a.ReachesTerrain s → InBounds a.destRow a.destCol s.map.height s.map.width
  | turn unitRegistry =>
      Runs.Along (TurnResolver.cityStep unitRegistry) (TurnResolver.SpawnsInside unitRegistry) s
        (List.range s.cities.length)
  | nothing | order _ _ | act (.attack _) | act (.capture _) => True

/-- An action that returns leaves the units in the map. -/
theorem Effect.inside_of_returns {s : GameState} (h : s.UnitsInside) {action : GameAction}
    (hout : ∃ out, action.execute s = .ok out) :
    (∃ s', (act action).apply s = some s') ∧
      ∀ s', (act action).apply s = some s' → s'.UnitsInside := by
  obtain ⟨⟨s₁, executed⟩, hex⟩ := hout
  simp only [apply, hex, Option.some.injEq, exists_eq', forall_eq', true_and]
  rcases GameAction.execute_stands hex with ⟨hsame, -⟩ |
    ⟨a, p, u, -, -, hp, hcoord, -, -, hin, rfl⟩
  · exact hsame.inside (GameAction.execute_map hex) h
  · refine GameState.inside_relocate h hp ?_
    rw [Unit.coord, TileCoord.mk.injEq] at hcoord
    rw [hcoord.1, hcoord.2]
    exact hin

/-- A move is carried out exactly when it does not reach for a tile outside the map. -/
theorem MoveAction.returns_iff (a : MoveAction) (s : GameState) :
    (∃ out, (GameAction.move a).execute s = .ok out) ↔ (Effect.act (.move a)).InMap s := by
  rw [Effect.InMap]
  constructor
  · rintro ⟨out, hout⟩ hreach
    by_contra hoff
    rcases MoveAction.execute_of_outside hoff with ⟨hnot, -⟩ | ⟨-, e, herr⟩
    · exact hnot hreach
    · rw [GameAction.execute, herr] at hout
      simp [bind, Except.bind] at hout
  · intro hin
    have hvalidate : ∃ v, a.validate s = .ok v := by
      by_cases hreach : a.ReachesTerrain s
      · exact (MoveAction.validate_of_reaches hreach).2 (hin hreach)
      · obtain ⟨v, hv, -⟩ := MoveAction.validate_of_not_reaches hreach
        exact ⟨v, hv⟩
    obtain ⟨v, hv⟩ := hvalidate
    obtain ⟨out, hout⟩ := MoveAction.execute_of_validate hv
    exact ⟨_, GameAction.execute_move.2 ⟨out.2, hout, rfl⟩⟩

/-- An effect is carried out, and leaves the units in the map, exactly when what it asks for lies in
the map. -/
theorem Effect.inMap_iff {s : GameState} (h : s.UnitsInside) (effect : Effect) :
    ((∃ s', effect.apply s = some s') ∧ ∀ s', effect.apply s = some s' → s'.UnitsInside) ↔
      effect.InMap s := by
  cases effect with
  | nothing => simpa [apply, InMap] using h
  | order i item =>
      simp only [apply, InMap, Option.some.injEq, exists_eq', forall_eq', true_and, iff_true]
      rw [GameState.order]
      split
      · exact h
      · exact h
  | turn unitRegistry =>
      rw [InMap, ← TurnResolver.inside_resolveTurn_iff h]
      simp [apply]
  | act action =>
      cases action with
      | attack a =>
          obtain ⟨out, hout⟩ := a.execute_of_inside h
          have hret : ∃ out, (GameAction.attack a).execute s = .ok out :=
            ⟨_, GameAction.execute_attack.2 ⟨out.2, hout, rfl⟩⟩
          simpa only [InMap, iff_true] using inside_of_returns h hret
      | capture a =>
          obtain ⟨out, hout⟩ := a.execute_returns s
          have hret : ∃ out, (GameAction.capture a).execute s = .ok out :=
            ⟨_, GameAction.execute_capture.2 ⟨out.2, hout, rfl⟩⟩
          simpa only [InMap, iff_true] using inside_of_returns h hret
      | move a =>
          rw [← a.returns_iff s]
          constructor
          · rintro ⟨⟨s', hs'⟩, -⟩
            rw [apply] at hs'
            cases hex : (GameAction.move a).execute s with
            | error e => rw [hex] at hs'; simp at hs'
            | ok out => exact ⟨out, rfl⟩
          · exact inside_of_returns h

/-- **An operation is safe**: it makes no access out of range, it leaves the units in the map, and a
destination outside the map is refused without a change. -/
structure GameSession.Safe (session : GameSession) (op : SessionOp) : Prop where
  returns : ∃ session', session.step op = some session'
  inside : ∀ session', session.step op = some session' → session'.state.UnitsInside
  refused : ∀ playerId a, op = .processAction playerId (.game (.move a)) →
    ¬ InBounds a.destRow a.destCol session.state.map.height session.state.map.width →
    ∃ result, ActionProcessor.processAction session playerId (.game (.move a)) =
      (session, .ok result) ∧ result.success = false

/-- **One operation is safe exactly when what it asks for lies in the map.** -/
theorem GameSession.safe_iff {session : GameSession} (h : session.state.UnitsInside)
    (op : SessionOp) : session.Safe op ↔ (op.effect session).InMap session.state := by
  have hstep := session.step_state op
  rw [← Effect.inMap_iff h]
  constructor
  · rintro ⟨⟨session', hs'⟩, hinside, -⟩
    rw [hs', Option.map_some] at hstep
    refine ⟨⟨_, hstep.symm⟩, fun s' hs => ?_⟩
    rw [← hstep] at hs
    obtain rfl := Option.some_inj.1 hs
    exact hinside session' hs'
  · rintro ⟨⟨s', hs'⟩, hinside⟩
    have hreturns : ∃ session', session.step op = some session' := by
      rw [hs'] at hstep
      obtain ⟨session', hsession, -⟩ := Option.map_eq_some_iff.1 hstep
      exact ⟨session', hsession⟩
    refine ⟨hreturns, fun session' hsession => ?_, ?_⟩
    · refine hinside _ ?_
      rw [← hstep, hsession]
      rfl
    · rintro playerId a rfl hout
      cases hvalid : ActionProcessor.validatePlayer session playerId with
      | some error =>
          refine ⟨error, ?_, validatePlayer_fails hvalid⟩
          rw [ActionProcessor.processAction, hvalid]
      | none =>
          simp only [SessionOp.effect, hvalid, SessionOp.actionEffect] at hs'
          rcases MoveAction.execute_of_outside hout with ⟨-, r, hex, hr⟩ | ⟨-, e, herr⟩
          · refine ⟨ActionProcessor.moveReport playerId r, ?_, ?_⟩
            · rw [ActionProcessor.processAction, hvalid]
              simp only [ActionProcessor.processGameAction, hex, Except.ok_bind]
              rfl
            · rw [ActionProcessor.moveReport_success, hr]
          · simp [Effect.apply, GameAction.execute, herr] at hs'

/-- A warrior in the corner of the map, of a connected player. -/
def cornerSession : GameSession :=
  { state := (plainField.addUnit (Unit.create 0 0 warriorTemplate 1)).1
    players := AList.insert 7 { playerId := 7, factionId := 1 } ∅ }

/-- **A run of requests and turns is safe exactly when every move that gets as far as the check of
the terrain, and every spawned unit, stays in the map.** -/
theorem safe_along_iff (session : GameSession) (h : session.state.UnitsInside)
    (ops : List SessionOp) :
    Runs.Along GameSession.step GameSession.Safe session ops ↔
      Runs.Along GameSession.step (fun session op => (op.effect session).InMap session.state)
        session ops := by
  refine Runs.along_congr_of_kept (I := fun session => session.state.UnitsInside)
    (D := fun _ _ => True) (fun session op hs _ => GameSession.safe_iff hs op)
    (fun session op session' _ _ hsafe => hsafe.inside session') ops session h ?_
  exact Runs.along_of_forall (fun _ _ => trivial) ops session

theorem cornerSession_along_iff :
    cornerSession.state.UnitsInside ∧
      (Runs.Along GameSession.step GameSession.Safe cornerSession
          [.processAction 7 (.game (.move { unitIndex := 0, destRow := 0, destCol := 1 })),
            .processAction 7 .endTurn] ↔
        Runs.Along GameSession.step (fun session op => (op.effect session).InMap session.state)
          cornerSession
          [.processAction 7 (.game (.move { unitIndex := 0, destRow := 0, destCol := 1 })),
            .processAction 7 .endTurn]) :=
  ⟨by decide, safe_along_iff cornerSession (by decide) _⟩

/-- A warrior in the corner is asked to leave the map: the request does not return. -/
theorem move_off_the_map :
    cornerSession.state.UnitsInside ∧
      (ActionProcessor.processAction cornerSession 7
        (.game (.move { unitIndex := 0, destRow := -1, destCol := 0 }))).2 = .error .assertion :=
  ⟨by decide, rfl⟩

end My4X
