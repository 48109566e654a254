/-
**Stopping in a zone of control.**

A unit that enters the zone of control of an enemy must stop there; the search for a path knows
this rule, and the validation of a single move does not.  This module keeps a record of the moves
that are executed in a turn, from which the path of each unit is read off, and says exactly when
every unit stops where it should.

Main definitions:

* `My4X.Leg` — an executed move: where it starts and ends, and what the zones of control say;
* `My4X.ZocPath` — a path that the search with zones of control would allow;
* `My4X.ZocRespected` — units stop in zones of control, and their paths would be allowed;
* `My4X.StaysStopped` — a move is not that of a stopped unit, or is refused for another reason.

Main results:

* `My4X.GameState.Trailed.step` — the legs of a unit form a path, and no leg crosses a zone;
* `My4X.zocRespected_along_iff` — **zones of control are respected along a run of moves exactly
  when no stopped unit is sent on**.
-/

import My4X.MoveReplay
import Mathlib.Data.List.Chain

set_option relaxedAutoImplicit false
set_option autoImplicit false

namespace My4X

/-! ### Legs -/

/-- **An executed move**: the unit, its tiles before and after, whether the move goes from the zone
of an enemy to another tile of it, and whether it ends in the zone of an enemy. -/
structure Leg where
  unitIndex : ℕ
  source : TileCoord
  dest : TileCoord
  crosses : Bool
  stops : Bool

/-- The leg of a move of a unit that takes one state to another. -/
def MoveAction.leg (a : MoveAction) (s s' : GameState) (p : OwnedUnit) : Leg where
  unitIndex := a.unitIndex
  source := p.unit.coord
  dest := ⟨a.destRow, a.destCol⟩
  crosses := isMovementBlockedByZoc p.unit.row p.unit.col a.destRow a.destCol p.unit.factionId s.map
    s.registry s.units s.diplomacy
  stops :=
    isInEnemyZoc a.destRow a.destCol p.unit.factionId s'.map s'.registry s'.units s'.diplomacy

/-- A request for a move; a refused one leaves the state as it is. -/
def requestMove (s : GameState) (a : MoveAction) : Option GameState :=
  match a.execute s with
  | .ok (s', _) => some s'
  | .error _ => none

/-- The record over a request: an executed move adds its leg. -/
def legsAfter (s : GameState) (legs : List Leg) (a : MoveAction) : List Leg :=
  match moveStep s a, s.units.get? a.unitIndex with
  | some s', some p => legs ++ [a.leg s s' p]
  | _, _ => legs

/-- The legs of one unit. -/
def trail (legs : List Leg) (i : ℕ) : List Leg := legs.filter fun leg => leg.unitIndex = i

theorem trail_append_one (legs : List Leg) (leg : Leg) (i : ℕ) :
    trail (legs ++ [leg]) i =
      if leg.unitIndex = i then trail legs i ++ [leg] else trail legs i := by
  rw [trail, List.filter_append, List.filter_singleton]
  split
  · next h => rw [decide_eq_true h]; rfl
  · next h => rw [decide_eq_false h]; exact List.append_nil _

/-! ### What is to hold -/

/-- **A path that the search with zones of control would allow**: every leg starts where the one
before it ends, none goes from one tile of an enemy zone to another, and only the last one ends in
such a zone. -/
structure ZocPath (path : List Leg) : Prop where
  joined : path.IsChain fun leg leg' => leg.dest = leg'.source
  uncrossed : ∀ leg ∈ path, leg.crosses = false
  through : ∀ leg ∈ path.dropLast, leg.stops = false

/-- **Zones of control are respected**: after a move that ends in the zone of an enemy no move of
the unit is executed, and the path of every unit would be allowed. -/
structure ZocRespected (legs : List Leg) : Prop where
  stopped : legs.Pairwise fun leg leg' => leg.unitIndex = leg'.unitIndex → leg.stops = false
  paths : ∀ i, ZocPath (trail legs i)

/-- **No stopped unit is sent on**: when a leg of the unit has ended in the zone of an enemy, the
move is one that the unit cannot afford or that a zone of control blocks. -/
def StaysStopped (x : GameState × List Leg) (a : MoveAction) : Prop :=
  ∀ leg ∈ x.2, leg.unitIndex = a.unitIndex → leg.stops = true →
    ∀ p tile, x.1.units.get? a.unitIndex = some p → a.Affords x.1.map p.unit tile →
      a.Crosses x.1 p.unit

/-! ### One request -/

/-- What the record says about the state in every run: the legs of a unit form a path to the tile
the unit stands on, and no leg crosses a zone of control. -/
structure GameState.Trailed (s : GameState) (legs : List Leg) : Prop where
  joined : ∀ i, (trail legs i).IsChain fun leg leg' => leg.dest = leg'.source
  uncrossed : ∀ leg ∈ legs, leg.crosses = false
  position : ∀ i, ∀ leg ∈ (trail legs i).getLast?, ∃ p, s.units.get? i = some p ∧
    p.unit.coord = leg.dest

theorem GameState.trailed_nil (s : GameState) : s.Trailed [] where
  joined _ := List.isChain_nil
  uncrossed _ h := absurd h List.not_mem_nil
  position _ _ h := by simp [trail] at h

/-- A request that is granted executes the move; another one changes nothing. -/
theorem requestMove_cases {s s' : GameState} {a : MoveAction} (h : requestMove s a = some s') :
    moveStep s a = some s' ∨ (moveStep s a = none ∧ s' = s ∧ a.validate s ≠ .ok .valid) := by
  rw [requestMove] at h
  split at h
  · next s₁ r hex =>
      obtain rfl := Option.some_inj.1 h
      obtain ⟨hv, ⟨hf, hr, rfl⟩ | ⟨ht, -, -⟩⟩ := MoveAction.execute_cases hex
      · refine Or.inr ⟨?_, rfl, ?_⟩
        · rw [moveStep, hex]
          exact if_neg (by rw [hf]; simp)
        · rw [hv]
          exact fun h => hr (Except.ok.inj h)
      · exact Or.inl (moveStep_eq_some.2 ⟨r, hex, ht⟩)
  · simp at h

theorem requestMove_of_moveStep {s s' : GameState} {a : MoveAction} (h : moveStep s a = some s') :
    requestMove s a = some s' := by
  obtain ⟨r, hex, -⟩ := moveStep_eq_some.1 h
  rw [requestMove, hex]

/-- What an executed move does to the record. -/
theorem legsAfter_of_moveStep {s s' : GameState} {a : MoveAction} (h : moveStep s a = some s')
    (legs : List Leg) :
    ∃ p u, s.units.get? a.unitIndex = some p ∧ ¬ a.Crosses s p.unit ∧
      u.coord = ⟨a.destRow, a.destCol⟩ ∧ s' = s.relocate a.unitIndex p u ∧
      legsAfter s legs a = legs ++ [a.leg s s' p] := by
  obtain ⟨hv, p, u, t, hp, -, hmove, hs'⟩ := moveStep_cases h
  obtain ⟨p', -, hp', -, hzoc⟩ := MoveAction.validate_eq_valid_iff.1 hv
  obtain rfl := Option.some_inj.1 (hp.symm.trans hp')
  refine ⟨p, u, hp, hzoc, ?_, hs', ?_⟩
  · obtain ⟨-, -, hrow, hcol, -⟩ := Unit.moveTo_eq_ok hmove
    exact TileCoord.ext_iff'.2 ⟨hrow, hcol⟩
  · rw [legsAfter, h, hp]

theorem legsAfter_of_refused {s : GameState} {a : MoveAction} (h : moveStep s a = none)
    (legs : List Leg) : legsAfter s legs a = legs := by
  rw [legsAfter, h]

/-- **The legs of every unit form a path to its tile, in every run.** -/
theorem GameState.Trailed.step {s s' : GameState} {legs : List Leg} {a : MoveAction}
    (h : s.Trailed legs) (hstep : requestMove s a = some s') : s'.Trailed (legsAfter s legs a) := by
  rcases requestMove_cases hstep with hmove | ⟨hnone, rfl, -⟩
  · obtain ⟨p, u, hp, hzoc, hu, rfl, hlegs⟩ := legsAfter_of_moveStep hmove legs
    rw [hlegs]
    constructor
    · intro i
      rw [trail_append_one]
      split
      · next hi =>
          refine (h.joined i).append (List.isChain_singleton _) ?_
          intro leg hleg leg' hleg'
          obtain rfl := Option.some_inj.1 hleg'
          obtain ⟨q, hq, hcoord⟩ := h.position i leg hleg
          rw [← hi] at hq
          obtain rfl := Option.some_inj.1 (hp.symm.trans hq)
          exact hcoord.symm
      · exact h.joined i
    · intro leg hleg
      rcases List.mem_append.1 hleg with hleg | hleg
      · exact h.uncrossed leg hleg
      · obtain rfl := List.mem_singleton.1 hleg
        exact Bool.eq_false_of_not_eq_true hzoc
    · intro i leg hleg
      rw [trail_append_one] at hleg
      dsimp only [GameState.relocate]
      split at hleg
      · next hi =>
          rw [List.getLast?_concat] at hleg
          obtain rfl := Option.some_inj.1 hleg
          obtain rfl : a.unitIndex = i := hi
          rw [UnitVec.get?_set, if_pos rfl, hp]
          exact ⟨_, rfl, hu⟩
      · next hi =>
          rw [UnitVec.get?_set, if_neg (show ¬ a.unitIndex = i from hi)]
          exact h.position i leg hleg
  · rw [legsAfter_of_refused hnone]
    exact h

/-- **A request keeps zones of control respected exactly when it does not send a stopped unit
on.** -/
theorem zocRespected_iff {s : GameState} {legs : List Leg} (htrail : s.Trailed legs)
    (h : ZocRespected legs) (a : MoveAction) :
    (∀ s', requestMove s a = some s' → ZocRespected (legsAfter s legs a)) ↔
      StaysStopped (s, legs) a := by
  constructor
  · intro hkeep leg hleg hunit hstop p tile hp hafford
    by_contra hzoc
    obtain ⟨s', hmove⟩ := exists_moveStep_iff.2 ⟨p, tile, hp, hafford, hzoc⟩
    obtain ⟨q, -, -, -, -, -, hlegs⟩ := legsAfter_of_moveStep hmove legs
    have hstopped := (hkeep s' (requestMove_of_moveStep hmove)).stopped
    rw [hlegs, List.pairwise_append] at hstopped
    have hgoes := hstopped.2.2 leg hleg _ (List.mem_singleton.2 rfl) hunit
    rw [hstop] at hgoes
    simp at hgoes
  · intro hstays s' hstep
    have htrail' := htrail.step hstep
    rcases requestMove_cases hstep with hmove | ⟨hnone, -, -⟩
    · obtain ⟨p, u, hp, hzoc, -, -, hlegs⟩ := legsAfter_of_moveStep hmove legs
      rw [hlegs] at htrail' ⊢
      -- no leg of the unit has stopped, as the move would have been refused
      have hgoes : ∀ leg ∈ legs, leg.unitIndex = a.unitIndex → leg.stops = false := by
        intro leg hleg hunit
        obtain ⟨q, tile, hq, hafford, hzoc'⟩ := exists_moveStep_iff.1 ⟨s', hmove⟩
        exact Bool.eq_false_of_not_eq_true fun hstop =>
          hzoc' (hstays leg hleg hunit hstop q tile hq hafford)
      refine ⟨?_, fun i => ⟨htrail'.joined i, fun leg hleg => htrail'.uncrossed leg
        (List.mem_filter.1 hleg).1, ?_⟩⟩
      · rw [List.pairwise_append]
        refine ⟨h.stopped, List.pairwise_singleton _ _, fun leg hleg leg' hleg' hunit => ?_⟩
        obtain rfl := List.mem_singleton.1 hleg'
        exact hgoes leg hleg hunit
      · rw [trail_append_one]
        split
        · next hi =>
            rw [List.dropLast_concat]
            intro leg hleg
            obtain ⟨hmem, hunit⟩ := List.mem_filter.1 hleg
            exact hgoes leg hmem ((of_decide_eq_true hunit).trans hi.symm)
        · exact (h.paths i).through
    · rw [legsAfter_of_refused hnone]
      exact h

/-! ### Runs -/

theorem zocRespected_nil : ZocRespected [] where
  stopped := List.Pairwise.nil
  paths _ := ⟨List.isChain_nil, fun _ h => absurd h List.not_mem_nil,
    fun _ h => absurd h List.not_mem_nil⟩

/-- **Zones of control are respected along a run of moves exactly when no stopped unit is sent
on.** -/
theorem zocRespected_along_iff (s : GameState) (moves : List MoveAction) :
    Runs.Along (Runs.recorded requestMove legsAfter)
        (fun x a => ∀ y, Runs.recorded requestMove legsAfter x a = some y → ZocRespected y.2)
        (s, []) moves ↔
      Runs.Along (Runs.recorded requestMove legsAfter) StaysStopped (s, []) moves := by
  refine Runs.along_recorded_keeps_iff requestMove legsAfter
    (I := fun x : GameState × List Leg => ZocRespected x.2) (J := fun x => x.1.Trailed x.2)
    (fun x a y hx hy => ?_) (fun x a htrail hx => zocRespected_iff htrail hx a) moves _
    s.trailed_nil zocRespected_nil
  obtain ⟨hstep, hrecord⟩ := (Runs.recorded_eq_some _ _).1 hy
  rw [hrecord]
  exact hx.step hstep

/-- Two warriors at war, two tiles apart. -/
def warField : GameState :=
  let s := ((plainField.addUnit (Unit.create 0 0 warriorTemplate 1)).1.addUnit
    (Unit.create 0 2 warriorTemplate 2)).1
  { s with diplomacy := s.diplomacy.setRelation 1 2 .war }

/-- A warrior steps next to its enemy and back again. -/
theorem warrior_leaves_zone :
    ∃ x, Runs.run (Runs.recorded requestMove legsAfter) (warField, [])
        [{ unitIndex := 0, destRow := 0, destCol := 1 },
          { unitIndex := 0, destRow := 0, destCol := 0 }] = some x ∧ ¬ ZocRespected x.2 := by
  refine ⟨_, rfl, fun h => ?_⟩
  have hstop := List.rel_of_pairwise_cons h.stopped (List.mem_singleton.2 rfl) rfl
  exact absurd hstop (by decide)

end My4X
