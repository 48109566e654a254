/-
**Rolling back the last prediction.**

A rejected prediction is rolled back by writing the snapshot of the acting unit over it.  The
snapshot holds what a move changes.  It holds neither the target of an attack nor the city of a
capture, so that rejecting the last prediction restores the state for moves only.

Main definitions:

* `My4X.SameUpToOrder` — two states differ at most in the order of the units of a tile;
* `My4X.RejectRestores` — an action that is predicted and rejected at once leaves no trace.

Main results:

* `My4X.rollback_move` — rolling back a move;
* `My4X.rejectRestores_iff` — **predicting and rejecting an action leaves no trace exactly when the
  action is a move or is not applied at all**;
* `My4X.rejected_attack_leaves_trace` — an attack that leaves its target hurt.
-/

import My4X.Prediction
import My4X.Submission

set_option relaxedAutoImplicit false
set_option autoImplicit false

namespace My4X

open PredictionManager

/-! ### States up to the order of the registry -/

/-- Two states are the same up to the order in which the registry lists the units of a tile. -/
structure SameUpToOrder (s t : GameState) : Prop where
  rest : { s with registry := t.registry } = t
  cities : s.registry.cities = t.registry.cities
  buildings : s.registry.buildings = t.registry.buildings
  units : ∀ row col, (s.registry.unitsAt row col).Perm (t.registry.unitsAt row col)

theorem SameUpToOrder.refl (s : GameState) : SameUpToOrder s s :=
  ⟨rfl, rfl, rfl, fun _ _ => List.Perm.refl _⟩

theorem SameUpToOrder.symm {s t : GameState} (h : SameUpToOrder s t) : SameUpToOrder t s where
  rest := by
    rw [← h.rest]
  cities := h.cities.symm
  buildings := h.buildings.symm
  units := fun row col => (h.units row col).symm

theorem SameUpToOrder.trans {s t u : GameState} (h : SameUpToOrder s t) (h' : SameUpToOrder t u) :
    SameUpToOrder s u where
  rest := by
    rw [← h'.rest, ← h.rest]
  cities := h.cities.trans h'.cities
  buildings := h.buildings.trans h'.buildings
  units := fun row col => (h.units row col).trans (h'.units row col)

theorem SameUpToOrder.units_eq {s t : GameState} (h : SameUpToOrder s t) : s.units = t.units := by
  rw [← h.rest]

theorem SameUpToOrder.cities_eq {s t : GameState} (h : SameUpToOrder s t) :
    s.cities = t.cities := by
  rw [← h.rest]

/-- In coherent states the lists of the registry need not be compared. -/
theorem sameUpToOrder_of_coherent {s t : GameState} (hs : s.Coherent) (ht : t.Coherent)
    (hrest : { s with registry := t.registry } = t)
    (hcities : s.registry.cities = t.registry.cities)
    (hbuildings : s.registry.buildings = t.registry.buildings) : SameUpToOrder s t where
  rest := hrest
  cities := hcities
  buildings := hbuildings
  units := by
    intro row col
    have hunits : s.units = t.units := by rw [← hrest]
    rw [GameState.Coherent] at hs
    rw [hunits] at hs
    exact hs.refsAt_perm ht ⟨row, col⟩

/-! ### Writing back a snapshot -/

/-- Writing its own values over a unit that is not below zero changes nothing. -/
theorem overwrite_self {u : Unit} (hh : 0 ≤ u.health) (hm : 0 ≤ u.movementRemaining) :
    overwrite u u.health u.movementRemaining u.row u.col = u := by
  have hhealth := Unit.setHealth_self (u := u) (v := u) rfl hh
  have hmove := Unit.setMovementRemaining_self (u := u) (v := u) rfl hm
  rw [overwrite]
  cases u
  simp only [Unit.setHealth, Unit.setMovementRemaining] at hhealth hmove
  simp only [Unit.setPosition, Unit.setMovementRemaining, Unit.setHealth, hhealth, hmove]

/-- A move changes nothing but what is written back. -/
theorem overwrite_moveTo {u u' : Unit} {row col cost : ℤ} (hu : u.moveTo row col cost = .ok u')
    (h m r c : ℤ) : overwrite u' h m r c = overwrite u h m r c := by
  rw [Unit.moveTo] at hu
  split at hu
  · obtain rfl := Except.ok.inj hu
    rfl
  · simp at hu

/-- **Rolling back a move** writes the unit back as it was. -/
theorem rollback_move {s s' : GameState} (hcoh : s.Coherent) {a : MoveAction} {r : MoveResult}
    (hex : a.execute s = .ok (s', r)) (hr : r.executed = true) (id : SequenceId) :
    SameUpToOrder s (rollbackPrediction s'
      { sequenceId := id, action := .move a, snapshot := captureSnapshot s (.move a) }) := by
  have hcoh' : s'.Coherent := hcoh.move hex
  obtain ⟨hv, p, u, t, hp, -, hmove, rfl⟩ := MoveAction.cases_of_executed hex hr
  obtain ⟨p', t', hp', halive, -⟩ := MoveAction.validate_eq_valid hv
  obtain rfl := Option.some_inj.1 (hp.symm.trans hp')
  obtain ⟨hpos, hcost, -⟩ := Unit.moveTo_eq_ok hmove
  have hhealth : 0 < p.unit.health := of_decide_eq_true halive
  have hback : overwrite u p.unit.health p.unit.movementRemaining p.unit.row p.unit.col =
      p.unit := by
    rw [overwrite_moveTo hmove]
    exact overwrite_self hhealth.le (by omega)
  have hsnap : captureSnapshot s (.move a) =
      { unitIndex := a.unitIndex, row := p.unit.row, col := p.unit.col, health := p.unit.health
        movementRemaining := p.unit.movementRemaining, alive := p.unit.isAlive } := by
    rw [captureSnapshot, GameAction.actorIndex]
    rw [hp]
  have hat : (s.relocate a.unitIndex p u).units.get? a.unitIndex = some ⟨p.ref, u⟩ := by
    simp only [GameState.relocate, UnitVec.get?_set, if_true, hp, Option.map_some]
  refine sameUpToOrder_of_coherent hcoh (hcoh'.rollbackPrediction _) ?_ ?_ ?_
  · simp only [rollbackPrediction, hsnap, hat, hback]
    -- the unit list is the one before the move
    have hunits : (s.units.set a.unitIndex u).set a.unitIndex p.unit = s.units := by
      refine UnitVec.ext_get? fun j => ?_
      rw [UnitVec.get?_set, UnitVec.get?_set]
      split
      · next hj =>
          subst hj
          rw [hp]
          rfl
      · rfl
    simp only [GameState.relocate, hunits]
  · simp only [rollbackPrediction, hsnap, hat]
    rfl
  · simp only [rollbackPrediction, hsnap, hat]
    rfl

/-! ### Predicting and rejecting at once -/

/-- Rejecting an action right after predicting it leaves no trace in the state. -/
def RejectRestores (m : PredictionManager) (session : GameSession) (playerId : PlayerId)
    (action : GameAction) : Prop :=
  ∀ m' session' id, m.predictAction session playerId action = .ok (m', session', some id) →
    ∃ m'' session'', m'.rejectAction session' id = .ok (m'', session'', true) ∧
      SameUpToOrder session.state session''.state

/-- The prediction of an action that is applied. -/
theorem predictAction_of_executed {m : PredictionManager} {session : GameSession}
    {playerId : PlayerId} {action : GameAction} {state : GameState}
    (hplayer : session.hasPlayer playerId = true)
    (hex : action.execute session.state = .ok (state, true)) :
    m.predictAction session playerId action =
      .ok ({ nextSequenceId := m.nextSequenceId + 1
             pending := m.pending ++ [{ sequenceId := m.nextSequenceId, action
                                        snapshot := captureSnapshot session.state action }] },
        session.setState state, some m.nextSequenceId) := by
  rw [predictAction, GameSession.applyAction]
  simp only [hplayer, not_true_eq_false, if_false, hex, Except.ok_bind]
  rfl

/-- Rejecting the prediction just made rolls back that one alone. -/
theorem rejectAction_last (m : PredictionManager) (session : GameSession)
    (pred : PendingPrediction) (next : SequenceId)
    (hfresh : ∀ p ∈ m.pending, p.sequenceId ≠ pred.sequenceId) :
    ({ nextSequenceId := next, pending := m.pending ++ [pred] } :
        PredictionManager).rejectAction session pred.sequenceId =
      .ok ({ nextSequenceId := next, pending := m.pending },
        session.setState (rollbackPrediction session.state pred), true) := by
  rw [rejectAction_of_split session rfl hfresh]
  show Except.ok _ = _
  rw [List.append_nil]
  rfl

/-- The state after predicting an action that is applied, and rejecting it. -/
theorem rejectRestores_iff_of_executed {m : PredictionManager} {session : GameSession}
    {playerId : PlayerId} {action : GameAction} {state : GameState}
    (hfresh : m.isPending m.nextSequenceId = false)
    (hplayer : session.hasPlayer playerId = true)
    (hex : action.execute session.state = .ok (state, true)) :
    RejectRestores m session playerId action ↔
      SameUpToOrder session.state (rollbackPrediction state
        { sequenceId := m.nextSequenceId, action
          snapshot := captureSnapshot session.state action }) := by
  have hne : ∀ p ∈ m.pending, p.sequenceId ≠ m.nextSequenceId := by
    rw [isPending] at hfresh
    rw [List.any_eq_false] at hfresh
    intro p hp
    simpa using hfresh p hp
  have hpred := predictAction_of_executed (m := m) hplayer hex
  constructor
  · intro h
    obtain ⟨m'', session'', hrej, hsame⟩ := h _ _ _ hpred
    have hlast := rejectAction_last m (session.setState state)
      { sequenceId := m.nextSequenceId, action, snapshot := captureSnapshot session.state action }
      (m.nextSequenceId + 1) hne
    obtain ⟨-, hout⟩ := Prod.mk.inj (Except.ok.inj (hrej.symm.trans hlast))
    obtain ⟨rfl, -⟩ := Prod.mk.inj hout
    exact hsame
  · intro h m' session' id hpred'
    obtain ⟨rfl, hout⟩ := Prod.mk.inj (Except.ok.inj (hpred'.symm.trans hpred))
    obtain ⟨rfl, hid⟩ := Prod.mk.inj hout
    obtain rfl := Option.some_inj.1 hid
    exact ⟨_, _, rejectAction_last _ _ _ _ hne, h⟩

/-- A snapshot is never written over another unit, nor over a city. -/
theorem rollbackPrediction_frame (s : GameState) (pred : PendingPrediction) :
    (rollbackPrediction s pred).cities = s.cities ∧
      (rollbackPrediction s pred).units.size = s.units.size ∧
      ∀ j, pred.snapshot.unitIndex ≠ j →
        (rollbackPrediction s pred).units.get? j = s.units.get? j := by
  unfold rollbackPrediction
  dsimp only
  split
  · exact ⟨rfl, rfl, fun _ _ => rfl⟩
  · refine ⟨rfl, UnitVec.size_set .., ?_⟩
    intro j hj
    simp only [GameState.relocate, UnitVec.get?_set, if_neg hj]

theorem captureSnapshot_unitIndex (s : GameState) (action : GameAction) :
    (captureSnapshot s action).unitIndex = action.actorIndex := by
  rw [captureSnapshot]
  split <;> rfl

/-- An attack leaves a trace that the snapshot of the attacker does not hold. -/
theorem not_sameUpToOrder_attack {s s' : GameState} {a : AttackAction}
    (hex : (GameAction.attack a).execute s = .ok (s', true)) (id : SequenceId) :
    ¬ SameUpToOrder s (rollbackPrediction s'
      { sequenceId := id, action := .attack a, snapshot := captureSnapshot s (.attack a) }) := by
  obtain ⟨r, hattack, hexec⟩ := GameAction.execute_attack.1 hex
  intro hsame
  obtain ⟨-, hsize, hothers⟩ := rollbackPrediction_frame s'
    { sequenceId := id, action := .attack a, snapshot := captureSnapshot s (.attack a) }
  rw [← hsame.units_eq] at hsize hothers
  obtain ⟨-, p, q, attacker, target, hround, rfl⟩ := AttackAction.cases_of_executed hattack hexec
  -- a dead unit is gone, and a target that lives is hurt
  have hgone : ∀ i p', (a.fought s attacker target).units.get? i = some p' →
      ((a.fought s attacker target).dropUnit i p').units.size ≠ s.units.size := by
    intro i p' hi
    have hless := GameState.size_dropUnit hi
    rw [AttackAction.size_fought] at hless
    omega
  simp only [AttackAction.outcome] at hsize hothers
  split at hsize
  · exact hgone _ _ (AttackAction.fought_get?_target hround.checked attacker target) hsize.symm
  · next hlives =>
      rw [if_neg hlives] at hothers
      split at hsize
      · exact hgone _ _ (AttackAction.fought_get?_attacker hround.checked attacker target)
          hsize.symm
      · next hattacker =>
          rw [if_neg hattacker] at hothers
          have hne : (captureSnapshot s (.attack a)).unitIndex ≠ a.targetIndex := by
            rw [captureSnapshot_unitIndex]
            exact hround.checked.index_ne
          have htarget := hothers a.targetIndex hne
          rw [AttackAction.fought_get?_target hround.checked, hround.checked.target] at htarget
          have hunit : q.unit = target := (congrArg OwnedUnit.unit (Option.some_inj.1 htarget))
          have hhurt := hround.target_hurt
          rw [hunit] at hhurt
          exact lt_irrefl _ hhurt

/-- A capture leaves a city with a new owner. -/
theorem not_sameUpToOrder_capture {s s' : GameState} {a : CaptureAction}
    (hex : (GameAction.capture a).execute s = .ok (s', true)) (id : SequenceId) :
    ¬ SameUpToOrder s (rollbackPrediction s'
      { sequenceId := id, action := .capture a, snapshot := captureSnapshot s (.capture a) }) := by
  obtain ⟨r, hcapture, hexec⟩ := GameAction.execute_capture.1 hex
  intro hsame
  have hcities := hsame.cities_eq
  rw [(rollbackPrediction_frame _ _).1] at hcities
  obtain ⟨-, ⟨hf, -⟩ | ⟨-, -, p, i, city, htaken, rfl⟩⟩ := CaptureAction.execute_cases hcapture
  · exact absurd (hexec.symm.trans hf) (by simp)
  · -- the captured city would have had the new owner all along
    have hget := htaken.get
    rw [hcities] at hget
    simp only [GameState.setCity] at hget
    rw [List.getElem?_set_self (List.getElem?_eq_some_iff.1 htaken.get).1] at hget
    have hcity : CaptureAction.captured city p.unit = city := Option.some_inj.1 hget
    have howner : city.factionId = p.unit.factionId.toInt32 := by
      rw [← hcity]
      rfl
    refine htaken.enemy ?_
    rw [City.owner, howner]
    rfl

/-- **Predicting and rejecting an action leaves no trace exactly when the action is a move or is not
applied at all.** -/
theorem rejectRestores_iff (m : PredictionManager) (session : GameSession) (playerId : PlayerId)
    (action : GameAction) (hcoh : session.state.Coherent)
    (hfresh : m.isPending m.nextSequenceId = false) :
    RejectRestores m session playerId action ↔
      (∃ a, action = .move a) ∨ session.hasPlayer playerId = false ∨
        ¬ action.Accepted session.state ∨ ¬ action.OnMap session.state := by
  by_cases hplayer : session.hasPlayer playerId = true
  · by_cases hexec : action.Accepted session.state ∧ action.OnMap session.state
    · obtain ⟨state, hex⟩ := (GameAction.executed_iff action session.state).2 hexec
      rw [rejectRestores_iff_of_executed hfresh hplayer hex]
      have hnot : ¬ (session.hasPlayer playerId = false ∨ ¬ action.Accepted session.state ∨
          ¬ action.OnMap session.state) := by
        intro h
        rcases h with h | h | h
        · rw [hplayer] at h
          simp at h
        · exact h hexec.1
        · exact h hexec.2
      cases action with
      | move a =>
          obtain ⟨r, hmove, hexecuted⟩ := GameAction.execute_move.1 hex
          exact ⟨fun _ => Or.inl ⟨a, rfl⟩, fun _ => rollback_move hcoh hmove hexecuted _⟩
      | attack a =>
          refine iff_of_false (not_sameUpToOrder_attack hex _) ?_
          intro h
          rcases h with ⟨b, hb⟩ | h
          · simp at hb
          · exact hnot h
      | capture a =>
          refine iff_of_false (not_sameUpToOrder_capture hex _) ?_
          intro h
          rcases h with ⟨b, hb⟩ | h
          · simp at hb
          · exact hnot h
    · refine iff_of_true ?_ (Or.inr (Or.inr (not_and_or.1 hexec)))
      intro m' session' id hpred
      rcases predictAction_cases hpred with ⟨hid, -⟩ | ⟨-, -, -, -, state, hex, -⟩
      · simp at hid
      · exact absurd ((GameAction.executed_iff action session.state).1 ⟨state, hex⟩) hexec
  · have hno : session.hasPlayer playerId = false := by simpa using hplayer
    refine iff_of_true ?_ (Or.inr (Or.inl hno))
    intro m' session' id hpred
    rcases predictAction_cases hpred with ⟨hid, -⟩ | ⟨-, hhas, -⟩
    · simp at hid
    · exact absurd hhas hplayer

/-- Two warriors next to each other, of factions at war; a player has the first one. -/
def duelSession : GameSession where
  state :=
    { (((plainField.addUnit (Unit.create 0 0 warriorTemplate 1)).1.addUnit
        (Unit.create 0 1 warriorTemplate 2)).1) with
      diplomacy := DiplomacyManager.empty.setRelation 1 2 .war }
  players := AList.insert 1 { playerId := 1, factionId := 1 } ∅

theorem duelSession_coherent : duelSession.state.Coherent := by
  have hempty : plainField.Coherent := OccupancyIndex.tracks_empty
  exact ((hempty.addUnit _).addUnit _).of_eq rfl rfl

/-- A move that is rejected leaves no trace. -/
theorem rejected_move_restores : RejectRestores {} duelSession 1 (.move ⟨0, 1, 0⟩) :=
  (rejectRestores_iff {} duelSession 1 (.move ⟨0, 1, 0⟩) duelSession_coherent (by decide)).2
    (Or.inl ⟨⟨0, 1, 0⟩, rfl⟩)

/-- **An attack that is rejected leaves its target hurt.** -/
theorem rejected_attack_leaves_trace :
    duelSession.hasPlayer 1 = true ∧ ¬ RejectRestores {} duelSession 1 (.attack ⟨0, 1⟩) := by
  have hplayer : duelSession.hasPlayer 1 = true := by decide
  refine ⟨hplayer, ?_⟩
  obtain ⟨state, hex⟩ := (GameAction.executed_iff (.attack ⟨0, 1⟩) duelSession.state).2
    ⟨by decide, by decide⟩
  intro h
  exact not_sameUpToOrder_attack hex _
    ((rejectRestores_iff_of_executed (by decide) hplayer hex).1 h)

end My4X
