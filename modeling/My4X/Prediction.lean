/-
**Predicted actions.**

A client applies its actions to the local session before the server has confirmed them, and keeps
each with a snapshot of the acting unit.  A confirmed prediction is forgotten; a rejected one is
rolled back together with the later ones, which are then carried out again.  Reconciliation writes
the units of a server state over the local ones and carries out all pending predictions again.

Main definitions:

* `My4X.UnitSnapshot`, `My4X.PendingPrediction`, `My4X.PredictionManager` — the predictions;
* `My4X.PredictionManager.predictAction`, `My4X.PredictionManager.confirmAction`,
  `My4X.PredictionManager.rejectAction`, `My4X.PredictionManager.reconcile` — the operations.

Main results:

* `My4X.PredictionManager.predictAction_cases`, `My4X.PredictionManager.rejectAction_cases` — what
  the operations can do;
* `My4X.GameState.Coherent.reject`, `My4X.GameState.Coherent.reconcile` — they keep the registry
  coherent.
-/

import My4X.Session
import My4X.Coherence
import Mathlib.Data.List.TakeWhile

set_option relaxedAutoImplicit false
set_option autoImplicit false

namespace My4X

/-- The identifier of a prediction, `std::uint32_t`. -/
abbrev SequenceId := UInt32

/-- The status of a prediction. -/
inductive PredictionStatus
  | pending
  | confirmed
  | rejected
  deriving DecidableEq, Repr

/-- What is kept of the acting unit. -/
structure UnitSnapshot where
  unitIndex : ℕ := 0
  row : ℤ := 0
  col : ℤ := 0
  health : ℤ := 0
  movementRemaining : ℤ := 0
  alive : Bool := true
  deriving DecidableEq, Repr

/-- An action that was applied and not yet confirmed. -/
structure PendingPrediction where
  sequenceId : SequenceId := 0
  action : GameAction
  snapshot : UnitSnapshot
  status : PredictionStatus := .pending
  deriving DecidableEq, Repr

/-- The pending predictions, the oldest first, and the next identifier.  The session they are about
is passed to the operations. -/
structure PredictionManager where
  nextSequenceId : SequenceId := 1
  pending : List PendingPrediction := []
  deriving DecidableEq, Repr

namespace PredictionManager

/-- The snapshot of the unit that an action acts with. -/
def captureSnapshot (state : GameState) (action : GameAction) : UnitSnapshot :=
  match state.units.get? action.actorIndex with
  | none => { unitIndex := action.actorIndex }
  | some p =>
      { unitIndex := action.actorIndex
        row := p.unit.row
        col := p.unit.col
        health := p.unit.health
        movementRemaining := p.unit.movementRemaining
        alive := p.unit.isAlive }

/-- Writes health, movement and position over a unit, the first two clamped by its setters. -/
def overwrite (unit : Unit) (health movementRemaining row col : ℤ) : Unit :=
  ((unit.setHealth health).setMovementRemaining movementRemaining).setPosition row col

/-- Writes a snapshot over the unit at its index. -/
def rollbackPrediction (state : GameState) (prediction : PendingPrediction) : GameState :=
  let snap := prediction.snapshot
  match state.units.get? snap.unitIndex with
  | none => state
  | some p =>
      state.relocate snap.unitIndex p
        (overwrite p.unit snap.health snap.movementRemaining snap.row snap.col)

/-- Carries out predictions again and keeps those that are executed. -/
def reapply (state : GameState) :
    List PendingPrediction → Except Fault (GameState × List PendingPrediction)
  | [] => .ok (state, [])
  | pred :: preds => do
      let (state, success) ← pred.action.execute state
      let (state, kept) ← reapply state preds
      return (state, if success then pred :: kept else kept)

/-- Applies an action and keeps it as pending under a new identifier, if it succeeds. -/
def predictAction (m : PredictionManager) (session : GameSession) (playerId : PlayerId)
    (action : GameAction) :
    Except Fault (PredictionManager × GameSession × Option SequenceId) := do
  let snapshot := captureSnapshot session.state action
  let (session, result) ← session.applyAction playerId action
  if result ≠ .success then return (m, session, none)
  else
    let seqId := m.nextSequenceId
    return ({ nextSequenceId := m.nextSequenceId + 1
              pending := m.pending ++ [{ sequenceId := seqId, action, snapshot }] },
      session, some seqId)

/-- Whether an identifier is pending. -/
def isPending (m : PredictionManager) (sequenceId : SequenceId) : Bool :=
  m.pending.any fun p => p.sequenceId = sequenceId

/-- Forgets the first prediction with an identifier. -/
def confirmAction (m : PredictionManager) (sequenceId : SequenceId) : PredictionManager × Bool :=
  ({ m with pending := m.pending.eraseP fun p => p.sequenceId = sequenceId },
    m.isPending sequenceId)

/-- The state after rolling back a prediction and the later ones, the newest first. -/
def rollback (state : GameState) (rejected : PendingPrediction)
    (toReapply : List PendingPrediction) : GameState :=
  rollbackPrediction (toReapply.reverse.foldl rollbackPrediction state) rejected

/-- Rolls back the first prediction with an identifier and the later ones, and carries out the
later ones again. -/
def rejectAction (m : PredictionManager) (session : GameSession) (sequenceId : SequenceId) :
    Except Fault (PredictionManager × GameSession × Bool) :=
  match m.pending.dropWhile fun p => p.sequenceId ≠ sequenceId with
  | [] => .ok (m, session, false)
  | rejected :: toReapply => do
      let before := m.pending.takeWhile fun p => p.sequenceId ≠ sequenceId
      let state := rollback session.state rejected toReapply
      let (state, kept) ← reapply state toReapply
      return ({ m with pending := before ++ kept }, session.setState state, true)

/-- Writes the unit of the server at an index over the local one. -/
def syncUnit (serverState : GameState) (state : GameState) (i : ℕ) : GameState :=
  match state.units.get? i, serverState.units.get? i with
  | some p, some su =>
      state.relocate i p (overwrite p.unit su.unit.health su.unit.movementRemaining su.unit.row
        su.unit.col)
  | _, _ => state

/-- Writes the turn and the units of the server over the local ones, as far as both lists reach. -/
def syncState (localState serverState : GameState) : GameState :=
  (List.range (min localState.units.size serverState.units.size)).foldl (syncUnit serverState)
    (localState.setTurn serverState.turn)

/-- Reconciles with a server state: synchronizes, and carries out the pending predictions again.
Also returns how many of them were executed. -/
def reconcile (m : PredictionManager) (session : GameSession) (serverState : GameState) :
    Except Fault (PredictionManager × GameSession × ℕ) := do
  let (state, kept) ← reapply (syncState session.state serverState) m.pending
  return ({ m with pending := kept }, session.setState state, kept.length)

def clearPredictions (m : PredictionManager) : PredictionManager := { m with pending := [] }

/-! ### What the operations can do -/

theorem reapply_cons {s s' : GameState} {pred : PendingPrediction}
    {preds kept : List PendingPrediction} :
    reapply s (pred :: preds) = .ok (s', kept) ↔
      ∃ s₁ success kept₁, pred.action.execute s = .ok (s₁, success) ∧
        reapply s₁ preds = .ok (s', kept₁) ∧ kept = if success then pred :: kept₁ else kept₁ := by
  constructor
  · intro h
    obtain ⟨⟨s₁, success⟩, hex, h⟩ := Except.bind_eq_ok.1 h
    obtain ⟨⟨s₂, kept₁⟩, hre, h⟩ := Except.bind_eq_ok.1 h
    obtain ⟨rfl, rfl⟩ := Prod.mk.inj (Except.ok.inj h)
    exact ⟨s₁, success, kept₁, hex, hre, rfl⟩
  · intro h
    obtain ⟨s₁, success, kept₁, hex, hre, rfl⟩ := h
    rw [reapply, hex, Except.ok_bind]
    simp only [hre, Except.ok_bind]
    rfl

/-- What predicting an action can do. -/
theorem predictAction_cases {m m' : PredictionManager} {session session' : GameSession}
    {playerId : PlayerId} {action : GameAction} {id : Option SequenceId}
    (h : m.predictAction session playerId action = .ok (m', session', id)) :
    (id = none ∧ m' = m ∧ session' = session) ∨
      (id = some m.nextSequenceId ∧ session.hasPlayer playerId = true ∧
        m'.nextSequenceId = m.nextSequenceId + 1 ∧
        m'.pending = m.pending ++ [{ sequenceId := m.nextSequenceId, action,
                                     snapshot := captureSnapshot session.state action }] ∧
        ∃ state, action.execute session.state = .ok (state, true) ∧
          session' = session.setState state) := by
  obtain ⟨⟨session₁, result⟩, happly, h⟩ := Except.bind_eq_ok.1 h
  dsimp only at h
  rcases GameSession.applyAction_cases happly with
    ⟨-, rfl, rfl⟩ | ⟨hhas, state, executed, hex, rfl, rfl⟩
  · obtain ⟨rfl, hout⟩ := Prod.mk.inj (Except.ok.inj h)
    obtain ⟨rfl, rfl⟩ := Prod.mk.inj hout
    exact Or.inl ⟨rfl, rfl, rfl⟩
  · cases executed with
    | false =>
        obtain rfl := (GameAction.execute_eq_ok hex).2 rfl
        obtain ⟨rfl, hout⟩ := Prod.mk.inj (Except.ok.inj h)
        obtain ⟨rfl, rfl⟩ := Prod.mk.inj hout
        exact Or.inl ⟨rfl, rfl, rfl⟩
    | true =>
        obtain ⟨rfl, hout⟩ := Prod.mk.inj (Except.ok.inj h)
        obtain ⟨rfl, rfl⟩ := Prod.mk.inj hout
        exact Or.inr ⟨rfl, hhas, rfl, rfl, state, hex, rfl⟩

/-- Rejecting a prediction at a known place of the pending ones. -/
theorem rejectAction_of_split {m : PredictionManager} (session : GameSession)
    {before toReapply : List PendingPrediction} {rejected : PendingPrediction}
    (hpending : m.pending = before ++ rejected :: toReapply)
    (hbefore : ∀ p ∈ before, p.sequenceId ≠ rejected.sequenceId) :
    m.rejectAction session rejected.sequenceId = do
      let (state, kept) ← reapply (rollback session.state rejected toReapply) toReapply
      return ({ m with pending := before ++ kept }, session.setState state, true) := by
  have hall : ∀ p ∈ before, (decide (p.sequenceId ≠ rejected.sequenceId)) = true :=
    fun p hp => decide_eq_true (hbefore p hp)
  rw [rejectAction]
  rw [hpending, List.dropWhile_append_of_pos hall, List.takeWhile_append_of_pos hall,
    List.dropWhile_cons, List.takeWhile_cons]
  simp only [ne_eq, not_true_eq_false, decide_false, Bool.false_eq_true, if_false, List.append_nil]

/-- What rejecting a prediction can do. -/
theorem rejectAction_cases {m m' : PredictionManager} {session session' : GameSession}
    {id : SequenceId} {found : Bool}
    (h : m.rejectAction session id = .ok (m', session', found)) :
    (found = false ∧ m.isPending id = false ∧ m' = m ∧ session' = session) ∨
      (found = true ∧ ∃ before rejected toReapply kept state,
        m.pending = before ++ rejected :: toReapply ∧ rejected.sequenceId = id ∧
        (∀ p ∈ before, p.sequenceId ≠ id) ∧
        reapply (rollback session.state rejected toReapply) toReapply = .ok (state, kept) ∧
        m' = { m with pending := before ++ kept } ∧ session' = session.setState state) := by
  have hsplit := List.takeWhile_append_dropWhile (p := fun p => p.sequenceId ≠ id)
    (l := m.pending)
  have hbefore : ∀ p ∈ m.pending.takeWhile fun p => p.sequenceId ≠ id, p.sequenceId ≠ id := by
    intro p hp
    simpa using List.mem_takeWhile_imp hp
  rw [rejectAction] at h
  cases hdrop : m.pending.dropWhile fun p => p.sequenceId ≠ id with
  | nil =>
      simp only [hdrop] at h
      obtain ⟨rfl, hout⟩ := Prod.mk.inj (Except.ok.inj h)
      obtain ⟨rfl, rfl⟩ := Prod.mk.inj hout
      rw [hdrop, List.append_nil] at hsplit
      refine Or.inl ⟨rfl, ?_, rfl, rfl⟩
      rw [isPending]
      rw [List.any_eq_false]
      intro p hp
      rw [← hsplit] at hp
      simpa using hbefore p hp
  | cons rejected toReapply =>
      simp only [hdrop] at h
      obtain ⟨⟨state, kept⟩, hre, h⟩ := Except.bind_eq_ok.1 h
      obtain ⟨rfl, hout⟩ := Prod.mk.inj (Except.ok.inj h)
      obtain ⟨rfl, rfl⟩ := Prod.mk.inj hout
      -- the first one that is not dropped is the one looked for
      have hid : rejected.sequenceId = id := by
        have hhead := List.head?_dropWhile_not (fun p : PendingPrediction =>
          decide (p.sequenceId ≠ id)) m.pending
        rw [hdrop] at hhead
        simpa using hhead
      refine Or.inr ⟨rfl, _, rejected, toReapply, kept, state, ?_, hid, hbefore, hre, rfl, rfl⟩
      rw [← hdrop]
      exact hsplit.symm

end PredictionManager

/-! ### Coherence -/

namespace GameState

open PredictionManager

theorem Coherent.execute {s s' : GameState} {action : GameAction} {executed : Bool}
    (h : s.Coherent) (hex : action.execute s = .ok (s', executed)) : s'.Coherent := by
  cases action with
  | move a =>
      obtain ⟨r, hmove, -⟩ := GameAction.execute_move.1 hex
      exact h.move hmove
  | attack a =>
      obtain ⟨r, hattack, -⟩ := GameAction.execute_attack.1 hex
      exact h.attack hattack
  | capture a =>
      obtain ⟨r, hcapture, -⟩ := GameAction.execute_capture.1 hex
      exact h.capture hcapture

theorem Coherent.rollbackPrediction {s : GameState} (h : s.Coherent) (pred : PendingPrediction) :
    (PredictionManager.rollbackPrediction s pred).Coherent := by
  rw [PredictionManager.rollbackPrediction]
  cases hp : s.units.get? pred.snapshot.unitIndex with
  | none => simpa only [hp] using h
  | some p => simpa only [hp] using h.relocate hp _

theorem Coherent.rollback {s : GameState} (h : s.Coherent) (rejected : PendingPrediction)
    (toReapply : List PendingPrediction) :
    (PredictionManager.rollback s rejected toReapply).Coherent := by
  refine Coherent.rollbackPrediction ?_ rejected
  refine List.foldlRecOn (motive := GameState.Coherent) _ _ h ?_
  intro s hs pred _
  exact hs.rollbackPrediction pred

theorem Coherent.reapply (preds : List PendingPrediction) :
    ∀ {s s' : GameState} {kept : List PendingPrediction}, s.Coherent →
      PredictionManager.reapply s preds = .ok (s', kept) → s'.Coherent := by
  induction preds with
  | nil =>
      intro s s' kept h hre
      obtain ⟨rfl, -⟩ := Prod.mk.inj (Except.ok.inj hre)
      exact h
  | cons pred preds ih =>
      intro s s' kept h hre
      obtain ⟨s₁, success, kept₁, hex, hre, -⟩ := reapply_cons.1 hre
      exact ih (h.execute hex) hre

theorem Coherent.predict {m m' : PredictionManager} {session session' : GameSession}
    {playerId : PlayerId} {action : GameAction} {id : Option SequenceId}
    (h : session.state.Coherent)
    (hpred : m.predictAction session playerId action = .ok (m', session', id)) :
    session'.state.Coherent := by
  rcases predictAction_cases hpred with ⟨-, -, rfl⟩ | ⟨-, -, -, -, state, hex, rfl⟩
  · exact h
  · exact h.execute hex

theorem Coherent.reject {m m' : PredictionManager} {session session' : GameSession}
    {id : SequenceId} {found : Bool} (h : session.state.Coherent)
    (hrej : m.rejectAction session id = .ok (m', session', found)) :
    session'.state.Coherent := by
  rcases rejectAction_cases hrej with
    ⟨-, -, -, rfl⟩ | ⟨-, before, rejected, toReapply, kept, state, -, -, -, hre, -, rfl⟩
  · exact h
  · exact Coherent.reapply toReapply (h.rollback rejected toReapply) hre

theorem Coherent.syncUnit {server s : GameState} (h : s.Coherent) (i : ℕ) :
    (PredictionManager.syncUnit server s i).Coherent := by
  rw [PredictionManager.syncUnit]
  cases hp : s.units.get? i with
  | none => exact h
  | some p =>
      cases hsu : server.units.get? i with
      | none => exact h
      | some su => exact h.relocate hp _

theorem Coherent.syncState {server s : GameState} (h : s.Coherent) :
    (PredictionManager.syncState s server).Coherent := by
  -- the loop keeps it from one index to the next
  refine List.foldlRecOn (motive := GameState.Coherent) _ _ (h.of_eq rfl rfl) ?_
  intro s hs i _
  exact hs.syncUnit i

theorem Coherent.reconcile {m m' : PredictionManager} {session session' : GameSession}
    {server : GameState} {n : ℕ} (h : session.state.Coherent)
    (hrec : m.reconcile session server = .ok (m', session', n)) : session'.state.Coherent := by
  obtain ⟨⟨state, kept⟩, hre, hrec⟩ := Except.bind_eq_ok.1 hrec
  obtain ⟨-, hout⟩ := Prod.mk.inj (Except.ok.inj hrec)
  obtain ⟨rfl, -⟩ := Prod.mk.inj hout
  exact Coherent.reapply m.pending h.syncState hre

end GameState

end My4X
