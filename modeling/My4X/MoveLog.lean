/-
**The log of predicted moves.**

A client predicts moves and learns in any order which of them the server has confirmed or rejected.
The log of a run lists the predicted moves in the order of prediction, with what has become of each.
The local state is meant to be the initial one after the moves that are not rejected, carried out in
this order.

A rejected move is taken back by writing snapshots over units.  A snapshot is written over what has
been confirmed meanwhile, and it still holds what an earlier move of the same unit did that has been
rejected after it was taken.  The condition on a rejection says that neither happens.

Main definitions:

* `My4X.Client`, `My4X.Call`, `My4X.Client.step` — a client, its log, and the calls it makes;
* `My4X.InStep` — the local state is the one that the log gives;
* `My4X.Allowed` — the condition on a call.

Main results:

* `My4X.keptMoves_settle_confirmed`, `My4X.keptMoves_settle_rejected` — which moves are left after a
  call;
* `My4X.pendingEntries_settle_of_sublist` — the manager keeps the entries that are left pending.
-/

import My4X.MoveReplay

set_option relaxedAutoImplicit false
set_option autoImplicit false

namespace My4X

open PredictionManager

/-! ### The log -/

/-- A predicted move and what has become of it. -/
structure LogEntry where
  sequenceId : SequenceId
  move : MoveAction
  snapshot : UnitSnapshot
  status : PredictionStatus := .pending
  deriving DecidableEq, Repr

/-- The prediction that the manager keeps of a move. -/
def LogEntry.prediction (e : LogEntry) : PendingPrediction :=
  { sequenceId := e.sequenceId, action := .move e.move, snapshot := e.snapshot }

def pendingEntries (log : List LogEntry) : List LogEntry := log.filter (·.status = .pending)

/-- The moves that are not rejected, in the order of prediction. -/
def keptMoves (log : List LogEntry) : List MoveAction :=
  (log.filter (·.status ≠ .rejected)).map (·.move)

/-- The moves that are confirmed, in the order of prediction. -/
def confirmedMoves (log : List LogEntry) : List MoveAction :=
  (log.filter (·.status = .confirmed)).map (·.move)

/-- Gives a status to the pending entries that the manager no longer keeps. -/
def settle (status : PredictionStatus) (m : PredictionManager) (log : List LogEntry) :
    List LogEntry :=
  log.map fun e =>
    if e.status = .pending ∧ m.isPending e.sequenceId = false then { e with status } else e

/-- The entries whose moves are executed when refused moves are skipped. -/
def survivors : GameState → List LogEntry → List LogEntry
  | _, [] => []
  | s, e :: es =>
      match moveStep s e.move with
      | some s' => e :: survivors s' es
      | none => survivors s es

/-! ### Clients -/

/-- A client: its predictions, its local session, and the log of the predicted moves. -/
structure Client where
  manager : PredictionManager := {}
  session : GameSession
  log : List LogEntry := []

/-- The calls of a client. -/
inductive Call
  | predict (playerId : PlayerId) (move : MoveAction)
  | confirm (id : SequenceId)
  | reject (id : SequenceId)
  deriving DecidableEq, Repr

/-- The log entry of a move that is predicted now. -/
def Client.entry (c : Client) (id : SequenceId) (move : MoveAction) : LogEntry :=
  { sequenceId := id, move, snapshot := captureSnapshot c.session.state (.move move) }

/-- What a call does. -/
def Client.step (c : Client) : Call → Option Client
  | .predict playerId move =>
      match c.manager.predictAction c.session playerId (.move move) with
      | .ok (manager, session, some id) =>
          some { manager, session, log := c.log ++ [c.entry id move] }
      | .ok (manager, session, none) => some { c with manager, session }
      | .error _ => none
  | .confirm id =>
      let (manager, _) := c.manager.confirmAction id
      some { c with manager, log := settle .confirmed manager c.log }
  | .reject id =>
      match c.manager.rejectAction c.session id with
      | .ok (manager, session, _) =>
          some { manager, session, log := settle .rejected manager c.log }
      | .error _ => none

/-- The local state is the initial one after the moves that are not rejected, in the order of
prediction. -/
def InStep (s : GameState) (c : Client) : Prop :=
  ∃ t, replayMoves s (keptMoves c.log) = .ok t ∧ SameUpToOrder t c.session.state

/-! ### The condition -/

/-- The snapshot of an entry is up to date: it is the one of the unit in the state that the moves
before it give. -/
def Current (s : GameState) (before : List LogEntry) (e : LogEntry) : Prop :=
  ∃ t, replayMoves s (keptMoves before) = .ok t ∧
    e.snapshot = captureSnapshot t (.move e.move)

/-- When rejecting an entry of a log takes back what it should. -/
structure Rejectable (s : GameState) (before : List LogEntry) (e : LogEntry)
    (after : List LogEntry) : Prop where
  /-- For each unit the oldest snapshot that is written back is up to date. -/
  current : ∀ mid q rest, e :: after = mid ++ q :: rest → q.status = .pending →
    (∀ x ∈ mid, x.status = .pending → x.move.unitIndex ≠ q.move.unitIndex) →
    Current s (before ++ mid) q
  /-- No snapshot is written over a confirmed move. -/
  apart : (e :: after).Pairwise fun x y =>
    x.status = .pending → y.status = .confirmed → x.move.unitIndex ≠ y.move.unitIndex
  /-- The later moves that can be carried out with the confirmed ones in front can be carried out
  in the order of prediction. -/
  inOrder : ∃ t, Runs.run moveStep s (keptMoves before ++
    (after.filter fun x => x.status = .confirmed ∨
      x ∈ survivors (forceMoves s (keptMoves before ++ confirmedMoves after))
        (pendingEntries after)).map (·.move)) = some t

/-- **The condition on a call**: a new identifier is not pending, and a rejected entry takes back
what it should. -/
def Allowed (s : GameState) (c : Client) : Call → Prop
  | .predict _ _ => c.manager.isPending c.manager.nextSequenceId = false
  | .confirm _ => True
  | .reject id => ∀ before e after, c.log = before ++ e :: after → e.status = .pending →
      e.sequenceId = id → Rejectable s before e after

/-! ### Moves of the log -/

@[simp] theorem keptMoves_append (l l' : List LogEntry) :
    keptMoves (l ++ l') = keptMoves l ++ keptMoves l' := by
  simp only [keptMoves, List.filter_append, List.map_append]

@[simp] theorem confirmedMoves_append (l l' : List LogEntry) :
    confirmedMoves (l ++ l') = confirmedMoves l ++ confirmedMoves l' := by
  simp only [confirmedMoves, List.filter_append, List.map_append]

@[simp] theorem pendingEntries_append (l l' : List LogEntry) :
    pendingEntries (l ++ l') = pendingEntries l ++ pendingEntries l' := by
  simp only [pendingEntries, List.filter_append]

theorem keptMoves_cons_of_pending {e : LogEntry} (he : e.status = .pending) (l : List LogEntry) :
    keptMoves (e :: l) = e.move :: keptMoves l := by
  simp only [keptMoves, List.filter_cons, he, ne_eq, reduceCtorEq, not_false_eq_true, decide_true,
    if_true, List.map_cons]

theorem confirmedMoves_cons_of_pending {e : LogEntry} (he : e.status = .pending)
    (l : List LogEntry) : confirmedMoves (e :: l) = confirmedMoves l := by
  simp only [confirmedMoves, List.filter_cons, he, reduceCtorEq, decide_false, Bool.false_eq_true,
    if_false]

theorem pendingEntries_cons_of_pending {e : LogEntry} (he : e.status = .pending)
    (l : List LogEntry) : pendingEntries (e :: l) = e :: pendingEntries l := by
  simp only [pendingEntries, List.filter_cons, he, decide_true, if_true]

theorem mem_pendingEntries {e : LogEntry} {l : List LogEntry} :
    e ∈ pendingEntries l ↔ e ∈ l ∧ e.status = .pending := by
  rw [pendingEntries, List.mem_filter, decide_eq_true_eq]

/-- The moves of a unit that no pending entry moves are the confirmed ones. -/
theorem filter_keptMoves {log : List LogEntry} {i : ℕ}
    (h : ∀ x ∈ log, x.status = .pending → x.move.unitIndex ≠ i) :
    (keptMoves log).filter (·.unitIndex = i) = (confirmedMoves log).filter (·.unitIndex = i) := by
  rw [keptMoves, confirmedMoves]
  rw [List.filter_map, List.filter_map, List.filter_filter, List.filter_filter]
  congr 1
  refine List.filter_congr fun x hx => ?_
  have hne := h x hx
  cases hs : x.status with
  | pending => simp [hne hs]
  | confirmed => simp
  | rejected => simp

/-- A unit that no confirmed entry moves has no confirmed moves. -/
theorem filter_confirmedMoves_eq_nil {log : List LogEntry} {i : ℕ}
    (h : ∀ x ∈ log, x.status = .confirmed → x.move.unitIndex ≠ i) :
    (confirmedMoves log).filter (·.unitIndex = i) = [] := by
  rw [confirmedMoves]
  rw [List.filter_eq_nil_iff]
  intro a ha
  obtain ⟨x, hx, rfl⟩ := List.mem_map.1 ha
  obtain ⟨hx, hs⟩ := List.mem_filter.1 hx
  simpa using h x hx (of_decide_eq_true hs)

/-! ### Settling entries -/

theorem pendingEntries_settle {status : PredictionStatus} (hstatus : status ≠ .pending)
    (m : PredictionManager) (log : List LogEntry) :
    pendingEntries (settle status m log) =
      (pendingEntries log).filter fun e => m.isPending e.sequenceId := by
  induction log with
  | nil => rfl
  | cons e log ih =>
      have hcons : settle status m (e :: log) =
          (if e.status = .pending ∧ m.isPending e.sequenceId = false
            then { e with status } else e) ::
            settle status m log := rfl
      rw [hcons]
      by_cases he : e.status = .pending
      · cases hm : m.isPending e.sequenceId with
        | true =>
            rw [if_neg (by simp), pendingEntries_cons_of_pending he,
              pendingEntries_cons_of_pending he, ih, List.filter_cons, if_pos hm]
        | false =>
            rw [if_pos ⟨he, rfl⟩, pendingEntries_cons_of_pending he, List.filter_cons, hm,
              if_neg (by simp), ← ih]
            simp only [pendingEntries, List.filter_cons, hstatus, decide_false, Bool.false_eq_true,
              if_false]
      · rw [if_neg fun h => he h.1]
        simpa only [pendingEntries, List.filter_cons, he, decide_false, Bool.false_eq_true,
          if_false]
          using ih

/-- A confirmed move is kept. -/
theorem keptMoves_settle_confirmed (m : PredictionManager) (log : List LogEntry) :
    keptMoves (settle .confirmed m log) = keptMoves log := by
  induction log with
  | nil => rfl
  | cons e log ih =>
      have hcons : settle .confirmed m (e :: log) = settle .confirmed m [e] ++
          settle .confirmed m log := rfl
      have hone : keptMoves (settle .confirmed m [e]) = keptMoves [e] := by
        simp only [settle, List.map_cons, List.map_nil]
        split
        · next h => simp [keptMoves, h.1]
        · rfl
      rw [hcons, keptMoves_append, ih, hone]
      exact (keptMoves_append [e] log).symm

/-- The moves that are left are the confirmed ones and those that are still pending. -/
theorem keptMoves_settle_rejected (m : PredictionManager) (log : List LogEntry) :
    keptMoves (settle .rejected m log) =
      (log.filter fun e => e.status = .confirmed ∨
        (e.status = .pending ∧ m.isPending e.sequenceId = true)).map (·.move) := by
  induction log with
  | nil => rfl
  | cons e log ih =>
      have hcons : settle .rejected m (e :: log) = settle .rejected m [e] ++
          settle .rejected m log := rfl
      rw [hcons, keptMoves_append, ih, ← List.singleton_append (l := log), List.filter_append,
        List.map_append]
      congr 1
      simp only [settle, List.map_cons, List.map_nil]
      cases hs : e.status with
      | pending => cases hm : m.isPending e.sequenceId <;> simp [keptMoves, hs, hm]
      | confirmed => simp [keptMoves, hs]
      | rejected => simp [keptMoves, hs]

/-- Entries that the manager keeps are left as they are. -/
theorem settle_eq_self {status : PredictionStatus} {m : PredictionManager} {log : List LogEntry}
    (h : ∀ e ∈ log, e.status = .pending → m.isPending e.sequenceId = true) :
    settle status m log = log := by
  rw [settle]
  refine (List.map_congr_left fun e he => ?_).trans (List.map_id' log)
  refine if_neg fun hc => ?_
  rw [h e he hc.1] at hc
  simp at hc

theorem isPending_iff {m : PredictionManager} {id : SequenceId} :
    m.isPending id = true ↔ id ∈ m.pending.map (·.sequenceId) := by
  rw [isPending]
  rw [List.any_eq_true, List.mem_map]
  simp only [decide_eq_true_eq]

/-- Of a list with distinct keys, the elements whose keys are left over are those that are left
over. -/
theorem filter_of_sublist {α κ : Type} [DecidableEq κ] {f : α → κ} {l l' : List α}
    (h : l.Sublist l') (hnodup : (l'.map f).Nodup) :
    l'.filter (fun a => f a ∈ l.map f) = l := by
  induction h with
  | slnil => rfl
  | @cons l l' a hsub ih =>
      rw [List.map_cons, List.nodup_cons] at hnodup
      have ha : f a ∉ l.map f := fun hmem => hnodup.1 ((hsub.map _).subset hmem)
      rw [List.filter_cons, if_neg (by simpa using ha)]
      exact ih hnodup.2
  | @cons_cons l l' a hsub ih =>
      rw [List.map_cons, List.nodup_cons] at hnodup
      rw [List.filter_cons, if_pos (by simp)]
      congr 1
      refine Eq.trans (List.filter_congr fun b hb => ?_) (ih hnodup.2)
      have hne : f b ≠ f a := fun h => hnodup.1 (h ▸ List.mem_map_of_mem hb)
      simp [hne]

/-- The manager keeps the entries that are left pending. -/
theorem pendingEntries_settle_of_sublist {status : PredictionStatus} (hstatus : status ≠ .pending)
    {m : PredictionManager} {log : List LogEntry}
    (hsub : m.pending.Sublist ((pendingEntries log).map LogEntry.prediction))
    (hnodup : ((pendingEntries log).map (·.sequenceId)).Nodup) :
    (pendingEntries (settle status m log)).map LogEntry.prediction = m.pending := by
  have hids : ((pendingEntries log).map LogEntry.prediction).map (·.sequenceId) =
      (pendingEntries log).map (·.sequenceId) := by
    rw [List.map_map]
    rfl
  rw [pendingEntries_settle hstatus]
  refine Eq.trans ?_ (filter_of_sublist hsub (by rw [hids]; exact hnodup))
  rw [List.filter_map]
  congr 1
  refine List.filter_congr fun e _ => ?_
  rw [Bool.eq_iff_iff, isPending_iff]
  exact decide_eq_true_iff.symm

end My4X
