/-
**Runs of predicted moves.**

Rolling back a rejected move and the later pending ones leaves, when the rejection meets its
condition, the state that the other moves give; carrying the later ones out again then leads to the
state that the log gives.  Every call keeps this, and so does every run of calls.

Main definitions:

* `My4X.ClientInv` — the invariant of a run.

Main results:

* `My4X.rollback_sameUpToOrder` — what rolling back comes to;
* `My4X.ClientInv.step` — a call that meets the condition keeps the invariant;
* `My4X.inStep_of_allowed` — **in a run whose calls meet the condition the local state is the one
  that the log gives**;
* `My4X.confirmed_move_undone` — a confirmed move that is undone.
-/

import My4X.MoveLog

set_option relaxedAutoImplicit false
set_option autoImplicit false

namespace My4X

open PredictionManager

/-! ### Rolling back -/

/-- Writes a snapshot over a unit. -/
def UnitSnapshot.writeTo (snap : UnitSnapshot) (u : Unit) : Unit :=
  overwrite u snap.health snap.movementRemaining snap.row snap.col

theorem rollback_eq_foldr (s : GameState) (e : LogEntry) (es : List LogEntry) :
    rollback s e.prediction (es.map LogEntry.prediction) =
      (e :: es).foldr (fun x t => rollbackPrediction t x.prediction) s := by
  rw [rollback]
  rw [List.foldl_reverse, List.foldr_map, List.foldr_cons]

theorem rollbackPrediction_get? (s : GameState) (pred : PendingPrediction) (i : ℕ) :
    (rollbackPrediction s pred).units.get? i =
      if pred.snapshot.unitIndex = i then
        (s.units.get? i).map fun p => { p with unit := pred.snapshot.writeTo p.unit }
      else s.units.get? i := by
  split
  · next hi =>
      subst hi
      rw [rollbackPrediction]
      cases hp : s.units.get? pred.snapshot.unitIndex with
      | none => simp only [hp, Option.map_none]
      | some p =>
          simp only [hp, GameState.relocate, UnitVec.get?_set, if_true, Option.map_some]
          rfl
  · next hi => exact (rollbackPrediction_frame s pred).2.2 i hi

/-- Of the snapshots of a unit the oldest one is written last. -/
theorem foldr_rollback_get? (s : GameState) (i : ℕ) (es : List LogEntry) :
    (es.foldr (fun x t => rollbackPrediction t x.prediction) s).units.get? i =
      (s.units.get? i).map fun p =>
        match es.find? (·.snapshot.unitIndex = i) with
        | some q => { p with unit := q.snapshot.writeTo p.unit }
        | none => p := by
  induction es with
  | nil => exact (Option.map_id' ..).symm
  | cons e es ih =>
      have hsnap : e.prediction.snapshot = e.snapshot := rfl
      rw [List.foldr_cons, List.find?_cons, rollbackPrediction_get?, ih, hsnap]
      by_cases hi : e.snapshot.unitIndex = i
      · simp only [hi, decide_true, if_true]
        rw [Option.map_map]
        congr 1
        funext p
        dsimp only [Function.comp_apply]
        -- what the later snapshots wrote is written over
        cases es.find? (·.snapshot.unitIndex = i) with
        | none => rfl
        | some q => rfl
      · simp only [hi, decide_false, if_false]

theorem SameFrame.foldr_rollback (s : GameState) (es : List LogEntry) :
    SameFrame s (es.foldr (fun x t => PredictionManager.rollbackPrediction t x.prediction) s) := by
  induction es with
  | nil => exact SameFrame.refl s
  | cons e es ih => exact ih.trans (SameFrame.rollbackPrediction _ e.prediction)

/-- Writing back a snapshot that is up to date undoes the moves from there on. -/
theorem writeTo_of_current {s t : GameState} {before : List LogEntry} {q : LogEntry}
    {as : List MoveAction} (hrun : Runs.run moveStep s (keptMoves before ++ q.move :: as) = some t)
    (hcur : Current s before q) {p : OwnedUnit} (hp : s.units.get? q.move.unitIndex = some p)
    {u : Unit} (hu : ∀ h m r c, overwrite u h m r c = overwrite p.unit h m r c) :
    q.snapshot.writeTo u =
      ((keptMoves before).filter (·.unitIndex = q.move.unitIndex)).foldl (movedUnit s.map)
        p.unit := by
  obtain ⟨t₁, hrun₁, hrest⟩ := Runs.run_append.1 hrun
  obtain ⟨t₂, hstep, -⟩ := Runs.run_cons.1 hrest
  obtain ⟨t', hreplay, hsnap⟩ := hcur
  obtain rfl := Except.ok.inj ((replayMoves_of_run _ hrun₁).symm.trans hreplay)
  obtain ⟨hvalid, p', u', tile, hp', -, hmove, -⟩ := moveStep_cases hstep
  obtain ⟨p'', -, hp'', halive, -⟩ := MoveAction.validate_eq_valid hvalid
  obtain rfl := Option.some_inj.1 (hp'.symm.trans hp'')
  obtain ⟨hcost, hpay, -⟩ := Unit.moveTo_eq_ok hmove
  have hhealth : 0 < p'.unit.health := of_decide_eq_true halive
  -- the unit before the move is the one its own moves give
  have hat := forceMoves_get? q.move.unitIndex (keptMoves before) s
  rw [← forceMoves_of_run _ hrun₁, hp', hp, Option.map_some] at hat
  have hunit := congrArg OwnedUnit.unit (Option.some_inj.1 hat)
  dsimp only at hunit
  rw [← hunit]
  have hwrite : q.snapshot.writeTo u =
      overwrite u p'.unit.health p'.unit.movementRemaining p'.unit.row p'.unit.col := by
    rw [hsnap]
    rw [captureSnapshot, GameAction.actorIndex]
    rw [hp']
    rfl
  calc q.snapshot.writeTo u
      = overwrite u p'.unit.health p'.unit.movementRemaining p'.unit.row p'.unit.col := hwrite
    _ = overwrite p.unit p'.unit.health p'.unit.movementRemaining p'.unit.row p'.unit.col :=
        hu _ _ _ _
    _ = overwrite p'.unit p'.unit.health p'.unit.movementRemaining p'.unit.row p'.unit.col := by
        conv_rhs => rw [hunit, overwrite_foldl_movedUnit, ← hunit]
    _ = p'.unit := overwrite_self hhealth.le (by omega)

/-- Where no later entry is pending for a unit, its moves from there on are all confirmed. -/
theorem filter_keptMoves_of_find?_none {before after : List LogEntry} {e : LogEntry} {i : ℕ}
    (he : e.status = .pending) (hindex : ∀ x ∈ e :: after, x.snapshot.unitIndex = x.move.unitIndex)
    (hnone : ((e :: after).find? fun x => x.status = .pending ∧ x.snapshot.unitIndex = i) = none) :
    (keptMoves before ++ confirmedMoves after).filter (·.unitIndex = i) =
      (keptMoves (before ++ e :: after)).filter (·.unitIndex = i) := by
  have hno : ∀ x ∈ e :: after, x.status = .pending → x.move.unitIndex ≠ i := by
    intro x hx hst hi
    have hpred := List.find?_eq_none.1 hnone x hx
    rw [hindex x hx] at hpred
    simp [hst, hi] at hpred
  rw [keptMoves_append, List.filter_append, List.filter_append, filter_keptMoves hno,
    confirmedMoves_cons_of_pending he]

/-- Writing back the first snapshot of a unit that is pending leaves it the moves before, and
nothing later is confirmed for it. -/
theorem writeTo_of_find?_some {s t : GameState} {before after : List LogEntry} {e q : LogEntry}
    {i : ℕ} {p : OwnedUnit} (he : e.status = .pending)
    (hrun : Runs.run moveStep s (keptMoves (before ++ e :: after)) = some t)
    (hindex : ∀ x ∈ e :: after, x.snapshot.unitIndex = x.move.unitIndex)
    (hrej : Rejectable s before e after) (hp : s.units.get? i = some p)
    (hq : ((e :: after).find? fun x => x.status = .pending ∧ x.snapshot.unitIndex = i) = some q) :
    q.snapshot.writeTo (((keptMoves (before ++ e :: after)).filter (·.unitIndex = i)).foldl
        (movedUnit s.map) p.unit) =
      ((keptMoves before ++ confirmedMoves after).filter (·.unitIndex = i)).foldl
        (movedUnit s.map) p.unit := by
  obtain ⟨hpred, mid, rest, hsplit, hmid⟩ := List.find?_eq_some_iff_append.1 hq
  obtain ⟨hpending, hqi⟩ : q.status = .pending ∧ q.snapshot.unitIndex = i := by
    simpa using hpred
  have hmem : ∀ {x}, x ∈ mid ++ q :: rest → x ∈ e :: after := fun hx => hsplit ▸ hx
  rw [hindex q (hmem (by simp))] at hqi
  have hno : ∀ x ∈ mid, x.status = .pending → x.move.unitIndex ≠ i := by
    intro x hx hst hi
    have hother := hmid x hx
    rw [hindex x (hmem (by simp [hx]))] at hother
    simp [hst, hi] at hother
  have happart := hrej.apart
  rw [hsplit, List.pairwise_append] at happart
  have hlater : ∀ x ∈ rest, x.status = .confirmed → x.move.unitIndex ≠ i := by
    intro x hx hst hi
    exact (List.pairwise_cons.1 happart.2.1).1 x hx hpending hst (hqi.trans hi.symm)
  have hcur := hrej.current mid q rest hsplit hpending fun x hx hst => by
    rw [hqi]
    exact hno x hx hst
  rw [hsplit, ← List.append_assoc, keptMoves_append, keptMoves_cons_of_pending hpending] at hrun
  have hback := writeTo_of_current hrun hcur (p := p) (by rw [hqi]; exact hp)
    (u := ((keptMoves (before ++ e :: after)).filter (·.unitIndex = i)).foldl
      (movedUnit s.map) p.unit)
    fun h m r c => overwrite_foldl_movedUnit s.map _ h m r c p.unit
  rw [hback, hqi, ← confirmedMoves_cons_of_pending he, hsplit, confirmedMoves_append,
    confirmedMoves_cons_of_pending hpending, keptMoves_append, List.filter_append,
    List.filter_append, List.filter_append, filter_keptMoves hno,
    filter_confirmedMoves_eq_nil hlater, List.append_nil]

/-- **What rolling back comes to**: of the entry and the later ones, only the confirmed moves are
left. -/
theorem rollback_sameUpToOrder {s t state : GameState} {before after : List LogEntry} {e : LogEntry}
    (hs : s.Coherent) (hstate : state.Coherent) (he : e.status = .pending)
    (hrun : Runs.run moveStep s (keptMoves (before ++ e :: after)) = some t)
    (hsame : SameUpToOrder t state)
    (hindex : ∀ x ∈ e :: after, x.snapshot.unitIndex = x.move.unitIndex)
    (hrej : Rejectable s before e after) :
    SameUpToOrder (forceMoves s (keptMoves before ++ confirmedMoves after))
      (rollback state e.prediction ((pendingEntries after).map LogEntry.prediction)) := by
  have hpend : e :: pendingEntries after = pendingEntries (e :: after) :=
    (pendingEntries_cons_of_pending he after).symm
  have hforce := forceMoves_of_run _ hrun
  have hframe : SameFrame s state := by
    rw [hforce] at hsame
    exact (SameFrame.forceMoves _ s).trans hsame.frame
  have hcoh := hstate.rollback e.prediction ((pendingEntries after).map LogEntry.prediction)
  rw [rollback_eq_foldr, hpend] at hcoh ⊢
  refine ((SameFrame.forceMoves _ s).symm.trans (hframe.trans
    (SameFrame.foldr_rollback state _))).sameUpToOrder (hs.forceMoves _) hcoh ?_
  refine UnitVec.ext_get? fun i => ?_
  rw [foldr_rollback_get?, forceMoves_get?, ← hsame.units_eq, hforce, forceMoves_get?]
  cases hp : s.units.get? i with
  | none => rfl
  | some p =>
      dsimp only [Option.map_some]
      congr 1
      -- which snapshot is written over the unit, if any
      have hfind : (pendingEntries (e :: after)).find? (·.snapshot.unitIndex = i) =
          (e :: after).find? fun x => x.status = .pending ∧ x.snapshot.unitIndex = i := by
        rw [pendingEntries, List.find?_filter]
        simp only [decide_eq_true_eq]
      rw [hfind]
      cases hq : (e :: after).find? fun x => x.status = .pending ∧ x.snapshot.unitIndex = i with
      | none =>
          dsimp only
          rw [filter_keptMoves_of_find?_none he hindex hq]
      | some q =>
          dsimp only
          rw [writeTo_of_find?_some he hrun hindex hrej hp hq]

/-! ### Carrying out again -/

theorem survivors_sublist (es : List LogEntry) :
    ∀ s : GameState, (survivors s es).Sublist es := by
  induction es with
  | nil => intro s; exact List.Sublist.slnil
  | cons e es ih =>
      intro s
      rw [survivors]
      cases moveStep s e.move with
      | none => exact (ih s).cons e
      | some s' => exact (ih s').cons_cons e

/-- The survivors can be carried out one after the other. -/
theorem run_survivors (es : List LogEntry) :
    ∀ s : GameState, ∃ t, Runs.run moveStep s ((survivors s es).map (·.move)) = some t := by
  induction es with
  | nil => intro s; exact ⟨s, rfl⟩
  | cons e es ih =>
      intro s
      rw [survivors]
      cases hstep : moveStep s e.move with
      | none => exact ih s
      | some s' =>
          obtain ⟨t, hrun⟩ := ih s'
          exact ⟨t, Runs.run_cons.2 ⟨s', hstep, hrun⟩⟩

/-- Carrying out predicted moves again keeps those that are executed. -/
theorem reapply_moves (es : List LogEntry) :
    ∀ {s t : GameState} {kept : List PendingPrediction},
      reapply s (es.map LogEntry.prediction) = .ok (t, kept) →
      kept = (survivors s es).map LogEntry.prediction ∧
        Runs.run moveStep s ((survivors s es).map (·.move)) = some t := by
  induction es with
  | nil =>
      intro s t kept h
      obtain ⟨rfl, rfl⟩ := Prod.mk.inj (Except.ok.inj h)
      exact ⟨rfl, rfl⟩
  | cons e es ih =>
      intro s t kept h
      obtain ⟨s₁, success, kept₁, hex, hre, rfl⟩ := reapply_cons.1 h
      obtain ⟨⟨s₂, r⟩, hmove, hr⟩ := Except.bind_eq_ok.1 hex
      obtain ⟨rfl, rfl⟩ := Prod.mk.inj (Except.ok.inj hr)
      obtain ⟨hkept, hrun⟩ := ih hre
      rw [survivors]
      cases hr : r.executed with
      | true =>
          have hstep : moveStep s e.move = some s₂ := moveStep_eq_some.2 ⟨r, hmove, hr⟩
          simp only [hstep]
          refine ⟨by rw [if_pos trivial, hkept]; rfl, ?_⟩
          exact Runs.run_cons.2 ⟨s₂, hstep, hrun⟩
      | false =>
          have hsame : s₂ = s := by
            obtain ⟨-, ⟨-, -, hsame⟩ | ⟨htrue, -⟩⟩ := MoveAction.execute_cases hmove
            · exact hsame
            · rw [hr] at htrue
              simp at htrue
          subst hsame
          have hstep : moveStep s₂ e.move = none := by
            rw [moveStep]
            rw [hmove]
            simp [hr]
          simp only [hstep]
          exact ⟨by rw [if_neg (by simp), hkept], hrun⟩

/-- The order in the registry does not matter to which moves are executed. -/
theorem survivors_congr (es : List LogEntry) :
    ∀ {s t : GameState}, SameUpToOrder s t → s.Coherent → t.Coherent →
      survivors s es = survivors t es := by
  induction es with
  | nil => intro s t _ _ _; rfl
  | cons e es ih =>
      intro s t h hs ht
      simp only [survivors]
      cases hstep : moveStep s e.move with
      | some s' =>
          obtain ⟨t', hstep', hsame⟩ := moveStep_congr h hs ht hstep
          rw [hstep']
          dsimp only
          have hrun : Runs.run moveStep s [e.move] = some s' := Runs.run_cons.2 ⟨s', hstep, rfl⟩
          have hrun' : Runs.run moveStep t [e.move] = some t' := Runs.run_cons.2 ⟨t', hstep', rfl⟩
          rw [ih hsame (hs.run_moveStep hrun) (ht.run_moveStep hrun')]
      | none =>
          cases hstep' : moveStep t e.move with
          | some t' =>
              obtain ⟨s', hsome, -⟩ := moveStep_congr h.symm ht hs hstep'
              rw [hstep] at hsome
              simp at hsome
          | none => exact ih h hs ht

/-- A list in which no element of one kind stands before one of the other, by kind. -/
theorem filter_or_of_pairwise {α : Type} {p q : α → Bool} {l : List α}
    (hpq : ∀ a ∈ l, p a = true → q a = false)
    (h : l.Pairwise fun a b => q a = true → p b = false) :
    l.filter (fun a => p a || q a) = l.filter p ++ l.filter q := by
  induction l with
  | nil => rfl
  | cons a l ih =>
      rw [List.pairwise_cons] at h
      have hih := ih (fun b hb => hpq b (List.mem_cons_of_mem a hb)) h.2
      simp only [List.filter_cons, hih]
      cases hp : p a with
      | true => simp [hpq a List.mem_cons_self hp]
      | false =>
          cases hq : q a with
          | false => simp
          | true =>
              have hnone : l.filter p = [] := by
                rw [List.filter_eq_nil_iff]
                intro b hb
                rw [h.1 b hb hq]
                simp
              simp [hnone]

/-! ### The invariant -/

/-- **The invariant of a run** from a state: the manager keeps the pending entries, and the moves
that are not rejected lead to the local state, all of them executed. -/
structure ClientInv (s : GameState) (c : Client) : Prop where
  pending : c.manager.pending = (pendingEntries c.log).map LogEntry.prediction
  nodup : ((pendingEntries c.log).map (·.sequenceId)).Nodup
  index : ∀ e ∈ c.log, e.snapshot.unitIndex = e.move.unitIndex
  coherent : c.session.state.Coherent
  executed : ∃ t, Runs.run moveStep s (keptMoves c.log) = some t ∧
    SameUpToOrder t c.session.state

theorem ClientInv.inStep {s : GameState} {c : Client} (h : ClientInv s c) : InStep s c := by
  obtain ⟨t, hrun, hsame⟩ := h.executed
  exact ⟨t, replayMoves_of_run _ hrun, hsame⟩

theorem clientInv_start {session : GameSession} (h : session.state.Coherent) (next : SequenceId) :
    ClientInv session.state { manager := { nextSequenceId := next }, session } where
  pending := rfl
  nodup := List.nodup_nil
  index := by
    intro e he
    simp at he
  coherent := h
  executed := ⟨session.state, rfl, SameUpToOrder.refl _⟩

/-- Settling entries leaves what they are about. -/
theorem settle_index {status : PredictionStatus} {m : PredictionManager} {log : List LogEntry}
    (h : ∀ e ∈ log, e.snapshot.unitIndex = e.move.unitIndex) :
    ∀ e ∈ settle status m log, e.snapshot.unitIndex = e.move.unitIndex := by
  intro e he
  obtain ⟨e', he', rfl⟩ := List.mem_map.1 he
  split
  · exact h e' he'
  · exact h e' he'

theorem nodup_settle {status : PredictionStatus} (hstatus : status ≠ .pending)
    {m : PredictionManager} {log : List LogEntry}
    (h : ((pendingEntries log).map (·.sequenceId)).Nodup) :
    ((pendingEntries (settle status m log)).map (·.sequenceId)).Nodup := by
  rw [pendingEntries_settle hstatus]
  exact h.sublist (List.filter_sublist.map _)

/-- Predicting a move keeps the invariant. -/
theorem ClientInv.predict {s : GameState} {c c' : Client} {playerId : PlayerId} {move : MoveAction}
    (hs : s.Coherent) (h : ClientInv s c)
    (hfresh : c.manager.isPending c.manager.nextSequenceId = false)
    (hstep : c.step (.predict playerId move) = some c') : ClientInv s c' := by
  rw [Client.step] at hstep
  cases hpred : c.manager.predictAction c.session playerId (.move move) with
  | error e => simp [hpred] at hstep
  | ok out =>
      obtain ⟨manager, session, id⟩ := out
      rcases predictAction_cases hpred with ⟨rfl, rfl, rfl⟩ | ⟨rfl, -, -, hpend, state, hex, rfl⟩
      · simp only [hpred, Option.some_inj] at hstep
        subst hstep
        exact h
      · simp only [hpred, Option.some_inj] at hstep
        subst hstep
        obtain ⟨⟨state₁, r⟩, hmove, hr⟩ := Except.bind_eq_ok.1 hex
        obtain ⟨rfl, hexecuted⟩ := Prod.mk.inj (Except.ok.inj hr)
        obtain ⟨t, hrun, hsame⟩ := h.executed
        have hnew : pendingEntries (c.log ++ [c.entry c.manager.nextSequenceId move]) =
            pendingEntries c.log ++ [c.entry c.manager.nextSequenceId move] :=
          pendingEntries_append _ _
        refine ⟨?_, ?_, ?_, h.coherent.execute hex, ?_⟩
        · rw [hnew, List.map_append, ← h.pending, hpend]
          rfl
        · rw [hnew, List.map_append, List.nodup_append]
          refine ⟨h.nodup, List.nodup_singleton _, ?_⟩
          intro id hid id' hid' heq
          obtain rfl := List.mem_singleton.1 hid'
          subst heq
          have hmem : c.manager.isPending c.manager.nextSequenceId = true := by
            rw [isPending_iff, h.pending, List.map_map]
            exact hid
          rw [hfresh] at hmem
          simp at hmem
        · intro e he
          rcases List.mem_append.1 he with he | he
          · exact h.index e he
          · obtain rfl := List.mem_singleton.1 he
            exact captureSnapshot_unitIndex _ _
        · obtain ⟨t', hstep, hsame'⟩ := moveStep_congr hsame.symm h.coherent
            (hs.run_moveStep hrun) (moveStep_eq_some.2 ⟨r, hmove, hexecuted⟩)
          refine ⟨t', ?_, hsame'.symm⟩
          rw [keptMoves_append]
          exact Runs.run_append.2 ⟨t, hrun, Runs.run_cons.2 ⟨t', hstep, rfl⟩⟩

/-- Confirming a move keeps the invariant. -/
theorem ClientInv.confirm {s : GameState} {c c' : Client} {id : SequenceId} (h : ClientInv s c)
    (hstep : c.step (.confirm id) = some c') : ClientInv s c' := by
  obtain rfl := Option.some_inj.1 hstep
  have hne : PredictionStatus.confirmed ≠ .pending := by simp
  have hsub : (c.manager.confirmAction id).1.pending.Sublist
      ((pendingEntries c.log).map LogEntry.prediction) := by
    rw [← h.pending]
    exact List.eraseP_sublist
  refine ⟨(pendingEntries_settle_of_sublist hne hsub h.nodup).symm, nodup_settle hne h.nodup,
    settle_index h.index, h.coherent, ?_⟩
  dsimp only
  rw [keptMoves_settle_confirmed]
  exact h.executed

/-- The log around a pending prediction. -/
theorem exists_split {log : List LogEntry} {before toReapply : List PendingPrediction}
    {rejected : PendingPrediction}
    (h : (pendingEntries log).map LogEntry.prediction = before ++ rejected :: toReapply) :
    ∃ l e l', log = l ++ e :: l' ∧ e.status = .pending ∧
      before = (pendingEntries l).map LogEntry.prediction ∧ rejected = e.prediction ∧
      toReapply = (pendingEntries l').map LogEntry.prediction := by
  obtain ⟨es, es', hes, rfl, hmap⟩ := List.map_eq_append_iff.1 h
  obtain ⟨e, es'', rfl, rfl, rfl⟩ := List.map_eq_cons_iff.1 hmap
  obtain ⟨l₁, l₂, rfl, rfl, hl₂⟩ := List.filter_eq_append_iff.1 hes
  obtain ⟨l₃, l₄, rfl, hl₃, he, rfl⟩ := List.filter_eq_cons_iff.1 hl₂
  refine ⟨l₁ ++ l₃, e, l₄, by simp, of_decide_eq_true he, ?_, rfl, rfl⟩
  have hnone : pendingEntries l₃ = [] := List.filter_eq_nil_iff.2 hl₃
  rw [pendingEntries_append, hnone, List.append_nil]
  rfl

/-- The entries carried out again, as a part of the log. -/
theorem eq_filter_of_sublist {after kept : List LogEntry}
    (hsub : kept.Sublist (pendingEntries after))
    (hnodup : ((pendingEntries after).map (·.sequenceId)).Nodup) :
    kept = after.filter fun x => x ∈ kept := by
  have hids : ((pendingEntries after).map id).Nodup := by
    rw [List.map_id]
    exact hnodup.of_map
  have hfilter := filter_of_sublist (f := id) hsub hids
  rw [pendingEntries, List.filter_filter, List.map_id] at hfilter
  refine hfilter.symm.trans (List.filter_congr fun x _ => ?_)
  by_cases hx : x ∈ kept
  · have hpending : x.status = .pending := (mem_pendingEntries.1 (hsub.subset hx)).2
    simp [hx, hpending]
  · simp [hx]

/-- The moves of a unit among the confirmed moves and some of the pending ones, if its pending ones
come last. -/
theorem filter_inOrder {after kept : List LogEntry} (hsub : kept.Sublist (pendingEntries after))
    (hnodup : ((pendingEntries after).map (·.sequenceId)).Nodup)
    (hapart : after.Pairwise fun x y =>
      x.status = .pending → y.status = .confirmed → x.move.unitIndex ≠ y.move.unitIndex) (i : ℕ) :
    ((after.filter fun x => x.status = .confirmed ∨ x ∈ kept).map (·.move)).filter
        (·.unitIndex = i) =
      (confirmedMoves after).filter (·.unitIndex = i) ++
        (kept.map (·.move)).filter (·.unitIndex = i) := by
  have hpending : ∀ x ∈ kept, x.status = .pending := by
    intro x hx
    exact (mem_pendingEntries.1 (hsub.subset hx)).2
  have hkept := eq_filter_of_sublist hsub hnodup
  have hsplit := filter_or_of_pairwise (l := after)
    (p := fun x => decide (x.move.unitIndex = i) && decide (x.status = .confirmed))
    (q := fun x => decide (x.move.unitIndex = i) && decide (x ∈ kept)) ?_ ?_
  · conv_rhs => rw [hkept]
    rw [confirmedMoves]
    rw [List.filter_map, List.filter_map, List.filter_map, List.filter_filter, List.filter_filter,
      List.filter_filter, ← List.map_append]
    congr 1
    refine Eq.trans (List.filter_congr fun x _ => ?_) hsplit
    dsimp only [Function.comp_apply]
    rw [← Bool.and_or_distrib_left]
    simp only [Bool.decide_or]
  · intro x _ hx
    by_cases hk : x ∈ kept
    · have := hpending x hk
      simp [this] at hx
    · simp [hk]
  · refine hapart.imp_of_mem fun {x y} _ _ hxy hx => ?_
    simp only [Bool.and_eq_true, decide_eq_true_eq] at hx
    by_cases hy : y.status = .confirmed
    · have hne := hxy (hpending x hx.2) hy
      rw [hx.1] at hne
      simp [hne.symm]
    · simp [hy]

/-- The moves left after a rejection: those before the rejected one, and of the later ones those
that are confirmed or executed again. -/
theorem keptMoves_settle_split {m : PredictionManager} {before after kept : List LogEntry}
    {e : LogEntry} (he : e.status = .pending)
    (hnodup : ((pendingEntries (before ++ e :: after)).map (·.sequenceId)).Nodup)
    (hsub : kept.Sublist (pendingEntries after))
    (hm : m.pending = (pendingEntries before).map LogEntry.prediction ++
      kept.map LogEntry.prediction) :
    keptMoves (settle .rejected m (before ++ e :: after)) = keptMoves before ++
      (after.filter fun x => x.status = .confirmed ∨ x ∈ kept).map (·.move) := by
  rw [pendingEntries_append, pendingEntries_cons_of_pending he, List.map_append, List.map_cons,
    List.nodup_append, List.nodup_cons] at hnodup
  obtain ⟨-, ⟨hfresh, hafter⟩, hdisjoint⟩ := hnodup
  have hids : ∀ id, m.isPending id = true ↔
      id ∈ (pendingEntries before).map (·.sequenceId) ∨ id ∈ kept.map (·.sequenceId) := by
    intro id
    rw [isPending_iff, hm, List.map_append, List.mem_append, List.map_map, List.map_map]
    exact Iff.rfl
  have hleft : ∀ id ∈ kept.map (·.sequenceId), id ∈ (pendingEntries after).map (·.sequenceId) :=
    fun id hid => (hsub.map _).subset hid
  have hbefore : settle .rejected m before = before := by
    refine settle_eq_self fun x hx hst => (hids _).2 (Or.inl ?_)
    exact List.mem_map_of_mem (mem_pendingEntries.2 ⟨hx, hst⟩)
  have hgone : m.isPending e.sequenceId = false := by
    rw [Bool.eq_false_iff]
    intro h
    rcases (hids _).1 h with h | h
    · exact hdisjoint _ h _ List.mem_cons_self rfl
    · exact hfresh (hleft _ h)
  have hsettle : settle .rejected m (before ++ e :: after) =
      settle .rejected m before ++ { e with status := .rejected } :: settle .rejected m after := by
    unfold settle
    rw [List.map_append, List.map_cons, if_pos ⟨he, hgone⟩]
  have hcons : keptMoves ({ e with status := .rejected } :: settle .rejected m after) =
      keptMoves (settle .rejected m after) := by
    simp [keptMoves]
  rw [hsettle, keptMoves_append, hbefore, hcons, keptMoves_settle_rejected]
  congr 2
  refine List.filter_congr fun x hx => ?_
  have hiff : (x.status = .pending ∧ m.isPending x.sequenceId = true) ↔ x ∈ kept := by
    constructor
    · intro h
      have hxp : x ∈ pendingEntries after := mem_pendingEntries.2 ⟨hx, h.1⟩
      rcases (hids _).1 h.2 with hid | hid
      · exact absurd rfl (hdisjoint _ hid _ (List.mem_cons_of_mem _ (List.mem_map_of_mem hxp)))
      · obtain ⟨y, hy, hyx⟩ := List.mem_map.1 hid
        rw [← List.inj_on_of_nodup_map hafter (hsub.subset hy) hxp hyx]
        exact hy
    · intro h
      refine ⟨(mem_pendingEntries.1 (hsub.subset h)).2, (hids _).2 (Or.inr ?_)⟩
      exact List.mem_map_of_mem h
  simp only [hiff]

/-- **Rejecting a move** that takes back what it should keeps the invariant. -/
theorem ClientInv.reject {s : GameState} {c c' : Client} {id : SequenceId} (hs : s.Coherent)
    (h : ClientInv s c) (hok : Allowed s c (.reject id)) (hstep : c.step (.reject id) = some c') :
    ClientInv s c' := by
  have hne : PredictionStatus.rejected ≠ .pending := by simp
  rw [Client.step] at hstep
  cases hrej : c.manager.rejectAction c.session id with
  | error e => simp [hrej] at hstep
  | ok out =>
      obtain ⟨manager, session, found⟩ := out
      simp only [hrej, Option.some_inj] at hstep
      subst hstep
      have hcoh := h.coherent.reject hrej
      rcases rejectAction_cases hrej with ⟨-, -, rfl, rfl⟩ |
        ⟨-, before, rejected, toReapply, kept, state, hpending, rfl, -, hre, rfl, rfl⟩
      · -- nothing is rejected, and every pending entry is kept
        have hall : settle .rejected c.manager c.log = c.log := by
          refine settle_eq_self fun e he hst => ?_
          rw [isPending_iff, h.pending, List.map_map]
          exact List.mem_map_of_mem (mem_pendingEntries.2 ⟨he, hst⟩)
        rw [hall]
        exact ⟨h.pending, h.nodup, h.index, h.coherent, h.executed⟩
      · rw [h.pending] at hpending
        obtain ⟨l, e, l', hlog, he, rfl, rfl, rfl⟩ := exists_split hpending
        have hrejectable := hok l e l' hlog he rfl
        obtain ⟨t, hrun, hsame⟩ := h.executed
        have hnodup := h.nodup
        rw [hlog] at hrun hnodup
        have hindex : ∀ x ∈ e :: l', x.snapshot.unitIndex = x.move.unitIndex := by
          intro x hx
          refine h.index x ?_
          rw [hlog]
          exact List.mem_append_right l hx
        have hroll := rollback_sameUpToOrder hs h.coherent he hrun hsame hindex hrejectable
        have hback := h.coherent.rollback e.prediction
          ((pendingEntries l').map LogEntry.prediction)
        -- what is executed again, from the state rolled back to
        obtain ⟨rfl, hagain⟩ := reapply_moves _ hre
        rw [← survivors_congr _ hroll (hs.forceMoves _) hback] at hagain
        obtain ⟨t₂, hagain₂, hsame₂⟩ := run_moveStep_congr _ hroll.symm hback
          (hs.forceMoves _) hagain
        obtain ⟨t', hrun'⟩ := hrejectable.inOrder
        have hsub := survivors_sublist (pendingEntries l')
          (forceMoves s (keptMoves l ++ confirmedMoves l'))
        rw [← survivors_congr _ hroll (hs.forceMoves _) hback]
        generalize survivors (forceMoves s (keptMoves l ++ confirmedMoves l'))
          (pendingEntries l') = kept at *
        have hmanager : (pendingEntries (settle .rejected
            { c.manager with
              pending := (pendingEntries l).map LogEntry.prediction ++
                kept.map LogEntry.prediction } c.log)).map LogEntry.prediction =
            (pendingEntries l).map LogEntry.prediction ++ kept.map LogEntry.prediction := by
          refine pendingEntries_settle_of_sublist hne ?_ h.nodup
          rw [hlog, pendingEntries_append, pendingEntries_cons_of_pending he, List.map_append]
          exact List.Sublist.append_left ((hsub.map _).cons _) _
        refine ⟨hmanager.symm, nodup_settle hne h.nodup, settle_index h.index, hcoh, t', ?_, ?_⟩
        · dsimp only
          rw [hlog, keptMoves_settle_split he hnodup hsub rfl]
          exact hrun'
        · refine SameUpToOrder.trans ?_ hsame₂.symm
          rw [forceMoves_of_run _ hrun', forceMoves_of_run _ hagain₂]
          unfold forceMoves
          rw [← List.foldl_append]
          refine forceMoves_sameUpToOrder hs fun i => ?_
          rw [List.filter_append, List.filter_append, List.filter_append, List.append_assoc,
            filter_inOrder hsub ?_ (List.pairwise_cons.1 hrejectable.apart).2]
          rw [pendingEntries_append, pendingEntries_cons_of_pending he, List.map_append,
            List.map_cons, List.nodup_append, List.nodup_cons] at hnodup
          exact hnodup.2.1.2

/-- A call that meets the condition keeps the invariant. -/
theorem ClientInv.step {s : GameState} {c c' : Client} {call : Call} (hs : s.Coherent)
    (h : ClientInv s c) (hok : Allowed s c call) (hstep : c.step call = some c') :
    ClientInv s c' := by
  cases call with
  | predict playerId move => exact h.predict hs hok hstep
  | confirm id => exact h.confirm hstep
  | reject id => exact h.reject hs hok hstep

/-! ### Runs -/

/-- **In a run whose calls meet the condition the local state is the one that the log gives.** -/
theorem inStep_of_allowed (session : GameSession) (hcoh : session.state.Coherent)
    (next : SequenceId) (calls : List Call) (c : Client)
    (hallowed : Runs.Along Client.step (Allowed session.state)
      { manager := { nextSequenceId := next }, session } calls)
    (hrun : Runs.run Client.step
      { manager := { nextSequenceId := next }, session } calls = some c) :
    InStep session.state c := by
  have hinv := Runs.run_invariant (P := Allowed session.state) (I := ClientInv session.state)
    (fun _ _ _ h hok hstep => h.step hcoh hok hstep) calls _ c (clientInv_start hcoh next) hallowed
    hrun
  exact hinv.inStep

/-- When no later move is confirmed, it is enough that the snapshots are up to date. -/
theorem rejectable_of_none_confirmed {s : GameState} {c : Client} (h : ClientInv s c)
    {before after : List LogEntry} {e : LogEntry} (hlog : c.log = before ++ e :: after)
    (he : e.status = .pending) (hnone : ∀ x ∈ after, x.status ≠ .confirmed)
    (hcurrent : ∀ mid q rest, e :: after = mid ++ q :: rest → q.status = .pending →
      (∀ x ∈ mid, x.status = .pending → x.move.unitIndex ≠ q.move.unitIndex) →
      Current s (before ++ mid) q) : Rejectable s before e after := by
  refine ⟨hcurrent, ?_, ?_⟩
  · refine List.pairwise_cons.2 ⟨fun x hx _ hconf => absurd hconf (hnone x hx), ?_⟩
    exact List.pairwise_of_forall_mem_list fun x _ y hy _ hconf => absurd hconf (hnone y hy)
  · obtain ⟨t, hrun, -⟩ := h.executed
    have hnodup := h.nodup
    rw [hlog, pendingEntries_append, pendingEntries_cons_of_pending he, List.map_append,
      List.map_cons, List.nodup_append, List.nodup_cons] at hnodup
    rw [hlog, keptMoves_append] at hrun
    obtain ⟨t₁, hrun₁, -⟩ := Runs.run_append.1 hrun
    have hno : confirmedMoves after = [] := by
      rw [confirmedMoves]
      rw [List.map_eq_nil_iff, List.filter_eq_nil_iff]
      intro x hx
      simpa using hnone x hx
    have hforce : forceMoves s (keptMoves before ++ confirmedMoves after) = t₁ := by
      rw [hno, List.append_nil]
      exact (forceMoves_of_run _ hrun₁).symm
    have hkept := eq_filter_of_sublist (survivors_sublist (pendingEntries after) t₁) hnodup.2.1.2
    have hfilter : (after.filter fun x => x.status = .confirmed ∨
        x ∈ survivors t₁ (pendingEntries after)) = survivors t₁ (pendingEntries after) := by
      refine Eq.trans (List.filter_congr fun x hx => ?_) hkept.symm
      simp [hnone x hx]
    obtain ⟨t', hrun'⟩ := run_survivors (pendingEntries after) t₁
    rw [hforce, hfilter]
    exact ⟨t', Runs.run_append.2 ⟨t₁, hrun₁, hrun'⟩⟩

/-- A warrior on a field of plains, and a player who has it. -/
def scoutSession : GameSession where
  state := (plainField.addUnit (Unit.create 0 0 warriorTemplate 1)).1
  players := AList.insert 1 { playerId := 1, factionId := 1 } ∅

theorem scoutSession_coherent : scoutSession.state.Coherent := by
  have hempty : plainField.Coherent := OccupancyIndex.tracks_empty
  exact hempty.addUnit _

theorem split_singleton {α : Type} {x e : α} {l l' : List α} (h : [x] = l ++ e :: l') :
    l = [] ∧ e = x ∧ l' = [] := by
  cases l with
  | nil =>
      obtain ⟨rfl, rfl⟩ := List.cons.inj h
      exact ⟨rfl, rfl, rfl⟩
  | cons y l => simp at h

/-- A move that is predicted and rejected. -/
theorem inStep_of_rejected_move :
    ∃ c, Runs.run Client.step { session := scoutSession } [.predict 1 ⟨0, 0, 1⟩, .reject 1] =
      some c ∧ InStep scoutSession.state c := by
  have hsome : (Runs.run Client.step { session := scoutSession }
      [.predict 1 ⟨0, 0, 1⟩, .reject 1]).isSome = true := by decide
  obtain ⟨c, hrun⟩ := Option.isSome_iff_exists.1 hsome
  refine ⟨c, hrun, inStep_of_allowed scoutSession scoutSession_coherent 1 _ c ?_ hrun⟩
  have hfresh : Allowed scoutSession.state { session := scoutSession } (.predict 1 ⟨0, 0, 1⟩) := by
    show PredictionManager.isPending _ _ = false
    decide
  refine ⟨hfresh, fun c₁ hc₁ => ⟨?_, fun _ _ => trivial⟩⟩
  have hlog : (Client.step { session := scoutSession } (.predict 1 ⟨0, 0, 1⟩)).map (·.log) =
      some [⟨1, ⟨0, 0, 1⟩, ⟨0, 0, 0, 100, 2, true⟩, .pending⟩] := by decide
  rw [hc₁, Option.map_some, Option.some_inj] at hlog
  have hinv := (clientInv_start scoutSession_coherent 1).step scoutSession_coherent hfresh hc₁
  intro before e after hsplit he _
  obtain ⟨rfl, rfl, rfl⟩ := split_singleton (hlog.symm.trans hsplit)
  refine rejectable_of_none_confirmed hinv hsplit he (by simp) ?_
  intro mid q rest hmid _ _
  obtain ⟨rfl, rfl, rfl⟩ := split_singleton hmid
  exact ⟨scoutSession.state, rfl, by decide⟩

/-- **A confirmed move that is undone**: the rejected move was predicted before it, by the same
unit, and the confirmed one can still be made without it. -/
theorem confirmed_move_undone :
    ∃ c, Runs.run Client.step { session := scoutSession }
        [.predict 1 ⟨0, 0, 1⟩, .predict 1 ⟨0, 1, 0⟩, .confirm 2, .reject 1] = some c ∧
      ¬ InStep scoutSession.state c := by
  have hplace : (Runs.run Client.step { session := scoutSession }
      [.predict 1 ⟨0, 0, 1⟩, .predict 1 ⟨0, 1, 0⟩, .confirm 2, .reject 1]).map
        (fun c => (keptMoves c.log, c.session.state.units.list.map fun p => p.unit.coord)) =
      some ([⟨0, 1, 0⟩], [⟨0, 0⟩]) := by decide
  have hmeant : (replayMoves scoutSession.state [⟨0, 1, 0⟩]).map
      (fun t => t.units.list.map fun p => p.unit.coord) = .ok [⟨1, 0⟩] := by decide
  obtain ⟨c, hrun, hc⟩ := Option.map_eq_some_iff.1 hplace
  refine ⟨c, hrun, fun h => ?_⟩
  obtain ⟨t, hreplay, hsame⟩ := h
  obtain ⟨hkept, hcoords⟩ := Prod.mk.inj hc
  rw [hkept] at hreplay
  rw [hreplay] at hmeant
  have hcontra : (t.units.list.map fun p => p.unit.coord) = [⟨1, 0⟩] := Except.ok.inj hmeant
  rw [hsame.units_eq, hcoords] at hcontra
  simp at hcontra

end My4X
