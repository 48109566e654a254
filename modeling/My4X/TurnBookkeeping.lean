/-
**Who has ended the turn, kept twice.**

The session keeps a mark for every player, and the turn manager a set of the players who are ready.
The manager sets the mark of a player with his entry in the set, but the session is also reached
past the manager: a player ends the turn or leaves, and the turn advances, without the manager being
told.  A turn that is started anew empties the set and leaves the marks.  This module says for every
operation exactly when it keeps the two in agreement.

Main definitions:

* `My4X.TurnManager.Agrees` — the set and the marks agree, and so do their counts;
* `My4X.BookOp` — the operations of the manager, of the session, and the processing of an end of
  turn;
* `My4X.BookOp.Booked` — the condition under which an operation keeps the agreement.

Main results:

* `My4X.BookOp.agrees_step_iff` — **an operation keeps the agreement exactly under its condition**;
* `My4X.agrees_along_iff` — the same for whole runs.
-/

import My4X.TurnManager
import Mathlib.Data.Finset.Dedup

set_option relaxedAutoImplicit false
set_option autoImplicit false

namespace My4X

/-! ### Marks -/

namespace GameSession

/-- A player is registered and has ended the turn. -/
def Ended (s : GameSession) (p : PlayerId) : Prop :=
  ∃ info, s.getPlayerInfo p = some info ∧ info.endedTurn = true

/-- No player has ended the turn. -/
def NobodyEnded (s : GameSession) : Prop := ∀ p, ¬ s.Ended p

variable {s : GameSession} {p q : PlayerId}

theorem Ended.hasPlayer (h : s.Ended p) : s.hasPlayer p = true := by
  obtain ⟨info, hinfo, -⟩ := h
  exact hasPlayer_iff.2 ⟨info, hinfo⟩

theorem ended_addPlayer (factionId : FactionId) :
    (s.addPlayer p factionId).1.Ended q ↔ s.Ended q := by
  rw [Ended, getPlayerInfo_addPlayer]
  split
  · next hnew =>
      obtain ⟨hnone, rfl⟩ := hnew
      rw [hasPlayer_eq_false_iff] at hnone
      rw [Ended, hnone]
      simp
  · exact Iff.rfl

theorem ended_removePlayer : (s.removePlayer p).1.Ended q ↔ q ≠ p ∧ s.Ended q := by
  rw [Ended, getPlayerInfo_removePlayer]
  split
  · next h => simp [h]
  · next h => exact (and_iff_right h).symm

/-- A change of a player that leaves the mark. -/
theorem ended_updatePlayer {f : PlayerInfo → PlayerInfo}
    (hf : ∀ info, (f info).endedTurn = info.endedTurn) :
    (s.updatePlayer p f).1.Ended q ↔ s.Ended q := by
  rw [Ended, getPlayerInfo_updatePlayer]
  split
  · constructor
    · rintro ⟨info, hinfo, hended⟩
      obtain ⟨info₀, hinfo₀, rfl⟩ := Option.map_eq_some_iff.1 hinfo
      exact ⟨info₀, hinfo₀, (hf info₀).symm.trans hended⟩
    · rintro ⟨info, hinfo, hended⟩
      exact ⟨f info, by rw [hinfo]; rfl, (hf info).trans hended⟩
  · exact Iff.rfl

theorem ended_connectPlayer : (s.connectPlayer p).1.Ended q ↔ s.Ended q := by
  rw [connectPlayer]
  exact ended_updatePlayer fun _ => rfl

theorem ended_disconnectPlayer : (s.disconnectPlayer p).1.Ended q ↔ s.Ended q := by
  rw [disconnectPlayer]
  exact ended_updatePlayer fun _ => rfl

theorem ended_endTurn :
    (s.endTurn p).1.Ended q ↔ (q = p ∧ s.hasPlayer p = true) ∨ s.Ended q := by
  rw [Ended, endTurn, getPlayerInfo_updatePlayer]
  split
  · next h =>
      subst h
      rw [hasPlayer_iff]
      constructor
      · rintro ⟨info, hinfo, -⟩
        obtain ⟨info₀, hinfo₀, -⟩ := Option.map_eq_some_iff.1 hinfo
        exact Or.inl ⟨rfl, info₀, hinfo₀⟩
      · rintro (⟨-, info, hinfo⟩ | ⟨info, hinfo, -⟩)
        · exact ⟨_, by rw [hinfo]; rfl, rfl⟩
        · exact ⟨_, by rw [hinfo]; rfl, rfl⟩
  · next h => rw [or_iff_right fun hboth => h hboth.1]; exact Iff.rfl

/-- Ending the turn changes no mark when the player has ended it, or is not registered. -/
theorem ended_endTurn_same_iff :
    (∀ q, s.Ended q ↔ (s.endTurn p).1.Ended q) ↔ (s.hasPlayer p = true → s.Ended p) := by
  simp only [ended_endTurn]
  constructor
  · intro hall hhas
    exact (hall p).2 (Or.inl ⟨rfl, hhas⟩)
  · intro hended q
    refine ⟨Or.inr, ?_⟩
    rintro (⟨rfl, hhas⟩ | hq)
    · exact hended hhas
    · exact hq

theorem not_ended_resetTurnFlags : ¬ s.resetTurnFlags.Ended q := by
  rintro ⟨info, hinfo, hended⟩
  rw [getPlayerInfo_resetTurnFlags] at hinfo
  obtain ⟨info₀, -, rfl⟩ := Option.map_eq_some_iff.1 hinfo
  cases hended

/-- While the turn cannot advance, a connected player has not ended it. -/
theorem exists_open_of_not_all (h : s.allPlayersEndedTurn = false) (hp : s.hasPlayer p = true) :
    ∃ q info, s.getPlayerInfo q = some info ∧ info.status = .connected ∧ ¬ s.Ended q := by
  by_contra hnone
  push Not at hnone
  have hall : s.allPlayersEndedTurn = true := by
    refine allPlayersEndedTurn_iff.2 ⟨⟨p, hp⟩, fun q info hinfo hconnected => ?_⟩
    obtain ⟨info', hinfo', hended⟩ := hnone q info hinfo hconnected
    rw [hinfo] at hinfo'
    obtain rfl := Option.some_inj.1 hinfo'
    exact hended
  rw [h] at hall
  cases hall

end GameSession

/-- The resolution of a turn does not throw. -/
def GameState.Resolves (s : GameState) : Prop := ∃ intents, (resolveTurn s none).2 = .ok intents

instance (s : GameState) : Decidable s.Resolves :=
  match h : (resolveTurn s none).2 with
  | .ok intents => isTrue ⟨intents, h⟩
  | .error _ => isFalse fun ⟨_, hok⟩ => by rw [h] at hok; cases hok

namespace TurnManager

/-- The mark of a player in the session that is asked to advance. -/
theorem ended_asked {m : TurnManager} {q : PlayerId} :
    m.asked.Ended q ↔ m.session.Ended q ∨ (m.isReady = false ∧
      ∃ info, m.session.getPlayerInfo q = some info ∧ info.status = .connected) := by
  rw [GameSession.Ended, getPlayerInfo_asked]
  cases m.isReady with
  | true =>
      rw [if_pos rfl, Option.map_id, id]
      simp [GameSession.Ended]
  | false =>
      rw [if_neg Bool.false_ne_true]
      constructor
      · rintro ⟨info, hinfo, hended⟩
        obtain ⟨info₀, hinfo₀, rfl⟩ := Option.map_eq_some_iff.1 hinfo
        by_cases hconnected : info₀.status = .connected
        · exact Or.inr ⟨rfl, info₀, hinfo₀, hconnected⟩
        · rw [forced, if_neg hconnected] at hended
          exact Or.inl ⟨info₀, hinfo₀, hended⟩
      · rintro (⟨info, hinfo, hended⟩ | ⟨-, info, hinfo, hconnected⟩)
        · refine ⟨forced info, by rw [hinfo]; rfl, ?_⟩
          rw [forced]
          split
          · rfl
          · exact hended
        · refine ⟨forced info, by rw [hinfo]; rfl, ?_⟩
          rw [forced, if_pos hconnected]

/-! ### Agreement -/

/-- **The manager and the session agree** on who has ended the turn, and on how many have. -/
structure Agrees (m : TurnManager) : Prop where
  players : ∀ p, m.hasPlayerEndedTurn p = true ↔ m.session.Ended p
  count : m.readyPlayerCount = (m.session.players.entries.filter fun e => e.2.endedTurn).length

/-- The counts agree when the players do. -/
theorem agrees_iff {m : TurnManager} : m.Agrees ↔ ∀ p, p ∈ m.readyPlayers ↔ m.session.Ended p := by
  constructor
  · intro h p
    rw [← h.players, hasPlayerEndedTurn, decide_eq_true_eq]
  · intro h
    refine ⟨fun p => by rw [hasPlayerEndedTurn, decide_eq_true_eq]; exact h p, ?_⟩
    have hnodup : ((m.session.players.entries.filter fun e => e.2.endedTurn).map (·.1)).Nodup :=
      m.session.players.nodupKeys.sublist List.filter_sublist
    have hsame : m.readyPlayers =
        ((m.session.players.entries.filter fun e => e.2.endedTurn).map (·.1)).toFinset := by
      ext p
      rw [h, List.mem_toFinset, List.mem_map]
      constructor
      · rintro ⟨info, hinfo, hended⟩
        exact ⟨⟨p, info⟩, List.mem_filter.2 ⟨AList.mem_lookup_iff.1 hinfo, hended⟩, rfl⟩
      · rintro ⟨e, he, rfl⟩
        obtain ⟨hmem, hended⟩ := List.mem_filter.1 he
        exact ⟨e.2, AList.mem_lookup_iff.2 hmem, hended⟩
    rw [readyPlayerCount, hsame, List.toFinset_card_of_nodup hnodup, List.length_map]

/-- A change of the session alone. -/
theorem agrees_session_iff {m : TurnManager} (h : m.Agrees) (session : GameSession) :
    ({ m with session } : TurnManager).Agrees ↔ ∀ p, m.session.Ended p ↔ session.Ended p := by
  rw [agrees_iff]
  exact forall_congr' fun p => by rw [← agrees_iff.1 h p]

end TurnManager

/-! ### Operations -/

/-- The operations on a session and its manager. -/
inductive BookOp
  | manager (call : TurnManager.Call) (time : ℚ)
  | session (op : PlayerOp)
  | endTurnAction (playerId : PlayerId)

namespace BookOp

/-- The manager after an operation. -/
def step (m : TurnManager) : BookOp → Option TurnManager
  | manager call time => some (m.call (call, time))
  | session op => some { m with session := op.apply m.session }
  | endTurnAction playerId =>
      some { m with session := (ActionProcessor.processAction m.session playerId .endTurn).1 }

/-- **The condition under which an operation keeps the agreement.** -/
def Booked (m : TurnManager) : BookOp → Prop
  | manager .startTurn _ => m.session.NobodyEnded
  | manager (.playerEndTurn _) _ => True
  | manager .tryAdvance time =>
      m.turnInProgress = true → m.isExpired time = true → m.isReady = false →
        (∃ p, m.session.hasPlayer p = true) → m.session.state.Resolves
  | session (.endTurn p) => m.session.hasPlayer p = true → m.session.Ended p
  | session (.removePlayer p) => ¬ m.session.Ended p
  | session .tryAdvanceTurn =>
      m.session.allPlayersEndedTurn = true → m.session.state.Resolves → m.session.NobodyEnded
  | session (.addPlayer _ _) | session (.connectPlayer _) | session (.disconnectPlayer _) => True
  | endTurnAction p =>
      ActionProcessor.validatePlayer m.session p = none →
        if (m.session.endTurn p).1.allPlayersEndedTurn = true ∧ m.session.state.Resolves then
          m.session.NobodyEnded
        else m.session.Ended p

end BookOp

namespace TurnManager

/-- A new turn forgets who is ready. -/
theorem agrees_startTurn_iff {m : TurnManager} {t : ℚ} :
    (m.startTurn t).Agrees ↔ m.session.NobodyEnded := by
  rw [agrees_iff]
  exact forall_congr' fun p => iff_false_left (Finset.notMem_empty p)

/-- The manager enters a player who ends the turn in both places. -/
theorem agrees_playerEndTurn {m : TurnManager} (h : m.Agrees) (p : PlayerId) (t : ℚ) :
    (m.playerEndTurn p t).1.Agrees := by
  rw [playerEndTurn]
  by_cases hhas : m.session.hasPlayer p = true
  · have hboth : ∀ q, q ∈ insert p m.readyPlayers ↔ (m.session.endTurn p).1.Ended q := by
      intro q
      rw [Finset.mem_insert, GameSession.ended_endTurn, agrees_iff.1 h q, and_iff_left hhas]
    rw [if_neg (not_not.2 hhas)]
    dsimp only
    split
    · exact agrees_iff.2 hboth
    · exact agrees_iff.2 hboth
  · rw [if_pos hhas]
    exact h

/-- **Trying to advance the turn keeps the agreement** unless others are made to end the turn and
its resolution throws. -/
theorem agrees_tryAdvance_iff {m : TurnManager} (h : m.Agrees) (t : ℚ) :
    (m.tryAdvance t).1.Agrees ↔ (m.turnInProgress = true → m.isExpired t = true →
      m.isReady = false → (∃ p, m.session.hasPlayer p = true) → m.session.state.Resolves) := by
  rcases m.tryAdvance_cases t with ⟨hwait, htry⟩ | ⟨⟨hbusy, hlate, p, hp⟩,
    ⟨state, intents, hturn, htry⟩ | ⟨state, e, hturn, htry⟩⟩
  · rw [htry]
    exact iff_of_true h fun hbusy hexpired _ hplayer =>
      absurd ⟨hbusy, fun _ => hexpired, hplayer⟩ hwait
  · -- the turn advances, and both are emptied
    rw [htry]
    refine iff_of_true (agrees_startTurn_iff.2 fun q => ?_) fun _ _ _ _ => ⟨intents, by rw [hturn]⟩
    exact GameSession.not_ended_resetTurnFlags
  · have hthrows : ¬ m.session.state.Resolves := by
      rintro ⟨intents, hok⟩
      rw [hturn] at hok
      cases hok
    rw [htry]
    refine (agrees_session_iff h _).trans ?_
    cases hready : m.isReady with
    | true =>
        refine iff_of_true (fun q => ?_) fun _ _ hnot => by cases hnot
        refine Iff.trans ?_ (Iff.symm (a := m.asked.Ended q) Iff.rfl)
        rw [ended_asked, hready]
        simp
    | false =>
        -- somebody who has not ended the turn is marked, and not entered
        obtain ⟨q, info, hinfo, hconnected, hopen⟩ := GameSession.exists_open_of_not_all hready hp
        refine iff_of_false (fun hall => hopen ((hall q).2 ?_)) fun hcond =>
          hthrows (hcond hbusy (hlate hready) rfl ⟨p, hp⟩)
        exact ended_asked.2 (Or.inr ⟨hready, info, hinfo, hconnected⟩)

end TurnManager

namespace BookOp

open TurnManager

/-- A session that tries to advance on its own has the marks of another one afterwards. -/
theorem ended_tryAdvanceTurn_iff (s₀ s : GameSession) :
    (∀ p, s₀.Ended p ↔ s.tryAdvanceTurn.1.Ended p) ↔
      if s.allPlayersEndedTurn = true ∧ s.state.Resolves then s₀.NobodyEnded
      else ∀ p, s₀.Ended p ↔ s.Ended p := by
  rcases s.tryAdvanceTurn_cases with ⟨hall, htry⟩ | ⟨hall, state, intents, hturn, htry⟩ |
    ⟨hall, state, e, hturn, htry⟩
  · rw [htry, if_neg fun hboth => Bool.false_ne_true (hall.symm.trans hboth.1)]
  · rw [htry, if_pos ⟨hall, intents, by rw [hturn]⟩]
    exact forall_congr' fun p => iff_false_right GameSession.not_ended_resetTurnFlags
  · have hthrows : ¬ s.state.Resolves := by
      rintro ⟨intents, hok⟩
      rw [hturn] at hok
      cases hok
    rw [htry, if_neg fun hboth => hthrows hboth.2]
    exact Iff.rfl

/-- A player that passes the check is registered. -/
theorem hasPlayer_of_validatePlayer {session : GameSession} {p : PlayerId}
    (h : ActionProcessor.validatePlayer session p = none) : session.hasPlayer p = true := by
  cases hinfo : session.getPlayerInfo p with
  | none =>
      rw [ActionProcessor.validatePlayer, hinfo] at h
      cases h
  | some info => exact GameSession.hasPlayer_iff.2 ⟨info, hinfo⟩

/-- Processing the end of the turn of a connected player ends it, and tries to advance. -/
theorem processAction_endTurn {session : GameSession} {p : PlayerId}
    (h : ActionProcessor.validatePlayer session p = none) :
    (ActionProcessor.processAction session p .endTurn).1 =
      (session.endTurn p).1.tryAdvanceTurn.1 := by
  have hended : (session.endTurn p).2 = true := by
    obtain ⟨info, hinfo⟩ := GameSession.hasPlayer_iff.1 (hasPlayer_of_validatePlayer h)
    rw [GameSession.endTurn, GameSession.updatePlayer, hinfo]
  rw [ActionProcessor.processAction, h]
  dsimp only
  rw [ActionProcessor.processEndTurn]
  cases hend : session.endTurn p with
  | mk session₁ ended =>
      rw [hend] at hended
      obtain rfl : ended = true := hended
      dsimp only
      cases session₁.tryAdvanceTurn with
      | mk session₂ advanced => cases advanced <;> rfl

/-- **An operation keeps the agreement exactly under its condition.** -/
theorem agrees_step_iff {m m' : TurnManager} {op : BookOp} (h : m.Agrees)
    (hstep : op.step m = some m') : m'.Agrees ↔ op.Booked m := by
  cases op with
  | manager call time =>
      obtain rfl := Option.some_inj.1 hstep
      cases call with
      | startTurn => exact agrees_startTurn_iff
      | playerEndTurn p => exact iff_of_true (agrees_playerEndTurn h p time) trivial
      | tryAdvance => exact agrees_tryAdvance_iff h time
  | session op =>
      obtain rfl := Option.some_inj.1 hstep
      rw [agrees_session_iff h]
      cases op with
      | addPlayer p factionId =>
          exact iff_of_true (fun q => (GameSession.ended_addPlayer factionId).symm) trivial
      | connectPlayer p =>
          exact iff_of_true (fun q => GameSession.ended_connectPlayer.symm) trivial
      | disconnectPlayer p =>
          exact iff_of_true (fun q => GameSession.ended_disconnectPlayer.symm) trivial
      | removePlayer p =>
          simp only [PlayerOp.apply, GameSession.ended_removePlayer, Booked]
          constructor
          · intro hall hended
            exact ((hall p).1 hended).1 rfl
          · intro hnot q
            refine ⟨fun hq => ⟨?_, hq⟩, fun hq => hq.2⟩
            rintro rfl
            exact hnot hq
      | endTurn p =>
          exact GameSession.ended_endTurn_same_iff
      | tryAdvanceTurn =>
          refine (ended_tryAdvanceTurn_iff m.session m.session).trans ?_
          rw [Booked]
          split
          · next hboth => exact ⟨fun hnobody _ _ => hnobody, fun hcond => hcond hboth.1 hboth.2⟩
          · next hnot =>
              exact iff_of_true (fun _ => Iff.rfl) fun hall hres => absurd ⟨hall, hres⟩ hnot
  | endTurnAction p =>
      obtain rfl := Option.some_inj.1 hstep
      rw [agrees_session_iff h, Booked]
      cases hvalid : ActionProcessor.validatePlayer m.session p with
      | some error =>
          have hrefused : (ActionProcessor.processAction m.session p .endTurn).1 = m.session := by
            rw [ActionProcessor.processAction, hvalid]
          rw [hrefused]
          exact iff_of_true (fun _ => Iff.rfl) fun hnone => by cases hnone
      | none =>
          have hhas := hasPlayer_of_validatePlayer hvalid
          have hstate : (m.session.endTurn p).1.state = m.session.state :=
            GameSession.updatePlayer_state m.session p _
          rw [processAction_endTurn hvalid, ended_tryAdvanceTurn_iff, hstate,
            GameSession.ended_endTurn_same_iff]
          simp only [hhas, forall_const]

end BookOp

/-- **Who has ended the turn is known in both places exactly as long as every operation meets its
condition**: from any manager and session that agree, over any interleaving of the operations. -/
theorem agrees_along_iff (m : TurnManager) (ops : List BookOp) (h : m.Agrees) :
    Runs.Along (fun m op => BookOp.step m op)
        (fun m op => ∀ m', op.step m = some m' → m'.Agrees) m ops ↔
      Runs.Along (fun m op => BookOp.step m op) (fun m op => op.Booked m) m ops := by
  refine Runs.along_congr_of_kept (I := TurnManager.Agrees) (D := fun _ _ => True)
    (fun m op hm _ => ?_) (fun m op m' _ _ hkeep hstep => hkeep m' hstep) ops m h
    (Runs.along_of_forall (fun _ _ => trivial) ops m)
  constructor
  · intro hkeep
    cases hstep : op.step m with
    | none => cases op <;> cases hstep
    | some m' => exact (BookOp.agrees_step_iff hm hstep).1 (hkeep m' hstep)
  · intro hbooked m' hstep
    exact (BookOp.agrees_step_iff hm hstep).2 hbooked

/-- A manager of a new session with one player. -/
def lonelyManager : TurnManager where
  session := { state := plainField, players := AList.insert 7 { playerId := 7, factionId := 1 } ∅ }

theorem lonelyManager_agrees : lonelyManager.Agrees := by
  refine TurnManager.agrees_iff.2 fun p => iff_of_false (Finset.notMem_empty p) ?_
  rintro ⟨info, hinfo, hended⟩
  have hfound := (Association.lookup_insert ∅ 7 p _).symm.trans hinfo
  split at hfound
  · obtain rfl := Option.some_inj.1 hfound
    cases hended
  · cases hfound

/-- A player who ends the turn in the session is not ready in the manager. -/
theorem lonelyManager_disagrees :
    ∃ m, Runs.run (fun m op => BookOp.step m op) lonelyManager
        [.manager .startTurn 0, .session (.endTurn 7)] = some m ∧
      m.session.Ended 7 ∧ m.hasPlayerEndedTurn 7 = false ∧ ¬ m.Agrees := by
  have hrun : ∃ m, Runs.run (fun m op => BookOp.step m op) lonelyManager
        [.manager .startTurn 0, .session (.endTurn 7)] = some m ∧
      m.session.Ended 7 ∧ m.hasPlayerEndedTurn 7 = false := ⟨_, rfl, ⟨_, rfl, rfl⟩, rfl⟩
  obtain ⟨m, hrun, hended, hready⟩ := hrun
  refine ⟨m, hrun, hended, hready, fun hagrees => ?_⟩
  rw [(hagrees.players 7).2 hended] at hready
  cases hready

/-- The same operations, by the condition. -/
theorem lonelyManager_along :
    Runs.Along (fun m op => BookOp.step m op)
        (fun m op => ∀ m', op.step m = some m' → m'.Agrees) lonelyManager
        [.manager .startTurn 0, .session (.endTurn 7)] ↔
      Runs.Along (fun m op => BookOp.step m op) (fun m op => op.Booked m) lonelyManager
        [.manager .startTurn 0, .session (.endTurn 7)] :=
  agrees_along_iff lonelyManager _ lonelyManager_agrees

end My4X
