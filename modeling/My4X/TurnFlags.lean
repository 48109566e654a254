/-
**When a turn advances.**

Every player of a session has a mark that says whether he has ended the turn.  Marks are set one by
one, survive a lost connection, vanish with the player and are cleared when the turn advances.  This
module records what happens to a session and shows that a mark is set exactly when its player has
ended the turn since the turn last advanced and since he was last registered.

Main definitions:

* `My4X.PlayerOp`, `My4X.GameSession.playerStep` — what players do to a session;
* `My4X.TurnEvent`, `My4X.EndedSince` — the history of a session, and who has ended the turn in it;
* `My4X.EveryoneDone` — there are players, and the connected ones have ended the turn.

Main results:

* `My4X.GameSession.getPlayerInfo_addPlayer` and its siblings — what the operations do to the
  players;
* `My4X.GameSession.marked_run` — **marks tell who has ended the turn**;
* `My4X.GameSession.turn_advances_iff` — **a turn advances exactly when everyone is done**.
-/

import My4X.Lib.Association
import My4X.TurnFaults

set_option relaxedAutoImplicit false
set_option autoImplicit false

namespace My4X

/-! ### The turn counter -/

namespace TurnResolver

/-- The turn of a city leaves the turn counter as it is. -/
theorem resolveCity_turn (unitRegistry : Option UnitTypeRegistry) (s : GameState) (i : ℕ) :
    (resolveCity unitRegistry s i).1.turn = s.turn := by
  cases hcity : s.cities[i]? with
  | none => rw [resolveCity_of_none unitRegistry hcity]
  | some city =>
      obtain ⟨registry, resources, hpay⟩ :=
        routeGoldToFaction_eq s city.factionId (collectCityYields city s).gold
      rw [resolveCity]
      simp only [hcity, hpay]
      split
      · rfl
      · next s₁ hplaced =>
          have hturn : s₁.turn = s.turn := by
            split at hplaced
            · cases hplaced
            · obtain rfl := Except.ok.inj hplaced
              rfl
            · exact (handleCompletedProduction_keeps hplaced).2.1.trans rfl
          split
          · exact hturn
          · exact hturn

end TurnResolver

/-- **A turn that completes advances the turn counter by one.** -/
theorem resolveTurn_turn {s s' : GameState} {unitRegistry : Option UnitTypeRegistry}
    {intents : List AIAction} (h : resolveTurn s unitRegistry = (s', .ok intents)) :
    s'.turn = s.turn + 1 := by
  have hcities : (TurnResolver.resolveCities s unitRegistry).1.turn = s.turn :=
    TurnResolver.resolveCitiesFrom_keeps (I := fun s₁ : GameState => s₁.turn = s.turn)
      (P := fun _ _ => True)
      (fun s₁ i (h : s₁.turn = s.turn) _ =>
        (TurnResolver.resolveCity_turn unitRegistry s₁ i).trans h)
      _ s rfl (Runs.along_of_forall (fun _ _ => trivial) _ s)
  rw [resolveTurn_eq] at h
  cases hout : TurnResolver.resolveCities s unitRegistry with
  | mk s₁ thrown =>
      rw [hout] at h hcities
      cases thrown with
      | some e => cases (Prod.mk.inj h).2
      | none =>
          obtain ⟨rfl, -⟩ := Prod.mk.inj h
          exact congrArg (· + 1) hcities

/-! ### Players -/

namespace GameSession

variable (s : GameSession) (p q : PlayerId)

theorem hasPlayer_iff {s : GameSession} {p : PlayerId} :
    s.hasPlayer p = true ↔ ∃ info, s.getPlayerInfo p = some info := by
  rw [hasPlayer, Option.isSome_iff_exists]

theorem hasPlayer_eq_false_iff {s : GameSession} {p : PlayerId} :
    s.hasPlayer p = false ↔ s.getPlayerInfo p = none := by
  rw [hasPlayer, Option.isSome_eq_false_iff, Option.isNone_iff_eq_none]

theorem getPlayerInfo_addPlayer (factionId : FactionId) :
    (s.addPlayer p factionId).1.getPlayerInfo q =
      if s.hasPlayer p = false ∧ q = p then some { playerId := p, factionId }
      else s.getPlayerInfo q := by
  rw [addPlayer]
  cases s.hasPlayer p with
  | true => simp
  | false =>
      simp only [Bool.false_eq_true, if_false, true_and]
      exact Association.lookup_insert s.players p q _

theorem getPlayerInfo_removePlayer :
    (s.removePlayer p).1.getPlayerInfo q = if q = p then none else s.getPlayerInfo q :=
  Association.lookup_erase s.players p q

/-- The change of a player. -/
theorem getPlayerInfo_updatePlayer (f : PlayerInfo → PlayerInfo) :
    (s.updatePlayer p f).1.getPlayerInfo q =
      if q = p then (s.getPlayerInfo q).map f else s.getPlayerInfo q := by
  rw [updatePlayer]
  cases hp : s.getPlayerInfo p with
  | none =>
      dsimp only
      split
      · next h => rw [h, hp]; rfl
      · rfl
  | some info =>
      refine (Association.lookup_replace s.players p q (f info)).trans ?_
      split
      · next h =>
          subst h
          rw [getPlayerInfo] at hp ⊢
          rw [hp]
          rfl
      · rfl

/-- Clearing the marks changes the marks alone. -/
theorem getPlayerInfo_resetTurnFlags :
    s.resetTurnFlags.getPlayerInfo q =
      (s.getPlayerInfo q).map fun info => { info with endedTurn := false } := by
  refine Association.look_foldl_keys (fun (players : AList fun _ : PlayerId => PlayerInfo) id =>
    players.lookup id) (fun players id id' => ?_) (fun _ => rfl) q
  cases hlookup : players.lookup id with
  | none =>
      dsimp only
      split
      · next h => rw [h, hlookup]; rfl
      · rfl
  | some info =>
      dsimp only
      rw [Association.lookup_replace]
      split
      · next h => rw [h, hlookup]; rfl
      · rfl

/-- When all players have ended the turn. -/
theorem allPlayersEndedTurn_iff {s : GameSession} :
    s.allPlayersEndedTurn = true ↔ (∃ p, s.hasPlayer p = true) ∧
      ∀ p info, s.getPlayerInfo p = some info → info.status = .connected →
        info.endedTurn = true := by
  have hsome : (∃ p, s.hasPlayer p = true) ↔ s.players.entries ≠ [] := by
    rw [Association.entries_ne_nil_iff]
    exact exists_congr fun p => hasPlayer_iff
  have hall : (∀ p info, s.getPlayerInfo p = some info → info.status = .connected →
      info.endedTurn = true) ↔
      ∀ e ∈ s.players.entries, e.2.status = .connected → e.2.endedTurn = true :=
    (Association.forall_entries_iff (P := fun _ (info : PlayerInfo) =>
      info.status = .connected → info.endedTurn = true)).symm
  rw [hsome, hall, allPlayersEndedTurn]
  cases hentries : s.players.entries with
  | nil => simp
  | cons e es =>
      simp only [List.isEmpty_cons, Bool.false_eq_true, if_false, List.all_eq_true,
        Bool.or_eq_true, decide_eq_true_eq, ne_eq, reduceCtorEq, not_false_eq_true, true_and]
      refine forall₂_congr fun e he => ?_
      cases e.2.status <;> simp

/-- **What trying to advance the turn does.** -/
theorem tryAdvanceTurn_cases (s : GameSession) :
    (s.allPlayersEndedTurn = false ∧ s.tryAdvanceTurn = (s, .ok false)) ∨
      (s.allPlayersEndedTurn = true ∧ ∃ state intents,
        resolveTurn s.state none = (state, .ok intents) ∧
        s.tryAdvanceTurn = ((s.setState state).resetTurnFlags, .ok true)) ∨
      (s.allPlayersEndedTurn = true ∧ ∃ state e, resolveTurn s.state none = (state, .error e) ∧
        s.tryAdvanceTurn = (s.setState state, .error e)) := by
  rw [tryAdvanceTurn]
  cases s.allPlayersEndedTurn with
  | false => exact Or.inl ⟨rfl, rfl⟩
  | true =>
      simp only [not_true_eq_false, if_false]
      cases hout : resolveTurn s.state none with
      | mk state outcome =>
          cases outcome with
          | error e => exact Or.inr (Or.inr ⟨trivial, state, e, rfl, rfl⟩)
          | ok intents => exact Or.inr (Or.inl ⟨trivial, state, intents, rfl, rfl⟩)

end GameSession

/-! ### Histories -/

/-- What players do to a session. -/
inductive PlayerOp
  | addPlayer (playerId : PlayerId) (factionId : FactionId)
  | removePlayer (playerId : PlayerId)
  | connectPlayer (playerId : PlayerId)
  | disconnectPlayer (playerId : PlayerId)
  | endTurn (playerId : PlayerId)
  | tryAdvanceTurn

/-- What happens to a session that matters for the marks. -/
inductive TurnEvent
  | registered (playerId : PlayerId)
  | ended (playerId : PlayerId)
  | advanced
  deriving DecidableEq, Repr

namespace PlayerOp

/-- The session after an operation. -/
def apply (s : GameSession) : PlayerOp → GameSession
  | addPlayer playerId factionId => (s.addPlayer playerId factionId).1
  | removePlayer playerId => (s.removePlayer playerId).1
  | connectPlayer playerId => (s.connectPlayer playerId).1
  | disconnectPlayer playerId => (s.disconnectPlayer playerId).1
  | endTurn playerId => (s.endTurn playerId).1
  | tryAdvanceTurn => s.tryAdvanceTurn.1

/-- The events of an operation: a registration that succeeds, a call to end the turn, and an advance
of the turn. -/
def events (s : GameSession) : PlayerOp → List TurnEvent
  | addPlayer playerId factionId =>
      if (s.addPlayer playerId factionId).2 then [.registered playerId] else []
  | endTurn playerId => [.ended playerId]
  | tryAdvanceTurn =>
      match s.tryAdvanceTurn.2 with
      | .ok true => [.advanced]
      | _ => []
  | removePlayer _ | connectPlayer _ | disconnectPlayer _ => []

end PlayerOp

/-- An operation with the history of the session. -/
abbrev GameSession.playerStep :
    GameSession × List TurnEvent → PlayerOp → Option (GameSession × List TurnEvent) :=
  Runs.recorded (fun s (op : PlayerOp) => some (op.apply s)) fun s history op =>
    history ++ op.events s

/-- A player has called to end the turn since the turn last advanced and since he was last
registered. -/
def EndedSince (history : List TurnEvent) (p : PlayerId) : Prop :=
  Runs.Since (fun e => e = TurnEvent.ended p)
    (fun e => e = TurnEvent.advanced ∨ e = TurnEvent.registered p) history

theorem endedSince_registered {history : List TurnEvent} {p q : PlayerId} :
    EndedSince (history ++ [.registered p]) q ↔ EndedSince history q ∧ p ≠ q := by
  rw [EndedSince, Runs.since_append]
  simp [EndedSince]

theorem endedSince_ended {history : List TurnEvent} {p q : PlayerId} :
    EndedSince (history ++ [.ended p]) q ↔ p = q ∨ EndedSince history q := by
  rw [EndedSince, Runs.since_append]
  simp [EndedSince]

theorem not_endedSince_advanced {history : List TurnEvent} {q : PlayerId} :
    ¬ EndedSince (history ++ [.advanced]) q := by
  rw [EndedSince, Runs.since_append]
  simp

/-- **The marks tell who has ended the turn.** -/
def Marked (x : GameSession × List TurnEvent) : Prop :=
  ∀ p info, x.1.getPlayerInfo p = some info → (info.endedTurn = true ↔ EndedSince x.2 p)

/-- A change of a player that leaves his mark as it is. -/
theorem Marked.updatePlayer {s : GameSession} {history : List TurnEvent} (h : Marked (s, history))
    (p : PlayerId) {f : PlayerInfo → PlayerInfo}
    (hf : ∀ info, (f info).endedTurn = info.endedTurn) :
    Marked ((s.updatePlayer p f).1, history) := by
  intro q info hinfo
  dsimp only at hinfo ⊢
  rw [GameSession.getPlayerInfo_updatePlayer] at hinfo
  split at hinfo
  · obtain ⟨info', hinfo', rfl⟩ := Option.map_eq_some_iff.1 hinfo
    rw [hf]
    exact h q info' hinfo'
  · exact h q info hinfo

/-- **An operation keeps the marks in step with the history.** -/
theorem Marked.step {s : GameSession} {history : List TurnEvent} (h : Marked (s, history))
    (op : PlayerOp) : Marked (op.apply s, history ++ op.events s) := by
  cases op with
  | addPlayer p factionId =>
      intro q info hinfo
      simp only [PlayerOp.apply, PlayerOp.events] at hinfo ⊢
      rw [GameSession.getPlayerInfo_addPlayer] at hinfo
      cases hhas : s.hasPlayer p with
      | true =>
          have hrefused : (s.addPlayer p factionId).2 = false := by
            rw [GameSession.addPlayer, if_pos hhas]
          rw [hhas, if_neg (by simp)] at hinfo
          rw [hrefused, if_neg Bool.false_ne_true, List.append_nil]
          exact h q info hinfo
      | false =>
          have hadded : (s.addPlayer p factionId).2 = true := by
            rw [GameSession.addPlayer, if_neg (by simp [hhas])]
          rw [hadded, if_pos rfl, endedSince_registered]
          rw [hhas] at hinfo
          by_cases hq : q = p
          · -- a new player has not ended the turn
            rw [if_pos ⟨rfl, hq⟩] at hinfo
            obtain rfl := Option.some_inj.1 hinfo
            simp [hq]
          · rw [if_neg fun hboth => hq hboth.2] at hinfo
            rw [h q info hinfo, and_iff_left (Ne.symm hq)]
  | removePlayer p =>
      intro q info hinfo
      simp only [PlayerOp.apply, PlayerOp.events, List.append_nil] at hinfo ⊢
      rw [GameSession.getPlayerInfo_removePlayer] at hinfo
      split at hinfo
      · cases hinfo
      · exact h q info hinfo
  | connectPlayer p =>
      rw [PlayerOp.events, List.append_nil]
      exact h.updatePlayer p fun _ => rfl
  | disconnectPlayer p =>
      rw [PlayerOp.events, List.append_nil]
      exact h.updatePlayer p fun _ => rfl
  | endTurn p =>
      intro q info hinfo
      simp only [PlayerOp.apply, PlayerOp.events] at hinfo ⊢
      rw [GameSession.endTurn, GameSession.getPlayerInfo_updatePlayer] at hinfo
      rw [endedSince_ended]
      split at hinfo
      · next hq =>
          obtain ⟨info', -, rfl⟩ := Option.map_eq_some_iff.1 hinfo
          exact iff_of_true rfl (Or.inl hq.symm)
      · next hq =>
          rw [h q info hinfo, or_iff_right (Ne.symm hq)]
  | tryAdvanceTurn =>
      rcases s.tryAdvanceTurn_cases with ⟨-, htry⟩ | ⟨-, state, intents, -, htry⟩ |
        ⟨-, state, e, -, htry⟩
      · rw [PlayerOp.apply, PlayerOp.events, htry]
        exact (List.append_nil history).symm ▸ h
      · rw [PlayerOp.apply, PlayerOp.events, htry]
        intro q info hinfo
        have hreset := (s.setState state).getPlayerInfo_resetTurnFlags q
        rw [hinfo] at hreset
        obtain ⟨info', -, rfl⟩ := Option.map_eq_some_iff.1 hreset.symm
        exact iff_of_false Bool.false_ne_true not_endedSince_advanced
      · rw [PlayerOp.apply, PlayerOp.events, htry]
        exact (List.append_nil history).symm ▸ h

namespace GameSession

/-- **Marks tell who has ended the turn**, in every session that players can bring about. -/
theorem marked_run {start session : GameSession} {history : List TurnEvent} {ops : List PlayerOp}
    (hstart : start.players = ∅)
    (hrun : Runs.run playerStep (start, []) ops = some (session, history)) :
    Marked (session, history) := by
  refine Runs.run_invariant (I := Marked) (P := fun _ _ => True) (fun x op y hx _ hstep => ?_) ops
    (start, []) (session, history) ?_ (Runs.along_of_forall (fun _ _ => trivial) ops _) hrun
  · obtain ⟨happly, hhistory⟩ := (Runs.recorded_eq_some _ _).1 hstep
    obtain ⟨s, h⟩ := x
    obtain ⟨s₁, h₁⟩ := y
    dsimp only at happly hhistory
    rw [hhistory, ← Option.some_inj.1 happly]
    exact hx.step op
  · intro p info hinfo
    rw [getPlayerInfo, hstart] at hinfo
    cases hinfo

end GameSession

/-- **Everyone is done**: there are players, and every connected one has ended the turn. -/
def EveryoneDone (s : GameSession) (history : List TurnEvent) : Prop :=
  (∃ p, s.hasPlayer p = true) ∧
    ∀ p info, s.getPlayerInfo p = some info → info.status = .connected → EndedSince history p

namespace GameSession

/-- The test of the session is the one of the history. -/
theorem allPlayersEndedTurn_iff_everyoneDone {s : GameSession} {history : List TurnEvent}
    (h : Marked (s, history)) : s.allPlayersEndedTurn = true ↔ EveryoneDone s history := by
  rw [allPlayersEndedTurn_iff, EveryoneDone]
  refine and_congr_right fun _ => forall_congr' fun p => forall_congr' fun info =>
    forall_congr' fun hinfo => forall_congr' fun _ => h p info hinfo

/-- **A turn advances exactly when everyone is done**: over every interleaving of what players do to
a new session, trying to advance the turn advances it by one and clears all marks when everyone is
done, and changes nothing otherwise.  It throws in neither case unless there is a building order
without a factory. -/
theorem turn_advances_iff (start session : GameSession) (history : List TurnEvent)
    (ops : List PlayerOp) (hstart : start.players = ∅)
    (hrun : Runs.run playerStep (start, []) ops = some (session, history)) :
    (session.state.AllOrders TurnResolver.HasFactory →
      (session.tryAdvanceTurn.2 = .ok true ↔ EveryoneDone session history)) ∧
      match session.tryAdvanceTurn with
      | (session', .ok true) =>
          EveryoneDone session history ∧ session'.state.turn = session.state.turn + 1 ∧
            ∀ p, session'.getPlayerInfo p =
              (session.getPlayerInfo p).map fun info => { info with endedTurn := false }
      | (session', .ok false) => ¬ EveryoneDone session history ∧ session' = session
      | (_, .error _) =>
          EveryoneDone session history ∧ ¬ session.state.AllOrders TurnResolver.HasFactory := by
  have hdone := allPlayersEndedTurn_iff_everyoneDone (marked_run hstart hrun)
  rcases session.tryAdvanceTurn_cases with ⟨hall, htry⟩ | ⟨hall, state, intents, hturn, htry⟩ |
    ⟨hall, state, e, hturn, htry⟩
  · have hnot : ¬ EveryoneDone session history := fun h => by
      rw [hdone.2 h] at hall
      cases hall
    rw [htry]
    exact ⟨fun _ => iff_of_false (by simp) hnot, hnot, rfl⟩
  · rw [htry]
    refine ⟨fun _ => iff_of_true rfl (hdone.1 hall), hdone.1 hall, resolveTurn_turn hturn,
      fun p => ?_⟩
    exact (session.setState state).getPlayerInfo_resetTurnFlags p
  · have hbroken : ¬ session.state.AllOrders TurnResolver.HasFactory := fun h => by
      obtain ⟨out, hout⟩ := resolveTurn_none_completes h
      rw [hturn] at hout
      cases hout
    rw [htry]
    exact ⟨fun h => absurd h hbroken, hdone.1 hall, hbroken⟩

end GameSession

/-- Two players, one of whom ends the turn while the other one leaves. -/
theorem two_players_advance :
    ∃ session history,
      Runs.run GameSession.playerStep ({ state := plainField }, [])
        [.addPlayer 1 1, .addPlayer 2 2, .endTurn 1, .disconnectPlayer 2] =
          some (session, history) ∧
      session.tryAdvanceTurn.2 = .ok true ∧ EveryoneDone session history := by
  have hrun : ∃ session history,
      Runs.run GameSession.playerStep ({ state := plainField }, [])
        [.addPlayer 1 1, .addPlayer 2 2, .endTurn 1, .disconnectPlayer 2] =
          some (session, history) ∧
      session.state.cities = [] ∧ session.tryAdvanceTurn.2 = .ok true := ⟨_, _, rfl, rfl, rfl⟩
  obtain ⟨session, history, hrun, hcities, htry⟩ := hrun
  have hfactory : session.state.AllOrders TurnResolver.HasFactory := by
    intro city hcity
    rw [hcities] at hcity
    cases hcity
  have hwhen := GameSession.turn_advances_iff { state := plainField } session history _ rfl hrun
  exact ⟨session, history, hrun, htry, (hwhen.1 hfactory).1 htry⟩

end My4X
