/-
**Disconnecting and reconnecting.**

The reconnection manager tracks which players are connected.  A player who stays away for too long
is eliminated: the units of the faction are removed, and the player leaves the session.  A player
who comes back in time gets the game state as a saved snapshot.

Main definitions:

* `My4X.ReconnectionManager` — the tracked players, with `registerPlayer`, `unregisterPlayer`,
  `handleDisconnect`, `handleReconnect` and `checkTimeouts`;
* `My4X.ReconnectionManager.eliminatePlayerUnits` — the removal of the units of a faction.

Main results:

* `My4X.GameState.Coherent.eliminatePlayerUnits`, `My4X.GameState.Coherent.handleReconnect`,
  `My4X.GameState.Coherent.checkTimeouts` — **eliminations keep coherence**;
* `My4X.ReconnectionManager.eliminatePlayerUnits_list` — the units of the other factions are left,
  in their order.
-/

import My4X.Coherence
import My4X.Serialization
import My4X.Session
import Mathlib.Data.Finset.Insert

set_option relaxedAutoImplicit false
set_option autoImplicit false

namespace My4X

/-- The result of an attempt to reconnect. -/
inductive ReconnectResult
  | success
  | unknownPlayer
  | alreadyConnected
  | timedOut
  deriving DecidableEq, Repr

/-- What is tracked of a player.  The time is only meaningful while the player is away. -/
structure PlayerConnectionInfo where
  playerId : PlayerId := 0
  factionId : FactionId := 0
  connected : Bool := true
  disconnectTime : ℤ := 0
  deriving DecidableEq, Repr

/-- The default time a player may stay away, five minutes in nanoseconds. -/
def defaultDisconnectTimeout : ℤ := 300 * 1000000000

/-- The reconnection manager.  The session it is about is passed to the operations; times are
counted in the ticks of the clock. -/
structure ReconnectionManager where
  timeout : ℤ := defaultDisconnectTimeout
  players : AList fun _ : PlayerId => PlayerConnectionInfo := ∅
  eliminated : Finset PlayerId := ∅
  lastSnapshot : Option (List UInt8) := none

namespace ReconnectionManager

/-- Tracks a player under an identifier that is not taken. -/
def registerPlayer (m : ReconnectionManager) (playerId : PlayerId) (factionId : FactionId) :
    ReconnectionManager × Bool :=
  if (m.players.lookup playerId).isSome then (m, false)
  else ({ m with players := m.players.insert playerId { playerId, factionId } }, true)

def unregisterPlayer (m : ReconnectionManager) (playerId : PlayerId) : ReconnectionManager × Bool :=
  ({ m with players := m.players.erase playerId }, (m.players.lookup playerId).isSome)

/-- Notes that a connected player has gone. -/
def handleDisconnect (m : ReconnectionManager) (session : GameSession) (playerId : PlayerId)
    (now : ℤ) : ReconnectionManager × GameSession × Bool :=
  match m.players.lookup playerId with
  | none => (m, session, false)
  | some info =>
      if ¬ info.connected then (m, session, false)
      else
        ({ m with
            players :=
              m.players.replace playerId { info with connected := false, disconnectTime := now } },
          (session.disconnectPlayer playerId).1, true)

/-- One turn of the loop over the units: the unit at an index is removed if it is of the faction. -/
def eliminateUnitAt (factionId : FactionId) (state : GameState) (idx : ℕ) : GameState :=
  match state.units.get? idx with
  | none => state
  | some p => if p.unit.factionId = factionId then state.dropUnit idx p else state

/-- Removes the units of a faction, from the last index to the first. -/
def eliminatePlayerUnits (state : GameState) (factionId : FactionId) : GameState :=
  (List.range state.units.size).reverse.foldl (eliminateUnitAt factionId) state

/-- Whether a player has been away for too long. -/
def timedOut (m : ReconnectionManager) (info : PlayerConnectionInfo) (now : ℤ) : Bool :=
  !info.connected && m.timeout ≤ now - info.disconnectTime

/-- Eliminates a player: removes the units of the faction and forgets the player. -/
def eliminate (m : ReconnectionManager) (session : GameSession) (playerId : PlayerId)
    (info : PlayerConnectionInfo) : ReconnectionManager × GameSession :=
  ({ m with
      players := m.players.erase playerId
      eliminated := insert playerId m.eliminated },
    ((session.setState (eliminatePlayerUnits session.state info.factionId)).removePlayer
      playerId).1)

/-- Lets a player come back, or eliminates the player if it is too late.  The snapshot is taken when
the player is already connected again, and can throw. -/
def handleReconnect (m : ReconnectionManager) (codec : Codec) (session : GameSession)
    (playerId : PlayerId) (factionId : FactionId) (now : ℤ) :
    ReconnectionManager × GameSession × Except Fault ReconnectResult :=
  if playerId ∈ m.eliminated then (m, session, .ok .timedOut)
  else
    match m.players.lookup playerId with
    | none => (m, session, .ok .unknownPlayer)
    | some info =>
        if info.factionId ≠ factionId then (m, session, .ok .unknownPlayer)
        else if info.connected then (m, session, .ok .alreadyConnected)
        else if m.timedOut info now then
          let (m, session) := m.eliminate session playerId info
          (m, session, .ok .timedOut)
        else
          let m := { m with players := m.players.replace playerId { info with connected := true } }
          let session := (session.connectPlayer playerId).1
          match serializeGameState codec session.state with
          | .error e => (m, session, .error e)
          | .ok data => ({ m with lastSnapshot := some data }, session, .ok .success)

/-- One turn of the loop over the tracked players. -/
def checkTimeoutOf (now : ℤ) (acc : ReconnectionManager × GameSession × List PlayerId)
    (playerId : PlayerId) : ReconnectionManager × GameSession × List PlayerId :=
  let (m, session, timedOut) := acc
  match m.players.lookup playerId with
  | none => (m, session, timedOut)
  | some info =>
      if m.timedOut info now then
        let (m, session) := m.eliminate session playerId info
        (m, session, timedOut ++ [playerId])
      else (m, session, timedOut)

/-- Eliminates every player who has been away for too long.  The players are visited in the order
of the hash table, which is given. -/
def checkTimeouts (m : ReconnectionManager) (session : GameSession) (now : ℤ)
    (order : List PlayerId) : ReconnectionManager × GameSession × List PlayerId :=
  order.foldl (checkTimeoutOf now) (m, session, [])

/-! ### What an elimination leaves -/

/-- The loop from an index down: it filters the units below the index. -/
theorem foldl_eliminateUnitAt (factionId : FactionId) (n : ℕ) :
    ∀ s : GameState, n ≤ s.units.size →
      ((List.range n).reverse.foldl (eliminateUnitAt factionId) s).units.list =
        (s.units.list.take n).filter (fun p => p.unit.factionId ≠ factionId) ++
          s.units.list.drop n := by
  induction n with
  | zero => intro s _; simp
  | succ n ih =>
      intro s hn
      have hlt : n < s.units.list.length := hn
      rw [List.range_succ, List.reverse_append, List.reverse_singleton, List.singleton_append,
        List.foldl_cons]
      have hget : s.units.get? n = some s.units.list[n] := List.getElem?_eq_getElem hlt
      rw [List.take_succ_eq_append_getElem hlt, List.filter_append, List.append_assoc]
      by_cases hfaction : s.units.list[n].unit.factionId = factionId
      · have hstep : eliminateUnitAt factionId s n = s.dropUnit n s.units.list[n] := by
          simp only [eliminateUnitAt, hget, if_pos hfaction]
        have hlist : (s.dropUnit n s.units.list[n]).units.list =
            s.units.list.take n ++ s.units.list.drop (n + 1) := List.eraseIdx_eq_take_drop_succ _ _
        have hlen : (s.units.list.take n).length = n := List.length_take_of_le hlt.le
        have hsize : n ≤ (s.dropUnit n s.units.list[n]).units.size := by
          rw [UnitVec.size]
          rw [hlist, List.length_append, hlen]
          omega
        rw [hstep, ih _ hsize, hlist, List.take_left' hlen, List.drop_left' hlen]
        simp [hfaction]
      · have hstep : eliminateUnitAt factionId s n = s := by
          simp only [eliminateUnitAt, hget, if_neg hfaction]
        rw [hstep, ih s hlt.le, List.drop_eq_getElem_cons hlt]
        simp [hfaction]

/-- **An elimination leaves the units of the other factions, in their order.** -/
theorem eliminatePlayerUnits_list (s : GameState) (factionId : FactionId) :
    (eliminatePlayerUnits s factionId).units.list =
      s.units.list.filter fun p => p.unit.factionId ≠ factionId := by
  have hloop := foldl_eliminateUnitAt factionId s.units.size s le_rfl
  have hsize : s.units.size = s.units.list.length := rfl
  rw [hsize, List.take_length, List.drop_length, List.append_nil] at hloop
  exact hloop

end ReconnectionManager

/-! ### Coherence -/

namespace GameState

open ReconnectionManager

theorem Coherent.eliminateUnitAt {s : GameState} (h : s.Coherent) (factionId : FactionId) (i : ℕ) :
    (ReconnectionManager.eliminateUnitAt factionId s i).Coherent := by
  rw [ReconnectionManager.eliminateUnitAt]
  cases hp : s.units.get? i with
  | none => exact h
  | some p =>
      dsimp only
      split
      · exact h.dropUnit hp
      · exact h

theorem Coherent.eliminatePlayerUnits {s : GameState} (h : s.Coherent) (factionId : FactionId) :
    (ReconnectionManager.eliminatePlayerUnits s factionId).Coherent := by
  -- the loop keeps it from one index to the next
  refine List.foldlRecOn (motive := GameState.Coherent) _ _ h ?_
  intro s hs i _
  exact hs.eliminateUnitAt factionId i

end GameState

theorem GameState.Coherent.handleDisconnect {session : GameSession} (h : session.state.Coherent)
    (m : ReconnectionManager) (playerId : PlayerId) (now : ℤ) :
    (m.handleDisconnect session playerId now).2.1.state.Coherent := by
  rw [ReconnectionManager.handleDisconnect]
  cases m.players.lookup playerId with
  | none => exact h
  | some info =>
      dsimp only
      split
      · exact h
      · rw [GameSession.disconnectPlayer, GameSession.updatePlayer_state]
        exact h

theorem GameState.Coherent.handleReconnect {session : GameSession} (h : session.state.Coherent)
    (m : ReconnectionManager) (codec : Codec) (playerId : PlayerId) (factionId : FactionId)
    (now : ℤ) : (m.handleReconnect codec session playerId factionId now).2.1.state.Coherent := by
  rw [ReconnectionManager.handleReconnect]
  split
  · exact h
  · cases m.players.lookup playerId with
    | none => exact h
    | some info =>
        dsimp only
        split
        · exact h
        · split
          · exact h
          · split
            · exact h.eliminatePlayerUnits info.factionId
            · have hconnect : (session.connectPlayer playerId).1.state.Coherent := by
                rw [GameSession.connectPlayer, GameSession.updatePlayer_state]
                exact h
              split
              · exact hconnect
              · exact hconnect

theorem GameState.Coherent.checkTimeouts {session : GameSession} (h : session.state.Coherent)
    (m : ReconnectionManager) (now : ℤ) (order : List PlayerId) :
    (m.checkTimeouts session now order).2.1.state.Coherent := by
  -- the loop keeps it from one player to the next
  refine List.foldlRecOn (motive := fun acc : ReconnectionManager × GameSession × List PlayerId =>
    acc.2.1.state.Coherent) _ _ h ?_
  intro acc hacc playerId _
  rw [ReconnectionManager.checkTimeoutOf]
  dsimp only
  split
  · exact hacc
  · next info hinfo =>
      split
      · exact hacc.eliminatePlayerUnits info.factionId
      · exact hacc

end My4X
