/-
**Who is tracked, who is eliminated, who is connected.**

The reconnection manager keeps the tracked players and the eliminated ones, and the session keeps
who is connected.  Five calls change them.  They stay in step as long as only connected players are
newly tracked: nobody asks whether a player who is to be tracked has been eliminated, so that one
who has been can be tracked again, and is both.

Main definitions:

* `My4X.WatchedSession` — a manager and its session, with the calls to the manager;
* `My4X.WatchedSession.InStep` — nobody is tracked and eliminated, nobody eliminated is connected,
  and who is tracked is connected here as there.

Main results:

* `My4X.WatchedSession.inStep_along_iff` — **manager and session stay in step exactly as long as
  nobody is newly tracked who is eliminated or not connected**;
* `My4X.WatchedSession.pathsAgree_along_iff` — **the two ways to be eliminated agree exactly as long
  as no eliminated player goes away**.
-/

import My4X.Lib.Runs
import My4X.Timeouts

set_option relaxedAutoImplicit false
set_option autoImplicit false

namespace My4X

/-! ### Calls -/

/-- The calls to a reconnection manager. -/
inductive ReconnectionOp
  | registerPlayer (playerId : PlayerId) (factionId : FactionId)
  | unregisterPlayer (playerId : PlayerId)
  | handleDisconnect (playerId : PlayerId) (now : ℤ)
  | handleReconnect (codec : Codec) (playerId : PlayerId) (factionId : FactionId) (now : ℤ)
  | checkTimeouts (now : ℤ) (order : List PlayerId)

/-- A reconnection manager and the session it is about. -/
structure WatchedSession where
  manager : ReconnectionManager
  session : GameSession

/-- A player is registered in a session and connected. -/
def GameSession.Connected (session : GameSession) (p : PlayerId) : Prop :=
  ∃ info, session.getPlayerInfo p = some info ∧ info.status = .connected

namespace WatchedSession

/-- What a call leaves.  The tracked players are visited in some order of theirs; when no snapshot
can be taken the player who comes back is connected all the same. -/
def step (w : WatchedSession) : ReconnectionOp → Option WatchedSession
  | .registerPlayer p f => some { w with manager := (w.manager.registerPlayer p f).1 }
  | .unregisterPlayer p => some { w with manager := (w.manager.unregisterPlayer p).1 }
  | .handleDisconnect p now =>
      some { manager := (w.manager.handleDisconnect w.session p now).1
             session := (w.manager.handleDisconnect w.session p now).2.1 }
  | .handleReconnect codec p f now =>
      some { manager := (w.manager.handleReconnect codec w.session p f now).1
             session := (w.manager.handleReconnect codec w.session p f now).2.1 }
  | .checkTimeouts now order =>
      if order.Perm w.manager.players.keys then
        some { manager := (w.manager.checkTimeouts w.session now order).1
               session := (w.manager.checkTimeouts w.session now order).2.1 }
      else none

/-- Some players are eliminated, and nothing else happens to the players. -/
structure Eliminates (P : PlayerId → Prop) (w w' : WatchedSession) : Prop where
  untracked : ∀ p, P p → w'.manager.players.lookup p = none
  tracked : ∀ p, ¬ P p → w'.manager.players.lookup p = w.manager.players.lookup p
  eliminated : ∀ p, p ∈ w'.manager.eliminated ↔ p ∈ w.manager.eliminated ∨ P p
  absent : ∀ p, P p → w'.session.getPlayerInfo p = none
  players : ∀ p, ¬ P p → w'.session.getPlayerInfo p = w.session.getPlayerInfo p

/-- **What a call can do.** -/
inductive Change (w : WatchedSession) : ReconnectionOp → WatchedSession → Prop
  /-- Nothing, for a player who is not newly tracked, does not go away and does not come back. -/
  | nothing {op : ReconnectionOp}
      (registered : ∀ p f, op = .registerPlayer p f → (w.manager.players.lookup p).isSome = true)
      (gone : ∀ p now, op = .handleDisconnect p now → ∀ info,
        w.manager.players.lookup p = some info → info.connected = false) :
      Change w op w
  /-- A player is newly tracked. -/
  | registers {p : PlayerId} {f : FactionId} (new : w.manager.players.lookup p = none) :
      Change w (.registerPlayer p f) { w with manager := { w.manager with
        players := w.manager.players.insert p { playerId := p, factionId := f } } }
  /-- A player is forgotten. -/
  | unregisters (p : PlayerId) :
      Change w (.unregisterPlayer p)
        { w with manager := { w.manager with players := w.manager.players.erase p } }
  /-- A connected player goes away. -/
  | disconnects {p : PlayerId} {now : ℤ} {info : PlayerConnectionInfo}
      (found : w.manager.players.lookup p = some info) (connected : info.connected = true) :
      Change w (.handleDisconnect p now)
        { manager := { w.manager with
            players := w.manager.players.replace p
              { info with connected := false, disconnectTime := now } }
          session := (w.session.disconnectPlayer p).1 }
  /-- A player comes back in time. -/
  | reconnects {codec : Codec} {p : PlayerId} {f : FactionId} {now : ℤ}
      {info : PlayerConnectionInfo} (found : w.manager.players.lookup p = some info)
      (lastSnapshot : Option (List UInt8)) :
      Change w (.handleReconnect codec p f now)
        { manager := { w.manager with
            players := w.manager.players.replace p { info with connected := true }
            lastSnapshot }
          session := (w.session.connectPlayer p).1 }
  /-- Players are eliminated. -/
  | eliminates {op : ReconnectionOp} {w' : WatchedSession} (P : PlayerId → Prop)
      (tracked : ∀ p, P p → (w.manager.players.lookup p).isSome = true)
      (registered : ∀ p f, op ≠ .registerPlayer p f) (gone : ∀ p now, op ≠ .handleDisconnect p now)
      (done : Eliminates P w w') : Change w op w'

/-- An elimination of one player. -/
theorem eliminates_one (w : WatchedSession) {p : PlayerId} (info : PlayerConnectionInfo) :
    Eliminates (· = p) w
      { manager := (w.manager.eliminate w.session p info).1
        session := (w.manager.eliminate w.session p info).2 } := by
  refine ⟨fun q hq => ?_, fun q hq => ?_, fun q => ?_, fun q hq => ?_, fun q hq => ?_⟩
  · exact (Association.lookup_erase _ p q).trans (if_pos hq)
  · exact (Association.lookup_erase _ p q).trans (if_neg hq)
  · rw [ReconnectionManager.eliminate, Finset.mem_insert, or_comm]
  · exact (GameSession.getPlayerInfo_removePlayer _ p q).trans (if_pos hq)
  · exact (GameSession.getPlayerInfo_removePlayer _ p q).trans (if_neg hq)

/-- **Every call is one of these changes.** -/
theorem change_of_step {w w' : WatchedSession} {op : ReconnectionOp} (h : w.step op = some w') :
    Change w op w' := by
  cases op with
  | registerPlayer p f =>
      obtain rfl := Option.some_inj.1 h
      rw [ReconnectionManager.registerPlayer]
      split
      · next hsome =>
          exact Change.nothing (fun q g heq => by obtain ⟨rfl, -⟩ := heq; exact hsome)
            fun q t heq => by cases heq
      · next hnone =>
          refine Change.registers ?_
          rwa [Bool.not_eq_true, Option.isSome_eq_false_iff, Option.isNone_iff_eq_none] at hnone
  | unregisterPlayer p =>
      obtain rfl := Option.some_inj.1 h
      exact Change.unregisters p
  | handleDisconnect p now =>
      obtain rfl := Option.some_inj.1 h
      rw [ReconnectionManager.handleDisconnect]
      cases hinfo : w.manager.players.lookup p with
      | none =>
          refine Change.nothing (fun q g heq => by cases heq) fun q t heq info hfound => ?_
          obtain ⟨rfl, -⟩ := heq
          rw [hinfo] at hfound
          cases hfound
      | some info =>
          dsimp only
          split
          · next haway =>
              refine Change.nothing (fun q g heq => by cases heq) fun q t heq info' hfound => ?_
              obtain ⟨rfl, -⟩ := heq
              rw [hinfo] at hfound
              obtain rfl := Option.some_inj.1 hfound
              exact Bool.not_eq_true _ ▸ haway
          · next hconnected => exact Change.disconnects hinfo (not_not.1 hconnected)
  | handleReconnect codec p f now =>
      obtain rfl := Option.some_inj.1 h
      have hnothing : Change w (.handleReconnect codec p f now) w :=
        Change.nothing (fun q g heq => by cases heq) fun q t heq => by cases heq
      rw [ReconnectionManager.handleReconnect]
      split
      · exact hnothing
      · cases hinfo : w.manager.players.lookup p with
        | none => exact hnothing
        | some info =>
            dsimp only
            split
            · exact hnothing
            · split
              · exact hnothing
              · split
                · refine Change.eliminates (· = p) (fun q hq => ?_) (fun q g heq => by cases heq)
                    (fun q t heq => by cases heq) (w.eliminates_one info)
                  rw [show q = p from hq, hinfo]
                  rfl
                · split
                  · exact Change.reconnects hinfo w.manager.lastSnapshot
                  · next data _ => exact Change.reconnects hinfo (some data)
  | checkTimeouts now order =>
      rw [step] at h
      split at h
      · next horder =>
          obtain rfl := Option.some_inj.1 h
          have hexact := ReconnectionManager.timeoutsExact w.session now horder
          refine Change.eliminates (fun p => w.manager.isTimedOut now p = true) (fun p hp => ?_)
            (fun q g heq => by cases heq) (fun q t heq => by cases heq)
            ⟨fun p hp => ?_, fun p hp => ?_, hexact.eliminated, fun p hp => ?_, fun p hp => ?_⟩
          · obtain ⟨info, hinfo, -⟩ := ReconnectionManager.isTimedOut_eq_true_iff.1 hp
            rw [hinfo]
            rfl
          · exact (hexact.tracked p).trans (if_pos hp)
          · exact (hexact.tracked p).trans (if_neg hp)
          · exact (hexact.players p).trans (if_pos hp)
          · exact (hexact.players p).trans (if_neg hp)
      · cases h

/-! ### In step -/

/-- **Manager and session are in step**: no tracked player is eliminated, no eliminated player is
connected, and a tracked player is connected for the manager exactly when for the session. -/
structure InStep (w : WatchedSession) : Prop where
  disjoint : ∀ p ∈ w.manager.eliminated, w.manager.players.lookup p = none
  gone : ∀ p ∈ w.manager.eliminated, ¬ w.session.Connected p
  connected : ∀ p info, w.manager.players.lookup p = some info →
    (info.connected = true ↔ w.session.Connected p)

/-- Besides, who is tracked is in the session. -/
structure Tidy (w : WatchedSession) : Prop extends InStep w where
  seated : ∀ p info, w.manager.players.lookup p = some info →
    ∃ player, w.session.getPlayerInfo p = some player

theorem connected_congr {session session' : GameSession} {p : PlayerId}
    (h : session'.getPlayerInfo p = session.getPlayerInfo p) :
    session'.Connected p ↔ session.Connected p := by
  rw [GameSession.Connected, GameSession.Connected, h]

/-- Who is connected after a change of the status of a player. -/
theorem connected_updatePlayer {session : GameSession} {p q : PlayerId} {player : PlayerInfo}
    (hp : session.getPlayerInfo p = some player) (status : PlayerStatus) :
    (session.updatePlayer p fun info => { info with status }).1.Connected q ↔
      if q = p then status = .connected else session.Connected q := by
  split
  · next hq =>
      rw [GameSession.Connected, GameSession.getPlayerInfo_updatePlayer, if_pos hq, hq, hp]
      constructor
      · rintro ⟨info, hinfo, hstatus⟩
        obtain rfl := Option.some_inj.1 hinfo
        exact hstatus
      · intro hstatus
        exact ⟨_, rfl, hstatus⟩
  · next hq =>
      exact connected_congr ((GameSession.getPlayerInfo_updatePlayer session p q _).trans
        (if_neg hq))

/-- Changing the status of a player keeps the session's players. -/
theorem exists_updatePlayer {session : GameSession} {p q : PlayerId} {player : PlayerInfo}
    (hq : session.getPlayerInfo q = some player) (f : PlayerInfo → PlayerInfo) :
    ∃ player', (session.updatePlayer p f).1.getPlayerInfo q = some player' := by
  rw [GameSession.getPlayerInfo_updatePlayer, hq]
  split
  · exact ⟨_, rfl⟩
  · exact ⟨_, rfl⟩

/-- **A tracked player whose status changes here changes it there.** -/
theorem Tidy.setStatus {w : WatchedSession} (h : w.Tidy) {p : PlayerId}
    {info info' : PlayerConnectionInfo} (found : w.manager.players.lookup p = some info)
    (status : PlayerStatus) (lastSnapshot : Option (List UInt8))
    (hinfo' : info'.connected = true ↔ status = .connected) :
    Tidy { manager := { w.manager with players := w.manager.players.replace p info', lastSnapshot }
           session := (w.session.updatePlayer p fun player => { player with status }).1 } := by
  obtain ⟨player, hplayer⟩ := h.seated p info found
  have hother : ∀ q ∈ w.manager.eliminated, q ≠ p := by
    rintro q hq rfl
    rw [h.disjoint q hq] at found
    cases found
  have hlookup := fun q => Association.lookup_replace w.manager.players p q info'
  refine ⟨⟨fun q hq => ?_, fun q hq => ?_, fun q record hrecord => ?_⟩, fun q record hrecord => ?_⟩
  · exact ((hlookup q).trans (if_neg (hother q hq))).trans (h.disjoint q hq)
  · rw [connected_updatePlayer hplayer, if_neg (hother q hq)]
    exact h.gone q hq
  · rw [connected_updatePlayer hplayer]
    rw [hlookup] at hrecord
    split at hrecord
    · next hqp =>
        rw [hqp, found] at hrecord
        obtain rfl := Option.some_inj.1 hrecord
        rw [if_pos hqp]
        exact hinfo'
    · next hqp =>
        rw [if_neg hqp]
        exact h.connected q record hrecord
  · rw [hlookup] at hrecord
    split at hrecord
    · next hqp =>
        rw [hqp]
        exact exists_updatePlayer hplayer _
    · obtain ⟨seat, hseat⟩ := h.seated q record hrecord
      exact exists_updatePlayer hseat _

/-- An elimination keeps manager and session in step. -/
theorem Tidy.eliminates {w w' : WatchedSession} (h : w.Tidy) {P : PlayerId → Prop}
    (hdone : Eliminates P w w') : w'.Tidy := by
  have hkept : ∀ p info, w'.manager.players.lookup p = some info →
      ¬ P p ∧ w.manager.players.lookup p = some info := by
    intro p info hinfo
    have hp : ¬ P p := fun hp => by
      rw [hdone.untracked p hp] at hinfo
      cases hinfo
    exact ⟨hp, hdone.tracked p hp ▸ hinfo⟩
  refine ⟨⟨fun p hp => ?_, fun p hp => ?_, fun p info hinfo => ?_⟩, fun p info hinfo => ?_⟩
  · by_cases hP : P p
    · exact hdone.untracked p hP
    · rw [hdone.tracked p hP]
      exact h.disjoint p (((hdone.eliminated p).1 hp).resolve_right hP)
  · by_cases hP : P p
    · rintro ⟨player, hplayer, -⟩
      rw [hdone.absent p hP] at hplayer
      cases hplayer
    · rw [connected_congr (hdone.players p hP)]
      exact h.gone p (((hdone.eliminated p).1 hp).resolve_right hP)
  · obtain ⟨hP, hold⟩ := hkept p info hinfo
    rw [connected_congr (hdone.players p hP)]
    exact h.connected p info hold
  · obtain ⟨hP, hold⟩ := hkept p info hinfo
    rw [hdone.players p hP]
    exact h.seated p info hold

/-- Forgetting a player keeps manager and session in step. -/
theorem Tidy.unregister {w : WatchedSession} (h : w.Tidy) (p : PlayerId) :
    Tidy { w with manager := { w.manager with players := w.manager.players.erase p } } := by
  refine ⟨⟨fun q hq => ?_, h.gone, Association.forall_erase h.connected p⟩,
    Association.forall_erase h.seated p⟩
  exact (Association.lookup_erase w.manager.players p q).trans
    (ite_eq_left_iff.2 fun _ => (h.disjoint q hq))

/-- **Nobody is newly tracked who is eliminated or not connected.** -/
def Proper (w : WatchedSession) : ReconnectionOp → Prop
  | .registerPlayer p _ => (w.manager.players.lookup p).isSome = true ∨
      (p ∉ w.manager.eliminated ∧ w.session.Connected p)
  | .unregisterPlayer _ | .handleDisconnect _ _ | .handleReconnect _ _ _ _ | .checkTimeouts _ _ =>
      True

/-- **A call keeps manager and session in step exactly when it is proper**, and then who is tracked
stays in the session. -/
theorem Tidy.inStep_iff {w w' : WatchedSession} {op : ReconnectionOp} (h : w.Tidy)
    (hstep : w.step op = some w') :
    (w'.InStep ↔ w.Proper op) ∧ (w.Proper op → w'.Tidy) := by
  have hproper : ∀ {op' : ReconnectionOp} {v : WatchedSession},
      (∀ p f, op' = .registerPlayer p f → (w.manager.players.lookup p).isSome = true) → v.Tidy →
        (v.InStep ↔ w.Proper op') ∧ (w.Proper op' → v.Tidy) := by
    intro op' v hregistered hv
    refine ⟨iff_of_true hv.toInStep ?_, fun _ => hv⟩
    cases op' with
    | registerPlayer p f => exact Or.inl (hregistered p f rfl)
    | unregisterPlayer p => trivial
    | handleDisconnect p now => trivial
    | handleReconnect codec p f now => trivial
    | checkTimeouts now order => trivial
  cases change_of_step hstep with
  | nothing registered gone => exact hproper registered h
  | @registers p f new =>
      have hlookup := Association.lookup_insert w.manager.players p p
        ({ playerId := p, factionId := f } : PlayerConnectionInfo)
      rw [if_pos rfl] at hlookup
      have hnew : w.Proper (.registerPlayer p f) ↔
          p ∉ w.manager.eliminated ∧ w.session.Connected p := by
        refine or_iff_right fun hsome => ?_
        rw [new] at hsome
        cases hsome
      have htidy : p ∉ w.manager.eliminated ∧ w.session.Connected p →
          Tidy { w with manager := { w.manager with
            players := w.manager.players.insert p { playerId := p, factionId := f } } } := by
        rintro ⟨hp, hconnected⟩
        refine ⟨⟨fun q hq => ?_, h.gone, Association.forall_insert h.connected ?_⟩,
          Association.forall_insert h.seated ?_⟩
        · refine (Association.lookup_insert w.manager.players p q _).trans ((if_neg ?_).trans
            (h.disjoint q hq))
          rintro rfl
          exact hp hq
        · exact iff_of_true rfl hconnected
        · obtain ⟨player, hplayer, -⟩ := hconnected
          exact ⟨player, hplayer⟩
      rw [hnew]
      refine ⟨⟨fun hin => ⟨fun hp => ?_, (hin.connected p _ hlookup).1 rfl⟩, fun hboth =>
        (htidy hboth).toInStep⟩, htidy⟩
      have hnone := hin.disjoint p hp
      rw [hlookup] at hnone
      cases hnone
  | unregisters p => exact hproper (fun q g heq => by cases heq) (h.unregister p)
  | disconnects found connected =>
      exact hproper (fun q g heq => by cases heq)
        (h.setStatus found .disconnected w.manager.lastSnapshot (by simp))
  | reconnects found lastSnapshot =>
      exact hproper (fun q g heq => by cases heq)
        (h.setStatus found .connected lastSnapshot (by simp))
  | eliminates P tracked registered gone done =>
      exact hproper (fun p f heq => absurd heq (registered p f)) (h.eliminates done)

/-- Whoever is eliminated stays eliminated. -/
theorem eliminated_subset {w w' : WatchedSession} {op : ReconnectionOp}
    (hstep : w.step op = some w') : w.manager.eliminated ⊆ w'.manager.eliminated := by
  cases change_of_step hstep with
  | nothing registered gone => exact Finset.Subset.refl _
  | registers new => exact Finset.Subset.refl _
  | unregisters p => exact Finset.Subset.refl _
  | disconnects found connected => exact Finset.Subset.refl _
  | reconnects found lastSnapshot => exact Finset.Subset.refl _
  | eliminates P tracked registered gone done =>
      exact fun p hp => (done.eliminated p).2 (Or.inl hp)

/-- A new manager. -/
def start (session : GameSession) (timeout : ℤ) : WatchedSession :=
  { manager := { timeout }, session }

theorem tidy_start (session : GameSession) (timeout : ℤ) : (start session timeout).Tidy := by
  refine ⟨⟨fun p hp => ?_, fun p hp => ?_, fun p info hinfo => ?_⟩, fun p info hinfo => ?_⟩
  · cases hp
  · cases hp
  · cases hinfo
  · cases hinfo

/-- **Manager and session stay in step exactly as long as nobody is newly tracked who is eliminated
or not connected**: over every sequence of calls to a new manager, at whatever times. -/
theorem inStep_along_iff (session : GameSession) (timeout : ℤ) (ops : List ReconnectionOp) :
    Runs.Along step (fun w op => ∀ w', w.step op = some w' →
        w.manager.eliminated ⊆ w'.manager.eliminated ∧ w'.InStep) (start session timeout) ops ↔
      Runs.Along step (fun w op => w.Proper op) (start session timeout) ops := by
  refine Runs.along_congr_of_kept (I := Tidy) (D := fun _ _ => True) (fun w op h _ => ?_)
    (fun w op w' h _ hkeep hstep =>
      (h.inStep_iff hstep).2 ((h.inStep_iff hstep).1.1 (hkeep w' hstep).2))
    ops _ (tidy_start session timeout) (Runs.along_of_forall (fun _ _ => trivial) ops _)
  constructor
  · intro hkeep
    cases hstep : w.step op with
    | none =>
        -- only looking for timeouts can go wrong, in an order that there is not
        cases op with
        | registerPlayer p f => cases hstep
        | unregisterPlayer p => trivial
        | handleDisconnect p now => trivial
        | handleReconnect codec p f now => trivial
        | checkTimeouts now order => trivial
    | some w' => exact (h.inStep_iff hstep).1.1 (hkeep w' hstep).2
  · intro hproper w' hstep
    exact ⟨eliminated_subset hstep, (h.inStep_iff hstep).1.2 hproper⟩

/-- A session with one player. -/
def lonelySession : GameSession :=
  (({ state := plainField } : GameSession).addPlayer 7 1).1

/-- The player is tracked, goes away for five minutes, is eliminated and tracked again. -/
def trackedAgain : List ReconnectionOp :=
  [.registerPlayer 7 1, .handleDisconnect 7 0, .checkTimeouts defaultDisconnectTimeout [7],
    .registerPlayer 7 1]

/-- **A player is tracked and eliminated.** -/
theorem trackedAgain_not_inStep :
    ∃ w info, Runs.run step (start lonelySession defaultDisconnectTimeout) trackedAgain = some w ∧
      7 ∈ w.manager.eliminated ∧ w.manager.players.lookup 7 = some info ∧ info.connected = true ∧
      ¬ w.session.Connected 7 ∧ ¬ w.InStep := by
  refine ⟨_, _, rfl, by decide, rfl, rfl, ?_, fun h => ?_⟩
  · rintro ⟨player, hplayer, -⟩
    cases hplayer
  · have hnone := h.disjoint 7 (by decide)
    cases hnone

/-! ### The two ways to be eliminated -/

/-- Nobody who is away has been eliminated before. -/
def NewlyAway (w : WatchedSession) : Prop :=
  ∀ p info, w.manager.players.lookup p = some info → info.connected = false →
    p ∉ w.manager.eliminated

/-- The two ways agree at all times, whatever the session has come to, exactly when nobody who is
away has been eliminated before. -/
theorem newlyAway_iff {w : WatchedSession} :
    (∀ session now, w.manager.PathsAgree session now) ↔ w.NewlyAway := by
  constructor
  · intro hagree p info hinfo haway
    -- in the end everybody is away for too long
    refine ReconnectionManager.pathsAgree_iff.1
      (hagree w.session (info.disconnectTime + w.manager.timeout)) p
      (ReconnectionManager.isTimedOut_eq_true_iff.2 ⟨info, hinfo, ?_⟩)
    rw [ReconnectionManager.timedOut, haway, Bool.not_false, Bool.true_and, decide_eq_true_eq]
    omega
  · intro hnew session now
    refine ReconnectionManager.pathsAgree_iff.2 fun p hout => ?_
    obtain ⟨info, hinfo, htime⟩ := ReconnectionManager.isTimedOut_eq_true_iff.1 hout
    rw [ReconnectionManager.timedOut, Bool.and_eq_true, Bool.not_eq_true'] at htime
    exact hnew p info hinfo htime.1

/-- **No eliminated player goes away.** -/
def Departs (w : WatchedSession) : ReconnectionOp → Prop
  | .handleDisconnect p _ => ∀ info, w.manager.players.lookup p = some info →
      info.connected = true → p ∉ w.manager.eliminated
  | .registerPlayer _ _ | .unregisterPlayer _ | .handleReconnect _ _ _ _ | .checkTimeouts _ _ =>
      True

/-- **A call keeps the two ways in agreement exactly when no eliminated player goes away.** -/
theorem NewlyAway.step_iff {w w' : WatchedSession} {op : ReconnectionOp} (h : w.NewlyAway)
    (hstep : w.step op = some w') : w'.NewlyAway ↔ w.Departs op := by
  have hdeparts : ∀ {op' : ReconnectionOp} {v : WatchedSession},
      (∀ p now, op' = .handleDisconnect p now → ∀ info,
        w.manager.players.lookup p = some info → info.connected = false) → v.NewlyAway →
        (v.NewlyAway ↔ w.Departs op') := by
    intro op' v hgone hv
    refine iff_of_true hv ?_
    cases op' with
    | registerPlayer p f => trivial
    | unregisterPlayer p => trivial
    | handleDisconnect p now =>
        intro info hinfo hconnected
        rw [hgone p now rfl info hinfo] at hconnected
        cases hconnected
    | handleReconnect codec p f now => trivial
    | checkTimeouts now order => trivial
  cases change_of_step hstep with
  | nothing registered gone => exact hdeparts gone h
  | registers new =>
      exact hdeparts (fun q t heq => by cases heq)
        (Association.forall_insert h fun haway => by cases haway)
  | unregisters p => exact hdeparts (fun q t heq => by cases heq) (Association.forall_erase h p)
  | @disconnects p now info found connected =>
      refine (Association.forall_replace_iff h found).trans ?_
      constructor
      · intro hp info' _ _
        exact hp rfl
      · intro hp _
        exact hp info found connected
  | reconnects found lastSnapshot =>
      exact hdeparts (fun q t heq => by cases heq)
        ((Association.forall_replace_iff h found).2 fun haway => by cases haway)
  | eliminates P tracked registered gone done =>
      refine hdeparts (fun p now heq => absurd heq (gone p now)) fun p info hinfo haway hp => ?_
      have hP : ¬ P p := fun hP => by
        rw [done.untracked p hP] at hinfo
        cases hinfo
      rw [done.tracked p hP] at hinfo
      exact h p info hinfo haway (((done.eliminated p).1 hp).resolve_right hP)

/-- **The two ways to be eliminated agree, at all times, exactly as long as no eliminated player
goes away**: over every sequence of calls to a new manager, whatever the session has come to. -/
theorem pathsAgree_along_iff (session : GameSession) (timeout : ℤ) (ops : List ReconnectionOp) :
    Runs.Along step (fun w op => ∀ w', w.step op = some w' →
        ∀ session' now, w'.manager.PathsAgree session' now) (start session timeout) ops ↔
      Runs.Along step (fun w op => w.Departs op) (start session timeout) ops := by
  have hstart : (start session timeout).NewlyAway := fun p info hinfo => by cases hinfo
  refine Runs.along_congr_of_kept (I := NewlyAway) (D := fun _ _ => True) (fun w op h _ => ?_)
    (fun w op w' h _ hkeep hstep => newlyAway_iff.1 (hkeep w' hstep))
    ops _ hstart (Runs.along_of_forall (fun _ _ => trivial) ops _)
  constructor
  · intro hkeep
    cases hstep : w.step op with
    | none =>
        cases op with
        | handleDisconnect p now => cases hstep
        | registerPlayer p f => trivial
        | unregisterPlayer p => trivial
        | handleReconnect codec p f now => trivial
        | checkTimeouts now order => trivial
    | some w' => exact (h.step_iff hstep).1 (newlyAway_iff.1 (hkeep w' hstep))
  · intro hdeparts w' hstep
    exact newlyAway_iff.2 ((h.step_iff hstep).2 hdeparts)

/-- The player goes away once more. -/
def awayAgain : List ReconnectionOp := trackedAgain ++
    [.handleDisconnect 7 defaultDisconnectTimeout]

/-- **Looking for timeouts eliminates a player for whom coming back changes nothing.** -/
theorem awayAgain_paths_differ :
    ∃ w info, Runs.run step (start lonelySession defaultDisconnectTimeout) awayAgain = some w ∧
      w.manager.players.lookup 7 = some info ∧
      w.manager.timedOut info (2 * defaultDisconnectTimeout) = true ∧
      (∀ codec, (w.manager.handleReconnect codec w.session 7 1
        (2 * defaultDisconnectTimeout)).1.players.lookup 7 = some info) ∧
      (w.manager.checkTimeouts w.session (2 * defaultDisconnectTimeout) [7]).1.players.lookup 7 =
        none ∧
      ¬ w.manager.PathsAgree w.session (2 * defaultDisconnectTimeout) := by
  refine ⟨_, _, rfl, rfl, by decide, fun codec => rfl, rfl, fun h => ?_⟩
  exact ReconnectionManager.pathsAgree_iff.1 h 7 (by decide) (by decide)

end WatchedSession

end My4X
