/-
**Turns against the clock.**

The turn manager lets a turn of a session last for a given time, or for a shorter one from the first
player on who has ended it.  A duration of zero is meant to say that there is no deadline, but it is
added to the time like any other, so that a turn without a deadline has expired as soon as it is
started: the players who have not ended it are made to.  Times are exact numbers.

Main definitions:

* `My4X.TurnConfig`, `My4X.TurnManager` — the durations, and the manager with its session;
* `My4X.TurnManager.startTurn`, `My4X.TurnManager.playerEndTurn`, `My4X.TurnManager.tryAdvance` —
  its operations;
* `My4X.TurnManager.Due`, `My4X.TurnManager.Advanced` — the turn is due, and the next one has begun;
* `My4X.TurnManager.WithoutDeadline` — what a duration of zero is meant to say.

Main results:

* `My4X.TurnManager.tryAdvance_cases` — what trying to advance the turn does;
* `My4X.TurnManager.tryAdvance_exact` — **a turn advances exactly when it is due**;
* `My4X.TurnManager.withoutDeadline_iff` — **with durations of zero there is no deadline exactly as
  long as no turn is started**.
-/

import My4X.TurnFlags
import Mathlib.Algebra.Order.Ring.Unbundled.Rat
import Mathlib.Data.Finset.Card

set_option relaxedAutoImplicit false
set_option autoImplicit false

namespace My4X

/-! ### The manager -/

/-- How long a turn lasts, and how long it lasts after the first player has ended it, in seconds. -/
structure TurnConfig where
  turnDurationSeconds : ℚ := 60
  gracePeriodSeconds : ℚ := 0
  deriving DecidableEq

/-- The turn manager with the session it points to. -/
structure TurnManager where
  session : GameSession
  config : TurnConfig := {}
  turnStartTime : ℚ := 0
  deadline : ℚ := 0
  graceDeadline : ℚ := 0
  turnInProgress : Bool := false
  graceActive : Bool := false
  readyPlayers : Finset PlayerId := ∅

namespace TurnManager

/-- Begins a turn. -/
def startTurn (m : TurnManager) (currentTime : ℚ) : TurnManager :=
  { m with
    turnStartTime := currentTime
    deadline := currentTime + m.config.turnDurationSeconds
    graceDeadline := 0
    graceActive := false
    turnInProgress := true
    readyPlayers := ∅ }

/-- Marks a player as ready; the first one starts the grace period, if there is one. -/
def playerEndTurn (m : TurnManager) (playerId : PlayerId) (currentTime : ℚ) : TurnManager × Bool :=
  if ¬ m.session.hasPlayer playerId then (m, false)
  else
    let m := { m with
      session := (m.session.endTurn playerId).1
      readyPlayers := insert playerId m.readyPlayers }
    if ¬ m.graceActive ∧ 0 < m.config.gracePeriodSeconds then
      ({ m with
          graceActive := true
          graceDeadline := currentTime + m.config.gracePeriodSeconds }, true)
    else (m, true)

/-- Whether every connected player has ended the turn. -/
def isReady (m : TurnManager) : Bool := m.session.allPlayersEndedTurn

/-- Whether the deadline or the one of the grace period has passed. -/
def isExpired (m : TurnManager) (currentTime : ℚ) : Bool :=
  if ¬ m.turnInProgress then false
  else if m.deadline ≤ currentTime then true
  else m.graceActive && decide (m.graceDeadline ≤ currentTime)

/-- Ends the turn of the connected players who have not. -/
def forceEndRemainingPlayers (m : TurnManager) : TurnManager :=
  { m with
    session := m.session.players.keys.foldl
      (fun session playerId =>
        match session.getPlayerInfo playerId with
        | none => session
        | some info =>
            if info.status = .connected ∧ ¬ info.endedTurn then (session.endTurn playerId).1
            else session)
      m.session }

/-- Advances the turn when everybody is ready or it has expired, and starts the next one; the
resolution of the turn can throw. -/
def tryAdvance (m : TurnManager) (currentTime : ℚ) : TurnManager × Except Fault Bool :=
  if ¬ m.turnInProgress then (m, .ok false)
  else if ¬ m.isReady ∧ ¬ m.isExpired currentTime then (m, .ok false)
  else
    let m := if m.isExpired currentTime ∧ ¬ m.isReady then m.forceEndRemainingPlayers else m
    match m.session.tryAdvanceTurn with
    | (session, .error e) => ({ m with session }, .error e)
    | (session, .ok false) => ({ m with session }, .ok false)
    | (session, .ok true) => (({ m with session }).startTurn currentTime, .ok true)

/-- Whether a player is ready. -/
def hasPlayerEndedTurn (m : TurnManager) (playerId : PlayerId) : Bool := playerId ∈ m.readyPlayers

/-- The number of the players who are ready. -/
def readyPlayerCount (m : TurnManager) : ℕ := m.readyPlayers.card

/-! ### Trying to advance the turn -/

/-- What becomes of a player whose turn is ended for him, if he is connected. -/
def forced (info : PlayerInfo) : PlayerInfo :=
  if info.status = .connected then { info with endedTurn := true } else info

/-- Ending the turn of the others changes marks alone. -/
theorem getPlayerInfo_force (m : TurnManager) (p : PlayerId) :
    m.forceEndRemainingPlayers.session.getPlayerInfo p =
      (m.session.getPlayerInfo p).map forced := by
  refine Association.look_foldl_keys GameSession.getPlayerInfo (fun session id id' => ?_)
    (fun _ => rfl) p
  cases hinfo : session.getPlayerInfo id with
  | none =>
      dsimp only
      split
      · next h => rw [h, hinfo]; rfl
      · rfl
  | some info =>
      dsimp only
      split
      · next hopen =>
          rw [GameSession.endTurn, GameSession.getPlayerInfo_updatePlayer]
          split
          · next h =>
              rw [h, hinfo, Option.map_some, Option.map_some, forced, if_pos hopen.1]
          · rfl
      · next hdone =>
          split
          · next h =>
              rw [h, hinfo, Option.map_some, forced]
              split
              · next hconnected =>
                  -- a connected player who is not made to end the turn has ended it
                  have hended : info.endedTurn = true := by
                    by_contra hnot
                    exact hdone ⟨hconnected, hnot⟩
                  rw [← hended]
              · rfl
          · rfl

/-- Nor does it change the state of the game. -/
theorem force_state (m : TurnManager) :
    m.forceEndRemainingPlayers.session.state = m.session.state := by
  have hwalk : ∀ (ids : List PlayerId) (session : GameSession), (ids.foldl
      (fun session playerId =>
        match session.getPlayerInfo playerId with
        | none => session
        | some info =>
            if info.status = .connected ∧ ¬ info.endedTurn then (session.endTurn playerId).1
            else session)
      session).state = session.state := by
    intro ids
    induction ids with
    | nil => intro session; rfl
    | cons id ids ih =>
        intro session
        rw [List.foldl_cons, ih]
        cases session.getPlayerInfo id with
        | none => rfl
        | some info =>
            dsimp only
            split
            · exact GameSession.updatePlayer_state session id _
            · rfl
  exact hwalk m.session.players.keys m.session

/-- The session that is asked to advance: the others have been made to end the turn unless everybody
was ready. -/
def asked (m : TurnManager) : GameSession :=
  if m.isReady then m.session else m.forceEndRemainingPlayers.session

theorem getPlayerInfo_asked (m : TurnManager) (p : PlayerId) :
    m.asked.getPlayerInfo p =
      (m.session.getPlayerInfo p).map (if m.isReady then id else forced) := by
  rw [asked]
  split
  · rw [Option.map_id, id]
  · exact getPlayerInfo_force m p

theorem asked_state (m : TurnManager) : m.asked.state = m.session.state := by
  rw [asked]
  split
  · rfl
  · exact force_state m

theorem hasPlayer_asked (m : TurnManager) (p : PlayerId) :
    m.asked.hasPlayer p = m.session.hasPlayer p := by
  rw [GameSession.hasPlayer, GameSession.hasPlayer, getPlayerInfo_asked, Option.isSome_map]

/-- Once the others have been made to end the turn, the session advances unless it has no
players. -/
theorem asked_eq_of_not_ended {m : TurnManager} (h : m.asked.allPlayersEndedTurn = false) :
    (¬ ∃ p, m.session.hasPlayer p = true) ∧ m.asked = m.session := by
  have hready : m.isReady = false := by
    by_contra hready
    rw [Bool.not_eq_false] at hready
    rw [asked, if_pos hready] at h
    rw [isReady, h] at hready
    cases hready
  have hnobody : m.session.players.entries = [] := by
    by_contra hsome
    obtain ⟨p, info, hinfo⟩ := Association.entries_ne_nil_iff.1 hsome
    have hall : m.asked.allPlayersEndedTurn = true := by
      refine GameSession.allPlayersEndedTurn_iff.2 ⟨⟨p, ?_⟩, fun q info' hinfo' hconnected => ?_⟩
      · rw [hasPlayer_asked]
        exact GameSession.hasPlayer_iff.2 ⟨info, hinfo⟩
      · rw [getPlayerInfo_asked, hready, if_neg Bool.false_ne_true] at hinfo'
        obtain ⟨info₀, -, rfl⟩ := Option.map_eq_some_iff.1 hinfo'
        rw [forced] at hconnected ⊢
        split
        · rfl
        · next hnot =>
            rw [if_neg hnot] at hconnected
            exact absurd hconnected hnot
    rw [h] at hall
    cases hall
  have hkeys : m.session.players.keys = [] := by
    rw [AList.keys, hnobody]
    rfl
  refine ⟨fun ⟨p, hp⟩ => ?_, ?_⟩
  · obtain ⟨info, hinfo⟩ := GameSession.hasPlayer_iff.1 hp
    exact Association.entries_ne_nil_iff.2 ⟨p, info, hinfo⟩ hnobody
  · rw [asked, hready, if_neg Bool.false_ne_true, forceEndRemainingPlayers, hkeys]
    rfl

/-- **What trying to advance the turn does**: nothing, or the session advances and the next turn
starts, or its resolution throws. -/
theorem tryAdvance_cases (m : TurnManager) (t : ℚ) :
    (¬ (m.turnInProgress = true ∧ (m.isReady = false → m.isExpired t = true) ∧
          ∃ p, m.session.hasPlayer p = true) ∧ m.tryAdvance t = (m, .ok false)) ∨
      ((m.turnInProgress = true ∧ (m.isReady = false → m.isExpired t = true) ∧
          ∃ p, m.session.hasPlayer p = true) ∧
        ((∃ state intents, resolveTurn m.session.state none = (state, .ok intents) ∧
            m.tryAdvance t = (({ m with
              session := (m.asked.setState state).resetTurnFlags }).startTurn t, .ok true)) ∨
          ∃ state e, resolveTurn m.session.state none = (state, .error e) ∧
            m.tryAdvance t = ({ m with session := m.asked.setState state }, .error e))) := by
  rw [tryAdvance]
  by_cases hbusy : m.turnInProgress = true
  · rw [if_neg (not_not.2 hbusy)]
    by_cases hwait : ¬ m.isReady = true ∧ ¬ m.isExpired t = true
    · rw [if_pos hwait]
      refine Or.inl ⟨fun hgo => hwait.2 (hgo.2.1 ?_), rfl⟩
      rw [← Bool.not_eq_true]
      exact hwait.1
    · rw [if_neg hwait]
      have hlate : m.isReady = false → m.isExpired t = true := fun hready => by
        by_contra hnot
        exact hwait ⟨by simp [hready], hnot⟩
      have hasked : (if m.isExpired t = true ∧ ¬ m.isReady = true then m.forceEndRemainingPlayers
          else m) = { m with session := m.asked } := by
        rw [asked]
        cases hready : m.isReady with
        | true => rw [if_neg (by simp), if_pos rfl]
        | false => rw [if_pos ⟨hlate hready, Bool.false_ne_true⟩, if_neg Bool.false_ne_true]; rfl
      rw [hasked]
      dsimp only
      rcases m.asked.tryAdvanceTurn_cases with ⟨hall, htry⟩ | ⟨hall, state, intents, hturn, htry⟩ |
        ⟨hall, state, e, hturn, htry⟩
      · rw [htry]
        dsimp only
        obtain ⟨hnobody, hsame⟩ := asked_eq_of_not_ended hall
        rw [hsame]
        exact Or.inl ⟨fun hgo => hnobody hgo.2.2, rfl⟩
      · obtain ⟨p, hp⟩ := (GameSession.allPlayersEndedTurn_iff.1 hall).1
        rw [hasPlayer_asked] at hp
        rw [asked_state] at hturn
        rw [htry]
        exact Or.inr ⟨⟨hbusy, hlate, p, hp⟩, Or.inl ⟨state, intents, hturn, rfl⟩⟩
      · obtain ⟨p, hp⟩ := (GameSession.allPlayersEndedTurn_iff.1 hall).1
        rw [hasPlayer_asked] at hp
        rw [asked_state] at hturn
        rw [htry]
        exact Or.inr ⟨⟨hbusy, hlate, p, hp⟩, Or.inr ⟨state, e, hturn, rfl⟩⟩
  · rw [if_pos hbusy]
    exact Or.inl ⟨fun hgo => hbusy hgo.1, rfl⟩

/-! ### Turns that fall due -/

/-- **The turn is due**: every connected player has ended it, or the deadline has been reached, or
the one of a grace period that has begun. -/
def Due (m : TurnManager) (t : ℚ) : Prop :=
  (∀ p info, m.session.getPlayerInfo p = some info → info.status = .connected →
      info.endedTurn = true) ∨
    m.deadline ≤ t ∨ (m.graceActive = true ∧ m.graceDeadline ≤ t)

/-- The next turn has begun: it has the next number, nobody has ended it, and it has a deadline of
its own. -/
structure Advanced (m m' : TurnManager) (t : ℚ) : Prop where
  turn : m'.session.state.turn = m.session.state.turn + 1
  players : ∀ p, m'.session.getPlayerInfo p =
    (m.session.getPlayerInfo p).map fun info => { info with endedTurn := false }
  readyPlayers : m'.readyPlayers = ∅
  deadline : m'.deadline = t + m.config.turnDurationSeconds

theorem isExpired_iff {m : TurnManager} (hbusy : m.turnInProgress = true) (t : ℚ) :
    m.isExpired t = true ↔ m.deadline ≤ t ∨ (m.graceActive = true ∧ m.graceDeadline ≤ t) := by
  rw [isExpired, if_neg (not_not.2 hbusy)]
  split
  · next h => exact iff_of_true rfl (Or.inl h)
  · next h => rw [Bool.and_eq_true, decide_eq_true_eq, or_iff_right h]

/-- Where there are players, the test of the manager is whether the turn is due. -/
theorem due_iff {m : TurnManager} (hbusy : m.turnInProgress = true)
    (hplayer : ∃ p, m.session.hasPlayer p = true) (t : ℚ) :
    m.Due t ↔ (m.isReady = false → m.isExpired t = true) := by
  have hready : m.isReady = true ↔ ∀ p info, m.session.getPlayerInfo p = some info →
      info.status = .connected → info.endedTurn = true := by
    rw [isReady, GameSession.allPlayersEndedTurn_iff, and_iff_right hplayer]
  rw [Due, ← hready, isExpired_iff hbusy]
  cases m.isReady with
  | true => simp
  | false => simp

/-- The marks of a turn that advances are cleared, those of players who were made to end it too. -/
theorem getPlayerInfo_advanced (m : TurnManager) (state : GameState) (p : PlayerId) :
    ((m.asked.setState state).resetTurnFlags).getPlayerInfo p =
      (m.session.getPlayerInfo p).map fun info => { info with endedTurn := false } := by
  rw [GameSession.getPlayerInfo_resetTurnFlags]
  change Option.map _ (m.asked.getPlayerInfo p) = _
  rw [getPlayerInfo_asked, Option.map_map]
  refine congrArg (Option.map · _) (funext fun info => ?_)
  rw [Function.comp]
  split
  · rfl
  · rw [forced]
    split
    · rfl
    · rfl

/-- **A turn advances exactly when it is due**: while a turn is in progress and somebody is
registered, trying to advance it starts the next turn when it is due, and changes nothing otherwise.
It throws in neither case unless there is a building order without a factory. -/
theorem tryAdvance_exact {m : TurnManager} (hbusy : m.turnInProgress = true)
    (hplayer : ∃ p, m.session.hasPlayer p = true) (t : ℚ) :
    (m.session.state.AllOrders TurnResolver.HasFactory →
      ((m.tryAdvance t).2 = .ok true ↔ m.Due t)) ∧
      match m.tryAdvance t with
      | (m', .ok true) => m.Due t ∧ m.Advanced m' t
      | (m', .ok false) => ¬ m.Due t ∧ m' = m
      | (_, .error _) => m.Due t ∧ ¬ m.session.state.AllOrders TurnResolver.HasFactory := by
  rcases m.tryAdvance_cases t with ⟨hwait, htry⟩ |
    ⟨hgo, ⟨state, intents, hturn, htry⟩ | ⟨state, e, hturn, htry⟩⟩
  · have hnot : ¬ m.Due t := fun hdue => hwait ⟨hbusy, (due_iff hbusy hplayer t).1 hdue, hplayer⟩
    rw [htry]
    exact ⟨fun _ => iff_of_false (by simp) hnot, hnot, rfl⟩
  · have hdue := (due_iff hbusy hplayer t).2 hgo.2.1
    rw [htry]
    exact ⟨fun _ => iff_of_true rfl hdue, hdue, resolveTurn_turn hturn,
      getPlayerInfo_advanced m state, rfl, rfl⟩
  · have hdue := (due_iff hbusy hplayer t).2 hgo.2.1
    have hbroken : ¬ m.session.state.AllOrders TurnResolver.HasFactory := fun h => by
      obtain ⟨out, hout⟩ := resolveTurn_none_completes h
      rw [hturn] at hout
      cases hout
    rw [htry]
    exact ⟨fun h => absurd h hbroken, hdue, hbroken⟩

/-- A manager with a deadline, and a player. -/
def timedManager : TurnManager :=
  TurnManager.startTurn
    { session := { state := plainField
                   players := AList.insert 7 { playerId := 7, factionId := 1 } ∅ }
      config := { turnDurationSeconds := 60, gracePeriodSeconds := 0 } } 5

/-- Its turn advances at the deadline, although the player has not ended it. -/
theorem timedManager_advances : (timedManager.tryAdvance 65).2 = .ok true := by
  have hdue : timedManager.Due 65 := by
    refine Or.inr (Or.inl ?_)
    change (5 : ℚ) + 60 ≤ 65
    decide +kernel
  refine ((tryAdvance_exact rfl ⟨7, rfl⟩ 65).1 ?_).2 hdue
  intro city hcity
  cases hcity

/-! ### Deadlines -/

/-- The calls of the manager. -/
inductive Call
  | startTurn
  | playerEndTurn (playerId : PlayerId)
  | tryAdvance
  deriving DecidableEq

/-- The manager after a call at a time. -/
def call (m : TurnManager) (x : Call × ℚ) : TurnManager :=
  match x with
  | (.startTurn, t) => m.startTurn t
  | (.playerEndTurn playerId, t) => (m.playerEndTurn playerId t).1
  | (.tryAdvance, t) => (m.tryAdvance t).1

/-- The turn has not expired at a time, and does not advance then while a connected player has not
ended it. -/
def Waits (m : TurnManager) (t : ℚ) : Prop :=
  m.isExpired t = false ∧
    ((m.tryAdvance t).2 = .ok true →
      ∀ p info, m.session.getPlayerInfo p = some info → info.status = .connected →
        info.endedTurn = true)

/-- **There is no deadline**: at no time after any of the calls has the turn expired, and it never
advances before every connected player has ended it. -/
def WithoutDeadline (m : TurnManager) (calls : List (Call × ℚ)) : Prop :=
  ∀ before after, calls = before ++ after → ∀ t, (∀ x ∈ before, x.2 ≤ t) →
    (before.foldl call m).Waits t

theorem isExpired_of_not_inProgress {m : TurnManager} (h : m.turnInProgress = false) (t : ℚ) :
    m.isExpired t = false := by
  rw [isExpired, h]
  rfl

/-- Without a turn in progress a call leaves it so, unless it starts one. -/
theorem call_not_inProgress {m : TurnManager} (h : m.turnInProgress = false) {x : Call × ℚ}
    (hx : x.1 ≠ .startTurn) : (m.call x).turnInProgress = false := by
  obtain ⟨c, t⟩ := x
  cases c with
  | startTurn => exact absurd rfl hx
  | playerEndTurn playerId =>
      rw [call, playerEndTurn]
      split
      · exact h
      · dsimp only
        split
        · exact h
        · exact h
  | tryAdvance =>
      rw [call, tryAdvance, h]
      exact h

/-- The same after any calls. -/
theorem calls_not_inProgress :
    ∀ (calls : List (Call × ℚ)) (m : TurnManager), m.turnInProgress = false →
      (∀ x ∈ calls, x.1 ≠ .startTurn) → (calls.foldl call m).turnInProgress = false := by
  intro calls
  induction calls with
  | nil => intro m h _; exact h
  | cons x calls ih =>
      intro m h hcalls
      rw [List.foldl_cons]
      exact ih _ (call_not_inProgress h (hcalls x List.mem_cons_self)) fun y hy =>
        hcalls y (List.mem_cons_of_mem x hy)

/-- A turn in progress has expired at some time. -/
theorem exists_isExpired {m : TurnManager} (h : m.turnInProgress = true) (low : ℚ) :
    ∃ t, low ≤ t ∧ m.isExpired t = true := by
  refine ⟨max low m.deadline, le_max_left _ _, ?_⟩
  rw [isExpired, h, if_neg (by simp), if_pos (le_max_right _ _)]

/-- No call changes the durations. -/
theorem call_config (m : TurnManager) (x : Call × ℚ) : (m.call x).config = m.config := by
  obtain ⟨c, t⟩ := x
  cases c with
  | startTurn => rfl
  | playerEndTurn playerId =>
      rw [call, playerEndTurn]
      split
      · rfl
      · dsimp only
        split
        · rfl
        · rfl
  | tryAdvance =>
      rw [call, tryAdvance]
      split
      · rfl
      · split
        · rfl
        · dsimp only
          have hforced : (if m.isExpired t = true ∧ ¬ m.isReady = true then
              m.forceEndRemainingPlayers else m).config = m.config := by
            split
            · rfl
            · rfl
          split
          · exact hforced
          · exact hforced
          · exact hforced

theorem calls_config :
    ∀ (calls : List (Call × ℚ)) (m : TurnManager), (calls.foldl call m).config = m.config := by
  intro calls
  induction calls with
  | nil => intro m; rfl
  | cons x calls ih => intro m; rw [List.foldl_cons, ih, call_config]

/-- A turn of no duration has expired when it starts. -/
theorem startTurn_isExpired {m : TurnManager} (h : m.config.turnDurationSeconds = 0) (t : ℚ) :
    (m.startTurn t).isExpired t = true := by
  have hdeadline : (m.startTurn t).deadline ≤ t := by
    rw [startTurn, h, Rat.add_zero]
  rw [isExpired, if_neg (by simp [startTurn]), if_pos hdeadline]

/-- **A duration of zero means no deadline exactly as long as no turn is started**: for every
manager whose durations are zero and all calls at times that never go back, there is no deadline if
and only if no turn is in progress and no call starts one; and a turn that is started has expired at
once. -/
theorem withoutDeadline_iff (m : TurnManager) (calls : List (Call × ℚ))
    (hzero : m.config = { turnDurationSeconds := 0, gracePeriodSeconds := 0 })
    (hmono : (calls.map (·.2)).Pairwise (· ≤ ·)) :
    (m.WithoutDeadline calls ↔ m.turnInProgress = false ∧ ∀ x ∈ calls, x.1 ≠ .startTurn) ∧
      ∀ before t after, calls = before ++ (.startTurn, t) :: after →
        ((before ++ [(.startTurn, t)]).foldl call m).isExpired t = true := by
  refine ⟨⟨fun h => ⟨?_, fun x hx hstart => ?_⟩, ?_⟩, fun before t after _ => ?_⟩
  · by_contra hbusy
    rw [Bool.not_eq_false] at hbusy
    obtain ⟨t, -, hexpired⟩ := exists_isExpired hbusy 0
    have hwaits := (h [] calls rfl t (by simp)).1
    rw [List.foldl_nil, hexpired] at hwaits
    cases hwaits
  · -- the calls up to the one that starts a turn
    obtain ⟨c, t⟩ := x
    obtain rfl : c = .startTurn := hstart
    obtain ⟨before, after, rfl⟩ := List.append_of_mem hx
    have hlow : ∀ y ∈ before ++ [(Call.startTurn, t)], y.2 ≤ t := by
      intro y hy
      rcases List.mem_append.1 hy with hy | hy
      · rw [List.map_append, List.pairwise_append] at hmono
        exact hmono.2.2 y.2 (List.mem_map_of_mem hy) t (by simp)
      · rw [List.mem_singleton.1 hy]
    have hwaits := (h (before ++ [(.startTurn, t)]) after (by simp) t hlow).1
    rw [List.foldl_append, List.foldl_cons, List.foldl_nil, call,
      startTurn_isExpired (by rw [calls_config, hzero])] at hwaits
    cases hwaits
  · rintro ⟨hidle, hcalls⟩ before after rfl t -
    have hstill := calls_not_inProgress before m hidle fun x hx =>
      hcalls x (List.mem_append_left after hx)
    refine ⟨isExpired_of_not_inProgress hstill t, fun hadvance => ?_⟩
    rw [tryAdvance, hstill] at hadvance
    cases hadvance
  · rw [List.foldl_append, List.foldl_cons, List.foldl_nil, call]
    exact startTurn_isExpired (by rw [calls_config, hzero]) t

/-- A manager without a deadline, and a player. -/
def timelessManager : TurnManager where
  session := { state := plainField, players := AList.insert 7 { playerId := 7, factionId := 1 } ∅ }
  config := { turnDurationSeconds := 0, gracePeriodSeconds := 0 }

/-- The turn advances as soon as it has been started, although the player has not ended it. -/
theorem timeless_turn_advances :
    ((timelessManager.startTurn 5).isExpired 5 = true ∧
      ((timelessManager.startTurn 5).tryAdvance 5).2 = .ok true ∧
      ((timelessManager.startTurn 5).session.getPlayerInfo 7).map (·.endedTurn) = some false) ∧
      ¬ timelessManager.WithoutDeadline [(.startTurn, 5)] := by
  have hexpired : (timelessManager.startTurn 5).isExpired 5 = true := startTurn_isExpired rfl 5
  have hready : (timelessManager.startTurn 5).isReady = false := rfl
  refine ⟨⟨hexpired, ?_, rfl⟩, fun h => ?_⟩
  · rw [tryAdvance, if_neg (by simp [startTurn]), if_neg (by simp [hexpired])]
    rw [if_pos ⟨hexpired, by simp [hready]⟩]
    rfl
  · have hwaits := (h [(.startTurn, 5)] [] rfl 5 (by simp)).1
    rw [List.foldl_cons, List.foldl_nil, call, hexpired] at hwaits
    cases hwaits

/-- The same manager, by the condition. -/
theorem timelessManager_withoutDeadline :
    timelessManager.WithoutDeadline [(.startTurn, 5), (.tryAdvance, 5)] ↔
      timelessManager.turnInProgress = false ∧
        ∀ x ∈ [(Call.startTurn, (5 : ℚ)), (.tryAdvance, 5)], x.1 ≠ .startTurn :=
  (withoutDeadline_iff timelessManager _ rfl (by simp)).1

end TurnManager

end My4X
