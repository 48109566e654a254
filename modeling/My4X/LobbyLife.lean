/-
**The life of a game in the lobby.**

A game waits for players, is in progress once its host has started it, and is finished in the end.
It takes no other way: only a waiting game changes its slots or goes away, a session is there
exactly while the game is in progress, and whatever is called for one game leaves the others alone.
Games are numbered one after the other, so that no number comes back before all of them have been
used.

Main definitions:

* `My4X.LobbyManager.getSession` — the session of a game that is in progress;
* `My4X.LobbyManager.call` — a call with its answer;
* `My4X.LobbyManager.Lively` — what a call does to the lives of the games;
* `My4X.LobbyManager.GameChange` — what a call does to one game;
* `My4X.LobbyManager.issued` — the numbers that are given to new games.

Main results:

* `My4X.LobbyManager.startGame_eq` — when a game is started, and what comes of it;
* `My4X.LobbyManager.Tidy.change` — a call changes every game in one of these ways;
* `My4X.LobbyManager.life_cycle` — **every call of every run keeps to the life cycle, and no number
  is given twice**.
-/

import My4X.Lobby
import Mathlib.Algebra.Group.Nat.Defs
import Mathlib.Algebra.GroupWithZero.Nat

set_option relaxedAutoImplicit false
set_option autoImplicit false

namespace My4X

/-! ### Calls and answers -/

/-- What a call to a lobby answers. -/
inductive LobbyReply
  | created (gameId : GameId)
  | answered (success : Bool)
  | started (session : Option GameSession)
  | threw

/-- The call has failed: it answers no, gives no session, or throws. -/
def LobbyReply.Failed : LobbyReply → Prop
  | created _ => False
  | answered success => success = false
  | started session => session = none
  | threw => True

/-- The game that a call names. -/
def LobbyOp.gameId? : LobbyOp → Option GameId
  | createGame _ _ => none
  | joinGame gameId _ | leaveGame gameId _ | startGame gameId _ _ | finishGame gameId => some gameId

/-- How many games a call makes a number for. -/
def LobbyOp.creations : LobbyOp → ℕ
  | createGame _ _ => 1
  | joinGame _ _ | leaveGame _ _ | startGame _ _ _ | finishGame _ => 0

namespace LobbyManager

/-- The session of a game that is in progress. -/
def getSession (m : LobbyManager) (gameId : GameId) : Option GameSession :=
  match m.games.lookup gameId with
  | none => none
  | some lobby => if lobby.state ≠ .inProgress then none else lobby.session

/-- **A call and its answer.**  A negative number of slots cannot be allocated, which throws when
the number of the game is already taken; the first of no slots at all is not there to be written to,
and the run ends. -/
def call (m : LobbyManager) : LobbyOp → Option (LobbyManager × LobbyReply)
  | .createGame hostPlayerId settings =>
      match m.createGame hostPlayerId settings with
      | .ok (m, id) => some (m, .created id)
      | .error _ =>
          if settings.maxPlayers < 0 then
            some ({ m with nextGameId := m.nextGameId + 1 }, .threw)
          else none
  | .joinGame gameId playerId =>
      some ((m.joinGame gameId playerId).1, .answered (m.joinGame gameId playerId).2)
  | .leaveGame gameId playerId =>
      some ((m.leaveGame gameId playerId).1, .answered (m.leaveGame gameId playerId).2)
  | .startGame gameId requestingPlayerId draws =>
      match m.startGame gameId requestingPlayerId draws with
      | .error _ => some (m, .threw)
      | .ok (m, session) => some (m, .started session)
  | .finishGame gameId =>
      some ((m.finishGame gameId).1, .answered (m.finishGame gameId).2)

/-- The lobby after a call. -/
def next (m : LobbyManager) (op : LobbyOp) : Option LobbyManager := (m.call op).map Prod.fst

/-- The numbers that new games are given along a run. -/
def issued : LobbyManager → List LobbyOp → List GameId
  | _, [] => []
  | m, op :: ops =>
      match m.call op with
      | none => []
      | some (m', .created gameId) => gameId :: issued m' ops
      | some (m', .answered _) | some (m', .started _) | some (m', .threw) => issued m' ops

/-- How many games the calls of a run make a number for. -/
def creations (ops : List LobbyOp) : ℕ := (ops.map LobbyOp.creations).sum

/-- The player is the host of a waiting game that has enough players. -/
def Startable (m : LobbyManager) (gameId : GameId) (playerId : PlayerId) : Prop :=
  ∃ lobby, m.games.lookup gameId = some lobby ∧ playerId = lobby.hostPlayerId ∧
    lobby.state = .waitingForPlayers ∧
    lobby.settings.minPlayers.toInt ≤ occupiedSlotCount lobby.playerSlots

end LobbyManager

/-! ### Lives -/

/-- The ways of a game from one state to the next. -/
inductive LobbyGame.Next : LobbyGame → LobbyGame → Prop
  /-- Somebody takes a seat, or leaves it. -/
  | seats {lobby : LobbyGame} (waits : lobby.state = .waitingForPlayers)
      (playerSlots : List PlayerSlot) : Next lobby { lobby with playerSlots }
  /-- The host starts the game. -/
  | starts {lobby : LobbyGame} (waits : lobby.state = .waitingForPlayers)
      (session : GameSession) :
      Next lobby { lobby with session := some session, state := .inProgress }
  /-- The game is over. -/
  | finishes {lobby : LobbyGame} (runs : lobby.state = .inProgress) :
      Next lobby { lobby with state := .finished }

namespace LobbyManager

/-- **What a call can do to a lobby**, with its answer. -/
inductive Called (m : LobbyManager) : LobbyOp → LobbyManager → LobbyReply → Prop
  /-- A new game waits for players. -/
  | creates {hostPlayerId : PlayerId} {settings : GameSettings} (lobby : LobbyGame)
      (waits : lobby.state = .waitingForPlayers) :
      Called m (.createGame hostPlayerId settings)
        { nextGameId := m.nextGameId + 1, games := m.games.insert m.nextGameId lobby }
        (.created m.nextGameId)
  /-- The slots of a new game cannot be allocated. -/
  | overflows {hostPlayerId : PlayerId} {settings : GameSettings} :
      Called m (.createGame hostPlayerId settings) { m with nextGameId := m.nextGameId + 1 } .threw
  /-- The call is refused. -/
  | refuses {op : LobbyOp} {reply : LobbyReply} (failed : reply.Failed) (gameId : GameId)
      (names : op.gameId? = some gameId)
      (unfit : ∀ gameId playerId draws, op = .startGame gameId playerId draws →
        ¬ m.Startable gameId playerId) : Called m op m reply
  /-- A game goes from one state to the next. -/
  | moves {op : LobbyOp} {reply : LobbyReply} (succeeded : ¬ reply.Failed) (gameId : GameId)
      (lobby lobby' : LobbyGame) (names : op.gameId? = some gameId)
      (found : m.games.lookup gameId = some lobby) (goes : lobby.Next lobby')
      (starts : ∀ gameId playerId draws, op = .startGame gameId playerId draws →
        m.Startable gameId playerId ∧ ∃ session, reply = .started (some session))
      (created : ∀ gameId, reply ≠ .created gameId) :
      Called m op { m with games := m.games.replace gameId lobby' } reply
  /-- The host leaves a waiting game and takes it with him. -/
  | closes {gameId : GameId} {playerId : PlayerId} (lobby : LobbyGame)
      (found : m.games.lookup gameId = some lobby) (waits : lobby.state = .waitingForPlayers) :
      Called m (.leaveGame gameId playerId) { m with games := m.games.erase gameId }
      (.answered true)

end LobbyManager

/-- A session can be made for every size of a map. -/
theorem GameSettings.exists_create (settings : GameSettings) (draws : ℕ → TerrainType) :
    ∃ session, GameSession.create settings.mapRows settings.mapCols draws = .ok session := by
  have hpos : 0 < settings.mapCols ∧ 0 < settings.mapRows := by
    rw [GameSettings.mapCols, GameSettings.mapRows]
    cases settings.mapSize <;> decide
  rw [GameSession.create, GameState.create, Map.create, dif_pos hpos]
  exact ⟨_, rfl⟩

namespace LobbyManager

/-- **A game is started exactly when its host asks for it while it waits with enough players.** -/
theorem startGame_eq (m : LobbyManager) (gameId : GameId) (playerId : PlayerId)
    (draws : ℕ → TerrainType) :
    (¬ m.Startable gameId playerId ∧ m.startGame gameId playerId draws = .ok (m, none)) ∨
      m.Startable gameId playerId ∧ ∃ lobby session, m.games.lookup gameId = some lobby ∧
        lobby.state = .waitingForPlayers ∧ m.startGame gameId playerId draws =
          .ok ({ m with
              games := m.games.replace gameId
                { lobby with session := some session, state := .inProgress } }, some session) := by
  rw [startGame]
  cases hfound : m.games.lookup gameId with
  | none =>
      refine Or.inl ⟨?_, rfl⟩
      rintro ⟨lobby, hlobby, -⟩
      rw [hfound] at hlobby
      cases hlobby
  | some lobby =>
      dsimp only
      have hunique : ∀ {P : LobbyGame → Prop}, ¬ P lobby →
          ¬ ∃ lobby, m.games.lookup gameId = some lobby ∧ P lobby := by
        rintro P hnot ⟨lobby', hlobby', hP⟩
        rw [hfound] at hlobby'
        obtain rfl := Option.some_inj.1 hlobby'
        exact hnot hP
      by_cases hhost : playerId = lobby.hostPlayerId
      · rw [if_neg (not_not.2 hhost)]
        by_cases hwaits : lobby.state = .waitingForPlayers
        · rw [if_neg (not_not.2 hwaits)]
          by_cases hfew : (occupiedSlotCount lobby.playerSlots : ℤ) <
            lobby.settings.minPlayers.toInt
          · rw [if_pos hfew]
            exact Or.inl ⟨hunique fun h => absurd h.2.2 (not_le.2 hfew), rfl⟩
          · rw [if_neg hfew]
            obtain ⟨session, hsession⟩ := lobby.settings.exists_create draws
            rw [hsession, Except.ok_bind]
            exact Or.inr ⟨⟨lobby, hfound, hhost, hwaits, not_lt.1 hfew⟩, lobby, _, rfl, hwaits, rfl⟩
        · rw [if_pos hwaits]
          exact Or.inl ⟨hunique fun h => hwaits h.2.1, rfl⟩
      · rw [if_pos hhost]
        exact Or.inl ⟨hunique fun h => hhost h.1, rfl⟩

/-- **A call does one of these things to a lobby.** -/
theorem called_of_call {m m' : LobbyManager} {op : LobbyOp} {reply : LobbyReply}
    (h : m.call op = some (m', reply)) : m.Called op m' reply := by
  cases op with
  | createGame hostPlayerId settings =>
      rw [call, createGame] at h
      by_cases hmax : settings.maxPlayers < 1
      · simp only [hmax, if_true] at h
        split at h
        · obtain ⟨rfl, rfl⟩ := Prod.mk.inj (Option.some_inj.1 h)
          exact .overflows
        · cases h
      · simp only [hmax, if_false] at h
        obtain ⟨rfl, rfl⟩ := Prod.mk.inj (Option.some_inj.1 h)
        exact .creates _ rfl
  | joinGame gameId playerId =>
      obtain ⟨rfl, rfl⟩ := Prod.mk.inj (Option.some_inj.1 h)
      have hrefused : m.Called (.joinGame gameId playerId) m (.answered false) :=
        .refuses rfl gameId rfl fun _ _ _ hop => by cases hop
      rw [joinGame]
      cases hfound : m.games.lookup gameId with
      | none => exact hrefused
      | some lobby =>
          dsimp only
          split
          · exact hrefused
          · next hwaits =>
              split
              · exact hrefused
              · next playerSlots hseat =>
                  exact .moves (by simp [LobbyReply.Failed]) gameId lobby _ rfl hfound
                    (.seats (not_not.1 hwaits) playerSlots) (fun _ _ _ hop => by cases hop)
                    fun _ hreply => by cases hreply
  | leaveGame gameId playerId =>
      obtain ⟨rfl, rfl⟩ := Prod.mk.inj (Option.some_inj.1 h)
      have hrefused : m.Called (.leaveGame gameId playerId) m (.answered false) :=
        .refuses rfl gameId rfl fun _ _ _ hop => by cases hop
      rw [leaveGame]
      cases hfound : m.games.lookup gameId with
      | none => exact hrefused
      | some lobby =>
          dsimp only
          split
          · exact hrefused
          · next hwaits =>
              split
              · exact .closes lobby hfound (not_not.1 hwaits)
              · split
                · exact hrefused
                · next playerSlots hseat =>
                    exact .moves (by simp [LobbyReply.Failed]) gameId lobby _ rfl hfound
                      (.seats (not_not.1 hwaits) playerSlots) (fun _ _ _ hop => by cases hop)
                      fun _ hreply => by cases hreply
  | startGame gameId playerId draws =>
      rw [call] at h
      obtain ⟨hunfit, hstart⟩ | ⟨hfit, lobby, session, hfound, hwaits, hstart⟩ :=
        m.startGame_eq gameId playerId draws
      · rw [hstart] at h
        obtain ⟨rfl, rfl⟩ := Prod.mk.inj (Option.some_inj.1 h)
        refine .refuses rfl gameId rfl fun _ _ _ hop => ?_
        cases hop
        exact hunfit
      · rw [hstart] at h
        obtain ⟨rfl, rfl⟩ := Prod.mk.inj (Option.some_inj.1 h)
        refine .moves (by simp [LobbyReply.Failed]) gameId lobby _ rfl hfound
          (.starts hwaits session) (fun _ _ _ hop => ?_) fun _ hreply => by cases hreply
        cases hop
        exact ⟨hfit, session, rfl⟩
  | finishGame gameId =>
      obtain ⟨rfl, rfl⟩ := Prod.mk.inj (Option.some_inj.1 h)
      have hrefused : m.Called (.finishGame gameId) m (.answered false) :=
        .refuses rfl gameId rfl fun _ _ _ hop => by cases hop
      rw [finishGame]
      cases hfound : m.games.lookup gameId with
      | none => exact hrefused
      | some lobby =>
          dsimp only
          split
          · exact hrefused
          · next hruns =>
              exact .moves (by simp [LobbyReply.Failed]) gameId lobby _ rfl hfound
                (.finishes (not_not.1 hruns)) (fun _ _ _ hop => by cases hop)
                fun _ hreply => by cases hreply

/-! ### What every call keeps -/

/-- What holds when `k` numbers have been taken: they were taken one after the other, only they have
games, and a game in progress has a session. -/
structure Tidy (m : LobbyManager) (k : ℕ) : Prop where
  nextGameId : m.nextGameId = 1 + UInt32.ofNat k
  numbered : ∀ gameId lobby, m.games.lookup gameId = some lobby →
    ∃ j < k, gameId = 1 + UInt32.ofNat j
  sessions : ∀ gameId lobby, m.games.lookup gameId = some lobby → lobby.state = .inProgress →
    lobby.session.isSome = true

/-- Numbers are different until they have all been used. -/
theorem number_inj {j k : ℕ} (hj : j < 2 ^ 32) (hk : k < 2 ^ 32)
    (h : (1 : GameId) + UInt32.ofNat j = 1 + UInt32.ofNat k) : j = k := by
  have hnat := congrArg UInt32.toNat h
  rw [UInt32.toNat_add, UInt32.toNat_add, UInt32.toNat_ofNat', UInt32.toNat_ofNat'] at hnat
  simp only [UInt32.reduceToNat] at hnat
  omega

theorem tidy_empty : Tidy {} 0 where
  nextGameId := rfl
  numbered gameId lobby hlookup := by cases hlookup
  sessions gameId lobby hlookup := by cases hlookup

/-- The next number has no game. -/
theorem Tidy.fresh {m : LobbyManager} {k : ℕ} (h : m.Tidy k) (hk : k < 2 ^ 32) :
    m.games.lookup m.nextGameId = none := by
  cases hlookup : m.games.lookup m.nextGameId with
  | none => rfl
  | some lobby =>
      obtain ⟨j, hj, heq⟩ := h.numbered _ _ hlookup
      rw [h.nextGameId] at heq
      have := number_inj hk (by omega) heq
      omega

/-- A session is there exactly while the game is in progress. -/
theorem Tidy.getSession_iff {m : LobbyManager} {k : ℕ} (h : m.Tidy k) (gameId : GameId) :
    (m.getSession gameId).isSome = true ↔
      ∃ lobby, m.games.lookup gameId = some lobby ∧ lobby.state = .inProgress := by
  rw [getSession]
  cases hlookup : m.games.lookup gameId with
  | none => simp
  | some lobby =>
      dsimp only
      by_cases hruns : lobby.state = .inProgress
      · rw [if_neg (not_not.2 hruns)]
        exact iff_of_true (h.sessions gameId lobby hlookup hruns) ⟨lobby, rfl, hruns⟩
      · rw [if_pos hruns]
        refine iff_of_false (by simp) ?_
        rintro ⟨lobby', hlobby', hruns'⟩
        obtain rfl := Option.some_inj.1 hlobby'
        exact hruns hruns'

/-- On its way a game in progress has a session. -/
theorem session_of_next {lobby lobby' : LobbyGame} (h : lobby.Next lobby')
    (hruns : lobby'.state = .inProgress) : lobby'.session.isSome = true := by
  cases h with
  | seats waits playerSlots =>
      rw [show lobby.state = .inProgress from hruns] at waits
      cases waits
  | starts waits session => rfl
  | finishes runs => cases hruns

/-- **A call keeps the lobby tidy.** -/
theorem Tidy.called {m m' : LobbyManager} {op : LobbyOp} {reply : LobbyReply} {k : ℕ}
    (h : m.Tidy k) (hcall : m.Called op m' reply) : m'.Tidy (k + op.creations) := by
  have hnumber : m.nextGameId + 1 = 1 + UInt32.ofNat (k + 1) := by
    rw [h.nextGameId, UInt32.ofNat_add, UInt32.add_assoc]
    rfl
  have hone : ∀ gameId, op.gameId? = some gameId → op.creations = 0 := by
    intro gameId hnames
    cases op with
    | createGame hostPlayerId settings => cases hnames
    | joinGame gameId playerId => rfl
    | leaveGame gameId playerId => rfl
    | startGame gameId playerId draws => rfl
    | finishGame gameId => rfl
  cases hcall with
  | creates lobby waits =>
      refine ⟨hnumber, ?_, ?_⟩
      · refine Association.forall_insert (fun gameId lobby hlookup => ?_)
          ⟨k, Nat.lt_succ_self k, h.nextGameId⟩
        obtain ⟨j, hj, heq⟩ := h.numbered gameId lobby hlookup
        exact ⟨j, by omega, heq⟩
      · refine Association.forall_insert h.sessions fun hruns => ?_
        rw [waits] at hruns
        cases hruns
  | overflows =>
      refine ⟨hnumber, fun gameId lobby hlookup => ?_, h.sessions⟩
      obtain ⟨j, hj, heq⟩ := h.numbered gameId lobby hlookup
      exact ⟨j, Nat.lt_succ_of_lt hj, heq⟩
  | refuses failed gameId names unfit =>
      rw [hone gameId names]
      exact h
  | moves succeeded gameId lobby lobby' names found goes starts created =>
      rw [hone gameId names]
      refine ⟨h.nextGameId, ?_, ?_⟩
      · exact (Association.forall_replace_iff h.numbered found).2 (h.numbered gameId lobby found)
      · exact (Association.forall_replace_iff h.sessions found).2 fun hruns =>
          session_of_next goes hruns
  | closes lobby found waits =>
      exact ⟨h.nextGameId, Association.forall_erase h.numbered _,
        Association.forall_erase h.sessions _⟩

end LobbyManager

/-! ### The life cycle -/

/-- A game stays in its state, or it goes from waiting to progress, or from progress to its end. -/
def LobbyGameState.GoesTo (state state' : LobbyGameState) : Prop :=
  state' = state ∨ (state = .waitingForPlayers ∧ state' = .inProgress) ∨
    (state = .inProgress ∧ state' = .finished)

theorem LobbyGame.Next.goesTo {lobby lobby' : LobbyGame} (h : lobby.Next lobby') :
    lobby.state.GoesTo lobby'.state ∧
      (lobby.state ≠ .waitingForPlayers → lobby'.playerSlots = lobby.playerSlots) := by
  cases h with
  | seats waits playerSlots => exact ⟨Or.inl rfl, fun hgone => absurd waits hgone⟩
  | starts waits session => exact ⟨Or.inr (Or.inl ⟨waits, rfl⟩), fun _ => rfl⟩
  | finishes runs => exact ⟨Or.inr (Or.inr ⟨runs, rfl⟩), fun _ => rfl⟩

namespace LobbyManager

/-- **What a call does to the lives of the games**: a game keeps to the life cycle, and once it does
not wait any more it stays, with its slots; a session is there exactly while a game is in progress;
a game is started exactly when its host may start it; a new game has a number without a game; a call
that fails leaves all games as they are; and no call changes a game that it neither names nor
creates. -/
structure Lively (m : LobbyManager) (op : LobbyOp) (m' : LobbyManager) (reply : LobbyReply) :
    Prop where
  states : ∀ gameId lobby lobby', m.games.lookup gameId = some lobby →
    m'.games.lookup gameId = some lobby' → lobby.state.GoesTo lobby'.state
  slots : ∀ gameId lobby, m.games.lookup gameId = some lobby →
    lobby.state ≠ .waitingForPlayers → ∃ lobby', m'.games.lookup gameId = some lobby' ∧
      lobby'.playerSlots = lobby.playerSlots
  born : ∀ gameId lobby', m.games.lookup gameId = none → m'.games.lookup gameId = some lobby' →
    reply = .created gameId ∧ lobby'.state = .waitingForPlayers
  fresh : ∀ gameId, reply = .created gameId → m.games.lookup gameId = none
  sessions : ∀ gameId, (m'.getSession gameId).isSome = true ↔
    ∃ lobby, m'.games.lookup gameId = some lobby ∧ lobby.state = .inProgress
  starts : ∀ gameId playerId draws, op = .startGame gameId playerId draws →
    ((∃ session, reply = .started (some session)) ↔ m.Startable gameId playerId)
  failed : reply.Failed → m'.games = m.games ∧ (m' = m ∨ reply = .threw)
  others : ∀ gameId, op.gameId? ≠ some gameId → reply ≠ .created gameId →
    m'.games.lookup gameId = m.games.lookup gameId

/-- A call that creates a game takes the next number for it. -/
theorem Called.created {m m' : LobbyManager} {op : LobbyOp} {gameId : GameId}
    (h : m.Called op m' (.created gameId)) : op.creations = 1 ∧ gameId = m.nextGameId := by
  cases h with
  | creates lobby waits => exact ⟨rfl, rfl⟩
  | refuses failed gameId' names unfit => cases failed
  | moves succeeded gameId' lobby lobby' names found goes starts created =>
      exact absurd rfl (created gameId)

/-- **What a call does to one game**: it stays as it is or is not there, it goes on because the call
names it, it is the new game, or it is closed while it waits. -/
inductive GameChange (op : LobbyOp) (reply : LobbyReply) (gameId : GameId) :
    Option LobbyGame → Option LobbyGame → Prop
  | stays (game : Option LobbyGame) : GameChange op reply gameId game game
  | goes {lobby lobby' : LobbyGame} (names : op.gameId? = some gameId) (next : lobby.Next lobby') :
      GameChange op reply gameId (some lobby) (some lobby')
  | opens {lobby : LobbyGame} (created : reply = .created gameId)
      (waits : lobby.state = .waitingForPlayers) : GameChange op reply gameId none (some lobby)
  | closes {lobby : LobbyGame} (names : op.gameId? = some gameId)
      (waits : lobby.state = .waitingForPlayers) : GameChange op reply gameId (some lobby) none

/-- A call changes every game in one of these ways. -/
theorem Tidy.change {m m' : LobbyManager} {op : LobbyOp} {reply : LobbyReply} {k : ℕ}
    (h : m.Tidy k) (hk : k + op.creations ≤ 2 ^ 32) (hcall : m.Called op m' reply)
    (gameId : GameId) :
    GameChange op reply gameId (m.games.lookup gameId) (m'.games.lookup gameId) := by
  cases hcall with
  | @creates hostPlayerId settings lobby waits =>
      have hnew : m.games.lookup m.nextGameId = none := h.fresh hk
      show GameChange _ _ gameId _ ((m.games.insert m.nextGameId lobby).lookup gameId)
      rw [Association.lookup_insert]
      split
      · next hgame =>
          subst hgame
          rw [hnew]
          exact .opens rfl waits
      · exact .stays _
  | overflows => exact .stays _
  | refuses failed gameId' names unfit => exact .stays _
  | moves succeeded gameId' lobby lobby' names found goes starts created =>
      show GameChange _ _ gameId _ ((m.games.replace gameId' lobby').lookup gameId)
      rw [Association.lookup_replace]
      split
      · next hgame =>
          subst hgame
          rw [found, Option.map_some]
          exact .goes names goes
      · exact .stays _
  | @closes gameId' playerId lobby found waits =>
      show GameChange _ _ gameId _ ((m.games.erase gameId').lookup gameId)
      rw [Association.lookup_erase]
      split
      · next hgame =>
          subst hgame
          rw [found]
          exact .closes rfl waits
      · exact .stays _

/-- A call that fails leaves all games as they are. -/
theorem Called.games_eq {m m' : LobbyManager} {op : LobbyOp} {reply : LobbyReply}
    (h : m.Called op m' reply) (hfailed : reply.Failed) :
    m'.games = m.games ∧ (m' = m ∨ reply = .threw) := by
  cases h with
  | creates lobby waits => cases hfailed
  | overflows => exact ⟨rfl, Or.inr rfl⟩
  | refuses failed gameId names unfit => exact ⟨rfl, Or.inl rfl⟩
  | moves succeeded gameId lobby lobby' names found goes starts created =>
      exact absurd hfailed succeeded
  | closes lobby found waits => cases hfailed

/-- A game is started exactly when its host may start it. -/
theorem Called.started_iff {m m' : LobbyManager} {gameId : GameId} {playerId : PlayerId}
    {draws : ℕ → TerrainType} {reply : LobbyReply}
    (h : m.Called (.startGame gameId playerId draws) m' reply) :
    (∃ session, reply = .started (some session)) ↔ m.Startable gameId playerId := by
  cases h with
  | refuses failed gameId' names unfit =>
      refine iff_of_false ?_ (unfit gameId playerId draws rfl)
      rintro ⟨session, rfl⟩
      cases failed
  | moves succeeded gameId' lobby lobby' names found goes starts created =>
      obtain ⟨hfit, hsession⟩ := starts gameId playerId draws rfl
      exact iff_of_true hsession hfit

/-- **Every call keeps to the life cycle.** -/
theorem Tidy.lively {m m' : LobbyManager} {op : LobbyOp} {reply : LobbyReply} {k : ℕ}
    (h : m.Tidy k) (hk : k + op.creations ≤ 2 ^ 32) (hcall : m.Called op m' reply) :
    m.Lively op m' reply where
  states gameId lobby lobby' hlobby hlobby' := by
    have hchange := h.change hk hcall gameId
    rw [hlobby, hlobby'] at hchange
    cases hchange with
    | stays => exact Or.inl rfl
    | goes names next => exact next.goesTo.1
  slots gameId lobby hlobby hgone := by
    have hchange := h.change hk hcall gameId
    rw [hlobby] at hchange
    generalize m'.games.lookup gameId = later at hchange ⊢
    cases hchange with
    | stays => exact ⟨lobby, rfl, rfl⟩
    | goes names next => exact ⟨_, rfl, next.goesTo.2 hgone⟩
    | closes names waits => exact absurd waits hgone
  born gameId lobby' hnone hlobby' := by
    have hchange := h.change hk hcall gameId
    rw [hnone, hlobby'] at hchange
    cases hchange with
    | opens created waits => exact ⟨created, waits⟩
  fresh gameId hreply := by
    subst hreply
    obtain ⟨hone, rfl⟩ := hcall.created
    exact h.fresh (by omega)
  sessions := (h.called hcall).getSession_iff
  starts gameId playerId draws hop := by
    subst hop
    exact hcall.started_iff
  failed := hcall.games_eq
  others gameId hother hreply := by
    have hchange := h.change hk hcall gameId
    generalize m.games.lookup gameId = earlier at hchange ⊢
    generalize m'.games.lookup gameId = later at hchange ⊢
    cases hchange with
    | stays => rfl
    | goes names next => exact absurd names hother
    | opens created waits => exact absurd created hreply
    | closes names waits => exact absurd names hother

/-! ### Runs -/

/-- The numbers that are issued along a run are among the next ones, in their order. -/
theorem issued_sublist :
    ∀ (ops : List LobbyOp) {m : LobbyManager} {k : ℕ}, m.Tidy k →
      (issued m ops).Sublist
        ((List.range' k (creations ops)).map fun j => (1 : GameId) + UInt32.ofNat j) := by
  intro ops
  induction ops with
  | nil => intro m k _; exact List.nil_sublist _
  | cons op ops ih =>
      intro m k h
      rw [issued, show creations (op :: ops) = op.creations + creations ops from List.sum_cons,
        ← List.range'_append_1, List.map_append]
      cases hcall : m.call op with
      | none => exact List.nil_sublist _
      | some out =>
          obtain ⟨m', reply⟩ := out
          have hcalled := called_of_call hcall
          have hrest := ih (h.called hcalled)
          cases reply with
          | created gameId =>
              obtain ⟨hone, rfl⟩ := hcalled.created
              rw [hone] at hrest ⊢
              rw [h.nextGameId]
              exact (hrest.cons_cons _)
          | answered success => exact hrest.trans (List.sublist_append_right _ _)
          | started session => exact hrest.trans (List.sublist_append_right _ _)
          | threw => exact hrest.trans (List.sublist_append_right _ _)

/-- **Every call of every run keeps to the life cycle, and no number is given twice**, as long as
fewer numbers are taken than there are. -/
theorem life_cycle (ops : List LobbyOp) (hshort : creations ops < 2 ^ 32) :
    Runs.Along next (fun m op => ∀ m' reply, m.call op = some (m', reply) →
      m.Lively op m' reply) {} ops ∧ (issued {} ops).Nodup := by
  constructor
  · have hrun : ∀ (ops : List LobbyOp) {m : LobbyManager} {k : ℕ}, m.Tidy k →
        k + creations ops < 2 ^ 32 →
          Runs.Along next (fun m op => ∀ m' reply, m.call op = some (m', reply) →
            m.Lively op m' reply) m ops := by
      intro ops
      induction ops with
      | nil => intro m k _ _; trivial
      | cons op ops ih =>
          intro m k h hfew
          rw [show creations (op :: ops) = op.creations + creations ops from List.sum_cons] at hfew
          refine ⟨fun m' reply hcall => h.lively (by omega) (called_of_call hcall),
            fun m' hnext => ?_⟩
          obtain ⟨⟨m', reply⟩, hcall, rfl⟩ := Option.map_eq_some_iff.1 hnext
          exact ih (h.called (called_of_call hcall)) (by omega)
    exact hrun ops tidy_empty (by omega)
  · refine (issued_sublist ops tidy_empty).nodup ?_
    refine List.Nodup.map_on (fun j hj k hk heq => ?_) List.nodup_range'
    rw [List.mem_range'_1] at hj hk
    exact number_inj (by omega) (by omega) heq

/-- A game that is played to its end. -/
def playedGame : List LobbyOp :=
  [.createGame 1 {}, .joinGame 1 2, .startGame 1 1 fun _ => .plains, .finishGame 1]

/-- Its calls keep to the life cycle. -/
theorem playedGame_life_cycle :
    Runs.Along next (fun m op => ∀ m' reply, m.call op = some (m', reply) →
      m.Lively op m' reply) {} playedGame ∧ (issued {} playedGame).Nodup :=
  life_cycle playedGame (by decide)

/-- **A call that throws has used up a number**: it leaves the games as they are, but not the
lobby. -/
theorem createGame_threw_numbered :
    ∃ m, ({} : LobbyManager).call (.createGame 1 { maxPlayers := -1 }) = some (m, .threw) ∧
      LobbyReply.threw.Failed ∧ m ≠ {} := by
  refine ⟨{ nextGameId := 2 }, rfl, trivial, fun heq => ?_⟩
  have hnext := congrArg nextGameId heq
  exact absurd hnext (by decide)

end LobbyManager

end My4X
