/-
**What the lobby lists.**

A player who looks for a game is shown one line for each: its name, its state and how many of its
seats are taken.  In whatever way a lobby has come about, the list is right: it has each game once,
counts the different players in it, and says of a waiting game exactly whether somebody new can join
it.  Whoever joins a game and thinks better of it leaves no trace.

Main definitions:

* `My4X.LobbyManager.listGames`, `My4X.LobbyManager.listGamesIn` — the list of all games, and of
  those in a state;
* `My4X.LobbyManager.Listed` — the list is right;
* `My4X.LobbyGame.Kept` — what every game of a lobby keeps.

Main results:

* `My4X.LobbyManager.games_listed` — **the list of every lobby is right**;
* `My4X.LobbyManager.join_as_listed` — **a game is joined exactly when the list has a free seat**;
* `My4X.LobbyManager.leave_undoes_join` — **who joins and leaves leaves the lobby as it was**.
-/

import My4X.Handover
import My4X.LobbyLife

set_option relaxedAutoImplicit false
set_option autoImplicit false

namespace My4X

namespace LobbyManager

/-! ### The list -/

/-- What the list shows of a game. -/
structure GameSummary where
  gameId : GameId
  gameName : String
  state : LobbyGameState
  currentPlayers : ℕ
  maxPlayers : Int32
  deriving DecidableEq

/-- The line of a game. -/
def makeSummary (lobby : LobbyGame) : GameSummary where
  gameId := lobby.gameId
  gameName := lobby.settings.gameName
  state := lobby.state
  currentPlayers := occupiedSlotCount lobby.playerSlots
  maxPlayers := lobby.settings.maxPlayers

/-- The list of all games. -/
def listGames (m : LobbyManager) : List GameSummary := m.games.entries.map fun e => makeSummary e.2

/-- The list of the games in a state. -/
def listGamesIn (m : LobbyManager) (stateFilter : LobbyGameState) : List GameSummary :=
  (m.games.entries.filter fun e => e.2.state = stateFilter).map fun e => makeSummary e.2

def gameCount (m : LobbyManager) : ℕ := m.games.entries.length

def hasGame (m : LobbyManager) (gameId : GameId) : Bool := (m.games.lookup gameId).isSome

/-- A player has a seat in a game. -/
def Seats (m : LobbyManager) (gameId : GameId) (playerId : PlayerId) : Prop :=
  ∃ lobby, m.games.lookup gameId = some lobby ∧
    ∃ slot ∈ lobby.playerSlots, slot.occupied = true ∧ slot.playerId = playerId

end LobbyManager

/-! ### What every game keeps -/

/-- **What every game keeps**: its number, its seats, and nothing of those who have left. -/
structure LobbyGame.Kept (gameId : GameId) (lobby : LobbyGame) : Prop where
  numbered : lobby.gameId = gameId
  seated : lobby.Seated
  free : ∀ slot ∈ lobby.playerSlots, slot.occupied = false → slot = {}

namespace LobbyGame.Kept

variable {gameId : GameId} {lobby : LobbyGame} {playerId : PlayerId} {playerSlots : List PlayerSlot}

/-- Taking a seat. -/
theorem join (h : lobby.Kept gameId)
    (hjoin : joinSlots lobby.playerSlots playerId = some playerSlots) :
    ({ lobby with playerSlots } : LobbyGame).Kept gameId where
  numbered := h.numbered
  seated := h.seated.join hjoin
  free slot hslot hfree := by
    obtain ⟨-, i, old, -, -, rfl⟩ := joinSlots_eq_some hjoin
    rcases List.mem_or_eq_of_mem_set hslot with hmem | rfl
    · exact h.free slot hmem hfree
    · cases hfree

/-- Leaving a seat. -/
theorem leave (h : lobby.Kept gameId) (hguest : playerId ≠ lobby.hostPlayerId)
    (hleave : leaveSlots lobby.playerSlots playerId = some playerSlots) :
    ({ lobby with playerSlots } : LobbyGame).Kept gameId where
  numbered := h.numbered
  seated := h.seated.leave hguest hleave
  free slot hslot hfree := by
    obtain ⟨i, old, -, -, -, rfl⟩ := leaveSlots_eq_some hleave
    rcases List.mem_or_eq_of_mem_set hslot with hmem | rfl
    · exact h.free slot hmem hfree
    · rfl

/-- Nothing is said of the state and the session. -/
theorem goes (h : lobby.Kept gameId) (state : LobbyGameState) (session : Option GameSession) :
    ({ lobby with state, session } : LobbyGame).Kept gameId :=
  ⟨h.numbered, ⟨h.seated.size, h.seated.host, h.seated.players, h.seated.factionId_ne⟩, h.free⟩

/-- The number of the players is the number of the different players. -/
theorem players (h : lobby.Kept gameId) :
    ((seatsOf lobby.playerSlots).map (·.playerId)).Nodup ∧
      ((seatsOf lobby.playerSlots).map (·.playerId)).length =
        occupiedSlotCount lobby.playerSlots := by
  refine ⟨h.seated.players.nodup, ?_⟩
  rw [List.length_map, seatsOf, occupiedSlotCount, List.countP_eq_length_filter]

/-- There is at least the host, and not more than are allowed. -/
theorem bounded (h : lobby.Kept gameId) :
    1 ≤ occupiedSlotCount lobby.playerSlots ∧
      (occupiedSlotCount lobby.playerSlots : ℤ) ≤ lobby.settings.maxPlayers.toInt := by
  obtain ⟨slot, hslot, hocc, -⟩ := h.seated.host
  have hcount : occupiedSlotCount lobby.playerSlots ≤ lobby.playerSlots.length :=
    List.countP_le_length
  have hsize := h.seated.size
  refine ⟨List.countP_pos_iff.2 ⟨slot, List.mem_of_getElem? hslot, hocc⟩, by omega⟩

/-- **There is a free seat exactly when there are fewer players than are allowed.** -/
theorem exists_free_iff (h : lobby.Kept gameId) :
    (∃ slot ∈ lobby.playerSlots, slot.occupied = false) ↔
      (occupiedSlotCount lobby.playerSlots : ℤ) < lobby.settings.maxPlayers.toInt := by
  rw [← h.seated.size, Int.ofNat_lt]
  constructor
  · rintro ⟨slot, hslot, hfree⟩
    obtain ⟨i, hi⟩ := List.mem_iff_getElem?.1 hslot
    exact occupiedSlotCount_lt hi hfree
  · intro hlt
    by_contra hnone
    push Not at hnone
    refine hlt.ne (List.countP_eq_length.2 fun slot hslot => ?_)
    simpa using hnone slot hslot

end LobbyGame.Kept

namespace LobbyManager

/-- **Every game of a lobby keeps this.** -/
def AllKept (m : LobbyManager) : Prop :=
  ∀ gameId lobby, m.games.lookup gameId = some lobby → lobby.Kept gameId

/-- The new game of a lobby. -/
theorem createGame_kept {m m' : LobbyManager} {hostPlayerId : PlayerId} {settings : GameSettings}
    {id : GameId} (h : m.createGame hostPlayerId settings = .ok (m', id)) (hm : m.AllKept) :
    m'.AllKept := by
  rw [createGame] at h
  split at h
  · cases h
  · next hmax =>
      obtain ⟨rfl, -⟩ := Prod.mk.inj (Except.ok.inj h)
      obtain ⟨hseated, -⟩ := created_seated m.nextGameId settings hostPlayerId hmax
      refine Association.forall_insert hm ⟨rfl, hseated, fun slot hslot hfree => ?_⟩
      rcases List.mem_or_eq_of_mem_set hslot with hmem | rfl
      · exact List.eq_of_mem_replicate hmem
      · cases hfree

/-- **What joining does**: nothing, or the player takes a free seat of a waiting game. -/
theorem joinGame_cases (m : LobbyManager) (gameId : GameId) (playerId : PlayerId) :
    (m.joinGame gameId playerId = (m, false) ∧ ∀ lobby, m.games.lookup gameId = some lobby →
      lobby.state = .waitingForPlayers → joinSlots lobby.playerSlots playerId = none) ∨
    ∃ lobby playerSlots, m.games.lookup gameId = some lobby ∧ lobby.state = .waitingForPlayers ∧
      joinSlots lobby.playerSlots playerId = some playerSlots ∧ m.joinGame gameId playerId =
        ({ m with games := m.games.replace gameId { lobby with playerSlots } }, true) := by
  rw [joinGame]
  cases hfound : m.games.lookup gameId with
  | none => exact Or.inl ⟨rfl, fun lobby hlobby => by cases hlobby⟩
  | some lobby =>
      dsimp only
      by_cases hwaits : lobby.state = .waitingForPlayers
      · rw [if_neg (not_not.2 hwaits)]
        cases hseat : joinSlots lobby.playerSlots playerId with
        | none =>
            refine Or.inl ⟨rfl, fun lobby' hlobby' _ => ?_⟩
            rw [← Option.some_inj.1 hlobby']
            exact hseat
        | some playerSlots => exact Or.inr ⟨lobby, playerSlots, rfl, hwaits, hseat, rfl⟩
      · rw [if_pos hwaits]
        refine Or.inl ⟨rfl, fun lobby' hlobby' hwaits' => ?_⟩
        rw [← Option.some_inj.1 hlobby'] at hwaits'
        exact absurd hwaits' hwaits

/-- **What leaving does**: nothing, or the game of the host goes, or a guest frees his seat. -/
theorem leaveGame_cases (m : LobbyManager) (gameId : GameId) (playerId : PlayerId) :
    m.leaveGame gameId playerId = (m, false) ∨
    m.leaveGame gameId playerId = ({ m with games := m.games.erase gameId }, true) ∨
    ∃ lobby playerSlots, m.games.lookup gameId = some lobby ∧ playerId ≠ lobby.hostPlayerId ∧
      leaveSlots lobby.playerSlots playerId = some playerSlots ∧ m.leaveGame gameId playerId =
        ({ m with games := m.games.replace gameId { lobby with playerSlots } }, true) := by
  rw [leaveGame]
  cases hfound : m.games.lookup gameId with
  | none => exact Or.inl rfl
  | some lobby =>
      dsimp only
      by_cases hwaits : lobby.state = .waitingForPlayers
      · rw [if_neg (not_not.2 hwaits)]
        by_cases hhost : playerId = lobby.hostPlayerId
        · rw [if_pos hhost]
          exact Or.inr (Or.inl rfl)
        · rw [if_neg hhost]
          cases hseat : leaveSlots lobby.playerSlots playerId with
          | none => exact Or.inl rfl
          | some playerSlots => exact Or.inr (Or.inr ⟨lobby, playerSlots, rfl, hhost, hseat, rfl⟩)
      · rw [if_pos hwaits]
        exact Or.inl rfl

/-- **Every call keeps the games.** -/
theorem AllKept.next {m m' : LobbyManager} {op : LobbyOp} (h : m.AllKept)
    (hnext : m.next op = some m') : m'.AllKept := by
  obtain ⟨⟨_, reply⟩, hcall, rfl⟩ := Option.map_eq_some_iff.1 hnext
  cases op with
  | createGame hostPlayerId settings =>
      rw [call] at hcall
      split at hcall
      · next m₁ id hcreate =>
          obtain ⟨rfl, -⟩ := Prod.mk.inj (Option.some_inj.1 hcall)
          exact createGame_kept hcreate h
      · split at hcall
        · obtain ⟨rfl, -⟩ := Prod.mk.inj (Option.some_inj.1 hcall)
          exact h
        · cases hcall
  | joinGame gameId playerId =>
      obtain ⟨rfl, -⟩ := Prod.mk.inj (Option.some_inj.1 hcall)
      obtain ⟨hnothing, -⟩ | ⟨lobby, playerSlots, hfound, -, hseat, hjoined⟩ :=
        joinGame_cases m gameId playerId
      · rw [hnothing]
        exact h
      · rw [hjoined]
        exact (Association.forall_replace_iff h hfound).2 ((h gameId lobby hfound).join hseat)
  | leaveGame gameId playerId =>
      obtain ⟨rfl, -⟩ := Prod.mk.inj (Option.some_inj.1 hcall)
      obtain hnothing | hgone | ⟨lobby, playerSlots, hfound, hguest, hseat, hleft⟩ :=
        leaveGame_cases m gameId playerId
      · rw [hnothing]
        exact h
      · rw [hgone]
        exact Association.forall_erase h gameId
      · rw [hleft]
        exact (Association.forall_replace_iff h hfound).2
          ((h gameId lobby hfound).leave hguest hseat)
  | startGame gameId requestingPlayerId draws =>
      rw [call] at hcall
      split at hcall
      · obtain ⟨rfl, -⟩ := Prod.mk.inj (Option.some_inj.1 hcall)
        exact h
      · next m₁ session hstart =>
          obtain ⟨rfl, -⟩ := Prod.mk.inj (Option.some_inj.1 hcall)
          obtain ⟨-, rfl⟩ | ⟨lobby, session₁, hfound, -, -, -, hgames⟩ := startGame_cases hstart
          · exact h
          · rw [AllKept, hgames]
            exact (Association.forall_replace_iff h hfound).2 ((h gameId lobby hfound).goes _ _)
  | finishGame gameId =>
      obtain ⟨rfl, -⟩ := Prod.mk.inj (Option.some_inj.1 hcall)
      rw [finishGame]
      split
      · exact h
      · next lobby hfound =>
          split
          · exact h
          · exact (Association.forall_replace_iff h hfound).2 ((h gameId lobby hfound).goes _ _)

/-- So does every run of calls. -/
theorem allKept_run {m : LobbyManager} {ops : List LobbyOp} (hrun : Runs.run next {} ops = some m) :
    m.AllKept :=
  Runs.run_invariant (I := AllKept) (P := fun _ _ => True) (fun _ _ _ h _ hnext => h.next hnext)
    ops {} m (fun gameId lobby hlookup => by cases hlookup)
    (Runs.along_of_forall (fun _ _ => trivial) ops _) hrun

/-! ### The list is right -/

/-- **The list is right**: it has every game once; each line shows what is told of the game when one
asks for it, with the number of the different players in it, who are not more than allowed; and the
list for a state has the lines that show this state. -/
structure Listed (m : LobbyManager) : Prop where
  once : (m.listGames.map (·.gameId)).Nodup
  all : ∀ gameId, m.hasGame gameId = true ↔ gameId ∈ m.listGames.map (·.gameId)
  count : m.gameCount = m.listGames.length
  info : ∀ summary ∈ m.listGames, ∃ info, m.getGameInfo summary.gameId = some info ∧
    info.gameId = summary.gameId ∧ info.gameName = summary.gameName ∧ info.state = summary.state ∧
      info.settings.maxPlayers = summary.maxPlayers
  players : ∀ summary ∈ m.listGames, ∃ players : List PlayerId, players.Nodup ∧
    (∀ playerId, playerId ∈ players ↔ m.Seats summary.gameId playerId) ∧
      summary.currentPlayers = players.length
  bounded : ∀ summary ∈ m.listGames, 1 ≤ summary.currentPlayers ∧
    (summary.currentPlayers : ℤ) ≤ summary.maxPlayers.toInt
  filtered : ∀ state, m.listGamesIn state = m.listGames.filter (·.state = state)

/-- A line is the line of a game. -/
theorem AllKept.mem_listGames {m : LobbyManager} (h : m.AllKept) {summary : GameSummary} :
    summary ∈ m.listGames ↔
      ∃ lobby, m.games.lookup summary.gameId = some lobby ∧ makeSummary lobby = summary := by
  rw [listGames, List.mem_map]
  constructor
  · rintro ⟨e, he, rfl⟩
    have hlookup := AList.mem_lookup_iff.2 he
    refine ⟨e.2, ?_, rfl⟩
    rw [makeSummary, (h _ _ hlookup).numbered]
    exact hlookup
  · rintro ⟨lobby, hlookup, rfl⟩
    exact ⟨_, AList.mem_lookup_iff.1 hlookup, rfl⟩

/-- The numbers that the list shows are the numbers of the games. -/
theorem AllKept.map_gameId {m : LobbyManager} (h : m.AllKept) :
    m.listGames.map (·.gameId) = m.games.keys := by
  rw [listGames, List.map_map]
  refine List.map_congr_left fun e he => ?_
  exact (h _ _ (AList.mem_lookup_iff.2 he)).numbered

/-- **The list of every lobby is right.** -/
theorem games_listed (m : LobbyManager) (ops : List LobbyOp)
    (hrun : Runs.run next {} ops = some m) : m.Listed := by
  have h := allKept_run hrun
  refine ⟨?_, fun gameId => ?_, (List.length_map _).symm, fun summary hsummary => ?_,
    fun summary hsummary => ?_, fun summary hsummary => ?_, fun state => ?_⟩
  · rw [h.map_gameId]
    exact m.games.keys_nodup
  · rw [h.map_gameId, hasGame, AList.lookup_isSome]
    exact AList.mem_keys
  · obtain ⟨lobby, hlookup, rfl⟩ := h.mem_listGames.1 hsummary
    refine ⟨lobby.makeInfo, ?_, rfl, rfl, rfl, rfl⟩
    rw [getGameInfo, hlookup]
    rfl
  · obtain ⟨lobby, hlookup, rfl⟩ := h.mem_listGames.1 hsummary
    obtain ⟨hnodup, hcount⟩ := (h _ _ hlookup).players
    refine ⟨_, hnodup, fun playerId => ?_, hcount.symm⟩
    rw [List.mem_map]
    constructor
    · rintro ⟨slot, hslot, rfl⟩
      obtain ⟨hmem, hocc⟩ := mem_seatsOf.1 hslot
      exact ⟨lobby, hlookup, slot, hmem, hocc, rfl⟩
    · rintro ⟨lobby', hlookup', slot, hmem, hocc, rfl⟩
      rw [hlookup] at hlookup'
      obtain rfl := Option.some_inj.1 hlookup'
      exact ⟨slot, mem_seatsOf.2 ⟨hmem, hocc⟩, rfl⟩
  · obtain ⟨lobby, hlookup, rfl⟩ := h.mem_listGames.1 hsummary
    exact (h _ _ hlookup).bounded
  · rw [listGamesIn, listGames, List.filter_map]
    rfl

/-- Two games; in one of them a guest waits with the host. -/
def twoGames : List LobbyOp := [.createGame 1 {}, .createGame 2 { maxPlayers := 1 }, .joinGame 1 3]

/-- They are listed. -/
theorem twoGames_listed : ∃ m, Runs.run next {} twoGames = some m ∧ m.Listed := by
  have hrun : ∃ m, Runs.run next {} twoGames = some m := ⟨_, rfl⟩
  obtain ⟨m, hrun⟩ := hrun
  exact ⟨m, hrun, games_listed m twoGames hrun⟩

/-! ### Joining by the list -/

/-- A player joins a game exactly when it waits with a free seat and he has none. -/
theorem joinGame_iff (m : LobbyManager) (gameId : GameId) (playerId : PlayerId) :
    (m.joinGame gameId playerId).2 = true ↔ ∃ lobby, m.games.lookup gameId = some lobby ∧
      lobby.state = .waitingForPlayers ∧ (∃ slot ∈ lobby.playerSlots, slot.occupied = false) ∧
        ¬ m.Seats gameId playerId := by
  obtain ⟨hnothing, hnone⟩ | ⟨lobby, playerSlots, hfound, hwaits, hseat, hjoined⟩ :=
    joinGame_cases m gameId playerId
  · rw [hnothing]
    refine iff_of_false Bool.false_ne_true ?_
    rintro ⟨lobby, hfound, hwaits, hfree, hnew⟩
    have hothers : ∀ slot ∈ lobby.playerSlots, slot.occupied = true → slot.playerId ≠ playerId :=
      fun slot hslot hocc hmine => hnew ⟨lobby, hfound, slot, hslot, hocc, hmine⟩
    obtain ⟨playerSlots, hseat⟩ := exists_joinSlots hothers hfree
    rw [hnone lobby hfound hwaits] at hseat
    cases hseat
  · rw [hjoined]
    obtain ⟨hnew, i, old, hi, hfree, -⟩ := joinSlots_eq_some hseat
    refine iff_of_true rfl ⟨lobby, hfound, hwaits, ⟨old, List.mem_of_getElem? hi, hfree⟩, ?_⟩
    rintro ⟨lobby', hfound', slot, hslot, hocc, hmine⟩
    rw [hfound] at hfound'
    obtain rfl := Option.some_inj.1 hfound'
    exact hnew slot hslot hocc hmine

/-- A seat more is taken. -/
theorem occupiedSlotCount_join {slots slots' : List PlayerSlot} {playerId : PlayerId}
    (h : joinSlots slots playerId = some slots') :
    occupiedSlotCount slots' = occupiedSlotCount slots + 1 := by
  obtain ⟨-, i, old, hi, hfree, rfl⟩ := joinSlots_eq_some h
  obtain ⟨hlt, rfl⟩ := List.getElem?_eq_some_iff.1 hi
  rw [occupiedSlotCount, List.countP_set hlt, hfree]
  simp [occupiedSlotCount]

/-- **A game is joined exactly when the list shows that it waits and has a free seat**, and the
player is not in it; it then shows one player more for this game, and the same for the others. -/
theorem join_as_listed (m : LobbyManager) (ops : List LobbyOp)
    (hrun : Runs.run next {} ops = some m) (gameId : GameId) (playerId : PlayerId) :
    ((m.joinGame gameId playerId).2 = true ↔
      ∃ summary ∈ m.listGamesIn .waitingForPlayers, summary.gameId = gameId ∧
        (summary.currentPlayers : ℤ) < summary.maxPlayers.toInt ∧ ¬ m.Seats gameId playerId) ∧
    (m.joinGame gameId playerId).1.listGames = m.listGames.map fun summary =>
      if summary.gameId = gameId ∧ (m.joinGame gameId playerId).2 = true then
        { summary with currentPlayers := summary.currentPlayers + 1 }
      else summary := by
  have h := allKept_run hrun
  constructor
  · rw [joinGame_iff]
    constructor
    · rintro ⟨lobby, hfound, hwaits, hfree, hnew⟩
      have hkept := h gameId lobby hfound
      refine ⟨makeSummary lobby, ?_, hkept.numbered, hkept.exists_free_iff.1 hfree, hnew⟩
      rw [listGamesIn, List.mem_map]
      exact ⟨⟨gameId, lobby⟩, List.mem_filter.2 ⟨AList.mem_lookup_iff.1 hfound,
        decide_eq_true hwaits⟩, rfl⟩
    · rintro ⟨summary, hsummary, hgame, hroom, hnew⟩
      rw [listGamesIn, List.mem_map] at hsummary
      obtain ⟨⟨id, lobby⟩, he, rfl⟩ := hsummary
      obtain ⟨hmem, hwaits⟩ := List.mem_filter.1 he
      have hfound := AList.mem_lookup_iff.2 hmem
      have hkept := h id lobby hfound
      obtain rfl : id = gameId := hkept.numbered.symm.trans hgame
      exact ⟨lobby, hfound, of_decide_eq_true hwaits, hkept.exists_free_iff.2 hroom, hnew⟩
  · obtain ⟨hnothing, -⟩ | ⟨lobby, playerSlots, hfound, -, hseat, hjoined⟩ :=
      joinGame_cases m gameId playerId
    · rw [hnothing]
      simp
    · rw [hjoined, listGames, listGames, Association.entries_replace, List.map_map, List.map_map]
      refine List.map_congr_left fun e he => ?_
      have hlookup := AList.mem_lookup_iff.2 he
      have hnumber : (makeSummary e.2).gameId = e.1 := (h _ _ hlookup).numbered
      simp only [Function.comp_apply, and_true]
      by_cases hgame : e.1 = gameId
      · rw [if_pos hgame, if_pos (hnumber.trans hgame)]
        rw [hgame, hfound] at hlookup
        obtain rfl := Option.some_inj.1 hlookup
        rw [makeSummary, makeSummary, occupiedSlotCount_join hseat]
      · rw [if_neg hgame, if_neg fun hsame => hgame (hnumber.symm.trans hsame)]

/-- A second guest joins the first of the two games, which the list has shown to be open. -/
theorem twoGames_open : ∃ m, Runs.run next {} twoGames = some m ∧
    ∃ summary ∈ m.listGamesIn .waitingForPlayers, summary.gameId = 1 ∧
      (summary.currentPlayers : ℤ) < summary.maxPlayers.toInt ∧ ¬ m.Seats 1 4 := by
  have hrun : ∃ m, Runs.run next {} twoGames = some m ∧ (m.joinGame 1 4).2 = true := ⟨_, rfl, rfl⟩
  obtain ⟨m, hrun, hjoined⟩ := hrun
  exact ⟨m, hrun, (join_as_listed m twoGames hrun 1 4).1.1 hjoined⟩

/-! ### Joining and leaving -/

/-- Who has just taken a seat frees it again. -/
theorem leaveSlots_joinSlots {gameId : GameId} {lobby : LobbyGame} (h : lobby.Kept gameId)
    {playerId : PlayerId} {playerSlots : List PlayerSlot}
    (hjoin : joinSlots lobby.playerSlots playerId = some playerSlots) :
    leaveSlots playerSlots playerId = some lobby.playerSlots := by
  obtain ⟨hnew, i, old, hi, hfree, hslots⟩ := joinSlots_eq_some hjoin
  obtain ⟨hlt, hold⟩ := List.getElem?_eq_some_iff.1 hi
  obtain ⟨slot, hocc, hname, rfl⟩ : ∃ slot : PlayerSlot, slot.occupied = true ∧
      slot.playerId = playerId ∧ playerSlots = lobby.playerSlots.set i slot :=
    ⟨_, rfl, rfl, hslots⟩
  have hmine : (lobby.playerSlots.set i slot).findIdx?
      (fun slot => slot.occupied && slot.playerId = playerId) = some i := by
    refine List.findIdx?_eq_some_iff_getElem.2
      ⟨by rwa [List.length_set], by simp [hocc, hname], fun j hj => ?_⟩
    -- nobody else has a seat under the name of the player
    rw [List.getElem_set_ne (Nat.ne_of_gt hj)]
    intro hsame
    rw [Bool.and_eq_true, decide_eq_true_eq] at hsame
    exact hnew _ (List.getElem_mem _) hsame.1 hsame.2
  -- a free seat has nothing of those who had it before
  rw [leaveSlots, hmine, Option.map_some, List.set_set,
    ← h.free old (List.mem_of_getElem? hi) hfree, ← hold, List.set_getElem_self]

/-- **Who joins a game and leaves it again leaves the lobby exactly as it was.** -/
theorem leave_undoes_join (m : LobbyManager) (ops : List LobbyOp)
    (hrun : Runs.run next {} ops = some m) (gameId : GameId) (playerId : PlayerId)
    (hjoined : (m.joinGame gameId playerId).2 = true) :
    (m.joinGame gameId playerId).1.leaveGame gameId playerId = (m, true) := by
  have h := allKept_run hrun
  obtain ⟨hnothing, -⟩ | ⟨lobby, playerSlots, hfound, hwaits, hseat, hgames⟩ :=
    joinGame_cases m gameId playerId
  · rw [hnothing] at hjoined
    cases hjoined
  · have hkept := h gameId lobby hfound
    -- the host has a seat already
    have hguest : playerId ≠ lobby.hostPlayerId := by
      obtain ⟨hnew, -⟩ := joinSlots_eq_some hseat
      obtain ⟨slot, hslot, hocc, hhost⟩ := hkept.seated.host
      rw [← hhost]
      exact (hnew slot (List.mem_of_getElem? hslot) hocc).symm
    have hfound' : (m.games.replace gameId { lobby with playerSlots }).lookup gameId =
        some { lobby with playerSlots } := by
      rw [Association.lookup_replace, if_pos rfl, hfound]
      rfl
    rw [hgames, leaveGame]
    simp only [hfound']
    rw [if_neg (not_not.2 hwaits), if_neg hguest, leaveSlots_joinSlots hkept hseat]
    simp only [Association.replace_replace]
    rw [Association.replace_self hfound]

/-- The second guest thinks better of it. -/
theorem twoGames_left : ∃ m, Runs.run next {} twoGames = some m ∧
    (m.joinGame 1 4).1.leaveGame 1 4 = (m, true) := by
  have hrun : ∃ m, Runs.run next {} twoGames = some m ∧ (m.joinGame 1 4).2 = true := ⟨_, rfl, rfl⟩
  obtain ⟨m, hrun, hjoined⟩ := hrun
  exact ⟨m, hrun, leave_undoes_join m twoGames hrun 1 4 hjoined⟩

end LobbyManager

end My4X
