/-
**The seats of a lobby.**

A lobby keeps the games that players gather for.  The host of a game holds its first slot; who joins
takes the first free one, and who leaves frees his own.  The faction of a player who joins is the
number of the players with him, which is the number of the faction of somebody else when the game
has been left before: slots are used again, and factions are given twice.

Main definitions:

* `My4X.LobbyManager` — the lobby, with `createGame`, `joinGame`, `leaveGame`, `startGame`,
  `finishGame` and `getGameInfo`;
* `My4X.LobbyGame.Seated` — what the seats of a waiting game always keep;
* `My4X.LobbyGame.SeatsInOrder` — everybody has one seat, and a faction of his own.

Main results:

* `My4X.LobbyManager.seated_run` — **the host keeps his slot and no player has two**, in every
  waiting game;
* `My4X.LobbyManager.seatsInOrder_along_iff` — **seats are in order exactly as long as nobody joins
  whose faction is taken**.
-/

import My4X.Lib.Association
import My4X.Lib.Runs
import My4X.Session

set_option relaxedAutoImplicit false
set_option autoImplicit false

namespace My4X

/-! ### Games -/

/-- The number of a game. -/
abbrev GameId := UInt32

/-- Where a game of the lobby stands. -/
inductive LobbyGameState
  | waitingForPlayers
  | inProgress
  | finished
  deriving DecidableEq, Repr

/-- The sizes of a map. -/
inductive MapSize
  | small
  | medium
  | large
  deriving DecidableEq, Repr

/-- The settings of a new game. -/
structure GameSettings where
  mapSize : MapSize := .medium
  maxPlayers : Int32 := 8
  minPlayers : Int32 := 2
  turnDeadlineSeconds : Int32 := 0
  randomSeed : UInt64 := 0
  gameName : String := "New Game"
  deriving DecidableEq, Repr

namespace GameSettings

def mapRows (settings : GameSettings) : ℤ :=
  match settings.mapSize with
  | .small => 16
  | .medium => 32
  | .large => 64

def mapCols (settings : GameSettings) : ℤ :=
  match settings.mapSize with
  | .small => 16
  | .medium => 32
  | .large => 64

end GameSettings

/-- A seat in a game. -/
structure PlayerSlot where
  playerId : PlayerId := 0
  factionId : FactionId := 0
  occupied : Bool := false
  deriving DecidableEq, Repr

/-- What the lobby shows of a game. -/
structure GameInfo where
  gameId : GameId
  gameName : String
  state : LobbyGameState
  settings : GameSettings
  playerSlots : List PlayerSlot
  hostPlayerId : PlayerId

/-- A game of the lobby; it has a session once it is started. -/
structure LobbyGame where
  gameId : GameId
  settings : GameSettings
  state : LobbyGameState := .waitingForPlayers
  hostPlayerId : PlayerId
  playerSlots : List PlayerSlot
  session : Option GameSession := none

/-- The number of the occupied slots. -/
def occupiedSlotCount (slots : List PlayerSlot) : ℕ := slots.countP (·.occupied)

/-- What the lobby shows of a game. -/
def LobbyGame.makeInfo (lobby : LobbyGame) : GameInfo where
  gameId := lobby.gameId
  gameName := lobby.settings.gameName
  state := lobby.state
  settings := lobby.settings
  playerSlots := lobby.playerSlots
  hostPlayerId := lobby.hostPlayerId

/-- The slots after a player has taken the first free one, if there is one and he is not seated. -/
def joinSlots (slots : List PlayerSlot) (playerId : PlayerId) : Option (List PlayerSlot) :=
  if slots.any fun slot => slot.occupied && slot.playerId = playerId then none
  else
    (slots.findIdx? fun slot => !slot.occupied).map fun i =>
      slots.set i
        { playerId, factionId := UInt32.ofNat (occupiedSlotCount slots + 1), occupied := true }

/-- The slots after a player has left his, if he has one. -/
def leaveSlots (slots : List PlayerSlot) (playerId : PlayerId) : Option (List PlayerSlot) :=
  (slots.findIdx? fun slot => slot.occupied && slot.playerId = playerId).map fun i =>
    slots.set i {}

/-- Registers the players of the occupied slots, with factions in the order of the slots. -/
def registerPlayers (session : GameSession) (nextFaction : FactionId) :
    List PlayerSlot → GameSession
  | [] => session
  | slot :: slots =>
      if slot.occupied then
        registerPlayers (session.addPlayer slot.playerId nextFaction).1 (nextFaction + 1) slots
      else registerPlayers session nextFaction slots

/-! ### The lobby -/

/-- The games by their numbers, and the next number. -/
structure LobbyManager where
  nextGameId : GameId := 1
  games : AList fun _ : GameId => LobbyGame := ∅

namespace LobbyManager

/-- Creates a game; its host takes the first slot.  Without slots the access fails, and a negative
number of them cannot be allocated. -/
def createGame (m : LobbyManager) (hostPlayerId : PlayerId) (settings : GameSettings) :
    Except Fault (LobbyManager × GameId) :=
  let id := m.nextGameId
  if settings.maxPlayers < 1 then .error .assertion
  else
    let host : PlayerSlot := { playerId := hostPlayerId, factionId := 1, occupied := true }
    let lobby : LobbyGame :=
      { gameId := id, settings, hostPlayerId
        playerSlots :=
          (List.replicate settings.maxPlayers.toInt.toNat ({} : PlayerSlot)).set 0 host }
    .ok ({ nextGameId := id + 1, games := m.games.insert id lobby }, id)

/-- A player joins a waiting game. -/
def joinGame (m : LobbyManager) (gameId : GameId) (playerId : PlayerId) : LobbyManager × Bool :=
  match m.games.lookup gameId with
  | none => (m, false)
  | some lobby =>
      if lobby.state ≠ .waitingForPlayers then (m, false)
      else
        match joinSlots lobby.playerSlots playerId with
        | none => (m, false)
        | some playerSlots =>
            ({ m with games := m.games.replace gameId { lobby with playerSlots } }, true)

/-- A player leaves a waiting game; with its host the game goes. -/
def leaveGame (m : LobbyManager) (gameId : GameId) (playerId : PlayerId) : LobbyManager × Bool :=
  match m.games.lookup gameId with
  | none => (m, false)
  | some lobby =>
      if lobby.state ≠ .waitingForPlayers then (m, false)
      else if playerId = lobby.hostPlayerId then ({ m with games := m.games.erase gameId }, true)
      else
        match leaveSlots lobby.playerSlots playerId with
        | none => (m, false)
        | some playerSlots =>
            ({ m with games := m.games.replace gameId { lobby with playerSlots } }, true)

def getGameInfo (m : LobbyManager) (gameId : GameId) : Option GameInfo :=
  (m.games.lookup gameId).map LobbyGame.makeInfo

/-- The host starts a waiting game that has enough players; its session is on a new map. -/
def startGame (m : LobbyManager) (gameId : GameId) (requestingPlayerId : PlayerId)
    (draws : ℕ → TerrainType) : Except Fault (LobbyManager × Option GameSession) :=
  match m.games.lookup gameId with
  | none => .ok (m, none)
  | some lobby =>
      if requestingPlayerId ≠ lobby.hostPlayerId then .ok (m, none)
      else if lobby.state ≠ .waitingForPlayers then .ok (m, none)
      else if (occupiedSlotCount lobby.playerSlots : ℤ) < lobby.settings.minPlayers.toInt then
        .ok (m, none)
      else do
        let session ← GameSession.create lobby.settings.mapRows lobby.settings.mapCols draws
        let session := registerPlayers session 1 lobby.playerSlots
        let lobby := { lobby with session := some session, state := .inProgress }
        return ({ m with games := m.games.replace gameId lobby }, some session)

/-- Marks a game that is in progress as finished. -/
def finishGame (m : LobbyManager) (gameId : GameId) : LobbyManager × Bool :=
  match m.games.lookup gameId with
  | none => (m, false)
  | some lobby =>
      if lobby.state ≠ .inProgress then (m, false)
      else ({ m with games := m.games.replace gameId { lobby with state := .finished } }, true)

end LobbyManager

/-- The calls to a lobby. -/
inductive LobbyOp
  | createGame (hostPlayerId : PlayerId) (settings : GameSettings)
  | joinGame (gameId : GameId) (playerId : PlayerId)
  | leaveGame (gameId : GameId) (playerId : PlayerId)
  | startGame (gameId : GameId) (requestingPlayerId : PlayerId) (draws : ℕ → TerrainType)
  | finishGame (gameId : GameId)

/-- The lobby after a call; a call that does not return ends the run. -/
def LobbyManager.step (m : LobbyManager) : LobbyOp → Option LobbyManager
  | .createGame hostPlayerId settings =>
      match m.createGame hostPlayerId settings with
      | .error _ => none
      | .ok (m, _) => some m
  | .joinGame gameId playerId => some (m.joinGame gameId playerId).1
  | .leaveGame gameId playerId => some (m.leaveGame gameId playerId).1
  | .startGame gameId requestingPlayerId draws =>
      match m.startGame gameId requestingPlayerId draws with
      | .error _ => none
      | .ok (m, _) => some m
  | .finishGame gameId => some (m.finishGame gameId).1

/-! ### Slots -/

section Slots

variable {α : Type} {f : PlayerSlot → α} {slots : List PlayerSlot} {i : ℕ} {slot old : PlayerSlot}

/-- The occupied slots differ in something. -/
def DifferIn (f : PlayerSlot → α) (slots : List PlayerSlot) : Prop :=
  ∀ (i j : ℕ) (s t : PlayerSlot), slots[i]? = some s → slots[j]? = some t → s.occupied = true →
  t.occupied = true →
    f s = f t → i = j

theorem getElem?_set_slot (hi : slots[i]? = some old) (j : ℕ) :
    (slots.set i slot)[j]? = if j = i then some slot else slots[j]? := by
  rw [List.getElem?_set]
  by_cases hij : i = j
  · subst hij
    rw [if_pos rfl, if_pos rfl, if_pos (List.getElem?_eq_some_iff.1 hi).1]
  · rw [if_neg hij, if_neg (Ne.symm hij)]

/-- **Taking a free slot** keeps the occupied ones apart when none of them is like the new one. -/
theorem differIn_take_iff (h : DifferIn f slots) (hi : slots[i]? = some old)
    (hfree : old.occupied = false) (htaken : slot.occupied = true) :
    DifferIn f (slots.set i slot) ↔ ∀ s ∈ slots, s.occupied = true → f s ≠ f slot := by
  constructor
  · intro hset s hs hocc heq
    obtain ⟨j, hj⟩ := List.mem_iff_getElem?.1 hs
    have hji : j ≠ i := by
      rintro rfl
      rw [hi] at hj
      obtain rfl := Option.some_inj.1 hj
      rw [hfree] at hocc
      cases hocc
    refine hji (hset j i s slot ?_ ?_ hocc htaken heq)
    · rw [getElem?_set_slot hi, if_neg hji]
      exact hj
    · rw [getElem?_set_slot hi, if_pos rfl]
  · intro hnew j k s t hs ht hsocc htocc heq
    rw [getElem?_set_slot hi] at hs ht
    split at hs
    · next hj =>
        obtain rfl := Option.some_inj.1 hs
        split at ht
        · next hk => rw [hj, hk]
        · exact absurd heq.symm (hnew t (List.mem_of_getElem? ht) htocc)
    · next hj =>
        split at ht
        · obtain rfl := Option.some_inj.1 ht
          exact absurd heq (hnew s (List.mem_of_getElem? hs) hsocc)
        · exact h j k s t hs ht hsocc htocc heq

/-- Freeing a slot keeps the occupied ones apart. -/
theorem DifferIn.free (h : DifferIn f slots) (i : ℕ) (hfree : slot.occupied = false) :
    DifferIn f (slots.set i slot) := by
  have hkept : ∀ (j : ℕ) (s : PlayerSlot), (slots.set i slot)[j]? = some s → s.occupied = true →
      slots[j]? = some s := by
    intro j s hs hocc
    rw [List.getElem?_set] at hs
    split at hs
    · split at hs
      · obtain rfl := Option.some_inj.1 hs
        rw [hfree] at hocc
        cases hocc
      · cases hs
    · exact hs
  intro j k s t hs ht hsocc htocc heq
  exact h j k s t (hkept j s hs hsocc) (hkept k t ht htocc) hsocc htocc heq

end Slots

/-- A free slot leaves room for one player more. -/
theorem occupiedSlotCount_lt {slots : List PlayerSlot} {i : ℕ} {old : PlayerSlot}
    (hi : slots[i]? = some old) (hfree : old.occupied = false) :
    occupiedSlotCount slots < slots.length := by
  refine lt_of_le_of_ne List.countP_le_length fun hall => ?_
  have hocc := List.countP_eq_length.1 hall old (List.mem_of_getElem? hi)
  rw [hfree] at hocc
  cases hocc

/-- The number of the players does not overflow. -/
theorem ofNat_count_ne_zero {slots : List PlayerSlot} {i : ℕ} {old : PlayerSlot}
    {maxPlayers : Int32}
    (hi : slots[i]? = some old) (hfree : old.occupied = false)
    (hsize : (slots.length : ℤ) = maxPlayers.toInt) :
    UInt32.ofNat (occupiedSlotCount slots + 1) ≠ 0 := by
  have hlt := occupiedSlotCount_lt hi hfree
  have hmax := maxPlayers.toInt_lt
  intro hzero
  have hmod := congrArg UInt32.toNat hzero
  rw [UInt32.toNat_ofNat', UInt32.toNat_zero] at hmod
  omega

/-- Who joins takes a free slot, and had none. -/
theorem joinSlots_eq_some {slots slots' : List PlayerSlot} {playerId : PlayerId}
    (h : joinSlots slots playerId = some slots') :
    (∀ s ∈ slots, s.occupied = true → s.playerId ≠ playerId) ∧
      ∃ i old, slots[i]? = some old ∧ old.occupied = false ∧
        slots' = slots.set i { playerId, factionId := UInt32.ofNat (occupiedSlotCount slots + 1),
                               occupied := true } := by
  rw [joinSlots] at h
  split at h
  · cases h
  · next hseated =>
      obtain ⟨i, hi, rfl⟩ := Option.map_eq_some_iff.1 h
      obtain ⟨hlt, hfree, -⟩ := List.findIdx?_eq_some_iff_getElem.1 hi
      refine ⟨fun s hs hocc hsame => hseated ?_, i, slots[i], List.getElem?_eq_getElem hlt, ?_, rfl⟩
      · exact List.any_eq_true.2 ⟨s, hs, by simp [hocc, hsame]⟩
      · simpa using hfree

/-- A player who has no slot takes a free one if there is one. -/
theorem exists_joinSlots {slots : List PlayerSlot} {playerId : PlayerId}
    (hnew : ∀ slot ∈ slots, slot.occupied = true → slot.playerId ≠ playerId)
    (hfree : ∃ slot ∈ slots, slot.occupied = false) :
    ∃ slots', joinSlots slots playerId = some slots' := by
  rw [joinSlots, if_neg]
  · obtain ⟨i, hi⟩ : ∃ i, slots.findIdx? (fun slot => !slot.occupied) = some i := by
      rw [← Option.isSome_iff_exists, List.findIdx?_isSome, List.any_eq_true]
      obtain ⟨slot, hslot, hocc⟩ := hfree
      exact ⟨slot, hslot, by simp [hocc]⟩
    rw [hi]
    exact ⟨_, rfl⟩
  · intro hseated
    obtain ⟨slot, hslot, hmine⟩ := List.any_eq_true.1 hseated
    rw [Bool.and_eq_true, decide_eq_true_eq] at hmine
    exact hnew slot hslot hmine.1 hmine.2

/-- Who leaves frees a slot that he had. -/
theorem leaveSlots_eq_some {slots slots' : List PlayerSlot} {playerId : PlayerId}
    (h : leaveSlots slots playerId = some slots') :
    ∃ i old, slots[i]? = some old ∧ old.occupied = true ∧ old.playerId = playerId ∧
      slots' = slots.set i {} := by
  obtain ⟨i, hi, rfl⟩ := Option.map_eq_some_iff.1 h
  obtain ⟨hlt, hmine, -⟩ := List.findIdx?_eq_some_iff_getElem.1 hi
  rw [Bool.and_eq_true, decide_eq_true_eq] at hmine
  exact ⟨i, slots[i], List.getElem?_eq_getElem hlt, hmine.1, hmine.2, rfl⟩

/-! ### Seats -/

namespace LobbyGame

/-- The host holds the first slot. -/
def HostFirst (lobby : LobbyGame) : Prop :=
  ∃ slot, lobby.playerSlots[0]? = some slot ∧ slot.occupied = true ∧
    slot.playerId = lobby.hostPlayerId

/-- **What the seats of a waiting game always keep**: there are as many as players are allowed, the
host holds the first one, nobody has two, and whoever has one has a faction. -/
structure Seated (lobby : LobbyGame) : Prop where
  size : (lobby.playerSlots.length : ℤ) = lobby.settings.maxPlayers.toInt
  host : lobby.HostFirst
  players : DifferIn (·.playerId) lobby.playerSlots
  factionId_ne : ∀ slot ∈ lobby.playerSlots, slot.occupied = true → slot.factionId ≠ 0

/-- **The seats of a game are in order.** -/
structure SeatsInOrder (lobby : LobbyGame) : Prop where
  host : lobby.HostFirst
  players : DifferIn (·.playerId) lobby.playerSlots
  bounded : (occupiedSlotCount lobby.playerSlots : ℤ) ≤ lobby.settings.maxPlayers.toInt
  factionId_ne : ∀ slot ∈ lobby.playerSlots, slot.occupied = true → slot.factionId ≠ 0
  factions : DifferIn (·.factionId) lobby.playerSlots

/-- Only the factions can be out of order. -/
theorem Seated.inOrder_iff {lobby : LobbyGame} (h : lobby.Seated) :
    lobby.SeatsInOrder ↔ DifferIn (·.factionId) lobby.playerSlots := by
  refine ⟨fun horder => horder.factions, fun hfactions => ⟨h.host, h.players, ?_, h.factionId_ne,
    hfactions⟩⟩
  have hcount : occupiedSlotCount lobby.playerSlots ≤ lobby.playerSlots.length :=
    List.countP_le_length
  have hsize := h.size
  omega

/-- A player who joins a game is seated, and the others keep their seats. -/
theorem Seated.join {lobby : LobbyGame} (h : lobby.Seated) {playerId : PlayerId}
    {playerSlots : List PlayerSlot}
    (hjoin : joinSlots lobby.playerSlots playerId = some playerSlots) :
    ({ lobby with playerSlots } : LobbyGame).Seated := by
  obtain ⟨hnew, i, old, hi, hfree, rfl⟩ := joinSlots_eq_some hjoin
  refine ⟨?_, ?_, (differIn_take_iff h.players hi hfree rfl).2 hnew, fun slot hslot hocc => ?_⟩
  · rw [List.length_set]
    exact h.size
  · obtain ⟨slot, hslot, hocc, hhost⟩ := h.host
    refine ⟨slot, ?_, hocc, hhost⟩
    rw [getElem?_set_slot hi, if_neg]
    · exact hslot
    · rintro rfl
      rw [hi] at hslot
      obtain rfl := Option.some_inj.1 hslot
      rw [hfree] at hocc
      cases hocc
  · rcases List.mem_or_eq_of_mem_set hslot with hmem | rfl
    · exact h.factionId_ne slot hmem hocc
    · exact ofNat_count_ne_zero hi hfree h.size

/-- So do they when a player leaves who is not the host. -/
theorem Seated.leave {lobby : LobbyGame} (h : lobby.Seated) {playerId : PlayerId}
    {playerSlots : List PlayerSlot} (hguest : playerId ≠ lobby.hostPlayerId)
    (hleave : leaveSlots lobby.playerSlots playerId = some playerSlots) :
    ({ lobby with playerSlots } : LobbyGame).Seated := by
  obtain ⟨i, old, hi, -, hmine, rfl⟩ := leaveSlots_eq_some hleave
  refine ⟨?_, ?_, h.players.free i rfl, fun slot hslot hocc => ?_⟩
  · rw [List.length_set]
    exact h.size
  · obtain ⟨slot, hslot, hocc, hhost⟩ := h.host
    refine ⟨slot, ?_, hocc, hhost⟩
    rw [getElem?_set_slot hi, if_neg]
    · exact hslot
    · rintro rfl
      rw [hi] at hslot
      obtain rfl := Option.some_inj.1 hslot
      exact hguest (hmine.symm.trans hhost)
  · rcases List.mem_or_eq_of_mem_set hslot with hmem | rfl
    · exact h.factionId_ne slot hmem hocc
    · cases hocc

end LobbyGame

/-! ### Calls -/

namespace LobbyManager

/-- Every game that waits for players has a property. -/
def AllWaiting (P : LobbyGame → Prop) (m : LobbyManager) : Prop :=
  ∀ id lobby, m.games.lookup id = some lobby → lobby.state = .waitingForPlayers → P lobby

/-- **What a call can do to the games of a lobby.** -/
inductive Change (m : LobbyManager) : LobbyOp → AList (fun _ : GameId => LobbyGame) → Prop
  /-- Nothing: nobody has taken a seat in a waiting game. -/
  | nothing {op : LobbyOp} (refused : ∀ gameId playerId lobby, op = .joinGame gameId playerId →
      m.games.lookup gameId = some lobby → lobby.state = .waitingForPlayers →
        joinSlots lobby.playerSlots playerId = none) : Change m op m.games
  /-- A new game with its host. -/
  | creates {hostPlayerId : PlayerId} {settings : GameSettings} (id : GameId) (lobby : LobbyGame)
      (seated : lobby.Seated) (alone : DifferIn (·.factionId) lobby.playerSlots) :
      Change m (.createGame hostPlayerId settings) (m.games.insert id lobby)
  /-- A player takes a seat. -/
  | joins {gameId : GameId} {playerId : PlayerId} (lobby : LobbyGame)
      (playerSlots : List PlayerSlot) (found : m.games.lookup gameId = some lobby)
      (waits : lobby.state = .waitingForPlayers)
      (seat : joinSlots lobby.playerSlots playerId = some playerSlots) :
      Change m (.joinGame gameId playerId) (m.games.replace gameId { lobby with playerSlots })
  /-- A player who is not the host frees his seat. -/
  | leaves {gameId : GameId} {playerId : PlayerId} (lobby : LobbyGame)
      (playerSlots : List PlayerSlot) (found : m.games.lookup gameId = some lobby)
      (waits : lobby.state = .waitingForPlayers) (guest : playerId ≠ lobby.hostPlayerId)
      (seat : leaveSlots lobby.playerSlots playerId = some playerSlots) :
      Change m (.leaveGame gameId playerId) (m.games.replace gameId { lobby with playerSlots })
  /-- The host takes the game with him. -/
  | closes {gameId : GameId} {playerId : PlayerId} :
      Change m (.leaveGame gameId playerId) (m.games.erase gameId)
  /-- A game does not wait any more. -/
  | moves {op : LobbyOp} (gameId : GameId) (lobby lobby' : LobbyGame)
      (noJoin : ∀ gameId playerId, op ≠ .joinGame gameId playerId)
      (found : m.games.lookup gameId = some lobby) (gone : lobby'.state ≠ .waitingForPlayers) :
      Change m op (m.games.replace gameId lobby')

/-- The seats of a new game: the host is alone. -/
theorem created_seated (gameId : GameId) (settings : GameSettings) (hostPlayerId : PlayerId)
    (hmax : ¬ settings.maxPlayers < 1) :
    let host : PlayerSlot := { playerId := hostPlayerId, factionId := 1, occupied := true }
    let lobby : LobbyGame :=
      { gameId, settings, hostPlayerId
        playerSlots :=
          (List.replicate settings.maxPlayers.toInt.toNat ({} : PlayerSlot)).set 0 host }
    lobby.Seated ∧ DifferIn (·.factionId) lobby.playerSlots := by
  intro host lobby
  have hpos : 1 ≤ settings.maxPlayers.toInt := by
    rw [Int32.not_lt, Int32.le_iff_toInt_le] at hmax
    exact hmax
  have hfirst : (List.replicate settings.maxPlayers.toInt.toNat ({} : PlayerSlot))[0]? =
      some ({} : PlayerSlot) := by
    rw [List.getElem?_replicate, if_pos (by omega)]
  have hfree : ∀ slot ∈ List.replicate settings.maxPlayers.toInt.toNat ({} : PlayerSlot),
      slot.occupied = false := by
    intro slot hslot
    rw [List.eq_of_mem_replicate hslot]
  have halone : ∀ {α : Type} (f : PlayerSlot → α), DifferIn f lobby.playerSlots := by
    intro α f
    refine (differIn_take_iff ?_ hfirst rfl rfl).2 fun slot hslot hocc => ?_
    · intro i j s t hs _ hocc
      rw [hfree s (List.mem_of_getElem? hs)] at hocc
      cases hocc
    · rw [hfree slot hslot] at hocc
      cases hocc
  refine ⟨⟨?_, ⟨host, ?_, rfl, rfl⟩, halone _, fun slot hslot hocc => ?_⟩, halone _⟩
  · rw [List.length_set, List.length_replicate]
    exact Int.toNat_of_nonneg (by omega)
  · rw [getElem?_set_slot hfirst, if_pos rfl]
  · rcases List.mem_or_eq_of_mem_set hslot with hmem | rfl
    · rw [hfree slot hmem] at hocc
      cases hocc
    · exact (by decide : (1 : FactionId) ≠ 0)

/-- **What starting a game does**: nothing, or it makes a session of the seated players. -/
theorem startGame_cases {m m' : LobbyManager} {gameId : GameId} {requestingPlayerId : PlayerId}
    {draws : ℕ → TerrainType} {out : Option GameSession}
    (h : m.startGame gameId requestingPlayerId draws = .ok (m', out)) :
    (out = none ∧ m' = m) ∨ ∃ lobby session, m.games.lookup gameId = some lobby ∧
      lobby.state = .waitingForPlayers ∧
      GameSession.create lobby.settings.mapRows lobby.settings.mapCols draws = .ok session ∧
      out = some (registerPlayers session 1 lobby.playerSlots) ∧
      m'.games = m.games.replace gameId
        { lobby with session := some (registerPlayers session 1 lobby.playerSlots)
                     state := .inProgress } := by
  have hnothing : ∀ {x : Except Fault (LobbyManager × Option GameSession)}, x = .ok (m, none) →
      x = .ok (m', out) → out = none ∧ m' = m := by
    intro x hx hx'
    rw [hx] at hx'
    obtain ⟨rfl, rfl⟩ := Prod.mk.inj (Except.ok.inj hx')
    exact ⟨rfl, rfl⟩
  rw [startGame] at h
  cases hfound : m.games.lookup gameId with
  | none =>
      rw [hfound] at h
      exact Or.inl (hnothing rfl h)
  | some lobby =>
      rw [hfound] at h
      dsimp only at h
      split at h
      · exact Or.inl (hnothing rfl h)
      · split at h
        · exact Or.inl (hnothing rfl h)
        · next hwaits =>
            split at h
            · exact Or.inl (hnothing rfl h)
            · obtain ⟨session, hsession, h⟩ := Except.bind_eq_ok.1 h
              obtain ⟨rfl, rfl⟩ := Prod.mk.inj (Except.ok.inj h)
              exact Or.inr ⟨lobby, session, rfl, not_not.1 hwaits, hsession, rfl, rfl⟩

/-- **A call does one of these things to the games.** -/
theorem change_of_step {m m' : LobbyManager} {op : LobbyOp} (h : m.step op = some m') :
    m.Change op m'.games := by
  cases op with
  | createGame hostPlayerId settings =>
      rw [step, createGame] at h
      by_cases hmax : settings.maxPlayers < 1
      · simp [hmax] at h
      · simp only [hmax, if_false, Option.some.injEq] at h
        obtain rfl := h
        obtain ⟨hseated, halone⟩ := created_seated m.nextGameId settings hostPlayerId hmax
        exact .creates _ _ hseated halone
  | joinGame gameId playerId =>
      obtain rfl := Option.some_inj.1 h
      rw [joinGame]
      cases hfound : m.games.lookup gameId with
      | none =>
          refine .nothing fun g p lobby hop hl _ => ?_
          cases hop
          rw [hfound] at hl
          cases hl
      | some lobby =>
          dsimp only
          by_cases hwaits : lobby.state = .waitingForPlayers
          · rw [if_neg (not_not.2 hwaits)]
            cases hseat : joinSlots lobby.playerSlots playerId with
            | none =>
                refine .nothing fun g p lobby' hop hl _ => ?_
                cases hop
                rw [hfound] at hl
                obtain rfl := Option.some_inj.1 hl
                exact hseat
            | some playerSlots => exact .joins lobby playerSlots hfound hwaits hseat
          · rw [if_pos hwaits]
            refine .nothing fun g p lobby' hop hl hwaits' => ?_
            cases hop
            rw [hfound] at hl
            obtain rfl := Option.some_inj.1 hl
            exact absurd hwaits' hwaits
  | leaveGame gameId playerId =>
      obtain rfl := Option.some_inj.1 h
      have hnothing : m.Change (.leaveGame gameId playerId) m.games :=
        .nothing fun _ _ _ hop => by cases hop
      rw [leaveGame]
      cases hfound : m.games.lookup gameId with
      | none => exact hnothing
      | some lobby =>
          dsimp only
          by_cases hwaits : lobby.state = .waitingForPlayers
          · rw [if_neg (not_not.2 hwaits)]
            by_cases hhost : playerId = lobby.hostPlayerId
            · rw [if_pos hhost]
              exact .closes
            · rw [if_neg hhost]
              cases hseat : leaveSlots lobby.playerSlots playerId with
              | none => exact hnothing
              | some playerSlots => exact .leaves lobby playerSlots hfound hwaits hhost hseat
          · rw [if_pos hwaits]
            exact hnothing
  | startGame gameId requestingPlayerId draws =>
      have hnothing : m.Change (.startGame gameId requestingPlayerId draws) m.games :=
        .nothing fun _ _ _ hop => by cases hop
      rw [step] at h
      cases hstart : m.startGame gameId requestingPlayerId draws with
      | error e => simp [hstart] at h
      | ok out =>
          obtain ⟨m₁, out⟩ := out
          rw [hstart] at h
          obtain rfl := Option.some_inj.1 h
          obtain ⟨-, rfl⟩ | ⟨lobby, session, hfound, -, -, -, hgames⟩ := startGame_cases hstart
          · exact hnothing
          · rw [hgames]
            exact .moves gameId lobby _ (fun _ _ hop => by cases hop) hfound (by simp)
  | finishGame gameId =>
      obtain rfl := Option.some_inj.1 h
      have hnothing : m.Change (.finishGame gameId) m.games :=
        .nothing fun _ _ _ hop => by cases hop
      rw [finishGame]
      cases hfound : m.games.lookup gameId with
      | none => exact hnothing
      | some lobby =>
          dsimp only
          split
          · exact hnothing
          · exact .moves gameId lobby _ (fun _ _ hop => by cases hop) hfound (by simp)

/-- A call keeps what new games have, what taking and freeing a seat keeps. -/
theorem Change.allWaiting {P : LobbyGame → Prop} {m m' : LobbyManager} {op : LobbyOp}
    (hall : m.AllWaiting P) (hchange : m.Change op m'.games)
    (hcreate : ∀ lobby : LobbyGame, lobby.Seated → DifferIn (·.factionId) lobby.playerSlots →
    P lobby)
    (hjoin : ∀ gameId playerId lobby playerSlots, op = .joinGame gameId playerId →
      m.games.lookup gameId = some lobby → lobby.state = .waitingForPlayers →
        joinSlots lobby.playerSlots playerId = some playerSlots → P { lobby with playerSlots })
    (hleave : ∀ gameId playerId lobby playerSlots, m.games.lookup gameId = some lobby →
      lobby.state = .waitingForPlayers → playerId ≠ lobby.hostPlayerId →
        leaveSlots lobby.playerSlots playerId = some playerSlots → P { lobby with playerSlots }) :
    m'.AllWaiting P := by
  rw [AllWaiting]
  generalize m'.games = games at hchange ⊢
  cases hchange with
  | nothing refused => exact hall
  | creates id lobby seated alone =>
      exact Association.forall_insert hall fun _ => hcreate lobby seated alone
  | @joins gameId playerId lobby playerSlots found waits seat =>
      exact (Association.forall_replace_iff hall found).2 fun _ =>
        hjoin gameId playerId lobby playerSlots rfl found waits seat
  | @leaves gameId playerId lobby playerSlots found waits guest seat =>
      exact (Association.forall_replace_iff hall found).2 fun _ =>
        hleave gameId playerId lobby playerSlots found waits guest seat
  | closes => exact Association.forall_erase hall _
  | moves gameId lobby lobby' noJoin found gone =>
      exact (Association.forall_replace_iff hall found).2 fun hwaits => absurd hwaits gone

/-- **The players of waiting games stay seated.** -/
theorem seated_step {m m' : LobbyManager} {op : LobbyOp} (h : m.AllWaiting LobbyGame.Seated)
    (hstep : m.step op = some m') : m'.AllWaiting LobbyGame.Seated :=
  (change_of_step hstep).allWaiting h (fun _ hseated _ => hseated)
    (fun gameId _ lobby _ _ hfound hwaits hseat => (h gameId lobby hfound hwaits).join hseat)
    fun gameId _ lobby _ hfound hwaits hguest hseat =>
      (h gameId lobby hfound hwaits).leave hguest hseat

/-- In a new lobby nobody waits. -/
theorem allWaiting_empty (P : LobbyGame → Prop) : ({} : LobbyManager).AllWaiting P := by
  intro id lobby hlookup
  cases hlookup

/-- **In every waiting game of every lobby the host holds the first slot and no player has two.** -/
theorem seated_run {m : LobbyManager} {ops : List LobbyOp}
    (hrun : Runs.run LobbyManager.step {} ops = some m) : m.AllWaiting LobbyGame.Seated :=
  Runs.run_invariant (I := AllWaiting LobbyGame.Seated) (P := fun _ _ => True)
    (fun _ _ _ h _ hstep => seated_step h hstep) ops {} m (allWaiting_empty _)
    (Runs.along_of_forall (fun _ _ => trivial) ops _) hrun

end LobbyManager

/-- **Nobody takes a seat whose faction is taken**: when a player who has no seat takes a free one
of a waiting game, nobody has the faction that is the number of the players with him. -/
def LobbyOp.Fresh (m : LobbyManager) : LobbyOp → Prop
  | joinGame gameId playerId =>
      ∀ lobby, m.games.lookup gameId = some lobby → lobby.state = .waitingForPlayers →
        (∀ slot ∈ lobby.playerSlots, slot.occupied = true → slot.playerId ≠ playerId) →
        (∃ slot ∈ lobby.playerSlots, slot.occupied = false) →
          ∀ slot ∈ lobby.playerSlots, slot.occupied = true →
            slot.factionId ≠ UInt32.ofNat (occupiedSlotCount lobby.playerSlots + 1)
  | createGame _ _ | leaveGame _ _ | startGame _ _ _ | finishGame _ => True

namespace LobbyManager

open LobbyGame

/-- The factions of the players after one more has taken a seat. -/
theorem factions_join_iff {slots slots' : List PlayerSlot} {playerId : PlayerId}
    (h : DifferIn (·.factionId) slots) (hseat : joinSlots slots playerId = some slots') :
    DifferIn (·.factionId) slots' ↔ ∀ slot ∈ slots, slot.occupied = true →
      slot.factionId ≠ UInt32.ofNat (occupiedSlotCount slots + 1) := by
  obtain ⟨-, i, old, hi, hfree, rfl⟩ := joinSlots_eq_some hseat
  exact differIn_take_iff h hi hfree rfl

/-- **A call keeps the seats in order exactly if nobody takes a seat whose faction is taken.** -/
theorem seatsInOrder_step_iff {m m' : LobbyManager} {op : LobbyOp}
    (hseated : m.AllWaiting Seated) (horder : m.AllWaiting SeatsInOrder)
    (hstep : m.step op = some m') : m'.AllWaiting SeatsInOrder ↔ op.Fresh m := by
  have hchange := change_of_step hstep
  constructor
  · intro hafter
    cases op with
    | createGame hostPlayerId settings => trivial
    | leaveGame gameId playerId => trivial
    | startGame gameId requestingPlayerId draws => trivial
    | finishGame gameId => trivial
    | joinGame gameId playerId =>
        intro lobby hfound hwaits hnew hfree
        obtain ⟨playerSlots, hseat⟩ := exists_joinSlots hnew hfree
        have hgames : m'.games = m.games.replace gameId { lobby with playerSlots } := by
          rw [← Option.some_inj.1 hstep, joinGame, hfound]
          dsimp only
          rw [if_neg (not_not.2 hwaits), hseat]
        have hlookup : m'.games.lookup gameId = some { lobby with playerSlots } := by
          rw [hgames, Association.lookup_replace, if_pos rfl, hfound]
          rfl
        exact (factions_join_iff (horder gameId lobby hfound hwaits).factions hseat).1
          (hafter gameId _ hlookup hwaits).factions
  · intro hfresh
    refine hchange.allWaiting horder (fun lobby h halone => h.inOrder_iff.2 halone) ?_ ?_
    · rintro gameId playerId lobby playerSlots rfl hfound hwaits hseat
      have hjoined := (hseated gameId lobby hfound hwaits).join hseat
      obtain ⟨hnew, i, old, hi, hfree, -⟩ := joinSlots_eq_some hseat
      refine hjoined.inOrder_iff.2 ((factions_join_iff
        (horder gameId lobby hfound hwaits).factions hseat).2 ?_)
      exact hfresh lobby hfound hwaits hnew ⟨old, List.mem_of_getElem? hi, hfree⟩
    · intro gameId playerId lobby playerSlots hfound hwaits hguest hseat
      have hleft := (hseated gameId lobby hfound hwaits).leave hguest hseat
      obtain ⟨i, old, -, -, -, rfl⟩ := leaveSlots_eq_some hseat
      exact hleft.inOrder_iff.2 ((horder gameId lobby hfound hwaits).factions.free i rfl)

/-- **Seats are in order exactly as long as nobody takes a seat whose faction is taken**: over every
sequence of calls to a new lobby, in all games that wait for players. -/
theorem seatsInOrder_along_iff (ops : List LobbyOp) :
    Runs.Along LobbyManager.step
        (fun m op => ∀ m', m.step op = some m' → m'.AllWaiting SeatsInOrder) {} ops ↔
      Runs.Along LobbyManager.step (fun m op => op.Fresh m) {} ops := by
  refine Runs.along_congr_of_kept
    (I := fun m : LobbyManager => m.AllWaiting Seated ∧ m.AllWaiting SeatsInOrder)
    (D := fun _ _ => True) (fun m op hm _ => ?_)
    (fun m op m' hm _ hkeep hstep => ⟨seated_step hm.1 hstep, hkeep m' hstep⟩) ops {}
    ⟨allWaiting_empty _, allWaiting_empty _⟩ (Runs.along_of_forall (fun _ _ => trivial) ops _)
  constructor
  · intro hkeep
    cases hstep : m.step op with
    | none =>
        -- only a call that takes no seat can fail
        cases op with
        | joinGame gameId playerId => cases hstep
        | createGame hostPlayerId settings => trivial
        | leaveGame gameId playerId => trivial
        | startGame gameId requestingPlayerId draws => trivial
        | finishGame gameId => trivial
    | some m' => exact (seatsInOrder_step_iff hm.1 hm.2 hstep).1 (hkeep m' hstep)
  · intro hfresh m' hstep
    exact (seatsInOrder_step_iff hm.1 hm.2 hstep).2 hfresh

/-- A player leaves and another one joins. -/
def reusedSeat : List LobbyOp :=
  [.createGame 1 {}, .joinGame 1 2, .joinGame 1 3, .leaveGame 1 2, .joinGame 1 4]

/-- Two players of a game have the same faction. -/
theorem faction_given_twice :
    ∃ m lobby, Runs.run LobbyManager.step {} reusedSeat = some m ∧
      m.games.lookup 1 = some lobby ∧ lobby.state = .waitingForPlayers ∧
      lobby.playerSlots.take 3 =
        [{ playerId := 1, factionId := 1, occupied := true },
          { playerId := 4, factionId := 3, occupied := true },
          { playerId := 3, factionId := 3, occupied := true }] ∧
      ¬ lobby.SeatsInOrder := by
  refine ⟨_, _, rfl, rfl, rfl, rfl, fun horder => ?_⟩
  have hsame := horder.factions 1 2 _ _ rfl rfl rfl rfl rfl
  cases hsame

end LobbyManager

end My4X
