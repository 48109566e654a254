/-
**From the lobby to the session.**

When a game is started its players are registered in a new session.  They all are, each with a
faction of his own; but the factions are numbered anew in the order of the slots, whatever the lobby
has shown, and the registry of factions of the new session is empty: no player's faction is in it.

Main definitions:

* `My4X.FaithfulHandover` — the session is what the lobby has shown, with its factions registered.

Main results:

* `My4X.registerPlayers_getPlayerInfo` — who is registered, and with which faction;
* `My4X.handover_never_faithful` — **no game is handed over faithfully**, and which part fails when.
-/

import My4X.Lobby
import My4X.TurnFlags

set_option relaxedAutoImplicit false
set_option autoImplicit false

namespace My4X

/-! ### Players -/

/-- The occupied slots, in their order. -/
def seatsOf (slots : List PlayerSlot) : List PlayerSlot := slots.filter (·.occupied)

theorem mem_seatsOf {slots : List PlayerSlot} {slot : PlayerSlot} :
    slot ∈ seatsOf slots ↔ slot ∈ slots ∧ slot.occupied = true := List.mem_filter

/-- What differs in occupied slots is without repetition along them. -/
theorem DifferIn.nodup {α : Type} {f : PlayerSlot → α} :
    ∀ {slots : List PlayerSlot}, DifferIn f slots → ((seatsOf slots).map f).Nodup := by
  intro slots
  induction slots with
  | nil => intro _; exact List.nodup_nil
  | cons slot slots ih =>
      intro h
      have htail : DifferIn f slots := fun i j s t hs ht hsocc htocc heq =>
        Nat.succ.inj (h (i + 1) (j + 1) s t hs ht hsocc htocc heq)
      by_cases hocc : slot.occupied = true
      · rw [seatsOf, List.filter_cons_of_pos hocc, List.map_cons, List.nodup_cons]
        refine ⟨fun hmem => ?_, ih htail⟩
        obtain ⟨t, ht, heq⟩ := List.mem_map.1 hmem
        obtain ⟨htmem, htocc⟩ := mem_seatsOf.1 ht
        obtain ⟨j, hj⟩ := List.mem_iff_getElem?.1 htmem
        exact absurd (h 0 (j + 1) slot t rfl hj hocc htocc heq.symm) (Nat.succ_ne_zero j).symm
      · rw [seatsOf, List.filter_cons_of_neg hocc]
        exact ih htail

/-- Registering players leaves the state of the game as it is. -/
theorem registerPlayers_state :
    ∀ (slots : List PlayerSlot) (session : GameSession) (n : FactionId),
      (registerPlayers session n slots).state = session.state := by
  intro slots
  induction slots with
  | nil => intro session n; rfl
  | cons slot slots ih =>
      intro session n
      rw [registerPlayers]
      split
      · rw [ih, GameSession.addPlayer]
        split <;> rfl
      · exact ih session n

/-- A player without a seat is not registered. -/
theorem registerPlayers_of_absent {p : PlayerId} :
    ∀ (slots : List PlayerSlot) (session : GameSession) (n : FactionId),
      (∀ slot ∈ seatsOf slots, slot.playerId ≠ p) →
        (registerPlayers session n slots).getPlayerInfo p = session.getPlayerInfo p := by
  intro slots
  induction slots with
  | nil => intro session n _; rfl
  | cons slot slots ih =>
      intro session n habsent
      rw [registerPlayers]
      split
      · next hocc =>
          rw [seatsOf, List.filter_cons_of_pos hocc] at habsent
          rw [ih _ _ fun t ht => habsent t (List.mem_cons_of_mem slot ht),
            GameSession.getPlayerInfo_addPlayer, if_neg]
          exact fun hboth => habsent slot List.mem_cons_self hboth.2.symm
      · next hocc =>
          rw [seatsOf, List.filter_cons_of_neg hocc] at habsent
          exact ih session n habsent

/-- **The player of every seat is registered, with the next faction.** -/
theorem registerPlayers_getPlayerInfo :
    ∀ (slots : List PlayerSlot) (session : GameSession) (n : FactionId),
      ((seatsOf slots).map (·.playerId)).Nodup →
      (∀ slot ∈ seatsOf slots, session.getPlayerInfo slot.playerId = none) →
        ∀ (k : ℕ) (slot : PlayerSlot), (seatsOf slots)[k]? = some slot →
          (registerPlayers session n slots).getPlayerInfo slot.playerId =
            some { playerId := slot.playerId, factionId := n + UInt32.ofNat k } := by
  intro slots
  induction slots with
  | nil => intro session n _ _ k slot hslot; cases hslot
  | cons first slots ih =>
      intro session n hnodup hnew k slot hslot
      rw [registerPlayers]
      split
      · next hocc =>
          rw [seatsOf, List.filter_cons_of_pos hocc] at hnodup hnew hslot
          rw [List.map_cons, List.nodup_cons] at hnodup
          obtain ⟨hfirst, hrest⟩ := hnodup
          have hother : ∀ t ∈ seatsOf slots, t.playerId ≠ first.playerId := fun t ht heq =>
            hfirst (List.mem_map.2 ⟨t, ht, heq⟩)
          have hunknown := hnew first List.mem_cons_self
          cases k with
          | zero =>
              obtain rfl := Option.some_inj.1 hslot
              rw [registerPlayers_of_absent slots _ _ hother, GameSession.getPlayerInfo_addPlayer,
                if_pos ⟨GameSession.hasPlayer_eq_false_iff.2 hunknown, rfl⟩]
              simp
          | succ k =>
              have hadded : ∀ t ∈ seatsOf slots,
                  (session.addPlayer first.playerId n).1.getPlayerInfo t.playerId = none := by
                intro t ht
                rw [GameSession.getPlayerInfo_addPlayer, if_neg fun hboth => hother t ht hboth.2]
                exact hnew t (List.mem_cons_of_mem first ht)
              rw [ih _ (n + 1) hrest hadded k slot hslot, UInt32.ofNat_add, UInt32.add_assoc,
                UInt32.add_comm 1]
              rfl
      · next hocc =>
          rw [seatsOf, List.filter_cons_of_neg hocc] at hnodup hnew hslot
          exact ih session n hnodup hnew k slot hslot

/-- The players are those of the seats. -/
theorem hasPlayer_registerPlayers_iff {slots : List PlayerSlot} {session : GameSession}
    {n : FactionId} (hnodup : ((seatsOf slots).map (·.playerId)).Nodup)
    (hnew : ∀ p, session.getPlayerInfo p = none) (p : PlayerId) :
    (registerPlayers session n slots).hasPlayer p = true ↔
      ∃ slot ∈ seatsOf slots, slot.playerId = p := by
  rw [GameSession.hasPlayer_iff]
  constructor
  · rintro ⟨info, hinfo⟩
    by_contra habsent
    push Not at habsent
    rw [registerPlayers_of_absent slots session n habsent, hnew] at hinfo
    cases hinfo
  · rintro ⟨slot, hslot, rfl⟩
    obtain ⟨k, hk⟩ := List.mem_iff_getElem?.1 hslot
    exact ⟨_, registerPlayers_getPlayerInfo slots session n hnodup (fun _ _ => hnew _) k slot hk⟩

/-! ### The handover -/

/-- **A faithful handover**: the players of the session are those of the occupied slots, each with
the faction that the lobby has shown for him, no two with the same, and all of them registered. -/
structure FaithfulHandover (info : GameInfo) (session : GameSession) : Prop where
  players : ∀ p, session.hasPlayer p = true ↔
    ∃ slot ∈ info.playerSlots, slot.occupied = true ∧ slot.playerId = p
  shown : ∀ slot ∈ info.playerSlots, slot.occupied = true →
    session.getPlayerFaction slot.playerId = slot.factionId
  distinct : ∀ p q, session.hasPlayer p = true → session.hasPlayer q = true →
    session.getPlayerFaction p = session.getPlayerFaction q → p = q
  registered : ∀ p, session.hasPlayer p = true →
    (session.state.factionRegistry.findFaction (session.getPlayerFaction p)).isSome = true

/-- A new session has no players and no factions. -/
theorem GameSession.create_empty {mapRows mapCols : ℤ} {draws : ℕ → TerrainType}
    {session : GameSession} (h : GameSession.create mapRows mapCols draws = .ok session) :
    (∀ p, session.getPlayerInfo p = none) ∧ session.state.factionRegistry = {} := by
  obtain ⟨state, hstate, h⟩ := Except.bind_eq_ok.1 h
  obtain rfl := Except.ok.inj h
  obtain ⟨map, -, hstate⟩ := Except.bind_eq_ok.1 hstate
  obtain rfl := Except.ok.inj hstate
  exact ⟨fun _ => rfl, rfl⟩

/-- The faction of the player in a seat is numbered by the place of the seat. -/
theorem getPlayerFaction_registerPlayers {slots : List PlayerSlot} {session : GameSession}
    (hnodup : ((seatsOf slots).map (·.playerId)).Nodup)
    (hempty : ∀ p, session.getPlayerInfo p = none) {k : ℕ} {slot : PlayerSlot}
    (hk : (seatsOf slots)[k]? = some slot) :
    (registerPlayers session 1 slots).getPlayerFaction slot.playerId = UInt32.ofNat (k + 1) := by
  have hinfo := registerPlayers_getPlayerInfo slots session 1 hnodup (fun _ _ => hempty _) k slot hk
  rw [GameSession.getPlayerFaction, hinfo, UInt32.ofNat_add, UInt32.add_comm]
  rfl

/-- The seats are fewer than the numbers of factions, so no two have the same number. -/
theorem LobbyGame.Seated.number_inj {lobby : LobbyGame} (h : lobby.Seated) {j k : ℕ}
    (hj : j < (seatsOf lobby.playerSlots).length) (hk : k < (seatsOf lobby.playerSlots).length)
    (heq : UInt32.ofNat (j + 1) = UInt32.ofNat (k + 1)) : j = k := by
  have hlength : (seatsOf lobby.playerSlots).length ≤ lobby.playerSlots.length :=
    List.length_filter_le _ _
  have hsize := h.size
  have hmax := lobby.settings.maxPlayers.toInt_lt
  have hnat := congrArg UInt32.toNat heq
  rw [UInt32.toNat_ofNat', UInt32.toNat_ofNat'] at hnat
  omega

/-- **No game is handed over faithfully**: whatever the history of the lobby, the session that
starting a game returns has exactly the players of the occupied slots, no two with the same faction;
their factions are the ones shown only if these are numbered in the order of the slots; and no
faction is registered, which fails for the host already. -/
theorem handover_never_faithful (ops : List LobbyOp) (m m' : LobbyManager) (gameId : GameId)
    (requestingPlayerId : PlayerId) (draws : ℕ → TerrainType) (session : GameSession)
    (hrun : Runs.run LobbyManager.step {} ops = some m)
    (hstart : m.startGame gameId requestingPlayerId draws = .ok (m', some session)) :
    ∃ info, m.getGameInfo gameId = some info ∧ ¬ FaithfulHandover info session ∧
      (∀ p, session.hasPlayer p = true ↔
        ∃ slot ∈ info.playerSlots, slot.occupied = true ∧ slot.playerId = p) ∧
      (∀ p q, session.hasPlayer p = true → session.hasPlayer q = true →
        session.getPlayerFaction p = session.getPlayerFaction q → p = q) ∧
      ((∀ slot ∈ info.playerSlots, slot.occupied = true →
          session.getPlayerFaction slot.playerId = slot.factionId) ↔
        ∀ (k : ℕ) (slot : PlayerSlot), (seatsOf info.playerSlots)[k]? = some slot →
          slot.factionId = UInt32.ofNat (k + 1)) ∧
      ∀ p, session.state.factionRegistry.findFaction (session.getPlayerFaction p) = none := by
  obtain ⟨hnone, -⟩ | ⟨lobby, session₀, hfound, hwaits, hcreate, hsession, -⟩ :=
    LobbyManager.startGame_cases hstart
  · cases hnone
  · obtain rfl := Option.some_inj.1 hsession
    obtain ⟨hempty, hregistry⟩ := GameSession.create_empty hcreate
    have hseated := LobbyManager.seated_run hrun gameId lobby hfound hwaits
    have hnodup := hseated.players.nodup
    have hplayer := hasPlayer_registerPlayers_iff (n := 1) hnodup hempty
    have hfaction : ∀ (k : ℕ) (slot : PlayerSlot), (seatsOf lobby.playerSlots)[k]? = some slot →
        (registerPlayers session₀ 1 lobby.playerSlots).getPlayerFaction slot.playerId =
          UInt32.ofNat (k + 1) := fun _ _ => getPlayerFaction_registerPlayers hnodup hempty
    have hplayers : ∀ p, (registerPlayers session₀ 1 lobby.playerSlots).hasPlayer p = true ↔
        ∃ slot ∈ lobby.playerSlots, slot.occupied = true ∧ slot.playerId = p := by
      intro p
      rw [hplayer p]
      exact exists_congr fun slot => by rw [mem_seatsOf, and_assoc]
    have hnobody : ∀ f, (registerPlayers session₀ 1
      lobby.playerSlots).state.factionRegistry.findFaction
        f = none := by
      intro f
      rw [registerPlayers_state, hregistry]
      rfl
    refine ⟨lobby.makeInfo, by rw [LobbyManager.getGameInfo, hfound]; rfl, fun hfaithful => ?_,
      hplayers, fun p q hp hq heq => ?_, ?_, fun p => hnobody _⟩
    · obtain ⟨slot, hslot, hocc, -⟩ := hseated.host
      have hhost := (hplayers slot.playerId).2 ⟨slot, List.mem_of_getElem? hslot, hocc, rfl⟩
      have hsome := hfaithful.registered slot.playerId hhost
      rw [hnobody] at hsome
      cases hsome
    · obtain ⟨s, hs, rfl⟩ := (hplayer p).1 hp
      obtain ⟨t, ht, rfl⟩ := (hplayer q).1 hq
      obtain ⟨j, hj⟩ := List.mem_iff_getElem?.1 hs
      obtain ⟨k, hk⟩ := List.mem_iff_getElem?.1 ht
      rw [hfaction j s hj, hfaction k t hk] at heq
      obtain rfl := hseated.number_inj (List.getElem?_eq_some_iff.1 hj).1
        (List.getElem?_eq_some_iff.1 hk).1 heq
      rw [hj] at hk
      rw [Option.some_inj.1 hk]
    · constructor
      · intro hshown k slot hk
        obtain ⟨hmem, hocc⟩ := mem_seatsOf.1 (List.mem_of_getElem? hk)
        rw [← hshown slot hmem hocc]
        exact hfaction k slot hk
      · intro hnumbered slot hslot hocc
        obtain ⟨k, hk⟩ := List.mem_iff_getElem?.1 (mem_seatsOf.2 ⟨hslot, hocc⟩)
        rw [hnumbered k slot hk]
        exact hfaction k slot hk

/-- A small game of two players, which its host starts. -/
def duel : List LobbyOp := [.createGame 1 { mapSize := .small }, .joinGame 1 2]

/-- Its host has a faction that is not registered. -/
theorem duel_host_unregistered :
    ∃ m m' session, Runs.run LobbyManager.step {} duel = some m ∧
      m.startGame 1 1 (fun _ => .plains) = .ok (m', some session) ∧
      session.hasPlayer 1 = true ∧ session.getPlayerFaction 1 = 1 ∧
      session.state.factionRegistry.findFaction 1 = none ∧
      ∀ info, ¬ FaithfulHandover info session := by
  refine ⟨_, _, _, rfl, rfl, rfl, rfl, rfl, fun info h => ?_⟩
  have hregistered := h.registered 1 rfl
  cases hregistered

/-- The same game, by the theorem. -/
theorem duel_not_faithful :
    ∃ m m' session info, Runs.run LobbyManager.step {} duel = some m ∧
      m.startGame 1 1 (fun _ => .plains) = .ok (m', some session) ∧
      m.getGameInfo 1 = some info ∧ ¬ FaithfulHandover info session := by
  have hstarted : ∃ m m' session, Runs.run LobbyManager.step {} duel = some m ∧
      m.startGame 1 1 (fun _ => .plains) = .ok (m', some session) := ⟨_, _, _, rfl, rfl⟩
  obtain ⟨m, m', session, hrun, hstart⟩ := hstarted
  obtain ⟨info, hinfo, hnot, -⟩ := handover_never_faithful duel m m' 1 1 _ session hrun hstart
  exact ⟨m, m', session, info, hrun, hstart, hinfo, hnot⟩

end My4X
