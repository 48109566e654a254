/-
**What a timeout takes away.**

A player who stays away for too long is eliminated in one of two ways: when somebody looks for
timeouts, or when the player tries to come back.  The first walks over the tracked players in the
order of a hash table; what it leaves does not depend on that order.  The second asks first whether
the player has been eliminated before, so that a player who is tracked again after an elimination is
eliminated again by the one and not by the other.

Main definitions:

* `My4X.GameState.withoutFactions` — the state without the units of some factions;
* `My4X.ReconnectionManager.eliminateAll` — the elimination of several players;
* `My4X.ReconnectionManager.TimeoutsExact` — exactly the players who are away for too long are
  eliminated;
* `My4X.ReconnectionManager.PathsAgree` — the two ways do the same to a player.

Main results:

* `My4X.ReconnectionManager.checkTimeouts_eq` — **what looking for timeouts leaves, in any order**;
* `My4X.ReconnectionManager.timeoutsExact` — it eliminates exactly who is away for too long;
* `My4X.ReconnectionManager.pathsAgree_iff` — **the two ways agree exactly when nobody who is away
  for too long has been eliminated before**.
-/

import My4X.Reconnection
import My4X.TurnFlags
import Mathlib.Data.Finset.Lattice.Lemmas

set_option relaxedAutoImplicit false
set_option autoImplicit false

namespace My4X

/-! ### Units of factions -/

/-- The units that meet a condition, in their order. -/
def UnitVec.filter (v : UnitVec) (p : OwnedUnit → Bool) : UnitVec where
  list := v.list.filter p
  nodup := v.nodup.sublist (List.filter_sublist.map _)

theorem UnitVec.ext_list {v w : UnitVec} (h : v.list = w.list) : v = w := by
  obtain ⟨list, nodup⟩ := v
  obtain ⟨list', nodup'⟩ := w
  obtain rfl : list = list' := h
  rfl

namespace GameState

/-- Whether a unit is of one of some factions. -/
def inFactions (fs : List FactionId) (u : OwnedUnit) : Bool := u.unit.factionId ∈ fs

/-- **The state without the units of some factions**, and without what the registry has of them. -/
def withoutFactions (s : GameState) (fs : List FactionId) : GameState :=
  { s with
    registry := { s.registry with
      units := s.registry.units.unregisterAll
        ((s.units.list.filter (inFactions fs)).map fun u => (u.ref, u.unit.coord)) }
    units := s.units.filter fun u => !inFactions fs u }

theorem withoutFactions_nil (s : GameState) : s.withoutFactions [] = s := by
  have hnone : s.units.list.filter (inFactions []) = [] := by
    refine List.filter_eq_nil_iff.2 fun u _ hu => ?_
    rw [inFactions, decide_eq_true_eq] at hu
    cases hu
  have hall : s.units.filter (fun u => !inFactions [] u) = s.units := by
    refine UnitVec.ext_list (List.filter_eq_self.2 fun u _ => ?_)
    simp [inFactions]
  rw [withoutFactions, hnone, hall]
  rfl

/-- Only the factions matter, not their order. -/
theorem withoutFactions_congr (s : GameState) {fs gs : List FactionId}
    (h : ∀ f, f ∈ fs ↔ f ∈ gs) : s.withoutFactions fs = s.withoutFactions gs := by
  have heq : inFactions fs = inFactions gs := funext fun u => by
    rw [inFactions, inFactions, decide_eq_decide]
    exact h _
  rw [withoutFactions, withoutFactions, heq]

/-- **One group of factions after another.** -/
theorem withoutFactions_append (s : GameState) (fs gs : List FactionId) :
    (s.withoutFactions fs).withoutFactions gs = s.withoutFactions (fs ++ gs) := by
  have hin : ∀ u, inFactions (fs ++ gs) u = (inFactions fs u || inFactions gs u) := by
    intro u
    simp [inFactions]
  have hkept : (s.units.filter fun u => !inFactions fs u).filter (fun u => !inFactions gs u) =
      s.units.filter fun u => !inFactions (fs ++ gs) u := by
    refine UnitVec.ext_list ?_
    rw [UnitVec.filter, UnitVec.filter, UnitVec.filter]
    dsimp only
    rw [List.filter_filter]
    refine List.filter_congr fun u _ => ?_
    rw [hin, Bool.not_or, Bool.and_comm]
  have hgone : (s.units.list.filter (inFactions fs) ++
      (s.units.list.filter fun u => !inFactions fs u).filter (inFactions gs)).Perm
      (s.units.list.filter (inFactions (fs ++ gs))) := by
    refine List.Perm.trans ?_ (List.filter_append_perm (inFactions fs) _)
    rw [List.filter_filter, List.filter_filter, List.filter_filter]
    refine (List.Perm.of_eq (List.filter_congr fun u _ => ?_)).append
      (List.Perm.of_eq (List.filter_congr fun u _ => ?_))
    · rw [hin]
      cases inFactions fs u <;> rfl
    · rw [hin]
      cases inFactions fs u <;> cases inFactions gs u <;> rfl
  rw [withoutFactions, withoutFactions, withoutFactions]
  dsimp only
  rw [hkept, ← OccupancyIndex.unregisterAll_append,
    show (s.units.filter fun u => !inFactions fs u).list =
      s.units.list.filter fun u => !inFactions fs u from rfl, ← List.map_append,
    OccupancyIndex.unregisterAll_perm _ (hgone.map _)]

end GameState

namespace ReconnectionManager

open GameState

/-- What the loop over the units leaves from an index down. -/
theorem foldl_eliminateUnitAt_eq (f : FactionId) (n : ℕ) :
    ∀ s : GameState, n ≤ s.units.size → ∃ units : UnitVec,
      (List.range n).reverse.foldl (eliminateUnitAt f) s = { s with
        registry := { s.registry with
          units := s.registry.units.unregisterAll
            (((s.units.list.take n).filter (inFactions [f])).map fun u => (u.ref, u.unit.coord)) }
        units } := by
  induction n with
  | zero => intro s _; exact ⟨s.units, rfl⟩
  | succ n ih =>
      intro s hn
      have hlt : n < s.units.list.length := hn
      have hget : s.units.get? n = some s.units.list[n] := List.getElem?_eq_getElem hlt
      rw [List.range_succ, List.reverse_append, List.reverse_singleton, List.singleton_append,
        List.foldl_cons, List.take_succ_eq_append_getElem hlt, List.filter_append]
      by_cases hf : s.units.list[n].unit.factionId = f
      · have hstep : eliminateUnitAt f s n = s.dropUnit n s.units.list[n] := by
          simp only [eliminateUnitAt, hget, if_pos hf]
        have htake : (s.dropUnit n s.units.list[n]).units.list.take n = s.units.list.take n := by
          rw [show (s.dropUnit n s.units.list[n]).units.list = s.units.list.eraseIdx n from rfl,
            List.eraseIdx_eq_take_drop_succ, List.take_left' (List.length_take_of_le hlt.le)]
        have hsize : n ≤ (s.dropUnit n s.units.list[n]).units.size := by
          rw [UnitVec.size, show (s.dropUnit n s.units.list[n]).units.list =
            s.units.list.eraseIdx n from rfl, List.length_eraseIdx_of_lt hlt]
          omega
        obtain ⟨units, hunits⟩ := ih _ hsize
        rw [hstep, hunits, htake, List.filter_cons_of_pos (by simp [inFactions, hf]),
          List.filter_nil, List.map_append]
        refine ⟨units, ?_⟩
        -- the unit at the index is unregistered first, but the order does not matter
        rw [OccupancyIndex.unregisterAll_perm _ List.perm_append_comm]
        rfl
      · have hstep : eliminateUnitAt f s n = s := by
          simp only [eliminateUnitAt, hget, if_neg hf]
        rw [hstep, List.filter_cons_of_neg (by simp [inFactions, hf]), List.filter_nil,
          List.append_nil]
        exact ih s hlt.le

/-- **An elimination takes away the units of the faction, and nothing else.** -/
theorem eliminatePlayerUnits_eq (s : GameState) (f : FactionId) :
    eliminatePlayerUnits s f = s.withoutFactions [f] := by
  obtain ⟨units, hloop⟩ := foldl_eliminateUnitAt_eq f s.units.size s le_rfl
  have hlist := eliminatePlayerUnits_list s f
  rw [eliminatePlayerUnits, hloop] at hlist
  have hunits : units = s.units.filter fun u => !inFactions [f] u := by
    refine UnitVec.ext_list (hlist.trans (List.filter_congr fun u _ => ?_))
    simp [inFactions]
  rw [eliminatePlayerUnits, hloop, hunits,
    show s.units.size = s.units.list.length from rfl, List.take_length]
  rfl

/-! ### Players -/

/-- Whether a player is tracked and away for too long. -/
def isTimedOut (m : ReconnectionManager) (now : ℤ) (playerId : PlayerId) : Bool :=
  match m.players.lookup playerId with
  | none => false
  | some info => m.timedOut info now

theorem isTimedOut_eq_true_iff {m : ReconnectionManager} {now : ℤ} {p : PlayerId} :
    m.isTimedOut now p = true ↔
      ∃ info, m.players.lookup p = some info ∧ m.timedOut info now = true := by
  rw [isTimedOut]
  cases m.players.lookup p with
  | none => simp
  | some info => simp

/-- The faction of a tracked player. -/
def factionOf (m : ReconnectionManager) (playerId : PlayerId) : FactionId :=
  ((m.players.lookup playerId).map (·.factionId)).getD 0

/-- **The elimination of several players.** -/
def eliminateAll (m : ReconnectionManager) (session : GameSession) (ps : List PlayerId) :
    ReconnectionManager × GameSession :=
  ({ m with
      players := Association.eraseAll m.players ps
      eliminated := m.eliminated ∪ ps.toFinset },
    { session with
      state := session.state.withoutFactions (ps.map m.factionOf)
      players := Association.eraseAll session.players ps })

theorem eliminateAll_nil (m : ReconnectionManager) (session : GameSession) :
    m.eliminateAll session [] = (m, session) := by
  rw [eliminateAll, List.map_nil, withoutFactions_nil, List.toFinset_nil, Finset.union_empty]
  rfl

/-- One player more. -/
theorem eliminateAll_concat {m : ReconnectionManager} (session : GameSession) {ps : List PlayerId}
    {p : PlayerId} {info : PlayerConnectionInfo} (hinfo : m.players.lookup p = some info) :
    (m.eliminateAll session ps).1.eliminate (m.eliminateAll session ps).2 p info =
      m.eliminateAll session (ps ++ [p]) := by
  have hfaction : m.factionOf p = info.factionId := by rw [factionOf, hinfo]; rfl
  have hset : insert p (m.eliminated ∪ ps.toFinset) = m.eliminated ∪ (ps ++ [p]).toFinset := by
    rw [List.toFinset_append, ← Finset.union_assoc, Finset.insert_eq, Finset.union_comm]
    rfl
  rw [eliminate, eliminateAll, eliminateAll, Association.eraseAll_append,
    Association.eraseAll_append, List.map_append, ← withoutFactions_append, List.map_singleton,
    hfaction, ← hset, eliminatePlayerUnits_eq]
  rfl

/-- The order of the players does not matter. -/
theorem eliminateAll_perm (m : ReconnectionManager) (session : GameSession) {ps qs : List PlayerId}
    (h : ps.Perm qs) : m.eliminateAll session ps = m.eliminateAll session qs := by
  rw [eliminateAll, eliminateAll, Association.eraseAll_perm _ h, Association.eraseAll_perm _ h,
    List.toFinset_eq_of_perm _ _ h,
    withoutFactions_congr _ fun f => (h.map m.factionOf).mem_iff]

/-- **What looking for timeouts leaves**, whatever the order in which the players are visited. -/
theorem checkTimeouts_eq (m : ReconnectionManager) (session : GameSession) (now : ℤ)
    (order : List PlayerId) : order.Nodup →
      m.checkTimeouts session now order =
        ((m.eliminateAll session (order.filter (m.isTimedOut now))).1,
          (m.eliminateAll session (order.filter (m.isTimedOut now))).2,
          order.filter (m.isTimedOut now)) := by
  -- the players are visited from the left, so the induction adds one at the right
  induction order using List.reverseRecOn with
  | nil =>
      intro _
      rw [List.filter_nil, eliminateAll_nil]
      rfl
  | append_singleton order p ih =>
      intro hnodup
      obtain ⟨hrest, -, hdisjoint⟩ := List.nodup_append.1 hnodup
      have hp : p ∉ order.filter (m.isTimedOut now) := fun hmem =>
        hdisjoint p (List.mem_of_mem_filter hmem) p (List.mem_singleton_self p) rfl
      rw [checkTimeouts, List.foldl_append, List.foldl_cons, List.foldl_nil]
      rw [show order.foldl (checkTimeoutOf now) (m, session, []) = m.checkTimeouts session now order
        from rfl, ih hrest, checkTimeoutOf, List.filter_append]
      have hlookup : (m.eliminateAll session (order.filter (m.isTimedOut now))).1.players.lookup p =
          m.players.lookup p := (Association.lookup_eraseAll p _ _).trans (if_neg hp)
      dsimp only
      rw [hlookup]
      cases hinfo : m.players.lookup p with
      | none =>
          rw [List.filter_cons_of_neg (by rw [isTimedOut, hinfo]; exact Bool.false_ne_true),
            List.filter_nil, List.append_nil]
      | some info =>
          have hsame : (m.eliminateAll session (order.filter (m.isTimedOut now))).1.timedOut
            info now =
              m.timedOut info now := rfl
          have htime : m.isTimedOut now p = m.timedOut info now := by rw [isTimedOut, hinfo]
          dsimp only
          rw [hsame]
          cases hout : m.timedOut info now with
          | false =>
              rw [if_neg Bool.false_ne_true, List.filter_cons_of_neg (by rw [htime, hout]; decide),
                List.filter_nil, List.append_nil]
          | true =>
              rw [if_pos rfl, List.filter_cons_of_pos (by rw [htime, hout]), List.filter_nil,
                eliminateAll_concat session hinfo]

/-! ### Both ways to be eliminated -/

/-- Whether a player of a faction is away for too long. -/
def losesUnits (m : ReconnectionManager) (now : ℤ) (f : FactionId) : Bool :=
  m.players.entries.any fun e => m.timedOut e.2 now && e.2.factionId = f

theorem losesUnits_eq_true_iff {m : ReconnectionManager} {now : ℤ} {f : FactionId} :
    m.losesUnits now f = true ↔
      ∃ p info, m.players.lookup p = some info ∧ m.timedOut info now = true ∧
      info.factionId = f := by
  rw [losesUnits, List.any_eq_true]
  constructor
  · rintro ⟨e, he, hlost⟩
    rw [Bool.and_eq_true, decide_eq_true_eq] at hlost
    exact ⟨e.1, e.2, AList.mem_lookup_iff.2 he, hlost.1, hlost.2⟩
  · rintro ⟨p, info, hinfo, htime, hf⟩
    refine ⟨⟨p, info⟩, AList.mem_lookup_iff.1 hinfo, ?_⟩
    rw [Bool.and_eq_true, decide_eq_true_eq]
    exact ⟨htime, hf⟩

/-- **Exactly the players who are away for too long are eliminated**: they are reported, forgotten
by the manager, marked as eliminated and removed from the session; the units of their factions are
gone; the other units are left in their order and as they are registered; and nothing else
changes. -/
structure TimeoutsExact (m : ReconnectionManager) (session : GameSession) (now : ℤ)
    (out : ReconnectionManager × GameSession × List PlayerId) : Prop where
  reported : ∀ p, p ∈ out.2.2 ↔ m.isTimedOut now p = true
  once : out.2.2.Nodup
  tracked : ∀ p, out.1.players.lookup p =
    if m.isTimedOut now p then none else m.players.lookup p
  eliminated : ∀ p, p ∈ out.1.eliminated ↔ p ∈ m.eliminated ∨ m.isTimedOut now p = true
  manager : out.1 = { m with players := out.1.players, eliminated := out.1.eliminated }
  players : ∀ p, out.2.1.getPlayerInfo p =
    if m.isTimedOut now p then none else session.getPlayerInfo p
  units : out.2.1.state.units.list =
    session.state.units.list.filter fun u => !m.losesUnits now u.unit.factionId
  registered : ∀ u ∈ out.2.1.state.units.list, ∀ row col,
    u.ref ∈ out.2.1.state.registry.unitsAt row col ↔
      u.ref ∈ session.state.registry.unitsAt row col
  coherent : session.state.Coherent → out.2.1.state.Coherent
  state : out.2.1.state = { session.state with
    registry := { session.state.registry with units := out.2.1.state.registry.units }
    units := out.2.1.state.units }

/-- The players who are found in any order of the tracked ones. -/
theorem mem_timedOut_iff {m : ReconnectionManager} {now : ℤ} {order : List PlayerId}
    (horder : order.Perm m.players.keys) {p : PlayerId} :
    p ∈ order.filter (m.isTimedOut now) ↔ m.isTimedOut now p = true := by
  rw [List.mem_filter, and_iff_right_iff_imp]
  intro htime
  obtain ⟨info, hinfo, -⟩ := isTimedOut_eq_true_iff.1 htime
  refine horder.mem_iff.2 (AList.mem_keys.2 (AList.lookup_isSome.1 ?_))
  rw [hinfo]
  rfl

/-- Their factions. -/
theorem mem_factions_timedOut_iff {m : ReconnectionManager} {now : ℤ} {order : List PlayerId}
    (horder : order.Perm m.players.keys) {f : FactionId} :
    f ∈ (order.filter (m.isTimedOut now)).map m.factionOf ↔ m.losesUnits now f = true := by
  rw [List.mem_map, losesUnits_eq_true_iff]
  constructor
  · rintro ⟨p, hp, rfl⟩
    obtain ⟨info, hinfo, htime⟩ := isTimedOut_eq_true_iff.1 ((mem_timedOut_iff horder).1 hp)
    exact ⟨p, info, hinfo, htime, by rw [factionOf, hinfo]; rfl⟩
  · rintro ⟨p, info, hinfo, htime, rfl⟩
    exact ⟨p, (mem_timedOut_iff horder).2 (isTimedOut_eq_true_iff.2 ⟨info, hinfo, htime⟩),
      by rw [factionOf, hinfo]; rfl⟩

/-- What is left of the units when players are eliminated. -/
theorem eliminateAll_units (m : ReconnectionManager) (session : GameSession) (ps : List PlayerId) :
    (m.eliminateAll session ps).2.state.units.list =
      session.state.units.list.filter fun u => !inFactions (ps.map m.factionOf) u := rfl

/-- A unit that is left is registered where it was. -/
theorem eliminateAll_registered {m : ReconnectionManager} {session : GameSession}
    {ps : List PlayerId} {u : OwnedUnit}
    (hu : u ∈ (m.eliminateAll session ps).2.state.units.list) (row col : ℤ) :
    u.ref ∈ (m.eliminateAll session ps).2.state.registry.unitsAt row col ↔
      u.ref ∈ session.state.registry.unitsAt row col := by
  rw [eliminateAll_units, List.mem_filter, Bool.not_eq_true'] at hu
  refine OccupancyIndex.mem_refsAt_unregisterAll (fun hmem => ?_) _ _
  rw [List.map_map, List.mem_map] at hmem
  obtain ⟨v, hv, href⟩ := hmem
  obtain ⟨hvmem, hvin⟩ := List.mem_filter.1 hv
  -- an address determines its unit, and this unit is of no such faction
  obtain rfl := UnitVec.eq_of_ref_eq hvmem hu.1 href
  rw [hu.2] at hvin
  cases hvin

/-- **Looking for timeouts eliminates exactly who is away for too long.** -/
theorem timeoutsExact {m : ReconnectionManager} (session : GameSession) (now : ℤ)
    {order : List PlayerId} (horder : order.Perm m.players.keys) :
    m.TimeoutsExact session now (m.checkTimeouts session now order) := by
  have hnodup : order.Nodup := horder.nodup_iff.2 m.players.keys_nodup
  have heq := checkTimeouts_eq m session now order hnodup
  have hlookup : ∀ {β : Type} (records : AList fun _ : PlayerId => β) (p : PlayerId),
      (Association.eraseAll records (order.filter (m.isTimedOut now))).lookup p =
        if m.isTimedOut now p then none else records.lookup p := by
    intro β records p
    rw [Association.lookup_eraseAll]
    exact if_congr (mem_timedOut_iff horder) rfl rfl
  have hcoherent := fun h : session.state.Coherent => h.checkTimeouts m now order
  rw [heq] at hcoherent ⊢
  refine ⟨fun p => mem_timedOut_iff horder, hnodup.filter _, hlookup m.players, fun p => ?_, rfl,
    hlookup session.players, ?_, fun u hu row col => eliminateAll_registered hu row col, hcoherent,
    rfl⟩
  · rw [eliminateAll, Finset.mem_union, List.mem_toFinset, mem_timedOut_iff horder]
  · rw [eliminateAll_units]
    refine List.filter_congr fun u _ => ?_
    rw [inFactions, Bool.eq_iff_iff, Bool.not_eq_true', Bool.not_eq_true', decide_eq_false_iff_not,
      mem_factions_timedOut_iff horder, Bool.not_eq_true]

/-- The order in which the players are visited does not matter. -/
theorem checkTimeouts_perm (m : ReconnectionManager) (session : GameSession) (now : ℤ)
    {order order' : List PlayerId} (horder : order.Perm m.players.keys)
    (horder' : order'.Perm m.players.keys) :
    (m.checkTimeouts session now order').1 = (m.checkTimeouts session now order).1 ∧
      (m.checkTimeouts session now order').2.1 = (m.checkTimeouts session now order).2.1 ∧
      (m.checkTimeouts session now order').2.2.Perm (m.checkTimeouts session now order).2.2 := by
  have hperm : (order'.filter (m.isTimedOut now)).Perm (order.filter (m.isTimedOut now)) :=
    (horder'.trans horder.symm).filter _
  rw [checkTimeouts_eq m session now order (horder.nodup_iff.2 m.players.keys_nodup),
    checkTimeouts_eq m session now order' (horder'.nodup_iff.2 m.players.keys_nodup),
    eliminateAll_perm m session hperm]
  exact ⟨rfl, rfl, hperm⟩

/-- The same for one player and one faction: what is tracked of the player, whether the player is
eliminated, the place in the session, and the units of the faction. -/
structure SameFor (p : PlayerId) (f : FactionId) (m m' : ReconnectionManager)
    (session session' : GameSession) : Prop where
  tracked : m'.players.lookup p = m.players.lookup p
  eliminated : p ∈ m'.eliminated ↔ p ∈ m.eliminated
  player : session'.getPlayerInfo p = session.getPlayerInfo p
  units : session'.state.units.list.filter (fun u => u.unit.factionId = f) =
    session.state.units.list.filter fun u => u.unit.factionId = f

/-- **The two ways agree**: looking for timeouts eliminates exactly who is away for too long, in
whatever order, and coming back too late does the same to a player. -/
structure PathsAgree (m : ReconnectionManager) (session : GameSession) (now : ℤ) : Prop where
  exact : ∀ order, order.Perm m.players.keys →
    m.TimeoutsExact session now (m.checkTimeouts session now order)
  anyOrder : ∀ order order', order.Perm m.players.keys → order'.Perm m.players.keys →
    (m.checkTimeouts session now order').1 = (m.checkTimeouts session now order).1 ∧
      (m.checkTimeouts session now order').2.1 = (m.checkTimeouts session now order).2.1 ∧
      (m.checkTimeouts session now order').2.2.Perm (m.checkTimeouts session now order).2.2
  comingBack : ∀ p info, m.players.lookup p = some info → m.timedOut info now = true →
    ∀ (codec : Codec) (order : List PlayerId), order.Perm m.players.keys →
      (m.handleReconnect codec session p info.factionId now).2.2 = .ok .timedOut ∧
        SameFor p info.factionId (m.checkTimeouts session now order).1
          (m.handleReconnect codec session p info.factionId now).1
          (m.checkTimeouts session now order).2.1
          (m.handleReconnect codec session p info.factionId now).2.1

/-- **Coming back too late is an elimination**, unless there was one before. -/
theorem handleReconnect_of_timedOut {m : ReconnectionManager} (codec : Codec)
    (session : GameSession) {p : PlayerId} {info : PlayerConnectionInfo} {now : ℤ}
    (hinfo : m.players.lookup p = some info) (htime : m.timedOut info now = true) :
    m.handleReconnect codec session p info.factionId now =
      if p ∈ m.eliminated then (m, session, .ok .timedOut)
      else ((m.eliminate session p info).1, (m.eliminate session p info).2, .ok .timedOut) := by
  have haway : ¬ info.connected = true := by
    intro hconnected
    rw [timedOut, hconnected] at htime
    cases htime
  rw [handleReconnect]
  split
  · rfl
  · rw [hinfo]
    dsimp only
    rw [if_neg (not_not.2 rfl), if_neg haway, if_pos htime]

/-- What an elimination leaves of the player and the faction. -/
theorem eliminate_sameFor {m : ReconnectionManager} (session : GameSession) {p : PlayerId}
    {info : PlayerConnectionInfo} {now : ℤ} {order : List PlayerId}
    (horder : order.Perm m.players.keys) (hinfo : m.players.lookup p = some info)
    (htime : m.timedOut info now = true) :
    SameFor p info.factionId (m.checkTimeouts session now order).1 (m.eliminate session p info).1
      (m.checkTimeouts session now order).2.1 (m.eliminate session p info).2 := by
  have hexact := timeoutsExact session now horder
  have hout := isTimedOut_eq_true_iff.2 ⟨info, hinfo, htime⟩
  have hlost := losesUnits_eq_true_iff.2 ⟨p, info, hinfo, htime, rfl⟩
  refine ⟨?_, ?_, ?_, ?_⟩
  · rw [hexact.tracked, if_pos hout, eliminate, AList.lookup_erase]
  · rw [hexact.eliminated, eliminate]
    exact iff_of_true (Finset.mem_insert_self _ _) (Or.inr hout)
  · rw [hexact.players, if_pos hout, eliminate, GameSession.getPlayerInfo_removePlayer, if_pos rfl]
  · rw [hexact.units, List.filter_filter]
    have hgone : (m.eliminate session p info).2.state.units.list =
        session.state.units.list.filter fun u => u.unit.factionId ≠ info.factionId :=
      eliminatePlayerUnits_list session.state info.factionId
    rw [hgone, List.filter_filter, List.filter_eq_nil_iff.2, List.filter_eq_nil_iff.2]
    · intro u _ hu
      rw [Bool.and_eq_true, decide_eq_true_eq, Bool.not_eq_true'] at hu
      rw [hu.1, hlost] at hu
      cases hu.2
    · intro u _ hu
      rw [Bool.and_eq_true, decide_eq_true_eq, decide_eq_true_eq] at hu
      exact hu.2 hu.1

/-- **The two ways agree exactly when nobody who is away for too long has been eliminated
before.** -/
theorem pathsAgree_iff {m : ReconnectionManager} {session : GameSession} {now : ℤ} :
    m.PathsAgree session now ↔ ∀ p, m.isTimedOut now p = true → p ∉ m.eliminated := by
  constructor
  · intro hagree p hout heliminated
    obtain ⟨info, hinfo, htime⟩ := isTimedOut_eq_true_iff.1 hout
    -- some codec is needed to ask; nothing is encoded
    have hback := (hagree.comingBack p info hinfo htime
      { serialize := fun _ => none, parse := fun _ => some {}, parse_nil := rfl } m.players.keys
      (List.Perm.refl _)).2.tracked
    rw [handleReconnect_of_timedOut _ session hinfo htime, if_pos heliminated,
      (timeoutsExact session now (List.Perm.refl _)).tracked, if_pos hout, hinfo] at hback
    cases hback
  · intro hnew
    refine ⟨fun order horder => timeoutsExact session now horder, fun order order' horder horder' =>
      checkTimeouts_perm m session now horder horder', fun p info hinfo htime codec order horder =>
        ?_⟩
    have hp := hnew p (isTimedOut_eq_true_iff.2 ⟨info, hinfo, htime⟩)
    rw [handleReconnect_of_timedOut codec session hinfo htime, if_neg hp]
    exact ⟨rfl, eliminate_sameFor session horder hinfo htime⟩

end ReconnectionManager

end My4X
