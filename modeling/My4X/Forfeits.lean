/-
**What a timeout leaves to a faction.**

A player who has been away for too long is eliminated, and the units of the faction are removed.
Its cities are not: a faction that has one counts as not eliminated, and the city goes on to collect
gold and to spawn units for it.  Without a city the faction is out of play, and stays so at the end
of every turn.

Main definitions:

* `My4X.GameState.OutOfPlay` — a faction is eliminated, and no city takes its turn for it;
* `My4X.GameState.treasury` — what a faction has in its stockpiles.

Main results:

* `My4X.GameState.OutOfPlay.resolveTurn` — **a faction that is out of play stays so**, and gains
  nothing;
* `My4X.forfeits_iff` — **a timeout eliminates a faction exactly if it has no city**.
-/

import My4X.Elimination
import My4X.Timeouts

set_option relaxedAutoImplicit false
set_option autoImplicit false

namespace My4X

namespace GameState

/-! ### Out of play -/

/-- No city takes its turn for the faction. -/
def Cityless (s : GameState) (f : FactionId) : Prop := ∀ city ∈ s.cities, city.owner ≠ f

/-- **A faction is out of play**: it is eliminated, and no city takes its turn for it. -/
structure OutOfPlay (s : GameState) (f : FactionId) : Prop where
  eliminated : CaptureAction.isFactionEliminated s f = true
  cityless : s.Cityless f

/-- What a faction has in its stockpiles. -/
def treasury (s : GameState) (f : FactionId) : List Resource :=
  (s.factionRegistry.factions.filter (·.id = f)).map (·.stockpile)

/-- A faction for which no city takes its turn has no city. -/
theorem Cityless.not_hasCity {s : GameState} {f : FactionId} (h : s.Cityless f) :
    ¬ s.HasCity f := by
  rintro ⟨city, hcity, howned⟩
  exact h city hcity (City.owner_of_ownedBy howned)

theorem outOfPlay_iff {s : GameState} {f : FactionId} :
    s.OutOfPlay f ↔ s.Cityless f ∧ ¬ s.HasUnit f := by
  constructor
  · intro h
    exact ⟨h.cityless, fun hunit => isFactionEliminated_eq_true_iff.1 h.eliminated (Or.inr hunit)⟩
  · rintro ⟨hcityless, hunit⟩
    refine ⟨isFactionEliminated_eq_true_iff.2 ?_, hcityless⟩
    rintro (hcity | hhas)
    · exact hcityless.not_hasCity hcity
    · exact hunit hhas

/-- A unit more, which is of another faction. -/
theorem hasUnit_addUnit {s : GameState} {u : Unit} {f : FactionId} (hu : u.factionId ≠ f) :
    (s.addUnit u).1.HasUnit f ↔ s.HasUnit f := by
  have hlist : (s.addUnit u).1.units.list = s.units.list ++ [⟨s.units.freshRef, u⟩] := rfl
  rw [HasUnit, HasUnit, hlist]
  constructor
  · rintro ⟨p, hp, halive, hf⟩
    rcases List.mem_append.1 hp with hp | hp
    · exact ⟨p, hp, halive, hf⟩
    · rw [List.mem_singleton.1 hp] at hf
      exact absurd hf hu
  · rintro ⟨p, hp, halive, hf⟩
    exact ⟨p, List.mem_append_left _ hp, halive, hf⟩

end GameState

/-! ### Turns -/

namespace TurnResolver

open GameState

/-- Gold that is paid to another faction. -/
theorem routeGoldToFaction_treasury {s : GameState} {city : City} {f : FactionId} (gold : ℤ)
    (hother : city.owner ≠ f) :
    (routeGoldToFaction s city.factionId gold).treasury f = s.treasury f := by
  rw [routeGoldToFaction]
  dsimp only
  cases htarget : if 0 < city.factionId then
      s.factionRegistry.factions.findIdx? fun g => g.id = city.factionId.toUInt32
    else none with
  | none => rfl
  | some i =>
      have hfound : ∃ g, s.factionRegistry.factions[i]? = some g ∧ g.id = city.owner := by
        split at htarget
        · obtain ⟨hlt, hid, -⟩ := List.findIdx?_eq_some_iff_getElem.1 htarget
          exact ⟨_, List.getElem?_eq_getElem hlt, of_decide_eq_true hid⟩
        · cases htarget
      obtain ⟨g, hg, hid⟩ := hfound
      rw [treasury, treasury]
      dsimp only
      -- the faction that is paid is in neither list
      have hmodify : ∀ (factions : List Faction) (j : ℕ) (pay : Faction → Faction),
          (∀ h : Faction, (pay h).id = h.id) → (∀ h, factions[j]? = some h → h.id ≠ f) →
          ((factions.modify j pay).filter fun h => decide (h.id = f)) =
            factions.filter fun h => decide (h.id = f) := by
        intro factions
        induction factions with
        | nil => intro j pay _ _; cases j <;> rfl
        | cons h factions ih =>
            intro j pay hpay hnot
            cases j with
            | zero =>
                have hne : ¬ h.id = f := hnot h rfl
                rw [List.modify_zero_cons, List.filter_cons_of_neg, List.filter_cons_of_neg]
                · simpa using hne
                · simpa [hpay] using hne
            | succ j =>
                rw [List.modify_succ_cons, List.filter_cons, List.filter_cons, ih j pay hpay hnot]
      rw [hmodify]
      · intro h
        rfl
      · intro h hh
        rw [hg] at hh
        obtain rfl := Option.some_inj.1 hh
        rw [hid]
        exact hother

/-- **A city takes its turn for its owner alone.** -/
theorem resolveCity_outOfPlay (unitRegistry : Option UnitTypeRegistry) {s : GameState}
    {f : FactionId} (i : ℕ) (h : s.Cityless f ∧ ¬ s.HasUnit f) :
    ((resolveCity unitRegistry s i).1.Cityless f ∧ ¬ (resolveCity unitRegistry s i).1.HasUnit f) ∧
      (resolveCity unitRegistry s i).1.treasury f = s.treasury f := by
  obtain ⟨hcityless, hunit⟩ := h
  cases hcity : s.cities[i]? with
  | none =>
      rw [resolveCity_of_none unitRegistry hcity]
      exact ⟨⟨hcityless, hunit⟩, rfl⟩
  | some city =>
      have hother := hcityless city (List.mem_of_getElem? hcity)
      refine ⟨⟨?_, ?_⟩, ?_⟩
      · obtain ⟨city', hcities, hsite, -⟩ := resolveCity_spec unitRegistry hcity
        intro c hc
        rw [hcities] at hc
        rcases List.mem_or_eq_of_mem_set hc with hc | rfl
        · exact hcityless c hc
        · rw [City.owner, hsite.factionId]
          exact hother
      · have hspawn := resolveCity_spawn unitRegistry s i
        cases hspawned : spawn? unitRegistry s i with
        | none =>
            rw [hspawned] at hspawn
            rwa [hspawn.hasUnit]
        | some u =>
            rw [hspawned] at hspawn
            obtain ⟨city', -, -, tmpl, hcity', -, -, -, -, rfl⟩ := spawn?_eq_some hspawned
            rw [hcity] at hcity'
            obtain rfl := Option.some_inj.1 hcity'
            rwa [hspawn.hasUnit, hasUnit_addUnit]
            exact hother
      · rw [treasury, (resolveCity_accounts unitRegistry hcity).1]
        exact routeGoldToFaction_treasury _ hother

end TurnResolver

namespace GameState

/-- **A faction that is out of play stays so at the end of a turn**, and gains nothing. -/
theorem OutOfPlay.resolveTurn {s : GameState} {f : FactionId} (h : s.OutOfPlay f)
    (unitRegistry : Option UnitTypeRegistry) :
    (My4X.resolveTurn s unitRegistry).1.OutOfPlay f ∧
      (My4X.resolveTurn s unitRegistry).1.treasury f = s.treasury f := by
  have hcities : ((TurnResolver.resolveCities s unitRegistry).1.Cityless f ∧
      ¬ (TurnResolver.resolveCities s unitRegistry).1.HasUnit f) ∧
        (TurnResolver.resolveCities s unitRegistry).1.treasury f = s.treasury f := by
    refine TurnResolver.resolveCitiesFrom_keeps (P := fun _ _ => True)
      (I := fun s₁ => (s₁.Cityless f ∧ ¬ s₁.HasUnit f) ∧ s₁.treasury f = s.treasury f)
      (fun s₁ i hs₁ _ => ?_) _ s ⟨outOfPlay_iff.1 h, rfl⟩
      (Runs.along_of_forall (fun _ _ => trivial) _ s)
    obtain ⟨hkept, htreasury⟩ := TurnResolver.resolveCity_outOfPlay unitRegistry i hs₁.1
    exact ⟨hkept, htreasury.trans hs₁.2⟩
  have hclose : ∀ s₁ : GameState, s₁.closeTurn.HasUnit f ↔ s₁.HasUnit f := by
    intro s₁
    rw [HasUnit, HasUnit]
    constructor
    · rintro ⟨p, hp, halive, hf⟩
      obtain ⟨q, hq, rfl⟩ := List.mem_map.1 hp
      exact ⟨q, hq, halive, hf⟩
    · rintro ⟨p, hp, halive, hf⟩
      exact ⟨_, List.mem_map.2 ⟨p, hp, rfl⟩, halive, hf⟩
  rw [outOfPlay_iff]
  refine (resolveTurn_iff (I := fun s₁ => (s₁.Cityless f ∧ ¬ s₁.HasUnit f) ∧
    s₁.treasury f = s.treasury f) (fun s₁ => ?_) s unitRegistry).2 hcities
  exact and_congr_left fun _ => and_congr_right fun _ => not_congr (hclose s₁)

/-! ### Timeouts -/

/-- Without the units of its players' factions, a faction of them has no unit. -/
theorem not_hasUnit_withoutFactions (s : GameState) {fs : List FactionId} {f : FactionId}
    (hf : f ∈ fs) : ¬ (s.withoutFactions fs).HasUnit f := by
  rintro ⟨u, hu, -, rfl⟩
  rw [withoutFactions, UnitVec.filter] at hu
  have hout := (List.mem_filter.1 hu).2
  rw [inFactions, Bool.not_eq_true', decide_eq_false_iff_not] at hout
  exact hout hf

/-- **What a timeout makes of a faction**: it is eliminated exactly if it had no city, and out of
play, at the end of every later turn, exactly if no city takes its turn for it. -/
structure Forfeited (s s' : GameState) (f : FactionId) : Prop where
  eliminated_iff : CaptureAction.isFactionEliminated s' f = true ↔ ¬ s.HasCity f
  outOfPlay_iff : s'.OutOfPlay f ↔ s.Cityless f
  later : s'.OutOfPlay f → ∀ unitRegistry, (My4X.resolveTurn s' unitRegistry).1.OutOfPlay f ∧
    (My4X.resolveTurn s' unitRegistry).1.treasury f = s'.treasury f

/-- Without the units of its players' factions, a faction has its cities left. -/
theorem forfeited_withoutFactions (s : GameState) {fs : List FactionId} {f : FactionId}
    (hf : f ∈ fs) : Forfeited s (s.withoutFactions fs) f := by
  have hunit := not_hasUnit_withoutFactions s hf
  refine ⟨?_, ?_, fun h unitRegistry => h.resolveTurn unitRegistry⟩
  · rw [isFactionEliminated_eq_true_iff, Holds, or_iff_left hunit]
    rfl
  · rw [outOfPlay_iff]
    exact and_iff_left hunit

end GameState

/-- **A timeout eliminates a faction exactly if it has no city**, whether somebody looks for
timeouts or the player comes back too late. -/
theorem forfeits_iff (m : ReconnectionManager) (session : GameSession) (now : ℤ)
    (order : List PlayerId) (p : PlayerId) (info : PlayerConnectionInfo)
    (horder : order.Perm m.players.keys) (hinfo : m.players.lookup p = some info)
    (htime : m.timedOut info now = true) :
    GameState.Forfeited session.state (m.checkTimeouts session now order).2.1.state info.factionId ∧
      (p ∉ m.eliminated → ∀ codec, GameState.Forfeited session.state
        (m.handleReconnect codec session p info.factionId now).2.1.state info.factionId) := by
  constructor
  · rw [ReconnectionManager.checkTimeouts_eq m session now order
      (horder.nodup_iff.2 m.players.keys_nodup)]
    refine GameState.forfeited_withoutFactions _
      ((ReconnectionManager.mem_factions_timedOut_iff horder).2 ?_)
    exact ReconnectionManager.losesUnits_eq_true_iff.2 ⟨p, info, hinfo, htime, rfl⟩
  · intro hnew codec
    rw [ReconnectionManager.handleReconnect_of_timedOut codec session hinfo htime, if_neg hnew,
      show (m.eliminate session p info).2.state =
        ReconnectionManager.eliminatePlayerUnits session.state info.factionId from rfl,
      ReconnectionManager.eliminatePlayerUnits_eq]
    exact GameState.forfeited_withoutFactions _ (List.mem_singleton_self _)

/-- A session whose only player has a city, and has gone away at the beginning. -/
def absentMayor : ReconnectionManager × GameSession :=
  ({ players := AList.insert 7 { playerId := 7, factionId := 1, connected := false } ∅ },
    { state := (plainField.addCity (City.create "Port" 1 1 1)).1
      players := AList.insert 7 { playerId := 7, factionId := 1, status := .disconnected } ∅ })

/-- **The player is eliminated and the faction is not.** -/
theorem absentMayor_not_eliminated :
    (absentMayor.1.checkTimeouts absentMayor.2 defaultDisconnectTimeout [7]).2.2 = [7] ∧
      CaptureAction.isFactionEliminated
        (absentMayor.1.checkTimeouts absentMayor.2 defaultDisconnectTimeout [7]).2.1.state 1 =
          false := by
  exact ⟨by decide, by decide⟩

/-- The same session, by the condition. -/
theorem absentMayor_forfeited :
    GameState.Forfeited absentMayor.2.state
        (absentMayor.1.checkTimeouts absentMayor.2 defaultDisconnectTimeout [7]).2.1.state 1 ∧
      (7 ∉ absentMayor.1.eliminated → ∀ codec, GameState.Forfeited absentMayor.2.state
        (absentMayor.1.handleReconnect codec absentMayor.2 7 1 defaultDisconnectTimeout).2.1.state
          1) :=
  forfeits_iff absentMayor.1 absentMayor.2 defaultDisconnectTimeout [7] 7
    { playerId := 7, factionId := 1, connected := false } (List.Perm.refl _) rfl (by decide)

end My4X
