/-
**Whose units a player's actions act with.**

Submitting an action is documented to check that its unit belongs to the faction of the player.
Neither entry point makes the check, so that a player can act with any unit.  This module says
when a submission is harmless all the same, and what a run of harmless submissions leaves alone.

Main definitions:

* `My4X.ActsWithOwnUnit` — a submission that succeeds has acted with a unit of the player;
* `My4X.SubmissionHarmless` — the condition under which it does;
* `My4X.Untouched` — what a run of one player's actions must leave of the others.

Main results:

* `My4X.actsWithOwnUnit_iff` — the condition is exact for every submission;
* `My4X.submissions_untouched` — **for runs: the property holds along a run exactly when every step
  meets the condition, and then the units of the other factions are untouched**;
* `My4X.foreign_unit_moved` — a player moves a unit of another faction.
-/

import My4X.Submission
import My4X.Lib.Runs

set_option relaxedAutoImplicit false
set_option autoImplicit false

namespace My4X

/-! ### Acting with one's own units -/

/-- The unit that acts is of the faction of the player. -/
def OwnUnit (session : GameSession) (playerId : PlayerId) (action : GameAction) : Prop :=
  ∃ p ∈ session.state.units.get? action.actorIndex,
    p.unit.factionId = session.getPlayerFaction playerId

instance (session : GameSession) (playerId : PlayerId) (action : GameAction) :
    Decidable (OwnUnit session playerId action) :=
  inferInstanceAs (Decidable (∃ p ∈ session.state.units.get? action.actorIndex,
    p.unit.factionId = session.getPlayerFaction playerId))

/-- A submission that succeeds has acted with a unit of the player. -/
def ActsWithOwnUnit (playerId : PlayerId) (session : GameSession)
    (request : EntryPoint × GameAction) : Prop :=
  ∀ session', submit session playerId request.1 request.2 = .ok (session', true) →
    OwnUnit session playerId request.2

/-- The unit is of the faction of the player, or the action does not get that far: the entry point
does not hand it on, its validation refuses it, or it is an attack with a unit off the map. -/
def SubmissionHarmless (playerId : PlayerId) (session : GameSession)
    (request : EntryPoint × GameAction) : Prop :=
  OwnUnit session playerId request.2 ∨ ¬ Admitted session playerId request.1 ∨
    ¬ request.2.Accepted session.state ∨ ¬ request.2.OnMap session.state

/-- **The condition is exact for every submission.** -/
theorem actsWithOwnUnit_iff (playerId : PlayerId) (session : GameSession)
    (request : EntryPoint × GameAction) :
    ActsWithOwnUnit playerId session request ↔ SubmissionHarmless playerId session request := by
  obtain ⟨entry, action⟩ := request
  rw [ActsWithOwnUnit, SubmissionHarmless]
  constructor
  · intro h
    by_cases hadm : Admitted session playerId entry
    · by_cases hex : action.Accepted session.state ∧ action.OnMap session.state
      · obtain ⟨state, hstate⟩ := (GameAction.executed_iff action session.state).2 hex
        exact Or.inl (h _ (submit_of_execute hadm hstate))
      · exact Or.inr (Or.inr (not_and_or.1 hex))
    · exact Or.inr (Or.inl hadm)
  · intro h session' hsubmit
    rcases submit_cases hsubmit with ⟨-, hfalse, -⟩ | ⟨hadm, state, hstate, -⟩
    · exact absurd hfalse (by simp)
    · have hex := (GameAction.executed_iff action session.state).1 ⟨state, hstate⟩
      rcases h with hown | hno | hno | hno
      · exact hown
      · exact absurd hadm hno
      · exact absurd hex.1 hno
      · exact absurd hex.2 hno

/-! ### What is left alone -/

/-- From one state to the other no unit of another faction has moved or lost movement, and every
city that changed has gone to the faction. -/
structure Untouched (faction : FactionId) (s s' : GameState) : Prop where
  units : ∀ q ∈ s'.units.list, q.unit.factionId ≠ faction →
    ∃ p ∈ s.units.list, p.ref = q.ref ∧ p.unit.factionId = q.unit.factionId ∧
      p.unit.coord = q.unit.coord ∧ p.unit.movementRemaining = q.unit.movementRemaining
  cities : ∀ (i : ℕ) (c' : City), s'.cities[i]? = some c' →
    s.cities[i]? = some c' ∨ c'.factionId = faction.toInt32

theorem Untouched.refl (faction : FactionId) (s : GameState) : Untouched faction s s where
  units := fun q hq _ => ⟨q, hq, rfl, rfl, rfl, rfl⟩
  cities := fun _ _ hc => Or.inl hc

theorem Untouched.trans {faction : FactionId} {s s' s'' : GameState} (h : Untouched faction s s')
    (h' : Untouched faction s' s'') : Untouched faction s s'' where
  units := by
    intro q hq hne
    obtain ⟨p, hp, href, hfac, hcoord, hmove⟩ := h'.units q hq hne
    obtain ⟨o, ho, href', hfac', hcoord', hmove'⟩ := h.units p hp (by rw [hfac]; exact hne)
    exact ⟨o, ho, href'.trans href, hfac'.trans hfac, hcoord'.trans hcoord, hmove'.trans hmove⟩
  cities := by
    intro i c' hc'
    rcases h'.cities i c' hc' with hc | hc
    · exact h.cities i c' hc
    · exact Or.inr hc

theorem Untouched.move {s s' : GameState} {a : MoveAction} {r : MoveResult} {p : OwnedUnit}
    (hex : a.execute s = .ok (s', r)) (hp : s.units.get? a.unitIndex = some p) :
    Untouched p.unit.factionId s s' := by
  obtain ⟨-, ⟨-, -, rfl⟩ | ⟨-, -, p', u, t, hp', -, hmove, rfl⟩⟩ := MoveAction.execute_cases hex
  · exact Untouched.refl _ _
  · obtain rfl := Option.some_inj.1 (hp.symm.trans hp')
    refine ⟨?_, fun _ _ hc => Or.inl hc⟩
    intro q hq hne
    rcases UnitVec.mem_set hp hq with rfl | ⟨hq, -⟩
    · exact absurd (Unit.moveTo_eq_ok hmove).2.2.2.2.2.2.1 hne
    · exact ⟨q, hq, rfl, rfl, rfl, rfl⟩

theorem Untouched.attack {s s' : GameState} {a : AttackAction} {r : AttackResult} {p : OwnedUnit}
    (hex : a.execute s = .ok (s', r)) (hp : s.units.get? a.attackerIndex = some p) :
    Untouched p.unit.factionId s s' := by
  obtain ⟨-, ⟨-, -, rfl⟩ | ⟨-, -, p', q', attacker, target, hround, rfl⟩⟩ :=
    AttackAction.execute_cases hex
  · exact Untouched.refl _ _
  · obtain rfl := Option.some_inj.1 (hp.symm.trans hround.checked.attacker)
    -- the units that are left have been there after the round
    have hleft : ∀ q ∈ (a.outcome s p q' attacker target).units.list,
        q ∈ (a.fought s attacker target).units.list := by
      intro q hq
      rw [AttackAction.outcome] at hq
      split at hq
      · exact UnitVec.mem_of_mem_erase hq
      · split at hq
        · exact UnitVec.mem_of_mem_erase hq
        · exact hq
    have hcities : (a.outcome s p q' attacker target).cities = s.cities := by
      rw [AttackAction.outcome_eq]
    refine ⟨?_, fun i c' hc => Or.inl (by rw [← hcities]; exact hc)⟩
    intro q hq hne
    have hattacker : (s.setUnit a.targetIndex target).units.get? a.attackerIndex = some p := by
      simp only [GameState.setUnit, UnitVec.get?_set, if_neg hround.checked.index_ne.symm, hp]
    rcases UnitVec.mem_set hattacker (hleft q hq) with rfl | ⟨hq, -⟩
    · exact absurd hround.same_attacker.factionId hne
    · rcases UnitVec.mem_set hround.checked.target hq with rfl | ⟨hq, -⟩
      · have hsame := hround.same_target
        exact ⟨q', UnitVec.mem_list_of_get? hround.checked.target, rfl, hsame.factionId.symm,
          hsame.coord_eq.symm, hround.target_keeps.symm⟩
      · exact ⟨q, hq, rfl, rfl, rfl, rfl⟩

theorem Untouched.capture {s s' : GameState} {a : CaptureAction} {r : CaptureResult}
    {p : OwnedUnit} (hex : a.execute s = .ok (s', r))
    (hp : s.units.get? a.unitIndex = some p) : Untouched p.unit.factionId s s' := by
  obtain ⟨-, ⟨-, -, rfl⟩ | ⟨-, -, p', i, city, htaken, rfl⟩⟩ := CaptureAction.execute_cases hex
  · exact Untouched.refl _ _
  · obtain rfl := Option.some_inj.1 (hp.symm.trans htaken.unit)
    refine ⟨(Untouched.refl _ s).units, ?_⟩
    intro j c' hc'
    simp only [GameState.setCity] at hc'
    by_cases hij : i = j
    · subst hij
      rw [List.getElem?_set_self (List.getElem?_eq_some_iff.1 htaken.get).1] at hc'
      obtain rfl := Option.some_inj.1 hc'
      exact Or.inr rfl
    · rw [List.getElem?_set_ne hij] at hc'
      exact Or.inl hc'

/-- One action of a unit leaves the units of the other factions alone. -/
theorem Untouched.execute {s s' : GameState} {action : GameAction} {executed : Bool}
    {p : OwnedUnit} (hex : action.execute s = .ok (s', executed))
    (hp : s.units.get? action.actorIndex = some p) : Untouched p.unit.factionId s s' := by
  cases action with
  | move a =>
      obtain ⟨r, hmove, -⟩ := GameAction.execute_move.1 hex
      exact Untouched.move hmove hp
  | attack a =>
      obtain ⟨r, hattack, -⟩ := GameAction.execute_attack.1 hex
      exact Untouched.attack hattack hp
  | capture a =>
      obtain ⟨r, hcapture, -⟩ := GameAction.execute_capture.1 hex
      exact Untouched.capture hcapture hp

/-! ### Runs of one player's submissions -/

/-- One submission of a run; a submission that does not return ends the run. -/
def submitStep (playerId : PlayerId) (session : GameSession) (request : EntryPoint × GameAction) :
    Option GameSession :=
  (submit session playerId request.1 request.2).toOption.map Prod.fst

theorem submitStep_eq_some {playerId : PlayerId} {session session' : GameSession}
    {request : EntryPoint × GameAction}
    (h : submitStep playerId session request = some session') :
    ∃ success, submit session playerId request.1 request.2 = .ok (session', success) := by
  rw [submitStep] at h
  cases hsubmit : submit session playerId request.1 request.2 with
  | error e => simp [hsubmit, Except.toOption] at h
  | ok out =>
      obtain ⟨session₁, success⟩ := out
      simp only [hsubmit, Except.toOption, Option.map_some, Option.some_inj] at h
      exact ⟨success, by rw [h]⟩

/-- A submission does not change the players. -/
theorem submitStep_players {playerId : PlayerId} {session session' : GameSession}
    {request : EntryPoint × GameAction}
    (h : submitStep playerId session request = some session') :
    session'.players = session.players := by
  obtain ⟨success, hsubmit⟩ := submitStep_eq_some h
  rcases submit_cases hsubmit with ⟨-, -, rfl⟩ | ⟨-, state, -, rfl⟩
  · rfl
  · rfl

/-- A submission of a run that acts with the player's own unit, if it succeeds. -/
theorem submitStep_untouched {playerId : PlayerId} {session session' : GameSession}
    {request : EntryPoint × GameAction} (hown : ActsWithOwnUnit playerId session request)
    (h : submitStep playerId session request = some session') :
    Untouched (session.getPlayerFaction playerId) session.state session'.state := by
  obtain ⟨success, hsubmit⟩ := submitStep_eq_some h
  rcases submit_cases hsubmit with ⟨-, -, rfl⟩ | ⟨-, state, hex, rfl⟩
  · exact Untouched.refl _ _
  · cases success with
    | false =>
        obtain rfl := (GameAction.execute_eq_ok hex).2 rfl
        exact Untouched.refl _ _
    | true =>
        obtain ⟨p, hp, hfaction⟩ := hown _ hsubmit
        rw [← hfaction]
        exact Untouched.execute hex hp

/-- **For runs of one player's submissions**: every success of the run has acted with a unit of the
player exactly when every submission is harmless, and then the units and cities of the others are
untouched. -/
theorem submissions_untouched (playerId : PlayerId) (session : GameSession)
    (requests : List (EntryPoint × GameAction)) :
    (Runs.Along (submitStep playerId) (ActsWithOwnUnit playerId) session requests ↔
      Runs.Along (submitStep playerId) (SubmissionHarmless playerId) session requests) ∧
    (Runs.Along (submitStep playerId) (SubmissionHarmless playerId) session requests →
      ∀ session', Runs.run (submitStep playerId) session requests = some session' →
        Untouched (session.getPlayerFaction playerId) session.state session'.state) := by
  have hiff : Runs.Along (submitStep playerId) (ActsWithOwnUnit playerId) session requests ↔
      Runs.Along (submitStep playerId) (SubmissionHarmless playerId) session requests :=
    Runs.along_congr (I := fun _ => True) (fun _ _ _ _ _ => trivial)
      (fun s r _ => actsWithOwnUnit_iff playerId s r) requests session trivial
  refine ⟨hiff, ?_⟩
  intro hharmless session' hrun
  -- the player keeps the faction, and every step leaves the others alone
  refine Runs.run_relation
    (I := fun s => s.getPlayerFaction playerId = session.getPlayerFaction playerId)
    (R := fun s s' => Untouched (session.getPlayerFaction playerId) s.state s'.state)
    (fun s => Untouched.refl _ _) ?_ ?_ ?_ requests session session' rfl (hiff.2 hharmless) hrun
  · intro s s' s'' h h'
    exact Untouched.trans h h'
  · intro s request s' hs hstep
    rw [← hs]
    unfold GameSession.getPlayerFaction GameSession.getPlayerInfo
    rw [submitStep_players hstep]
  · intro s request s' hs hown hstep
    rw [← hs]
    exact submitStep_untouched hown hstep

/-- A session of one player, of faction one, and a warrior of faction two. -/
def raidSession : GameSession where
  state := (plainField.addUnit (Unit.create 0 0 warriorTemplate 2)).1
  players := AList.insert 1 { playerId := 1, factionId := 1 } ∅

/-- **A player moves a unit of another faction**, through both entry points. -/
theorem foreign_unit_moved :
    raidSession.hasPlayer 1 = true ∧
      ¬ ActsWithOwnUnit 1 raidSession (.applyAction, .move ⟨0, 0, 1⟩) ∧
      ¬ ActsWithOwnUnit 1 raidSession (.processAction, .move ⟨0, 0, 1⟩) := by
  have hforeign : ¬ OwnUnit raidSession 1 (.move ⟨0, 0, 1⟩) := by decide
  have haccepted : (GameAction.move ⟨0, 0, 1⟩).Accepted raidSession.state := by decide
  have hmap : (GameAction.move ⟨0, 0, 1⟩).OnMap raidSession.state := by decide
  have hadm : ∀ entry, Admitted raidSession 1 entry := by
    intro entry
    cases entry with
    | applyAction => decide
    | processAction => decide
  have hnot : ∀ entry, ¬ ActsWithOwnUnit 1 raidSession (entry, .move ⟨0, 0, 1⟩) := by
    intro entry h
    rcases (actsWithOwnUnit_iff 1 raidSession (entry, .move ⟨0, 0, 1⟩)).1 h with hc | hc | hc | hc
    · exact hforeign hc
    · exact hc (hadm entry)
    · exact hc haccepted
    · exact hc hmap
  exact ⟨by decide, hnot .applyAction, hnot .processAction⟩

end My4X
