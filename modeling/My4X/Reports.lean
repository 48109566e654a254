/-
**What the processor reports.**

The processor answers every action with a report: whether it succeeded, a message when it did not,
and the events for the clients when it did.  A report is honest when a failure has changed nothing.

Main definitions:

* `My4X.ProcessedActionResult.Consistent` — a failure has no events, a success has some and no
  message;
* `My4X.GameSession.Reported` — the report on a step of a session is honest.

Main results:

* `My4X.ActionProcessor.processAction_reported` — **a rejected action changes nothing and has no
  events, an accepted one has events and no message**.
-/

import My4X.Session

set_option relaxedAutoImplicit false
set_option autoImplicit false

namespace My4X

/-! ### Reports -/

/-- The parts of a report agree: a failure has no events, a success has some and no message. -/
structure ProcessedActionResult.Consistent (result : ProcessedActionResult) : Prop where
  rejected : result.success = false → result.events = []
  accepted : result.success = true → result.errorMessage = "" ∧ result.events ≠ []

/-- **The report on a step is honest**: after a failure the session is as before and there are no
events; after a success there are events, and no message. -/
structure GameSession.Reported (session session' : GameSession) (result : ProcessedActionResult) :
    Prop where
  rejected : result.success = false → session' = session ∧ result.events = []
  accepted : result.success = true → result.errorMessage = "" ∧ result.events ≠ []

namespace ActionProcessor

theorem makeError_consistent (message : String) : (makeError message).Consistent where
  rejected _ := rfl
  accepted h := absurd h Bool.false_ne_true

theorem moveReport_consistent (playerId : PlayerId) (r : MoveResult) :
    (moveReport playerId r).Consistent := by
  rw [moveReport]
  split
  · exact makeError_consistent _
  · exact ⟨fun h => absurd h (by simp), fun _ => ⟨rfl, by simp⟩⟩

theorem attackReport_consistent (playerId : PlayerId) (r : AttackResult) :
    (attackReport playerId r).Consistent := by
  rw [attackReport]
  split
  · exact makeError_consistent _
  · exact ⟨fun h => absurd h (by simp), fun _ => ⟨rfl, by simp⟩⟩

theorem captureReport_consistent (playerId : PlayerId) (r : CaptureResult) :
    (captureReport playerId r).Consistent := by
  rw [captureReport]
  split
  · exact makeError_consistent _
  · exact ⟨fun h => absurd h (by simp), fun _ => ⟨rfl, by simp⟩⟩

/-! ### The handlers -/

/-- An error with an unchanged session. -/
theorem reported_makeError (session : GameSession) (message : String) :
    session.Reported session (makeError message) where
  rejected _ := ⟨rfl, rfl⟩
  accepted h := absurd h Bool.false_ne_true

/-- A success with an event. -/
theorem reported_success (session session' : GameSession) (event : ActionEvent) :
    session.Reported session' { success := true, events := [event] } where
  rejected h := by cases h
  accepted _ := ⟨rfl, by simp⟩

/-- The report on a move, an attack or a capture. -/
theorem processGameAction_consistent {session session' : GameSession} {playerId : PlayerId}
    {action : GameAction} {result : ProcessedActionResult}
    (h : processGameAction session playerId action = .ok (session', result)) :
    result.Consistent := by
  cases action with
  | move a =>
      obtain ⟨⟨state, r⟩, -, h⟩ := Except.bind_eq_ok.1 h
      obtain ⟨-, rfl⟩ := Prod.mk.inj (Except.ok.inj h)
      exact moveReport_consistent playerId r
  | attack a =>
      obtain ⟨⟨state, r⟩, -, h⟩ := Except.bind_eq_ok.1 h
      obtain ⟨-, rfl⟩ := Prod.mk.inj (Except.ok.inj h)
      exact attackReport_consistent playerId r
  | capture a =>
      obtain ⟨⟨state, r⟩, -, h⟩ := Except.bind_eq_ok.1 h
      obtain ⟨-, rfl⟩ := Prod.mk.inj (Except.ok.inj h)
      exact captureReport_consistent playerId r

theorem processGameAction_reported {session session' : GameSession} {playerId : PlayerId}
    {action : GameAction} {result : ProcessedActionResult}
    (h : processGameAction session playerId action = .ok (session', result)) :
    session.Reported session' result := by
  have hreport := processGameAction_consistent h
  obtain ⟨state, hex, rfl⟩ := processGameAction_eq_ok h
  refine ⟨fun hfail => ⟨?_, hreport.rejected hfail⟩, hreport.accepted⟩
  -- what is not executed leaves the state as it is
  rw [(GameAction.execute_eq_ok hex).2 hfail]
  rfl

theorem processEndTurn_reported {session session' : GameSession} {playerId : PlayerId}
    {result : ProcessedActionResult}
    (h : processEndTurn session playerId = (session', .ok result)) :
    session.Reported session' result := by
  rw [processEndTurn] at h
  split at h
  · next session₁ hend =>
      -- a player who is not registered has changed nothing
      have hsame : session₁ = session := by
        rw [GameSession.endTurn, GameSession.updatePlayer] at hend
        split at hend
        · exact (Prod.mk.inj hend).1.symm
        · simp at hend
      obtain ⟨rfl, hresult⟩ := Prod.mk.inj h
      obtain rfl := Except.ok.inj hresult
      rw [hsame]
      exact reported_makeError session _
  · split at h
    · simp at h
    · obtain ⟨-, hresult⟩ := Prod.mk.inj h
      obtain rfl := Except.ok.inj hresult
      exact reported_success session session' _

theorem processProduceUnit_reported {session session' : GameSession} {playerId : PlayerId}
    {action : ProduceUnitAction} {result : ProcessedActionResult}
    (h : processProduceUnit session playerId action = (session', result)) :
    session.Reported session' result := by
  rw [processProduceUnit] at h
  split at h
  · obtain ⟨rfl, rfl⟩ := Prod.mk.inj h
    exact reported_makeError session _
  · split at h
    · obtain ⟨rfl, rfl⟩ := Prod.mk.inj h
      exact reported_makeError session _
    · obtain ⟨-, rfl⟩ := Prod.mk.inj h
      exact reported_success session session' _

theorem processBuild_reported {session session' : GameSession} {playerId : PlayerId}
    {action : BuildAction} {result : ProcessedActionResult}
    (h : processBuild session playerId action = (session', result)) :
    session.Reported session' result := by
  rw [processBuild] at h
  split at h
  · obtain ⟨rfl, rfl⟩ := Prod.mk.inj h
    exact reported_makeError session _
  · split at h
    · obtain ⟨rfl, rfl⟩ := Prod.mk.inj h
      exact reported_makeError session _
    · split at h
      · obtain ⟨rfl, rfl⟩ := Prod.mk.inj h
        exact reported_makeError session _
      · split at h
        · obtain ⟨rfl, rfl⟩ := Prod.mk.inj h
          exact reported_makeError session _
        · obtain ⟨-, rfl⟩ := Prod.mk.inj h
          exact reported_success session session' _

theorem validatePlayer_reported {session : GameSession} {playerId : PlayerId}
    {error : ProcessedActionResult} (h : validatePlayer session playerId = some error) :
    session.Reported session error := by
  rw [validatePlayer] at h
  split at h
  · obtain rfl := Option.some_inj.1 h
    exact reported_makeError session _
  · split at h
    · obtain rfl := Option.some_inj.1 h
      exact reported_makeError session _
    · simp at h

/-- **A rejected action changes nothing and has no events, an accepted one has events and no
message**, whatever the action and whoever the player. -/
theorem processAction_reported (session session' : GameSession) (playerId : PlayerId)
    (action : ActionVariant) (result : ProcessedActionResult)
    (h : processAction session playerId action = (session', .ok result)) :
    session.Reported session' result := by
  rw [processAction.eq_def] at h
  cases hvalid : validatePlayer session playerId with
  | some error =>
      rw [hvalid] at h
      obtain ⟨rfl, herror⟩ := Prod.mk.inj h
      obtain rfl := Except.ok.inj herror
      exact validatePlayer_reported hvalid
  | none =>
      rw [hvalid] at h
      cases action with
      | endTurn => exact processEndTurn_reported h
      | produceUnit a =>
          obtain ⟨rfl, hresult⟩ := Prod.mk.inj h
          obtain rfl := Except.ok.inj hresult
          exact processProduceUnit_reported rfl
      | build a =>
          obtain ⟨rfl, hresult⟩ := Prod.mk.inj h
          obtain rfl := Except.ok.inj hresult
          exact processBuild_reported rfl
      | game action =>
          dsimp only at h
          split at h
          · simp at h
          · next hprocess =>
              obtain ⟨rfl, hresult⟩ := Prod.mk.inj h
              obtain rfl := Except.ok.inj hresult
              exact processGameAction_reported hprocess

end ActionProcessor

/-- A field with a warrior and its player. -/
def warriorSession : GameSession :=
  { state := (plainField.addUnit (Unit.create 1 1 warriorTemplate 1)).1
    players := AList.insert 7 { playerId := 7, factionId := 1 } ∅ }

/-- A move that is too far, and one that is not. -/
theorem warriorSession_reported :
    (∃ result, ActionProcessor.processAction warriorSession 7
        (.game (.move { unitIndex := 0, destRow := 0, destCol := 0 })) =
          (warriorSession, .ok result) ∧
      warriorSession.Reported warriorSession result) ∧
      ∃ session' result, ActionProcessor.processAction warriorSession 7
        (.game (.move { unitIndex := 0, destRow := 1, destCol := 2 })) = (session', .ok result) ∧
      result.success = true ∧ warriorSession.Reported session' result := by
  have hrejected : ∃ result, ActionProcessor.processAction warriorSession 7
      (.game (.move { unitIndex := 0, destRow := 0, destCol := 0 })) =
        (warriorSession, .ok result) := ⟨_, rfl⟩
  have hmoved : ∃ session' result, ActionProcessor.processAction warriorSession 7
      (.game (.move { unitIndex := 0, destRow := 1, destCol := 2 })) = (session', .ok result) ∧
      result.success = true := ⟨_, _, rfl, rfl⟩
  obtain ⟨error, herror⟩ := hrejected
  obtain ⟨session', result, hprocess, hsuccess⟩ := hmoved
  exact ⟨⟨error, herror, ActionProcessor.processAction_reported _ _ 7 _ error herror⟩,
    session', result, hprocess, hsuccess,
    ActionProcessor.processAction_reported _ session' 7 _ result hprocess⟩

end My4X
