/-
**Sessions and the processing of submitted actions.**

A session wraps the game state with the registered players.  Actions reach the state on two ways:
`My4X.GameSession.applyAction`, which reports a status, and the action processor, which also
checks that the player is connected, handles ends of turn and production orders, and reports
events.

Main definitions:

* `My4X.GameAction`, `My4X.GameSession`, `My4X.GameSession.applyAction` — sessions;
* `My4X.GameSession.tryAdvanceTurn` — the end of a turn when every connected player is done;
* `My4X.ActionVariant`, `My4X.ActionProcessor.processAction` — the processor.

Main results:

* `My4X.GameSession.applyAction_cases` — what submitting an action can do;
* `My4X.ActionProcessor.processAction_gameAction` — a processed move, attack or capture does what
  submitting it does, for a connected player.
-/

import My4X.TurnResolver

set_option relaxedAutoImplicit false
set_option autoImplicit false

namespace My4X

/-- The identifier of a player, `std::uint32_t`. -/
abbrev PlayerId := UInt32

/-! ### Game actions -/

/-- The actions on units. -/
inductive GameAction
  | move (a : MoveAction)
  | attack (a : AttackAction)
  | capture (a : CaptureAction)
  deriving DecidableEq, Repr

namespace GameAction

/-- The index of the unit that acts. -/
def actorIndex : GameAction → ℕ
  | move a => a.unitIndex
  | attack a => a.attackerIndex
  | capture a => a.unitIndex

/-- Carries the action out and reports whether it was executed. -/
def execute (action : GameAction) (state : GameState) : Except Fault (GameState × Bool) :=
  match action with
  | move a => do
      let (state, result) ← a.execute state
      return (state, result.executed)
  | attack a => do
      let (state, result) ← a.execute state
      return (state, result.executed)
  | capture a => do
      let (state, result) ← a.execute state
      return (state, result.executed)

theorem execute_move {a : MoveAction} {s s' : GameState} {executed : Bool} :
    (move a).execute s = .ok (s', executed) ↔
      ∃ r, a.execute s = .ok (s', r) ∧ r.executed = executed :=
  Except.bind_pair_eq_ok

theorem execute_attack {a : AttackAction} {s s' : GameState} {executed : Bool} :
    (attack a).execute s = .ok (s', executed) ↔
      ∃ r, a.execute s = .ok (s', r) ∧ r.executed = executed :=
  Except.bind_pair_eq_ok

theorem execute_capture {a : CaptureAction} {s s' : GameState} {executed : Bool} :
    (capture a).execute s = .ok (s', executed) ↔
      ∃ r, a.execute s = .ok (s', r) ∧ r.executed = executed :=
  Except.bind_pair_eq_ok

/-- Whether the validation of the action accepts it; a failed access does not. -/
def Accepted (action : GameAction) (state : GameState) : Prop :=
  match action with
  | move a => a.validate state = .ok .valid
  | attack a => a.validate state = .valid
  | capture a => a.validate state = .valid

instance (action : GameAction) (state : GameState) : Decidable (action.Accepted state) :=
  match action with
  | move a => inferInstanceAs (Decidable (a.validate state = .ok .valid))
  | attack a => inferInstanceAs (Decidable (a.validate state = .valid))
  | capture a => inferInstanceAs (Decidable (a.validate state = .valid))

/-- **An action that returns was executed exactly when it was accepted, and one that was not
executed changes nothing.** -/
theorem execute_eq_ok {action : GameAction} {s s' : GameState} {executed : Bool}
    (h : action.execute s = .ok (s', executed)) :
    (executed = true ↔ action.Accepted s) ∧ (executed = false → s' = s) := by
  cases action with
  | move a =>
      obtain ⟨r, hex, rfl⟩ := GameAction.execute_move.1 h
      obtain ⟨hv, ⟨hf, hne, rfl⟩ | ⟨ht, hvalid, -⟩⟩ := MoveAction.execute_cases hex
      · simp [Accepted, hf, hv, hne]
      · simp [Accepted, ht, hv, hvalid]
  | attack a =>
      obtain ⟨r, hex, rfl⟩ := GameAction.execute_attack.1 h
      obtain ⟨hv, ⟨hf, hne, rfl⟩ | ⟨ht, hvalid, -⟩⟩ := AttackAction.execute_cases hex
      · simp [Accepted, hf, ← hv, hne]
      · simp [Accepted, ht, ← hv, hvalid]
  | capture a =>
      obtain ⟨r, hex, rfl⟩ := GameAction.execute_capture.1 h
      obtain ⟨hv, ⟨hf, hne, rfl⟩ | ⟨ht, hvalid, -⟩⟩ := CaptureAction.execute_cases hex
      · simp [Accepted, hf, ← hv, hne]
      · simp [Accepted, ht, ← hv, hvalid]

/-- An accepted action names a unit that exists. -/
theorem Accepted.exists_actor {action : GameAction} {s : GameState} (h : action.Accepted s) :
    ∃ p, s.units.get? action.actorIndex = some p := by
  cases action with
  | move a =>
      obtain ⟨p, t, hp, -⟩ := MoveAction.validate_eq_valid h
      exact ⟨p, hp⟩
  | attack a =>
      obtain ⟨p, q, hcheck⟩ := AttackAction.validate_eq_valid h
      exact ⟨p, hcheck.attacker⟩
  | capture a =>
      obtain ⟨p, i, city, htaken⟩ := CaptureAction.validate_eq_valid h
      exact ⟨p, htaken.unit⟩

end GameAction

/-! ### Sessions -/

/-- The result of submitting an action. -/
inductive ActionResult
  | success
  | invalidPlayer
  | notPlayersTurn
  | actionFailed
  deriving DecidableEq, Repr

/-- Whether a player is connected. -/
inductive PlayerStatus
  | connected
  | disconnected
  deriving DecidableEq, Repr

/-- A registered player. -/
structure PlayerInfo where
  playerId : PlayerId := 0
  factionId : FactionId := 0
  status : PlayerStatus := .connected
  endedTurn : Bool := false
  deriving DecidableEq, Repr

/-- A session: the game state and the registered players. -/
structure GameSession where
  state : GameState
  players : AList fun _ : PlayerId => PlayerInfo := ∅

namespace GameSession

/-- The constructor. -/
def create (mapRows mapCols : ℤ) (draws : ℕ → TerrainType) : Except Fault GameSession := do
  let state ← GameState.create mapRows mapCols draws
  return { state }

def setState (s : GameSession) (state : GameState) : GameSession := { s with state }

def getPlayerInfo (s : GameSession) (playerId : PlayerId) : Option PlayerInfo :=
  s.players.lookup playerId

def hasPlayer (s : GameSession) (playerId : PlayerId) : Bool := (s.getPlayerInfo playerId).isSome

/-- Registers a player under an identifier that is not taken. -/
def addPlayer (s : GameSession) (playerId : PlayerId) (factionId : FactionId) :
    GameSession × Bool :=
  if s.hasPlayer playerId then (s, false)
  else ({ s with players := s.players.insert playerId { playerId, factionId } }, true)

def removePlayer (s : GameSession) (playerId : PlayerId) : GameSession × Bool :=
  ({ s with players := s.players.erase playerId }, s.hasPlayer playerId)

/-- Changes a registered player. -/
def updatePlayer (s : GameSession) (playerId : PlayerId) (f : PlayerInfo → PlayerInfo) :
    GameSession × Bool :=
  match s.getPlayerInfo playerId with
  | none => (s, false)
  | some info => ({ s with players := s.players.replace playerId (f info) }, true)

def connectPlayer (s : GameSession) (playerId : PlayerId) : GameSession × Bool :=
  s.updatePlayer playerId fun info => { info with status := .connected }

def disconnectPlayer (s : GameSession) (playerId : PlayerId) : GameSession × Bool :=
  s.updatePlayer playerId fun info => { info with status := .disconnected }

/-- The faction of a player, zero when the player is not registered. -/
def getPlayerFaction (s : GameSession) (playerId : PlayerId) : FactionId :=
  match s.getPlayerInfo playerId with
  | none => 0
  | some info => info.factionId

/-- Whether the unit at an index is of the faction of the player. -/
def unitBelongsToPlayer (s : GameSession) (playerId : PlayerId) (unitIndex : ℕ) : Bool :=
  let faction := s.getPlayerFaction playerId
  if faction = 0 then false
  else
    match s.state.units.get? unitIndex with
    | none => false
    | some p => p.unit.factionId = faction

/-- Carries out an action that a registered player has submitted. -/
def applyAction (s : GameSession) (playerId : PlayerId) (action : GameAction) :
    Except Fault (GameSession × ActionResult) :=
  if ¬ s.hasPlayer playerId then .ok (s, .invalidPlayer)
  else do
    let (state, success) ← action.execute s.state
    return (s.setState state, if success then .success else .actionFailed)

def endTurn (s : GameSession) (playerId : PlayerId) : GameSession × Bool :=
  s.updatePlayer playerId fun info => { info with endedTurn := true }

/-- Whether every connected player has ended the turn. -/
def allPlayersEndedTurn (s : GameSession) : Bool :=
  if s.players.entries.isEmpty then false
  else s.players.entries.all fun e => e.2.status = .disconnected || e.2.endedTurn

/-- Clears the mark of every player. -/
def resetTurnFlags (s : GameSession) : GameSession :=
  { s with
    players := s.players.keys.foldl
      (fun players id =>
        match players.lookup id with
        | none => players
        | some info => players.replace id { info with endedTurn := false })
      s.players }

/-- Ends the turn when every connected player has; the resolution can throw, and leaves what it has
changed. -/
def tryAdvanceTurn (s : GameSession) : GameSession × Except Fault Bool :=
  if ¬ s.allPlayersEndedTurn then (s, .ok false)
  else
    match resolveTurn s.state none with
    | (state, .error e) => (s.setState state, .error e)
    | (state, .ok _) => ((s.setState state).resetTurnFlags, .ok true)

/-- Changing a player leaves the state as it is. -/
theorem updatePlayer_state (s : GameSession) (playerId : PlayerId)
    (f : PlayerInfo → PlayerInfo) : (s.updatePlayer playerId f).1.state = s.state := by
  rw [updatePlayer]
  cases s.getPlayerInfo playerId <;> rfl

/-- What submitting an action can do. -/
theorem applyAction_cases {s s' : GameSession} {playerId : PlayerId} {action : GameAction}
    {result : ActionResult} (h : s.applyAction playerId action = .ok (s', result)) :
    (s.hasPlayer playerId = false ∧ result = .invalidPlayer ∧ s' = s) ∨
      (s.hasPlayer playerId = true ∧ ∃ state executed,
        action.execute s.state = .ok (state, executed) ∧ s' = s.setState state ∧
        result = if executed then .success else .actionFailed) := by
  rw [applyAction] at h
  split at h
  · next hno =>
      obtain ⟨rfl, rfl⟩ := Prod.mk.inj (Except.ok.inj h)
      exact Or.inl ⟨by simpa using hno, rfl, rfl⟩
  · next hhas =>
      rw [not_not] at hhas
      obtain ⟨⟨state, executed⟩, hex, h⟩ := Except.bind_eq_ok.1 h
      obtain ⟨rfl, rfl⟩ := Prod.mk.inj (Except.ok.inj h)
      exact Or.inr ⟨hhas, state, executed, hex, rfl, rfl⟩

end GameSession

/-! ### The action processor -/

/-- The kind of an event. -/
inductive ActionEventType
  | unitMoved
  | unitAttacked
  | unitKilled
  | cityCaptured
  | factionEliminated
  | turnEnded
  | productionQueued
  | buildQueued
  deriving DecidableEq, Repr

/-- An event, for the clients. -/
structure ActionEvent where
  type : ActionEventType
  playerId : PlayerId := 0
  unitIndex : ℕ := 0
  targetUnitIndex : ℕ := 0
  row : ℤ := 0
  col : ℤ := 0
  factionId : FactionId := 0
  detail : String := ""
  deriving DecidableEq, Repr

/-- Queue a unit in a city. -/
structure ProduceUnitAction where
  cityId : CityId := 0
  templateKey : String
  productionCost : ℤ := 0
  deriving DecidableEq, Repr

/-- Queue a building in a city. -/
structure BuildAction where
  cityId : CityId := 0
  buildingType : String
  targetRow : ℤ := 0
  targetCol : ℤ := 0
  deriving DecidableEq, Repr

/-- Everything the processor handles. -/
inductive ActionVariant
  | game (action : GameAction)
  | endTurn
  | produceUnit (action : ProduceUnitAction)
  | build (action : BuildAction)
  deriving DecidableEq, Repr

/-- What the processor reports. -/
structure ProcessedActionResult where
  success : Bool := false
  errorMessage : String := ""
  events : List ActionEvent := []
  deriving DecidableEq, Repr

namespace ActionProcessor

def moveValidationMessage : MoveValidation → String
  | .valid => ""
  | .unitNotFound => "Unit not found"
  | .unitDead => "Unit is dead"
  | .noMovementRemaining => "No movement remaining"
  | .notAdjacent => "Destination is not adjacent"
  | .impassableTerrain => "Terrain is impassable"
  | .insufficientMovement => "Insufficient movement points"
  | .destinationOccupied => "Destination is occupied"
  | .blockedByZoneOfControl => "Blocked by zone of control"

def attackValidationMessage : AttackValidation → String
  | .valid => ""
  | .attackerNotFound => "Attacker not found"
  | .targetNotFound => "Target not found"
  | .attackerDead => "Attacker is dead"
  | .targetDead => "Target is dead"
  | .sameFaction => "Cannot attack own faction"
  | .notAtWar => "Not at war with target faction"
  | .outOfRange => "Target is out of range"
  | .noMovementRemaining => "No movement remaining for attack"

def captureValidationMessage : CaptureValidation → String
  | .valid => ""
  | .unitNotFound => "Unit not found"
  | .unitDead => "Unit is dead"
  | .noCityAtPosition => "No city at unit position"
  | .cityOwnedBySameFaction => "City belongs to same faction"
  | .notAtWar => "Not at war with city faction"
  | .cityIsDefended => "City is defended by enemy units"

def makeError (message : String) : ProcessedActionResult :=
  { success := false, errorMessage := message }

/-- What is reported of a move. -/
def moveReport (playerId : PlayerId) (result : MoveResult) : ProcessedActionResult :=
  if ¬ result.executed then makeError (moveValidationMessage result.validation)
  else { success := true, events := [{ type := .unitMoved, playerId }] }

/-- What is reported of an attack. -/
def attackReport (playerId : PlayerId) (result : AttackResult) : ProcessedActionResult :=
  if ¬ result.executed then makeError (attackValidationMessage result.validation)
  else
    { success := true
      events := [{ type := .unitAttacked, playerId }] ++
        (if result.combat.defenderDied then
          [{ type := .unitKilled, playerId, detail := "Defender killed" }] else []) ++
        (if result.combat.attackerDied then
          [{ type := .unitKilled, playerId, detail := "Attacker killed by counter-attack" }]
        else []) }

/-- What is reported of a capture. -/
def captureReport (playerId : PlayerId) (result : CaptureResult) : ProcessedActionResult :=
  if ¬ result.executed then makeError (captureValidationMessage result.validation)
  else
    { success := true
      events := [{ type := .cityCaptured, playerId, factionId := result.previousOwner
                   detail := result.capturedCityName }] ++
        (if result.factionEliminated then
          [{ type := .factionEliminated, playerId, factionId := result.eliminatedFactionId }]
        else []) }

/-- Carries out an action on units. -/
def processGameAction (session : GameSession) (playerId : PlayerId) :
    GameAction → Except Fault (GameSession × ProcessedActionResult)
  | .move a => do
      let (state, result) ← a.execute session.state
      return (session.setState state, moveReport playerId result)
  | .attack a => do
      let (state, result) ← a.execute session.state
      return (session.setState state, attackReport playerId result)
  | .capture a => do
      let (state, result) ← a.execute session.state
      return (session.setState state, captureReport playerId result)

/-- Ends the turn of a player, and the turn when it was the last one. -/
def processEndTurn (session : GameSession) (playerId : PlayerId) :
    GameSession × Except Fault ProcessedActionResult :=
  match session.endTurn playerId with
  | (session, false) => (session, .ok (makeError "Failed to end turn for player"))
  | (session, true) =>
      match session.tryAdvanceTurn with
      | (session, .error e) => (session, .error e)
      | (session, .ok _) =>
          (session, .ok { success := true, events := [{ type := .turnEnded, playerId }] })

/-- Whether the first city with an identifier is of the faction of the player. -/
def cityBelongsToPlayer (session : GameSession) (playerId : PlayerId) (cityId : CityId) : Bool :=
  let faction := session.getPlayerFaction playerId
  if faction = 0 then false
  else
    match session.state.findCity cityId with
    | none => false
    | some city => city.ownedBy faction

/-- Changes the build queue of the first city with an identifier. -/
def enqueueIn (session : GameSession) (cityId : CityId) (f : BuildQueue → BuildQueue) :
    Option GameSession :=
  match session.state.cities.findIdx? fun c => c.id = cityId with
  | none => none
  | some i =>
      (session.state.cities[i]?).map fun city =>
        session.setState (session.state.setCity i (city.setBuildQueue (f city.buildQueue)))

/-- Queues a unit. -/
def processProduceUnit (session : GameSession) (playerId : PlayerId) (action : ProduceUnitAction) :
    GameSession × ProcessedActionResult :=
  if ¬ cityBelongsToPlayer session playerId action.cityId then
    (session, makeError "City does not belong to player's faction")
  else
    match enqueueIn session action.cityId
        fun q => q.enqueueUnit action.templateKey action.productionCost with
    | none => (session, makeError "City not found")
    | some session =>
        (session, { success := true
                    events := [{ type := .productionQueued, playerId
                                 detail := action.templateKey }] })

/-- The factory of a building type. -/
def buildingFactory : String → Option BuildingFactory
  | "Farm" => some makeFarm
  | "Mine" => some makeMine
  | "LumberMill" => some makeLumberMill
  | "Barracks" => some makeBarracks
  | "Market" => some makeMarket
  | _ => none

/-- Queues a building. -/
def processBuild (session : GameSession) (playerId : PlayerId) (action : BuildAction) :
    GameSession × ProcessedActionResult :=
  if ¬ cityBelongsToPlayer session playerId action.cityId then
    (session, makeError "City does not belong to player's faction")
  else
    match session.state.findCity action.cityId with
    | none => (session, makeError "City not found")
    | some _ =>
        match buildingFactory action.buildingType with
        | none => (session, makeError ("Unknown building type: " ++ action.buildingType))
        | some factory =>
            match enqueueIn session action.cityId
                fun q => q.enqueue factory action.targetRow action.targetCol with
            | none => (session, makeError "City not found")
            | some session =>
                (session, { success := true
                            events := [{ type := .buildQueued, playerId, row := action.targetRow
                                         col := action.targetCol
                                         detail := action.buildingType }] })

/-- The check on the player: the error it is refused with, if it is. -/
def validatePlayer (session : GameSession) (playerId : PlayerId) : Option ProcessedActionResult :=
  match session.getPlayerInfo playerId with
  | none => some (makeError "Player not found")
  | some info =>
      if info.status ≠ .connected then some (makeError "Player is not connected") else none

/-- Processes an action that a player has submitted. -/
def processAction (session : GameSession) (playerId : PlayerId) (action : ActionVariant) :
    GameSession × Except Fault ProcessedActionResult :=
  match validatePlayer session playerId with
  | some error => (session, .ok error)
  | none =>
      match action with
      | .game action =>
          match processGameAction session playerId action with
          | .error e => (session, .error e)
          | .ok (session, result) => (session, .ok result)
      | .endTurn => processEndTurn session playerId
      | .produceUnit action =>
          let (session, result) := processProduceUnit session playerId action
          (session, .ok result)
      | .build action =>
          let (session, result) := processBuild session playerId action
          (session, .ok result)

theorem moveReport_success (playerId : PlayerId) (r : MoveResult) :
    (moveReport playerId r).success = r.executed := by
  rw [moveReport, makeError]
  cases r.executed <;> rfl

theorem attackReport_success (playerId : PlayerId) (r : AttackResult) :
    (attackReport playerId r).success = r.executed := by
  rw [attackReport, makeError]
  cases r.executed <;> rfl

theorem captureReport_success (playerId : PlayerId) (r : CaptureResult) :
    (captureReport playerId r).success = r.executed := by
  rw [captureReport, makeError]
  cases r.executed <;> rfl

/-- A processed move, attack or capture executes the action and succeeds when it was executed. -/
theorem processGameAction_eq_ok {session session' : GameSession} {playerId : PlayerId}
    {action : GameAction} {result : ProcessedActionResult}
    (h : processGameAction session playerId action = .ok (session', result)) :
    ∃ state, action.execute session.state = .ok (state, result.success) ∧
      session' = session.setState state := by
  cases action with
  | move a =>
      obtain ⟨⟨state, r⟩, hex, h⟩ := Except.bind_eq_ok.1 h
      obtain ⟨rfl, rfl⟩ := Prod.mk.inj (Except.ok.inj h)
      exact ⟨state, GameAction.execute_move.2 ⟨r, hex, (moveReport_success playerId r).symm⟩, rfl⟩
  | attack a =>
      obtain ⟨⟨state, r⟩, hex, h⟩ := Except.bind_eq_ok.1 h
      obtain ⟨rfl, rfl⟩ := Prod.mk.inj (Except.ok.inj h)
      exact ⟨state, GameAction.execute_attack.2 ⟨r, hex, (attackReport_success playerId r).symm⟩,
        rfl⟩
  | capture a =>
      obtain ⟨⟨state, r⟩, hex, h⟩ := Except.bind_eq_ok.1 h
      obtain ⟨rfl, rfl⟩ := Prod.mk.inj (Except.ok.inj h)
      exact ⟨state, GameAction.execute_capture.2 ⟨r, hex, (captureReport_success playerId r).symm⟩,
        rfl⟩

/-- An action that returns is processed. -/
theorem processGameAction_of_execute {session : GameSession} (playerId : PlayerId)
    {action : GameAction} {state : GameState} {executed : Bool}
    (h : action.execute session.state = .ok (state, executed)) :
    ∃ result, processGameAction session playerId action = .ok (session.setState state, result) ∧
      result.success = executed := by
  cases action with
  | move a =>
      obtain ⟨r, hex, rfl⟩ := GameAction.execute_move.1 h
      refine ⟨moveReport playerId r, ?_, moveReport_success playerId r⟩
      rw [processGameAction, hex]
      rfl
  | attack a =>
      obtain ⟨r, hex, rfl⟩ := GameAction.execute_attack.1 h
      refine ⟨attackReport playerId r, ?_, attackReport_success playerId r⟩
      rw [processGameAction, hex]
      rfl
  | capture a =>
      obtain ⟨r, hex, rfl⟩ := GameAction.execute_capture.1 h
      refine ⟨captureReport playerId r, ?_, captureReport_success playerId r⟩
      rw [processGameAction, hex]
      rfl

/-- **A processed move, attack or capture of a connected player does what the action does**, and it
succeeds when the action was executed. -/
theorem processAction_gameAction {session session' : GameSession} {playerId : PlayerId}
    {action : GameAction} {result : ProcessedActionResult}
    (h : processAction session playerId (.game action) = (session', .ok result)) :
    (∃ error, validatePlayer session playerId = some error ∧ result = error ∧ session' = session) ∨
      (validatePlayer session playerId = none ∧ ∃ state,
        action.execute session.state = .ok (state, result.success) ∧
        session' = session.setState state) := by
  rw [processAction] at h
  cases hv : validatePlayer session playerId with
  | some error =>
      rw [hv] at h
      obtain ⟨rfl, herr⟩ := Prod.mk.inj h
      exact Or.inl ⟨error, rfl, (Except.ok.inj herr).symm, rfl⟩
  | none =>
      simp only [hv] at h
      cases hp : processGameAction session playerId action with
      | error e => simp [hp] at h
      | ok out =>
          obtain ⟨session₁, r⟩ := out
          simp only [hp, Prod.mk.injEq, Except.ok.injEq] at h
          obtain ⟨rfl, rfl⟩ := h
          exact Or.inr ⟨rfl, processGameAction_eq_ok hp⟩

end ActionProcessor

end My4X
