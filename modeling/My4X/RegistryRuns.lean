/-
**The registry of units over whole runs.**

A game is a session together with the managers that work on it.  This module takes every operation
that touches the units, and those the players need to come and go, as one step, and concludes from
what each of them keeps what every run keeps: for every tile the registry lists the units that stand
there.

Main definitions:

* `My4X.Game`, `My4X.GameOp`, `My4X.Game.step` — the game and its operations;
* `My4X.GameState.UnitsListed` — what is to hold of the registry of units.

Main results:

* `My4X.Game.step_eq_none` — what ends a run;
* `My4X.Game.coherent_step` — one operation;
* `My4X.unitsListed_of_run` — **in every state that is reached from an empty game the registry lists
  the units that stand on a tile, each once and nothing else**.
-/

import My4X.EntityRuns
import My4X.Lib.Fallible
import My4X.Prediction
import My4X.Reconnection
import My4X.TurnUnits

set_option relaxedAutoImplicit false
set_option autoImplicit false

namespace My4X

/-! ### The game -/

/-- A session and the managers that work on it. -/
structure Game where
  session : GameSession
  reconnection : ReconnectionManager := {}
  prediction : PredictionManager := {}

/-- The operations on a game. -/
inductive GameOp
  | addUnit (unit : Unit)
  | removeUnit (index : ℕ)
  | removeDeadUnits (selectedIndex : Option ℤ)
  | entity (op : EntityOp)
  | setRelation (factionA factionB : FactionId) (relation : DiplomacyState)
  | execute (action : GameAction)
  | resolveTurn (unitRegistry : Option UnitTypeRegistry)
  | addPlayer (playerId : PlayerId) (factionId : FactionId)
  | processAction (playerId : PlayerId) (action : ActionVariant)
  | registerPlayer (playerId : PlayerId) (factionId : FactionId)
  | unregisterPlayer (playerId : PlayerId)
  | handleDisconnect (playerId : PlayerId) (now : ℤ)
  | handleReconnect (codec : Codec) (playerId : PlayerId) (factionId : FactionId) (now : ℤ)
  | checkTimeouts (now : ℤ) (order : List PlayerId)
  | predictAction (playerId : PlayerId) (action : GameAction)
  | confirmAction (sequenceId : SequenceId)
  | rejectAction (sequenceId : SequenceId)
  | reconcile (serverState : GameState)

namespace Game

def mapState (g : Game) (f : GameState → GameState) : Game :=
  { g with session := g.session.setState (f g.session.state) }

/-- The game after an operation.  A failed assertion ends the run; an exception leaves the state in
which it is thrown.  The players are visited in some order of theirs. -/
def step (g : Game) : GameOp → Option Game
  | .addUnit unit => some (g.mapState fun s => (s.addUnit unit).1)
  | .removeUnit index =>
      match g.session.state.removeUnit index with
      | .error _ => some g
      | .ok state => some { g with session := g.session.setState state }
  | .removeDeadUnits selectedIndex =>
      some (g.mapState fun s => (s.removeDeadUnits selectedIndex).state)
  | .entity op => some (g.mapState op.apply)
  | .setRelation factionA factionB relation =>
      some (g.mapState fun s =>
        { s with diplomacy := s.diplomacy.setRelation factionA factionB relation })
  | .execute action =>
      match action.execute g.session.state with
      | .error _ => none
      | .ok (state, _) => some { g with session := g.session.setState state }
  | .resolveTurn unitRegistry => some (g.mapState fun s => (My4X.resolveTurn s unitRegistry).1)
  | .addPlayer playerId factionId =>
      some { g with session := (g.session.addPlayer playerId factionId).1 }
  | .processAction playerId action =>
      match ActionProcessor.processAction g.session playerId action with
      | (_, .error .assertion) => none
      | (session, _) => some { g with session }
  | .registerPlayer playerId factionId =>
      some { g with reconnection := (g.reconnection.registerPlayer playerId factionId).1 }
  | .unregisterPlayer playerId =>
      some { g with reconnection := (g.reconnection.unregisterPlayer playerId).1 }
  | .handleDisconnect playerId now =>
      let (reconnection, session, _) := g.reconnection.handleDisconnect g.session playerId now
      some { g with session, reconnection }
  | .handleReconnect codec playerId factionId now =>
      let (reconnection, session, _) :=
        g.reconnection.handleReconnect codec g.session playerId factionId now
      some { g with session, reconnection }
  | .checkTimeouts now order =>
      if order.Perm g.reconnection.players.keys then
        let (reconnection, session, _) := g.reconnection.checkTimeouts g.session now order
        some { g with session, reconnection }
      else none
  | .predictAction playerId action =>
      match g.prediction.predictAction g.session playerId action with
      | .error _ => none
      | .ok (prediction, session, _) => some { g with session, prediction }
  | .confirmAction sequenceId =>
      some { g with prediction := (g.prediction.confirmAction sequenceId).1 }
  | .rejectAction sequenceId =>
      match g.prediction.rejectAction g.session sequenceId with
      | .error _ => none
      | .ok (prediction, session, _) => some { g with session, prediction }
  | .reconcile serverState =>
      match g.prediction.reconcile g.session serverState with
      | .error _ => none
      | .ok (prediction, session, _) => some { g with session, prediction }

end Game

/-! ### What ends a run -/

open Fallible

/-- An exception, as opposed to a failed assertion. -/
def Fault.IsException (e : Fault) : Prop := e ≠ .assertion

theorem assertion_avoids {α : Type} :
    Avoids Fault.IsException (.error .assertion : Except Fault α) :=
  Avoids.error fun h => h rfl

theorem tile_throws_nothing (m : Map) (row col : ℤ) :
    Avoids Fault.IsException (m.tile row col) := by
  rw [Map.tile]
  split
  · exact Avoids.ok _
  · exact assertion_avoids

theorem MoveAction.execute_throws_nothing (a : MoveAction) (s : GameState) :
    Avoids Fault.IsException (a.execute s) := by
  have hvalidate : Avoids Fault.IsException (a.validate s) :=
    fun e he hexception => hexception (MoveAction.validate_error he)
  refine hvalidate.bind fun v _ => ?_
  dsimp only
  split
  · exact Avoids.ok _
  · split
    · exact assertion_avoids
    · refine (tile_throws_nothing _ _ _).bind fun t _ => Avoids.bind ?_ fun u _ => Avoids.ok _
      rw [Unit.moveTo]
      split
      · exact Avoids.ok _
      · exact assertion_avoids

theorem takeDamage_throws_nothing (u : Unit) (amount : ℤ) :
    Avoids Fault.IsException (u.takeDamage amount) := by
  rw [Unit.takeDamage]
  split
  · exact Avoids.ok _
  · exact assertion_avoids

theorem removeIfDead_throws_nothing (s : GameState) (i : ℕ) :
    Avoids Fault.IsException (s.removeIfDead i) := by
  rw [GameState.removeIfDead]
  split
  · exact assertion_avoids
  · next p hp =>
      split
      · exact Avoids.ok _
      · rw [GameState.removeUnit_ok hp]
        exact Avoids.ok _

theorem AttackAction.execute_throws_nothing (a : AttackAction) (s : GameState) :
    Avoids Fault.IsException (a.execute s) := by
  rw [AttackAction.execute]
  dsimp only
  split
  · exact Avoids.ok _
  · split
    · refine Avoids.bind ?_ fun context _ => ?_
      · rw [AttackAction.combatContext]
        exact (tile_throws_nothing _ _ _).bind fun _ _ =>
          (tile_throws_nothing _ _ _).bind fun _ _ => Avoids.ok _
      · refine Avoids.bind ?_ fun out _ => Avoids.bind ?_ fun s' _ => Avoids.ok _
        · rw [applyCombat]
          exact (takeDamage_throws_nothing _ _).bind fun _ _ =>
            (takeDamage_throws_nothing _ _).bind fun _ _ => Avoids.ok _
        · unfold AttackAction.removeCasualties
          dsimp only
          split
          · exact (removeIfDead_throws_nothing _ _).bind fun _ _ => removeIfDead_throws_nothing _ _
          · exact Avoids.ok _
    · exact assertion_avoids

theorem CaptureAction.execute_throws_nothing (a : CaptureAction) (s : GameState) :
    Avoids Fault.IsException (a.execute s) := by
  rw [CaptureAction.execute]
  dsimp only
  split
  · exact Avoids.ok _
  · split
    · exact assertion_avoids
    · split
      · exact assertion_avoids
      · split
        · exact assertion_avoids
        · exact Avoids.ok _

/-- Carrying out an action can fail an assertion but throws nothing. -/
theorem GameAction.execute_throws_nothing (action : GameAction) (s : GameState) :
    Avoids Fault.IsException (action.execute s) := by
  cases action with
  | move a => exact (a.execute_throws_nothing s).bind fun _ _ => Avoids.ok _
  | attack a => exact (a.execute_throws_nothing s).bind fun _ _ => Avoids.ok _
  | capture a => exact (a.execute_throws_nothing s).bind fun _ _ => Avoids.ok _

namespace PredictionManager

theorem reapply_throws_nothing (preds : List PendingPrediction) :
    ∀ s : GameState, Avoids Fault.IsException (reapply s preds) := by
  induction preds with
  | nil => intro s; exact Avoids.ok _
  | cons pred preds ih =>
      intro s
      exact (pred.action.execute_throws_nothing s).bind fun _ _ =>
        (ih _).bind fun _ _ => Avoids.ok _

theorem predictAction_throws_nothing (m : PredictionManager) (session : GameSession)
    (playerId : PlayerId) (action : GameAction) :
    Avoids Fault.IsException (m.predictAction session playerId action) := by
  refine Avoids.bind ?_ fun out _ => ?_
  · rw [GameSession.applyAction]
    split
    · exact Avoids.ok _
    · exact (action.execute_throws_nothing _).bind fun _ _ => Avoids.ok _
  · dsimp only
    split <;> exact Avoids.ok _

theorem rejectAction_throws_nothing (m : PredictionManager) (session : GameSession)
    (sequenceId : SequenceId) :
    Avoids Fault.IsException (m.rejectAction session sequenceId) := by
  rw [rejectAction]
  split
  · exact Avoids.ok _
  · exact (reapply_throws_nothing _ _).bind fun _ _ => Avoids.ok _

theorem reconcile_throws_nothing (m : PredictionManager) (session : GameSession)
    (serverState : GameState) : Avoids Fault.IsException (m.reconcile session serverState) :=
  (reapply_throws_nothing _ _).bind fun _ _ => Avoids.ok _

end PredictionManager

/-- What ends a run: a failed assertion, or an order that is not one of the tracked players. -/
def Game.Ends (g : Game) : GameOp → Prop
  | .execute action => action.execute g.session.state = .error .assertion
  | .checkTimeouts _ order => ¬ order.Perm g.reconnection.players.keys
  | .processAction playerId action =>
      (ActionProcessor.processAction g.session playerId action).2 = .error .assertion
  | .predictAction playerId action =>
      g.prediction.predictAction g.session playerId action = .error .assertion
  | .rejectAction sequenceId => g.prediction.rejectAction g.session sequenceId = .error .assertion
  | .reconcile serverState => g.prediction.reconcile g.session serverState = .error .assertion
  | _ => False

theorem eq_error_assertion {α : Type} {x : Except Fault α} (h : Avoids Fault.IsException x)
    {e : Fault}
    (hx : x = .error e) : x = .error .assertion := by
  rw [hx, not_not.1 (h e hx)]

/-- **A run ends at a failed assertion and nowhere else**, as long as the players are visited in an
order of theirs. -/
theorem Game.step_eq_none {g : Game} {op : GameOp} (h : g.step op = none) : g.Ends op := by
  cases op with
  | execute action =>
      simp only [Game.step] at h
      split at h
      · next e hex => exact eq_error_assertion (action.execute_throws_nothing _) hex
      · simp at h
  | removeUnit index =>
      simp only [Game.step] at h
      split at h <;> simp at h
  | checkTimeouts now order =>
      simp only [Game.step] at h
      split at h
      · simp at h
      · next horder => exact horder
  | predictAction playerId action =>
      simp only [Game.step] at h
      split at h
      · next e hpred =>
          exact eq_error_assertion (g.prediction.predictAction_throws_nothing _ _ _) hpred
      · simp at h
  | rejectAction sequenceId =>
      simp only [Game.step] at h
      split at h
      · next e hrej => exact eq_error_assertion (g.prediction.rejectAction_throws_nothing _ _) hrej
      · simp at h
  | reconcile serverState =>
      simp only [Game.step] at h
      split at h
      · next e hrec => exact eq_error_assertion (g.prediction.reconcile_throws_nothing _ _) hrec
      · simp at h
  | addUnit unit => simp [Game.step] at h
  | removeDeadUnits selectedIndex => simp [Game.step] at h
  | entity op => simp [Game.step] at h
  | setRelation factionA factionB relation => simp [Game.step] at h
  | resolveTurn unitRegistry => simp [Game.step] at h
  | addPlayer playerId factionId => simp [Game.step] at h
  | processAction playerId action =>
      simp only [Game.step] at h
      split at h
      · next session hout => exact congrArg Prod.snd hout
      · simp at h
  | registerPlayer playerId factionId => simp [Game.step] at h
  | unregisterPlayer playerId => simp [Game.step] at h
  | handleDisconnect playerId now => simp [Game.step] at h
  | handleReconnect codec playerId factionId now => simp [Game.step] at h
  | confirmAction sequenceId => simp [Game.step] at h

/-! ### The other operations -/

/-- The operations on cities and buildings do not concern the units. -/
theorem EntityOp.apply_sameUnits (s : GameState) (op : EntityOp) :
    GameState.SameUnits s (op.apply s) := by
  cases op with
  | addCity city => exact ⟨rfl, rfl⟩
  | restoreCity city =>
      have heq : (EntityOp.restoreCity city).apply s = s.restoreCity city := rfl
      rw [heq, GameState.restoreCity_eq]
      exact ⟨rfl, rfl⟩
  | removeCity id =>
      cases hfind : s.cities.find? (·.id = id) with
      | none => rw [EntityOp.apply_removeCity_none hfind]; exact GameState.SameUnits.refl s
      | some c => rw [EntityOp.apply_removeCity_some hfind]; exact ⟨rfl, rfl⟩
  | addBuilding building => exact TurnResolver.addBuilding_sameUnits s building
  | restoreBuilding building =>
      have heq : (EntityOp.restoreBuilding building).apply s = s.restoreBuilding building := rfl
      rw [heq, GameState.restoreBuilding_eq]
      exact ⟨rfl, rfl⟩
  | removeBuilding id =>
      cases hfind : s.buildings.find? (·.id = id) with
      | none => rw [EntityOp.apply_removeBuilding_none hfind]; exact GameState.SameUnits.refl s
      | some b => rw [EntityOp.apply_removeBuilding_some hfind]; exact ⟨rfl, rfl⟩

namespace GameState

open ActionProcessor

theorem Coherent.processEndTurn {session : GameSession} (h : session.state.Coherent)
    (playerId : PlayerId) : (processEndTurn session playerId).1.state.Coherent := by
  have hend : (session.endTurn playerId).1.state.Coherent := by
    rw [GameSession.endTurn, GameSession.updatePlayer_state]
    exact h
  have hadvance : ∀ session : GameSession, session.state.Coherent →
      session.tryAdvanceTurn.1.state.Coherent := by
    intro session h
    have hturn := h.resolveTurn none
    rw [GameSession.tryAdvanceTurn]
    split
    · exact h
    · split
      · next state e hout => rw [hout] at hturn; exact hturn
      · next state actions hout => rw [hout] at hturn; exact hturn
  rw [ActionProcessor.processEndTurn]
  split
  · next session₁ hout => rw [hout] at hend; exact hend
  · next session₁ hout =>
      rw [hout] at hend
      have hturn := hadvance session₁ hend
      split
      · next session₂ e hadv => rw [hadv] at hturn; exact hturn
      · next session₂ b hadv => rw [hadv] at hturn; exact hturn

theorem Coherent.processAction {session : GameSession} (h : session.state.Coherent)
    (playerId : PlayerId) (action : ActionVariant) :
    (processAction session playerId action).1.state.Coherent := by
  simp only [ActionProcessor.processAction]
  split
  · exact h
  · cases action with
    | game action =>
        dsimp only
        split
        · exact h
        · next session₁ result hout =>
            obtain ⟨state, hex, rfl⟩ := processGameAction_eq_ok hout
            exact h.execute hex
    | endTurn => exact h.processEndTurn playerId
    | produceUnit action => exact (processProduceUnit_sameUnits session playerId action).coherent h
    | build action => exact (processBuild_sameUnits session playerId action).coherent h

end GameState

/-! ### Runs -/

/-- **One operation keeps coherence.** -/
theorem Game.coherent_step {g g' : Game} {op : GameOp} (h : g.session.state.Coherent)
    (hstep : g.step op = some g') : g'.session.state.Coherent := by
  cases op with
  | addUnit unit =>
      obtain rfl := Option.some_inj.1 hstep
      exact h.addUnit unit
  | removeUnit index =>
      simp only [Game.step] at hstep
      split at hstep
      · obtain rfl := Option.some_inj.1 hstep
        exact h
      · next state hremove =>
          obtain rfl := Option.some_inj.1 hstep
          exact h.removeUnit hremove
  | removeDeadUnits selectedIndex =>
      obtain rfl := Option.some_inj.1 hstep
      exact h.removeDeadUnits selectedIndex
  | entity op =>
      obtain rfl := Option.some_inj.1 hstep
      exact (op.apply_sameUnits g.session.state).coherent h
  | setRelation factionA factionB relation =>
      obtain rfl := Option.some_inj.1 hstep
      exact h.of_eq rfl rfl
  | execute action =>
      simp only [Game.step] at hstep
      split at hstep
      · simp at hstep
      · next state executed hex =>
          obtain rfl := Option.some_inj.1 hstep
          exact h.execute hex
  | resolveTurn unitRegistry =>
      obtain rfl := Option.some_inj.1 hstep
      exact h.resolveTurn unitRegistry
  | addPlayer playerId factionId =>
      obtain rfl := Option.some_inj.1 hstep
      rw [GameSession.addPlayer]
      dsimp only
      split
      · exact h
      · exact h
  | processAction playerId action =>
      have hprocess := h.processAction playerId action
      simp only [Game.step] at hstep
      split at hstep
      · simp at hstep
      · next session result hout =>
          obtain rfl := Option.some_inj.1 hstep
          rw [hout] at hprocess
          exact hprocess
  | registerPlayer playerId factionId =>
      obtain rfl := Option.some_inj.1 hstep
      exact h
  | unregisterPlayer playerId =>
      obtain rfl := Option.some_inj.1 hstep
      exact h
  | handleDisconnect playerId now =>
      obtain rfl := Option.some_inj.1 hstep
      exact h.handleDisconnect g.reconnection playerId now
  | handleReconnect codec playerId factionId now =>
      obtain rfl := Option.some_inj.1 hstep
      exact h.handleReconnect g.reconnection codec playerId factionId now
  | checkTimeouts now order =>
      simp only [Game.step] at hstep
      split at hstep
      · obtain rfl := Option.some_inj.1 hstep
        exact h.checkTimeouts g.reconnection now order
      · simp at hstep
  | predictAction playerId action =>
      simp only [Game.step] at hstep
      split at hstep
      · simp at hstep
      · next prediction session id hpred =>
          obtain rfl := Option.some_inj.1 hstep
          exact h.predict hpred
  | confirmAction sequenceId =>
      obtain rfl := Option.some_inj.1 hstep
      exact h
  | rejectAction sequenceId =>
      simp only [Game.step] at hstep
      split at hstep
      · simp at hstep
      · next prediction session found hrej =>
          obtain rfl := Option.some_inj.1 hstep
          exact h.reject hrej
  | reconcile serverState =>
      simp only [Game.step] at hstep
      split at hstep
      · simp at hstep
      · next prediction session n hrec =>
          obtain rfl := Option.some_inj.1 hstep
          exact h.reconcile hrec

/-- **The registry lists the units**: each unit once at its tile and nothing else, and it stores no
empty list. -/
structure GameState.UnitsListed (s : GameState) : Prop where
  once : ∀ p ∈ s.units.list, (s.registry.unitsAt p.unit.row p.unit.col).count p.ref = 1
  only : ∀ row col, ∀ r ∈ s.registry.unitsAt row col,
    ∃ p ∈ s.units.list, p.ref = r ∧ p.unit.row = row ∧ p.unit.col = col
  stored : ∀ row col, s.registry.units.lists ⟨row, col⟩ ≠ some []

theorem GameState.Coherent.unitsListed {s : GameState} (h : s.Coherent) : s.UnitsListed where
  once := by
    intro p hp
    have hentry : (p.ref, p.unit.coord) ∈ s.units.entries := UnitVec.mem_entries.2 ⟨p.unit, hp, rfl⟩
    exact List.count_eq_one_of_mem (h.nodup_refsAt _) ((h.mem_refsAt _ _).2 hentry)
  only := by
    intro row col r hr
    obtain ⟨u, hu, hrow, hcol⟩ := h.deref_of_mem_unitsAt hr
    exact ⟨⟨r, u⟩, UnitVec.deref_eq_some.1 hu, rfl, hrow, hcol⟩
  stored := fun row col => h.ne_nil ⟨row, col⟩

/-- **In every state that is reached from an empty game the registry lists the units that stand on a
tile, each once and nothing else.** -/
theorem unitsListed_of_run (mapRows mapCols : ℤ) (draws : ℕ → TerrainType) (g g' : Game)
    (ops : List GameOp) (hg : GameSession.create mapRows mapCols draws = .ok g.session)
    (hrun : Runs.run Game.step g ops = some g') : g'.session.state.UnitsListed := by
  obtain ⟨state, hstate, hsession⟩ := Except.bind_eq_ok.1 hg
  have hstart : g.session.state.Coherent := by
    rw [← Except.ok.inj hsession]
    exact GameState.coherent_create hstate
  have hend := Runs.run_invariant (I := fun g => g.session.state.Coherent)
    (fun g op g' h _ hstep => Game.coherent_step h hstep) ops g g' hstart
    (Runs.along_of_forall (P := fun _ _ => True) (fun _ _ => trivial) ops g) hrun
  exact hend.unitsListed

/-- A move that is predicted and taken back, and a unit that is removed. -/
def shortGame : List GameOp :=
  [.addUnit (Unit.create 0 0 warriorTemplate 1), .addUnit (Unit.create 2 2 warriorTemplate 2),
    .addPlayer 7 1, .predictAction 7 (.move { unitIndex := 0, destRow := 0, destCol := 1 }),
    .rejectAction 1, .resolveTurn none, .removeUnit 0]

theorem shortGame_unitsListed :
    ∃ session g', GameSession.create 3 3 (fun _ => .plains) = .ok session ∧
      Runs.run Game.step { session } shortGame = some g' ∧ g'.session.state.UnitsListed := by
  have hrun : ∃ session, GameSession.create 3 3 (fun _ => .plains) = .ok session ∧
      (Runs.run Game.step { session } shortGame).isSome = true := ⟨_, rfl, by decide⟩
  obtain ⟨session, hcreate, hsome⟩ := hrun
  obtain ⟨g', hrun⟩ := Option.isSome_iff_exists.1 hsome
  exact ⟨session, g', hcreate, hrun,
    unitsListed_of_run 3 3 _ { session } g' shortGame hcreate hrun⟩

end My4X
