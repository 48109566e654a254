/-
**Submitting actions.**

A player submits an action either directly to the session or to the action processor.  Both hand it
on to the action itself; they differ in what they check of the player.

Main definitions:

* `My4X.GameAction.OnMap` — the units of an attack stand where the terrain can be looked up;
* `My4X.EntryPoint`, `My4X.submit`, `My4X.Admitted` — the two ways to submit an action, and when
  the action is handed on.

Main results:

* `My4X.GameAction.executed_iff` — **when an action is executed**;
* `My4X.submit_cases`, `My4X.submit_of_execute` — what a submission does.
-/

import My4X.Session

set_option relaxedAutoImplicit false
set_option autoImplicit false

namespace My4X

/-! ### When an action is executed -/

/-- The units of an attack stand on the map, where their terrain is looked up. -/
def GameAction.OnMap (action : GameAction) (s : GameState) : Prop :=
  match action with
  | .attack a =>
      ∀ i ∈ [a.attackerIndex, a.targetIndex], ∀ p ∈ s.units.get? i,
        InBounds p.unit.row p.unit.col s.map.height s.map.width
  | .move _ | .capture _ => True

instance (action : GameAction) (s : GameState) : Decidable (action.OnMap s) :=
  match action with
  | .attack a =>
      inferInstanceAs (Decidable (∀ i ∈ [a.attackerIndex, a.targetIndex], ∀ p ∈ s.units.get? i,
        InBounds p.unit.row p.unit.col s.map.height s.map.width))
  | .move _ | .capture _ => inferInstanceAs (Decidable True)

/-- The terrain of two units can be looked up exactly when both stand on the map. -/
theorem AttackAction.combatContext_ok_iff {map : Map} {attacker target : Unit} :
    (∃ context, AttackAction.combatContext map attacker target = .ok context) ↔
      InBounds attacker.row attacker.col map.height map.width ∧
        InBounds target.row target.col map.height map.width := by
  rw [← Map.tile_eq_ok_iff, ← Map.tile_eq_ok_iff]
  rw [AttackAction.combatContext]
  constructor
  · intro h
    obtain ⟨context, h⟩ := h
    obtain ⟨defenderTile, hd, h⟩ := Except.bind_eq_ok.1 h
    obtain ⟨attackerTile, ha, -⟩ := Except.bind_eq_ok.1 h
    exact ⟨⟨attackerTile, ha⟩, ⟨defenderTile, hd⟩⟩
  · intro h
    obtain ⟨⟨attackerTile, ha⟩, ⟨defenderTile, hd⟩⟩ := h
    rw [hd, Except.ok_bind, ha, Except.ok_bind]
    exact ⟨_, rfl⟩

/-- **An action is executed exactly when it is accepted and its terrain can be looked up.** -/
theorem GameAction.executed_iff (action : GameAction) (s : GameState) :
    (∃ s', action.execute s = .ok (s', true)) ↔ action.Accepted s ∧ action.OnMap s := by
  constructor
  · intro h
    obtain ⟨s', h⟩ := h
    have haccepted := (GameAction.execute_eq_ok h).1.1 rfl
    refine ⟨haccepted, ?_⟩
    cases action with
    | move a => exact trivial
    | capture a => exact trivial
    | attack a =>
        obtain ⟨p, q, hcheck⟩ := AttackAction.validate_eq_valid haccepted
        obtain ⟨r, hex, hr⟩ := GameAction.execute_attack.1 h
        obtain ⟨-, ⟨hf, -⟩ | ⟨-, -, p', q', attacker, target, hround, -⟩⟩ :=
          AttackAction.execute_cases hex
        · exact absurd (hr.symm.trans hf) (by simp)
        · obtain ⟨context, hcontext, -⟩ := hround.resolved
          have hbounds := AttackAction.combatContext_ok_iff.1 ⟨context, hcontext⟩
          intro i hi p'' hp''
          rcases List.mem_pair.1 hi with rfl | rfl
          · obtain rfl := Option.some_inj.1 (hround.checked.attacker.symm.trans hp'')
            exact hbounds.1
          · obtain rfl := Option.some_inj.1 (hround.checked.target.symm.trans hp'')
            exact hbounds.2
  · intro h
    obtain ⟨haccepted, hmap⟩ := h
    cases action with
    | move a =>
        obtain ⟨p, u, t, -, -, -, hex⟩ := MoveAction.execute_of_valid haccepted
        exact ⟨_, GameAction.execute_move.2 ⟨_, hex, rfl⟩⟩
    | capture a =>
        obtain ⟨p, i, city, r, -, hr, hex⟩ := CaptureAction.execute_of_valid haccepted
        exact ⟨_, GameAction.execute_capture.2 ⟨r, hex, hr⟩⟩
    | attack a =>
        obtain ⟨p, q, hcheck⟩ := AttackAction.validate_eq_valid haccepted
        have hp := hmap a.attackerIndex (List.mem_pair.2 (Or.inl rfl)) p hcheck.attacker
        have hq := hmap a.targetIndex (List.mem_pair.2 (Or.inr rfl)) q hcheck.target
        obtain ⟨context, hcontext⟩ := AttackAction.combatContext_ok_iff.2 ⟨hp, hq⟩
        obtain ⟨attacker, target, -, hex⟩ :=
          AttackAction.execute_of_valid haccepted hcheck hcontext
        exact ⟨_, GameAction.execute_attack.2 ⟨_, hex, rfl⟩⟩

/-! ### Submissions -/

/-- The two ways to submit an action. -/
inductive EntryPoint
  | applyAction
  | processAction
  deriving DecidableEq, Repr

/-- Submits an action and reports whether it succeeded. -/
def submit (session : GameSession) (playerId : PlayerId) (entry : EntryPoint)
    (action : GameAction) : Except Fault (GameSession × Bool) :=
  match entry with
  | .applyAction => do
      let (session, result) ← session.applyAction playerId action
      return (session, result = .success)
  | .processAction =>
      match ActionProcessor.processAction session playerId (.game action) with
      | (_, .error e) => .error e
      | (session, .ok result) => .ok (session, result.success)

/-- The entry point hands the action on. -/
def Admitted (session : GameSession) (playerId : PlayerId) : EntryPoint → Prop
  | .applyAction => session.hasPlayer playerId = true
  | .processAction => ActionProcessor.validatePlayer session playerId = none

instance (session : GameSession) (playerId : PlayerId) (entry : EntryPoint) :
    Decidable (Admitted session playerId entry) :=
  match entry with
  | .applyAction => inferInstanceAs (Decidable (session.hasPlayer playerId = true))
  | .processAction =>
      inferInstanceAs (Decidable (ActionProcessor.validatePlayer session playerId = none))

theorem validatePlayer_fails {session : GameSession} {playerId : PlayerId}
    {error : ProcessedActionResult}
    (h : ActionProcessor.validatePlayer session playerId = some error) : error.success = false := by
  rw [ActionProcessor.validatePlayer] at h
  split at h
  · obtain rfl := Option.some_inj.1 h
    rfl
  · split at h
    · obtain rfl := Option.some_inj.1 h
      rfl
    · simp at h

/-- What a submission that returns has done. -/
theorem submit_cases {session session' : GameSession} {playerId : PlayerId} {entry : EntryPoint}
    {action : GameAction} {success : Bool}
    (h : submit session playerId entry action = .ok (session', success)) :
    (¬ Admitted session playerId entry ∧ success = false ∧ session' = session) ∨
      (Admitted session playerId entry ∧ ∃ state,
        action.execute session.state = .ok (state, success) ∧
        session' = session.setState state) := by
  cases entry with
  | applyAction =>
      obtain ⟨⟨session₁, result⟩, happly, h⟩ := Except.bind_eq_ok.1 h
      obtain ⟨rfl, rfl⟩ := Prod.mk.inj (Except.ok.inj h)
      rcases GameSession.applyAction_cases happly with
        ⟨hno, rfl, rfl⟩ | ⟨hhas, state, executed, hex, rfl, rfl⟩
      · exact Or.inl ⟨by simp [Admitted, hno], rfl, rfl⟩
      · refine Or.inr ⟨hhas, state, ?_, rfl⟩
        rw [hex]
        cases executed <;> rfl
  | processAction =>
      simp only [submit] at h
      split at h
      · simp at h
      · next session₁ result hprocess =>
          obtain ⟨rfl, rfl⟩ := Prod.mk.inj (Except.ok.inj h)
          rcases ActionProcessor.processAction_gameAction hprocess with
            ⟨error, hv, rfl, rfl⟩ | ⟨hv, state, hex, rfl⟩
          · exact Or.inl ⟨by simp [Admitted, hv], validatePlayer_fails hv, rfl⟩
          · exact Or.inr ⟨hv, state, hex, rfl⟩

/-- An admitted action that returns succeeds when it was executed. -/
theorem submit_of_execute {session : GameSession} {playerId : PlayerId} {entry : EntryPoint}
    {action : GameAction} {state : GameState} {executed : Bool}
    (hadm : Admitted session playerId entry)
    (hex : action.execute session.state = .ok (state, executed)) :
    submit session playerId entry action = .ok (session.setState state, executed) := by
  cases entry with
  | applyAction =>
      have hhas : session.hasPlayer playerId = true := hadm
      simp only [submit, GameSession.applyAction, hhas, not_true_eq_false, if_false, hex,
        Except.ok_bind]
      cases executed <;> rfl
  | processAction =>
      have hv : ActionProcessor.validatePlayer session playerId = none := hadm
      obtain ⟨result, hprocess, hsuccess⟩ :=
        ActionProcessor.processGameAction_of_execute playerId hex
      simp only [submit, ActionProcessor.processAction, hv, hprocess, hsuccess]

end My4X
