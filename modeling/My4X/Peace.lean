/-
**A faction at peace is left alone.**

Health, experience and cities are lost to attacks and captures, and both ask for a war between the
two factions.  Relations are symmetric, and neither an action nor the end of a turn changes them;
so what a faction has that is at war with no one is safe over any run.

Main definitions:

* `My4X.GameState.AtPeace` — a faction is at war with no faction;
* `My4X.LeavesAlone` — the units of a faction keep their health and experience, and its cities
  their owner.

Main results:

* `My4X.GameAction.execute_leavesAlone`, `My4X.resolveTurn_leavesAlone` — what one effect does to a
  faction at peace;
* `My4X.GameSession.peace_respected` — **no run of actions and turns harms a faction at peace**.
-/

import My4X.Queues
import My4X.Standing
import My4X.UnitFates

set_option relaxedAutoImplicit false
set_option autoImplicit false

namespace My4X

open GameState

/-! ### Wars -/

/-- The attacker and the target of a valid attack are at war. -/
theorem AttackAction.areAtWar_of_valid {a : AttackAction} {s : GameState} {p q : OwnedUnit}
    (hvalid : a.validate s = .valid) (h : Checked a s p q) :
    s.diplomacy.areAtWar p.unit.factionId q.unit.factionId = true := by
  by_contra hwar
  rw [validate] at hvalid
  simp only [h.attacker, h.target] at hvalid
  rw [validateUnits, if_neg (not_not.2 h.attacker_alive), if_neg (not_not.2 h.target_alive),
    if_neg h.faction_ne, if_pos hwar] at hvalid
  cases hvalid

/-- The unit and the owner of the city of a valid capture are at war. -/
theorem CaptureAction.areAtWar_of_valid {a : CaptureAction} {s : GameState} {p : OwnedUnit} {i : ℕ}
    {city : City} (hvalid : a.validate s = .valid) (h : Taken a s p i city) :
    s.diplomacy.areAtWar p.unit.factionId city.owner = true := by
  by_contra hwar
  have hfind : s.cities.find? (fun city => city.centerRow = p.unit.row ∧
      city.centerCol = p.unit.col) = some city := by
    rw [List.find?_eq_bind_findIdx?_getElem?]
    exact Option.bind_eq_some_iff.2 ⟨i, h.index, h.get⟩
  rw [validate] at hvalid
  simp only [h.unit, validateUnit, hfind] at hvalid
  rw [if_neg (not_not.2 h.alive), validateCity, if_neg h.enemy, if_pos hwar] at hvalid
  cases hvalid

namespace GameState

/-- A faction is at war with no faction. -/
def AtPeace (s : GameState) (f : FactionId) : Prop := ∀ g, s.diplomacy.areAtWar f g = false

/-- Nor is any faction at war with it. -/
theorem AtPeace.not_areAtWar {s : GameState} {f g : FactionId} (h : s.AtPeace f) :
    s.diplomacy.areAtWar g f = false := by
  rw [DiplomacyManager.areAtWar, DiplomacyManager.getRelation_comm]
  exact h g

end GameState

/-! ### What is left alone -/

/-- A unit of a faction that has neither been hurt nor learnt anything. -/
structure Unharmed (f : FactionId) (p p' : OwnedUnit) : Prop where
  ref : p'.ref = p.ref
  factionId : p'.unit.factionId = f
  health : p'.unit.health = p.unit.health
  experience : p'.unit.experience = p.unit.experience

/-- **The units of a faction are still there and unharmed, and its cities still have their owner**;
the relations are the same. -/
structure LeavesAlone (f : FactionId) (s s' : GameState) : Prop where
  diplomacy : s'.diplomacy = s.diplomacy
  units : ∀ p ∈ s.units.list, p.unit.factionId = f → ∃ p' ∈ s'.units.list, Unharmed f p p'
  cities : ∀ (i : ℕ) (city : City), s.cities[i]? = some city → city.owner = f →
    ∃ city', s'.cities[i]? = some city' ∧ city'.id = city.id ∧ city'.factionId = city.factionId

namespace LeavesAlone

variable {f : FactionId} {s s' s'' : GameState}

theorem refl (f : FactionId) (s : GameState) : LeavesAlone f s s where
  diplomacy := rfl
  units p hp hf := ⟨p, hp, rfl, hf, rfl, rfl⟩
  cities _ city hcity _ := ⟨city, hcity, rfl, rfl⟩

theorem trans (h : LeavesAlone f s s') (h' : LeavesAlone f s' s'') : LeavesAlone f s s'' where
  diplomacy := h'.diplomacy.trans h.diplomacy
  units p hp hf := by
    obtain ⟨p', hp', href, hf', hhealth, hexp⟩ := h.units p hp hf
    obtain ⟨p'', hp'', href', hf'', hhealth', hexp'⟩ := h'.units p' hp' hf'
    exact ⟨p'', hp'', href'.trans href, hf'', hhealth'.trans hhealth, hexp'.trans hexp⟩
  cities i city hcity hf := by
    obtain ⟨city', hcity', hid, howner⟩ := h.cities i city hcity hf
    have hf' : city'.owner = f := by rw [City.owner, howner]; exact hf
    obtain ⟨city'', hcity'', hid', howner'⟩ := h'.cities i city' hcity' hf'
    exact ⟨city'', hcity'', hid'.trans hid, howner'.trans howner⟩

theorem atPeace (h : LeavesAlone f s s') (hpeace : s.AtPeace f) : s'.AtPeace f := by
  rw [AtPeace, h.diplomacy]
  exact hpeace

/-- A change of one city that leaves it its identifier and its owner. -/
theorem of_set {i : ℕ} {city city' : City} (hcity : s.cities[i]? = some city)
    (hcities : s'.cities = s.cities.set i city') (hid : city'.id = city.id)
    (howner : city'.factionId = city.factionId) (hdiplomacy : s'.diplomacy = s.diplomacy)
    (hunits : ∀ p ∈ s.units.list, p.unit.factionId = f → ∃ p' ∈ s'.units.list, Unharmed f p p') :
    LeavesAlone f s s' where
  diplomacy := hdiplomacy
  units := hunits
  cities j c hc hf := by
    rw [hcities, List.getElem?_set]
    by_cases hij : i = j
    · subst hij
      rw [hcity] at hc
      obtain rfl := Option.some_inj.1 hc
      rw [if_pos rfl, if_pos (List.getElem?_eq_some_iff.1 hcity).1]
      exact ⟨city', rfl, hid, howner⟩
    · rw [if_neg hij]
      exact ⟨c, hc, rfl, rfl⟩

end LeavesAlone

/-! ### Actions -/

/-- **The fate of a unit at peace**: it rests or it moves. -/
theorem UnitFate.unharmed {s : GameState} {i : ℕ} {p p' : OwnedUnit} {action : GameAction}
    (h : UnitFate s i p action p') (hpeace : s.AtPeace p.unit.factionId) :
    Unharmed p.unit.factionId p p' := by
  cases h with
  | rests idle => exact ⟨rfl, rfl, rfl, rfl⟩
  | moves accepted actor lookup paid =>
      obtain ⟨-, -, -, -, -, hhealth, hfaction, -, hexp, -⟩ := Unit.moveTo_eq_ok paid
      exact ⟨rfl, hfaction, hhealth, hexp⟩
  | strikes accepted actor round =>
      have hwar := AttackAction.areAtWar_of_valid accepted round.checked
      rw [hpeace] at hwar
      cases hwar
  | isStruck accepted aimed round =>
      have hwar := AttackAction.areAtWar_of_valid accepted round.checked
      rw [hpeace.not_areAtWar] at hwar
      cases hwar

/-- The unit that dies in an attack is at war. -/
theorem AttackAction.casualty_at_war {a : AttackAction} {s : GameState} {i : ℕ} {p : OwnedUnit}
    (h : a.casualty s = some i) (hp : s.units.get? i = some p) :
    ¬ s.AtPeace p.unit.factionId := by
  intro hpeace
  obtain ⟨hvalid, attacker, target, hcheck, rfl | rfl⟩ := casualty_eq_some h
  · have hwar := areAtWar_of_valid hvalid hcheck
    rw [hcheck.target] at hp
    obtain rfl := Option.some_inj.1 hp
    rw [hpeace.not_areAtWar] at hwar
    cases hwar
  · have hwar := areAtWar_of_valid hvalid hcheck
    rw [hcheck.attacker] at hp
    obtain rfl := Option.some_inj.1 hp
    rw [hpeace] at hwar
    cases hwar

/-- An action leaves the relations as they are. -/
theorem GameAction.execute_diplomacy {action : GameAction} {s s' : GameState} {executed : Bool}
    (h : action.execute s = .ok (s', executed)) : s'.diplomacy = s.diplomacy := by
  cases action with
  | move a =>
      obtain ⟨r, hex, -⟩ := GameAction.execute_move.1 h
      obtain ⟨-, ⟨-, -, rfl⟩ | ⟨-, -, p, u, t, -, -, -, rfl⟩⟩ := MoveAction.execute_cases hex
      · rfl
      · rfl
  | attack a =>
      obtain ⟨r, hex, -⟩ := GameAction.execute_attack.1 h
      obtain ⟨-, ⟨-, -, rfl⟩ | ⟨-, -, p, q, attacker, target, -, rfl⟩⟩ :=
        AttackAction.execute_cases hex
      · rfl
      · rw [AttackAction.outcome_eq]
  | capture a =>
      obtain ⟨r, hex, -⟩ := GameAction.execute_capture.1 h
      obtain ⟨-, ⟨-, -, rfl⟩ | ⟨-, -, p, i, city, -, rfl⟩⟩ := CaptureAction.execute_cases hex
      · rfl
      · rfl

/-- **An action leaves a faction at peace alone.** -/
theorem GameAction.execute_leavesAlone {action : GameAction} {s s' : GameState} {executed : Bool}
    {f : FactionId} (h : action.execute s = .ok (s', executed)) (hpeace : s.AtPeace f) :
    LeavesAlone f s s' where
  diplomacy := GameAction.execute_diplomacy h
  units p hp hf := by
    subst hf
    obtain ⟨i, hi⟩ := UnitVec.exists_get?_of_mem hp
    have hspared : action.casualty s ≠ some i := by
      intro hcasualty
      cases action with
      | move a => cases hcasualty
      | attack a => exact AttackAction.casualty_at_war hcasualty hi hpeace
      | capture a => cases hcasualty
    obtain ⟨p', hp', hfate⟩ := (GameAction.execute_fates h).survive i p hi hspared
    exact ⟨p', hp', hfate.unharmed hpeace⟩
  cities j c hc hf := by
    obtain ⟨-, ⟨hcities, -⟩ | ⟨a, p, i, city, -, hvalid, htaken, hcities⟩⟩ :=
      GameAction.execute_cities h
    · rw [hcities]
      exact ⟨c, hc, rfl, rfl⟩
    · have hij : i ≠ j := by
        rintro rfl
        have hwar := CaptureAction.areAtWar_of_valid hvalid htaken
        rw [htaken.get] at hc
        obtain rfl := Option.some_inj.1 hc
        rw [hf, hpeace.not_areAtWar] at hwar
        cases hwar
      rw [hcities, List.getElem?_set_ne hij]
      exact ⟨c, hc, rfl, rfl⟩

/-! ### Orders and turns -/

/-- An order leaves everybody alone. -/
theorem GameState.order_leavesAlone (f : FactionId) (s : GameState) (i : ℕ)
    (item : BuildQueueItem) :
    LeavesAlone f s (s.order i item) := by
  rcases GameState.order_eq s i item with h | ⟨city, hcity, h⟩
  · rw [h]
    exact LeavesAlone.refl f s
  · rw [h]
    exact LeavesAlone.of_set hcity rfl rfl rfl rfl fun p hp hf => ⟨p, hp, rfl, hf, rfl, rfl⟩

namespace TurnResolver

/-- The turn of a city leaves everybody alone. -/
theorem resolveCity_leavesAlone (f : FactionId) (unitRegistry : Option UnitTypeRegistry)
    (s : GameState) (i : ℕ) : LeavesAlone f s (resolveCity unitRegistry s i).1 := by
  cases hcity : s.cities[i]? with
  | none =>
      rw [resolveCity_of_none unitRegistry hcity]
      exact LeavesAlone.refl f s
  | some city =>
      obtain ⟨city', hcities, hsite, hworld, -⟩ := resolveCity_spec unitRegistry hcity
      refine LeavesAlone.of_set hcity hcities hsite.id hsite.factionId hworld.diplomacy ?_
      intro p hp hf
      have hspawn := resolveCity_spawn unitRegistry s i
      refine ⟨p, ?_, rfl, hf, rfl, rfl⟩
      cases hu : spawn? unitRegistry s i with
      | none =>
          rw [hu] at hspawn
          rw [hspawn.units]
          exact hp
      | some u =>
          rw [hu] at hspawn
          rw [hspawn.units]
          exact UnitVec.mem_push.2 (Or.inl hp)

end TurnResolver

/-- The close of a turn leaves everybody alone. -/
theorem GameState.closeTurn_leavesAlone (f : FactionId) (s : GameState) :
    LeavesAlone f s s.closeTurn where
  diplomacy := rfl
  units p hp hf := ⟨_, mem_closeTurn.2 ⟨p, hp, rfl⟩, rfl, hf, rfl, rfl⟩
  cities _ city hcity _ := ⟨city, hcity, rfl, rfl⟩

/-- **The end of a turn leaves everybody alone.** -/
theorem resolveTurn_leavesAlone (f : FactionId) (s : GameState)
    (unitRegistry : Option UnitTypeRegistry) :
    LeavesAlone f s (resolveTurn s unitRegistry).1 := by
  have hcities : LeavesAlone f s (TurnResolver.resolveCities s unitRegistry).1 :=
    TurnResolver.resolveCitiesFrom_keeps (I := fun s' => LeavesAlone f s s')
      (P := fun _ _ => True)
      (fun s' i (h : LeavesAlone f s s') _ =>
        h.trans (TurnResolver.resolveCity_leavesAlone f unitRegistry s' i))
      _ s (LeavesAlone.refl f s) (Runs.along_of_forall (fun _ _ => trivial) _ s)
  rw [resolveTurn_eq]
  cases hout : TurnResolver.resolveCities s unitRegistry with
  | mk s' thrown =>
      rw [hout] at hcities
      cases thrown with
      | some e => exact hcities
      | none => exact hcities.trans (GameState.closeTurn_leavesAlone f s')

/-! ### Runs -/

/-- No effect harms a faction at peace. -/
theorem Effect.apply_leavesAlone {effect : Effect} {s s' : GameState} {f : FactionId}
    (h : effect.apply s = some s') (hpeace : s.AtPeace f) : LeavesAlone f s s' := by
  cases effect with
  | nothing =>
      obtain rfl := Option.some_inj.1 h
      exact LeavesAlone.refl f s
  | act action =>
      rw [Effect.apply] at h
      cases hex : action.execute s with
      | error e => simp [hex] at h
      | ok out =>
          obtain ⟨s₁, executed⟩ := out
          rw [hex] at h
          obtain rfl := Option.some_inj.1 h
          exact GameAction.execute_leavesAlone hex hpeace
  | order i item =>
      obtain rfl := Option.some_inj.1 h
      exact GameState.order_leavesAlone f s i item
  | turn unitRegistry =>
      obtain rfl := Option.some_inj.1 h
      exact resolveTurn_leavesAlone f s unitRegistry

namespace GameSession

/-- One operation leaves a faction at peace alone. -/
theorem step_leavesAlone {session session' : GameSession} {op : SessionOp} {f : FactionId}
    (hpeace : session.state.AtPeace f) (h : session.step op = some session') :
    LeavesAlone f session.state session'.state :=
  Effect.apply_leavesAlone (step_eq_some h) hpeace

/-- **Peace is respected**: whatever actions of any players and whatever turns follow, a faction at
war with no one keeps its units, unharmed, and its cities from any point of the run on. -/
theorem peace_respected (f : FactionId) (session reached later : GameSession)
    (before after : List SessionOp) (hpeace : session.state.AtPeace f)
    (hreached : Runs.run GameSession.step session before = some reached)
    (hlater : Runs.run GameSession.step reached after = some later) :
    LeavesAlone f reached.state later.state := by
  have hinv : ∀ (s : GameSession) (op : SessionOp) (s' : GameSession), s.state.AtPeace f →
      s.step op = some s' → s'.state.AtPeace f :=
    fun s op s' h hstep => (step_leavesAlone h hstep).atPeace h
  have hstill : reached.state.AtPeace f :=
    Runs.run_invariant (fun s op s' h _ hstep => hinv s op s' h hstep) before session reached hpeace
      (Runs.along_of_forall (fun _ _ => trivial) before session) hreached
  exact Runs.run_relation (R := fun s s' : GameSession => LeavesAlone f s.state s'.state)
    (fun s => LeavesAlone.refl f s.state) (fun _ _ _ h h' => h.trans h') hinv
    (fun s op s' h (_ : True) hstep => step_leavesAlone h hstep) after reached later hstill
    (Runs.along_of_forall (fun _ _ => trivial) after reached) hlater

end GameSession

/-- Two warriors of different factions next to each other, in peace. -/
def borderSession : GameSession :=
  { state := ((plainField.addUnit (Unit.create 0 0 warriorTemplate 1)).1.addUnit
      (Unit.create 0 1 warriorTemplate 2)).1
    players := AList.insert 7 { playerId := 7, factionId := 1 } ∅ }

/-- An attack that is refused, and then a turn. -/
theorem borderSession_peace :
    ∃ reached later,
      Runs.run GameSession.step borderSession [.processAction 7
        (.game (.attack { attackerIndex := 0, targetIndex := 1 }))] = some reached ∧
      Runs.run GameSession.step reached [.resolveTurn none] = some later ∧
      LeavesAlone 2 reached.state later.state := by
  have hpeace : borderSession.state.AtPeace 2 := by
    intro g
    have hnone : borderSession.state.diplomacy.getRelation 2 g = .peace := by
      rw [DiplomacyManager.getRelation]
      split <;> rfl
    rw [DiplomacyManager.areAtWar, hnone]
    rfl
  have hruns : ∃ reached later,
      Runs.run GameSession.step borderSession [.processAction 7
        (.game (.attack { attackerIndex := 0, targetIndex := 1 }))] = some reached ∧
      Runs.run GameSession.step reached [.resolveTurn none] = some later := ⟨_, _, rfl, rfl⟩
  obtain ⟨reached, later, hreached, hlater⟩ := hruns
  exact ⟨reached, later, hreached, hlater,
    GameSession.peace_respected 2 borderSession reached later _ _ hpeace hreached hlater⟩

end My4X
