/-
**Attacks, and how many of them there can be.**

An attack that is carried out takes health from the target, and from the attacker where the target
strikes back; the unit that is left without health, of which there is one at most, leaves the list,
and the others stay as they are and in their order.  No other action gives health to a unit, so that
the health of the living units bounds the number of attacks in any run in which no unit is added.
The health of all units is no such bound: a unit whose template has a negative maximum counts below
zero from the beginning, and is never attacked.

Main definitions:

* `My4X.AttackAction.Exact` — what an attack that is carried out does;
* `My4X.GameState.totalHealth`, `My4X.GameState.livingHealth` — the health of all units, and of the
  living ones;
* `My4X.executesAttack` — whether an effect is an attack that is carried out.

Main results:

* `My4X.attack_exact` — **what an attack does to the units, what it returns and what is reported**;
* `My4X.AttackAction.outcome_total` — a sum over the units after an attack;
* `My4X.Effect.livingHealth_le` — an effect that adds no unit gives no health to one;
* `My4X.attacks_le_livingHealth` — **every attack takes health, and there are no more attacks than
  there is health in the living units**, and `My4X.GameSession.attacks_bounded` for a session.
-/

import My4X.Elimination
import Mathlib.Algebra.BigOperators.Group.List.Basic
import Mathlib.Algebra.Order.BigOperators.Group.List
import Mathlib.Algebra.Order.Group.Int
import Mathlib.Algebra.Ring.Int.Defs
import Mathlib.Data.List.Perm.Basic

set_option relaxedAutoImplicit false
set_option autoImplicit false

namespace My4X

/-- The list of units after one of them has changed. -/
theorem UnitVec.set_list {v : UnitVec} {i : ℕ} {p : OwnedUnit} (hp : v.get? i = some p) (u : Unit) :
    (v.set i u).list = v.list.set i ⟨p.ref, u⟩ := by
  have hlt : i < v.list.length := UnitVec.get?_lt hp
  refine List.ext_getElem? fun j => ?_
  rw [show (v.set i u).list[j]? = _ from UnitVec.get?_set v i j u, List.getElem?_set]
  by_cases hij : i = j
  · subst hij
    rw [if_pos rfl, if_pos rfl, if_pos hlt, hp]
    rfl
  · rw [if_neg hij, if_neg hij]
    rfl

/-! ### The round -/

namespace AttackAction

variable {a : AttackAction} {s s' : GameState} {p q : OwnedUnit} {combat : CombatResult}
  {attacker target : Unit}

/-- **What a round comes to**: the damage, the health and the flags agree, and one unit dies at
most. -/
theorem Round.health (h : Round a s p q combat attacker target) :
    1 ≤ combat.damageToDefender ∧ combat.damageToDefender ≤ q.unit.health ∧
      0 ≤ combat.damageToAttacker ∧ combat.damageToAttacker ≤ p.unit.health ∧
      target.health = q.unit.health - combat.damageToDefender ∧
      attacker.health = p.unit.health - combat.damageToAttacker ∧
      (combat.defenderDied = true ↔ target.health = 0) ∧
      (combat.attackerDied = true ↔ attacker.health = 0) ∧
      (combat.defenderDied = true → combat.attackerDied = false) := by
  obtain ⟨context, -, hcombat⟩ := h.resolved
  obtain ⟨hd0, hd1, ha0, ha1, hdead, hadead, hone⟩ := resolveCombat_bounds hcombat.symm
    (of_decide_eq_true h.checked.attacker_alive) (of_decide_eq_true h.checked.target_alive)
  obtain ⟨hattacker, htarget⟩ := applyCombat_health h.applied
  have htarget' : target.health = q.unit.health - combat.damageToDefender := by omega
  have hattacker' : attacker.health = p.unit.health - combat.damageToAttacker := by omega
  refine ⟨hd0, hd1, ha0, ha1, htarget', hattacker', ?_, ?_, hone⟩
  · rw [hdead]
    omega
  · rw [hadead]
    omega

/-- The attacker is still at its index when the target has changed. -/
theorem Checked.attacker_after (h : Checked a s p q) (target : Unit) :
    (s.units.set a.targetIndex target).get? a.attackerIndex = some p := by
  rw [UnitVec.get?_set, if_neg h.index_ne.symm, h.attacker]

/-- The list of units after a round, before the dead are removed. -/
theorem fought_list (h : Checked a s p q) :
    (a.fought s attacker target).units.list =
      (s.units.list.set a.targetIndex ⟨q.ref, target⟩).set a.attackerIndex ⟨p.ref, attacker⟩ := by
  rw [← UnitVec.set_list h.target]
  exact UnitVec.set_list (h.attacker_after target) attacker

/-- A list without the only element that fails a test. -/
theorem filter_eq_eraseIdx {α : Type} {P : α → Bool} {l : List α} :
    ∀ {i : ℕ} {x : α}, l[i]? = some x → P x = false →
      (∀ j y, l[j]? = some y → P y = false → j = i) → l.filter P = l.eraseIdx i := by
  induction l with
  | nil => intro i x hx; cases hx
  | cons y l ih =>
      intro i x hx hfails honly
      cases i with
      | zero =>
          obtain rfl := Option.some_inj.1 hx
          rw [List.filter_cons_of_neg (by rw [hfails]; decide), List.eraseIdx_cons_zero,
            List.filter_eq_self]
          intro z hz
          obtain ⟨j, hj⟩ := List.mem_iff_getElem?.1 hz
          cases hP : P z with
          | true => rfl
          | false => exact absurd (honly (j + 1) z hj hP) (Nat.succ_ne_zero j)
      | succ i =>
          have hhead : P y = true := by
            cases hP : P y with
            | true => rfl
            | false => exact absurd (honly 0 y rfl hP) (Nat.succ_ne_zero i).symm
          rw [List.filter_cons_of_pos hhead, List.eraseIdx_cons_succ,
            ih hx hfails fun j z hj hz => Nat.succ.inj (honly (j + 1) z hj hz)]

/-- When all units were alive before a round, only the two can be dead after it. -/
theorem Round.dead_cases (h : Round a s p q combat attacker target)
    (halive : ∀ u ∈ s.units.list, u.unit.isAlive = true) {i : ℕ} {u : OwnedUnit}
    (hu : (a.fought s attacker target).units.list[i]? = some u) (hdead : u.unit.isAlive = false) :
    (i = a.attackerIndex ∧ attacker.isAlive = false) ∨
      (i = a.targetIndex ∧ target.isAlive = false) := by
  rw [show (a.fought s attacker target).units.list[i]? = _ from fought_get? h.checked i] at hu
  split at hu
  · next hi =>
      obtain rfl := Option.some_inj.1 hu
      exact Or.inl ⟨hi, hdead⟩
  · split at hu
    · next hi =>
        obtain rfl := Option.some_inj.1 hu
        exact Or.inr ⟨hi, hdead⟩
    · rw [halive u (UnitVec.mem_list_of_get? hu)] at hdead
      cases hdead

/-- **The units after an attack are the ones that are alive after the round**, when all were alive
before. -/
theorem outcome_list (h : Round a s p q combat attacker target)
    (halive : ∀ u ∈ s.units.list, u.unit.isAlive = true) :
    (a.outcome s p q attacker target).units.list =
      (a.fought s attacker target).units.list.filter fun u => u.unit.isAlive := by
  rw [outcome]
  split
  · next htarget =>
      refine (filter_eq_eraseIdx (fought_get?_target h.checked attacker target) htarget ?_).symm
      intro j u hu hdead
      rcases h.dead_cases halive hu hdead with ⟨-, hattacker⟩ | ⟨hj, -⟩
      · rw [h.one_dead htarget] at hattacker
        cases hattacker
      · exact hj
  · next htarget =>
      split
      · next hattacker =>
          refine (filter_eq_eraseIdx (fought_get?_attacker h.checked attacker target) hattacker
            ?_).symm
          intro j u hu hdead
          rcases h.dead_cases halive hu hdead with ⟨hj, -⟩ | ⟨-, hdead'⟩
          · exact hj
          · exact absurd hdead' htarget
      · next hattacker =>
          refine (List.filter_eq_self.2 fun u hu => ?_).symm
          obtain ⟨j, hj⟩ := List.mem_iff_getElem?.1 hu
          cases hdead : u.unit.isAlive with
          | true => rfl
          | false =>
              rcases h.dead_cases halive hj hdead with ⟨-, hdead'⟩ | ⟨-, hdead'⟩
              · exact absurd hdead' hattacker
              · exact absurd hdead' htarget

/-- The number of units that die in a round. -/
def deaths (combat : CombatResult) : ℕ :=
  (if combat.defenderDied then 1 else 0) + if combat.attackerDied then 1 else 0

/-- The units that die in an attack are missing from the list afterwards. -/
theorem outcome_size (h : Round a s p q combat attacker target) :
    (a.outcome s p q attacker target).units.size + deaths combat = s.units.size := by
  have hone := h.health.2.2.2.2.2.2.2.2
  rw [outcome, deaths]
  cases htarget : target.isAlive with
  | false =>
      have hdied := h.target_dead.1 htarget
      rw [if_pos rfl, hdied, hone hdied]
      rw [← size_fought a s attacker target]
      exact GameState.size_dropUnit (fought_get?_target h.checked attacker target)
  | true =>
      have hdied : combat.defenderDied = false := by
        rw [← Bool.not_eq_true, ← h.target_dead, htarget]
        decide
      rw [if_neg (by decide), hdied]
      cases hattacker : attacker.isAlive with
      | false =>
          rw [if_pos rfl, h.attacker_dead.1 hattacker]
          rw [← size_fought a s attacker target]
          exact GameState.size_dropUnit (fought_get?_attacker h.checked attacker target)
      | true =>
          have hsurvived : combat.attackerDied = false := by
            rw [← Bool.not_eq_true, ← h.attacker_dead, hattacker]
            decide
          rw [if_neg (by decide), hsurvived]
          exact size_fought a s attacker target

/-! ### Attacks -/

/-- **What an attack that is carried out does** to an attacker `p` and a target `q`, which are
`attacker` and `target` after the round: the damage is taken from their health, the flags say who is
left without any, the attacker has paid, and the units are the old ones with these two changed, in
the same order, without the one that died. -/
structure Exact (a : AttackAction) (s s' : GameState) (combat : CombatResult) (p q : OwnedUnit)
    (attacker target : Unit) : Prop where
  attacker_at : s.units.get? a.attackerIndex = some p
  target_at : s.units.get? a.targetIndex = some q
  damage : 1 ≤ combat.damageToDefender ∧ combat.damageToDefender ≤ q.unit.health
  target_health : target.health = q.unit.health - combat.damageToDefender
  attacker_health : attacker.health = p.unit.health - combat.damageToAttacker
  target_dead : combat.defenderDied = true ↔ target.health = 0
  attacker_dead : combat.attackerDied = true ↔ attacker.health = 0
  one_dead : combat.defenderDied = true → combat.attackerDied = false
  pays : attacker.movementRemaining = p.unit.movementRemaining - 1
  units : s'.units.list = ((s.units.list.set a.targetIndex ⟨q.ref, target⟩).set a.attackerIndex
    ⟨p.ref, attacker⟩).filter fun u => u.unit.isAlive
  others : ∀ i u, i ≠ a.attackerIndex → i ≠ a.targetIndex → s.units.get? i = some u →
    u ∈ s'.units.list
  living : ∀ u ∈ s'.units.list, 0 < u.unit.health
  size : s'.units.size + deaths combat = s.units.size

theorem exact_of_round (h : Round a s p q combat attacker target)
    (halive : ∀ u ∈ s.units.list, u.unit.isAlive = true) :
    Exact a s (a.outcome s p q attacker target) combat p q attacker target := by
  obtain ⟨hd0, hd1, -, -, htarget, hattacker, htdead, hadead, hone⟩ := h.health
  have hlist := outcome_list h halive
  refine ⟨h.checked.attacker, h.checked.target, ⟨hd0, hd1⟩, htarget, hattacker, htdead,
    hadead, hone,
    h.attacker_pays, ?_, fun i u hi hi' hu => ?_, fun u hu => ?_, outcome_size h⟩
  · rw [hlist, fought_list h.checked]
  · rw [hlist, List.mem_filter]
    refine ⟨?_, halive u (UnitVec.mem_list_of_get? hu)⟩
    have hget : (a.fought s attacker target).units.get? i = some u := by
      rw [fought_get? h.checked, if_neg hi, if_neg hi', hu]
    exact UnitVec.mem_list_of_get? hget
  · rw [hlist, List.mem_filter] at hu
    exact of_decide_eq_true hu.2

end AttackAction

namespace ActionProcessor

/-- An attack is reported with one event for every unit that died. -/
theorem attackReport_kills (playerId : PlayerId) {r : AttackResult} (h : r.executed = true) :
    ((attackReport playerId r).events.filter fun e => e.type = .unitKilled).length =
      AttackAction.deaths r.combat := by
  rw [attackReport, if_neg (not_not.2 h), AttackAction.deaths]
  cases r.combat.defenderDied <;> cases r.combat.attackerDied <;> rfl

/-- An attack of a connected player is processed by executing it. -/
theorem processAction_of_execute {session : GameSession} {playerId : PlayerId} {a : AttackAction}
    {s' : GameState} {r : AttackResult} (hvalid : validatePlayer session playerId = none)
    (h : a.execute session.state = .ok (s', r)) :
    processAction session playerId (.game (.attack a)) =
      (session.setState s', .ok (attackReport playerId r)) := by
  rw [processAction, hvalid]
  simp only [processGameAction, h, Except.ok_bind]
  rfl

end ActionProcessor

/-- **An attack is resolved exactly**, when all units are alive before: what it does to the units,
what it returns, and what is reported of it to the players. -/
theorem attack_exact {a : AttackAction} {s s' : GameState} {r : AttackResult}
    (halive : ∀ u ∈ s.units.list, u.unit.isAlive = true) (h : a.execute s = .ok (s', r))
    (hexecuted : r.executed = true) :
    (∃ p q attacker target, AttackAction.Exact a s s' r.combat p q attacker target) ∧
      ∀ session playerId, session.state = s →
        ActionProcessor.validatePlayer session playerId = none →
        ∃ session' result,
          ActionProcessor.processAction session playerId (.game (.attack a)) =
            (session', .ok result) ∧
          session'.state = s' ∧ result.success = true ∧
          (result.events.filter fun e => e.type = .unitKilled).length + s'.units.size =
            s.units.size := by
  obtain ⟨-, p, q, attacker, target, hround, rfl⟩ := AttackAction.cases_of_executed h hexecuted
  refine ⟨⟨p, q, attacker, target, AttackAction.exact_of_round hround halive⟩, ?_⟩
  rintro session playerId rfl hvalid
  refine ⟨_, _, ActionProcessor.processAction_of_execute hvalid h, rfl, ?_, ?_⟩
  · rw [ActionProcessor.attackReport_success]
    exact hexecuted
  · rw [ActionProcessor.attackReport_kills playerId hexecuted, Nat.add_comm]
    exact AttackAction.outcome_size hround

/-- An attack on the last unit of a faction. -/
theorem lastStand_exact :
    ∃ s' r, AttackAction.execute { attackerIndex := 0, targetIndex := 1 } lastStandSession.state =
        .ok (s', r) ∧
      ∃ p q attacker target, AttackAction.Exact { attackerIndex := 0, targetIndex := 1 }
        lastStandSession.state s' r.combat p q attacker target := by
  refine ⟨_, _, rfl, (attack_exact (fun u hu => ?_) rfl rfl).1⟩
  rcases List.mem_pair.1 hu with rfl | rfl
  · rfl
  · rfl

/-! ### The health of all units -/

/-- The sum of a number over the units of a list. -/
def UnitVec.total (v : UnitVec) (f : Unit → ℤ) : ℤ := (v.list.map fun u => f u.unit).sum

/-- **The health of all units.** -/
def GameState.totalHealth (s : GameState) : ℤ := s.units.total Unit.health

/-- **The health of the living units**: the others count as nothing. -/
def GameState.livingHealth (s : GameState) : ℤ := s.units.total fun u => max 0 u.health

namespace UnitVec

/-- The sum after a unit has left the list. -/
theorem total_erase {v : UnitVec} {i : ℕ} {p : OwnedUnit} (hp : v.get? i = some p) (f : Unit → ℤ) :
    f p.unit + (v.erase i).total f = v.total f := by
  obtain ⟨hlt, rfl⟩ := List.getElem?_eq_some_iff.1 hp
  exact ((List.getElem_cons_eraseIdx_perm hlt).map fun q : OwnedUnit => f q.unit).sum_eq

/-- The sum after a unit has changed. -/
theorem total_set {v : UnitVec} {i : ℕ} {p : OwnedUnit} (hp : v.get? i = some p) (u : Unit)
    (f : Unit → ℤ) : f p.unit + (v.set i u).total f = v.total f + f u := by
  have herase := total_erase hp f
  have hset : (v.set i u).total f = f u + (v.erase i).total f := by
    rw [total, set_list hp]
    exact ((List.set_perm_cons_eraseIdx (get?_lt hp) ⟨p.ref, u⟩).map
      fun q : OwnedUnit => f q.unit).sum_eq
  omega

theorem total_mapUnits (v : UnitVec) {change : Unit → Unit} {f : Unit → ℤ}
    (h : ∀ u, f (change u) = f u) : (v.mapUnits change).total f = v.total f := by
  rw [total, total, mapUnits, List.map_map]
  exact congrArg List.sum (List.map_congr_left fun q _ => h q.unit)

theorem total_nonneg (v : UnitVec) {f : Unit → ℤ} (h : ∀ u, 0 ≤ f u) : 0 ≤ v.total f :=
  List.sum_nonneg fun c hc => by
    obtain ⟨q, -, rfl⟩ := List.mem_map.1 hc
    exact h q.unit

end UnitVec

/-- Where no health is negative the two agree. -/
theorem GameState.livingHealth_eq {s : GameState} (h : ∀ u ∈ s.units.list, 0 ≤ u.unit.health) :
    s.livingHealth = s.totalHealth :=
  congrArg List.sum (List.map_congr_left fun u hu => max_eq_right (h u hu))

namespace AttackAction

variable {a : AttackAction} {s s' : GameState} {p q : OwnedUnit} {combat : CombatResult}
  {attacker target : Unit}

/-- **A sum over the units after an attack**, in which the dead count as nothing. -/
theorem outcome_total (h : Round a s p q combat attacker target) {f : Unit → ℤ}
    (hf : ∀ u : Unit, u.health = 0 → f u = 0) :
    (a.outcome s p q attacker target).units.total f + f p.unit + f q.unit =
      s.units.total f + f attacker + f target := by
  obtain ⟨-, -, -, -, -, -, htdead, hadead, -⟩ := h.health
  have htarget := UnitVec.total_set h.checked.target target f
  have hattacker := UnitVec.total_set (h.checked.attacker_after target) attacker f
  have hfought : (a.fought s attacker target).units.total f + f p.unit + f q.unit =
      s.units.total f + f attacker + f target := by
    rw [fought, GameState.setUnit, GameState.setUnit]
    dsimp only
    omega
  rw [outcome]
  split
  · next hdead =>
      have hzero := hf target (htdead.1 (h.target_dead.1 hdead))
      have herase := UnitVec.total_erase (fought_get?_target h.checked attacker target) f
      rw [GameState.dropUnit]
      dsimp only at herase ⊢
      omega
  · split
    · next hdead =>
        have hzero := hf attacker (hadead.1 (h.attacker_dead.1 hdead))
        have herase := UnitVec.total_erase (fought_get?_attacker h.checked attacker target) f
        rw [GameState.dropUnit]
        dsimp only at herase ⊢
        omega
    · exact hfought

/-- The health after an attack, by the damage. -/
theorem outcome_totalHealth (h : Round a s p q combat attacker target) :
    (a.outcome s p q attacker target).totalHealth =
      s.totalHealth - combat.damageToDefender - combat.damageToAttacker := by
  obtain ⟨-, -, -, -, htarget, hattacker, -⟩ := h.health
  have htotal := outcome_total h (f := Unit.health) fun u hu => hu
  rw [GameState.totalHealth, GameState.totalHealth]
  omega

/-- The health of the living units after an attack. -/
theorem outcome_livingHealth (h : Round a s p q combat attacker target) :
    (a.outcome s p q attacker target).livingHealth =
      s.livingHealth - combat.damageToDefender - combat.damageToAttacker := by
  obtain ⟨-, hd1, -, ha1, htarget, hattacker, -⟩ := h.health
  have htotal := outcome_total h (f := fun u => max 0 u.health) fun u hu => by rw [hu]; rfl
  have hp : 0 < p.unit.health := of_decide_eq_true h.checked.attacker_alive
  have hq : 0 < q.unit.health := of_decide_eq_true h.checked.target_alive
  rw [GameState.livingHealth, GameState.livingHealth]
  omega

end AttackAction

/-! ### Runs without new units -/

/-- Whether an effect is an attack that is carried out. -/
def executesAttack (s : GameState) : Effect → Bool
  | .act (.attack a) =>
      match a.execute s with
      | .ok (_, result) => result.executed
      | .error _ => false
  | _ => false

/-- The effect adds no unit. -/
def Effect.AddsNoUnit (s : GameState) (effect : Effect) : Prop :=
  ∀ s', effect.apply s = some s' → ∀ ref ∈ s'.units.refs, ref ∈ s.units.refs

/-- An attack that is carried out, by what it has come to. -/
theorem executesAttack_eq_true {s s' : GameState} {effect : Effect}
    (h : executesAttack s effect = true) (hs : effect.apply s = some s') :
    ∃ a r, effect = .act (.attack a) ∧ a.execute s = .ok (s', r) ∧ r.executed = true := by
  cases effect with
  | nothing => cases h
  | order i item => cases h
  | turn unitRegistry => cases h
  | act action =>
      cases action with
      | move a => cases h
      | capture a => cases h
      | attack a =>
          rw [executesAttack] at h
          rw [Effect.apply] at hs
          cases hex : a.execute s with
          | error e =>
              rw [hex] at h
              cases h
          | ok out =>
              obtain ⟨s₁, r⟩ := out
              rw [hex] at h
              rw [GameAction.execute_attack.2 ⟨r, hex, rfl⟩] at hs
              obtain rfl := Option.some_inj.1 hs
              exact ⟨a, r, rfl, hex, h⟩

/-- **Every attack that is carried out takes health from the living.** -/
theorem AttackAction.livingHealth_lt {a : AttackAction} {s s' : GameState} {r : AttackResult}
    (h : a.execute s = .ok (s', r)) (hexecuted : r.executed = true) :
    s'.livingHealth < s.livingHealth := by
  obtain ⟨-, p, q, attacker, target, hround, rfl⟩ := AttackAction.cases_of_executed h hexecuted
  obtain ⟨hd0, -, ha0, -⟩ := hround.health
  rw [AttackAction.outcome_livingHealth hround]
  omega

/-- An action gives no health to a unit. -/
theorem GameAction.livingHealth_le {action : GameAction} {s s' : GameState} {executed : Bool}
    (h : action.execute s = .ok (s', executed)) : s'.livingHealth ≤ s.livingHealth := by
  cases action with
  | move a =>
      obtain ⟨r, hex, -⟩ := GameAction.execute_move.1 h
      obtain ⟨-, ⟨-, -, rfl⟩ | ⟨-, -, p, u, t, hp, -, hu, rfl⟩⟩ := MoveAction.execute_cases hex
      · exact le_refl _
      · have hsame := UnitVec.total_set hp u fun u => max 0 u.health
        rw [(Unit.moveTo_eq_ok hu).2.2.2.2.2.1] at hsame
        rw [GameState.livingHealth, GameState.livingHealth, GameState.relocate]
        dsimp only
        omega
  | capture a =>
      obtain ⟨r, hex, -⟩ := GameAction.execute_capture.1 h
      obtain ⟨-, ⟨-, -, rfl⟩ | ⟨-, -, p, i, city, -, rfl⟩⟩ := CaptureAction.execute_cases hex
      · exact le_refl _
      · exact le_refl _
  | attack a =>
      obtain ⟨r, hex, hr⟩ := GameAction.execute_attack.1 h
      cases executed with
      | false =>
          rw [(GameAction.execute_eq_ok h).2 rfl]
      | true => exact (AttackAction.livingHealth_lt hex hr).le

/-! ### Turns -/

/-- The units of a list are still there, and where there are no others the lists are the same. -/
def UnitVec.Kept (v w : UnitVec) : Prop :=
  (∀ ref ∈ v.refs, ref ∈ w.refs) ∧ ((∀ ref ∈ w.refs, ref ∈ v.refs) → w = v)

theorem UnitVec.Kept.refl (v : UnitVec) : v.Kept v := ⟨fun _ h => h, fun _ => rfl⟩

theorem UnitVec.Kept.trans {v w x : UnitVec} (h : v.Kept w) (h' : w.Kept x) : v.Kept x := by
  refine ⟨fun ref href => h'.1 ref (h.1 ref href), fun hno => ?_⟩
  have hw := h.2 fun ref href => hno ref (h'.1 ref href)
  rw [← hw]
  refine h'.2 fun ref href => ?_
  rw [hw]
  exact hno ref href

/-- A new unit has an address of its own. -/
theorem UnitVec.kept_push (v : UnitVec) (u : Unit) : v.Kept (v.push u) := by
  have hrefs : (v.push u).refs = v.refs ++ [v.freshRef] := by
    rw [UnitVec.refs, UnitVec.push, List.map_append]
    rfl
  constructor
  · intro ref href
    rw [hrefs]
    exact List.mem_append_left _ href
  · intro hno
    refine absurd (hno v.freshRef ?_) v.freshRef_not_mem
    rw [hrefs]
    exact List.mem_append_right _ (List.mem_singleton.2 rfl)

namespace TurnResolver

/-- The turns of the cities keep the units. -/
theorem resolveCitiesFrom_kept (unitRegistry : Option UnitTypeRegistry) (is : List ℕ) :
    ∀ s : GameState, s.units.Kept (resolveCitiesFrom unitRegistry s is).1.units := by
  induction is with
  | nil => intro s; exact UnitVec.Kept.refl s.units
  | cons i is ih =>
      intro s
      have hcity : s.units.Kept (resolveCity unitRegistry s i).1.units := by
        rcases resolveCity_units unitRegistry s i with hsame | ⟨-, u, hadd⟩
        · rw [hsame.units]
          exact UnitVec.Kept.refl s.units
        · rw [hadd.units]
          exact s.units.kept_push u
      rw [resolveCitiesFrom]
      split
      · next s₁ e hout => rw [hout] at hcity; exact hcity
      · next s₁ hout => rw [hout] at hcity; exact hcity.trans (ih s₁)

end TurnResolver

theorem UnitVec.refs_mapUnits (v : UnitVec) (change : Unit → Unit) :
    (v.mapUnits change).refs = v.refs := by
  rw [UnitVec.refs, UnitVec.mapUnits, List.map_map]
  rfl

/-- The end of a turn that adds no unit leaves every unit its health. -/
theorem livingHealth_resolveTurn {s : GameState} {unitRegistry : Option UnitTypeRegistry}
    (h : ∀ ref ∈ (resolveTurn s unitRegistry).1.units.refs, ref ∈ s.units.refs) :
    (resolveTurn s unitRegistry).1.livingHealth = s.livingHealth := by
  have hkept := TurnResolver.resolveCitiesFrom_kept unitRegistry (List.range s.cities.length) s
  rw [resolveTurn, TurnResolver.resolveCities] at h ⊢
  split at h
  · next s₁ e hout =>
      rw [hout] at hkept
      rw [GameState.livingHealth, hkept.2 h]
      rfl
  · next s₁ hout =>
      rw [hout] at hkept
      have hrefs : ∀ ref ∈ s₁.units.refs, ref ∈ s.units.refs := by
        intro ref href
        refine h ref ?_
        show ref ∈ (s₁.units.mapUnits Unit.resetMovement).refs
        rw [UnitVec.refs_mapUnits]
        exact href
      have hreset : (s₁.units.mapUnits Unit.resetMovement).total (fun u => max 0 u.health) =
          s₁.units.total fun u => max 0 u.health := UnitVec.total_mapUnits s₁.units fun _ => rfl
      exact hreset.trans (congrArg (fun v => v.total fun u => max 0 u.health) (hkept.2 hrefs))

/-- **An effect that adds no unit gives no health to one.** -/
theorem Effect.livingHealth_le {effect : Effect} {s s' : GameState} (hno : effect.AddsNoUnit s)
    (h : effect.apply s = some s') : s'.livingHealth ≤ s.livingHealth := by
  have hrefs := hno s' h
  cases effect with
  | nothing =>
      obtain rfl := Option.some_inj.1 h
      exact le_refl _
  | order i item =>
      obtain rfl := Option.some_inj.1 h
      rcases s.order_eq i item with hsame | ⟨city, -, hset⟩
      · rw [hsame]
      · rw [hset]
        exact le_refl _
  | turn unitRegistry =>
      obtain rfl := Option.some_inj.1 h
      exact (livingHealth_resolveTurn hrefs).le
  | act action =>
      rw [Effect.apply] at h
      cases hex : action.execute s with
      | error e => rw [hex] at h; cases h
      | ok out =>
          rw [hex] at h
          obtain rfl := Option.some_inj.1 h
          exact GameAction.livingHealth_le hex

/-! ### Attacks in a run -/

/-- **Every attack that is carried out takes health from the units, and in a run in which no unit is
added there are no more such attacks than there is health in the living units.**  That is the health
of all units where none is negative. -/
theorem attacks_le_livingHealth :
    (∀ (a : AttackAction) (s s' : GameState) (r : AttackResult), a.execute s = .ok (s', r) →
      r.executed = true → s'.totalHealth + minimumDamage ≤ s.totalHealth) ∧
    (∀ (s : GameState) (effects : List Effect),
      Runs.Along Effect.apply (fun s effect => effect.AddsNoUnit s) s effects →
      (Runs.count Effect.apply executesAttack s effects : ℤ) ≤ s.livingHealth) ∧
    ∀ s : GameState, (∀ u ∈ s.units.list, 0 ≤ u.unit.health) → s.livingHealth = s.totalHealth := by
  refine ⟨fun a s s' r h hexecuted => ?_, fun s effects hno => ?_, fun s =>
    GameState.livingHealth_eq⟩
  · obtain ⟨-, p, q, attacker, target, hround, rfl⟩ := AttackAction.cases_of_executed h hexecuted
    obtain ⟨hd0, -, ha0, -⟩ := hround.health
    rw [AttackAction.outcome_totalHealth hround, minimumDamage]
    omega
  · refine Runs.count_le GameState.livingHealth (fun s => ?_) (fun s effect s' => ?_)
      (fun s effect s' hattack hs => ?_) effects s hno
    · exact UnitVec.total_nonneg s.units fun u => le_max_left 0 u.health
    · exact Effect.livingHealth_le
    · obtain ⟨a, r, -, hex, hexecuted⟩ := executesAttack_eq_true hattack hs
      exact AttackAction.livingHealth_lt hex hexecuted

/-- The same bound for the attacks of the players of a session. -/
theorem GameSession.attacks_bounded (session : GameSession) (ops : List SessionOp)
    (hno : Runs.Along GameSession.step
      (fun session op => (op.effect session).AddsNoUnit session.state) session ops) :
    (Runs.count GameSession.step
      (fun session op => executesAttack session.state (op.effect session)) session ops : ℤ) ≤
        session.state.livingHealth := by
  refine Runs.count_le (fun session => session.state.livingHealth) (fun session => ?_)
    (fun session op session' hadds hs => ?_) (fun session op session' hattack hs => ?_) ops
    session hno
  · exact UnitVec.total_nonneg session.state.units fun u => le_max_left 0 u.health
  · exact Effect.livingHealth_le hadds (GameSession.step_eq_some hs)
  · obtain ⟨a, r, -, hex, hexecuted⟩ := executesAttack_eq_true hattack (GameSession.step_eq_some hs)
    exact AttackAction.livingHealth_lt hex hexecuted

/-- An attack adds no unit. -/
theorem Effect.addsNoUnit_attack (s : GameState) (a : AttackAction) :
    (Effect.act (.attack a)).AddsNoUnit s := by
  intro s' hs ref href
  rw [Effect.apply] at hs
  cases hex : a.execute s with
  | error e =>
      rw [GameAction.execute, hex] at hs
      cases hs
  | ok out =>
      obtain ⟨s₁, r⟩ := out
      rw [GameAction.execute_attack.2 ⟨r, hex, rfl⟩] at hs
      obtain rfl := Option.some_inj.1 hs
      rw [AttackAction.execute_refs hex, withoutCasualty.eq_def] at href
      split at href
      · exact href
      · exact List.mem_of_mem_eraseIdx href

/-- The last unit of a faction is attacked once. -/
theorem lastStand_attacks :
    (Runs.count Effect.apply executesAttack lastStandSession.state
      [.act (.attack { attackerIndex := 0, targetIndex := 1 }), .turn none] : ℤ) ≤
        lastStandSession.state.livingHealth := by
  refine attacks_le_livingHealth.2.1 _ _ ⟨Effect.addsNoUnit_attack _ _,
    fun s' _ => ⟨fun s'' hs => ?_,
    fun _ _ => trivial⟩⟩
  obtain rfl := Option.some_inj.1 hs
  intro ref href
  rw [resolveTurn_refs] at href
  exact href

/-- The same field with a unit whose template has a negative maximum of health. -/
def phantomField : GameState :=
  (lastStandSession.state.addUnit (Unit.create 1 1 { warriorTemplate with maxHealth := -300 } 1)).1

/-- An attack is carried out where the health of all units is below zero. -/
theorem phantomField_attacked :
    Runs.Along Effect.apply (fun s effect => effect.AddsNoUnit s) phantomField
        [.act (.attack { attackerIndex := 0, targetIndex := 1 })] ∧
      phantomField.totalHealth = -199 ∧
      Runs.count Effect.apply executesAttack phantomField
        [.act (.attack { attackerIndex := 0, targetIndex := 1 })] = 1 :=
  ⟨⟨Effect.addsNoUnit_attack _ _, fun _ _ => trivial⟩, rfl, rfl⟩

end My4X
