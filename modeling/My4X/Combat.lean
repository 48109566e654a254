/-
**Combat.**

One round of combat is computed from the two units and the terrain they stand on, without
changing either.  The attack action then applies the result to both units.  At most one of the two
dies: a defender that dies does not strike back.

Main definitions:

* `My4X.CombatResult`, `My4X.CombatContext`, `My4X.resolveCombat` — the round;
* `My4X.applyCombat` — what the round does to the two units.

Main results:

* `My4X.resolveCombat_bounds` — the damage a living unit takes, and when it dies of it;
* `My4X.applyCombat_ok` — **what a round between two living units does to them**.
-/

import My4X.Unit

set_option relaxedAutoImplicit false
set_option autoImplicit false

namespace My4X

/-- The result of a round of combat. -/
structure CombatResult where
  damageToDefender : ℤ := 0
  damageToAttacker : ℤ := 0
  defenderDied : Bool := false
  attackerDied : Bool := false
  deriving DecidableEq, Repr

/-- The circumstances of a round of combat. -/
structure CombatContext where
  terrainDefenseBonus : ℤ := 0
  attackerTerrainDefenseBonus : ℤ := 0
  rangedAttack : Bool := false
  deriving DecidableEq, Repr

/-- The least damage an attack deals. -/
def minimumDamage : ℤ := 1

/-- The divisor of the defense. -/
def defenseDivisor : ℤ := 2

/-- The range of a melee attack. -/
def meleeRange : ℤ := 1

/-- The damage a strike deals; the division truncates toward zero. -/
def computeDamage (attackStat defenseStat terrainBonus : ℤ) : ℤ :=
  let effectiveDefense := defenseStat + terrainBonus
  let rawDamage := attackStat - effectiveDefense.tdiv defenseDivisor
  max minimumDamage rawDamage

/-- One round: the attacker strikes, and a melee defender that survives a melee attack strikes
back.  No strike takes more than the remaining health. -/
def resolveCombat (attacker defender : Unit) (context : CombatContext) : CombatResult :=
  let damageToDefender :=
    min (computeDamage attacker.attack defender.defense context.terrainDefenseBonus)
      defender.health
  let defenderDied : Bool := defender.health ≤ damageToDefender
  if defender.attackRange = meleeRange ∧ defenderDied = false ∧ context.rangedAttack = false then
    let damageToAttacker :=
      min (computeDamage defender.attack attacker.defense context.attackerTerrainDefenseBonus)
        attacker.health
    { damageToDefender, damageToAttacker, defenderDied
      attackerDied := attacker.health ≤ damageToAttacker }
  else { damageToDefender, defenderDied }

theorem computeDamage_pos (attackStat defenseStat terrainBonus : ℤ) :
    0 < computeDamage attackStat defenseStat terrainBonus := by
  unfold computeDamage minimumDamage
  dsimp only
  omega

/-- The damage two living units take in a round, and when they die of it.  At most one of them
does. -/
theorem resolveCombat_bounds {attacker defender : Unit} {context : CombatContext}
    {combat : CombatResult} (hcombat : resolveCombat attacker defender context = combat)
    (ha : 0 < attacker.health) (hd : 0 < defender.health) :
    0 < combat.damageToDefender ∧ combat.damageToDefender ≤ defender.health ∧
      0 ≤ combat.damageToAttacker ∧ combat.damageToAttacker ≤ attacker.health ∧
      (combat.defenderDied = true ↔ combat.damageToDefender = defender.health) ∧
      (combat.attackerDied = true ↔ combat.damageToAttacker = attacker.health) ∧
      (combat.defenderDied = true → combat.attackerDied = false) := by
  have hstrike := computeDamage_pos attacker.attack defender.defense context.terrainDefenseBonus
  have hback :=
    computeDamage_pos defender.attack attacker.defense context.attackerTerrainDefenseBonus
  rw [resolveCombat] at hcombat
  dsimp only at hcombat
  split at hcombat
  · next hstrikes =>
      -- a defender that strikes back has survived
      have hsurvives := hstrikes.2.1
      subst hcombat
      simp only [decide_eq_true_eq, decide_eq_false_iff_not] at hsurvives ⊢
      omega
  · -- no strike, no damage
    subst hcombat
    simp only [decide_eq_true_eq]
    refine ⟨by omega, by omega, le_refl 0, ha.le, by omega, ?_, fun _ => trivial⟩
    constructor
    · intro h
      exact absurd h Bool.false_ne_true
    · intro h
      omega

/-! ### Applying a round -/

/-- The experience for each point of damage. -/
def xpPerDamageDealt : ℤ := 3

/-- The bonus experience for a kill. -/
def xpKillBonus : ℤ := 50

/-- The experience for surviving an attack. -/
def xpDefendSurvive : ℤ := 10

/-- The movement an attack costs. -/
def attackMovementCost : ℤ := 1

/-- What a surviving attacker learns. -/
def awardAttacker (attacker : Unit) (combat : CombatResult) : Unit :=
  if attacker.isAlive then
    (attacker.addExperience (combat.damageToDefender * xpPerDamageDealt +
      if combat.defenderDied then xpKillBonus else 0)).1
  else attacker

/-- What a surviving target learns. -/
def awardDefender (target : Unit) (combat : CombatResult) : Unit :=
  if target.isAlive then
    (target.addExperience (xpDefendSurvive +
      (if 0 < combat.damageToAttacker then combat.damageToAttacker * xpPerDamageDealt else 0) +
      if combat.attackerDied then xpKillBonus else 0)).1
  else target

/-- What a round does to the attacker and the target: both take their damage, the survivors learn
from it, and the attacker pays for the attack. -/
def applyCombat (attacker target : Unit) (combat : CombatResult) : Except Fault (Unit × Unit) := do
  let target ← target.takeDamage combat.damageToDefender
  let attacker ← attacker.takeDamage combat.damageToAttacker
  let attacker := awardAttacker attacker combat
  let target := awardDefender target combat
  let newMovement := attacker.movementRemaining - attackMovementCost
  return (attacker.setMovementRemaining (max 0 newMovement), target)

/-- What a unit keeps through a round. -/
structure SameSoldier (u u' : Unit) : Prop where
  row : u'.row = u.row
  col : u'.col = u.col
  factionId : u'.factionId = u.factionId
  template : u'.template = u.template

theorem SameSoldier.refl (u : Unit) : SameSoldier u u := ⟨rfl, rfl, rfl, rfl⟩

theorem SameSoldier.trans {u v w : Unit} (h : SameSoldier u v) (h' : SameSoldier v w) :
    SameSoldier u w :=
  ⟨h'.row.trans h.row, h'.col.trans h.col, h'.factionId.trans h.factionId,
    h'.template.trans h.template⟩

theorem SameSoldier.coord_eq {u u' : Unit} (h : SameSoldier u u') : u'.coord = u.coord := by
  rw [Unit.coord, Unit.coord, h.row, h.col]

/-- Experience changes neither the health nor the movement. -/
theorem addExperience_same (u : Unit) (xp : ℤ) :
    SameSoldier u (u.addExperience xp).1 ∧ (u.addExperience xp).1.health = u.health ∧
      (u.addExperience xp).1.movementRemaining = u.movementRemaining := by
  rw [Unit.addExperience]
  split
  · exact ⟨SameSoldier.refl u, rfl, rfl⟩
  · exact ⟨⟨rfl, rfl, rfl, rfl⟩, rfl, rfl⟩

theorem awardAttacker_same (u : Unit) (combat : CombatResult) :
    SameSoldier u (awardAttacker u combat) ∧ (awardAttacker u combat).health = u.health ∧
      (awardAttacker u combat).movementRemaining = u.movementRemaining := by
  rw [awardAttacker]
  split
  · exact addExperience_same u _
  · exact ⟨SameSoldier.refl u, rfl, rfl⟩

theorem awardDefender_same (u : Unit) (combat : CombatResult) :
    SameSoldier u (awardDefender u combat) ∧ (awardDefender u combat).health = u.health ∧
      (awardDefender u combat).movementRemaining = u.movementRemaining := by
  rw [awardDefender]
  split
  · exact addExperience_same u _
  · exact ⟨SameSoldier.refl u, rfl, rfl⟩

theorem takeDamage_ok {u : Unit} {amount : ℤ} (h : 0 ≤ amount) (h' : amount ≤ u.health) :
    ∃ u', u.takeDamage amount = .ok u' ∧ SameSoldier u u' ∧ u'.health = u.health - amount ∧
      u'.movementRemaining = u.movementRemaining := by
  rw [Unit.takeDamage, dif_pos h]
  exact ⟨_, rfl, ⟨rfl, rfl, rfl, rfl⟩, by dsimp only; omega, rfl⟩

theorem takeDamage_eq_ok {u u' : Unit} {amount : ℤ} (h : u.takeDamage amount = .ok u') :
    u'.health = max 0 (u.health - amount) := by
  rw [Unit.takeDamage] at h
  split at h
  · obtain rfl := Except.ok.inj h
    rfl
  · cases h

/-- The health of the two units after a round has been applied to them. -/
theorem applyCombat_health {attacker target attacker' target' : Unit} {combat : CombatResult}
    (h : applyCombat attacker target combat = .ok (attacker', target')) :
    attacker'.health = max 0 (attacker.health - combat.damageToAttacker) ∧
      target'.health = max 0 (target.health - combat.damageToDefender) := by
  obtain ⟨target₁, htake, h⟩ := Except.bind_eq_ok.1 h
  obtain ⟨attacker₁, hatake, h⟩ := Except.bind_eq_ok.1 h
  obtain ⟨rfl, rfl⟩ := Prod.mk.inj (Except.ok.inj h)
  rw [← takeDamage_eq_ok htake, ← takeDamage_eq_ok hatake]
  exact ⟨(awardAttacker_same attacker₁ combat).2.1, (awardDefender_same target₁ combat).2.1⟩

/-- **What a round between two living units does to them**: they lose the damage, the attacker also
pays for the attack, and they are dead exactly when the round says so. -/
theorem applyCombat_ok {attacker target : Unit} {context : CombatContext} {combat : CombatResult}
    (hcombat : resolveCombat attacker target context = combat) (ha : attacker.isAlive = true)
    (ht : target.isAlive = true) (hm : attackMovementCost ≤ attacker.movementRemaining) :
    ∃ attacker' target', applyCombat attacker target combat = .ok (attacker', target') ∧
      SameSoldier attacker attacker' ∧ SameSoldier target target' ∧
      attacker'.movementRemaining = attacker.movementRemaining - attackMovementCost ∧
      target'.movementRemaining = target.movementRemaining ∧
      target'.health < target.health ∧
      (attacker'.isAlive = false ↔ combat.attackerDied = true) ∧
      (target'.isAlive = false ↔ combat.defenderDied = true) := by
  have ha' : 0 < attacker.health := of_decide_eq_true ha
  have ht' : 0 < target.health := of_decide_eq_true ht
  obtain ⟨hd0, hd1, ha0, ha1, hdead, hadead, -⟩ := resolveCombat_bounds hcombat ha' ht'
  obtain ⟨target₁, htake, hsame, hhealth, hmove⟩ := takeDamage_ok hd0.le hd1
  obtain ⟨attacker₁, hatake, hasame, hahealth, hamove⟩ := takeDamage_ok ha0 ha1
  obtain ⟨hsame₂, hhealth₂, hmove₂⟩ := awardDefender_same target₁ combat
  obtain ⟨hasame₂, hahealth₂, hamove₂⟩ := awardAttacker_same attacker₁ combat
  let attacker₂ := awardAttacker attacker₁ combat
  let attacker' :=
    attacker₂.setMovementRemaining (max 0 (attacker₂.movementRemaining - attackMovementCost))
  have hpaid : SameSoldier attacker₂ attacker' ∧ attacker'.health = attacker₂.health :=
    ⟨⟨rfl, rfl, rfl, rfl⟩, rfl⟩
  refine ⟨attacker', awardDefender target₁ combat, ?_, hasame.trans (hasame₂.trans hpaid.1),
    hsame.trans hsame₂, ?_, hmove₂.trans hmove, by omega, ?_, ?_⟩
  · rw [applyCombat]
    rw [htake, Except.ok_bind, hatake, Except.ok_bind]
    rfl
  · -- the new movement is not negative and within the range, so that it is not clamped
    have hle := attacker₂.movement_le
    have hmv : attacker₂.movementRemaining = attacker.movementRemaining := hamove₂.trans hamove
    simp only [attacker', Unit.setMovementRemaining, hmv]
    unfold attackMovementCost at hm ⊢
    omega
  · rw [hadead, Unit.isAlive, decide_eq_false_iff_not, hpaid.2, hahealth₂, hahealth]
    omega
  · rw [hdead, Unit.isAlive, decide_eq_false_iff_not]
    omega

end My4X
