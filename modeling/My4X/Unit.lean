/-
**Units and their templates.**

A unit takes its stats from a template and changes through a fixed set of setters.  What the
setters keep is part of the type: health and movement never leave the interval between zero and
the template's value (a template with a negative value apart), experience is never negative, and
the level is the one the experience gives.

Main definitions:

* `My4X.Resource`, `My4X.UnitTemplate` — resources and the stats of a unit type;
* `My4X.Unit` — a unit with the bounds its setters keep;
* `My4X.Unit.moveTo`, `My4X.Unit.takeDamage`, `My4X.Unit.setHealth`,
  `My4X.Unit.setMovementRemaining`, `My4X.Unit.addExperience`, … — the setters;
* `My4X.UnitTypeRegistry` — the templates by key.

Main results:

* `My4X.Unit.setHealth_self`, `My4X.Unit.setMovementRemaining_self` — writing back a health or a
  movement that is not negative restores it.
-/

import My4X.Fault
import My4X.Hex
import Mathlib.Data.List.AList

set_option relaxedAutoImplicit false
set_option autoImplicit false

namespace My4X

/-- The identifier of a faction, `std::uint32_t`. -/
abbrev FactionId := UInt32

/-! ### Resources -/

/-- Amounts of the three resources. -/
structure Resource where
  gold : ℤ := 0
  production : ℤ := 0
  food : ℤ := 0
  deriving DecidableEq, Repr

instance : Add Resource :=
  ⟨fun a b => ⟨a.gold + b.gold, a.production + b.production, a.food + b.food⟩⟩

/-! ### Templates -/

/-- The stats of a unit type. -/
structure UnitTemplate where
  name : String
  maxHealth : ℤ := 0
  attack : ℤ := 0
  defense : ℤ := 0
  movementRange : ℤ := 0
  attackRange : ℤ := 1
  sightRange : ℤ := 2
  productionCost : Resource := {}
  modelKey : String := ""
  deriving DecidableEq, Repr

/-- The experience at which each level starts. -/
def xpThresholds : List ℤ := [100, 250, 500, 750, 1000]

/-- The flat bonus to attack and defense for each level. -/
def statBonusPerLevel : ℤ := 2

/-- The maximum level. -/
def maxUnitLevel : ℤ := 5

/-- The level of an experience: the thresholds are passed in order, up to the first one that is
not reached. -/
def levelOf (experience : ℤ) : ℤ :=
  min ((xpThresholds.takeWhile (· ≤ experience)).length : ℤ) maxUnitLevel

/-! ### Units -/

/-- A unit.  The last five fields are what every setter keeps. -/
structure Unit where
  row : ℤ
  col : ℤ
  health : ℤ
  movementRemaining : ℤ
  factionId : FactionId
  template : UnitTemplate
  experience : ℤ := 0
  level : ℤ := 0
  justLeveledUp : Bool := false
  health_le : health ≤ max 0 template.maxHealth
  health_ge : min 0 template.maxHealth ≤ health
  movement_le : movementRemaining ≤ max 0 template.movementRange
  movement_ge : min 0 template.movementRange ≤ movementRemaining
  experience_level : 0 ≤ experience ∧ level = levelOf experience
  deriving DecidableEq

namespace Unit

/-- The constructor. -/
def create (row col : ℤ) (tmpl : UnitTemplate) (factionId : FactionId) : Unit where
  row := row
  col := col
  health := tmpl.maxHealth
  movementRemaining := tmpl.movementRange
  factionId := factionId
  template := tmpl
  health_le := by omega
  health_ge := by omega
  movement_le := by omega
  movement_ge := by omega
  experience_level := ⟨le_refl 0, rfl⟩

/-- The tile the unit stands on. -/
def coord (u : Unit) : TileCoord := ⟨u.row, u.col⟩

def isAlive (u : Unit) : Bool := 0 < u.health

/-- The attack with the bonus of the level. -/
def attack (u : Unit) : ℤ := u.template.attack + u.level * statBonusPerLevel

/-- The defense with the bonus of the level. -/
def defense (u : Unit) : ℤ := u.template.defense + u.level * statBonusPerLevel

def attackRange (u : Unit) : ℤ := u.template.attackRange

/-- Moves the unit and pays for it; the cost is asserted to be positive and affordable. -/
def moveTo (u : Unit) (row col cost : ℤ) : Except Fault Unit :=
  if h : 0 < cost ∧ cost ≤ u.movementRemaining then
    .ok { u with
      row, col
      movementRemaining := u.movementRemaining - cost
      movement_le := by have := u.movement_le; omega
      movement_ge := by have := u.movement_ge; omega }
  else .error .assertion

/-- Sets the position without paying for it. -/
def setPosition (u : Unit) (row col : ℤ) : Unit := { u with row, col }

/-- Takes damage, which is asserted not to be negative; health stops at zero. -/
def takeDamage (u : Unit) (amount : ℤ) : Except Fault Unit :=
  if h : 0 ≤ amount then
    .ok { u with
      health := max 0 (u.health - amount)
      health_le := by have := u.health_le; omega
      health_ge := by omega }
  else .error .assertion

def resetMovement (u : Unit) : Unit :=
  { u with
    movementRemaining := u.template.movementRange
    movement_le := by omega
    movement_ge := by omega }

/-- Takes back the sign that the unit has just risen a level. -/
def clearLevelUpFlag (u : Unit) : Unit := { u with justLeveledUp := false }

/-- Sets the health, clamped to the interval from zero to the maximum. -/
def setHealth (u : Unit) (health : ℤ) : Unit :=
  { u with
    health := max 0 (min health u.template.maxHealth)
    health_le := by omega
    health_ge := by omega }

/-- Sets the movement, clamped to the interval from zero to the movement range. -/
def setMovementRemaining (u : Unit) (remaining : ℤ) : Unit :=
  { u with
    movementRemaining := max 0 (min remaining u.template.movementRange)
    movement_le := by omega
    movement_ge := by omega }

/-- Awards experience and recomputes the level; an award that is not positive does nothing.  Also
reports whether the level rose. -/
def addExperience (u : Unit) (xp : ℤ) : Unit × Bool :=
  if h : xp ≤ 0 then (u, false)
  else
    let leveledUp : Bool := u.level < levelOf (u.experience + xp)
    ({ u with
        experience := u.experience + xp
        level := levelOf (u.experience + xp)
        justLeveledUp := leveledUp || u.justLeveledUp
        experience_level := ⟨by have := u.experience_level.1; omega, rfl⟩ },
      leveledUp)

/-- Sets the experience, which stops at zero, and recomputes the level. -/
def setExperience (u : Unit) (xp : ℤ) : Unit :=
  { u with
    experience := max 0 xp
    level := levelOf (max 0 xp)
    experience_level := ⟨by omega, rfl⟩ }

/-! ### Reading back -/

/-- **Writing back a health that is not negative restores it.** -/
theorem setHealth_self {u v : Unit} (ht : v.template = u.template) (h : 0 ≤ u.health) :
    (v.setHealth u.health).health = u.health := by
  have hle := u.health_le
  simp only [setHealth, ht]
  omega

/-- **Writing back a movement that is not negative restores it.** -/
theorem setMovementRemaining_self {u v : Unit} (ht : v.template = u.template)
    (h : 0 ≤ u.movementRemaining) :
    (v.setMovementRemaining u.movementRemaining).movementRemaining = u.movementRemaining := by
  have hle := u.movement_le
  simp only [setMovementRemaining, ht]
  omega

theorem moveTo_eq_ok {u u' : Unit} {row col cost : ℤ} (h : u.moveTo row col cost = .ok u') :
    0 < cost ∧ cost ≤ u.movementRemaining ∧ u'.row = row ∧ u'.col = col ∧
      u'.movementRemaining = u.movementRemaining - cost ∧ u'.health = u.health ∧
      u'.factionId = u.factionId ∧ u'.template = u.template ∧ u'.experience = u.experience ∧
      u'.level = u.level ∧ u'.justLeveledUp = u.justLeveledUp := by
  rw [moveTo] at h
  split at h
  · next hc =>
      obtain rfl := Except.ok.inj h
      exact ⟨hc.1, hc.2, rfl, rfl, rfl, rfl, rfl, rfl, rfl, rfl, rfl⟩
  · simp at h

theorem moveTo_ok {u : Unit} {cost : ℤ} (row col : ℤ) (h : 0 < cost)
    (h' : cost ≤ u.movementRemaining) :
    ∃ u', u.moveTo row col cost = .ok u' := by
  rw [moveTo, dif_pos ⟨h, h'⟩]
  exact ⟨_, rfl⟩

end Unit

/-! ### The registry of unit types -/

/-- The templates by key; a map with distinct keys. -/
structure UnitTypeRegistry where
  templates : AList fun _ : String => UnitTemplate

namespace UnitTypeRegistry

def empty : UnitTypeRegistry := ⟨∅⟩

def hasTemplate (reg : UnitTypeRegistry) (key : String) : Bool :=
  (reg.templates.lookup key).isSome

/-- Registers a template under a key that is not taken yet. -/
def registerTemplate (reg : UnitTypeRegistry) (key : String) (tmpl : UnitTemplate) :
    Except Fault UnitTypeRegistry :=
  if reg.hasTemplate key then
    .error (.invalidArgument ("UnitTemplate already registered: " ++ key))
  else .ok ⟨reg.templates.insert key tmpl⟩

/-- The template registered under a key. -/
def getTemplate (reg : UnitTypeRegistry) (key : String) : Except Fault UnitTemplate :=
  match reg.templates.lookup key with
  | some tmpl => .ok tmpl
  | none => .error (.outOfRange ("UnitTemplate not found: " ++ key))

end UnitTypeRegistry

/-- The built-in warrior. -/
def warriorTemplate : UnitTemplate where
  name := "Warrior"
  maxHealth := 100
  attack := 15
  defense := 10
  movementRange := 2
  attackRange := 1
  sightRange := 2
  productionCost := { gold := 0, production := 20, food := 0 }
  modelKey := "unit_warrior"

/-- The built-in archer. -/
def archerTemplate : UnitTemplate where
  name := "Archer"
  maxHealth := 70
  attack := 12
  defense := 5
  movementRange := 2
  attackRange := 3
  sightRange := 3
  productionCost := { gold := 0, production := 25, food := 0 }
  modelKey := "unit_archer"

/-- The built-in settler. -/
def settlerTemplate : UnitTemplate where
  name := "Settler"
  maxHealth := 50
  attack := 0
  defense := 3
  movementRange := 3
  attackRange := 0
  sightRange := 2
  productionCost := { gold := 0, production := 40, food := 0 }
  modelKey := "unit_settler"

/-- Registers the built-in unit types. -/
def UnitTypeRegistry.registerDefaults (reg : UnitTypeRegistry) : Except Fault UnitTypeRegistry := do
  let reg ← reg.registerTemplate "Warrior" warriorTemplate
  let reg ← reg.registerTemplate "Archer" archerTemplate
  reg.registerTemplate "Settler" settlerTemplate

end My4X
