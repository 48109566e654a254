/-
**Factions and diplomacy.**

The faction registry owns the factions and hands out their identifiers; the diplomacy manager
keeps one relation for each unordered pair of factions.

Main definitions:

* `My4X.Faction`, `My4X.FactionRegistry` — factions and the list of the registered ones;
* `My4X.DiplomacyManager`, `My4X.DiplomacyManager.getRelation`,
  `My4X.DiplomacyManager.setRelation` — the relations by canonical pair;
* `My4X.DiplomacyManager.initializeDefaults` — the relations by faction type.

Main results:

* `My4X.DiplomacyManager.getRelation_comm`, `My4X.DiplomacyManager.getRelation_self` — relations
  are symmetric, and a faction is at peace with itself.
-/

import My4X.Unit

set_option relaxedAutoImplicit false
set_option autoImplicit false

namespace My4X

/-! ### Factions -/

/-- The kind of a faction. -/
inductive FactionType
  | player
  | neutralHostile
  | neutralPassive
  deriving DecidableEq, Repr

/-- A faction with its stockpile. -/
structure Faction where
  id : FactionId
  name : String
  type : FactionType
  colorIndex : UInt8
  stockpile : Resource := {}
  deriving DecidableEq

/-- The registered factions and the next identifier. -/
structure FactionRegistry where
  factions : List Faction := []
  nextFactionId : FactionId := 1
  deriving DecidableEq

namespace FactionRegistry

/-- Registers a new faction. -/
def addFaction (reg : FactionRegistry) (name : String) (type : FactionType) (colorIndex : UInt8) :
    FactionRegistry × FactionId :=
  let id := reg.nextFactionId
  ({ factions := reg.factions ++ [{ id, name, type, colorIndex }], nextFactionId := id + 1 }, id)

/-- The first faction with an identifier. -/
def findFaction (reg : FactionRegistry) (id : FactionId) : Option Faction :=
  reg.factions.find? (·.id = id)

end FactionRegistry

/-! ### Diplomacy -/

/-- The relation of two factions. -/
inductive DiplomacyState
  | war
  | peace
  | alliance
  deriving DecidableEq, Repr

/-- The relations that were set, by canonical pair. -/
structure DiplomacyManager where
  relations : AList fun _ : FactionId × FactionId => DiplomacyState

namespace DiplomacyManager

def empty : DiplomacyManager := ⟨∅⟩

/-- The canonical key of a pair, the smaller identifier first. -/
def makeKey (a b : FactionId) : FactionId × FactionId := if a < b then (a, b) else (b, a)

/-- The relation of two factions, peace when none was set. -/
def getRelation (d : DiplomacyManager) (factionA factionB : FactionId) : DiplomacyState :=
  if factionA = factionB then .peace
  else (d.relations.lookup (makeKey factionA factionB)).getD .peace

/-- Sets the relation of two different factions. -/
def setRelation (d : DiplomacyManager) (factionA factionB : FactionId) (state : DiplomacyState) :
    DiplomacyManager :=
  if factionA = factionB then d
  else ⟨d.relations.insert (makeKey factionA factionB) state⟩

def areAtWar (d : DiplomacyManager) (factionA factionB : FactionId) : Bool :=
  d.getRelation factionA factionB = .war

def areAllied (d : DiplomacyManager) (factionA factionB : FactionId) : Bool :=
  d.getRelation factionA factionB = .alliance

/-- The relation two faction types start with. -/
def defaultRelation : FactionType → FactionType → DiplomacyState
  | .player, .player => .war
  | .player, .neutralHostile | .neutralHostile, .player => .war
  | .player, .neutralPassive | .neutralPassive, .player => .peace
  | .neutralHostile, .neutralPassive | .neutralPassive, .neutralHostile => .war
  | .neutralHostile, .neutralHostile => .peace
  | .neutralPassive, .neutralPassive => .peace

/-- Sets the default relations of a faction to the factions registered after it, and so on. -/
def initializeFrom (d : DiplomacyManager) : List Faction → DiplomacyManager
  | [] => d
  | f :: rest =>
      initializeFrom
        (rest.foldl (fun d g => d.setRelation f.id g.id (defaultRelation f.type g.type)) d) rest

/-- Sets the default relation of every pair of registered factions. -/
def initializeDefaults (d : DiplomacyManager) (registry : FactionRegistry) : DiplomacyManager :=
  d.initializeFrom registry.factions

theorem makeKey_comm (a b : FactionId) : makeKey a b = makeKey b a := by
  simp only [makeKey]
  by_cases hab : a < b
  · rw [if_pos hab, if_neg (UInt32.lt_asymm hab)]
  · by_cases hba : b < a
    · rw [if_neg hab, if_pos hba]
    · obtain rfl := UInt32.le_antisymm (UInt32.not_lt.1 hba) (UInt32.not_lt.1 hab)
      rfl

/-- A faction is at peace with itself. -/
@[simp] theorem getRelation_self (d : DiplomacyManager) (a : FactionId) :
    d.getRelation a a = .peace := by
  rw [getRelation, if_pos rfl]

/-- Relations are symmetric. -/
theorem getRelation_comm (d : DiplomacyManager) (a b : FactionId) :
    d.getRelation a b = d.getRelation b a := by
  rw [getRelation, getRelation, makeKey_comm a b]
  by_cases h : a = b
  · rw [if_pos h, if_pos h.symm]
  · rw [if_neg h, if_neg (Ne.symm h)]

end DiplomacyManager

end My4X
