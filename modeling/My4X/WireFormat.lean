/-
**The wire format.**

A save is a message in the wire format of its schema: each field that differs from its default is
written as a key, made of its number and the kind of its content, and the content.  This module says
which bytes a message is written as, and gives a codec that knows one message.

Main definitions:

* `My4X.Wire.varint`, `My4X.Wire.intField`, `My4X.Wire.lengthField` — numbers and fields;
* `My4X.Wire.gameState` — the bytes of a save;
* `My4X.Codec.only` — the codec, as far as one message goes.

Main results:

* `My4X.Codec.only_exact`, `My4X.Codec.only_cutsShort` — what this codec writes it reads back, and
  of what was cut off it reads no other message.
-/

import My4X.SaveContents

set_option relaxedAutoImplicit false
set_option autoImplicit false

namespace My4X

namespace Wire

/-! ### Fields -/

/-- The groups of seven bits of a number, the lowest first, all but the last with the high bit
set. -/
def varintFrom : ℕ → ℕ → List UInt8
  | 0, _ => []
  | fuel + 1, n =>
      if n < 128 then [UInt8.ofNat n]
      else UInt8.ofNat (n % 128 + 128) :: varintFrom fuel (n / 128)

/-- A number of 64 bits takes ten bytes at most. -/
def varint (n : ℕ) : List UInt8 := varintFrom 10 n

/-- A signed number, in two's complement of 64 bits. -/
def int32 (z : ℤ) : List UInt8 := varint (z % 2 ^ 64).toNat

/-- The key of a field. -/
def key (field kind : ℕ) : List UInt8 := varint (field * 8 + kind)

/-- A field with a number, left out when it is zero. -/
def intField (field : ℕ) (z : ℤ) : List UInt8 := if z = 0 then [] else key field 0 ++ int32 z

/-- A field with a content of some length. -/
def lengthField (field : ℕ) (content : List UInt8) : List UInt8 :=
  key field 2 ++ varint content.length ++ content

/-- A field with a text, left out when it is empty. -/
def stringField (field : ℕ) (s : String) : List UInt8 :=
  if s = "" then [] else lengthField field s.toUTF8.data.toList

/-- A field with several numbers, left out when there are none. -/
def packedField (field : ℕ) (numbers : List ℤ) : List UInt8 :=
  if numbers = [] then [] else lengthField field (numbers.flatMap int32)

/-- A field with several messages. -/
def repeatedField {α : Type} (field : ℕ) (write : α → List UInt8) (messages : List α) :
    List UInt8 :=
  messages.flatMap fun message => lengthField field (write message)

/-! ### Messages -/

def resource (m : Proto.Resource) : List UInt8 :=
  intField 1 m.gold ++ intField 2 m.production ++ intField 3 m.food

def tile (m : Proto.Tile) : List UInt8 :=
  intField 1 m.row ++ intField 2 m.col ++ intField 3 m.terrain

def map (m : Proto.Map) : List UInt8 :=
  intField 1 m.width ++ intField 2 m.height ++ repeatedField 3 tile m.tiles

def buildQueueItem (m : Proto.BuildQueueItem) : List UInt8 :=
  stringField 1 m.name ++ intField 2 m.productionCost ++ intField 3 m.targetRow ++
    intField 4 m.targetCol ++ intField 5 m.orderType ++ stringField 6 m.templateKey

def city (m : Proto.City) : List UInt8 :=
  intField 1 m.id.toNat ++ stringField 2 m.name ++ intField 3 m.centerRow ++
    intField 4 m.centerCol ++ intField 5 m.factionId.toInt ++ intField 6 m.population ++
    packedField 7 m.tileRows ++ packedField 8 m.tileCols ++
    repeatedField 9 buildQueueItem m.buildQueueItems ++ intField 10 m.accumulatedProduction ++
    intField 11 m.foodSurplus

def building (m : Proto.Building) : List UInt8 :=
  intField 1 m.id.toNat ++ stringField 2 m.name ++ packedField 3 m.tileRows ++
    packedField 4 m.tileCols ++ lengthField 5 (resource m.yieldPerTurn) ++
    lengthField 6 (resource m.constructionCost) ++ packedField 7 m.allowedTerrains ++
    stringField 8 m.modelKey ++ intField 9 m.factionId.toNat ++
    intField 10 (if m.underConstruction then 1 else 0)

def unit (m : Proto.Unit) : List UInt8 :=
  intField 2 m.type ++ intField 3 m.row ++ intField 4 m.col ++ intField 5 m.health ++
    intField 6 m.movementRemaining ++ intField 7 m.factionId.toInt ++ intField 8 m.experience

/-- **The bytes of a save.** -/
def gameState (m : Proto.GameState) : List UInt8 :=
  intField 1 m.turn ++ lengthField 2 (map m.map) ++ repeatedField 3 city m.cities ++
    repeatedField 4 building m.buildings ++ repeatedField 5 unit m.units ++
    lengthField 6 (resource m.factionResources) ++ intField 7 m.schemaVersion.toNat ++
    intField 8 m.nextCityId.toNat ++ intField 9 m.nextBuildingId.toNat

example : gameState hamletMessage = hamletBytes := by decide

end Wire

/-! ### One message -/

theorem Wire.gameState_ne_nil (m : Proto.GameState) : Wire.gameState m ≠ [] := by
  have hkey : Wire.key 2 2 ≠ [] := by decide
  simp [Wire.gameState, Wire.lengthField, hkey]

/-- The codec, as far as one message goes. -/
def Codec.only (m : Proto.GameState) : Codec where
  serialize message := if message = m then some (Wire.gameState m) else none
  parse data :=
    if data = [] then some {} else if data = Wire.gameState m then some m else none
  parse_nil := if_pos rfl

/-- **What this codec writes it reads back.** -/
theorem Codec.only_exact (m : Proto.GameState) : (Codec.only m).Exact := by
  intro message data h
  simp only [Codec.only] at h ⊢
  split at h
  · next hmessage =>
      obtain rfl := Option.some_inj.1 h
      rw [if_neg (Wire.gameState_ne_nil m), if_pos rfl, hmessage]
  · cases h

/-- The codec of the message of a state writes it. -/
theorem serialize_only {s : GameState} {m : Proto.GameState} (hmessage : toMessage s = .ok m) :
    serializeGameState (Codec.only m) s = .ok (Wire.gameState m) := by
  rw [serializeGameState]
  rw [hmessage, Except.ok_bind]
  simp only [Codec.only, if_true]
  rfl

/-- A message is one that nothing was cut off. -/
theorem Proto.GameState.CutOf.refl (m : Proto.GameState) : m.CutOf m :=
  ⟨Or.inl rfl, List.prefix_rfl, List.prefix_rfl, List.prefix_rfl⟩

/-- The empty message is all that may be left. -/
theorem Proto.GameState.cutOf_empty (m : Proto.GameState) : CutOf {} m :=
  ⟨Or.inr rfl, List.nil_prefix, List.nil_prefix, List.nil_prefix⟩

/-- **What this codec reads of what was cut off** is the empty message at most. -/
theorem Codec.only_cutsShort (m : Proto.GameState) : (Codec.only m).CutsShort := by
  intro message data hdata written part hpart
  simp only [Codec.only] at hdata hpart
  split at hdata
  · next hmessage =>
      obtain rfl := hmessage
      split at hpart
      · obtain rfl := Option.some_inj.1 hpart
        exact Proto.GameState.cutOf_empty message
      · split at hpart
        · obtain rfl := Option.some_inj.1 hpart
          exact .refl message
        · cases hpart
  · cases hdata

end My4X
