/-
**The rules of the game after a load.**

The message holds neither the relations between factions, nor the factions with their accounts, nor
what each faction has explored, nor the relief of the map.  A loaded state has none of the first
three and the relief that the new map drew.  The rules that read them are therefore the same after a
load exactly when the saved state had nothing else.

Main definitions:

* `My4X.KeepsRules` — two states agree on what the rules read and the message does not hold;
* `My4X.OnlyDefaults` — a state has nothing that the message does not hold.

Main results:

* `My4X.keepsRules_iff` — **a load keeps the rules exactly when there was nothing to lose**, and
  then actions validate and turns pay as before;
* `My4X.war_forgotten` — a war that a load ends.
-/

import My4X.RoundTrip
import My4X.TurnResolver

set_option relaxedAutoImplicit false
set_option autoImplicit false

namespace My4X

/-- The elevation, the water level and the rivers of a tile. -/
structure Relief where
  elevation : ℤ
  waterLevel : ℤ
  hasIncomingRiver : Bool
  hasOutgoingRiver : Bool
  incomingRiverDir : HexDirection
  outgoingRiverDir : HexDirection
  deriving DecidableEq, Repr

def Tile.relief (t : Tile) : Relief where
  elevation := t.elevation
  waterLevel := t.waterLevel
  hasIncomingRiver := t.hasIncomingRiver
  hasOutgoingRiver := t.hasOutgoingRiver
  incomingRiverDir := t.incomingRiverDir
  outgoingRiverDir := t.outgoingRiverDir

/-- **A state keeps the rules of another one**: the relations, the factions with their types and
accounts, what each faction has explored, and the relief of the map. -/
structure KeepsRules (s t : GameState) : Prop where
  relations : ∀ a b, t.diplomacy.getRelation a b = s.diplomacy.getRelation a b
  factions : t.factionRegistry.factions = s.factionRegistry.factions
  fog : ∀ faction row col, InBounds row col s.map.height s.map.width →
    t.fog.getVisibility faction row col = s.fog.getVisibility faction row col
  relief : ∀ row col, (t.map.tiles.get? row col).map Tile.relief =
    (s.map.tiles.get? row col).map Tile.relief

/-- A state has nothing that the message does not hold: all factions are at peace, none is
registered, none has explored anything, and the relief is that of the map the loader draws. -/
structure OnlyDefaults (s : GameState) (draws : ℕ → TerrainType) : Prop where
  peace : ∀ a b, s.diplomacy.getRelation a b = .peace
  factions : s.factionRegistry.factions = []
  fog : ∀ faction row col, InBounds row col s.map.height s.map.width →
    s.fog.getVisibility faction row col = .ok .unexplored
  relief : ∀ fresh, Map.create s.map.height s.map.width draws = .ok fresh → ∀ row col,
    (s.map.tiles.get? row col).map Tile.relief = (fresh.tiles.get? row col).map Tile.relief

/-! ### What a loaded state has -/

theorem getRelation_empty (a b : FactionId) : DiplomacyManager.empty.getRelation a b = .peace := by
  rw [DiplomacyManager.getRelation]
  split
  · rfl
  · rfl

theorem getVisibility_create (rows cols : ℤ) (faction : FactionId) (row col : ℤ) :
    (FogOfWar.create rows cols).getVisibility faction row col = .ok .unexplored := rfl

/-- Restoring the tiles leaves the relief of the drawn map. -/
theorem Loaded.relief {draws : ℕ → TerrainType} {proto : Proto.GameState} {fresh : Map}
    {reg : UnitTypeRegistry} {t : GameState} (h : Loaded draws proto fresh reg t) (row col : ℤ) :
    (t.map.tiles.get? row col).map Tile.relief = (fresh.tiles.get? row col).map Tile.relief := by
  obtain ⟨-, -, hget⟩ := restoreTiles_get? _ h.map
  rw [hget, Option.map_map]
  congr 1
  funext tile
  dsimp only [Function.comp_apply]
  split <;> rfl

/-- What a loaded state has of the rules is what any new state has. -/
theorem keepsRules_iff_of_loaded {draws : ℕ → TerrainType} {s t : GameState}
    {proto : Proto.GameState} {fresh : Map} {reg : UnitTypeRegistry}
    (hproto : toMessage s = .ok proto) (h : Loaded draws proto fresh reg t) :
    KeepsRules s t ↔ OnlyDefaults s draws := by
  obtain ⟨hheight, hwidth⟩ := toMessage_size hproto
  have hfresh := h.created
  rw [hheight, hwidth] at hfresh
  constructor
  · intro hkeep
    refine ⟨fun a b => ?_, ?_, fun faction row col hin => ?_, fun fresh' hfresh' row col => ?_⟩
    · rw [← hkeep.relations, h.diplomacy, getRelation_empty]
    · rw [← hkeep.factions, h.factions]
    · rw [← hkeep.fog faction row col hin, h.fog, getVisibility_create]
    · obtain rfl := Except.ok.inj (hfresh.symm.trans hfresh')
      rw [← hkeep.relief, h.relief]
  · intro hdef
    refine ⟨fun a b => ?_, ?_, fun faction row col hin => ?_, fun row col => ?_⟩
    · rw [h.diplomacy, getRelation_empty, hdef.peace]
    · rw [h.factions, hdef.factions]
    · rw [h.fog, getVisibility_create, hdef.fog faction row col hin]
    · rw [h.relief, hdef.relief fresh hfresh]

/-! ### What follows for actions and turns -/

/-- Lists that are related element by element are related at every index. -/
theorem rel_getElem? {α β : Type} {R : α → β → Prop} {l : List α} {m : List β}
    (h : List.Forall₂ R l m) : ∀ i : ℕ, Option.Rel R l[i]? m[i]? := by
  induction h with
  | nil => intro i; exact Option.Rel.none
  | cons hab _ ih =>
      intro i
      cases i with
      | zero => exact Option.Rel.some hab
      | succ i => exact ih i

/-- A restored state that keeps the relations agrees with the saved one. -/
theorem Restored.agrees {s t : GameState} (h : Restored s t) (hkeep : KeepsRules s t) :
    s.Agrees t := by
  refine ⟨h.turn.symm, fun i => ?_, h.height.symm, h.width.symm, fun row col =>
    (h.terrain row col).symm, fun a b => (hkeep.relations a b).symm, fun i => ?_⟩
  · exact rel_getElem? h.units i
  · refine rel_getElem? (h.cities.imp fun c c' hc => ?_) i
    exact ⟨hc.id.symm, hc.centerRow.symm, hc.centerCol.symm, hc.tiles.symm, hc.factionId.symm⟩

/-- Actions validate in one state as in another. -/
structure ValidatesAlike (s t : GameState) : Prop where
  move : ∀ a : MoveAction, a.validate t = a.validate s
  attack : ∀ a : AttackAction, a.validate t = a.validate s
  capture : ∀ a : CaptureAction, a.validate t = a.validate s

/-- Payments go to the same accounts. -/
def PaysAlike (s t : GameState) : Prop :=
  ∀ factionId gold,
    (TurnResolver.routeGoldToFaction t factionId gold).factionRegistry.factions =
        (TurnResolver.routeGoldToFaction s factionId gold).factionRegistry.factions ∧
      (TurnResolver.routeGoldToFaction t factionId gold).factionResources =
        (TurnResolver.routeGoldToFaction s factionId gold).factionResources

theorem paysAlike_of_keepsRules {s t : GameState} (hkeep : KeepsRules s t)
    (hresources : t.factionResources = s.factionResources) : PaysAlike s t := by
  intro factionId gold
  unfold TurnResolver.routeGoldToFaction
  rw [hkeep.factions]
  dsimp only
  cases if 0 < factionId then
      s.factionRegistry.factions.findIdx? fun f => f.id = factionId.toUInt32 else none with
  | some i => exact ⟨rfl, hresources⟩
  | none => exact ⟨hkeep.factions, by simp only [hresources]⟩

theorem validatesAlike_of_keepsRules {s t : GameState} (hs : s.Coherent) (ht : t.Coherent)
    (h : Restored s t) (hkeep : KeepsRules s t) : ValidatesAlike s t := by
  have hagrees := h.agrees hkeep
  refine ⟨fun a => ?_, fun a => ?_, fun a => ?_⟩
  · exact (MoveAction.validate_congr hagrees hs ht a).symm
  · exact (AttackAction.validate_congr hagrees a).symm
  · exact (CaptureAction.validate_congr hagrees hs ht a).symm

/-! ### Saving and loading -/

/-- **A load keeps the rules exactly when there was nothing to lose**; then payments go to the same
accounts, and when the format can name the entities of the state, actions validate as before. -/
theorem keepsRules_iff (codec : Codec) (draws : ℕ → TerrainType) (s t : GameState)
    (data : List UInt8) (hcodec : ∀ proto, toMessage s = .ok proto → codec.Lossless proto)
    (hsave : serializeGameState codec s = .ok data)
    (hload : deserializeGameState codec draws data = .ok t) :
    (KeepsRules s t ↔ OnlyDefaults s draws) ∧
      (OnlyDefaults s draws →
        PaysAlike s t ∧ (Savable s → s.Coherent → ValidatesAlike s t)) := by
  obtain ⟨proto, fresh, reg, hproto, h⟩ := loaded_of_saved hcodec hsave hload
  have hiff := keepsRules_iff_of_loaded hproto h
  refine ⟨hiff, fun hdef => ⟨paysAlike_of_keepsRules (hiff.2 hdef) ?_, fun hsavable hs => ?_⟩⟩
  · obtain ⟨tiles, -, hproto⟩ := Except.bind_eq_ok.1 hproto
    obtain ⟨units, -, hproto⟩ := Except.bind_eq_ok.1 hproto
    obtain rfl := Except.ok.inj hproto
    exact h.factionResources
  · exact validatesAlike_of_keepsRules hs h.coherent (restored_of_loaded hsavable hproto h)
      (hiff.2 hdef)

/-- A state of one tile in which two factions are at war. -/
def feud : GameState where
  map := { height := 1, width := 1, height_pos := Int.one_pos, width_pos := Int.one_pos
           tiles := generateTiles 1 1 fun _ => .plains }
  fog := FogOfWar.create 1 1
  diplomacy := DiplomacyManager.empty.setRelation 1 2 .war

def feudMessage : Proto.GameState where
  turn := 1
  map := { width := 1, height := 1, tiles := [{ row := 0, col := 0, terrain := 0 }] }
  schemaVersion := 1
  nextCityId := 1
  nextBuildingId := 1

/-- The message in the wire format. -/
def feudBytes : List UInt8 :=
  [0x08, 1, 0x12, 6, 0x08, 1, 0x10, 1, 0x1A, 0, 0x32, 0, 0x38, 1, 0x40, 1, 0x48, 1]

/-- The codec, as far as this message goes. -/
def feudCodec : Codec where
  serialize message := if message = feudMessage then some feudBytes else none
  parse data :=
    if data = feudBytes then some feudMessage else if data = [] then some {} else none
  parse_nil := by decide

theorem feudCodec_lossless (s : GameState) (hs : toMessage s = .ok feudMessage) :
    ∀ proto, toMessage s = .ok proto → feudCodec.Lossless proto := by
  intro proto hproto
  obtain rfl := Except.ok.inj (hs.symm.trans hproto)
  exact ⟨feudBytes, by simp [feudCodec], by simp [feudCodec]⟩

/-- A state of one tile with nothing to lose keeps its rules. -/
theorem keepsRules_peace :
    ∃ t, deserializeGameState feudCodec (fun _ => .plains) feudBytes = .ok t ∧
      KeepsRules { feud with diplomacy := DiplomacyManager.empty } t := by
  have hmessage : toMessage { feud with diplomacy := DiplomacyManager.empty } =
    .ok feudMessage := by
    decide
  have hsave : serializeGameState feudCodec { feud with diplomacy := DiplomacyManager.empty } =
      .ok feudBytes := by
    decide
  have hsome : (deserializeGameState feudCodec (fun _ => .plains) feudBytes).toOption.isSome =
      true := by
    decide
  cases hload : deserializeGameState feudCodec (fun _ => .plains) feudBytes with
  | error e => simp [hload, Except.toOption] at hsome
  | ok t =>
      refine ⟨t, rfl, (keepsRules_iff feudCodec _ _ t feudBytes
        (feudCodec_lossless _ hmessage) hsave
        hload).1.2 ⟨getRelation_empty, rfl, fun _ _ _ _ => rfl, fun fresh hfresh row col => ?_⟩⟩
      obtain rfl := Except.ok.inj hfresh
      rfl

/-- **A war that a load ends.** -/
theorem war_forgotten :
    ∃ data t, serializeGameState feudCodec feud = .ok data ∧
      deserializeGameState feudCodec (fun _ => .plains) data = .ok t ∧ ¬ KeepsRules feud t := by
  have hrelation : (deserializeGameState feudCodec (fun _ => .plains) feudBytes).toOption.map
      (fun t => t.diplomacy.getRelation 1 2) = some .peace := by
    decide
  have hsave : serializeGameState feudCodec feud = .ok feudBytes := by decide
  cases hload : deserializeGameState feudCodec (fun _ => .plains) feudBytes with
  | error e => simp [hload, Except.toOption] at hrelation
  | ok t =>
      refine ⟨feudBytes, t, hsave, hload, fun hkeep => ?_⟩
      have hwar : feud.diplomacy.getRelation 1 2 = .war := by decide
      rw [hload] at hrelation
      have hpeace : t.diplomacy.getRelation 1 2 = .peace := Option.some_inj.1 hrelation
      rw [hkeep.relations, hwar] at hpeace
      simp at hpeace

end My4X
