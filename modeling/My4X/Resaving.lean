/-
**Saving what was loaded.**

A file can hold more than a save writes: values out of range, tiles twice, buildings under wrong
numbers.  Loading puts this right.  What was loaded, whatever file it came from, is saved as a file
that is loaded as the same game, and saving that game writes the very same bytes again.

Main results:

* `My4X.savable_of_loaded` — what is loaded can be saved;
* `My4X.toMessage_of_restored` — a loaded game has the message of the saved one;
* `My4X.resaved_exactly` — **saving and loading settles after one save**, for every file.
-/

import My4X.WireFormat

set_option relaxedAutoImplicit false
set_option autoImplicit false

namespace My4X

/-! ### What is loaded can be saved -/

/-- The table of buildings gives factories by the names of their buildings. -/
theorem buildingFactoryByName_eq_ok {name : String} {f : BuildingFactory}
    (h : buildingFactoryByName name = .ok f) : f ∈ builtinFactories ∧ name = (f 0 0).name := by
  rw [buildingFactoryByName] at h
  split_ifs at h
  all_goals cases h
  all_goals
    rename_i hname
    exact ⟨by simp [builtinFactories], hname⟩

/-- An order that was loaded is for a unit, or for a building of a built-in factory. -/
theorem queueItemFromProto_factory {protoItem : Proto.BuildQueueItem} {item : BuildQueueItem}
    (h : queueItemFromProto protoItem = .ok item) (hbuilding : item.orderType = .building) :
    ∃ f ∈ builtinFactories, item.factory = some f ∧ item.name = (f 0 0).name := by
  rw [queueItemFromProto] at h
  split at h
  · obtain rfl := Except.ok.inj h
    cases hbuilding
  · obtain ⟨f, hf, h⟩ := Except.bind_eq_ok.1 h
    obtain rfl := Except.ok.inj h
    obtain ⟨hbuiltin, hname⟩ := buildingFactoryByName_eq_ok hf
    exact ⟨f, hbuiltin, rfl, hname⟩

/-- The types of the message are those of the built-in templates. -/
theorem templateOfType_builtin {type : ℤ} {tmpl : UnitTemplate}
    (h : templateOfType type = some tmpl) : tmpl ∈ builtinTemplates := by
  rw [templateOfType] at h
  split_ifs at h
  all_goals
    obtain rfl := Option.some_inj.1 h
    simp [builtinTemplates]

/-- **What is loaded can be saved**, whatever the file says. -/
theorem savable_of_loaded {draws : ℕ → TerrainType} {proto : Proto.GameState} {fresh : Map}
    {reg : UnitTypeRegistry} {t : GameState} (h : Loaded draws proto fresh reg t) : Savable t where
  units p hp := by
    have htemplates := Fallible.forall_of_mapM (P := fun u : Unit => u.template ∈ builtinTemplates)
      h.units fun protoUnit _ u hu => by
        obtain ⟨tmpl, htmpl, rfl⟩ := (unitFromProto_eq_ok h.types).1 hu
        exact templateOfType_builtin htmpl
    exact htemplates p.unit (List.mem_map.2 ⟨p, hp, rfl⟩)
  orders c hc item hitem hbuilding := by
    have horders := Fallible.forall_of_mapM
      (P := fun c : City => ∀ item ∈ c.buildQueue.queue, item.orderType = .building →
        ∃ f ∈ builtinFactories, item.factory = some f ∧ item.name = (f 0 0).name)
      h.cities fun protoCity _ c hc =>
        Fallible.forall_of_mapM (cityLoaded_of_ok hc).queue fun _ _ _ hitem =>
          queueItemFromProto_factory hitem
    exact horders c hc item hitem hbuilding
  population c hc := by
    have hpopulations := Fallible.forall_of_mapM (P := fun c : City => 1 ≤ c.population)
      h.cities fun protoCity _ c hc => by
        have hloaded := cityLoaded_of_ok hc
        rw [hloaded.population]
        exact hloaded.population_pos
    exact hpopulations c hc

/-! ### The message of what is loaded -/

/-- Related elements that are written alike make lists that are. -/
theorem map_eq_of_forall₂ {α β : Type} {R : α → α → Prop} {f : α → β}
    (hf : ∀ a b, R a b → f b = f a) {l m : List α} (h : List.Forall₂ R l m) :
    m.map f = l.map f := by
  induction h with
  | nil => rfl
  | cons hab _ ih => rw [List.map_cons, List.map_cons, hf _ _ hab, ih]

/-- The same where writing may fail. -/
theorem mapM_eq_of_forall₂ {α β : Type} {R : α → α → Prop} {f : α → Except Fault β}
    (hf : ∀ a b, R a b → f b = f a) {l m : List α} (h : List.Forall₂ R l m) :
    m.mapM f = l.mapM f := by
  induction h with
  | nil => rfl
  | cons hab _ ih => rw [Fallible.mapM_cons, Fallible.mapM_cons, hf _ _ hab, ih]

/-- The same order is written in the same way. -/
theorem queueItemToProto_restored {item item' : BuildQueueItem} (h : item.Restored item') :
    queueItemToProto item' = queueItemToProto item := by
  rw [queueItemToProto, queueItemToProto, h.name, h.productionCost, h.targetRow, h.targetCol,
    h.orderType]
  cases htype : item.orderType with
  | unit => rw [h.templateKey htype]
  | building => rfl

/-- The same city is written in the same way. -/
theorem cityToProto_restored {c c' : City} (h : City.Restored c c') :
    cityToProto c' = cityToProto c := by
  have hitems := map_eq_of_forall₂ (fun _ _ h => queueItemToProto_restored h) h.queue
  rw [cityToProto, cityToProto, h.id, h.name, h.centerRow, h.centerCol, h.factionId, h.population,
    h.tiles, h.foodSurplus, h.accumulated, hitems]

/-- The same unit is written in the same way. -/
theorem unitToProto_agrees {u v : Unit} (h : u.Agrees v) : unitToProto v = unitToProto u := by
  rw [unitToProto, unitToProto, toProtoUnitType, toProtoUnitType, h.template, h.row, h.col,
    h.health,
    h.movementRemaining, h.factionId, h.experience]

/-- Maps of the same size with the same terrain are written in the same way. -/
theorem tilesToProto_restored {m m' : Map} (hheight : m'.height = m.height)
    (hwidth : m'.width = m.width) (hterrain : ∀ row col,
      (m'.tiles.get? row col).map (·.terrain) = (m.tiles.get? row col).map (·.terrain)) :
    tilesToProto m' = tilesToProto m := by
  have hplaces : m'.places = m.places := by rw [Map.places, Map.places, hheight, hwidth]
  rw [tilesToProto, tilesToProto, hplaces]
  refine congrArg (fun f => List.mapM f m.places) (funext fun place => ?_)
  have hplace := hterrain place.1 place.2
  have hone : ∀ m : Map, tileToProto m place =
      ((m.tiles.get? place.1 place.2).map (·.terrain)).elim (.error .assertion) fun terrain =>
        .ok { row := place.1, col := place.2, terrain := toProtoTerrain terrain } := by
    intro m
    cases ht : m.tiles.get? place.1 place.2 with
    | none => rw [tileToProto, Map.tile, ht]; rfl
    | some t => exact tileToProto_eq_ok.2 ⟨t, ht, rfl⟩
  rw [hone, hone, hplace]

/-- **A loaded game has the message of the saved one.** -/
theorem toMessage_of_restored {s t : GameState} (h : Restored s t) : toMessage t = toMessage s := by
  have hcities := map_eq_of_forall₂ (fun _ _ h => cityToProto_restored h) h.cities
  have hunits := mapM_eq_of_forall₂ (f := fun p : OwnedUnit => unitToProto p.unit)
    (fun _ _ h => unitToProto_agrees h) h.units
  rw [toMessage, toMessage, tilesToProto_restored h.height h.width h.terrain, hunits, h.turn,
    h.nextCityId, h.nextBuildingId, h.height, h.width, hcities, h.buildings, h.factionResources]

/-! ### Files -/

/-- **Saving and loading settles after one save.**  Whatever file a game was loaded from, it is
saved as a file that is loaded as the same game, and saving it again writes the same file. -/
theorem resaved_exactly {codec : Codec} (hcodec : codec.Exact) {draws : ℕ → TerrainType}
    {data data' : List UInt8} {t : GameState}
    (hload : deserializeGameState codec draws data = .ok t)
    (hsave : serializeGameState codec t = .ok data') (draws' : ℕ → TerrainType) :
    ∃ t', deserializeGameState codec draws' data' = .ok t' ∧ Restored t t' ∧
      serializeGameState codec t' = .ok data' := by
  obtain ⟨proto, fresh, reg, -, hloaded⟩ := loaded_of_deserialize hload
  obtain ⟨t', ht', hrestored, -⟩ := (savable_of_loaded hloaded).reloaded hcodec hsave draws'
  refine ⟨t', ht', hrestored, ?_⟩
  rw [serializeGameState, toMessage_of_restored hrestored]
  exact hsave

/-- A message that no save writes: a tile is given twice, and the values of a warrior are out of
range. -/
def crookedMessage : Proto.GameState where
  turn := 1
  map := { width := 1, height := 1, tiles := [{ terrain := 3 }, { terrain := 0 }] }
  units := [{ type := 1, health := 500, movementRemaining := 9, factionId := 1 }]
  schemaVersion := 1

/-- What is saved of the game that it gives. -/
def straightMessage : Proto.GameState where
  turn := 1
  map := { width := 1, height := 1, tiles := [{ terrain := 0 }] }
  units := [{ type := 1, health := 100, movementRemaining := 2, factionId := 1 }]
  schemaVersion := 1

/-- The codec, as far as these messages go. -/
def crookedCodec : Codec where
  serialize message :=
    if message = straightMessage then some (Wire.gameState straightMessage) else none
  parse data :=
    if data = [] then some {}
    else if data = Wire.gameState straightMessage then some straightMessage
    else if data = Wire.gameState crookedMessage then some crookedMessage
    else none
  parse_nil := if_pos rfl

/-- The crooked message is straight after one save. -/
theorem crooked_resaved : ∃ t t',
    deserializeGameState crookedCodec (fun _ => .plains) (Wire.gameState crookedMessage) = .ok t ∧
      deserializeGameState crookedCodec (fun _ => .hills) (Wire.gameState straightMessage) =
        .ok t' ∧
      Restored t t' ∧ serializeGameState crookedCodec t' =
        .ok (Wire.gameState straightMessage) := by
  have hexact : crookedCodec.Exact := by
    intro message data h
    simp only [crookedCodec] at h ⊢
    split at h
    · next hmessage =>
        obtain rfl := Option.some_inj.1 h
        rw [if_neg (Wire.gameState_ne_nil _), if_pos rfl, hmessage]
    · cases h
  obtain ⟨t, hload, hsave⟩ : ∃ t, deserializeGameState crookedCodec (fun _ => .plains)
      (Wire.gameState crookedMessage) = .ok t ∧
      serializeGameState crookedCodec t = .ok (Wire.gameState straightMessage) := ⟨_, rfl, rfl⟩
  obtain ⟨t', h⟩ := resaved_exactly hexact hload hsave fun _ => .hills
  exact ⟨t, t', hload, h⟩

end My4X
