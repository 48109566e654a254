/-
**What the contents of a save give.**

What is saved of a sound state is loaded as a sound state.  A write may stop midway; then the file
holds the beginning of what was to be written.  The fields of a message are written one after the
other, each with its length, so what the beginning is read as, if it is read at all, is the message
with some fields missing, and with the ends of some lists.  Without the map nothing is loaded; with
it what is loaded is the state without some of its cities, buildings and units, which is sound as
well.

Main definitions:

* `My4X.Codec.Exact` — what a codec writes it reads back;
* `My4X.Proto.GameState.CutOf`, `My4X.Codec.CutsShort` — messages that are cut off, and a codec that
  reads nothing else of the beginning of a message;
* `My4X.LoadsSoundly`, `My4X.SaveFile.Readable` — contents and files that give sound states.

Main results:

* `My4X.exists_restored` — **what is saved of a sound state is loaded as a sound state**;
* `My4X.restored_of_cut` — what a save that was cut off gives;
* `My4X.loadsSoundly_of_cut` — **a save of a sound state that was cut off gives nothing but sound
  states**.
-/

import My4X.DemoSetup
import My4X.Lib.Fallible
import My4X.SaveFiles
import Mathlib.Data.List.Forall2

set_option relaxedAutoImplicit false
set_option autoImplicit false

namespace My4X

/-! ### Loading -/

/-- What is loaded is what some message gives. -/
theorem loaded_of_deserialize {codec : Codec} {draws : ℕ → TerrainType} {data : List UInt8}
    {t : GameState} (h : deserializeGameState codec draws data = .ok t) :
    ∃ proto fresh reg, codec.parse data = some proto ∧ Loaded draws proto fresh reg t := by
  rw [deserializeGameState] at h
  split at h
  · cases h
  · split at h
    · cases h
    · next proto hparse =>
        rw [ofMessage] at h
        split at h
        · cases h
        · obtain ⟨fresh, reg, hloaded⟩ := loaded_of_ok h
          exact ⟨proto, fresh, reg, hparse, hloaded⟩

/-- **What the codec writes it reads back.** -/
def Codec.Exact (codec : Codec) : Prop :=
  ∀ proto data, codec.serialize proto = some data → codec.parse data = some proto

theorem hamletCodec_exact : hamletCodec.Exact := by
  intro proto data h
  simp only [hamletCodec] at h ⊢
  split at h
  · next hmessage =>
      obtain rfl := Option.some_inj.1 h
      rw [if_pos rfl, hmessage]
  · cases h

/-! ### Sound contents -/

/-- A content that gives a sound state of the size of the application, or an exception. -/
def LoadsSoundly (codec : Codec) (data : List UInt8) : Prop :=
  ∀ draws, deserializeGameState codec draws data ≠ .error .assertion ∧
    ∀ t, deserializeGameState codec draws data = .ok t → t.Sound ∧ t.OfAppSize

/-- **A file that the application can load.** -/
structure SaveFile.Readable (codec : Codec) (file : SaveFile) : Prop where
  regular : file.isRegularFile = true
  readable : file.readable = true
  loads : LoadsSoundly codec file.data

/-- What is written of a state is read as its message. -/
theorem exists_message {codec : Codec} (hcodec : codec.Exact) {s : GameState} {data : List UInt8}
    (hdata : serializeGameState codec s = .ok data) :
    ∃ proto, toMessage s = .ok proto ∧ codec.parse data = some proto := by
  obtain ⟨proto, hproto, hwrite⟩ := Except.bind_eq_ok.1 hdata
  refine ⟨proto, hproto, ?_⟩
  split at hwrite
  · cases hwrite
  · next written hserialize =>
      obtain rfl := Except.ok.inj hwrite
      exact hcodec proto _ hserialize

/-- **What is saved of a state is loaded again.** -/
theorem Savable.reloaded {codec : Codec} (hcodec : codec.Exact) {s : GameState} (h : Savable s)
    {data : List UInt8} (hdata : serializeGameState codec s = .ok data)
    (draws : ℕ → TerrainType) : ∃ t, deserializeGameState codec draws data = .ok t ∧
      Restored s t ∧ t.Coherent ∧ t.fog = FogOfWar.create t.map.height t.map.width := by
  obtain ⟨proto, hproto, hread⟩ := exists_message hcodec hdata
  obtain ⟨t, ht⟩ := exists_restoreMessage_toMessage h hproto draws
  obtain ⟨fresh, reg, hloaded⟩ := loaded_of_ok ht
  obtain ⟨hheight, hwidth⟩ := toMessage_size hproto
  have hrestored := restored_of_loaded h hproto hloaded
  refine ⟨t, ?_, hrestored, hloaded.coherent, ?_⟩
  · rw [deserialize_of_toMessage hproto hread]
    exact ht
  · rw [hloaded.fog, hheight, hwidth, hrestored.height, hrestored.width]

/-- A save is not empty. -/
theorem Savable.serialize_ne_nil {codec : Codec} (hcodec : codec.Exact) {s : GameState}
    (h : Savable s) {data : List UInt8} (hdata : serializeGameState codec s = .ok data) :
    data ≠ [] := by
  rintro rfl
  obtain ⟨t, ht, -⟩ := h.reloaded hcodec hdata fun _ => .plains
  rw [deserializeGameState, if_pos rfl] at ht
  cases ht

/-- **What is saved of a sound state is loaded as a sound state.** -/
theorem exists_restored {codec : Codec} (hcodec : codec.Exact) {s : GameState} (h : s.Sound)
    {data : List UInt8} (hdata : serializeGameState codec s = .ok data) (draws : ℕ → TerrainType) :
    ∃ t, deserializeGameState codec draws data = .ok t ∧ Restored s t ∧ t.Sound := by
  obtain ⟨t, ht, hrestored, hcoherent, hfog⟩ := h.savable.reloaded hcodec hdata draws
  exact ⟨t, ht, hrestored, h.restored hrestored hcoherent hfog⟩

theorem loadsSoundly_of_serialize {codec : Codec} (hcodec : codec.Exact) {s : GameState}
    (h : s.Sound) (hsize : s.OfAppSize) {data : List UInt8}
    (hdata : serializeGameState codec s = .ok data) : LoadsSoundly codec data := by
  intro draws
  obtain ⟨t, ht, hrestored, hsound⟩ := exists_restored hcodec h hdata draws
  refine ⟨by rw [ht]; simp, fun t' ht' => ?_⟩
  obtain rfl := Except.ok.inj (ht.symm.trans ht')
  exact ⟨hsound, hrestored.height.trans hsize.height, hrestored.width.trans hsize.width⟩

/-! ### Writes that stop midway -/

/-- **A message that was cut off**: its map may be missing, and the ends of its lists.  What becomes
of its numbers does not matter. -/
structure Proto.GameState.CutOf (part whole : Proto.GameState) : Prop where
  map : part.map = whole.map ∨ part.map = {}
  cities : part.cities <+: whole.cities
  buildings : part.buildings <+: whole.buildings
  units : part.units <+: whole.units

/-- **What the codec reads of the beginning of what it has written is a message that was cut
off.** -/
def Codec.CutsShort (codec : Codec) : Prop :=
  ∀ proto data, codec.serialize proto = some data → ∀ written part,
    codec.parse (data.take written) = some part → part.CutOf proto

/-- The state of a message that was cut off: it has the first ones of the cities, buildings and
units, and its own numbers. -/
def GameState.cutTo (s : GameState) (part : Proto.GameState) : GameState :=
  { s with
    turn := part.turn
    nextCityId := part.nextCityId
    nextBuildingId := part.nextBuildingId
    cities := s.cities.take part.cities.length
    buildings := s.buildings.take part.buildings.length
    units :=
      { list := s.units.list.take part.units.length
        nodup := s.units.nodup.sublist ((List.take_sublist _ _).map _) }
    factionResources := fromProtoResource part.factionResources }

/-- **The message that was cut off is that of the state that was cut off**, but for its version. -/
theorem toMessage_cutTo {s : GameState} {proto part : Proto.GameState}
    (hproto : toMessage s = .ok proto) (hcut : part.CutOf proto) (hmap : part.map = proto.map) :
    toMessage (s.cutTo part) = .ok { part with schemaVersion := schemaVersion } := by
  obtain ⟨tiles, htiles, hproto⟩ := Except.bind_eq_ok.1 hproto
  obtain ⟨units, hunits, hproto⟩ := Except.bind_eq_ok.1 hproto
  obtain rfl := Except.ok.inj hproto
  have hcities : (s.cities.take part.cities.length).map cityToProto = part.cities := by
    rw [List.map_take]
    exact (List.prefix_iff_eq_take.1 hcut.cities).symm
  have hbuildings : (s.buildings.take part.buildings.length).map buildingToProto =
      part.buildings := by
    rw [List.map_take]
    exact (List.prefix_iff_eq_take.1 hcut.buildings).symm
  have hunits' : (s.units.list.take part.units.length).mapM (fun p => unitToProto p.unit) =
      .ok part.units := by
    rw [Fallible.mapM_take hunits]
    exact congrArg Except.ok (List.prefix_iff_eq_take.1 hcut.units).symm
  have htiles' : tilesToProto (s.cutTo part).map = .ok tiles := htiles
  have hlist : (s.cutTo part).units.list = s.units.list.take part.units.length := rfl
  rw [toMessage, htiles', Except.ok_bind, hlist, hunits', Except.ok_bind]
  refine congrArg Except.ok ?_
  obtain ⟨turn, map, cities, buildings, units, resources, version, nextCity, nextBuilding⟩ := part
  obtain rfl := hmap
  simp only [GameState.cutTo] at hcities hbuildings ⊢
  rw [hcities, hbuildings]
  rfl

/-- The cities, buildings and units of a state that was cut off are among those of the state. -/
theorem GameState.cutTo_cities_subset (s : GameState) (part : Proto.GameState) :
    (s.cutTo part).cities ⊆ s.cities := List.take_subset _ _

theorem GameState.cutTo_buildings_subset (s : GameState) (part : Proto.GameState) :
    (s.cutTo part).buildings ⊆ s.buildings := List.take_subset _ _

theorem GameState.cutTo_units_subset (s : GameState) (part : Proto.GameState) :
    (s.cutTo part).units.list ⊆ s.units.list := List.take_subset _ _

/-- **What a save that was cut off gives**: an exception, or the state without some of its cities,
buildings and units. -/
theorem restored_of_cut {codec : Codec} (hcodec : codec.CutsShort) {s : GameState} (h : Savable s)
    {data : List UInt8} (hdata : serializeGameState codec s = .ok data) (written : ℕ)
    (draws : ℕ → TerrainType) :
    (∃ message, deserializeGameState codec draws (data.take written) =
      .error (.runtimeError message)) ∨
    ∃ part t, deserializeGameState codec draws (data.take written) = .ok t ∧
      Restored (s.cutTo part) t ∧ t.Coherent ∧
      t.fog = FogOfWar.create t.map.height t.map.width := by
  obtain ⟨proto, hproto, hwrite⟩ := Except.bind_eq_ok.1 hdata
  split at hwrite
  · cases hwrite
  · next bytes hserialize =>
      obtain rfl := Except.ok.inj hwrite
      rw [deserializeGameState]
      split
      · exact Or.inl ⟨_, rfl⟩
      · split
        · exact Or.inl ⟨_, rfl⟩
        · next part hpart =>
            have hcut := hcodec proto bytes hserialize written part hpart
            rcases hcut.map with hmap | hmap
            · -- the map was written, and with it the size of the state
              have hmessage := toMessage_cutTo hproto hcut hmap
              have hsavable : Savable (s.cutTo part) :=
                { units := fun p hp => h.units p (s.cutTo_units_subset part hp)
                  orders := fun c hc => h.orders c (s.cutTo_cities_subset part hc)
                  population := fun c hc => h.population c (s.cutTo_cities_subset part hc) }
              obtain ⟨t, ht⟩ := exists_restoreMessage_toMessage hsavable hmessage draws
              obtain ⟨fresh, reg, hloaded⟩ := loaded_of_ok ht
              obtain ⟨hheight, hwidth⟩ := toMessage_size hmessage
              have hrestored := restored_of_loaded hsavable hmessage hloaded
              refine Or.inr ⟨part, t, ?_, hrestored, hloaded.coherent, ?_⟩
              · have hheight_pos := s.map.height_pos
                have hwidth_pos := s.map.width_pos
                have hsize : ¬ (part.map.height ≤ 0 ∨ part.map.width ≤ 0) := by
                  rw [show part.map.height = s.map.height from hheight,
                    show part.map.width = s.map.width from hwidth]
                  omega
                rw [ofMessage, if_neg hsize]
                exact ht
              · rw [hloaded.fog, hheight, hwidth, hrestored.height, hrestored.width]
            · rw [ofMessage, hmap, if_pos (Or.inl le_rfl)]
              exact Or.inl ⟨_, rfl⟩

/-- **A save of a sound state that was cut off gives nothing but sound states.** -/
theorem loadsSoundly_of_cut {codec : Codec} (hcodec : codec.CutsShort) {s : GameState}
    (h : s.Sound) (hsize : s.OfAppSize) {data : List UInt8}
    (hdata : serializeGameState codec s = .ok data) (written : ℕ) :
    LoadsSoundly codec (data.take written) := by
  intro draws
  rcases restored_of_cut hcodec h.savable hdata written draws with
    ⟨message, hfails⟩ | ⟨part, t, ht, hrestored, hcoherent, hfog⟩
  · rw [hfails]
    exact ⟨by simp, fun t ht => by cases ht⟩
  · rw [ht]
    refine ⟨by simp, fun t' ht' => ?_⟩
    obtain rfl := Except.ok.inj ht'
    refine ⟨GameState.sound_of_restored ?_ ?_ ?_ ?_ hrestored hcoherent hfog,
      hrestored.height.trans hsize.height, hrestored.width.trans hsize.width⟩
    · exact fun p hp => h.living p (s.cutTo_units_subset part hp)
    · exact fun p hp => h.inside p (s.cutTo_units_subset part hp)
    · exact fun p hp => h.templates p (s.cutTo_units_subset part hp)
    · exact fun c hc => h.cities c (s.cutTo_cities_subset part hc)

end My4X
