/-
**What a capture does, and what it reports.**

A capture is decided by the first city whose centre is the tile of the unit; its validation and its
execution look that city up separately.  Whether the city is defended is read from the tile
registry, and in a coherent state the registry lists the units that stand on the tiles of the city.
A capture changes the owner and the queue of this one city.  It reports the elimination of the old
owner by comparing the stored number of each city with the identifier of the owner, and no city of a
negative owner passes this comparison.

Main definitions:

* `My4X.CaptureAction.Takes` — a unit may take a city;
* `My4X.CaptureAction.Exact` — a capture does and reports what it should;
* `My4X.CaptureAction.Overlooks` — a capture overlooks a city of the old owner.

Main results:

* `My4X.CaptureAction.validate_eq_valid_iff` — **when a capture is valid**;
* `My4X.capture_exact_iff` — **a capture is exact unless it overlooks a city of a negative owner**.
-/

import My4X.Elimination

set_option relaxedAutoImplicit false
set_option autoImplicit false

namespace My4X

namespace CaptureAction

/-! ### When a capture is valid -/

/-- **A unit may take a city**: it is alive and stands on the centre of the city, which is the first
one with this centre, the owner is another faction at war with the faction of the unit, and no
living unit of the owner stands on a tile of the city. -/
structure Takes (a : CaptureAction) (s : GameState) (p : OwnedUnit) (i : ℕ) (city : City) :
    Prop where
  unit : s.units.get? a.unitIndex = some p
  alive : p.unit.isAlive = true
  get : s.cities[i]? = some city
  center : city.centerRow = p.unit.row ∧ city.centerCol = p.unit.col
  first : ∀ j c, j < i → s.cities[j]? = some c →
    ¬ (c.centerRow = p.unit.row ∧ c.centerCol = p.unit.col)
  enemy : city.owner ≠ p.unit.factionId
  war : s.diplomacy.areAtWar p.unit.factionId city.owner = true
  undefended : ∀ q ∈ s.units.list, q.unit.isAlive = true → q.unit.factionId = city.owner →
    q.unit.coord ∉ city.tiles

/-- The scan of the cities stops at the first one with the centre. -/
theorem findCityCenterAt_eq_some_iff {s : GameState} {row col : ℤ} {i : ℕ} :
    findCityCenterAt s row col = some i ↔
      ∃ city, s.cities[i]? = some city ∧ (city.centerRow = row ∧ city.centerCol = col) ∧
        ∀ j c, j < i → s.cities[j]? = some c → ¬ (c.centerRow = row ∧ c.centerCol = col) := by
  rw [findCityCenterAt, List.findIdx?_eq_some_iff_getElem]
  constructor
  · rintro ⟨hlt, hcenter, hbefore⟩
    refine ⟨s.cities[i], List.getElem?_eq_getElem hlt, of_decide_eq_true hcenter, ?_⟩
    intro j c hj hc
    obtain ⟨hlt', rfl⟩ := List.getElem?_eq_some_iff.1 hc
    simpa using hbefore j hj
  · rintro ⟨city, hget, hcenter, hbefore⟩
    obtain ⟨hlt, rfl⟩ := List.getElem?_eq_some_iff.1 hget
    refine ⟨hlt, decide_eq_true hcenter, fun j hj => ?_⟩
    simpa using hbefore j _ hj (List.getElem?_eq_getElem (hj.trans hlt))

/-- In a coherent state a city is defended exactly when a living unit of its owner stands on one of
its tiles. -/
theorem isCityDefended_iff {s : GameState} (h : s.Coherent) {city : City} :
    isCityDefended s city = true ↔ ∃ q ∈ s.units.list, q.unit.isAlive = true ∧
      q.unit.factionId = city.owner ∧ q.unit.coord ∈ city.tiles := by
  rw [isCityDefended, List.any_eq_true]
  simp only [List.any_eq_true, Bool.and_eq_true, decide_eq_true_eq, h.mem_unitsOnTile]
  constructor
  · rintro ⟨t, ht, -, ⟨⟨q, hq, rfl⟩, hrow, hcol⟩, halive, hfaction⟩
    have hcoord : q.unit.coord = t := TileCoord.ext_iff'.2 ⟨hrow, hcol⟩
    exact ⟨q, hq, halive, hfaction, hcoord ▸ ht⟩
  · rintro ⟨q, hq, halive, hfaction, htile⟩
    exact ⟨q.unit.coord, htile, q.unit, ⟨⟨q, hq, rfl⟩, rfl, rfl⟩, halive, hfaction⟩

/-- The checks on the city of a living unit. -/
theorem validateCity_eq_valid_iff {s : GameState} (h : s.Coherent) {unit : Unit} {city : City} :
    validateCity s unit city = .valid ↔ city.owner ≠ unit.factionId ∧
      s.diplomacy.areAtWar unit.factionId city.owner = true ∧
      ∀ q ∈ s.units.list, q.unit.isAlive = true → q.unit.factionId = city.owner →
        q.unit.coord ∉ city.tiles := by
  have hundefended : ¬ isCityDefended s city = true ↔
      ∀ q ∈ s.units.list, q.unit.isAlive = true → q.unit.factionId = city.owner →
        q.unit.coord ∉ city.tiles := by
    rw [isCityDefended_iff h]
    simp only [not_exists, not_and]
  rw [validateCity, ← hundefended]
  split
  · next hown => exact iff_of_false (by simp) fun h => h.1 hown
  · next henemy =>
      split
      · next hpeace => exact iff_of_false (by simp) fun h => hpeace h.2.1
      · next hwar =>
          rw [not_not] at hwar
          split
          · next hdefended => exact iff_of_false (by simp) fun h => h.2.2 hdefended
          · next hundefended => exact iff_of_true rfl ⟨henemy, hwar, hundefended⟩

/-- **When a capture is valid**, in a coherent state. -/
theorem validate_eq_valid_iff {s : GameState} (h : s.Coherent) {a : CaptureAction} :
    a.validate s = .valid ↔ ∃ p i city, a.Takes s p i city := by
  constructor
  · intro hvalid
    obtain ⟨p, i, city, htaken⟩ := validate_eq_valid hvalid
    obtain ⟨c, hget, -, hfirst⟩ := findCityCenterAt_eq_some_iff.1 htaken.index
    have hfind : s.cities.find? (fun c => c.centerRow = p.unit.row ∧ c.centerCol = p.unit.col) =
        some city := by
      rw [List.find?_eq_bind_findIdx?_getElem?]
      exact Option.bind_eq_some_iff.2 ⟨i, htaken.index, htaken.get⟩
    rw [validate, htaken.unit] at hvalid
    simp only [validateUnit, htaken.alive, not_true_eq_false, if_false, hfind] at hvalid
    obtain ⟨henemy, hwar, hundefended⟩ := (validateCity_eq_valid_iff h).1 hvalid
    exact ⟨p, i, city, htaken.unit, htaken.alive, htaken.get, htaken.center, hfirst, henemy, hwar,
      hundefended⟩
  · rintro ⟨p, i, city, htakes⟩
    have hindex := findCityCenterAt_eq_some_iff.2 ⟨city, htakes.get, htakes.center, htakes.first⟩
    have hfind : s.cities.find? (fun c => c.centerRow = p.unit.row ∧ c.centerCol = p.unit.col) =
        some city := by
      rw [List.find?_eq_bind_findIdx?_getElem?]
      exact Option.bind_eq_some_iff.2 ⟨i, hindex, htakes.get⟩
    rw [validate, htakes.unit]
    simp only [validateUnit, htakes.alive, not_true_eq_false, if_false, hfind]
    exact (validateCity_eq_valid_iff h).2 ⟨htakes.enemy, htakes.war, htakes.undefended⟩

/-- The city that a unit takes is the one that a valid capture takes. -/
theorem Takes.taken {a : CaptureAction} {s : GameState} {p : OwnedUnit} {i : ℕ} {city : City}
    (h : a.Takes s p i city) : Taken a s p i city where
  unit := h.unit
  alive := h.alive
  index := findCityCenterAt_eq_some_iff.2 ⟨city, h.get, h.center, h.first⟩
  get := h.get
  center := h.center
  enemy := h.enemy

/-- A capture takes one city. -/
theorem Taken.unique {a : CaptureAction} {s : GameState} {p q : OwnedUnit} {i j : ℕ}
    {city city' : City} (h : Taken a s p i city) (h' : Taken a s q j city') :
    p = q ∧ i = j ∧ city = city' := by
  obtain rfl := Option.some_inj.1 (h.unit.symm.trans h'.unit)
  obtain rfl := Option.some_inj.1 (h.index.symm.trans h'.index)
  exact ⟨rfl, rfl, Option.some_inj.1 (h.get.symm.trans h'.get)⟩

/-! ### What a capture does -/

/-- A faction is the owner of a city. -/
def OwnsCity (s : GameState) (f : FactionId) : Prop := ∃ city ∈ s.cities, city.owner = f

/-- **A capture does and reports what it should**: it is carried out exactly when the unit may take
a city; a refused one changes and reports nothing; one that is carried out changes the owner and the
queue of this city, and reports the elimination of the old owner exactly when that faction has no
city and no living unit left. -/
structure Exact (a : CaptureAction) (s s' : GameState) (r : CaptureResult) : Prop where
  executed : r.executed = true ↔ ∃ p i city, a.Takes s p i city
  refused : r.executed = false → s' = s ∧ r.factionEliminated = false
  captured : ∀ p i city, a.Takes s p i city → ∃ city', s' = s.setCity i city' ∧
    city'.owner = p.unit.factionId ∧
    city' = { city with
      factionId := city'.factionId
      buildQueue := { queue := [], accumulated := 0 } }
  eliminated : ∀ p i city, a.Takes s p i city →
    (r.factionEliminated = true ↔ ¬ OwnsCity s' city.owner ∧ ¬ s'.HasUnit city.owner)
  eliminatedFactionId : ∀ p i city, a.Takes s p i city → r.factionEliminated = true →
    r.eliminatedFactionId = city.owner

/-- **A capture overlooks a city of the old owner**: the owner of the city it takes is negative,
owns another city and has no living unit. -/
def Overlooks (a : CaptureAction) (s : GameState) : Prop :=
  ∃ p i city, a.Takes s p i city ∧ city.factionId < 0 ∧
    (∃ j c, j ≠ i ∧ s.cities[j]? = some c ∧ c.owner = city.owner) ∧ ¬ s.HasUnit city.owner

end CaptureAction

/-- A city passes the comparison of its number with its owner exactly when the number is not
negative. -/
theorem City.ownedBy_iff {c : City} {f : FactionId} :
    c.ownedBy f = true ↔ c.owner = f ∧ ¬ c.factionId < 0 := by
  constructor
  · intro howned
    refine ⟨City.owner_of_ownedBy howned, ?_⟩
    have hint : c.factionId.toInt = (f.toNat : ℤ) := of_decide_eq_true howned
    rw [Int32.lt_iff_toInt_lt, hint]
    exact not_lt.2 (Int.natCast_nonneg _)
  · rintro ⟨rfl, hnonneg⟩
    refine decide_eq_true ?_
    rw [Int32.lt_iff_toInt_lt, not_lt] at hnonneg
    have hint : c.factionId.toInt = c.factionId.toBitVec.toInt := rfl
    have howner : c.owner.toNat = c.factionId.toBitVec.toNat := rfl
    have hlt := c.factionId.toBitVec.isLt
    have hzero : (0 : Int32).toInt = 0 := rfl
    rw [hzero, hint, BitVec.toInt_eq_toNat_cond] at hnonneg
    rw [hint, howner, BitVec.toInt_eq_toNat_cond]
    split at hnonneg
    · next hsmall => rw [if_pos hsmall]
    · omega

namespace CaptureAction

/-- What the scan for cities of a faction finds, it owns; it misses a city of a negative owner. -/
theorem hasCity_iff {s : GameState} {f : FactionId} (city : City) (hcity : city.owner = f) :
    s.HasCity f ↔ OwnsCity s f ∧ ¬ city.factionId < 0 := by
  constructor
  · rintro ⟨c, hc, howned⟩
    obtain ⟨howner, hnonneg⟩ := City.ownedBy_iff.1 howned
    refine ⟨⟨c, hc, howner⟩, ?_⟩
    rw [City.factionId_eq_of_owner (hcity.trans howner.symm)]
    exact hnonneg
  · rintro ⟨⟨c, hc, howner⟩, hnonneg⟩
    refine ⟨c, hc, City.ownedBy_iff.2 ⟨howner, ?_⟩⟩
    rw [City.factionId_eq_of_owner (howner.trans hcity.symm)]
    exact hnonneg

/-- The old owner still owns a city exactly when it owned another one. -/
theorem Takes.ownsCity_iff {a : CaptureAction} {s : GameState} {p : OwnedUnit} {i : ℕ} {city : City}
    (h : a.Takes s p i city) :
    OwnsCity (s.setCity i (captured city p.unit)) city.owner ↔
      ∃ j c, j ≠ i ∧ s.cities[j]? = some c ∧ c.owner = city.owner := by
  have hcities : (s.setCity i (captured city p.unit)).cities =
      s.cities.set i (captured city p.unit) := rfl
  rw [OwnsCity, hcities]
  constructor
  · rintro ⟨c, hc, howner⟩
    obtain ⟨j, hj⟩ := List.mem_iff_getElem?.1 hc
    have hji : i ≠ j := by
      rintro rfl
      rw [List.getElem?_set_self (List.getElem?_eq_some_iff.1 h.get).1] at hj
      obtain rfl := Option.some_inj.1 hj
      -- the captured city belongs to the faction of the unit
      have hnew : (captured city p.unit).owner = p.unit.factionId := UInt32.toUInt32_toInt32 _
      exact h.enemy (howner.symm.trans hnew)
    rw [List.getElem?_set_ne hji] at hj
    exact ⟨j, c, hji.symm, hj, howner⟩
  · rintro ⟨j, c, hji, hj, howner⟩
    refine ⟨c, List.mem_iff_getElem?.2 ⟨j, ?_⟩, howner⟩
    rw [List.getElem?_set_ne hji.symm]
    exact hj

/-- The report of a capture is right unless the capture overlooks a city. -/
theorem Captured.eliminated_iff {a : CaptureAction} {s s' : GameState} {p : OwnedUnit} {i : ℕ}
    {city : City} {r : CaptureResult} (h : Captured a s p i city s' r)
    (htakes : a.Takes s p i city) :
    (r.factionEliminated = true ↔ ¬ OwnsCity s' city.owner ∧ ¬ s'.HasUnit city.owner) ↔
      ¬ a.Overlooks s := by
  have hunits : s'.HasUnit city.owner ↔ s.HasUnit city.owner := by
    rw [GameState.HasUnit, GameState.HasUnit, h.state]
    rfl
  have howns : OwnsCity s' city.owner ↔
      ∃ j c, j ≠ i ∧ s.cities[j]? = some c ∧ c.owner = city.owner := by
    rw [h.state]
    exact htakes.ownsCity_iff
  have hoverlooks : a.Overlooks s ↔
      city.factionId < 0 ∧ OwnsCity s' city.owner ∧ ¬ s.HasUnit city.owner := by
    rw [howns]
    constructor
    · rintro ⟨p', i', city', htakes', hrest⟩
      obtain ⟨rfl, rfl, rfl⟩ := htakes.taken.unique htakes'.taken
      exact hrest
    · exact fun hrest => ⟨p, i, city, htakes, hrest⟩
  have hreport : r.factionEliminated = true ↔
      ¬ (OwnsCity s' city.owner ∧ ¬ city.factionId < 0) ∧ ¬ s.HasUnit city.owner := by
    rw [h.eliminated, GameState.isFactionEliminated_eq_true_iff, GameState.Holds, not_or, hunits,
      hasCity_iff city rfl]
  rw [hreport, hoverlooks, hunits]
  constructor
  · rintro hright ⟨hnegative, howns, hnone⟩
    exact (hright.1 ⟨fun hcity => hcity.2 hnegative, hnone⟩).1 howns
  · intro hright
    refine and_congr_left fun hnone => not_congr ⟨And.left, fun howns => ⟨howns, ?_⟩⟩
    exact fun hnegative => hright ⟨hnegative, howns, hnone⟩

end CaptureAction

/-- **A capture is exact unless it overlooks a city of a negative owner**, for every state with a
coherent unit registry. -/
theorem capture_exact_iff (s : GameState) (hcoh : s.Coherent) (a : CaptureAction) :
    ∃ s' r, a.execute s = .ok (s', r) ∧ (a.Exact s s' r ↔ ¬ a.Overlooks s) := by
  by_cases hvalid : a.validate s = .valid
  · obtain ⟨p, i, city, htakes⟩ := (CaptureAction.validate_eq_valid_iff hcoh).1 hvalid
    obtain ⟨p', i', city', r, htaken, hr, hex⟩ := CaptureAction.execute_of_valid hvalid
    obtain ⟨q, j, c, hcaptured⟩ := CaptureAction.captured_of_execute hex hr
    obtain ⟨rfl, rfl, rfl⟩ := htakes.taken.unique hcaptured.taken
    refine ⟨_, r, hex, ?_⟩
    rw [← hcaptured.eliminated_iff htakes]
    constructor
    · intro hexact
      exact hexact.eliminated p i city htakes
    · intro hreport
      refine ⟨iff_of_true hr ⟨p, i, city, htakes⟩, fun hrefused => ?_, ?_, ?_, ?_⟩
      · rw [hr] at hrefused
        cases hrefused
      · intro p₁ i₁ city₁ htakes₁
        obtain ⟨rfl, rfl, rfl⟩ := htakes.taken.unique htakes₁.taken
        exact ⟨CaptureAction.captured city p.unit, hcaptured.state, UInt32.toUInt32_toInt32 _, rfl⟩
      · intro p₁ i₁ city₁ htakes₁
        obtain ⟨rfl, rfl, rfl⟩ := htakes.taken.unique htakes₁.taken
        exact hreport
      · intro p₁ i₁ city₁ htakes₁ heliminated
        obtain ⟨rfl, rfl, rfl⟩ := htakes.taken.unique htakes₁.taken
        rw [hcaptured.eliminatedFactionId, if_pos heliminated]
  · have hrefused : ¬ ∃ p i city, a.Takes s p i city :=
      fun h => hvalid ((CaptureAction.validate_eq_valid_iff hcoh).2 h)
    refine ⟨s, { executed := false, validation := a.validate s }, ?_, ?_⟩
    · rw [CaptureAction.execute, if_pos hvalid]
    · refine iff_of_true ?_ ?_
      · exact {
          executed := iff_of_false (by simp) hrefused
          refused := fun _ => ⟨rfl, rfl⟩
          captured := fun p i city h => absurd ⟨p, i, city, h⟩ hrefused
          eliminated := fun p i city h => absurd ⟨p, i, city, h⟩ hrefused
          eliminatedFactionId := fun p i city h => absurd ⟨p, i, city, h⟩ hrefused }
      · rintro ⟨p, i, city, h, -⟩
        exact hrefused ⟨p, i, city, h⟩

/-- A unit of a faction on the first of two cities of the owner `-1`, at war. -/
def freeCities : GameState :=
  let s := ((plainField.addCity (City.create "Port" 1 1 (-1))).1.addCity
    (City.create "Mine" 0 0 (-1))).1
  { (s.addUnit (Unit.create 1 1 warriorTemplate 1)).1 with
    diplomacy := DiplomacyManager.empty.setRelation 1 4294967295 .war }

theorem freeCities_coherent : freeCities.Coherent := by
  have hempty : plainField.Coherent := OccupancyIndex.tracks_empty
  have hcities : ((plainField.addCity (City.create "Port" 1 1 (-1))).1.addCity
    (City.create "Mine" 0 0 (-1))).1.Coherent := hempty.of_eq rfl rfl
  exact (hcities.addUnit (Unit.create 1 1 warriorTemplate 1)).of_eq rfl rfl

/-- A capture of the first city, by the condition. -/
theorem freeCities_capture_exact_iff :
    ∃ s' r, CaptureAction.execute { unitIndex := 0 } freeCities = .ok (s', r) ∧
      (CaptureAction.Exact { unitIndex := 0 } freeCities s' r ↔
        ¬ CaptureAction.Overlooks { unitIndex := 0 } freeCities) :=
  capture_exact_iff freeCities freeCities_coherent { unitIndex := 0 }

/-- The capture of the first city reports that its owner is eliminated, and the second city still
belongs to that owner. -/
theorem freeCities_owner_eliminated :
    freeCities.Coherent ∧
      ∃ s' r, CaptureAction.execute { unitIndex := 0 } freeCities = .ok (s', r) ∧
        r.factionEliminated = true ∧ r.eliminatedFactionId = 4294967295 ∧
        CaptureAction.OwnsCity s' 4294967295 ∧
        ¬ CaptureAction.Exact { unitIndex := 0 } freeCities s' r := by
  have howns : ∀ s' : GameState, s'.cities[1]? = freeCities.cities[1]? →
      CaptureAction.OwnsCity s' 4294967295 := by
    intro s' hs'
    obtain ⟨c, hc, howner⟩ : ∃ c, freeCities.cities[1]? = some c ∧ c.owner = 4294967295 :=
      ⟨_, rfl, rfl⟩
    exact ⟨c, List.mem_of_getElem? (hs'.trans hc), howner⟩
  refine ⟨freeCities_coherent, _, _, rfl, rfl, rfl, howns _ rfl, fun hexact => ?_⟩
  obtain ⟨p, i, city, htakes⟩ := hexact.executed.1 rfl
  have howner := hexact.eliminatedFactionId p i city htakes rfl
  have hgone := ((hexact.eliminated p i city htakes).1 rfl).1
  rw [← howner] at hgone
  exact hgone (howns _ rfl)

end My4X
