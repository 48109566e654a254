/-
**States that the rules cannot tell apart.**

Two states agree when their units agree one by one on everything the rules read, their maps on the
terrain, their cities on place and owner, and their relations between factions.  The addresses of
the units and the order in which the registry lists them are left out: in coherent states the rules
do not depend on them.  Actions are carried out alike in states that agree.

Main definitions:

* `My4X.Unit.Agrees`, `My4X.City.Agrees`, `My4X.GameState.Agrees` — agreement.

Main results:

* `My4X.MoveAction.validate_congr`, `My4X.AttackAction.validate_congr`,
  `My4X.CaptureAction.validate_congr` — agreeing states validate every action alike;
* `My4X.GameAction.execute_congr` — **and carry it out alike, into states that agree**.
-/

import My4X.Session
import My4X.Coherence

set_option relaxedAutoImplicit false
set_option autoImplicit false

namespace My4X

/-! ### Units -/

/-- Two units agree on everything but the mark that a level was just reached. -/
structure Unit.Agrees (u v : Unit) : Prop where
  row : u.row = v.row
  col : u.col = v.col
  health : u.health = v.health
  movementRemaining : u.movementRemaining = v.movementRemaining
  factionId : u.factionId = v.factionId
  template : u.template = v.template
  experience : u.experience = v.experience
  level : u.level = v.level

namespace Unit

theorem Agrees.refl (u : Unit) : Agrees u u := ⟨rfl, rfl, rfl, rfl, rfl, rfl, rfl, rfl⟩

theorem Agrees.symm {u v : Unit} (h : Agrees u v) : Agrees v u :=
  ⟨h.row.symm, h.col.symm, h.health.symm, h.movementRemaining.symm, h.factionId.symm,
    h.template.symm, h.experience.symm, h.level.symm⟩

/-- The level follows from the experience. -/
theorem level_eq_of_experience_eq {u v : Unit} (h : u.experience = v.experience) :
    u.level = v.level := by
  rw [u.experience_level.2, v.experience_level.2, h]

theorem Agrees.isAlive {u v : Unit} (h : Agrees u v) : u.isAlive = v.isAlive := by
  rw [Unit.isAlive, Unit.isAlive, h.health]

theorem Agrees.attack {u v : Unit} (h : Agrees u v) : u.attack = v.attack := by
  rw [Unit.attack, Unit.attack, h.template, h.level]

theorem Agrees.defense {u v : Unit} (h : Agrees u v) : u.defense = v.defense := by
  rw [Unit.defense, Unit.defense, h.template, h.level]

theorem Agrees.attackRange {u v : Unit} (h : Agrees u v) : u.attackRange = v.attackRange := by
  rw [Unit.attackRange, Unit.attackRange, h.template]

theorem Agrees.moveTo {u v u' : Unit} {row col cost : ℤ} (h : Agrees u v)
    (hu : u.moveTo row col cost = .ok u') :
    ∃ v', v.moveTo row col cost = .ok v' ∧ Agrees u' v' := by
  obtain ⟨hpos, hcost, hrow, hcol, hmove, hhealth, hfac, htmpl, hexp, hlev, -⟩ :=
    Unit.moveTo_eq_ok hu
  obtain ⟨v', hv⟩ := Unit.moveTo_ok row col hpos (h.movementRemaining ▸ hcost)
  obtain ⟨-, -, hrow', hcol', hmove', hhealth', hfac', htmpl', hexp', hlev', -⟩ :=
    Unit.moveTo_eq_ok hv
  refine ⟨v', hv, ⟨hrow.trans hrow'.symm, hcol.trans hcol'.symm, ?_, ?_, ?_, ?_, ?_, ?_⟩⟩
  · rw [hhealth, hhealth', h.health]
  · rw [hmove, hmove', h.movementRemaining]
  · rw [hfac, hfac', h.factionId]
  · rw [htmpl, htmpl', h.template]
  · rw [hexp, hexp', h.experience]
  · rw [hlev, hlev', h.level]

theorem Agrees.takeDamage {u v u' : Unit} {amount : ℤ} (h : Agrees u v)
    (hu : u.takeDamage amount = .ok u') :
    ∃ v', v.takeDamage amount = .ok v' ∧ Agrees u' v' := by
  simp only [Unit.takeDamage] at hu ⊢
  split at hu
  · next hpos =>
      obtain rfl := Except.ok.inj hu
      rw [dif_pos hpos]
      exact ⟨_, rfl, ⟨h.row, h.col, by simp only [h.health], h.movementRemaining, h.factionId,
        h.template, h.experience, h.level⟩⟩
  · simp at hu

theorem Agrees.addExperience {u v : Unit} (h : Agrees u v) (xp : ℤ) :
    Agrees (u.addExperience xp).1 (v.addExperience xp).1 := by
  simp only [Unit.addExperience]
  split
  · exact h
  · exact ⟨h.row, h.col, h.health, h.movementRemaining, h.factionId, h.template,
      by simp only [h.experience], by simp only [h.experience]⟩

theorem Agrees.setMovementRemaining {u v : Unit} (h : Agrees u v) (remaining : ℤ) :
    Agrees (u.setMovementRemaining remaining) (v.setMovementRemaining remaining) :=
  ⟨h.row, h.col, h.health, by simp only [Unit.setMovementRemaining, h.template], h.factionId,
    h.template, h.experience, h.level⟩

end Unit

/-- A round of combat depends on the units only through what they agree on. -/
theorem resolveCombat_congr {a a' d d' : Unit} (ha : a.Agrees a') (hd : d.Agrees d')
    (context : CombatContext) : resolveCombat a d context = resolveCombat a' d' context := by
  unfold resolveCombat
  rw [ha.attack, ha.defense, ha.health, hd.attack, hd.defense, hd.health, hd.attackRange]

theorem applyCombat_congr {a a' d d' a₁ d₁ : Unit} {combat : CombatResult} (ha : a.Agrees a')
    (hd : d.Agrees d') (h : applyCombat a d combat = .ok (a₁, d₁)) :
    ∃ a₂ d₂, applyCombat a' d' combat = .ok (a₂, d₂) ∧ a₁.Agrees a₂ ∧ d₁.Agrees d₂ := by
  obtain ⟨d₃, hd₃, h⟩ := Except.bind_eq_ok.1 h
  obtain ⟨a₃, ha₃, h⟩ := Except.bind_eq_ok.1 h
  obtain ⟨rfl, rfl⟩ := Prod.mk.inj (Except.ok.inj h)
  obtain ⟨d₄, hd₄, hdag⟩ := hd.takeDamage hd₃
  obtain ⟨a₄, ha₄, haag⟩ := ha.takeDamage ha₃
  have hatt : (awardAttacker a₃ combat).Agrees (awardAttacker a₄ combat) := by
    unfold awardAttacker
    rw [haag.isAlive]
    split
    · exact haag.addExperience _
    · exact haag
  have hdef : (awardDefender d₃ combat).Agrees (awardDefender d₄ combat) := by
    unfold awardDefender
    rw [hdag.isAlive]
    split
    · exact hdag.addExperience _
    · exact hdag
  rw [applyCombat]
  rw [hd₄, Except.ok_bind, ha₄, Except.ok_bind]
  refine ⟨_, _, rfl, ?_, hdef⟩
  rw [hatt.movementRemaining]
  exact hatt.setMovementRemaining _

/-! ### States -/

/-- Two cities agree on their identifier, place and owner. -/
structure City.Agrees (c d : City) : Prop where
  id : c.id = d.id
  centerRow : c.centerRow = d.centerRow
  centerCol : c.centerCol = d.centerCol
  tiles : c.tiles = d.tiles
  factionId : c.factionId = d.factionId

theorem City.Agrees.refl (c : City) : City.Agrees c c := ⟨rfl, rfl, rfl, rfl, rfl⟩

theorem City.Agrees.owner {c d : City} (h : City.Agrees c d) : c.owner = d.owner := by
  rw [City.owner, City.owner, h.factionId]

namespace GameState

/-- Two states agree on everything the actions read and change. -/
structure Agrees (s t : GameState) : Prop where
  turn : s.turn = t.turn
  units : ∀ i, Option.Rel (fun p q : OwnedUnit => p.unit.Agrees q.unit) (s.units.get? i)
    (t.units.get? i)
  height : s.map.height = t.map.height
  width : s.map.width = t.map.width
  terrain : ∀ row col, (s.map.tiles.get? row col).map (·.terrain) =
    (t.map.tiles.get? row col).map (·.terrain)
  diplomacy : ∀ a b, s.diplomacy.getRelation a b = t.diplomacy.getRelation a b
  cities : ∀ i : ℕ, Option.Rel City.Agrees s.cities[i]? t.cities[i]?

theorem Agrees.get?_eq_some {s t : GameState} (h : Agrees s t) {i : ℕ} {p : OwnedUnit}
    (hp : s.units.get? i = some p) : ∃ q, t.units.get? i = some q ∧ p.unit.Agrees q.unit := by
  have hi := h.units i
  rw [hp] at hi
  cases hq : t.units.get? i with
  | none => rw [hq] at hi; cases hi
  | some q => rw [hq] at hi; cases hi with | some hpq => exact ⟨q, rfl, hpq⟩

theorem Agrees.get?_eq_none {s t : GameState} (h : Agrees s t) {i : ℕ}
    (hp : s.units.get? i = none) : t.units.get? i = none := by
  have hi := h.units i
  rw [hp] at hi
  cases hq : t.units.get? i with
  | none => rfl
  | some q => rw [hq] at hi; cases hi

theorem Agrees.symm {s t : GameState} (h : Agrees s t) : Agrees t s where
  turn := h.turn.symm
  units := by
    intro i
    cases hp : s.units.get? i with
    | none => rw [h.get?_eq_none hp]; exact Option.Rel.none
    | some p =>
        obtain ⟨q, hq, hpq⟩ := h.get?_eq_some hp
        rw [hq]
        exact Option.Rel.some hpq.symm
  height := h.height.symm
  width := h.width.symm
  terrain := fun row col => (h.terrain row col).symm
  diplomacy := fun a b => (h.diplomacy a b).symm
  cities := by
    intro i
    have hi := h.cities i
    cases hc : s.cities[i]? with
    | none =>
        rw [hc] at hi
        cases hd : t.cities[i]? with
        | none => exact Option.Rel.none
        | some d => rw [hd] at hi; cases hi
    | some c =>
        rw [hc] at hi
        cases hd : t.cities[i]? with
        | none => rw [hd] at hi; cases hi
        | some d =>
            rw [hd] at hi
            cases hi with
            | some hcd =>
                exact Option.Rel.some ⟨hcd.id.symm, hcd.centerRow.symm, hcd.centerCol.symm,
                  hcd.tiles.symm, hcd.factionId.symm⟩

theorem Agrees.areAtWar {s t : GameState} (h : Agrees s t) (a b : FactionId) :
    s.diplomacy.areAtWar a b = t.diplomacy.areAtWar a b := by
  rw [DiplomacyManager.areAtWar, DiplomacyManager.areAtWar, h.diplomacy]

/-- A tile that can be looked up in one state can be looked up in the other, with its terrain. -/
theorem Agrees.tile {s t : GameState} (h : Agrees s t) {row col : ℤ} {tile : Tile}
    (ht : s.map.tile row col = .ok tile) :
    ∃ tile', t.map.tile row col = .ok tile' ∧ tile.terrain = tile'.terrain := by
  rw [Map.tile_eq_ok] at ht
  have hterr := h.terrain row col
  rw [ht, Option.map_some] at hterr
  obtain ⟨tile', ht', heq⟩ := Option.map_eq_some_iff.1 hterr.symm
  exact ⟨tile', Map.tile_eq_ok.2 ht', heq.symm⟩

/-- What holds of a unit of one state holds of a unit of the other, if agreement keeps it. -/
theorem Agrees.exists_unit {s t : GameState} (h : Agrees s t) {P : Unit → Prop}
    (hP : ∀ u v : Unit, u.Agrees v → P u → P v) (hs : ∃ p ∈ s.units.list, P p.unit) :
    ∃ q ∈ t.units.list, P q.unit := by
  obtain ⟨p, hp, hPp⟩ := hs
  obtain ⟨i, hi⟩ := UnitVec.exists_get?_of_mem hp
  obtain ⟨q, hq, hpq⟩ := h.get?_eq_some hi
  exact ⟨q, UnitVec.mem_list_of_get? hq, hP _ _ hpq hPp⟩

/-- What the registry shows of a tile, up to addresses and order. -/
theorem Agrees.exists_unitOnTile {s t : GameState} (h : Agrees s t) (hs : s.Coherent)
    (ht : t.Coherent) {row col : ℤ} {P : Unit → Prop} (hP : ∀ u v : Unit, u.Agrees v → P u → P v)
    (hex : ∃ u ∈ unitsOnTile s.registry s.units row col, P u) :
    ∃ v ∈ unitsOnTile t.registry t.units row col, P v := by
  obtain ⟨u, hu, hPu⟩ := hex
  obtain ⟨⟨p, hp, rfl⟩, hrow, hcol⟩ := hs.mem_unitsOnTile.1 hu
  have hkeep : ∀ u v : Unit, u.Agrees v → (P u ∧ u.row = row ∧ u.col = col) →
      P v ∧ v.row = row ∧ v.col = col :=
    fun u v huv hu => ⟨hP u v huv hu.1, huv.row ▸ hu.2.1, huv.col ▸ hu.2.2⟩
  obtain ⟨q, hq, hPq, hqrow, hqcol⟩ := h.exists_unit hkeep ⟨p, hp, hPu, hrow, hcol⟩
  exact ⟨q.unit, ht.mem_unitsOnTile.2 ⟨⟨q, hq, rfl⟩, hqrow, hqcol⟩, hPq⟩

/-- The factions that control a tile are the same. -/
theorem Agrees.mem_findAdjacentEnemyFactions {s t : GameState} (h : Agrees s t) (hs : s.Coherent)
    (ht : t.Coherent) {row col : ℤ} {factionId enemy : FactionId}
    (hmem : enemy ∈ findAdjacentEnemyFactions row col factionId s.map s.registry s.units
      s.diplomacy) :
    enemy ∈ findAdjacentEnemyFactions row col factionId t.map t.registry t.units t.diplomacy := by
  rw [My4X.mem_findAdjacentEnemyFactions] at hmem ⊢
  obtain ⟨⟨n, hn, hunit⟩, hne, hwar⟩ := hmem
  refine ⟨⟨n, by rw [← h.height, ← h.width]; exact hn, ?_⟩, hne, by rw [← h.areAtWar]; exact hwar⟩
  exact h.exists_unitOnTile hs ht (fun u v huv hu => huv.factionId ▸ hu) hunit

theorem Agrees.isMovementBlockedByZoc {s t : GameState} (h : Agrees s t) (hs : s.Coherent)
    (ht : t.Coherent) (fromRow fromCol toRow toCol : ℤ) (factionId : FactionId) :
    My4X.isMovementBlockedByZoc fromRow fromCol toRow toCol factionId s.map s.registry s.units
        s.diplomacy =
      My4X.isMovementBlockedByZoc fromRow fromCol toRow toCol factionId t.map t.registry t.units
        t.diplomacy := by
  rw [Bool.eq_iff_iff, isMovementBlockedByZoc_iff, isMovementBlockedByZoc_iff]
  constructor
  · intro hblocked
    obtain ⟨enemy, hto, hfrom⟩ := hblocked
    exact ⟨enemy, h.mem_findAdjacentEnemyFactions hs ht hto,
      h.mem_findAdjacentEnemyFactions hs ht hfrom⟩
  · intro hblocked
    obtain ⟨enemy, hto, hfrom⟩ := hblocked
    exact ⟨enemy, h.symm.mem_findAdjacentEnemyFactions ht hs hto,
      h.symm.mem_findAdjacentEnemyFactions ht hs hfrom⟩

/-! ### Changing agreeing states alike -/

/-- The lists of units after the same change. -/
theorem Agrees.units_set {s t : GameState} (h : Agrees s t) {u v : Unit} (huv : u.Agrees v)
    (i j : ℕ) :
    Option.Rel (fun p q : OwnedUnit => p.unit.Agrees q.unit) ((s.units.set i u).get? j)
      ((t.units.set i v).get? j) := by
  rw [UnitVec.get?_set, UnitVec.get?_set]
  split
  · next hij =>
      cases hp : s.units.get? j with
      | none => rw [h.get?_eq_none hp]; exact Option.Rel.none
      | some p =>
          obtain ⟨q, hq, -⟩ := h.get?_eq_some hp
          rw [hq]
          exact Option.Rel.some huv
  · exact h.units j

theorem Agrees.relocate {s t : GameState} (h : Agrees s t) {u v : Unit} (huv : u.Agrees v) (i : ℕ)
    (p q : OwnedUnit) : Agrees (s.relocate i p u) (t.relocate i q v) :=
  ⟨h.turn, h.units_set huv i, h.height, h.width, h.terrain, h.diplomacy, h.cities⟩

theorem Agrees.setUnit {s t : GameState} (h : Agrees s t) {u v : Unit} (huv : u.Agrees v) (i : ℕ) :
    Agrees (s.setUnit i u) (t.setUnit i v) :=
  ⟨h.turn, h.units_set huv i, h.height, h.width, h.terrain, h.diplomacy, h.cities⟩

theorem Agrees.dropUnit {s t : GameState} (h : Agrees s t) (i : ℕ) (p q : OwnedUnit) :
    Agrees (s.dropUnit i p) (t.dropUnit i q) := by
  refine ⟨h.turn, ?_, h.height, h.width, h.terrain, h.diplomacy, h.cities⟩
  intro j
  simp only [GameState.dropUnit, UnitVec.get?_erase]
  split
  · exact h.units j
  · exact h.units (j + 1)

theorem Agrees.setCity {s t : GameState} (h : Agrees s t) {c d : City} (hcd : City.Agrees c d)
    (i : ℕ) : Agrees (s.setCity i c) (t.setCity i d) := by
  refine ⟨h.turn, h.units, h.height, h.width, h.terrain, h.diplomacy, ?_⟩
  intro j
  simp only [GameState.setCity, List.getElem?_set]
  have hlen : s.cities.length = t.cities.length := by
    -- the lists end at the same index
    rcases Nat.lt_trichotomy s.cities.length t.cities.length with hlt | heq | hgt
    · have hrel := h.cities s.cities.length
      rw [List.getElem?_eq_none (le_refl _), List.getElem?_eq_getElem hlt] at hrel
      cases hrel
    · exact heq
    · have hrel := h.cities t.cities.length
      rw [List.getElem?_eq_none (le_refl _), List.getElem?_eq_getElem hgt] at hrel
      cases hrel
  rw [hlen]
  split
  · split
    · exact Option.Rel.some hcd
    · exact Option.Rel.none
  · exact h.cities j

end GameState

/-! ### Moving -/

namespace MoveAction

/-- Agreeing states validate a move alike. -/
theorem validate_congr {s t : GameState} (h : s.Agrees t) (hs : s.Coherent) (ht : t.Coherent)
    (a : MoveAction) : a.validate s = a.validate t := by
  simp only [validate]
  cases hp : s.units.get? a.unitIndex with
  | none => rw [h.get?_eq_none hp]
  | some p =>
      obtain ⟨q, hq, hpq⟩ := h.get?_eq_some hp
      rw [hq]
      dsimp only
      unfold validateUnit
      rw [hpq.isAlive, hpq.movementRemaining, hpq.row, hpq.col, hpq.factionId,
        h.isMovementBlockedByZoc hs ht]
      cases htile : s.map.tile a.destRow a.destCol with
      | ok tile =>
          obtain ⟨tile', htile', hterr⟩ := h.tile htile
          simp only [htile', Except.ok_bind, hterr]
      | error e =>
          -- the tile cannot be looked up in the other state either
          cases htile' : t.map.tile a.destRow a.destCol with
          | ok tile' =>
              obtain ⟨tile, htile'', -⟩ := h.symm.tile htile'
              rw [htile] at htile''
              simp at htile''
          | error e' =>
              have he : e = .assertion := by
                rw [Map.tile] at htile
                split at htile <;> simp_all
              have he' : e' = .assertion := by
                rw [Map.tile] at htile'
                split at htile' <;> simp_all
              rw [he, he']

/-- Agreeing states carry out a move alike. -/
theorem execute_congr {s t s' : GameState} (h : s.Agrees t) (hs : s.Coherent) (ht : t.Coherent)
    {a : MoveAction} {r : MoveResult} (hex : a.execute s = .ok (s', r)) :
    ∃ t' r', a.execute t = .ok (t', r') ∧ r'.executed = r.executed ∧ s'.Agrees t' := by
  obtain ⟨hv, ⟨hf, hne, rfl⟩ | ⟨htrue, hvalid, p, u, tile, hp, htile, hmove, rfl⟩⟩ :=
    execute_cases hex
  · rw [validate_congr h hs ht] at hv
    exact ⟨t, _, execute_of_refused hv hne, hf.symm, h⟩
  · rw [validate_congr h hs ht, hvalid] at hv
    obtain ⟨q, v, tile', hq, htile', hmove', hex'⟩ := execute_of_valid hv
    obtain ⟨q', hq', hpq⟩ := h.get?_eq_some hp
    obtain rfl := Option.some_inj.1 (hq.symm.trans hq')
    obtain ⟨tile'', htile'', hterr⟩ := h.tile htile
    obtain rfl := Except.ok.inj (htile'.symm.trans htile'')
    obtain ⟨v', hv', huv⟩ := hpq.moveTo hmove
    rw [hterr] at hv'
    obtain rfl := Except.ok.inj (hmove'.symm.trans hv')
    exact ⟨_, _, hex', htrue.symm, h.relocate huv _ _ _⟩

end MoveAction

/-! ### Attacking -/

namespace AttackAction

/-- Agreeing states validate an attack alike. -/
theorem validate_congr {s t : GameState} (h : s.Agrees t) (a : AttackAction) :
    a.validate s = a.validate t := by
  simp only [validate]
  cases hp : s.units.get? a.attackerIndex with
  | none => rw [h.get?_eq_none hp]
  | some p =>
      obtain ⟨p', hp', hpp⟩ := h.get?_eq_some hp
      cases hq : s.units.get? a.targetIndex with
      | none => rw [h.get?_eq_none hq, hp']
      | some q =>
          obtain ⟨q', hq', hqq⟩ := h.get?_eq_some hq
          rw [hp', hq']
          dsimp only
          unfold validateUnits
          rw [hpp.isAlive, hqq.isAlive, hpp.factionId, hqq.factionId, hpp.movementRemaining,
            hpp.attackRange, hpp.row, hpp.col, hqq.row, hqq.col, h.areAtWar]

theorem combatContext_congr {s t : GameState} (h : s.Agrees t) {u v u' v' : Unit}
    (hu : u.Agrees u') (hv : v.Agrees v') {context : CombatContext}
    (hc : combatContext s.map u v = .ok context) : combatContext t.map u' v' = .ok context := by
  obtain ⟨defenderTile, hd, hc⟩ := Except.bind_eq_ok.1 hc
  obtain ⟨attackerTile, ha, hc⟩ := Except.bind_eq_ok.1 hc
  obtain ⟨defenderTile', hd', hdterr⟩ := h.tile hd
  obtain ⟨attackerTile', ha', haterr⟩ := h.tile ha
  rw [combatContext]
  rw [← hu.row, ← hu.col, ← hv.row, ← hv.col, hd', Except.ok_bind, ha', Except.ok_bind, ← hdterr,
    ← haterr]
  exact hc

/-- Agreeing states carry out an attack alike. -/
theorem execute_congr {s t s' : GameState} (h : s.Agrees t) {a : AttackAction} {r : AttackResult}
    (hex : a.execute s = .ok (s', r)) :
    ∃ t' r', a.execute t = .ok (t', r') ∧ r'.executed = r.executed ∧ s'.Agrees t' := by
  obtain ⟨hv, ⟨hf, hne, rfl⟩ | ⟨htrue, hvalid, p, q, attacker, target, hround, rfl⟩⟩ :=
    execute_cases hex
  · refine ⟨t, { executed := false, validation := a.validate t }, ?_, hf.symm, h⟩
    rw [execute]
    rw [if_pos (by rw [← validate_congr h, ← hv]; exact hne)]
  · have hvt : a.validate t = .valid := by rw [← validate_congr h, ← hv, hvalid]
    obtain ⟨p', q', hcheck⟩ := validate_eq_valid hvt
    obtain ⟨p'', hp'', hpp⟩ := h.get?_eq_some hround.checked.attacker
    obtain ⟨q'', hq'', hqq⟩ := h.get?_eq_some hround.checked.target
    obtain rfl := Option.some_inj.1 (hcheck.attacker.symm.trans hp'')
    obtain rfl := Option.some_inj.1 (hcheck.target.symm.trans hq'')
    obtain ⟨context, hc, hcombat⟩ := hround.resolved
    have hc' := combatContext_congr h hpp hqq hc
    obtain ⟨attacker', target', hround', hex'⟩ := execute_of_valid hvt hcheck hc'
    -- the two rounds come to the same, and to units that agree
    have happly := hround.applied
    rw [hcombat, resolveCombat_congr hpp hqq] at happly
    obtain ⟨attacker'', target'', happly', hatt, htar⟩ := applyCombat_congr hpp hqq happly
    have heq : (attacker'', target'') = (attacker', target') :=
      Except.ok.inj (happly'.symm.trans hround'.applied)
    obtain ⟨rfl, rfl⟩ := Prod.mk.inj heq
    refine ⟨_, _, hex', htrue.symm, ?_⟩
    have hfought : (a.fought s attacker target).Agrees (a.fought t attacker'' target'') :=
      (h.setUnit htar _).setUnit hatt _
    unfold outcome
    rw [htar.isAlive, hatt.isAlive]
    split
    · exact hfought.dropUnit _ _ _
    · split
      · exact hfought.dropUnit _ _ _
      · exact hfought

end AttackAction

/-! ### Capturing -/

namespace CaptureAction

/-- Agreeing states have the same city at a tile. -/
theorem findCityCenterAt_congr {s t : GameState} (h : s.Agrees t) (row col : ℤ) :
    findCityCenterAt s row col = findCityCenterAt t row col := by
  -- one direction; the other one follows by symmetry
  have hforward : ∀ {s t : GameState}, s.Agrees t → ∀ i,
      findCityCenterAt s row col = some i → findCityCenterAt t row col = some i := by
    intro s t h i hi
    unfold findCityCenterAt at hi ⊢
    rw [List.findIdx?_eq_some_iff_getElem] at hi ⊢
    obtain ⟨hlt, hc, hbefore⟩ := hi
    have hat : ∀ j, ∀ hj : j < s.cities.length, ∃ hj' : j < t.cities.length,
        City.Agrees s.cities[j] t.cities[j] := by
      intro j hj
      have hrel := h.cities j
      rw [List.getElem?_eq_getElem hj] at hrel
      by_cases hj' : j < t.cities.length
      · rw [List.getElem?_eq_getElem hj'] at hrel
        cases hrel with
        | some hcd => exact ⟨hj', hcd⟩
      · rw [List.getElem?_eq_none (not_lt.1 hj')] at hrel
        cases hrel
    obtain ⟨hlt', hcd⟩ := hat i hlt
    refine ⟨hlt', by rw [← hcd.centerRow, ← hcd.centerCol]; exact hc, ?_⟩
    intro j hj
    have hcd' := (hat j (hj.trans hlt)).2
    rw [← hcd'.centerRow, ← hcd'.centerCol]
    exact hbefore j hj
  cases hs : findCityCenterAt s row col with
  | some i => exact (hforward h i hs).symm
  | none =>
      cases ht : findCityCenterAt t row col with
      | none => rfl
      | some i => rw [hforward h.symm i ht] at hs; simp at hs

/-- Agreeing states defend agreeing cities alike. -/
theorem isCityDefended_congr {s t : GameState} (h : s.Agrees t) (hs : s.Coherent)
    (ht : t.Coherent) {c d : City} (hcd : City.Agrees c d) :
    isCityDefended s c = isCityDefended t d := by
  have hforward : ∀ {s t : GameState}, s.Agrees t → s.Coherent → t.Coherent → ∀ {c d : City},
      City.Agrees c d → isCityDefended s c = true → isCityDefended t d = true := by
    intro s t h hs ht c d hcd hdef
    unfold isCityDefended at hdef ⊢
    rw [List.any_eq_true] at hdef ⊢
    obtain ⟨tile, htile, hany⟩ := hdef
    refine ⟨tile, by rw [← hcd.tiles]; exact htile, ?_⟩
    rw [List.any_eq_true, ← hcd.owner]
    rw [List.any_eq_true] at hany
    refine h.exists_unitOnTile hs ht ?_ hany
    intro u v huv hu
    rw [← huv.isAlive, ← huv.factionId]
    exact hu
  have hcd' : City.Agrees d c :=
    ⟨hcd.id.symm, hcd.centerRow.symm, hcd.centerCol.symm, hcd.tiles.symm, hcd.factionId.symm⟩
  rw [Bool.eq_iff_iff]
  exact ⟨hforward h hs ht hcd, hforward h.symm ht hs hcd'⟩

/-- Agreeing states validate a capture alike. -/
theorem validate_congr {s t : GameState} (h : s.Agrees t) (hs : s.Coherent) (ht : t.Coherent)
    (a : CaptureAction) : a.validate s = a.validate t := by
  simp only [validate]
  cases hp : s.units.get? a.unitIndex with
  | none => rw [h.get?_eq_none hp]
  | some p =>
      obtain ⟨q, hq, hpq⟩ := h.get?_eq_some hp
      rw [hq]
      dsimp only
      unfold validateUnit
      rw [hpq.isAlive, List.find?_eq_bind_findIdx?_getElem?, List.find?_eq_bind_findIdx?_getElem?]
      have hfind := findCityCenterAt_congr h p.unit.row p.unit.col
      unfold findCityCenterAt at hfind
      rw [hpq.row, hpq.col] at hfind ⊢
      rw [hfind]
      cases hi : t.cities.findIdx? fun city =>
          decide (city.centerRow = q.unit.row ∧ city.centerCol = q.unit.col) with
      | none => rfl
      | some i =>
          have hrel := h.cities i
          dsimp only [Option.bind_some]
          cases hc : s.cities[i]? with
          | none =>
              rw [hc] at hrel
              cases hd : t.cities[i]? with
              | none => rfl
              | some d => rw [hd] at hrel; cases hrel
          | some c =>
              rw [hc] at hrel
              cases hd : t.cities[i]? with
              | none => rw [hd] at hrel; cases hrel
              | some d =>
                  rw [hd] at hrel
                  cases hrel with
                  | some hcd =>
                      dsimp only
                      unfold validateCity
                      rw [hcd.owner, hpq.factionId, h.areAtWar, isCityDefended_congr h hs ht hcd]

/-- Agreeing states carry out a capture alike. -/
theorem execute_congr {s t s' : GameState} (h : s.Agrees t) (hs : s.Coherent) (ht : t.Coherent)
    {a : CaptureAction} {r : CaptureResult} (hex : a.execute s = .ok (s', r)) :
    ∃ t' r', a.execute t = .ok (t', r') ∧ r'.executed = r.executed ∧ s'.Agrees t' := by
  obtain ⟨hv, ⟨hf, hne, rfl⟩ | ⟨htrue, hvalid, p, i, city, htaken, rfl⟩⟩ := execute_cases hex
  · refine ⟨t, { executed := false, validation := a.validate t }, ?_, hf.symm, h⟩
    rw [execute]
    rw [if_pos (by rw [← validate_congr h hs ht, ← hv]; exact hne)]
  · have hvt : a.validate t = .valid := by rw [← validate_congr h hs ht, ← hv, hvalid]
    obtain ⟨q, j, city', r', htaken', hr', hex'⟩ := execute_of_valid hvt
    obtain ⟨q', hq', hpq⟩ := h.get?_eq_some htaken.unit
    obtain rfl := Option.some_inj.1 (htaken'.unit.symm.trans hq')
    -- both take the city at the same index
    have hindex := htaken'.index
    rw [← hpq.row, ← hpq.col, ← findCityCenterAt_congr h, htaken.index] at hindex
    obtain rfl := Option.some_inj.1 hindex
    have hrel := h.cities i
    rw [htaken.get, htaken'.get] at hrel
    cases hrel with
    | some hcd =>
        refine ⟨_, r', hex', hr'.trans htrue.symm, h.setCity ?_ _⟩
        refine ⟨hcd.id, hcd.centerRow, hcd.centerCol, hcd.tiles, ?_⟩
        show p.unit.factionId.toInt32 = q.unit.factionId.toInt32
        rw [hpq.factionId]

end CaptureAction

/-! ### Any action -/

/-- **Agreeing states carry out an action alike, into states that agree.** -/
theorem GameAction.execute_congr {s t s' : GameState} (h : s.Agrees t) (hs : s.Coherent)
    (ht : t.Coherent) {action : GameAction} {executed : Bool}
    (hex : action.execute s = .ok (s', executed)) :
    ∃ t', action.execute t = .ok (t', executed) ∧ s'.Agrees t' := by
  cases action with
  | move a =>
      obtain ⟨r, hmove, rfl⟩ := GameAction.execute_move.1 hex
      obtain ⟨t', r', hmove', hr', hagree⟩ := MoveAction.execute_congr h hs ht hmove
      exact ⟨t', GameAction.execute_move.2 ⟨r', hmove', hr'⟩, hagree⟩
  | attack a =>
      obtain ⟨r, hattack, rfl⟩ := GameAction.execute_attack.1 hex
      obtain ⟨t', r', hattack', hr', hagree⟩ := AttackAction.execute_congr h hattack
      exact ⟨t', GameAction.execute_attack.2 ⟨r', hattack', hr'⟩, hagree⟩
  | capture a =>
      obtain ⟨r, hcapture, rfl⟩ := GameAction.execute_capture.1 hex
      obtain ⟨t', r', hcapture', hr', hagree⟩ := CaptureAction.execute_congr h hs ht hcapture
      exact ⟨t', GameAction.execute_capture.2 ⟨r', hcapture', hr'⟩, hagree⟩

end My4X
