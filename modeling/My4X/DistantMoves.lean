/-
**Moves that are far apart.**

Whether a move is valid depends on its unit, on the map and on the units next to the two ends of
the move, which are the tiles within distance two of the unit.  A move of a unit that stands four
tiles away leaves and enters tiles that are farther off, and it leaves every unit with its faction,
so neither move can tell whether the other one has been carried out.

Main definitions:

* `My4X.MoveAction.Alike` — two states that a move cannot tell apart;
* `My4X.MoveAction.Apart` — two moves of units that stand at least four tiles apart;
* `My4X.GameState.moved` — the state after a move, from where it takes the unit.

Main results:

* `My4X.MoveAction.execute_alike` — a move does the same in all the states it cannot tell apart;
* `My4X.MoveAction.Alike.relocate` — the step of a distant unit cannot be told;
* `My4X.MoveAction.distant_commute` — **distant moves commute**;
* `My4X.MoveAction.executeAll_distant` — moves that are pairwise apart can arrive in any order.
-/

import My4X.Actions
import My4X.Lib.Commuting

set_option relaxedAutoImplicit false
set_option autoImplicit false

namespace My4X

/-! ### Steps of two units -/

/-- A unit does not stand on a tile that is some way off. -/
theorem Unit.coord_ne {u : Unit} {row col : ℤ} (h : 0 < hexDistance u.row u.col row col) :
    u.coord ≠ ⟨row, col⟩ := by
  intro heq
  obtain ⟨rfl, rfl⟩ := TileCoord.ext_iff'.1 heq
  change 0 < hexDistance u.row u.col u.row u.col at h
  rw [hexDistance_self] at h
  omega

/-- Nor does another unit that is some way off have its index. -/
theorem UnitVec.index_ne {v : UnitVec} {i j : ℕ} {p q : OwnedUnit} (hp : v.get? i = some p)
    (hq : v.get? j = some q)
    (h : 0 < hexDistance p.unit.row p.unit.col q.unit.row q.unit.col) : i ≠ j := by
  rintro rfl
  obtain rfl : p = q := Option.some_inj.1 (hp.symm.trans hq)
  rw [hexDistance_self] at h
  omega

/-- Relocating a unit changes the registry of units and the unit list. -/
theorem GameState.relocate_eq (s : GameState) (i : ℕ) (p : OwnedUnit) (u : Unit) :
    s.relocate i p u = { s with
      registry := { s.registry with
        units := (s.registry.units.unregister p.unit.coord p.ref).register u.coord p.ref }
      units := s.units.set i u } := rfl

/-- **Steps of two units between different tiles**, in either order. -/
theorem GameState.relocate_comm (s : GameState) {i j : ℕ} (hij : i ≠ j) {p q : OwnedUnit}
    {u w : Unit} (hout : p.unit.coord ≠ w.coord) (hin : u.coord ≠ q.unit.coord)
    (hto : u.coord ≠ w.coord) :
    (s.relocate i p u).relocate j q w = (s.relocate j q w).relocate i p u := by
  rw [relocate_eq, relocate_eq, relocate_eq, relocate_eq]
  dsimp only
  rw [OccupancyIndex.move_comm _ hout hin hto, UnitVec.set_comm _ hij]

/-- **Steps of two units that stand four tiles apart**, in either order. -/
theorem GameState.relocate_comm_of_far {s : GameState} {i j : ℕ} {p q : OwnedUnit} {u w : Unit}
    (hp : s.units.get? i = some p) (hq : s.units.get? j = some q)
    (hfar : 4 ≤ hexDistance p.unit.row p.unit.col q.unit.row q.unit.col)
    (hu : hexDistance p.unit.row p.unit.col u.row u.col = 1)
    (hw : hexDistance q.unit.row q.unit.col w.row w.col = 1) :
    (s.relocate i p u).relocate j q w = (s.relocate j q w).relocate i p u := by
  have hij : i ≠ j := UnitVec.index_ne hp hq (by omega)
  rw [hexDistance_comm] at hw
  have hpwq := hexDistance_triangle p.unit.row p.unit.col w.row w.col q.unit.row q.unit.col
  have hpuq := hexDistance_triangle p.unit.row p.unit.col u.row u.col q.unit.row q.unit.col
  have huwq := hexDistance_triangle u.row u.col w.row w.col q.unit.row q.unit.col
  have hout : 0 < hexDistance p.unit.row p.unit.col w.row w.col := by omega
  have hin : 0 < hexDistance u.row u.col q.unit.row q.unit.col := by omega
  have hto : 0 < hexDistance u.row u.col w.row w.col := by omega
  exact relocate_comm s hij (Unit.coord_ne hout) (Unit.coord_ne hin) (Unit.coord_ne hto)

/-- The state after a move, from where it takes the unit; a refused move takes it nowhere. -/
def GameState.moved (s : GameState) (i : ℕ) : Option (OwnedUnit × Unit) → GameState
  | none => s
  | some (p, u) => s.relocate i p u

/-- A unit that steps onto an adjacent tile. -/
structure Unit.StepsTo (u v : Unit) : Prop where
  factionId : v.factionId = u.factionId
  distance : hexDistance u.row u.col v.row v.col = 1

/-! ### What a move can tell -/

namespace MoveAction

/-- A move cannot tell one state from the other. -/
structure Alike (a : MoveAction) (s t : GameState) : Prop where
  validate : a.validate t = a.validate s
  get? : t.units.get? a.unitIndex = s.units.get? a.unitIndex
  map : t.map = s.map

theorem Alike.refl (a : MoveAction) (s : GameState) : a.Alike s s := ⟨rfl, rfl, rfl⟩

/-- What a move does in every state that it cannot tell from a given one: it fails, or it answers
and takes its unit somewhere or nowhere. -/
inductive Does (a : MoveAction) (s : GameState) : Prop
  | fails (h : ∀ t, a.Alike s t → a.execute t = .error .assertion)
  | answers (m : Option (OwnedUnit × Unit)) (r : MoveResult)
      (hm : ∀ x ∈ m, s.units.get? a.unitIndex = some x.1 ∧ x.1.unit.StepsTo x.2)
      (h : ∀ t, a.Alike s t → a.execute t = .ok (t.moved a.unitIndex m, r))

/-- **A move does the same in all the states it cannot tell apart.** -/
theorem execute_alike (a : MoveAction) (s : GameState) : a.Does s := by
  cases hv : a.validate s with
  | error e =>
      obtain rfl := validate_error hv
      refine Does.fails fun t ht => ?_
      rw [execute, ht.validate, hv]
      rfl
  | ok v =>
      by_cases hvalid : v = .valid
      · subst hvalid
        obtain ⟨p, t₀, hp, -, htile, -, -, hdist⟩ := validate_eq_valid hv
        obtain ⟨p', u, t₁, hp', htile', hu, -⟩ := execute_of_valid hv
        obtain rfl : p = p' := Option.some_inj.1 (hp.symm.trans hp')
        obtain ⟨-, -, hrow, hcol, -, -, hfaction, -⟩ := Unit.moveTo_eq_ok hu
        have hstep : p.unit.StepsTo u := ⟨hfaction, by rw [hrow, hcol]; exact hdist⟩
        refine Does.answers (some (p, u)) { executed := true, validation := .valid
                                            movementCostDeducted :=
                                              (getTerrainProperties t₁.terrain).movementCost } ?_ ?_
        · rintro x hx
          obtain rfl := Option.mem_some_iff.1 hx
          exact ⟨hp, hstep⟩
        · intro t ht
          -- the unit, the tile and the cost are read from parts that are the same in `t`
          obtain ⟨q, w, t₂, hq, htile₂, hw, hexec⟩ :=
            execute_of_valid (ht.validate.trans hv)
          obtain rfl : p = q := Option.some_inj.1 (hp.symm.trans (ht.get?.symm.trans hq))
          rw [ht.map] at htile₂
          obtain rfl : t₁ = t₂ := Except.ok.inj (htile'.symm.trans htile₂)
          obtain rfl : u = w := Except.ok.inj (hu.symm.trans hw)
          exact hexec
      · refine Does.answers none { executed := false, validation := v } ?_ ?_
        · rintro x hx
          cases hx
        · intro t ht
          exact execute_of_refused (ht.validate.trans hv) hvalid

/-! ### What a distant step changes -/

/-- The step of a unit three tiles off changes nothing about the enemies next to a tile. -/
theorem mem_findAdjacentEnemyFactions_relocate {s : GameState} {j : ℕ} {q : OwnedUnit} {w : Unit}
    (hq : s.units.get? j = some q) (hw : q.unit.StepsTo w) {row col : ℤ}
    (hfar : 3 ≤ hexDistance q.unit.row q.unit.col row col) (f enemy : FactionId) :
    enemy ∈ findAdjacentEnemyFactions row col f (s.relocate j q w).map (s.relocate j q w).registry
        (s.relocate j q w).units (s.relocate j q w).diplomacy ↔
      enemy ∈ findAdjacentEnemyFactions row col f s.map s.registry s.units s.diplomacy := by
  rw [mem_findAdjacentEnemyFactions, mem_findAdjacentEnemyFactions]
  refine and_congr_left fun _ => exists_congr fun n => and_congr_right fun hn => ?_
  have hnext := (mem_hexNeighbors_iff (mem_hexNeighbors_inBounds hn)).1 hn
  rw [hexDistance_comm] at hnext
  have htri := hexDistance_triangle q.unit.row q.unit.col n.row n.col row col
  -- neither the tile that the unit leaves nor the one it enters
  have hdist := hw.distance
  have htri' := hexDistance_triangle q.unit.row q.unit.col w.row w.col n.row n.col
  have hleft : 0 < hexDistance q.unit.row q.unit.col n.row n.col := by omega
  have hentered : 0 < hexDistance w.row w.col n.row n.col := by omega
  have hout : n ≠ q.unit.coord := (Unit.coord_ne hleft).symm
  have hin : n ≠ w.coord := (Unit.coord_ne hentered).symm
  have hrefs : (s.relocate j q w).registry.unitsAt n.row n.col =
      s.registry.unitsAt n.row n.col := by
    rw [GameState.relocate_eq]
    change OccupancyIndex.refsAt _ n = OccupancyIndex.refsAt _ n
    rw [OccupancyIndex.refsAt_register, if_neg hin, OccupancyIndex.refsAt_unregister, if_neg hout]
  rw [exists_unitsOnTile_iff, exists_unitsOnTile_iff, hrefs]
  exact exists_congr fun r => and_congr_right fun _ =>
    UnitVec.exists_mem_set_iff hq hw.factionId r enemy

/-- **The step of a distant unit cannot be told.** -/
theorem Alike.relocate {a : MoveAction} {s : GameState} {p q : OwnedUnit} {j : ℕ} {w : Unit}
    (hp : s.units.get? a.unitIndex = some p) (hq : s.units.get? j = some q)
    (hfar : 4 ≤ hexDistance p.unit.row p.unit.col q.unit.row q.unit.col)
    (hw : q.unit.StepsTo w) : a.Alike s (s.relocate j q w) := by
  have hne : j ≠ a.unitIndex := (UnitVec.index_ne hp hq (by omega)).symm
  have hget : (s.relocate j q w).units.get? a.unitIndex = s.units.get? a.unitIndex := by
    rw [GameState.relocate_eq]
    exact (UnitVec.get?_set ..).trans (if_neg hne)
  refine ⟨?_, hget, rfl⟩
  rw [MoveAction.validate, hget, hp, MoveAction.validate, hp]
  dsimp only
  by_cases hadjacent : hexDistance p.unit.row p.unit.col a.destRow a.destCol = adjacentDistance
  · have hzoc : isMovementBlockedByZoc p.unit.row p.unit.col a.destRow a.destCol p.unit.factionId
          (s.relocate j q w).map (s.relocate j q w).registry (s.relocate j q w).units
          (s.relocate j q w).diplomacy =
        isMovementBlockedByZoc p.unit.row p.unit.col a.destRow a.destCol p.unit.factionId s.map
          s.registry s.units s.diplomacy := by
      rw [hexDistance_comm] at hfar
      have htri := hexDistance_triangle q.unit.row q.unit.col a.destRow a.destCol p.unit.row
        p.unit.col
      rw [hexDistance_comm a.destRow, hadjacent, adjacentDistance] at htri
      rw [Bool.eq_iff_iff, isMovementBlockedByZoc_iff, isMovementBlockedByZoc_iff]
      refine exists_congr fun enemy => and_congr ?_ ?_
      · exact mem_findAdjacentEnemyFactions_relocate hq hw (by omega) _ _
      · exact mem_findAdjacentEnemyFactions_relocate hq hw (by omega) _ _
    rw [validateUnit, validateUnit, hzoc]
    rfl
  · rw [validateUnit, validateUnit, if_pos hadjacent, if_pos hadjacent]

/-- Two moves of units that stand at least four tiles apart. -/
def Apart (s : GameState) (a b : MoveAction) : Prop :=
  ∃ p q, s.units.get? a.unitIndex = some p ∧ s.units.get? b.unitIndex = some q ∧
    4 ≤ hexDistance p.unit.row p.unit.col q.unit.row q.unit.col

theorem Apart.symm {s : GameState} {a b : MoveAction} (h : Apart s a b) : Apart s b a := by
  obtain ⟨p, q, hp, hq, hfar⟩ := h
  rw [hexDistance_comm] at hfar
  exact ⟨q, p, hq, hp, hfar⟩

/-- Whatever a distant move does cannot be told. -/
theorem Apart.alike {s : GameState} {a b : MoveAction} (h : Apart s a b)
    {m : Option (OwnedUnit × Unit)}
    (hm : ∀ x ∈ m, s.units.get? b.unitIndex = some x.1 ∧ x.1.unit.StepsTo x.2) :
    a.Alike s (s.moved b.unitIndex m) := by
  obtain ⟨p, q, hp, hq, hfar⟩ := h
  cases m with
  | none => exact Alike.refl a s
  | some x =>
      obtain ⟨hx, hstep⟩ := hm x rfl
      obtain rfl : q = x.1 := Option.some_inj.1 (hq.symm.trans hx)
      exact Alike.relocate hp hq hfar hstep

/-- What two distant moves do, in either order. -/
theorem Apart.moved_comm {s : GameState} {a b : MoveAction} (h : Apart s a b)
    {m n : Option (OwnedUnit × Unit)}
    (hm : ∀ x ∈ m, s.units.get? a.unitIndex = some x.1 ∧ x.1.unit.StepsTo x.2)
    (hn : ∀ x ∈ n, s.units.get? b.unitIndex = some x.1 ∧ x.1.unit.StepsTo x.2) :
    (s.moved a.unitIndex m).moved b.unitIndex n = (s.moved b.unitIndex n).moved a.unitIndex m := by
  obtain ⟨p, q, hp, hq, hfar⟩ := h
  cases m with
  | none => rfl
  | some x =>
      cases n with
      | none => rfl
      | some y =>
          obtain ⟨p', u⟩ := x
          obtain ⟨q', w⟩ := y
          obtain ⟨hx, hu⟩ := hm (p', u) rfl
          obtain ⟨hy, hw⟩ := hn (q', w) rfl
          obtain rfl : p = p' := Option.some_inj.1 (hp.symm.trans hx)
          obtain rfl : q = q' := Option.some_inj.1 (hq.symm.trans hy)
          exact GameState.relocate_comm_of_far hp hq hfar hu.distance hw.distance

/-- Executing a third distant move leaves two moves apart. -/
theorem Apart.kept {s s' : GameState} {a b c : MoveAction} {r : MoveResult}
    (hc : c.execute s = .ok (s', r)) (hca : Apart s c a) (hcb : Apart s c b) (hab : Apart s a b) :
    Apart s' a b := by
  cases execute_alike c s with
  | fails h =>
      rw [h s (Alike.refl c s)] at hc
      cases hc
  | answers m r hm h =>
      rw [h s (Alike.refl c s)] at hc
      obtain ⟨rfl, -⟩ := Prod.mk.inj (Except.ok.inj hc)
      obtain ⟨p, q, hp, hq, hfar⟩ := hab
      refine ⟨p, q, ?_, ?_, hfar⟩
      · rw [(hca.symm.alike hm).get?, hp]
      · rw [(hcb.symm.alike hm).get?, hq]

/-! ### Either order -/

theorem Apart.commuteAt {s : GameState} {a b : MoveAction} (hab : Apart s a b) :
    Commuting.CommuteAt execute s a b := by
  have hself := Alike.refl a s
  have hself' := Alike.refl b s
  rw [Commuting.CommuteAt]
  cases execute_alike a s with
  | fails ha =>
      rw [Commuting.both_error (ha s hself)]
      cases execute_alike b s with
      | fails hb =>
          rw [Commuting.both_error (hb s hself')]
          rfl
      | answers n rb hn hb =>
          rw [Commuting.both_ok (hb s hself'), ha _ (hab.alike hn)]
          rfl
  | answers m ra hm ha =>
      rw [Commuting.both_ok (ha s hself)]
      cases execute_alike b s with
      | fails hb =>
          rw [Commuting.both_error (hb s hself'), hb _ (hab.symm.alike hm)]
          rfl
      | answers n rb hn hb =>
          rw [Commuting.both_ok (hb s hself'), hb _ (hab.symm.alike hm), ha _ (hab.alike hn)]
          change Except.ok (_, ra, rb) = Except.ok (_, ra, rb)
          rw [hab.moved_comm hm hn]

theorem independence_apart : Commuting.Independence execute Apart where
  symm := Apart.symm
  commute := Apart.commuteAt
  kept := Apart.kept

/-- **Distant moves commute**: either order gives the same results for both moves and the same
state, or the same failure. -/
theorem distant_commute {s : GameState} {a b : MoveAction} {p q : OwnedUnit}
    (hp : s.units.get? a.unitIndex = some p) (hq : s.units.get? b.unitIndex = some q)
    (hfar : 4 ≤ hexDistance p.unit.row p.unit.col q.unit.row q.unit.col) :
    Commuting.both execute a b s =
      (Commuting.both execute b a s).map fun (t, rb, ra) => (t, ra, rb) :=
  independence_apart.commute ⟨p, q, hp, hq, hfar⟩

/-- Two enemies four tiles apart on a field of plains. -/
def twoFronts : GameState :=
  (({ plainField with
      map := { height := 6, width := 6, height_pos := by decide, width_pos := by decide
               tiles := generateTiles 6 6 fun _ => .plains }
      fog := FogOfWar.create 6 6
      diplomacy := DiplomacyManager.empty.setRelation 1 2 .war }.addUnit
    (Unit.create 1 0 warriorTemplate 1)).1.addUnit (Unit.create 1 4 warriorTemplate 2)).1

/-- They step towards each other, in either order. -/
theorem twoFronts_commute :
    (Commuting.both execute ⟨0, 1, 1⟩ ⟨1, 1, 3⟩ twoFronts).map Prod.snd =
        .ok ({ executed := true, movementCostDeducted := 1 },
          { executed := true, movementCostDeducted := 1 }) ∧
      Commuting.both execute ⟨0, 1, 1⟩ ⟨1, 1, 3⟩ twoFronts =
        (Commuting.both execute ⟨1, 1, 3⟩ ⟨0, 1, 1⟩ twoFronts).map fun (t, rb, ra) => (t, ra, rb) :=
  ⟨rfl, distant_commute (p := ⟨1, Unit.create 1 0 warriorTemplate 1⟩)
    (q := ⟨2, Unit.create 1 4 warriorTemplate 2⟩) rfl rfl (by decide)⟩

/-- **Moves that are pairwise apart can arrive in any order.** -/
theorem executeAll_distant {s : GameState} {as bs : List MoveAction}
    (hfar : as.Pairwise (Apart s)) (hperm : as.Perm bs) :
    Commuting.SameOutcome (Commuting.executeAll execute as s)
      (Commuting.executeAll execute bs s) :=
  Commuting.executeAll_perm independence_apart hperm s hfar

end MoveAction

end My4X
