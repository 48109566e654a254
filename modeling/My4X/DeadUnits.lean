/-
**The removal of dead units.**

The loop goes through the units from the last one to the first, removes each dead one from the list
and from the registry, and adjusts the selected index whenever a unit at or before it is removed.
What the loop has still to do is the same whatever it has done, as long as the units behind it live:
so one removal, and then the rest of the loop, relate the first state to the last.

Main definitions:

* `My4X.GameState.Selects` — the unit that a selected index denotes;
* `My4X.GameState.Swept` — the dead units have been removed, and the selection follows its unit.

Main results:

* `My4X.GameState.Swept.of_drop` — a dead unit is removed, and then all others;
* `My4X.removeDeadUnits_swept` — **the removal of dead units leaves the living ones in their order,
  and the selection on its unit**.
-/

import My4X.GameState

set_option relaxedAutoImplicit false
set_option autoImplicit false

namespace My4X

namespace GameState

/-- The selected index denotes a unit. -/
def Selects (sweep : DeadUnitSweep) (p : OwnedUnit) : Prop :=
  ∃ i : ℕ, sweep.selectedIndex = some (i : ℤ) ∧ sweep.state.units.get? i = some p

/-- A dead unit of the list is registered on a tile under an address. -/
def DiedAt (s : GameState) (row col : ℤ) (ref : UnitRef) : Prop :=
  ∃ p ∈ s.units.list, p.unit.isAlive = false ∧ p.ref = ref ∧ p.unit.row = row ∧ p.unit.col = col

instance (s : GameState) (row col : ℤ) (ref : UnitRef) : Decidable (s.DiedAt row col ref) :=
  inferInstanceAs (Decidable (∃ p ∈ s.units.list, _))

/-- **The dead units have been removed**: the living ones are left in their order, the dead ones are
counted and no longer registered, and nothing else changes; a selected unit stays selected if it
lives, and otherwise nothing is selected. -/
structure Swept (sweep sweep' : DeadUnitSweep) : Prop where
  units : sweep'.state.units.list = sweep.state.units.list.filter (·.unit.isAlive)
  removed : sweep'.removed = sweep.removed +
    (sweep.state.units.list.filter fun p => ¬ p.unit.isAlive).length
  registered : ∀ row col, sweep'.state.registry.unitsAt row col =
    (sweep.state.registry.unitsAt row col).filter fun ref => ¬ sweep.state.DiedAt row col ref
  rest : sweep'.state = { sweep.state with
    units := sweep'.state.units
    registry := { sweep.state.registry with units := sweep'.state.registry.units } }
  living : ∀ p, p.unit.isAlive = true → Selects sweep p → Selects sweep' p
  dead : ∀ p, p.unit.isAlive = false → Selects sweep p → sweep'.selectedIndex = some (-1)
  unselected : sweep.selectedIndex = some (-1) → sweep'.selectedIndex = some (-1)
  absent : sweep.selectedIndex = none → sweep'.selectedIndex = none

/-- Where all units live, there is nothing to do. -/
theorem Swept.of_alive {sweep : DeadUnitSweep}
    (h : ∀ p ∈ sweep.state.units.list, p.unit.isAlive = true) : Swept sweep sweep where
  units := (List.filter_eq_self.2 h).symm
  removed := by
    rw [List.filter_eq_nil_iff.2 fun p hp => by simp [h p hp]]
    rfl
  registered row col := by
    refine (List.filter_eq_self.2 fun ref _ => ?_).symm
    refine decide_eq_true fun ⟨p, hp, hdead, _⟩ => ?_
    rw [h p hp] at hdead
    cases hdead
  rest := rfl
  living _ _ hsel := hsel
  dead p hdead := by
    rintro ⟨i, -, hp⟩
    rw [h p (UnitVec.mem_list_of_get? hp)] at hdead
    cases hdead
  unselected hsel := hsel
  absent hsel := hsel

/-- The list around an index. -/
theorem units_around {s : GameState} {n : ℕ} {p : OwnedUnit} (hp : s.units.get? n = some p) :
    s.units.list = s.units.list.take n ++ p :: s.units.list.drop (n + 1) ∧
      (s.dropUnit n p).units.list = s.units.list.take n ++ s.units.list.drop (n + 1) := by
  obtain ⟨hlt, rfl⟩ := List.getElem?_eq_some_iff.1 hp
  constructor
  · rw [← List.drop_eq_getElem_cons hlt, List.take_append_drop]
  · exact List.eraseIdx_eq_take_drop_succ s.units.list n

/-- A dead unit died where it stands, and the others where they did before. -/
theorem diedAt_dropUnit_iff {s : GameState} {n : ℕ} {p : OwnedUnit}
    (hp : s.units.get? n = some p) (hdead : p.unit.isAlive = false) (row col : ℤ) (ref : UnitRef) :
    s.DiedAt row col ref ↔ (p.ref = ref ∧ p.unit.row = row ∧ p.unit.col = col) ∨
      (s.dropUnit n p).DiedAt row col ref := by
  obtain ⟨hlist, hdropped⟩ := units_around hp
  have hmem : ∀ q, q ∈ s.units.list ↔ q = p ∨ q ∈ (s.dropUnit n p).units.list := by
    intro q
    rw [hlist, hdropped, List.mem_append, List.mem_cons, List.mem_append]
    exact or_left_comm
  constructor
  · rintro ⟨q, hq, hqdead, hplace⟩
    rcases (hmem q).1 hq with rfl | hq
    · exact Or.inl hplace
    · exact Or.inr ⟨q, hq, hqdead, hplace⟩
  · rintro (hplace | ⟨q, hq, hqdead, hplace⟩)
    · exact ⟨p, (hmem p).2 (Or.inl rfl), hdead, hplace⟩
    · exact ⟨q, (hmem q).2 (Or.inr hq), hqdead, hplace⟩

/-- The registry after a dead unit is removed, without the units that died elsewhere. -/
theorem unitsAt_dropUnit {s : GameState} {n : ℕ} {p : OwnedUnit} (hp : s.units.get? n = some p)
    (hdead : p.unit.isAlive = false) (row col : ℤ) :
    ((s.dropUnit n p).registry.unitsAt row col).filter
        (fun ref => ¬ (s.dropUnit n p).DiedAt row col ref) =
      (s.registry.unitsAt row col).filter fun ref => ¬ s.DiedAt row col ref := by
  have hunits : (s.dropUnit n p).registry.unitsAt row col =
      if (⟨row, col⟩ : TileCoord) = ⟨p.unit.row, p.unit.col⟩ then
        (s.registry.unitsAt p.unit.row p.unit.col).filter (· ≠ p.ref)
      else s.registry.unitsAt row col :=
    OccupancyIndex.refsAt_unregister s.registry.units _ _ p.ref
  rw [hunits]
  have hdied := diedAt_dropUnit_iff hp hdead row col
  split
  · next hplace =>
      obtain ⟨rfl, rfl⟩ := TileCoord.ext_iff'.1 hplace
      rw [List.filter_filter]
      refine List.filter_congr fun ref _ => ?_
      rw [← Bool.decide_and, decide_eq_decide, hdied, not_or, and_comm]
      refine and_congr_left fun _ => ?_
      exact ⟨fun hne h => hne h.1.symm, fun h heq => h ⟨heq.symm, rfl, rfl⟩⟩
  · next hplace =>
      refine List.filter_congr fun ref _ => ?_
      rw [decide_eq_decide, hdied, not_or, and_iff_right]
      rintro ⟨-, rfl, rfl⟩
      exact hplace rfl

/-- **What the removal of a dead unit does to the selection**: another unit stays selected, and if
the unit itself is selected, nothing is selected any more. -/
theorem selects_removeDeadUnitAt {sweep : DeadUnitSweep} {n : ℕ} {p q : OwnedUnit}
    (hp : sweep.state.units.get? n = some p) (hdead : p.unit.isAlive = false)
    (hq : Selects sweep q) :
    (q = p ∧ (removeDeadUnitAt sweep n).selectedIndex = some (-1)) ∨
      Selects (removeDeadUnitAt sweep n) q := by
  obtain ⟨i, hi, hget⟩ := hq
  have hsel : (removeDeadUnitAt sweep n).selectedIndex =
      some (if (i : ℤ) = n then -1 else if (n : ℤ) < i then (i : ℤ) - 1 else i) := by
    rw [removeDeadUnitAt, hp]
    dsimp only
    rw [if_neg (by simp [hdead]), hi]
    rfl
  have herase : ∀ j, (removeDeadUnitAt sweep n).state.units.get? j =
      if j < n then sweep.state.units.get? j else sweep.state.units.get? (j + 1) := by
    intro j
    rw [removeDeadUnitAt, hp]
    dsimp only
    rw [if_neg (by simp [hdead])]
    exact UnitVec.get?_erase _ n j
  rcases Nat.lt_trichotomy i n with hlt | rfl | hgt
  · rw [if_neg (by omega), if_neg (by omega)] at hsel
    exact Or.inr ⟨i, hsel, by rw [herase, if_pos hlt, hget]⟩
  · rw [if_pos rfl] at hsel
    rw [hp] at hget
    exact Or.inl ⟨(Option.some_inj.1 hget).symm, hsel⟩
  · rw [if_neg (by omega), if_pos (by omega)] at hsel
    refine Or.inr ⟨i - 1, ?_, ?_⟩
    · rw [hsel]
      exact congrArg some (by omega)
    · rw [herase, if_neg (by omega), Nat.sub_add_cancel (by omega), hget]

/-- **A dead unit is removed, and then all others.** -/
theorem Swept.of_drop {sweep sweep' : DeadUnitSweep} {n : ℕ} {p : OwnedUnit}
    (hp : sweep.state.units.get? n = some p) (hdead : p.unit.isAlive = false)
    (h : Swept (removeDeadUnitAt sweep n) sweep') : Swept sweep sweep' := by
  have hselects := fun q => selects_removeDeadUnitAt (q := q) hp hdead
  have hstep : removeDeadUnitAt sweep n =
      { state := sweep.state.dropUnit n p
        selectedIndex := sweep.selectedIndex.map fun sel : ℤ =>
          if sel = (n : ℤ) then -1 else if (n : ℤ) < sel then sel - 1 else sel
        removed := sweep.removed + 1 } := by
    rw [removeDeadUnitAt, hp]
    exact if_neg (by simp [hdead])
  rw [hstep] at h hselects
  obtain ⟨hlist, hdropped⟩ := units_around hp
  refine ⟨?_, ?_, fun row col => ?_, h.rest.trans ?_, fun q hq hsel => ?_, fun q hq hsel => ?_,
    fun hsel => ?_, fun hsel => ?_⟩
  · rw [h.units, hdropped, hlist, List.filter_append, List.filter_append,
      List.filter_cons_of_neg (by simp [hdead]), ← hlist]
  · have hremoved := h.removed
    rw [hdropped, List.filter_append, List.length_append] at hremoved
    rw [hlist, List.filter_append, List.filter_cons_of_pos (by simp [hdead]), List.length_append,
      List.length_cons]
    dsimp only at hremoved
    omega
  · rw [h.registered row col, unitsAt_dropUnit hp hdead]
  · rfl
  · rcases hselects q hsel with ⟨rfl, -⟩ | hsel
    · rw [hdead] at hq
      cases hq
    · exact h.living q hq hsel
  · rcases hselects q hsel with ⟨-, hnone⟩ | hsel
    · exact h.unselected hnone
    · exact h.dead q hq hsel
  · refine h.unselected ?_
    rw [hsel, Option.map_some, if_neg (by omega), if_neg (by omega)]
  · refine h.absent ?_
    rw [hsel]
    rfl

/-- The rest of the loop, from an index down, when the units behind it live. -/
theorem foldl_removeDeadUnitAt_swept (n : ℕ) :
    ∀ sweep : DeadUnitSweep, n ≤ sweep.state.units.size →
      (∀ p ∈ sweep.state.units.list.drop n, p.unit.isAlive = true) →
      Swept sweep ((List.range n).reverse.foldl removeDeadUnitAt sweep) := by
  induction n with
  | zero => exact fun sweep _ halive => Swept.of_alive halive
  | succ n ih =>
      intro sweep hn halive
      have hlt : n < sweep.state.units.list.length := hn
      have hp : sweep.state.units.get? n = some sweep.state.units.list[n] :=
        List.getElem?_eq_getElem hlt
      have hdrop := List.drop_eq_getElem_cons hlt
      rw [List.range_succ, List.reverse_append, List.reverse_singleton, List.singleton_append,
        List.foldl_cons]
      cases hdead : sweep.state.units.list[n].unit.isAlive with
      | true =>
          have hkeep : removeDeadUnitAt sweep n = sweep := by
            rw [removeDeadUnitAt, hp]
            exact if_pos hdead
          rw [hkeep]
          refine ih sweep (Nat.le_of_lt hlt) fun p hmem => ?_
          rw [hdrop] at hmem
          rcases List.mem_cons.1 hmem with rfl | hmem
          · exact hdead
          · exact halive p hmem
      | false =>
          have hstep : (removeDeadUnitAt sweep n).state =
              sweep.state.dropUnit n sweep.state.units.list[n] := by
            rw [removeDeadUnitAt, hp]
            dsimp only
            rw [if_neg (by simp [hdead])]
          obtain ⟨-, hdropped⟩ := units_around hp
          have htake := List.length_take_of_le hlt.le
          refine Swept.of_drop hp hdead (ih _ ?_ fun q hq => halive q ?_)
          · rw [hstep, UnitVec.size, hdropped, List.length_append, htake]
            exact Nat.le_add_right _ _
          · rwa [hstep, hdropped, List.drop_left' htake] at hq

end GameState

/-- **The removal of dead units leaves the living ones in their order, and the selection on its
unit.** -/
theorem removeDeadUnits_swept (s : GameState) (selectedIndex : Option ℤ) :
    GameState.Swept ⟨s, selectedIndex, 0⟩ (s.removeDeadUnits selectedIndex) := by
  refine GameState.foldl_removeDeadUnitAt_swept s.units.size _ le_rfl fun p hp => ?_
  have hnil : s.units.list.drop s.units.size = [] := List.drop_eq_nil_of_le le_rfl
  rw [hnil] at hp
  cases hp

end My4X
