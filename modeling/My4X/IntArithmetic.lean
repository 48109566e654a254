/-
**Arithmetic of the `int`s.**

The code counts with `int`s of 32 bits.  Where a sum or a product leaves their range the value that
comes out is another one: in two's complement it differs by a multiple of `2 ^ 32`.  The functions
of the other modules compute with integers; the functions of the namespace `Machine` compute the
same with `int`s, and as long as every value on the way fits they return the same.

Main definitions:

* `My4X.int` — the `int` that an expression has as its value;
* `My4X.IsInt` — the integers that fit;
* `My4X.Machine.hexDistance` — the distance of two tiles, with `int`s.

Main results:

* `My4X.int_eq_self` — an integer that fits is its own value;
* `My4X.Machine.hexDistance_eq` — **the distance fits on a map of `2 ^ 30` rows and columns
  together**.
-/

import My4X.Hex
import Mathlib.Algebra.Order.Group.Unbundled.Int

set_option relaxedAutoImplicit false
set_option autoImplicit false

namespace My4X

/-! ### Integers that fit -/

/-- The `int` that an expression has as its value when `z` is what it stands for. -/
def int (z : ℤ) : ℤ := (Int32.ofInt z).toInt

/-- The integer is an `int`. -/
def IsInt (z : ℤ) : Prop := -2147483648 ≤ z ∧ z ≤ 2147483647

instance (z : ℤ) : Decidable (IsInt z) := inferInstanceAs (Decidable (_ ∧ _))

/-- **An integer that fits is its own value.** -/
theorem int_eq_self {z : ℤ} (h : IsInt z) : int z = z :=
  Int32.toInt_ofInt_of_le h.1 (Int.lt_add_one_iff.2 h.2)

/-! ### Distances -/

namespace Machine

/-- The distance of two tiles, with `int`s. -/
def hexDistance (row1 col1 row2 col2 : ℤ) : ℤ :=
  let x1 := int (col1 - (row1 - row1 % 2) / 2)
  let z1 := row1
  let y1 := int (int (-x1) - z1)
  let x2 := int (col2 - (row2 - row2 % 2) / 2)
  let z2 := row2
  let y2 := int (int (-x2) - z2)
  let dx := int (int (x1 - x2)).natAbs
  let dy := int (int (y1 - y2)).natAbs
  let dz := int (int (z1 - z2)).natAbs
  (int (int (dx + dy) + dz)).tdiv 2

/-- The distance of an attacker and its target, with `int`s: the same formula. -/
def AttackAction.hexDistance (row1 col1 row2 col2 : ℤ) : ℤ :=
  Machine.hexDistance row1 col1 row2 col2

/-- The distance of a tile and the one it is seen from, with `int`s: the same formula. -/
def FogOfWar.hexDistance (row1 col1 row2 col2 : ℤ) : ℤ :=
  Machine.hexDistance row1 col1 row2 col2

/-- **The distance fits when the rows and the columns of two tiles are less than `2 ^ 30` apart
together**, and neither tile is further than that from the origin. -/
theorem hexDistance_eq_of_near {row1 col1 row2 col2 : ℤ}
    (h1 : (row1.natAbs + col1.natAbs : ℤ) ≤ 1073741824)
    (h2 : (row2.natAbs + col2.natAbs : ℤ) ≤ 1073741824)
    (hnear : ((row1 - row2).natAbs + (col1 - col2).natAbs : ℤ) < 1073741824) :
    hexDistance row1 col1 row2 col2 = My4X.hexDistance row1 col1 row2 col2 := by
  have hx : ∀ {row col : ℤ}, (row.natAbs + col.natAbs : ℤ) ≤ 1073741824 →
      int (col - (row - row % 2) / 2) = col - (row - row % 2) / 2 :=
    fun _ => int_eq_self ⟨by omega, by omega⟩
  have hy : ∀ {row col : ℤ}, (row.natAbs + col.natAbs : ℤ) ≤ 1073741824 →
      int (int (-(col - (row - row % 2) / 2)) - row) = -(col - (row - row % 2) / 2) - row := by
    intro row col _
    rw [int_eq_self (z := -(col - (row - row % 2) / 2)) ⟨by omega, by omega⟩]
    exact int_eq_self ⟨by omega, by omega⟩
  rw [hexDistance, My4X.hexDistance]
  rw [hx h1, hx h2, hy h1, hy h2]
  clear h1 h2 hx hy
  generalize hx1 : col1 - (row1 - row1 % 2) / 2 = x1
  generalize hx2 : col2 - (row2 - row2 % 2) / 2 = x2
  have hdx : int (x1 - x2) = x1 - x2 := int_eq_self ⟨by omega, by omega⟩
  have hdy : int (-x1 - row1 - (-x2 - row2)) = -x1 - row1 - (-x2 - row2) :=
    int_eq_self ⟨by omega, by omega⟩
  have hdz : int (row1 - row2) = row1 - row2 := int_eq_self ⟨by omega, by omega⟩
  rw [hdx, hdy, hdz]
  -- the three differences add up to twice what the rows and the columns are apart, and one more
  have hsum : ((x1 - x2).natAbs + (-x1 - row1 - (-x2 - row2)).natAbs + (row1 - row2).natAbs : ℤ) <
      2147483648 := by omega
  rw [int_eq_self (z := (x1 - x2).natAbs) ⟨by omega, by omega⟩,
    int_eq_self (z := (-x1 - row1 - (-x2 - row2)).natAbs) ⟨by omega, by omega⟩,
    int_eq_self (z := (row1 - row2).natAbs) ⟨by omega, by omega⟩,
    int_eq_self (z := (x1 - x2).natAbs + (-x1 - row1 - (-x2 - row2)).natAbs)
      ⟨by omega, by omega⟩, int_eq_self ⟨by omega, by omega⟩]
  exact Int.tdiv_eq_ediv_of_nonneg (by omega)

/-- **On a map of at most `2 ^ 30` rows and columns together the distance fits.** -/
theorem hexDistance_eq {mapHeight mapWidth row1 col1 row2 col2 : ℤ}
    (hsize : mapHeight + mapWidth ≤ 1073741824) (h : InBounds row1 col1 mapHeight mapWidth)
    (h' : InBounds row2 col2 mapHeight mapWidth) :
    hexDistance row1 col1 row2 col2 = My4X.hexDistance row1 col1 row2 col2 := by
  obtain ⟨h1, h2, h3, h4⟩ := h
  obtain ⟨h1', h2', h3', h4'⟩ := h'
  exact hexDistance_eq_of_near (by omega) (by omega) (by omega)

end Machine

end My4X
