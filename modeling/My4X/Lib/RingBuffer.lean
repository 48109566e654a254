/-
**Ring buffers.**

A ring buffer keeps the latest items that were written to it in a list of cells of fixed length.
The next item goes to the cell at the head, which moves on by one and from the last cell to the
first; the item before it, and the one before that, are found by going back from the head around the
ring. What the cells hold that are not reached this way does not matter.

Main definitions:

* `RingBuffer.Holds` — the items that a ring buffer holds, the oldest first.

Main results:

* `RingBuffer.Holds.push` — **writing an item appends it and forgets the oldest one of a full
  ring**;
* `RingBuffer.Holds.latest` — going back from the head reads the latest items.
-/

import Mathlib.Data.List.DropRight
import Mathlib.Data.Nat.Basic

set_option relaxedAutoImplicit false
set_option autoImplicit false

universe u

namespace RingBuffer

variable {α : Type u} {cells : List α} {head : ℕ} {items : List α}

/-! ### Going around the ring -/

/-- A position less than two rounds away. -/
theorem mod_eq_ite {i n : ℕ} (h : i < 2 * n) : i % n = if i < n then i else i - n := by
  split
  · next hlt => exact Nat.mod_eq_of_lt hlt
  · next hge =>
      rw [Nat.mod_eq_sub_mod (by omega), Nat.mod_eq_of_lt (by omega)]

/-- The cells hold some items, the oldest first: the one at `i` is as far behind the head as there
are items from it on. -/
structure Holds (cells : List α) (head : ℕ) (items : List α) : Prop where
  head_lt : head < cells.length
  length_le : items.length ≤ cells.length
  cell : ∀ i, i < items.length →
    cells[(head + cells.length - items.length + i) % cells.length]? = items[i]?

/-- An empty ring, whatever is in its cells. -/
theorem Holds.nil (h : 0 < cells.length) : Holds cells 0 [] where
  head_lt := h
  length_le := Nat.zero_le _
  cell i hi := absurd hi (Nat.not_lt_zero i)

/-- What a ring holds is determined by how much it is. -/
theorem Holds.eq {items' : List α} (h : Holds cells head items) (h' : Holds cells head items')
    (hlength : items'.length = items.length) : items' = items := by
  refine List.ext_getElem? fun i => ?_
  by_cases hi : i < items.length
  · rw [← h.cell i hi, ← h'.cell i (by omega), hlength]
  · rw [List.getElem?_eq_none (by omega), List.getElem?_eq_none (by omega)]

/-- The cell that is written is the one behind the moved head, and the others are one further from
it. -/
theorem set_cell (hhead : head < cells.length) (a : α) {back : ℕ} (hback : back < cells.length) :
    (cells.set head a)[((head + 1) % cells.length + cells.length - (back + 1)) % cells.length]? =
      if back = 0 then some a else cells[(head + cells.length - back) % cells.length]? := by
  rw [mod_eq_ite (i := head + 1) (by omega), mod_eq_ite (i := head + cells.length - back)
    (by omega)]
  have hplace : ((if head + 1 < cells.length then head + 1 else head + 1 - cells.length) +
      cells.length - (back + 1)) % cells.length =
        if back ≤ head then head - back else head + cells.length - back := by
    rw [mod_eq_ite (by split <;> omega)]
    split <;> split <;> split <;> omega
  rw [hplace]
  by_cases hzero : back = 0
  · rw [if_pos hzero, if_pos (by omega), show head - back = head by omega,
      List.getElem?_set_self hhead]
  · rw [if_neg hzero]
    by_cases hle : back ≤ head
    · rw [if_pos hle, if_neg (by omega), List.getElem?_set_ne (by omega)]
      congr 1
      omega
    · rw [if_neg hle, if_pos (by omega), List.getElem?_set_ne (by omega)]

/-- **Writing an item** appends it, and forgets the oldest one when the ring is full. -/
theorem Holds.push (h : Holds cells head items) (a : α) :
    Holds (cells.set head a) ((head + 1) % cells.length)
      ((items ++ [a]).rtake cells.length) := by
  have hhead := h.head_lt
  have hle := h.length_le
  have hlength : ((items ++ [a]).rtake cells.length).length =
      min (items.length + 1) cells.length := by
    rw [List.rtake, List.length_drop, List.length_append, List.length_singleton]
    omega
  refine ⟨?_, ?_, fun i hi => ?_⟩
  · rw [List.length_set]
    exact Nat.mod_lt _ (by omega)
  · rw [hlength, List.length_set]
    omega
  · rw [hlength] at hi ⊢
    rw [List.length_set]
    -- the items that are forgotten, and the distance of the item from the head
    obtain ⟨gone, hgone⟩ : ∃ gone, gone + min (items.length + 1) cells.length = items.length + 1 :=
      ⟨items.length + 1 - min (items.length + 1) cells.length, by omega⟩
    obtain ⟨back, hback⟩ : ∃ back, back + 1 + i = min (items.length + 1) cells.length :=
      ⟨min (items.length + 1) cells.length - (i + 1), by omega⟩
    have hplace : (head + 1) % cells.length + cells.length -
        min (items.length + 1) cells.length + i =
          (head + 1) % cells.length + cells.length - (back + 1) := by omega
    rw [hplace, set_cell hhead a (by omega), List.rtake, List.length_append, List.length_singleton,
      List.getElem?_drop]
    by_cases hzero : back = 0
    · rw [if_pos hzero, List.getElem?_append_right (by omega),
        show items.length + 1 - cells.length + i - items.length = 0 by omega]
      rfl
    · rw [if_neg hzero, List.getElem?_append_left (by omega), ← h.cell _ (by omega)]
      congr 2
      omega

/-- **The latest items**, read from so many cells behind the head on. -/
theorem Holds.latest (h : Holds cells head items) (d : α) {n : ℕ} (hn : n ≤ items.length) :
    (List.range n).map (fun i => cells.getD ((head + cells.length - n + i) % cells.length) d) =
      items.rtake n := by
  have hle := h.length_le
  refine List.ext_getElem? fun i => ?_
  rw [List.getElem?_map, List.rtake, List.getElem?_drop]
  by_cases hi : i < n
  · rw [List.getElem?_range hi, Option.map_some, List.getD_eq_getElem?_getD]
    have hcell := h.cell (items.length - n + i) (by omega)
    rw [show head + cells.length - items.length + (items.length - n + i) =
      head + cells.length - n + i by omega] at hcell
    rw [hcell, List.getElem?_eq_getElem (by omega), Option.getD_some]
  · rw [List.getElem?_eq_none (by rw [List.length_range]; omega),
      List.getElem?_eq_none (by omega)]
    rfl

end RingBuffer
