import Mathlib.Data.BitVec
import Mathlib.Data.List.GetD
import Mathlib.Logic.Function.Basic

/-
  Memory behind an address that wraps around: cells are
  stored and loaded one after another, and the address after
  the last one is the first.

  Main declarations:
    * `RingMemory.store`
    * `RingMemory.load`
    * `RingMemory.store_apply`
    * `RingMemory.load_store`
    * `RingMemory.load_store_over`
-/

------------------------------------------------------------
-- Storing and Loading
------------------------------------------------------------

namespace RingMemory

variable {width : Nat} {Cell : Type}

/- Cells stored from an address on. -/
def store :
    (BitVec width → Cell) → BitVec width → List Cell →
      BitVec width → Cell
| memory, _, [] => memory
| memory, start, cell :: cells =>
    store (Function.update memory start cell) (start + 1)
      cells

/- A number of cells loaded from an address on. -/
def load
    (memory : BitVec width → Cell) :
    BitVec width → Nat → List Cell
| _, 0 => []
| start, count + 1 =>
    memory start :: load memory (start + 1) count

variable (memory : BitVec width → Cell)
variable (start : BitVec width)

theorem add_ofNat_succ
    (count : Nat) :
    start + BitVec.ofNat width (count + 1) =
      start + 1 + BitVec.ofNat width count := by
  rw [BitVec.ofNat_add, BitVec.add_assoc,
    BitVec.add_comm 1]
  rfl

theorem store_append
    (first second : List Cell) :
    store memory start (first ++ second) =
      store (store memory start first)
        (start + BitVec.ofNat width first.length)
        second := by
  induction first generalizing memory start with
  | nil => simp [store]
  | cons cell first ih =>
      rw [List.cons_append, store, ih, store,
        List.length_cons, add_ofNat_succ]

@[simp] theorem length_load
    (count : Nat) :
    (load memory start count).length = count := by
  induction count generalizing start with
  | zero => rfl
  | succ count ih => simp [load, ih]

theorem getElem?_load
    {count place : Nat}
    (hPlace : place < count) :
    (load memory start count)[place]? =
      some (memory (start + BitVec.ofNat width place)) := by
  induction count generalizing start place with
  | zero => omega
  | succ count ih =>
      cases place with
      | zero => simp [load]
      | succ place =>
          rw [load, List.getElem?_cons_succ,
            ih (start + 1) (by omega), add_ofNat_succ]

------------------------------------------------------------
-- Loading What Was Stored
------------------------------------------------------------

/- The distance to an address, and to the one after it. -/
theorem toNat_sub_advance
    (address start : BitVec width) :
    (address - start).toNat =
      ((address - (start + 1)).toNat + 1) % 2 ^ width := by
  have hDistance :
      address - start = address - (start + 1) + 1 := by
    rw [sub_add_eq_sub_sub, sub_add_cancel]
  have hOne : (1 : BitVec width).toNat = 1 % 2 ^ width :=
    BitVec.toNat_ofNat 1 width
  rw [hDistance, BitVec.toNat_add, hOne, Nat.add_mod_mod]

/- Up to a whole round, each cell is where it was put. -/
theorem store_apply
    {cells : List Cell}
    (hFits : cells.length ≤ 2 ^ width)
    (address : BitVec width) :
    store memory start cells address =
      cells.getD (address - start).toNat
        (memory address) := by
  induction cells generalizing memory start with
  | nil => rfl
  | cons cell cells ih =>
      rw [List.length_cons] at hFits
      rw [store, ih _ _ (by omega)]
      by_cases hHere : address = start
      · subst hHere
        have hDistance := toNat_sub_advance address address
        have hBound :=
          (address - (address + 1)).isLt
        rw [BitVec.sub_self] at hDistance ⊢
        have hFar :
            (address - (address + 1)).toNat + 1 =
              2 ^ width := by
          by_contra hNear
          rw [Nat.mod_eq_of_lt (by omega)] at hDistance
          simp at hDistance
        rw [Function.update_self,
          List.getD_eq_default _ _ (by omega)]
        rfl
      · have hDistance := toNat_sub_advance address start
        have hBound := (address - (start + 1)).isLt
        have hNear :
            (address - (start + 1)).toNat + 1 ≠
              2 ^ width := by
          intro hFar
          rw [hFar, Nat.mod_self] at hDistance
          exact hHere (sub_eq_zero.mp
            (BitVec.eq_of_toNat_eq (by simpa using hDistance)))
        rw [Nat.mod_eq_of_lt (by omega)] at hDistance
        rw [Function.update_of_ne hHere, hDistance,
          List.getD_cons_succ]

theorem load_store
    {cells : List Cell}
    (hFits : cells.length ≤ 2 ^ width) :
    load (store memory start cells) start cells.length =
      cells := by
  apply List.ext_getElem?
  intro place
  by_cases hPlace : place < cells.length
  · have hOffset :
        (start + BitVec.ofNat width place - start).toNat =
          place := by
      rw [add_sub_cancel_left, BitVec.toNat_ofNat,
        Nat.mod_eq_of_lt (by omega)]
    rw [getElem?_load _ _ hPlace, store_apply _ _ hFits,
      hOffset, List.getD_eq_getElem _ _ hPlace,
      List.getElem?_eq_getElem hPlace]
  · rw [List.getElem?_eq_none (by simp; omega),
      List.getElem?_eq_none (by omega)]

/- What is loaded where cells have been stored over it. -/
theorem load_store_over
    (other : BitVec width)
    {cells : List Cell}
    (hFits : cells.length ≤ 2 ^ width)
    (count : Nat) :
    load (store memory other cells) start count =
      (load memory start count).mapIdx fun place cell =>
        cells.getD
          (start + BitVec.ofNat width place - other).toNat
          cell := by
  apply List.ext_getElem?
  intro place
  rw [List.getElem?_mapIdx]
  by_cases hPlace : place < count
  · rw [getElem?_load _ _ hPlace, getElem?_load _ _ hPlace,
      store_apply _ _ hFits]
    rfl
  · rw [List.getElem?_eq_none (by simp; omega),
      List.getElem?_eq_none (by simp; omega)]
    rfl

end RingMemory
