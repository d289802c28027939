import Mathlib.Data.BitVec

/-
  Machine words as images of unbounded integers.

  Main declarations:
    * `Words.toInt_ofNat_of_lt`
    * `Words.ofInt_sub`
    * `Words.ofNat_eq_iff`
-/

------------------------------------------------------------
-- Words and Integers
------------------------------------------------------------

namespace Words

/- A small number survives as a signed 32-bit word. -/
theorem toInt_ofNat_of_lt
    {value : Nat}
    (hRange : value < 2 ^ 31) :
    (BitVec.ofNat 32 value).toInt = value := by
  have hNat : (BitVec.ofNat 32 value).toNat = value := by
    rw [BitVec.toNat_ofNat]
    exact Nat.mod_eq_of_lt (by omega)
  rw [BitVec.toInt_eq_toNat_of_lt (by omega), hNat]

/- Subtraction wraps like the word it ends in. -/
theorem ofInt_sub
    {width : Nat}
    (left right : Int) :
    BitVec.ofInt width (left - right) =
      BitVec.ofInt width left - BitVec.ofInt width right := by
  rw [Int.sub_eq_add_neg, BitVec.ofInt_add,
    BitVec.ofInt_neg, BitVec.sub_eq_add_neg]

/- Numbers with one word differ by a multiple of its range. -/
theorem ofNat_eq_iff
    {width left right : Nat} :
    BitVec.ofNat width left = BitVec.ofNat width right ↔
      left ≡ right [MOD 2 ^ width] := by
  rw [← BitVec.toNat_inj, BitVec.toNat_ofNat,
    BitVec.toNat_ofNat]
  rfl

end Words
