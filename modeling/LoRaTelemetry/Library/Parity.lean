import Mathlib.Data.BitVec

/-
  The exclusive or of a list of words, as a check on the list:
  it tells when one word has been altered.

  Main declarations:
    * `Parity.xorSum`
    * `Parity.xorSum_append`
    * `Parity.xorSum_altered`
-/

------------------------------------------------------------
-- Sums
------------------------------------------------------------

namespace Parity

variable {width : Nat}

/- The words of a list, added without carry. -/
def xorSum (words : List (BitVec width)) : BitVec width :=
  words.foldr (fun word sum => word ^^^ sum) 0

@[simp] theorem xorSum_nil :
    xorSum ([] : List (BitVec width)) = 0 := by
  rfl

@[simp] theorem xorSum_cons
    (word : BitVec width)
    (words : List (BitVec width)) :
    xorSum (word :: words) = word ^^^ xorSum words := by
  rfl

@[simp] theorem xorSum_append
    (left right : List (BitVec width)) :
    xorSum (left ++ right) = xorSum left ^^^ xorSum right := by
  induction left with
  | nil => simp
  | cons word left ih =>
      rw [List.cons_append, xorSum_cons, ih, xorSum_cons,
        BitVec.xor_assoc]

theorem xorSum_concat
    (words : List (BitVec width))
    (word : BitVec width) :
    xorSum (words ++ [word]) = xorSum words ^^^ word := by
  simp

/- One word altered, and nothing else: the sums differ. -/
theorem xorSum_altered
    (before after : List (BitVec width))
    {word altered : BitVec width}
    (hAltered : altered ≠ word) :
    xorSum (before ++ altered :: after) ≠
      xorSum (before ++ word :: after) := by
  intro hSame
  rw [xorSum_append, xorSum_append, xorSum_cons,
    xorSum_cons] at hSame
  have hRest := (BitVec.xor_right_inj _).mp hSame
  exact hAltered ((BitVec.xor_left_inj _).mp hRest)

end Parity
