import Mathlib.Data.Nat.ModEq
import Mathlib.Tactic.Ring

/-
  Little-endian byte images of natural numbers and of
  fixed-width words.

  Main declarations:
    * `LittleEndian.encode`
    * `LittleEndian.decode`
    * `LittleEndian.decode_encode`
    * `LittleEndian.word_decode_encode`
-/

------------------------------------------------------------
-- Byte Images
------------------------------------------------------------

namespace LittleEndian

/- The `width` low bytes of a number, lowest first. -/
def encode : Nat → Nat → List (BitVec 8)
| 0, _ => []
| width + 1, value =>
    BitVec.ofNat 8 value :: encode width (value / 256)

/- The number whose bytes, lowest first, are given. -/
def decode : List (BitVec 8) → Nat
| [] => 0
| byte :: bytes => byte.toNat + 256 * decode bytes

@[simp] theorem length_encode
    (width value : Nat) :
    (encode width value).length = width := by
  induction width generalizing value with
  | zero => rfl
  | succ width ih => simp [encode, ih]

/- Decoding recovers the number modulo the encoded width. -/
theorem decode_encode
    (width value : Nat) :
    decode (encode width value) =
      value % 256 ^ width := by
  induction width generalizing value with
  | zero => simp [encode, decode, Nat.mod_one]
  | succ width ih =>
      have hPower : 256 ^ (width + 1) = 256 * 256 ^ width :=
        Nat.pow_succ'
      have hByte : 2 ^ 8 = 256 := by norm_num
      rw [encode, decode, ih, BitVec.toNat_ofNat, hByte,
        hPower, Nat.mod_mul]

/- Fewer bytes of an image are a narrower image. -/
theorem take_encode
    {narrow width : Nat}
    (hNarrow : narrow ≤ width)
    (value : Nat) :
    (encode width value).take narrow =
      encode narrow value := by
  induction narrow generalizing width value with
  | zero => simp [encode]
  | succ narrow ih =>
      cases width with
      | zero => omega
      | succ width =>
          rw [encode, encode, List.take_succ_cons,
            ih (by omega)]

/- A word survives an image that is wide enough for it. -/
theorem word_decode_encode
    {bits width : Nat}
    (hFits : bits ≤ 8 * width)
    (word : BitVec bits) :
    BitVec.ofNat bits
        (decode (encode width word.toNat)) = word := by
  have hBound : word.toNat < 256 ^ width := by
    calc
      word.toNat < 2 ^ bits := word.isLt
      _ ≤ 2 ^ (8 * width) :=
        Nat.pow_le_pow_right (by norm_num) hFits
      _ = 256 ^ width := by
        rw [Nat.pow_mul]
  rw [decode_encode, Nat.mod_eq_of_lt hBound]
  simp

/- Trailing zero bytes do not change the number read. -/
theorem decode_append_zeros
    (bytes : List (BitVec 8))
    (count : Nat) :
    decode (bytes ++ List.replicate count 0#8) =
      decode bytes := by
  have hZeros : decode (List.replicate count 0#8) = 0 := by
    induction count with
    | zero => rfl
    | succ count ih =>
        simp [List.replicate_succ, decode, ih]
  induction bytes with
  | nil => simpa [decode] using hZeros
  | cons byte bytes ih => simp [decode, ih]

end LittleEndian
