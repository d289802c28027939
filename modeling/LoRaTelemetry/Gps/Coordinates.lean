import LoRaTelemetry.Gps.Numbers
import Mathlib.Algebra.Order.Field.Rat
import Mathlib.Algebra.Order.Field.Basic
import Mathlib.Algebra.Order.Ring.Abs
import Mathlib.Tactic.FieldSimp
import Mathlib.Tactic.NormNum

/-
  A coordinate in degrees and minutes, against what `lat` and
  `lng` make of its text.

  Main declarations:
    * `Gps.degreesOf`
    * `Gps.parseDegrees_accurate`
-/

------------------------------------------------------------
-- Accuracy
------------------------------------------------------------

namespace LoRaTelemetry

namespace Gps

/- The degrees that DDMM and a fraction of a minute spell. -/
def degreesOf (whole fraction : List Byte) : ℚ :=
  (number whole / 100 : Nat) +
    ((number whole % 100 : Nat) +
      (number fraction : ℚ) / 10 ^ fraction.length) / 60

/- Minutes against their ten millionths. -/
theorem minutesOf_bounds
    (whole : List Byte)
    {fraction : List Byte}
    (hFraction : AllDigits fraction) :
    let exact : ℚ :=
      (number whole % 100 : Nat) +
        (number fraction : ℚ) / 10 ^ fraction.length
    (minutesOf whole fraction : ℚ) ≤ exact * 10 ^ 7 ∧
      exact * 10 ^ 7 < minutesOf whole fraction + 1 ∧
      (fraction.length ≤ 7 →
        exact * 10 ^ 7 = minutesOf whole fraction) := by
  intro exact
  rcases scaled_bounds 7 hFraction with ⟨hLower, hUpper⟩
  have hPower : (0 : ℚ) < 10 ^ fraction.length := by
    positivity
  have hCastLower :
      (scaled 7 fraction : ℚ) * 10 ^ fraction.length ≤
        number fraction * 10 ^ 7 := by
    exact_mod_cast hLower
  have hCastUpper :
      (number fraction : ℚ) * 10 ^ 7 <
        (scaled 7 fraction + 1) * 10 ^ fraction.length := by
    exact_mod_cast hUpper
  have hExact :
      exact * 10 ^ 7 =
        (number whole % 100 : Nat) * 10 ^ 7 +
          number fraction * 10 ^ 7 /
            10 ^ fraction.length := by
    simp only [exact]
    ring
  have hMinutes :
      (minutesOf whole fraction : ℚ) =
        (number whole % 100 : Nat) * 10 ^ 7 +
          scaled 7 fraction := by
    simp only [minutesOf]
    push_cast
    ring
  rw [hExact, hMinutes]
  refine ⟨?_, ?_, ?_⟩
  · have hPart := (le_div_iff₀ hPower).mpr hCastLower
    linarith
  · have hPart := (div_lt_iff₀ hPower).mpr hCastUpper
    linarith
  · intro hLength
    have hScaled := scaled_eq hLength
    have hCast :
        (scaled 7 fraction : ℚ) * 10 ^ fraction.length =
          number fraction * 10 ^ 7 := by
      exact_mod_cast hScaled
    rw [← hCast, mul_div_assoc, div_self hPower.ne',
      mul_one]

/- A coordinate between the equator or the meridian and it. -/
def RawDegrees.magnitude (raw : RawDegrees) : ℚ :=
  raw.deg.toNat + raw.billionths.toNat / 1000000000

theorem value_eq
    (raw : RawDegrees) :
    (raw.value : ℚ) =
      if raw.negative then -raw.magnitude else raw.magnitude := by
  rfl

variable {whole fraction : List Byte}

/- The billionths, rounded from the ten millionths. -/
theorem magnitude_eq
    (hWhole : AllDigits whole)
    (hFraction : AllDigits fraction)
    (hText : whole ≠ [])
    (hDegrees : number whole < 6553600)
    (hMinutes : number whole % 100 < 60) :
    (parseDegrees (pointed whole fraction)).magnitude =
      (number whole / 100 : Nat) +
        ((5 * minutesOf whole fraction + 1) / 3 : Nat) /
          1000000000 := by
  have hDeg :
      (BitVec.ofNat 16 (number whole / 100)).toNat =
        number whole / 100 := by
    rw [BitVec.toNat_ofNat]
    omega
  rw [parseDegrees_pointed hWhole hFraction hText (by omega)]
  simp only [RawDegrees.magnitude, hDeg,
    billionths_toNat hFraction hMinutes]

/- The error, after seven places of a minute at most. -/
theorem magnitude_error
    (hWhole : AllDigits whole)
    (hFraction : AllDigits fraction)
    (hText : whole ≠ [])
    (hDegrees : number whole < 6553600)
    (hMinutes : number whole % 100 < 60) :
    let magnitude :=
      (parseDegrees (pointed whole fraction)).magnitude
    let exact := degreesOf whole fraction
    |magnitude - exact| * 10 ^ 9 < 2 ∧
      (fraction.length ≤ 7 →
        |magnitude - exact| * 10 ^ 9 ≤ 1 / 3) := by
  intro magnitude exact
  let rounded := (5 * minutesOf whole fraction + 1) / 3
  have hMagnitude :
      magnitude =
        (number whole / 100 : Nat) + rounded / 1000000000 :=
    magnitude_eq hWhole hFraction hText hDegrees hMinutes
  have hLow :
      5 * minutesOf whole fraction ≤ 3 * rounded + 1 := by
    omega
  have hHigh :
      3 * rounded ≤ 5 * minutesOf whole fraction + 1 := by
    omega
  have hCastLow :
      5 * (minutesOf whole fraction : ℚ) ≤ 3 * rounded + 1 := by
    exact_mod_cast hLow
  have hCastHigh :
      3 * (rounded : ℚ) ≤ 5 * minutesOf whole fraction + 1 := by
    exact_mod_cast hHigh
  rcases minutesOf_bounds whole hFraction with
    ⟨hLower, hUpper, hShort⟩
  have hError :
      |magnitude - exact| * 10 ^ 9 =
        |(rounded : ℚ) -
          5 / 3 *
            (((number whole % 100 : Nat) +
                (number fraction : ℚ) /
                  10 ^ fraction.length) *
              10 ^ 7)| := by
    rw [← abs_of_pos (show (0 : ℚ) < 10 ^ 9 by norm_num),
      ← abs_mul, hMagnitude]
    simp only [exact, degreesOf]
    congr 1
    ring
  rw [hError]
  refine ⟨?_, fun hLength => ?_⟩
  · rw [abs_lt]
    constructor <;> linarith
  · rw [abs_le, hShort hLength]
    constructor <;> linarith

/-
  The degrees that a coordinate shows, however many decimals
  its minutes have: within two billionths of the text, and
  up to seven decimals the nearest billionth.
-/
theorem parseDegrees_accurate
    (whole fraction : List Byte)
    (hWhole : AllDigits whole)
    (hFraction : AllDigits fraction)
    (hText : whole ≠ [])
    (hDegrees : number whole < 6553600)
    (hMinutes : number whole % 100 < 60) :
    let value : ℚ :=
      (parseDegrees (pointed whole fraction)).value
    let exact := degreesOf whole fraction
    |value - exact| * 10 ^ 9 < 2 ∧
      (fraction.length ≤ 7 →
        ∀ billionths : ℤ,
          |value - exact| ≤
            |(number whole / 100 : Nat) +
              (billionths : ℚ) / 10 ^ 9 - exact|) := by
  intro value exact
  have hValue :
      value =
        (parseDegrees (pointed whole fraction)).magnitude :=
    value_eq _
  rcases magnitude_error hWhole hFraction hText hDegrees
      hMinutes with
    ⟨hNear, hNearest⟩
  have hRounded :=
    magnitude_eq hWhole hFraction hText hDegrees hMinutes
  rw [← hValue] at hNear hNearest hRounded
  refine ⟨hNear, fun hLength billionths => ?_⟩
  have hError := hNearest hLength
  generalize (5 * minutesOf whole fraction + 1) / 3 = rounded
    at hRounded
  have hOther :
      (number whole / 100 : Nat) +
            (billionths : ℚ) / 10 ^ 9 - exact =
        (billionths - rounded : ℤ) / 10 ^ 9 +
          (value - exact) := by
    rw [hRounded]
    push_cast
    ring
  rw [hOther]
  by_cases hSame : billionths = rounded
  · rw [hSame, sub_self, Int.cast_zero, zero_div, zero_add]
  · have hInteger : 1 ≤ |billionths - rounded| :=
      Int.one_le_abs (sub_ne_zero.mpr hSame)
    have hApart :
        1 / 10 ^ 9 ≤
          |((billionths - rounded : ℤ) : ℚ) / 10 ^ 9| := by
      rw [abs_div, abs_of_pos (by norm_num : (0 : ℚ) < 10 ^ 9)]
      gcongr
      exact_mod_cast hInteger
    have hTriangle :=
      abs_sub_abs_le_abs_sub
        (((billionths - rounded : ℤ) : ℚ) / 10 ^ 9)
        (-(value - exact))
    rw [abs_neg, sub_neg_eq_add] at hTriangle
    linarith

theorem sampleLatitude_accurate :
    let value : ℚ :=
      (parseDegrees
        (pointed (literal "3014") (literal "1984"))).value
    |value -
        degreesOf (literal "3014") (literal "1984")| *
      10 ^ 9 < 2 := by
  exact
    (parseDegrees_accurate (literal "3014")
      (literal "1984") (by decide) (by decide) (by decide)
      (by decide) (by decide)).1

end Gps

end LoRaTelemetry
