import LoRaTelemetry.Gps.TinyGps
import Mathlib.Data.List.Induction
import Mathlib.Data.List.TakeWhile
import Mathlib.Tactic.Linarith
import Mathlib.Tactic.Ring

/-
  The numbers in the fields: what the parser makes of rows of
  digits, with a point or without.

  Main declarations:
    * `Gps.number`
    * `Gps.scaled`
    * `Gps.digits`
    * `Gps.atol_digits`
    * `Gps.parseDecimal_pointed`
    * `Gps.parseDegrees_pointed`
-/

------------------------------------------------------------
-- Rows of Digits
------------------------------------------------------------

namespace LoRaTelemetry

namespace Gps

/- Every byte is a digit. -/
def AllDigits (text : List Byte) : Prop :=
  ∀ c ∈ text, isDigit c = true

instance : DecidablePred AllDigits :=
  fun text =>
    inferInstanceAs
      (Decidable (∀ c ∈ text, isDigit c = true))

/- The number that a row of digits spells. -/
def number (text : List Byte) : Nat :=
  text.foldl (fun value c => 10 * value + digitValue c) 0

theorem number_concat
    (text : List Byte)
    (c : Byte) :
    number (text ++ [c]) =
      10 * number text + digitValue c := by
  rw [number, List.foldl_append]
  rfl

theorem number_append
    (left right : List Byte) :
    number (left ++ right) =
      number left * 10 ^ right.length + number right := by
  induction right using List.reverseRecOn with
  | nil => simp [number]
  | append_singleton right c ih =>
      rw [← List.append_assoc, number_concat, ih,
        number_concat, List.length_append,
        List.length_singleton, Nat.pow_succ]
      ring

theorem isDigit_iff
    (c : Byte) :
    isDigit c = true ↔ 48 ≤ c.toNat ∧ c.toNat ≤ 57 := by
  unfold isDigit
  rw [Bool.and_eq_true, decide_eq_true_eq,
    decide_eq_true_eq, BitVec.le_def, BitVec.le_def]
  exact Iff.rfl

theorem digitValue_lt
    {c : Byte}
    (hDigit : isDigit c = true) :
    digitValue c < 10 := by
  have hRange := (isDigit_iff c).mp hDigit
  have hZero : (ascii '0').toNat = 48 := by
    decide
  rw [digitValue, hZero]
  omega

theorem number_lt
    {text : List Byte}
    (hDigits : AllDigits text) :
    number text < 10 ^ text.length := by
  induction text using List.reverseRecOn with
  | nil => decide
  | append_singleton text c ih =>
      have hText := ih fun c hByte =>
        hDigits c (List.mem_append_left _ hByte)
      have hLast : digitValue c < 10 :=
        digitValue_lt (hDigits c (by simp))
      rw [number_concat, List.length_append,
        List.length_singleton, Nat.pow_succ]
      omega

theorem takeWhile_digits
    {text rest : List Byte}
    (hDigits : AllDigits text)
    (hRest : rest.takeWhile isDigit = []) :
    (text ++ rest).takeWhile isDigit = text := by
  rw [List.takeWhile_append_of_pos hDigits, hRest,
    List.append_nil]

theorem dropWhile_digits
    {text rest : List Byte}
    (hDigits : AllDigits text)
    (hRest : rest.takeWhile isDigit = []) :
    (text ++ rest).dropWhile isDigit = rest := by
  rw [List.dropWhile_append_of_pos hDigits]
  have hSplit :=
    List.takeWhile_append_dropWhile (p := isDigit) (l := rest)
  rw [hRest, List.nil_append] at hSplit
  exact hSplit

/- A digit is neither a blank nor a sign. -/
theorem plain_of_isDigit
    {c : Byte}
    (hDigit : isDigit c = true) :
    isSpace c = false ∧ c ≠ ascii '-' ∧ c ≠ ascii '+' := by
  revert c
  decide +kernel

theorem saturated_ofNat
    {value : Nat}
    (hRange : value < 2 ^ 31) :
    saturated (value : Int) = BitVec.ofNat 32 value := by
  have hValue :
      max (-2 ^ 31) (min (value : Int) (2 ^ 31 - 1)) =
        value := by
    omega
  rw [saturated, hValue]
  exact BitVec.ofInt_natCast 32 value

/- `atol` on a row of digits. -/
theorem atol_digits
    {text rest : List Byte}
    (hDigits : AllDigits text)
    (hText : text ≠ [])
    (hRange : number text < 2 ^ 31)
    (hRest : rest.takeWhile isDigit = []) :
    atol (text ++ rest) = BitVec.ofNat 32 (number text) := by
  cases text with
  | nil => exact absurd rfl hText
  | cons first text =>
      rcases plain_of_isDigit
          (hDigits first List.mem_cons_self) with
        ⟨hSpace, hMinus, hPlus⟩
      have hLeading :
          leadingNumber (first :: (text ++ rest)) =
            number (first :: text) := by
        unfold leadingNumber
        rw [← List.cons_append, takeWhile_digits hDigits hRest]
        rfl
      rw [List.cons_append, atol,
        List.dropWhile_cons_of_neg (by simp [hSpace])]
      simp only [if_neg hMinus, if_neg hPlus]
      rw [hLeading]
      exact saturated_ofNat hRange

------------------------------------------------------------
-- Numbers with a Point
------------------------------------------------------------

/- Digits before a point, and digits after it. -/
def pointed (whole fraction : List Byte) : List Byte :=
  whole ++ ascii '.' :: fraction

theorem takeWhile_point
    (fraction : List Byte) :
    (ascii '.' :: fraction).takeWhile isDigit = [] := by
  rfl

/-
  The first digits of a fraction, as a number with that many
  digits; missing digits count as zeros.
-/
def scaled : Nat → List Byte → Nat
| 0, _ => 0
| _ + 1, [] => 0
| places + 1, c :: fraction =>
    digitValue c * 10 ^ places + scaled places fraction

theorem number_cons
    (c : Byte)
    (text : List Byte) :
    number (c :: text) =
      digitValue c * 10 ^ text.length + number text := by
  have hAppend := number_append [c] text
  have hOne : number [c] = digitValue c := by
    simp [number]
  rw [hOne] at hAppend
  exact hAppend

/- Scaling a fraction cuts it off. -/
theorem scaled_bounds
    (places : Nat)
    {fraction : List Byte}
    (hDigits : AllDigits fraction) :
    scaled places fraction * 10 ^ fraction.length ≤
        number fraction * 10 ^ places ∧
      number fraction * 10 ^ places <
        (scaled places fraction + 1) *
          10 ^ fraction.length := by
  induction places generalizing fraction with
  | zero =>
      have hNumber := number_lt hDigits
      simp only [scaled]
      omega
  | succ places ih =>
      cases fraction with
      | nil => simp [scaled, number]
      | cons c fraction =>
          rcases ih fun d hByte =>
              hDigits d (List.mem_cons_of_mem _ hByte) with
            ⟨hLower, hUpper⟩
          rw [scaled, number_cons, List.length_cons,
            Nat.pow_succ, Nat.pow_succ]
          constructor
          · nlinarith
          · nlinarith

/- A fraction with no more digits keeps its value. -/
theorem scaled_eq
    {places : Nat}
    {fraction : List Byte}
    (hLength : fraction.length ≤ places) :
    scaled places fraction * 10 ^ fraction.length =
      number fraction * 10 ^ places := by
  induction places generalizing fraction with
  | zero =>
      have hNil := List.eq_nil_of_length_eq_zero
        (Nat.le_zero.mp hLength)
      subst hNil
      rfl
  | succ places ih =>
      cases fraction with
      | nil => simp [scaled, number]
      | cons c fraction =>
          have hRest : fraction.length ≤ places := by
            simpa using hLength
          have hScaled := ih hRest
          rw [scaled, number_cons, List.length_cons,
            Nat.pow_succ, Nat.pow_succ]
          calc (digitValue c * 10 ^ places +
                scaled places fraction) *
                (10 ^ fraction.length * 10)
            _ = digitValue c * 10 ^ fraction.length *
                    (10 ^ places * 10) +
                  10 * (scaled places fraction *
                    10 ^ fraction.length) := by
                ring
            _ = _ := by
                rw [hScaled]
                ring

theorem scaled_lt
    (places : Nat)
    {fraction : List Byte}
    (hDigits : AllDigits fraction) :
    scaled places fraction < 10 ^ places := by
  induction places generalizing fraction with
  | zero => exact Nat.one_pos
  | succ places ih =>
      cases fraction with
      | nil => exact Nat.pow_pos (by omega)
      | cons c fraction =>
          have hFirst : digitValue c < 10 :=
            digitValue_lt (hDigits c List.mem_cons_self)
          have hRest := ih fun d hByte =>
            hDigits d (List.mem_cons_of_mem _ hByte)
          rw [scaled, Nat.pow_succ]
          nlinarith

/- The first byte of a row of digits is no sign. -/
theorem head?_digits
    {text rest : List Byte}
    (hDigits : AllDigits text)
    (hText : text ≠ []) :
    (text ++ rest).head? ≠ some (ascii '-') := by
  cases text with
  | nil => exact absurd rfl hText
  | cons first text =>
      have hMinus :=
        (plain_of_isDigit
          (hDigits first List.mem_cons_self)).2.1
      simpa using hMinus

/- Up to two decimals, in hundredths. -/
theorem parseDecimal_pointed
    {whole fraction : List Byte}
    (hWhole : AllDigits whole)
    (hFraction : AllDigits fraction)
    (hText : whole ≠ [])
    (hRange : number whole < 2 ^ 31) :
    parseDecimal (pointed whole fraction) =
      BitVec.ofNat 32
        (100 * number whole + scaled 2 fraction) := by
  have hSign :
      (pointed whole fraction).head? ≠ some (ascii '-') :=
    head?_digits hWhole hText
  have hLeft :=
    atol_digits hWhole hText hRange
      (takeWhile_point fraction)
  have hPoint :
      (pointed whole fraction).dropWhile isDigit =
        ascii '.' :: fraction :=
    dropWhile_digits hWhole (takeWhile_point fraction)
  have hHundred :
      BitVec.ofNat 32 (100 * number whole) =
        100 * BitVec.ofNat 32 (number whole) :=
    BitVec.ofNat_mul ..
  unfold parseDecimal
  simp only [if_neg hSign, hPoint]
  rw [pointed, hLeft]
  cases fraction with
  | nil =>
      simp only [scaled, Nat.add_zero]
      exact hHundred.symm
  | cons first fraction =>
      have hFirst := hFraction first List.mem_cons_self
      have hTen :
          BitVec.ofNat 32 (digitValue first * 10) =
            10 * BitVec.ofNat 32 (digitValue first) := by
        rw [Nat.mul_comm]
        exact BitVec.ofNat_mul ..
      simp only [hFirst, and_self, if_true]
      cases fraction with
      | nil =>
          simp only [scaled, Nat.add_zero, Nat.pow_one,
            BitVec.ofNat_add, hHundred, hTen]
      | cons second fraction =>
          have hSecond := hFraction second (by simp)
          simp only [hSecond, if_true, scaled, Nat.add_zero,
            Nat.pow_one, Nat.pow_zero, Nat.mul_one,
            BitVec.ofNat_add, hHundred, hTen,
            BitVec.add_assoc]

------------------------------------------------------------
-- Degrees
------------------------------------------------------------

/- A spent multiplier adds no more. -/
theorem tenMillionths_spent
    {fraction : List Byte}
    (hFraction : AllDigits fraction)
    (minutes multiplier : BitVec 32)
    (hSpent : multiplier / 10 = 0) :
    tenMillionths minutes multiplier fraction = minutes := by
  induction fraction generalizing minutes multiplier with
  | nil => rfl
  | cons c fraction ih =>
      have hFirst := hFraction c List.mem_cons_self
      have hRest : AllDigits fraction := fun d hByte =>
        hFraction d (List.mem_cons_of_mem _ hByte)
      rw [tenMillionths, if_pos hFirst, hSpent,
        ih hRest _ 0 (by decide)]
      simp

theorem tenth_power
    (places : Nat)
    (hPlaces : places < 7) :
    BitVec.ofNat 32 (10 ^ (places + 1)) / 10 =
      BitVec.ofNat 32 (10 ^ places) := by
  revert hPlaces places
  decide

/- The digits after the point, each with its weight. -/
theorem tenMillionths_scaled
    {places : Nat}
    {fraction : List Byte}
    (hFraction : AllDigits fraction)
    (hPlaces : places ≤ 7)
    (minutes : BitVec 32) :
    tenMillionths minutes (BitVec.ofNat 32 (10 ^ places))
        fraction =
      minutes + BitVec.ofNat 32 (scaled places fraction) := by
  induction places generalizing fraction minutes with
  | zero =>
      rw [tenMillionths_spent hFraction _ _ (by decide)]
      simp [scaled]
  | succ places ih =>
      cases fraction with
      | nil => simp [tenMillionths, scaled]
      | cons c fraction =>
          have hFirst := hFraction c List.mem_cons_self
          have hRest : AllDigits fraction := fun d hByte =>
            hFraction d (List.mem_cons_of_mem _ hByte)
          rw [tenMillionths, if_pos hFirst,
            tenth_power places (by omega),
            ih hRest (by omega), scaled, BitVec.ofNat_add,
            BitVec.ofNat_mul, BitVec.add_assoc]

/- The minutes of a coordinate, in ten millionths. -/
def minutesOf (whole fraction : List Byte) : Nat :=
  number whole % 100 * 10 ^ 7 + scaled 7 fraction

theorem parseDegrees_pointed
    {whole fraction : List Byte}
    (hWhole : AllDigits whole)
    (hFraction : AllDigits fraction)
    (hText : whole ≠ [])
    (hRange : number whole < 2 ^ 31) :
    parseDegrees (pointed whole fraction) =
      { deg := BitVec.ofNat 16 (number whole / 100)
        billionths :=
          (5 * BitVec.ofNat 32 (minutesOf whole fraction) +
            1) / 3
        negative := false } := by
  have hLeft :=
    atol_digits hWhole hText hRange
      (takeWhile_point fraction)
  have hPoint :
      (pointed whole fraction).dropWhile isDigit =
        ascii '.' :: fraction :=
    dropWhile_digits hWhole (takeWhile_point fraction)
  have hMultiplier :
      (10000000 : BitVec 32) = BitVec.ofNat 32 (10 ^ 7) := by
    decide
  unfold parseDegrees
  simp only [hPoint, if_true]
  rw [pointed, hLeft, hMultiplier,
    tenMillionths_scaled hFraction (Nat.le_refl _)]
  have hHundred :
      BitVec.ofNat 32 (number whole) % 100 =
        BitVec.ofNat 32 (number whole % 100) := by
    apply BitVec.eq_of_toNat_eq
    simp [BitVec.toNat_umod]
    omega
  have hDegrees :
      (BitVec.ofNat 32 (number whole) / 100).setWidth 16 =
        BitVec.ofNat 16 (number whole / 100) := by
    apply BitVec.eq_of_toNat_eq
    simp [BitVec.toNat_udiv]
    omega
  rw [hDegrees, hHundred, minutesOf, BitVec.ofNat_add,
    BitVec.ofNat_mul]

/- Valid minutes do not overflow, and are rounded. -/
theorem billionths_toNat
    {whole fraction : List Byte}
    (hFraction : AllDigits fraction)
    (hMinutes : number whole % 100 < 60) :
    ((5 * BitVec.ofNat 32 (minutesOf whole fraction) +
        1) / 3 : BitVec 32).toNat =
      (5 * minutesOf whole fraction + 1) / 3 := by
  have hScaled := scaled_lt 7 hFraction
  have hBound : minutesOf whole fraction < 6 * 10 ^ 8 := by
    unfold minutesOf
    omega
  rw [BitVec.toNat_udiv, BitVec.toNat_add, BitVec.toNat_mul,
    BitVec.toNat_ofNat]
  simp only [BitVec.reduceToNat]
  omega

end Gps

end LoRaTelemetry
