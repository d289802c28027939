import LoRaTelemetry.Gps.Numbers
import LoRaTelemetry.Gps.Published

/-
  Spelling: numbers in a fixed width, fields under the
  checksum that belongs to them, and a sentence with a text
  in each known place.

  Main declarations:
    * `Gps.digits`
    * `Gps.number_digits`
    * `Gps.Kept`
    * `Gps.Sentence.underChecksum`
    * `Gps.underChecksum_right`
    * `Gps.namedTerms_filled`
-/

------------------------------------------------------------
-- Spelling Numbers
------------------------------------------------------------

namespace LoRaTelemetry

namespace Gps

open Parity

/- The last digit of a number. -/
def digit (value : Nat) : Byte :=
  BitVec.ofNat 8 (48 + value % 10)

/- The last digits of a number, in a fixed width. -/
def digits : Nat → Nat → List Byte
| 0, _ => []
| width + 1, value =>
    digits width (value / 10) ++ [digit value]

theorem digit_spec
    (value : Nat) :
    isDigit (digit value) = true ∧
      digitValue (digit value) = value % 10 := by
  have hDigit :
      ∀ last < 10,
        isDigit (BitVec.ofNat 8 (48 + last)) = true ∧
          digitValue (BitVec.ofNat 8 (48 + last)) = last := by
    decide
  exact hDigit (value % 10) (Nat.mod_lt _ (by omega))

theorem length_digits
    (width value : Nat) :
    (digits width value).length = width := by
  induction width generalizing value with
  | zero => rfl
  | succ width ih =>
      rw [digits, List.length_append, ih,
        List.length_singleton]

theorem allDigits_digits
    (width value : Nat) :
    AllDigits (digits width value) := by
  induction width generalizing value with
  | zero => simp [digits, AllDigits]
  | succ width ih =>
      intro c hByte
      rcases List.mem_append.mp hByte with hFront | hLast
      · exact ih _ c hFront
      · rw [List.mem_singleton.mp hLast]
        exact (digit_spec value).1

theorem number_digits
    {width value : Nat}
    (hValue : value < 10 ^ width) :
    number (digits width value) = value := by
  induction width generalizing value with
  | zero =>
      have hZero : value = 0 := by
        simpa using hValue
      rw [hZero]
      rfl
  | succ width ih =>
      have hFront : value / 10 < 10 ^ width := by
        rw [Nat.pow_succ] at hValue
        omega
      rw [digits, number_concat, ih hFront,
        (digit_spec value).2]
      omega

theorem number_twoDigits
    (value : Fin 100) :
    number (digits 2 value) = value := by
  exact number_digits value.isLt

theorem AllDigits.append
    {left right : List Byte}
    (hLeft : AllDigits left)
    (hRight : AllDigits right) :
    AllDigits (left ++ right) := by
  intro c hByte
  rcases List.mem_append.mp hByte with hByte | hByte
  · exact hLeft c hByte
  · exact hRight c hByte

/- A text that is kept as it is. -/
structure Kept (text : List Byte) : Prop where
  some : text ≠ []
  short : text.length ≤ 14
  plain : ∀ c ∈ text, Ordinary c ∧ c ≠ 0

theorem Kept.fieldText
    {text : List Byte}
    (hKept : Kept text) :
    fieldText text = text := by
  unfold Gps.fieldText cString
  rw [List.take_of_length_le hKept.short]
  apply List.takeWhile_eq_self_iff.mpr
  intro c hByte
  exact decide_eq_true (hKept.plain c hByte).2

theorem plain_digit
    {c : Byte}
    (hDigit : isDigit c = true) :
    Ordinary c ∧ c ≠ 0 := by
  revert c
  decide +kernel

theorem AllDigits.kept
    {text : List Byte}
    (hDigits : AllDigits text)
    (hText : text ≠ [])
    (hShort : text.length ≤ 14) :
    Kept text := by
  exact
    ⟨hText, hShort, fun c hByte =>
      plain_digit (hDigits c hByte)⟩

theorem kept_pointed
    {whole fraction : List Byte}
    (hWhole : AllDigits whole)
    (hFraction : AllDigits fraction)
    (hShort : whole.length + fraction.length ≤ 13) :
    Kept (pointed whole fraction) := by
  refine ⟨by simp [pointed], ?_, ?_⟩
  · simp only [pointed, List.length_append,
      List.length_cons]
    omega
  · intro c hByte
    rcases List.mem_append.mp hByte with hByte | hByte
    · exact plain_digit (hWhole c hByte)
    · rcases List.mem_cons.mp hByte with rfl | hByte
      · decide
      · exact plain_digit (hFraction c hByte)

------------------------------------------------------------
-- Under a Checksum
------------------------------------------------------------

def hexDigit (value : Nat) : Byte :=
  if value < 10 then
    BitVec.ofNat 8 (48 + value)
  else
    BitVec.ofNat 8 (55 + value)

theorem hexDigit_spec :
    ∀ value < 16,
      fromHex (hexDigit value) = value ∧
        Ordinary (hexDigit value) := by
  decide

/- Fields with the checksum that belongs to them. -/
def Sentence.underChecksum
    (fields : List (List Byte))
    (hNamed : fields ≠ [])
    (hShort : fields.length ≤ 33)
    (hOrdinary :
      ∀ field ∈ fields, ∀ c ∈ field, Ordinary c) :
    Sentence :=
  let sum := (xorSum (List.intercalate [ascii ','] fields)).toNat
  { fields := fields
    high := hexDigit (sum / 16 % 16)
    low := hexDigit (sum % 16)
    named := hNamed
    short := hShort
    ordinary := hOrdinary
    high_ordinary :=
      (hexDigit_spec _ (Nat.mod_lt _ (by omega))).2
    low_ordinary :=
      (hexDigit_spec _ (Nat.mod_lt _ (by omega))).2 }

theorem underChecksum_right
    {fields : List (List Byte)}
    (hNamed : fields ≠ [])
    (hShort : fields.length ≤ 33)
    (hOrdinary :
      ∀ field ∈ fields, ∀ c ∈ field, Ordinary c) :
    (Sentence.underChecksum fields hNamed hShort
      hOrdinary).Right := by
  let sum := xorSum (List.intercalate [ascii ','] fields)
  have hRange : sum.toNat < 2 ^ 8 := sum.isLt
  have hHigh :
      fromHex (hexDigit (sum.toNat / 16 % 16)) =
        (sum.toNat / 16 % 16 : Nat) :=
    (hexDigit_spec _ (Nat.mod_lt _ (by omega))).1
  have hLow :
      fromHex (hexDigit (sum.toNat % 16)) =
        (sum.toNat % 16 : Nat) :=
    (hexDigit_spec _ (Nat.mod_lt _ (by omega))).1
  have hWhole :
      (16 * (sum.toNat / 16 % 16 : Nat) +
        (sum.toNat % 16 : Nat) : ℤ) = sum.toNat := by
    omega
  unfold Sentence.Right
  simp only [Sentence.underChecksum]
  rw [hHigh, hLow, hWhole, BitVec.ofInt_natCast,
    BitVec.ofNat_toNat, BitVec.setWidth_eq]
  rfl

------------------------------------------------------------
-- Filled Sentences
------------------------------------------------------------

/- The texts of the known places, one after another. -/
theorem filterMap_namedTerm?
    (sentenceType : SentenceType)
    {texts : List (List Byte)}
    (hKept : ∀ text ∈ texts, Kept text)
    (place : Nat)
    (hPlaces :
      place + texts.length ≤ sentenceType.terms.length) :
    (texts.zipIdx place).filterMap
        (namedTerm? sentenceType) =
      (sentenceType.terms.drop place).zip texts := by
  induction texts generalizing place with
  | nil => simp
  | cons text texts ih =>
      have hText := hKept text List.mem_cons_self
      rw [List.length_cons] at hPlaces
      have hPlace : place < sentenceType.terms.length := by
        omega
      have hTerm :
          namedTerm? sentenceType (text, place) =
            some (sentenceType.terms[place], text) := by
        rw [namedTerm?, hText.fieldText, if_neg hText.some,
          List.getElem?_eq_getElem hPlace]
        rfl
      rw [List.zipIdx_cons,
        List.filterMap_cons_some hTerm,
        ih (fun text hMore =>
          hKept text (List.mem_cons_of_mem _ hMore))
          (place + 1) (by omega),
        List.drop_eq_getElem_cons hPlace,
        List.zip_cons_cons]

/- Behind the known places, nothing has a name. -/
theorem filterMap_beyond
    (sentenceType : SentenceType)
    (rest : List (List Byte))
    (place : Nat)
    (hPlace : sentenceType.terms.length ≤ place) :
    (rest.zipIdx place).filterMap
        (namedTerm? sentenceType) = [] := by
  induction rest generalizing place with
  | nil => rfl
  | cons field rest ih =>
      have hNone :
          namedTerm? sentenceType (field, place) = none := by
        rw [namedTerm?, List.getElem?_eq_none hPlace]
        simp
      rw [List.zipIdx_cons, List.filterMap_cons_none hNone]
      exact ih (place + 1) (by omega)

theorem namedTerms_filled
    (name : List Byte)
    {texts : List (List Byte)}
    (rest : List (List Byte))
    (hKept : ∀ text ∈ texts, Kept text)
    (hPlaces :
      texts.length = (typeOf [name]).terms.length) :
    namedTerms (name :: (texts ++ rest)) =
      (typeOf [name]).terms.zip texts := by
  have hType :
      typeOf (name :: (texts ++ rest)) = typeOf [name] := rfl
  unfold namedTerms
  rw [hType, List.tail_cons, List.zipIdx_append,
    List.filterMap_append,
    filterMap_namedTerm? _ hKept 0 (by omega),
    filterMap_beyond _ _ _ (by omega), List.append_nil,
    List.drop_zero]

end Gps

end LoRaTelemetry
