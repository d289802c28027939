import Mathlib.Data.List.TakeWhile
import LoRaTelemetry.Gps.Receiver
import LoRaTelemetry.Gps.Scanner

/-
  The parser on one field of a sentence: what it has kept of
  the field, and what it does at the end.

  Main declarations:
    * `Gps.TinyGPSPlus.view`
    * `Gps.Parsing.Holds`
    * `Gps.Inside`
    * `Gps.Inside.ordinary`
    * `Gps.Inside.closed`
-/

------------------------------------------------------------
-- The Receiver in the Parser
------------------------------------------------------------

namespace LoRaTelemetry

namespace Gps

open Parity

def TinyGPSLocation.shown
    (location : TinyGPSLocation) :
    Shown (RawDegrees × RawDegrees) :=
  ⟨location.valid, location.updated,
    (location.rawLatData, location.rawLngData)⟩

def Member.shown (member : Member) : Shown (BitVec 32) :=
  ⟨member.valid, member.updated, member.val⟩

def TinyGPSPlus.draft (gps : TinyGPSPlus) : Draft :=
  { latitude := gps.location.rawNewLatData
    longitude := gps.location.rawNewLngData
    date := gps.date.newval
    time := gps.time.newval
    speed := gps.speed.newval
    course := gps.course.newval
    altitude := gps.altitude.newval
    satellites := gps.satellites.newval
    hdop := gps.hdop.newval
    hasFix := gps.parsing.sentenceHasFix }

def TinyGPSPlus.readout (gps : TinyGPSPlus) : Readout :=
  { location := gps.location.shown
    date := gps.date.shown
    time := gps.time.shown
    speed := gps.speed.shown
    course := gps.course.shown
    altitude := gps.altitude.shown
    satellites := gps.satellites.shown
    hdop := gps.hdop.shown }

/- The receiver that a parser stands for. -/
def TinyGPSPlus.view (gps : TinyGPSPlus) : Receiver :=
  { draft := gps.draft
    readout := gps.readout
    sentencesWithFixCount := gps.sentencesWithFixCount
    failedChecksumCount := gps.failedChecksumCount
    passedChecksumCount := gps.passedChecksumCount }

/- The parser, with the readouts of accepted sentences. -/
def announcer : Machine TinyGPSPlus Byte Readout :=
  { init := TinyGPSPlus.construct {}
    step := fun gps c => (encode gps c).2
    emit := fun gps c =>
      if (encode gps c).1 then
        [(encode gps c).2.readout]
      else
        [] }

------------------------------------------------------------
-- The Bytes of a Term
------------------------------------------------------------

namespace Parsing

variable {parsing : Parsing}

/- The term holds what is kept of a field. -/
structure Holds
    (parsing : Parsing)
    (field : List Byte) : Prop where
  offset : parsing.curTermOffset = min 14 field.length
  kept :
    parsing.term.toList.take parsing.curTermOffset =
      field.take 14

theorem Holds.nil
    (hOffset : parsing.curTermOffset = 0) :
    parsing.Holds [] := by
  exact
    ⟨by simp [hOffset], by rw [hOffset]; rfl⟩

/- An ordinary byte is kept while there is room. -/
theorem Holds.ordinary
    {field : List Byte}
    (hHolds : parsing.Holds field)
    (c : Byte) :
    (parsing.ordinary c).Holds (field ++ [c]) := by
  have hOffset := hHolds.offset
  have hKept := hHolds.kept
  by_cases hRoom : field.length < 14
  · have hPlace : parsing.curTermOffset = field.length := by
      omega
    have hField : field.take 14 = field :=
      List.take_of_length_le (by omega)
    rw [hPlace, hField] at hKept
    constructor
    · simp only [Parsing.ordinary, hPlace, if_pos hRoom,
        List.length_append, List.length_singleton]
      omega
    · simp only [Parsing.ordinary, hPlace, if_pos hRoom,
        Vector.toList_setIfInBounds]
      have hWhole : (field ++ [c]).take 14 = field ++ [c] :=
        List.take_of_length_le (by simp; omega)
      have hSize :
          field.length < parsing.term.toList.length := by
        rw [Vector.length_toList]
        omega
      rw [hWhole, List.take_add_one,
        List.take_set_of_le (Nat.le_refl _), hKept,
        List.getElem?_set_self hSize]
      rfl
  · have hPlace : parsing.curTermOffset = 14 := by
      omega
    have hFull : ¬ 14 < 14 := Nat.lt_irrefl _
    constructor
    · simp only [Parsing.ordinary, hPlace, if_neg hFull,
        List.length_append, List.length_singleton]
      omega
    · simp only [Parsing.ordinary, hPlace, if_neg hFull]
      rw [hPlace] at hKept
      rw [hKept, List.take_append_of_le_length (by omega)]

/- The zero that closes a term ends its text. -/
theorem Holds.text
    {field : List Byte}
    (hHolds : parsing.Holds field)
    (c : Byte) :
    (parsing.closed c).text = fieldText field := by
  have hOffset := hHolds.offset
  have hSize : parsing.curTermOffset < 15 := by omega
  have hStop :
      (parsing.closed c).term.toList[
        parsing.curTermOffset]? = some 0 := by
    simp [closed, hSize]
  rw [Parsing.text, cString_eq_take hStop, fieldText,
    ← hHolds.kept]
  congr 1
  simp only [closed, Vector.toList_setIfInBounds]
  exact List.take_set_of_le (Nat.le_refl _)

/- The first byte of a term is that of its text, or zero. -/
theorem first_eq
    (parsing : Parsing) :
    parsing.first = parsing.text.headD 0 := by
  have hFirst :
      parsing.term.toList[0]? = some parsing.first := by
    simp [Parsing.first]
  unfold Parsing.text cString
  cases hMemory : parsing.term.toList with
  | nil => simp [hMemory] at hFirst
  | cons c memory =>
      rw [hMemory, List.getElem?_cons_zero,
        Option.some_inj] at hFirst
      rw [← hFirst]
      by_cases hZero : c = 0
      · simp [hZero]
      · rw [List.takeWhile_cons_of_pos (by simpa using hZero)]
        rfl

/- A term without a text is one that starts with zero. -/
theorem first_eq_zero_iff
    (parsing : Parsing) :
    parsing.first = 0 ↔ parsing.text = [] := by
  rw [first_eq]
  cases hText : parsing.text with
  | nil => simp
  | cons c text =>
      have hByte : c ∈ parsing.text := by
        simp [hText]
      have hZero : c ≠ 0 := by
        simpa using List.mem_takeWhile_imp hByte
      simpa using hZero

end Parsing

------------------------------------------------------------
-- The End of a Term
------------------------------------------------------------

variable (gps : TinyGPSPlus)

theorem encode_ordinary
    {c : Byte}
    (hOrdinary : Ordinary c) :
    encode gps c =
      (false,
        { gps with
          encodedCharCount := gps.encodedCharCount + 1
          parsing := gps.parsing.ordinary c }) := by
  unfold encode
  simp only [hOrdinary.1, Bool.false_eq_true, if_false,
    if_neg hOrdinary.2]

/- The parser after the end-of-term handler. -/
def TinyGPSPlus.next
    (gps : TinyGPSPlus)
    (c : Byte) : TinyGPSPlus :=
  { gps with
    parsing :=
      { gps.parsing with
        curTermNumber := gps.parsing.curTermNumber + 1
        curTermOffset := 0
        isChecksumTerm := c = ascii '*' } }

theorem encode_terminator
    {c : Byte}
    (hEnd : isTerminator c)
    (hRoom : gps.parsing.curTermOffset < 15) :
    encode gps c =
      let handled :=
        endOfTermHandler
          { gps with
            encodedCharCount := gps.encodedCharCount + 1
            parsing := gps.parsing.closed c }
      (handled.1, handled.2.next c) := by
  unfold encode terminate
  simp only [if_pos hEnd, if_pos hRoom]
  rfl

/- Of the parsing state variables, a term sets the fix. -/
theorem assign_sentenceHasFix :
    (assign gps).parsing =
      { gps.parsing with
        sentenceHasFix :=
          (assign gps).parsing.sentenceHasFix } := by
  unfold assign
  cases gps.parsing.label? with
  | none => rfl
  | some term => cases term <;> rfl

theorem assign_view :
    (assign gps).view =
      { gps.view with
        draft :=
          gps.parsing.label?.elim gps.draft fun term =>
            gps.draft.note (term, gps.parsing.text) } := by
  unfold assign
  rw [Parsing.first_eq]
  cases gps.parsing.label? with
  | none => rfl
  | some term => cases term <;> rfl

/- The labels of the `switch` follow the terms. -/
theorem lookup_labels
    (sentenceType : SentenceType)
    (number : Nat)
    (hNumber : number < 32) :
    labels.lookup (combine sentenceType (number + 1)) =
      sentenceType.terms[number]? := by
  revert hNumber number
  cases sentenceType <;> decide

/- The parser at the end of the term after some fields. -/
structure AtEnd
    (fields : List (List Byte))
    (field : List Byte)
    (gps : TinyGPSPlus) : Prop where
  sentenceType :
    gps.parsing.curSentenceType = typeOf fields
  number :
    gps.parsing.curTermNumber = BitVec.ofNat 8 fields.length
  text : gps.parsing.text = fieldText field
  unsummed : gps.parsing.isChecksumTerm = false

variable {gps : TinyGPSPlus}
variable {fields : List (List Byte)}
variable {field : List Byte}

/- The name of a sentence gives its type. -/
theorem AtEnd.first
    (hEnd : AtEnd [] field gps) :
    endOfTermHandler gps =
      (false,
        { gps with
          parsing :=
            { gps.parsing with
              curSentenceType := typeOf [field] } }) := by
  unfold endOfTermHandler
  have hNumber : gps.parsing.curTermNumber = 0 :=
    hEnd.number
  rw [if_neg (by simp [hEnd.unsummed]), if_pos hNumber,
    hEnd.text]
  rfl

theorem AtEnd.number_ne_zero
    (hEnd : AtEnd fields field gps)
    (hFields : fields ≠ [])
    (hShort : fields.length ≤ 32) :
    gps.parsing.curTermNumber ≠ 0 := by
  intro hZero
  have hLength : 0 < fields.length :=
    List.length_pos_iff.mpr hFields
  have hNumber := congrArg BitVec.toNat hEnd.number
  rw [hZero, BitVec.toNat_ofNat] at hNumber
  simp at hNumber
  omega

theorem AtEnd.label?
    (hEnd : AtEnd fields field gps)
    (hFields : fields ≠ [])
    (hShort : fields.length ≤ 32) :
    gps.parsing.label? =
      (typeOf fields).terms[fields.length - 1]? := by
  have hLength : 0 < fields.length :=
    List.length_pos_iff.mpr hFields
  have hNumber :
      gps.parsing.curTermNumber.toNat =
        fields.length - 1 + 1 := by
    rw [hEnd.number, BitVec.toNat_ofNat]
    omega
  rw [Parsing.label?, hEnd.sentenceType, hNumber]
  exact lookup_labels _ _ (by omega)

/- A term of a known sentence is noted if it has a text. -/
theorem AtEnd.later
    (hEnd : AtEnd fields field gps)
    (hFields : fields ≠ [])
    (hShort : fields.length ≤ 32) :
    let handled := endOfTermHandler gps
    handled.1 = false ∧
      handled.2.view =
        { gps.view with
          draft :=
            (namedTerm? (typeOf fields)
                (field, fields.length - 1)).elim
              gps.draft gps.draft.note } ∧
      handled.2.parsing =
        { gps.parsing with
          sentenceHasFix :=
            handled.2.parsing.sentenceHasFix } := by
  intro handled
  have hLabel := hEnd.label? hFields hShort
  have hNumber := hEnd.number_ne_zero hFields hShort
  have hHandled :
      handled =
        if gps.parsing.curSentenceType ≠ .OTHER ∧
            gps.parsing.first ≠ 0 then
          (false, assign gps)
        else
          (false, gps) := by
    simp only [handled, endOfTermHandler, hEnd.unsummed,
      Bool.false_eq_true, if_false, if_neg hNumber]
  by_cases hKnown :
      gps.parsing.curSentenceType ≠ .OTHER ∧
        gps.parsing.first ≠ 0
  · have hText : fieldText field ≠ [] := by
      rw [← hEnd.text, Ne, ← Parsing.first_eq_zero_iff]
      exact hKnown.2
    rw [hHandled, if_pos hKnown]
    refine ⟨rfl, ?_, assign_sentenceHasFix gps⟩
    rw [assign_view, hLabel, hEnd.text, namedTerm?,
      if_neg hText]
    cases (typeOf fields).terms[fields.length - 1]? with
    | none => rfl
    | some term => rfl
  · have hNone :
        namedTerm? (typeOf fields)
          (field, fields.length - 1) = none := by
      unfold namedTerm?
      by_cases hText : fieldText field = []
      · rw [if_pos hText]
      · rw [← hEnd.text, ← Parsing.first_eq_zero_iff]
          at hText
        have hOther : typeOf fields = .OTHER := by
          rw [← hEnd.sentenceType]
          by_contra hType
          exact hKnown ⟨hType, hText⟩
        rw [hOther]
        simp [SentenceType.terms]
    rw [hHandled, if_neg hKnown, hNone]
    exact ⟨rfl, rfl, rfl⟩

------------------------------------------------------------
-- Within a Sentence
------------------------------------------------------------

/-
  The parser within a field: the fields before it have been
  closed, each by a comma.
-/
structure Inside
    (start : Receiver)
    (fields : List (List Byte))
    (field : List Byte)
    (gps : TinyGPSPlus) : Prop where
  view : gps.view = start.noted fields
  sentenceType :
    gps.parsing.curSentenceType = typeOf fields
  number :
    gps.parsing.curTermNumber = BitVec.ofNat 8 fields.length
  parity :
    gps.parsing.parity =
      xorSum
        (fields.flatMap (fun field => field ++ [ascii ',']) ++
          field)
  holds : gps.parsing.Holds field
  unsummed : gps.parsing.isChecksumTerm = false

/- The parser within the checksum. -/
structure Summing
    (start : Receiver)
    (fields : List (List Byte))
    (digits : List Byte)
    (gps : TinyGPSPlus) : Prop where
  view : gps.view = start.noted fields
  sentenceType :
    gps.parsing.curSentenceType = typeOf fields
  number :
    gps.parsing.curTermNumber = BitVec.ofNat 8 fields.length
  parity :
    gps.parsing.parity =
      xorSum (List.intercalate [ascii ','] fields)
  holds : gps.parsing.Holds digits
  summed : gps.parsing.isChecksumTerm = true

variable {start : Receiver}
variable {c : Byte}

/- A `$` begins a sentence, whatever has come before. -/
theorem Inside.begin
    (gps : TinyGPSPlus) :
    Inside gps.view [] [] (encode gps (ascii '$')).2 := by
  exact ⟨rfl, rfl, rfl, rfl, .nil rfl, rfl⟩

/- What an ordinary byte may change. -/
theorem Parsing.ordinary_frame
    (parsing : Parsing)
    (c : Byte) :
    parsing.ordinary c =
      { parsing with
        term := (parsing.ordinary c).term
        curTermOffset := (parsing.ordinary c).curTermOffset
        parity := (parsing.ordinary c).parity } := by
  unfold Parsing.ordinary
  split <;> rfl

theorem Parsing.ordinary_parity
    (parsing : Parsing)
    (c : Byte) :
    (parsing.ordinary c).parity =
      if parsing.isChecksumTerm then
        parsing.parity
      else
        parsing.parity ^^^ c := by
  unfold Parsing.ordinary
  split <;> rfl

theorem encode_ordinary_view
    (gps : TinyGPSPlus)
    (hOrdinary : Ordinary c) :
    (encode gps c).2.view = gps.view := by
  rw [encode_ordinary gps hOrdinary,
    Parsing.ordinary_frame]
  rfl

/- An ordinary byte belongs to the field. -/
theorem Inside.ordinary
    (hInside : Inside start fields field gps)
    (hOrdinary : Ordinary c) :
    Inside start fields (field ++ [c]) (encode gps c).2 := by
  have hParity :
      (gps.parsing.ordinary c).parity =
        gps.parsing.parity ^^^ c := by
    rw [Parsing.ordinary_parity, hInside.unsummed]
    rfl
  have hFrame := gps.parsing.ordinary_frame c
  refine
    ⟨(encode_ordinary_view gps hOrdinary).trans hInside.view,
      ?_, ?_, ?_, ?_, ?_⟩
  · rw [encode_ordinary gps hOrdinary, hFrame]
    exact hInside.sentenceType
  · rw [encode_ordinary gps hOrdinary, hFrame]
    exact hInside.number
  · rw [encode_ordinary gps hOrdinary]
    rw [← List.append_assoc, xorSum_concat,
      ← hInside.parity]
    exact hParity
  · rw [encode_ordinary gps hOrdinary]
    exact hInside.holds.ordinary c
  · rw [encode_ordinary gps hOrdinary, hFrame]
    exact hInside.unsummed

theorem Summing.ordinary
    {digits : List Byte}
    (hSumming : Summing start fields digits gps)
    (hOrdinary : Ordinary c) :
    Summing start fields (digits ++ [c])
      (encode gps c).2 := by
  have hParity :
      (gps.parsing.ordinary c).parity =
        gps.parsing.parity := by
    rw [Parsing.ordinary_parity, hSumming.summed]
    rfl
  have hFrame := gps.parsing.ordinary_frame c
  refine
    ⟨(encode_ordinary_view gps hOrdinary).trans hSumming.view,
      ?_, ?_, ?_, ?_, ?_⟩
  · rw [encode_ordinary gps hOrdinary, hFrame]
    exact hSumming.sentenceType
  · rw [encode_ordinary gps hOrdinary, hFrame]
    exact hSumming.number
  · rw [encode_ordinary gps hOrdinary]
    exact hParity.trans hSumming.parity
  · rw [encode_ordinary gps hOrdinary]
    exact hSumming.holds.ordinary c
  · rw [encode_ordinary gps hOrdinary, hFrame]
    exact hSumming.summed

/- What the handler does with a field of a sentence. -/
theorem AtEnd.handled
    (hEnd : AtEnd fields field gps)
    (hView : gps.view = start.noted fields)
    (hShort : fields.length ≤ 32) :
    let handled := endOfTermHandler gps
    handled.1 = false ∧
      handled.2.view = start.noted (fields ++ [field]) ∧
      handled.2.parsing =
        { gps.parsing with
          curSentenceType := typeOf (fields ++ [field])
          sentenceHasFix :=
            handled.2.parsing.sentenceHasFix } := by
  by_cases hFields : fields = []
  · subst hFields
    rw [hEnd.first]
    exact ⟨rfl, hView, rfl⟩
  · rcases hEnd.later hFields hShort with
      ⟨hVerdict, hNoted, hParsing⟩
    have hDraft :
        gps.draft = start.draft.noteAll fields :=
      congrArg Receiver.draft hView
    refine ⟨hVerdict, ?_, ?_⟩
    · rw [hNoted, hView, hDraft]
      simp only [Receiver.noted]
      rw [Draft.noteAll_concat start.draft hFields]
    · rw [typeOf_concat hFields, ← hEnd.sentenceType]
      exact hParsing

/-
  A terminator closes the field: it is noted, and nothing is
  accepted.
-/
theorem Inside.closed
    (hInside : Inside start fields field gps)
    (hShort : fields.length ≤ 32)
    (hEnd : isTerminator c) :
    (encode gps c).1 = false ∧
      (encode gps c).2.view =
        start.noted (fields ++ [field]) ∧
      (encode gps c).2.parsing.curSentenceType =
        typeOf (fields ++ [field]) ∧
      (encode gps c).2.parsing.curTermNumber =
        BitVec.ofNat 8 (fields ++ [field]).length ∧
      (encode gps c).2.parsing.parity =
        (gps.parsing.closed c).parity ∧
      (encode gps c).2.parsing.curTermOffset = 0 ∧
      (encode gps c).2.parsing.isChecksumTerm =
        decide (c = ascii '*') := by
  have hRoom : gps.parsing.curTermOffset < 15 := by
    have hOffset := hInside.holds.offset
    omega
  rw [encode_terminator gps hEnd hRoom]
  let closed : TinyGPSPlus :=
    { gps with
      encodedCharCount := gps.encodedCharCount + 1
      parsing := gps.parsing.closed c }
  have hAtEnd : AtEnd fields field closed :=
    ⟨hInside.sentenceType, hInside.number,
      hInside.holds.text c, hInside.unsummed⟩
  rcases hAtEnd.handled hInside.view hShort with
    ⟨hVerdict, hView, hParsing⟩
  have hParity := congrArg Parsing.parity hParsing
  have hNext :
      gps.parsing.curTermNumber + 1 =
        BitVec.ofNat 8 (fields ++ [field]).length := by
    rw [hInside.number, List.length_append]
    exact (BitVec.ofNat_add _ _).symm
  refine ⟨hVerdict, hView, ?_, ?_, ?_, rfl, rfl⟩
  · exact congrArg Parsing.curSentenceType hParsing
  · rw [← hNext]
    exact
      congrArg (fun parsing => parsing.curTermNumber + 1)
        hParsing
  · exact hParity

end Gps

end LoRaTelemetry
