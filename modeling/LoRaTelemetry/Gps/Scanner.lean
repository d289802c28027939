import LoRaTelemetry.Gps.TinyGps
import LoRaTelemetry.Library.Machine

/-
  The parser split in two: a scanner, which runs through the
  parsing state variables only, and the calls by which it
  drives the location.

  Main declarations:
    * `Gps.LocationCall`
    * `Gps.Parsing.step`
    * `Gps.Parsing.call?`
    * `Gps.scanner`
    * `Gps.encode_parsing`
    * `Gps.encode_location`
    * `Gps.feed_location`
-/

------------------------------------------------------------
-- Calls
------------------------------------------------------------

namespace LoRaTelemetry

namespace Gps

/- What the parser may do to the location. -/
inductive LocationCall where
| setLatitude (term : List Byte)
| latNegative (negative : Bool)
| setLongitude (term : List Byte)
| lngNegative (negative : Bool)
| commit
deriving DecidableEq

def TinyGPSLocation.perform
    (location : TinyGPSLocation) :
    LocationCall → TinyGPSLocation
| .setLatitude term => location.setLatitude term
| .latNegative negative =>
    { location with
      rawNewLatData :=
        { location.rawNewLatData with
          negative := negative } }
| .setLongitude term => location.setLongitude term
| .lngNegative negative =>
    { location with
      rawNewLngData :=
        { location.rawNewLngData with
          negative := negative } }
| .commit => location.commit

def TinyGPSLocation.performAll
    (location : TinyGPSLocation)
    (calls : List LocationCall) : TinyGPSLocation :=
  calls.foldl TinyGPSLocation.perform location

theorem TinyGPSLocation.performAll_append
    (location : TinyGPSLocation)
    (first second : List LocationCall) :
    location.performAll (first ++ second) =
      (location.performAll first).performAll second := by
  exact List.foldl_append

------------------------------------------------------------
-- The Scanner
------------------------------------------------------------

namespace Parsing

variable (parsing : Parsing)

/- The variables after the end-of-term handler. -/
def handled : Parsing :=
  if parsing.isChecksumTerm then
    parsing
  else if parsing.curTermNumber = 0 then
    { parsing with
      curSentenceType := sentenceType parsing.text }
  else if parsing.curSentenceType ≠ .OTHER ∧
      parsing.first ≠ 0 then
    match parsing.label? with
    | some .validity =>
        { parsing with
          sentenceHasFix := parsing.first = ascii 'A' }
    | some .fixData =>
        { parsing with
          sentenceHasFix := ascii '0' < parsing.first }
    | _ => parsing
  else
    parsing

/- The call that a term of a known sentence makes. -/
def assignCall? : Option LocationCall :=
  match parsing.label? with
  | some .latitude => some (.setLatitude parsing.text)
  | some .northSouth =>
      some (.latNegative (parsing.first = ascii 'S'))
  | some .longitude => some (.setLongitude parsing.text)
  | some .eastWest =>
      some (.lngNegative (parsing.first = ascii 'W'))
  | _ => none

/- The call that the end-of-term handler makes. -/
def handlerCall? : Option LocationCall :=
  if parsing.isChecksumTerm then
    if parsing.checksum = parsing.parity ∧
        parsing.curSentenceType ≠ .OTHER ∧
        parsing.sentenceHasFix then
      some .commit
    else
      none
  else if parsing.curTermNumber = 0 then
    none
  else if parsing.curSentenceType ≠ .OTHER ∧
      parsing.first ≠ 0 then
    parsing.assignCall?
  else
    none

/- The variables as the handler finds them. -/
def closed (c : Byte) : Parsing :=
  { parsing with
    parity :=
      if c = ascii ',' then
        parsing.parity ^^^ c
      else
        parsing.parity
    term :=
      parsing.term.setIfInBounds parsing.curTermOffset 0 }

/- The variables after a term terminator. -/
def terminated (c : Byte) : Parsing :=
  let handled :=
    if parsing.curTermOffset < 15 then
      (parsing.closed c).handled
    else
      parsing.closed c
  { handled with
    curTermNumber := handled.curTermNumber + 1
    curTermOffset := 0
    isChecksumTerm := c = ascii '*' }

def step (c : Byte) : Parsing :=
  if isTerminator c then
    parsing.terminated c
  else if c = ascii '$' then
    parsing.begin
  else
    parsing.ordinary c

/- The call that `encode` makes on a byte. -/
def call? (c : Byte) : Option LocationCall :=
  if isTerminator c ∧ parsing.curTermOffset < 15 then
    (parsing.closed c).handlerCall?
  else
    none

end Parsing

/- The scanner from a start of the object on zero memory. -/
def scanner : Machine Parsing Byte LocationCall :=
  { init := (TinyGPSPlus.construct {}).parsing
    step := Parsing.step
    emit := fun parsing c => (parsing.call? c).toList }

------------------------------------------------------------
-- The Parser Follows the Scanner
------------------------------------------------------------

variable (gps : TinyGPSPlus)

theorem assign_parsing
    (hType : gps.parsing.isChecksumTerm = false)
    (hNumber : gps.parsing.curTermNumber ≠ 0)
    (hKnown :
      gps.parsing.curSentenceType ≠ .OTHER ∧
        gps.parsing.first ≠ 0) :
    (assign gps).parsing = gps.parsing.handled := by
  unfold assign Parsing.handled
  rw [if_neg (by simp [hType]), if_neg hNumber,
    if_pos hKnown]
  cases gps.parsing.label? with
  | none => rfl
  | some label => cases label <;> rfl

theorem assign_location :
    (assign gps).location =
      gps.location.performAll
        gps.parsing.assignCall?.toList := by
  unfold assign Parsing.assignCall?
  cases gps.parsing.label? with
  | none => rfl
  | some label => cases label <;> rfl

theorem commitSentence_parsing :
    (commitSentence gps).parsing = gps.parsing := by
  unfold commitSentence
  cases gps.parsing.curSentenceType with
  | GPRMC => simp only; split <;> rfl
  | GPGGA => simp only; split <;> rfl
  | OTHER => rfl

theorem commitSentence_location :
    (commitSentence gps).location =
      if gps.parsing.curSentenceType ≠ .OTHER ∧
          gps.parsing.sentenceHasFix then
        gps.location.commit
      else
        gps.location := by
  unfold commitSentence
  cases gps.parsing.curSentenceType <;>
    cases hFix : gps.parsing.sentenceHasFix <;>
    simp [hFix]

theorem endOfTermHandler_parsing :
    (endOfTermHandler gps).2.parsing =
      gps.parsing.handled := by
  unfold endOfTermHandler
  by_cases hChecksum : gps.parsing.isChecksumTerm
  · rw [if_pos hChecksum, Parsing.handled,
      if_pos hChecksum]
    split
    · exact commitSentence_parsing _
    · rfl
  · rw [if_neg hChecksum]
    by_cases hNumber : gps.parsing.curTermNumber = 0
    · rw [if_pos hNumber, Parsing.handled,
        if_neg hChecksum, if_pos hNumber]
    · rw [if_neg hNumber]
      by_cases hKnown :
          gps.parsing.curSentenceType ≠ .OTHER ∧
            gps.parsing.first ≠ 0
      · rw [if_pos hKnown]
        exact
          assign_parsing gps (by simpa using hChecksum)
            hNumber hKnown
      · rw [if_neg hKnown, Parsing.handled,
          if_neg hChecksum, if_neg hNumber, if_neg hKnown]

theorem endOfTermHandler_location :
    (endOfTermHandler gps).2.location =
      gps.location.performAll
        gps.parsing.handlerCall?.toList := by
  unfold endOfTermHandler Parsing.handlerCall?
  by_cases hChecksum : gps.parsing.isChecksumTerm
  · simp only [if_pos hChecksum]
    by_cases hSum :
        gps.parsing.checksum = gps.parsing.parity
    · rw [if_pos hSum, commitSentence_location]
      simp only [hSum, true_and]
      split <;> rfl
    · simp [hSum, TinyGPSLocation.performAll]
  · simp only [if_neg hChecksum]
    by_cases hNumber : gps.parsing.curTermNumber = 0
    · simp [hNumber, TinyGPSLocation.performAll]
    · simp only [if_neg hNumber]
      split
      · exact assign_location gps
      · rfl

/- What one byte does to the parsing state variables. -/
theorem encode_parsing
    (c : Byte) :
    (encode gps c).2.parsing = gps.parsing.step c := by
  unfold encode Parsing.step
  simp only
  split
  · unfold terminate Parsing.terminated
    simp only
    split
    · simp only [endOfTermHandler_parsing]
      rfl
    · rename_i hOffset
      simp only [Parsing.closed]
      rw [Vector.setIfInBounds_eq_of_size_le (by omega)]
  · split <;> rfl

/- What one byte does to the location. -/
theorem encode_location
    (c : Byte) :
    (encode gps c).2.location =
      gps.location.performAll
        (gps.parsing.call? c).toList := by
  by_cases hEnd : isTerminator c
  · by_cases hOffset : gps.parsing.curTermOffset < 15
    · have hCall :
          gps.parsing.call? c =
            (gps.parsing.closed c).handlerCall? := by
        exact if_pos ⟨hEnd, hOffset⟩
      rw [hCall]
      unfold encode terminate
      simp only [if_pos hEnd, if_pos hOffset]
      exact endOfTermHandler_location _
    · have hCall : gps.parsing.call? c = none := by
        exact if_neg (by simp [hOffset])
      rw [hCall]
      unfold encode terminate
      simp only [if_pos hEnd, if_neg hOffset]
      rfl
  · have hCall : gps.parsing.call? c = none := by
      exact if_neg (by simp [hEnd])
    rw [hCall]
    unfold encode
    simp only [if_neg hEnd]
    split <;> rfl

/- The parser runs through the states of the scanner. -/
theorem feed_parsing
    (bytes : List Byte) :
    (feed gps bytes).parsing =
      scanner.runFrom gps.parsing bytes := by
  induction bytes generalizing gps with
  | nil => rfl
  | cons c bytes ih =>
      rw [feed, List.foldl_cons, ← feed, ih,
        encode_parsing]
      rfl

/- The location after the calls that the scanner emits. -/
theorem feed_location
    (bytes : List Byte) :
    (feed gps bytes).location =
      gps.location.performAll
        (scanner.traceFrom gps.parsing bytes) := by
  induction bytes generalizing gps with
  | nil => rfl
  | cons c bytes ih =>
      rw [feed, List.foldl_cons, ← feed, ih,
        encode_parsing, encode_location, Machine.traceFrom,
        TinyGPSLocation.performAll_append]
      rfl

end Gps

end LoRaTelemetry
