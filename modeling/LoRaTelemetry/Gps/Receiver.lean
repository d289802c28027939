import LoRaTelemetry.Gps.TinyGps
import LoRaTelemetry.Library.Parity
import LoRaTelemetry.Library.Simulation

/-
  What the parser is for: a receiver of whole sentences. The
  terms of a sentence are noted as they come and are shown
  once its checksum has turned out right. A sentence may also
  be broken off by the `$` of the next.

  A sentence has at most 33 fields: `COMBINE` mixes up the
  term numbers beyond.

  Main declarations:
    * `Gps.Ordinary`
    * `Gps.namedTerms`
    * `Gps.Draft`
    * `Gps.Readout`
    * `Gps.Sentence`
    * `Gps.Heard`
    * `Gps.receiver`
-/

------------------------------------------------------------
-- Fields and Terms
------------------------------------------------------------

namespace LoRaTelemetry

namespace Gps

open Parity

/- A byte that may stand in a field. -/
def Ordinary (c : Byte) : Prop :=
  isTerminator c = false ∧ c ≠ ascii '$'

theorem ordinary_iff
    (c : Byte) :
    Ordinary c ↔
      c ≠ 10 ∧ c ≠ 13 ∧ c ≠ 36 ∧ c ≠ 42 ∧ c ≠ 44 := by
  have hTerminators :
      literal ",\x0d\n*" = [44, 13, 10, 42] := by
    decide
  have hDollar : ascii '$' = 36 := by
    decide
  unfold Ordinary isTerminator
  rw [hTerminators, hDollar]
  simp
  tauto

instance : DecidablePred Ordinary :=
  fun c => decidable_of_iff _ (ordinary_iff c).symm

/- All fields at once, as a test that runs fast. -/
theorem ordinary_of_all
    {fields : List (List Byte)}
    (hAll :
      fields.flatten.all (fun c => decide (Ordinary c)) =
        true) :
    ∀ field ∈ fields, ∀ c ∈ field, Ordinary c := by
  intro field hField c hByte
  have hBytes := List.all_eq_true.mp hAll
  exact
    of_decide_eq_true
      (hBytes c (List.mem_flatten.mpr ⟨field, hField, hByte⟩))

/- The text of a field, as far as it is kept. -/
def fieldText (field : List Byte) : List Byte :=
  cString (field.take 14)

/- The first field names the type of the sentence. -/
def typeOf : List (List Byte) → SentenceType
| [] => .OTHER
| name :: _ => sentenceType (fieldText name)

/- The terms of a sentence, from the second field on. -/
def SentenceType.terms : SentenceType → List Term
| .GPRMC =>
    [.time, .validity, .latitude, .northSouth, .longitude,
      .eastWest, .speed, .course, .date]
| .GPGGA =>
    [.time, .latitude, .northSouth, .longitude, .eastWest,
      .fixData, .satellites, .hdop, .altitude]
| .OTHER => []

/- The term in a field that has a place and a text. -/
def namedTerm?
    (sentenceType : SentenceType)
    (place : List Byte × Nat) : Option (Term × List Byte) :=
  if fieldText place.1 = [] then
    none
  else
    sentenceType.terms[place.2]?.map
      fun term => (term, fieldText place.1)

/- What a sentence says, term by term. -/
def namedTerms
    (fields : List (List Byte)) : List (Term × List Byte) :=
  fields.tail.zipIdx.filterMap (namedTerm? (typeOf fields))

theorem typeOf_concat
    {fields : List (List Byte)}
    (hFields : fields ≠ [])
    (field : List Byte) :
    typeOf (fields ++ [field]) = typeOf fields := by
  cases fields with
  | nil => exact absurd rfl hFields
  | cons name fields => rfl

theorem namedTerms_concat
    {fields : List (List Byte)}
    (hFields : fields ≠ [])
    (field : List Byte) :
    namedTerms (fields ++ [field]) =
      namedTerms fields ++
        (namedTerm? (typeOf fields)
          (field, fields.length - 1)).toList := by
  unfold namedTerms
  rw [typeOf_concat hFields,
    List.tail_append_of_ne_nil hFields, List.zipIdx_append,
    List.filterMap_append, List.length_tail, Nat.zero_add]
  rfl

------------------------------------------------------------
-- Drafts
------------------------------------------------------------

/- What has been noted and not yet shown. -/
structure Draft where
  latitude : RawDegrees
  longitude : RawDegrees
  date : BitVec 32
  time : BitVec 32
  speed : BitVec 32
  course : BitVec 32
  altitude : BitVec 32
  satellites : BitVec 32
  hdop : BitVec 32
  hasFix : Bool
deriving DecidableEq

namespace Draft

variable (draft : Draft)

/- A sentence has no fix until it says so. -/
def opened : Draft :=
  { draft with hasFix := false }

def note : Term × List Byte → Draft
| (.time, text) => { draft with time := parseDecimal text }
| (.validity, text) =>
    { draft with hasFix := text.headD 0 = ascii 'A' }
| (.latitude, text) =>
    { draft with latitude := parseDegrees text }
| (.northSouth, text) =>
    { draft with
      latitude :=
        { draft.latitude with
          negative := text.headD 0 = ascii 'S' } }
| (.longitude, text) =>
    { draft with longitude := parseDegrees text }
| (.eastWest, text) =>
    { draft with
      longitude :=
        { draft.longitude with
          negative := text.headD 0 = ascii 'W' } }
| (.speed, text) =>
    { draft with speed := parseDecimal text }
| (.course, text) =>
    { draft with course := parseDecimal text }
| (.date, text) => { draft with date := atol text }
| (.fixData, text) =>
    { draft with hasFix := ascii '0' < text.headD 0 }
| (.satellites, text) =>
    { draft with satellites := atol text }
| (.hdop, text) => { draft with hdop := parseDecimal text }
| (.altitude, text) =>
    { draft with altitude := parseDecimal text }

/- The draft after the fields of a sentence. -/
def noteAll (fields : List (List Byte)) : Draft :=
  (namedTerms fields).foldl Draft.note draft.opened

theorem noteAll_concat
    {fields : List (List Byte)}
    (hFields : fields ≠ [])
    (field : List Byte) :
    draft.noteAll (fields ++ [field]) =
      (namedTerm? (typeOf fields)
          (field, fields.length - 1)).elim
        (draft.noteAll fields) (draft.noteAll fields).note := by
  unfold noteAll
  rw [namedTerms_concat hFields, List.foldl_append]
  cases namedTerm? (typeOf fields)
      (field, fields.length - 1) with
  | none => rfl
  | some term => rfl

end Draft

------------------------------------------------------------
-- Readouts
------------------------------------------------------------

/- A value with the two flags of its accessor. -/
structure Shown (Value : Type) where
  valid : Bool
  updated : Bool
  val : Value
deriving DecidableEq

def Shown.fresh
    {Value : Type}
    (val : Value) : Shown Value :=
  ⟨true, true, val⟩

/- What the accessors can tell. -/
structure Readout where
  location : Shown (RawDegrees × RawDegrees)
  date : Shown (BitVec 32)
  time : Shown (BitVec 32)
  speed : Shown (BitVec 32)
  course : Shown (BitVec 32)
  altitude : Shown (BitVec 32)
  satellites : Shown (BitVec 32)
  hdop : Shown (BitVec 32)
deriving DecidableEq

/- What a right sentence of some type brings to light. -/
def Readout.publish
    (readout : Readout)
    (draft : Draft) : SentenceType → Readout
| .GPRMC =>
    let readout :=
      { readout with
        date := .fresh draft.date
        time := .fresh draft.time }
    if draft.hasFix then
      { readout with
        location := .fresh (draft.latitude, draft.longitude)
        speed := .fresh draft.speed
        course := .fresh draft.course }
    else
      readout
| .GPGGA =>
    let readout :=
      { readout with
        time := .fresh draft.time
        satellites := .fresh draft.satellites
        hdop := .fresh draft.hdop }
    if draft.hasFix then
      { readout with
        location := .fresh (draft.latitude, draft.longitude)
        altitude := .fresh draft.altitude }
    else
      readout
| .OTHER => readout

------------------------------------------------------------
-- Sentences
------------------------------------------------------------

/- Fields under a checksum of two digits. -/
structure Sentence where
  fields : List (List Byte)
  high : Byte
  low : Byte
  named : fields ≠ []
  short : fields.length ≤ 33
  ordinary : ∀ field ∈ fields, ∀ c ∈ field, Ordinary c
  high_ordinary : Ordinary high
  low_ordinary : Ordinary low

namespace Sentence

variable (sentence : Sentence)

/- The bytes under the checksum. -/
def body : List Byte :=
  List.intercalate [ascii ','] sentence.fields

def bytes : List Byte :=
  ascii '$' :: sentence.body ++
    [ascii '*', sentence.high, sentence.low] ++
      literal "\x0d\n"

/- The two digits spell the checksum of the body. -/
def Right : Prop :=
  BitVec.ofInt 8
      (16 * fromHex sentence.high + fromHex sentence.low) =
    xorSum sentence.body

instance : Decidable sentence.Right := by
  unfold Right
  infer_instance

end Sentence

/-
  What comes from the receiver between one `$` and the next:
  a sentence, or one that was broken off within a field or
  within its checksum.
-/
inductive Heard where
| whole (sentence : Sentence)
| cutInField (sentence : Sentence) (closed length : Nat)
| cutInChecksum (sentence : Sentence) (length : Nat)

namespace Heard

def bytes : Heard → List Byte
| .whole sentence => sentence.bytes
| .cutInField sentence closed length =>
    ascii '$' ::
      (sentence.fields.take closed).flatMap
          (fun field => field ++ [ascii ',']) ++
        ((sentence.fields.drop closed).headD []).take length
| .cutInChecksum sentence length =>
    ascii '$' :: sentence.body ++
      ascii '*' :: [sentence.high, sentence.low].take length

/- The fields that were closed. -/
def fields : Heard → List (List Byte)
| .whole sentence => sentence.fields
| .cutInField sentence closed _ =>
    sentence.fields.take closed
| .cutInChecksum sentence _ => sentence.fields

end Heard

------------------------------------------------------------
-- The Receiver
------------------------------------------------------------

structure Receiver where
  draft : Draft
  readout : Readout
  sentencesWithFixCount : BitVec 32
  failedChecksumCount : BitVec 32
  passedChecksumCount : BitVec 32
deriving DecidableEq

namespace Receiver

variable (state : Receiver)

/- A sentence whose checksum is right. -/
def accept (sentenceType : SentenceType) : Receiver :=
  { state with
    readout := state.readout.publish state.draft sentenceType
    passedChecksumCount := state.passedChecksumCount + 1
    sentencesWithFixCount :=
      if state.draft.hasFix then
        state.sentencesWithFixCount + 1
      else
        state.sentencesWithFixCount }

def reject : Receiver :=
  { state with
    failedChecksumCount := state.failedChecksumCount + 1 }

/- The fields of a sentence, noted. -/
def noted (fields : List (List Byte)) : Receiver :=
  { state with draft := state.draft.noteAll fields }

def hear (heard : Heard) : Receiver :=
  let state := state.noted heard.fields
  match heard with
  | .whole sentence =>
      if sentence.Right then
        state.accept (typeOf sentence.fields)
      else
        state.reject
  | _ => state

/- The readout that a right sentence announces. -/
def announced : Heard → List Readout
| .whole sentence =>
    if sentence.Right then
      [(state.hear (.whole sentence)).readout]
    else
      []
| _ => []

end Receiver

/- The receiver, from a state on. -/
def receiver
    (state : Receiver) : Machine Receiver Heard Readout :=
  { init := state
    step := Receiver.hear
    emit := Receiver.announced }

end Gps

end LoRaTelemetry
