import LoRaTelemetry.Gps.Sentences

/-
  What the readouts come from: a sentence that is broken off
  or whose checksum is wrong leaves what it has noted behind,
  but a right sentence that fills what it publishes covers
  all of that.

  Main declarations:
    * `Gps.Quantity`
    * `Gps.SentenceType.published`
    * `Gps.Sentence.Filled`
    * `Gps.rightSentences_suffice`
    * `Gps.altered_rejected`
-/

------------------------------------------------------------
-- Quantities
------------------------------------------------------------

namespace LoRaTelemetry

namespace Gps

open Parity

/- What a draft has a value for. -/
inductive Quantity where
| latitude
| longitude
| date
| time
| speed
| course
| altitude
| satellites
| hdop
deriving DecidableEq

namespace Quantity

/- The term that gives the value. -/
def term : Quantity → Term
| .latitude => .latitude
| .longitude => .longitude
| .date => .date
| .time => .time
| .speed => .speed
| .course => .course
| .altitude => .altitude
| .satellites => .satellites
| .hdop => .hdop

/- Two drafts with one value for a quantity. -/
def Same (left right : Draft) : Quantity → Prop
| .latitude => left.latitude = right.latitude
| .longitude => left.longitude = right.longitude
| .date => left.date = right.date
| .time => left.time = right.time
| .speed => left.speed = right.speed
| .course => left.course = right.course
| .altitude => left.altitude = right.altitude
| .satellites => left.satellites = right.satellites
| .hdop => left.hdop = right.hdop

variable {left right : Draft}
variable {quantity : Quantity}

theorem same_note
    (hSame : quantity.Same left right)
    (place : Term × List Byte) :
    quantity.Same (left.note place) (right.note place) := by
  rcases place with ⟨term, text⟩
  cases quantity <;> cases term <;>
    simp_all [Same, Draft.note]

theorem same_noted
    (left right : Draft)
    (quantity : Quantity)
    (text : List Byte) :
    quantity.Same (left.note (quantity.term, text))
      (right.note (quantity.term, text)) := by
  cases quantity <;> rfl

/- A quantity that is noted does not depend on the past. -/
theorem same_foldl
    (places : List (Term × List Byte))
    (left right : Draft)
    (hNoted :
      quantity.Same left right ∨
        quantity.term ∈ places.map Prod.fst) :
    quantity.Same (places.foldl Draft.note left)
      (places.foldl Draft.note right) := by
  induction places generalizing left right with
  | nil =>
      rcases hNoted with hSame | hNever
      · exact hSame
      · simp at hNever
  | cons place places ih =>
      apply ih
      rcases hNoted with hSame | hNoted
      · exact .inl (same_note hSame place)
      · rcases List.mem_cons.mp hNoted with hHere | hLater
        · left
          have hPlace : place = (quantity.term, place.2) :=
            Prod.ext hHere.symm rfl
          rw [hPlace]
          exact same_noted left right quantity _
        · exact .inr hLater

end Quantity

/- The fix does not depend on the past either. -/
theorem hasFix_foldl
    (places : List (Term × List Byte))
    {left right : Draft}
    (hFix : left.hasFix = right.hasFix) :
    (places.foldl Draft.note left).hasFix =
      (places.foldl Draft.note right).hasFix := by
  induction places generalizing left right with
  | nil => exact hFix
  | cons place places ih =>
      apply ih
      rcases place with ⟨term, text⟩
      cases term <;> simp_all [Draft.note]

------------------------------------------------------------
-- Sentences That Fill What They Publish
------------------------------------------------------------

/- What a right sentence brings to light. -/
def SentenceType.published
    (hasFix : Bool) : SentenceType → List Quantity
| .GPRMC =>
    [.date, .time] ++
      if hasFix then
        [.latitude, .longitude, .speed, .course]
      else
        []
| .GPGGA =>
    [.time, .satellites, .hdop] ++
      if hasFix then
        [.latitude, .longitude, .altitude]
      else
        []
| .OTHER => []

theorem publish_congr
    {left right : Draft}
    {sentenceType : SentenceType}
    (readout : Readout)
    (hFix : left.hasFix = right.hasFix)
    (hSame :
      ∀ quantity ∈ sentenceType.published right.hasFix,
        quantity.Same left right) :
    readout.publish left sentenceType =
      readout.publish right sentenceType := by
  unfold Readout.publish
  cases hRight : right.hasFix <;> cases sentenceType <;>
    simp_all [SentenceType.published, Quantity.Same]

def Draft.blank : Draft :=
  ⟨{}, {}, 0, 0, 0, 0, 0, 0, 0, false⟩

namespace Sentence

variable (sentence : Sentence)

/- What the sentence says about its fix. -/
def hasFix : Bool :=
  (Draft.blank.noteAll sentence.fields).hasFix

/- Of what it publishes, it leaves no field empty. -/
def Filled : Prop :=
  ∀ quantity ∈
      (typeOf sentence.fields).published sentence.hasFix,
    quantity.term ∈
      (namedTerms sentence.fields).map Prod.fst

instance : Decidable sentence.Filled := by
  unfold Filled
  infer_instance

theorem hasFix_noteAll
    (draft : Draft) :
    (draft.noteAll sentence.fields).hasFix =
      sentence.hasFix := by
  exact hasFix_foldl _ rfl

/- A filled sentence publishes what it says, and no more. -/
theorem Filled.publish
    {sentence : Sentence}
    (hFilled : sentence.Filled)
    (readout : Readout)
    (left right : Draft) :
    readout.publish (left.noteAll sentence.fields)
        (typeOf sentence.fields) =
      readout.publish (right.noteAll sentence.fields)
        (typeOf sentence.fields) := by
  apply publish_congr
  · rw [hasFix_noteAll, hasFix_noteAll]
  · intro quantity hQuantity
    rw [hasFix_noteAll] at hQuantity
    exact
      Quantity.same_foldl _ _ _
        (.inr (hFilled quantity hQuantity))

end Sentence

------------------------------------------------------------
-- Right Sentences
------------------------------------------------------------

namespace Heard

/- A sentence that came whole, under its checksum. -/
def isRight : Heard → Bool
| .whole sentence => decide sentence.Right
| _ => false

/- A right sentence fills what it publishes. -/
def FilledIfRight : Heard → Prop
| .whole sentence => sentence.Right → sentence.Filled
| _ => True

instance : DecidablePred FilledIfRight := by
  intro heard
  cases heard <;> unfold FilledIfRight <;> infer_instance

end Heard

/- Two receivers that show the same. -/
structure Receiver.SameShown (left right : Receiver) : Prop where
  readout : left.readout = right.readout
  passed :
    left.passedChecksumCount = right.passedChecksumCount
  withFix :
    left.sentencesWithFixCount = right.sentencesWithFixCount

theorem hear_of_not_right
    (state : Receiver)
    {heard : Heard}
    (hRight : heard.isRight = false) :
    state.SameShown (state.hear heard) ∧
      state.announced heard = [] := by
  cases heard with
  | whole sentence =>
      have hWrong : ¬ sentence.Right := by
        simpa [Heard.isRight] using hRight
      constructor
      · simp only [Receiver.hear, if_neg hWrong]
        exact ⟨rfl, rfl, rfl⟩
      · simp only [Receiver.announced, if_neg hWrong]
  | cutInField => exact ⟨⟨rfl, rfl, rfl⟩, rfl⟩
  | cutInChecksum => exact ⟨⟨rfl, rfl, rfl⟩, rfl⟩

theorem hear_of_right
    {left right : Receiver}
    (hShown : left.SameShown right)
    {sentence : Sentence}
    (hRight : sentence.Right)
    (hFilled : sentence.Filled) :
    (left.hear (.whole sentence)).SameShown
        (right.hear (.whole sentence)) ∧
      left.announced (.whole sentence) =
        right.announced (.whole sentence) := by
  have hReadout :
      (left.hear (.whole sentence)).readout =
        (right.hear (.whole sentence)).readout := by
    simp only [Receiver.hear, if_pos hRight]
    exact
      (congrArg
          (fun readout : Readout =>
            readout.publish
              (left.draft.noteAll sentence.fields)
              (typeOf sentence.fields))
          hShown.readout).trans
        (hFilled.publish _ _ _)
  refine ⟨⟨hReadout, ?_, ?_⟩, ?_⟩
  · simp only [Receiver.hear, if_pos hRight]
    exact congrArg (fun count => count + 1) hShown.passed
  · simp only [Receiver.hear, if_pos hRight,
      Receiver.accept, Receiver.noted, Heard.fields,
      Sentence.hasFix_noteAll, hShown.withFix]
  · simp only [Receiver.announced, if_pos hRight, hReadout]

theorem receiver_purges
    (state : Receiver) :
    (receiver state).Purges Heard.FilledIfRight
      Heard.isRight Receiver.SameShown := by
  constructor
  · intro left right heard hFilled hRight hShown
    cases heard with
    | whole sentence =>
        have hSum : sentence.Right := of_decide_eq_true hRight
        exact hear_of_right hShown hSum (hFilled hSum)
    | cutInField => exact absurd hRight Bool.false_ne_true
    | cutInChecksum => exact absurd hRight Bool.false_ne_true
  · intro left right heard _ hRight hShown
    rcases hear_of_not_right left hRight with
      ⟨hSame, hEmit⟩
    exact
      ⟨⟨hSame.readout.symm.trans hShown.readout,
          hSame.passed.symm.trans hShown.passed,
          hSame.withFix.symm.trans hShown.withFix⟩,
        hEmit⟩

/-
  What the parser shows is that of the right sentences alone,
  as long as each fills what it publishes: what was damaged
  or broken off leaves no trace.
-/
theorem rightSentences_suffice
    (gps : TinyGPSPlus)
    (log : List Heard)
    (hFilled : ∀ heard ∈ log, heard.FilledIfRight) :
    let bytes := log.flatMap Heard.bytes
    let right :=
      (log.filter Heard.isRight).flatMap Heard.bytes
    (feed gps bytes).readout = (feed gps right).readout ∧
      announcer.traceFrom gps bytes =
        announcer.traceFrom gps right := by
  intro bytes right
  rcases (announcer_spells gps.view).traceFrom rfl log with
    ⟨hRun, hTrace⟩
  rcases (announcer_spells gps.view).traceFrom rfl
      (log.filter Heard.isRight) with
    ⟨hRightRun, hRightTrace⟩
  have hAlike : Receiver.SameShown gps.view gps.view :=
    ⟨rfl, rfl, rfl⟩
  rcases (receiver_purges gps.view).traceFrom hAlike log
      hFilled with
    ⟨hShown, hSame⟩
  constructor
  · have hReadout := hShown.readout
    rw [← hRun, ← hRightRun] at hReadout
    exact hReadout
  · exact hTrace.trans (hSame.trans hRightTrace.symm)

/- Of the first sample sentence, all but the latitude. -/
def rmcFields (latitude : String) : List (List Byte) :=
  ["GPRMC", "045103.000", "A", latitude, "N",
    "09749.2872", "W", "0.67", "161.46", "030913", "", "",
    "A"].map literal

def sampleRmc : Sentence :=
  { fields := rmcFields "3014.1984"
    high := ascii '7'
    low := ascii 'C'
    named := by decide
    short := by decide
    ordinary := ordinary_of_all (by decide +kernel)
    high_ordinary := by decide
    low_ordinary := by decide }

/- The same with one digit of the latitude altered. -/
def alteredRmc : Sentence :=
  { sampleRmc with
    fields := rmcFields "3074.1984"
    named := by decide
    short := by decide
    ordinary := ordinary_of_all (by decide +kernel) }

/- The log of a bad reception. -/
def badReception : List Heard :=
  [.cutInField alteredRmc 3 2, .whole alteredRmc,
    .cutInChecksum alteredRmc 1, .whole sampleRmc]

theorem badReception_shown :
    (announcer.traceFrom (TinyGPSPlus.construct {})
        (badReception.flatMap Heard.bytes)).length = 1 ∧
      announcer.traceFrom (TinyGPSPlus.construct {})
          (badReception.flatMap Heard.bytes) =
        announcer.traceFrom (TinyGPSPlus.construct {})
          sampleRmc.bytes := by
  have hRight :
      (badReception.filter Heard.isRight).flatMap
          Heard.bytes =
        sampleRmc.bytes := by
    decide +kernel
  have hSame :=
    (rightSentences_suffice (TinyGPSPlus.construct {})
      badReception (by decide +kernel)).2
  rw [hRight] at hSame
  refine ⟨?_, hSame⟩
  rw [hSame]
  decide +kernel

------------------------------------------------------------
-- One Byte Altered
------------------------------------------------------------

/-
  A right sentence in which one byte of the body has become
  another is rejected, whatever the parser has heard before.
-/
theorem altered_rejected
    (gps : TinyGPSPlus)
    (sentence altered : Sentence)
    (hRight : sentence.Right)
    (hDigits :
      altered.high = sentence.high ∧
        altered.low = sentence.low)
    (before after : List Byte)
    (c d : Byte)
    (hBody : sentence.body = before ++ c :: after)
    (hAltered : altered.body = before ++ d :: after)
    (hDiffers : d ≠ c) :
    let parsed := feed gps altered.bytes
    announcer.traceFrom gps altered.bytes = [] ∧
      parsed.readout = gps.readout ∧
      parsed.passedChecksumCount =
        gps.passedChecksumCount ∧
      parsed.failedChecksumCount =
        gps.failedChecksumCount + 1 := by
  intro parsed
  have hWrong : ¬ altered.Right := by
    intro hSum
    apply xorSum_altered before after hDiffers
    rw [← hBody, ← hAltered, ← hSum, ← hRight,
      hDigits.1, hDigits.2]
  rcases run_whole gps altered with ⟨hRun, hTrace⟩
  have hView :
      parsed.view = (gps.view.noted altered.fields).reject := by
    have hHear :
        gps.view.hear (.whole altered) =
          (gps.view.noted altered.fields).reject :=
      if_neg hWrong
    rw [← hHear]
    exact hRun
  refine ⟨?_, ?_, ?_, ?_⟩
  · rw [hTrace]
    exact if_neg hWrong
  · exact congrArg Receiver.readout hView
  · exact congrArg Receiver.passedChecksumCount hView
  · exact congrArg Receiver.failedChecksumCount hView

theorem alteredRmc_rejected :
    (feed (TinyGPSPlus.construct {})
        alteredRmc.bytes).failedChecksumCount = 1 := by
  have hRejected :=
    altered_rejected (TinyGPSPlus.construct {}) sampleRmc
      alteredRmc (by decide +kernel) ⟨rfl, rfl⟩
      (sampleRmc.body.take 21) (sampleRmc.body.drop 22)
      (ascii '1') (ascii '7') (by decide +kernel)
      (by decide +kernel) (by decide)
  exact hRejected.2.2.2

end Gps

end LoRaTelemetry
