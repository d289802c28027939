import LoRaTelemetry.Gps.CStrings

/-
  The TinyGPS++ parser: what `encode` does with one byte of
  the receiver, and what the members of the object keep.

  No custom element is attached to a parser. The commit times
  are left out; only `age` reads them. What `lat` and `lng`
  return is computed in any type with the arithmetic of a
  `double`.

  Main declarations:
    * `Gps.TinyGPSLocation`
    * `Gps.Parsing`
    * `Gps.TinyGPSPlus`
    * `Gps.TinyGPSPlus.construct`
    * `Gps.endOfTermHandler`
    * `Gps.encode`
    * `Gps.feed`
-/

------------------------------------------------------------
-- Numbers in Terms
------------------------------------------------------------

namespace LoRaTelemetry

namespace Gps

structure RawDegrees where
  deg : BitVec 16 := 0
  billionths : BitVec 32 := 0
  negative : Bool := false
deriving DecidableEq

/- Degrees as `lat` and `lng` compute them. -/
def RawDegrees.value
    {Double : Type}
    [NatCast Double] [Add Double] [Div Double] [Neg Double]
    (raw : RawDegrees) : Double :=
  let ret : Double :=
    (raw.deg.toNat : Double) +
      (raw.billionths.toNat : Double) /
        ((1000000000 : Nat) : Double)
  if raw.negative then
    -ret
  else
    ret

/- A number with up to two decimals, in hundredths. -/
def parseDecimal (term : List Byte) : BitVec 32 :=
  let negative := term.head? = some (ascii '-')
  let term :=
    if negative then
      term.tail
    else
      term
  let ret := 100 * atol term
  let ret :=
    match term.dropWhile isDigit with
    | point :: first :: rest =>
        if point = ascii '.' ∧ isDigit first then
          let ret :=
            ret + 10 * BitVec.ofNat 32 (digitValue first)
          match rest with
          | second :: _ =>
              if isDigit second then
                ret + BitVec.ofNat 32 (digitValue second)
              else
                ret
          | [] => ret
        else
          ret
    | _ => ret
  if negative then
    -ret
  else
    ret

/- The digits after the point, each with a tenth of it. -/
def tenMillionths :
    (minutes multiplier : BitVec 32) →
    List Byte → BitVec 32
| minutes, _, [] => minutes
| minutes, multiplier, c :: rest =>
    if isDigit c then
      tenMillionths
        (minutes +
          BitVec.ofNat 32 (digitValue c) *
            (multiplier / 10))
        (multiplier / 10) rest
    else
      minutes

/- Degrees and minutes in the format DDMM.MMMM. -/
def parseDegrees (term : List Byte) : RawDegrees :=
  let leftOfDecimal := atol term
  let multiplier : BitVec 32 := 10000000
  let minutes := leftOfDecimal % 100 * multiplier
  let tenMillionthsOfMinutes :=
    match term.dropWhile isDigit with
    | point :: rest =>
        if point = ascii '.' then
          tenMillionths minutes multiplier rest
        else
          minutes
    | [] => minutes
  { deg := (leftOfDecimal / 100).setWidth 16
    billionths := (5 * tenMillionthsOfMinutes + 1) / 3
    negative := false }

def fromHex (a : Byte) : Int :=
  if ascii 'A' ≤ a ∧ a ≤ ascii 'F' then
    a.toNat - (ascii 'A').toNat + 10
  else if ascii 'a' ≤ a ∧ a ≤ ascii 'f' then
    a.toNat - (ascii 'a').toNat + 10
  else
    a.toNat - (ascii '0').toNat

------------------------------------------------------------
-- The Members of the Object
------------------------------------------------------------

structure TinyGPSLocation where
  valid : Bool := false
  updated : Bool := false
  rawLatData : RawDegrees := {}
  rawLngData : RawDegrees := {}
  rawNewLatData : RawDegrees := {}
  rawNewLngData : RawDegrees := {}
deriving DecidableEq

namespace TinyGPSLocation

variable (location : TinyGPSLocation)

def commit : TinyGPSLocation :=
  { location with
    rawLatData := location.rawNewLatData
    rawLngData := location.rawNewLngData
    valid := true
    updated := true }

def setLatitude (term : List Byte) : TinyGPSLocation :=
  { location with rawNewLatData := parseDegrees term }

def setLongitude (term : List Byte) : TinyGPSLocation :=
  { location with rawNewLngData := parseDegrees term }

/- What an accessor leaves behind. -/
def read : TinyGPSLocation :=
  { location with updated := false }

variable {Double : Type}
variable [NatCast Double] [Add Double]
variable [Div Double] [Neg Double]

def lat : Double × TinyGPSLocation :=
  (location.rawLatData.value, location.read)

def lng : Double × TinyGPSLocation :=
  (location.rawLngData.value, location.read)

end TinyGPSLocation

/-
  The members for date, time, decimals and integers have one
  shape. A constructor leaves the new value as it finds it.
-/
structure Member where
  valid : Bool := false
  updated : Bool := false
  val : BitVec 32 := 0
  newval : BitVec 32 := 0
deriving DecidableEq

namespace Member

variable (member : Member)

def construct : Member :=
  { member with
    valid := false
    updated := false
    val := 0 }

def commit : Member :=
  { member with
    val := member.newval
    valid := true
    updated := true }

/- An accessor: it clears `updated`. -/
def value : BitVec 32 × Member :=
  (member.val, { member with updated := false })

end Member

abbrev TinyGPSDate := Member

abbrev TinyGPSTime := Member

abbrev TinyGPSDecimal := Member

abbrev TinyGPSInteger := Member

def TinyGPSDate.setDate
    (date : TinyGPSDate)
    (term : List Byte) : TinyGPSDate :=
  { date with newval := atol term }

def TinyGPSTime.setTime
    (time : TinyGPSTime)
    (term : List Byte) : TinyGPSTime :=
  { time with newval := parseDecimal term }

def TinyGPSDecimal.set
    (decimal : TinyGPSDecimal)
    (term : List Byte) : TinyGPSDecimal :=
  { decimal with newval := parseDecimal term }

def TinyGPSInteger.set
    (integer : TinyGPSInteger)
    (term : List Byte) : TinyGPSInteger :=
  { integer with newval := atol term }

------------------------------------------------------------
-- The Object
------------------------------------------------------------

inductive SentenceType where
| GPGGA
| GPRMC
| OTHER
deriving DecidableEq, Repr

def SentenceType.code : SentenceType → Nat
| .GPGGA => 0
| .GPRMC => 1
| .OTHER => 2

/- The parsing state variables. -/
structure Parsing where
  parity : Byte := 0
  isChecksumTerm : Bool := false
  term : Vector Byte 15 := Vector.replicate 15 0
  curSentenceType : SentenceType := .OTHER
  curTermNumber : BitVec 8 := 0
  curTermOffset : Nat := 0
  sentenceHasFix : Bool := false

/- The term as the string functions read it. -/
def Parsing.text (parsing : Parsing) : List Byte :=
  cString parsing.term.toList

def Parsing.first (parsing : Parsing) : Byte :=
  parsing.term[0]

structure TinyGPSPlus where
  location : TinyGPSLocation := {}
  date : TinyGPSDate := {}
  time : TinyGPSTime := {}
  speed : TinyGPSDecimal := {}
  course : TinyGPSDecimal := {}
  altitude : TinyGPSDecimal := {}
  satellites : TinyGPSInteger := {}
  hdop : TinyGPSDecimal := {}
  parsing : Parsing := {}
  encodedCharCount : BitVec 32 := 0
  sentencesWithFixCount : BitVec 32 := 0
  failedChecksumCount : BitVec 32 := 0
  passedChecksumCount : BitVec 32 := 0

/-
  The constructor, on the memory of the object. It leaves
  all of `term` but its first byte as it is.
-/
def TinyGPSPlus.construct
    (memory : TinyGPSPlus) : TinyGPSPlus :=
  { location := {}
    date := memory.date.construct
    time := memory.time.construct
    speed := memory.speed.construct
    course := memory.course.construct
    altitude := memory.altitude.construct
    satellites := memory.satellites.construct
    hdop := memory.hdop.construct
    parsing :=
      { term := memory.parsing.term.set 0 0 } }

------------------------------------------------------------
-- The End of a Term
------------------------------------------------------------

variable (gps : TinyGPSPlus)

/- `COMBINE`; the two numbers may overlap. -/
def combine
    (sentenceType : SentenceType)
    (termNumber : Nat) : Nat :=
  (sentenceType.code <<< 5) ||| termNumber

/- What the terms of the known sentences are. -/
inductive Term where
| time
| validity
| latitude
| northSouth
| longitude
| eastWest
| speed
| course
| date
| fixData
| satellites
| hdop
| altitude
deriving DecidableEq, Repr

/- The labels of the `switch` over the terms. -/
def labels : List (Nat × Term) :=
  [(combine .GPRMC 1, .time),
    (combine .GPGGA 1, .time),
    (combine .GPRMC 2, .validity),
    (combine .GPRMC 3, .latitude),
    (combine .GPGGA 2, .latitude),
    (combine .GPRMC 4, .northSouth),
    (combine .GPGGA 3, .northSouth),
    (combine .GPRMC 5, .longitude),
    (combine .GPGGA 4, .longitude),
    (combine .GPRMC 6, .eastWest),
    (combine .GPGGA 5, .eastWest),
    (combine .GPRMC 7, .speed),
    (combine .GPRMC 8, .course),
    (combine .GPRMC 9, .date),
    (combine .GPGGA 6, .fixData),
    (combine .GPGGA 7, .satellites),
    (combine .GPGGA 8, .hdop),
    (combine .GPGGA 9, .altitude)]

/- The label that the current term goes to. -/
def Parsing.label? (parsing : Parsing) : Option Term :=
  labels.lookup
    (combine parsing.curSentenceType
      parsing.curTermNumber.toNat)

/- The `switch` over the terms. -/
def assign : TinyGPSPlus :=
  let term := gps.parsing.text
  let first := gps.parsing.first
  match gps.parsing.label? with
  | none => gps
  | some .time =>
      { gps with time := gps.time.setTime term }
  | some .validity =>
      { gps with
        parsing :=
          { gps.parsing with
            sentenceHasFix := first = ascii 'A' } }
  | some .latitude =>
      { gps with location := gps.location.setLatitude term }
  | some .northSouth =>
      { gps with
        location :=
          { gps.location with
            rawNewLatData :=
              { gps.location.rawNewLatData with
                negative := first = ascii 'S' } } }
  | some .longitude =>
      { gps with
        location := gps.location.setLongitude term }
  | some .eastWest =>
      { gps with
        location :=
          { gps.location with
            rawNewLngData :=
              { gps.location.rawNewLngData with
                negative := first = ascii 'W' } } }
  | some .speed => { gps with speed := gps.speed.set term }
  | some .course =>
      { gps with course := gps.course.set term }
  | some .date =>
      { gps with date := gps.date.setDate term }
  | some .fixData =>
      { gps with
        parsing :=
          { gps.parsing with
            sentenceHasFix := ascii '0' < first } }
  | some .satellites =>
      { gps with satellites := gps.satellites.set term }
  | some .hdop => { gps with hdop := gps.hdop.set term }
  | some .altitude =>
      { gps with altitude := gps.altitude.set term }

/- The `switch` over the sentences, once the sum is right. -/
def commitSentence : TinyGPSPlus :=
  match gps.parsing.curSentenceType with
  | .GPRMC =>
      let gps :=
        { gps with
          date := gps.date.commit
          time := gps.time.commit }
      if gps.parsing.sentenceHasFix then
        { gps with
          location := gps.location.commit
          speed := gps.speed.commit
          course := gps.course.commit }
      else
        gps
  | .GPGGA =>
      let gps := { gps with time := gps.time.commit }
      let gps :=
        if gps.parsing.sentenceHasFix then
          { gps with
            location := gps.location.commit
            altitude := gps.altitude.commit }
        else
          gps
      { gps with
        satellites := gps.satellites.commit
        hdop := gps.hdop.commit }
  | .OTHER => gps

/- The checksum that the term spells in two digits. -/
def Parsing.checksum (parsing : Parsing) : Byte :=
  BitVec.ofInt 8
    (16 * fromHex parsing.first + fromHex parsing.term[1])

/- The sentence type that the first term spells. -/
def sentenceType (term : List Byte) : SentenceType :=
  if term = literal "GPRMC" ∨ term = literal "GNRMC" then
    .GPRMC
  else if
      term = literal "GPGGA" ∨ term = literal "GNGGA" then
    .GPGGA
  else
    .OTHER

def endOfTermHandler : Bool × TinyGPSPlus :=
  if gps.parsing.isChecksumTerm then
    if gps.parsing.checksum = gps.parsing.parity then
      let gps :=
        { gps with
          passedChecksumCount :=
            gps.passedChecksumCount + 1
          sentencesWithFixCount :=
            if gps.parsing.sentenceHasFix then
              gps.sentencesWithFixCount + 1
            else
              gps.sentencesWithFixCount }
      (true, commitSentence gps)
    else
      (false,
        { gps with
          failedChecksumCount :=
            gps.failedChecksumCount + 1 })
  else if gps.parsing.curTermNumber = 0 then
    (false,
      { gps with
        parsing :=
          { gps.parsing with
            curSentenceType :=
              sentenceType gps.parsing.text } })
  else if gps.parsing.curSentenceType ≠ .OTHER ∧
      gps.parsing.first ≠ 0 then
    (false, assign gps)
  else
    (false, gps)

------------------------------------------------------------
-- Bytes
------------------------------------------------------------

/- The bytes that end a term. -/
def isTerminator (c : Byte) : Bool :=
  c ∈ literal ",\x0d\n*"

/- A term terminator, after the parity has been updated. -/
def terminate (c : Byte) : Bool × TinyGPSPlus :=
  let (isValidSentence, gps) :=
    if gps.parsing.curTermOffset < 15 then
      endOfTermHandler
        { gps with
          parsing :=
            { gps.parsing with
              term :=
                gps.parsing.term.setIfInBounds
                  gps.parsing.curTermOffset 0 } }
    else
      (false, gps)
  (isValidSentence,
    { gps with
      parsing :=
        { gps.parsing with
          curTermNumber := gps.parsing.curTermNumber + 1
          curTermOffset := 0
          isChecksumTerm := c = ascii '*' } })

/- The beginning of a sentence. -/
def Parsing.begin (parsing : Parsing) : Parsing :=
  { parsing with
    curTermNumber := 0
    curTermOffset := 0
    parity := 0
    curSentenceType := .OTHER
    isChecksumTerm := false
    sentenceHasFix := false }

/- An ordinary character. -/
def Parsing.ordinary
    (parsing : Parsing)
    (c : Byte) : Parsing :=
  let parsing :=
    if parsing.curTermOffset < 14 then
      { parsing with
        term :=
          parsing.term.setIfInBounds
            parsing.curTermOffset c
        curTermOffset := parsing.curTermOffset + 1 }
    else
      parsing
  { parsing with
    parity :=
      if parsing.isChecksumTerm then
        parsing.parity
      else
        parsing.parity ^^^ c }

def encode (c : Byte) : Bool × TinyGPSPlus :=
  let gps :=
    { gps with
      encodedCharCount := gps.encodedCharCount + 1 }
  if isTerminator c then
    let gps :=
      { gps with
        parsing :=
          { gps.parsing with
            parity :=
              if c = ascii ',' then
                gps.parsing.parity ^^^ c
              else
                gps.parsing.parity } }
    terminate gps c
  else if c = ascii '$' then
    (false, { gps with parsing := gps.parsing.begin })
  else
    (false, { gps with parsing := gps.parsing.ordinary c })

/- The object after a list of bytes. -/
def feed (bytes : List Byte) : TinyGPSPlus :=
  bytes.foldl (fun gps c => (encode gps c).2) gps

end Gps

end LoRaTelemetry
