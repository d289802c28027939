import LoRaTelemetry.Library.Texts
import LoRaTelemetry.Master.Sketch
import Mathlib.Data.List.TakeWhile

/-
  The body that `postDataToServer` posts, and how it is read
  back.

  Arduino's `String` renders integers in decimal. The text
  that it makes of a float is a parameter; it consists of
  plain characters.

  Main declarations:
    * `Master.finalStr`
    * `Master.postField`
    * `Master.Decodes`
    * `Master.RoundTrip`
    * `Master.postField_roundTrip`
-/

------------------------------------------------------------
-- The Body
------------------------------------------------------------

namespace LoRaTelemetry

namespace Master

/- `String(value, places)` on a float. -/
abbrev FloatText := CFloat → Nat → List Char

/- What `String` makes of floats: plain, nonempty texts. -/
structure FloatText.Plain (floatText : FloatText) : Prop where
  nonempty :
    ∀ value places, floatText value places ≠ []
  plain :
    ∀ value places, Texts.Plain (floatText value places)

/- The concatenation that `postDataToServer` makes. -/
def finalStr
    (floatText : FloatText)
    (record : Record) : List Char :=
  let nodeIDString :=
    "&nodeID=".toList ++ Texts.decimal record.nodeID.toInt
  let GPSString :=
    "&GPS=".toList ++ floatText record.latitudeGPS 6 ++
      ",".toList ++ floatText record.longitudeGPS 6
  let timeStampString :=
    "&timeStamp=".toList ++
      Texts.decimal record.timeStamp.toNat
  let tempAirString :=
    "&tempAir=".toList ++ floatText record.tempAir 2
  let iCommTypeString :=
    "&iCommType=".toList ++
      Texts.decimal record.iCommType.toNat
  let msgIDString :=
    "&msgID=".toList ++ Texts.decimal record.msgID.toInt
  let ledStatusString :=
    "&ledStatus=".toList ++
      Texts.decimal record.ledStatus.toInt
  nodeIDString ++ iCommTypeString ++ timeStampString ++
    tempAirString ++ GPSString ++ msgIDString ++
    ledStatusString

def nul : Char := Char.ofNat 0

/- What `strcpy` copies: everything before the first NUL. -/
def strcpy (text : List Char) : List Char :=
  text.takeWhile (· != nul)

def strlen (text : List Char) : Nat :=
  (text.takeWhile (· != nul)).length

/- The arguments of `esp_http_client_set_post_field`. -/
structure PostField where
  post_data : List Char
  length : Nat

/- What `postDataToServer` passes for the record it reads. -/
def postField
    (floatText : FloatText)
    (record : Record) : PostField :=
  let post_data := strcpy (finalStr floatText record)
  { post_data := post_data
    length := strlen post_data }

------------------------------------------------------------
-- Keys and Values
------------------------------------------------------------

/- The texts of the values in a body, by their keys. -/
structure BodyValues where
  nodeID : List Char
  iCommType : List Char
  timeStamp : List Char
  tempAir : List Char
  GPS : List Char
  msgID : List Char
  ledStatus : List Char

/- The keys, in the order of the body. -/
def keys : List (List Char) :=
  ["nodeID".toList, "iCommType".toList,
    "timeStamp".toList, "tempAir".toList, "GPS".toList,
    "msgID".toList, "ledStatus".toList]

namespace BodyValues

def texts (values : BodyValues) : List (List Char) :=
  [values.nodeID, values.iCommType, values.timeStamp,
    values.tempAir, values.GPS, values.msgID,
    values.ledStatus]

/- Each key with its value. -/
def fields
    (values : BodyValues) : List (List Char × List Char) :=
  keys.zip values.texts

end BodyValues

/- The values that a record is posted with. -/
def Record.values
    (floatText : FloatText)
    (record : Record) : BodyValues :=
  { nodeID := Texts.decimal record.nodeID.toInt
    iCommType := Texts.decimal record.iCommType.toNat
    timeStamp := Texts.decimal record.timeStamp.toNat
    tempAir := floatText record.tempAir 2
    GPS :=
      floatText record.latitudeGPS 6 ++
        ',' :: floatText record.longitudeGPS 6
    msgID := Texts.decimal record.msgID.toInt
    ledStatus := Texts.decimal record.ledStatus.toInt }

/- A key, one `=` and a value. -/
def piece (field : List Char × List Char) : List Char :=
  field.1 ++ '=' :: field.2

variable (floatText : FloatText) (record : Record)

/- The body is its pieces, each after a `&`. -/
theorem finalStr_eq :
    finalStr floatText record =
      ((record.values floatText).fields.map
        piece).flatMap fun piece => '&' :: piece := by
  have hNodeID :
      "&nodeID=".toList = '&' :: ("nodeID".toList ++ ['='])
      := by decide
  have hICommType :
      "&iCommType=".toList =
        '&' :: ("iCommType".toList ++ ['=']) := by decide
  have hTimeStamp :
      "&timeStamp=".toList =
        '&' :: ("timeStamp".toList ++ ['=']) := by decide
  have hTempAir :
      "&tempAir=".toList =
        '&' :: ("tempAir".toList ++ ['=']) := by decide
  have hGPS :
      "&GPS=".toList = '&' :: ("GPS".toList ++ ['=']) := by
    decide
  have hMsgID :
      "&msgID=".toList = '&' :: ("msgID".toList ++ ['='])
      := by decide
  have hLedStatus :
      "&ledStatus=".toList =
        '&' :: ("ledStatus".toList ++ ['=']) := by decide
  have hComma : ",".toList = [','] := by decide
  unfold finalStr
  simp only [hNodeID, hICommType, hTimeStamp, hTempAir,
    hGPS, hMsgID, hLedStatus, hComma]
  simp only [BodyValues.fields, BodyValues.texts,
    Record.values, keys, piece, List.zip_cons_cons,
    List.zip_nil_right, List.map_cons, List.map_nil,
    List.flatMap_cons, List.flatMap_nil, List.cons_append,
    List.nil_append, List.append_assoc, List.append_nil]

/- Plain characters, and the comma between coordinates. -/
def isValue (character : Char) : Bool :=
  Texts.isPlain character || character == ','

theorem keys_isValue :
    ∀ key ∈ keys, ∀ character ∈ key,
      isValue character = true := by
  have hAll : ∀ key ∈ keys, key.all isValue = true := by
    decide
  intro key hKey
  exact List.all_eq_true.mp (hAll key hKey)

theorem isValue_of_plain
    {text : List Char}
    (hPlain : Texts.Plain text)
    {character : Char}
    (hMember : character ∈ text) :
    isValue character = true := by
  rw [isValue, hPlain character hMember, Bool.true_or]

variable {floatText}

/- The values of a record contain no separator, no NUL. -/
theorem texts_isValue
    (hFloats : floatText.Plain)
    {text : List Char}
    (hText : text ∈ (record.values floatText).texts) :
    (∀ character ∈ text, isValue character = true) ∧
      text ≠ [] := by
  have hDecimal :
      ∀ value : Int,
        (∀ character ∈ Texts.decimal value,
            isValue character = true) ∧
          Texts.decimal value ≠ [] := by
    intro value
    exact
      ⟨fun _ => isValue_of_plain (Texts.plain_decimal value),
        Texts.decimal_ne_nil value⟩
  simp only [BodyValues.texts, Record.values,
    List.mem_cons, List.not_mem_nil, or_false] at hText
  rcases hText with
    rfl | rfl | rfl | rfl | rfl | rfl | rfl
  · exact hDecimal record.nodeID.toInt
  · exact hDecimal record.iCommType.toNat
  · exact hDecimal record.timeStamp.toNat
  · exact
      ⟨fun _ => isValue_of_plain (hFloats.plain _ _),
        hFloats.nonempty _ _⟩
  · refine ⟨?_, by simp⟩
    intro character hMember
    rw [List.mem_append, List.mem_cons] at hMember
    rcases hMember with hFirst | rfl | hSecond
    · exact isValue_of_plain (hFloats.plain _ _) hFirst
    · decide
    · exact isValue_of_plain (hFloats.plain _ _) hSecond
  · exact hDecimal record.msgID.toInt
  · exact hDecimal record.ledStatus.toInt

/- Nor do the keys and values of its fields. -/
theorem fields_isValue
    (hFloats : floatText.Plain)
    {field : List Char × List Char}
    (hField :
      field ∈ (record.values floatText).fields) :
    (∀ character ∈ field.1, isValue character = true) ∧
      (∀ character ∈ field.2,
        isValue character = true) ∧
      field.2 ≠ [] := by
  have hBoth := List.of_mem_zip hField
  exact
    ⟨keys_isValue field.1 hBoth.1,
      texts_isValue record hFloats hBoth.2⟩

------------------------------------------------------------
-- Reading the Body Back
------------------------------------------------------------

/-
  A body that splits into the seven pieces, each a key and a
  nonempty value around its only `=`, whose values show the
  record.
-/
structure Decodes
    (floatText : FloatText)
    (record : Record)
    (post_data : List Char)
    (values : BodyValues) : Prop where
  pieces :
    post_data.splitOn '&' = [] :: values.fields.map piece
  keyed :
    ∀ field ∈ values.fields,
      (piece field).splitOn '=' = [field.1, field.2] ∧
        field.2 ≠ []
  nodeID :
    Texts.parse? values.nodeID = some record.nodeID.toInt
  iCommType :
    Texts.parse? values.iCommType =
      some (record.iCommType.toNat : Int)
  timeStamp :
    Texts.parse? values.timeStamp =
      some (record.timeStamp.toNat : Int)
  tempAir : values.tempAir = floatText record.tempAir 2
  GPS :
    values.GPS.splitOn ',' =
      [floatText record.latitudeGPS 6,
        floatText record.longitudeGPS 6]
  msgID :
    Texts.parse? values.msgID = some record.msgID.toInt
  ledStatus :
    Texts.parse? values.ledStatus =
      some record.ledStatus.toInt

variable (floatText)

/-
  The body can be read back, it determines the five integer
  fields, and it is passed with its whole length.
-/
structure RoundTrip : Prop where
  decodes :
    ∃ values,
      Decodes floatText record
        (postField floatText record).post_data values
  injective :
    ∀ other : Record,
      (postField floatText other).post_data =
          (postField floatText record).post_data →
        other.nodeID = record.nodeID ∧
          other.iCommType = record.iCommType ∧
          other.timeStamp = record.timeStamp ∧
          other.msgID = record.msgID ∧
          other.ledStatus = record.ledStatus
  length :
    (postField floatText record).length =
      (finalStr floatText record).length

variable {floatText}

/- The body contains no NUL, so all of it is copied. -/
theorem postField_eq
    (hFloats : floatText.Plain) :
    postField floatText record =
      { post_data := finalStr floatText record
        length := (finalStr floatText record).length } := by
  have hChars :
      ∀ character ∈ finalStr floatText record,
        (character != nul) = true := by
    intro character hMember
    rw [finalStr_eq] at hMember
    rcases List.mem_flatMap.mp hMember with
      ⟨text, hText, hCharacter⟩
    rcases List.mem_map.mp hText with ⟨field, hField, rfl⟩
    rcases fields_isValue record hFloats hField with
      ⟨hKey, hValue, _⟩
    simp only [piece, List.mem_cons, List.mem_append]
      at hCharacter
    rw [bne_iff_ne]
    rintro rfl
    rcases hCharacter with hHere | hHere | hHere | hHere
    · exact absurd hHere (by decide)
    · exact absurd (hKey nul hHere) (by decide)
    · exact absurd hHere (by decide)
    · exact absurd (hValue nul hHere) (by decide)
  have hWhole :
      (finalStr floatText record).takeWhile (· != nul) =
        finalStr floatText record := by
    exact List.takeWhile_eq_self_iff.mpr hChars
  simp only [postField, strcpy, strlen, hWhole]

theorem decodes_finalStr
    (hFloats : floatText.Plain) :
    Decodes floatText record (finalStr floatText record)
      (record.values floatText) := by
  constructor
  case pieces =>
    rw [finalStr_eq, ← List.nil_append (List.flatMap _ _)]
    apply Texts.splitOn_pieces List.not_mem_nil
    intro text hText hSeparator
    rcases List.mem_map.mp hText with ⟨field, hField, rfl⟩
    rcases fields_isValue record hFloats hField with
      ⟨hKey, hValue, _⟩
    simp only [piece, List.mem_append, List.mem_cons]
      at hSeparator
    rcases hSeparator with hHere | hHere | hHere
    · exact absurd (hKey _ hHere) (by decide)
    · exact absurd hHere (by decide)
    · exact absurd (hValue _ hHere) (by decide)
  case keyed =>
    intro field hField
    rcases fields_isValue record hFloats hField with
      ⟨hKey, hValue, hNonempty⟩
    refine ⟨?_, hNonempty⟩
    apply Texts.splitOn_pair
    · intro hHere
      exact absurd (hKey _ hHere) (by decide)
    · intro hHere
      exact absurd (hValue _ hHere) (by decide)
  case tempAir => rfl
  case GPS =>
    apply Texts.splitOn_pair
    · exact (hFloats.plain _ _).not_mem (by decide)
    · exact (hFloats.plain _ _).not_mem (by decide)
  case nodeID =>
    exact Texts.parse?_decimal record.nodeID.toInt
  case iCommType =>
    exact Texts.parse?_decimal record.iCommType.toNat
  case timeStamp =>
    exact Texts.parse?_decimal record.timeStamp.toNat
  case msgID =>
    exact Texts.parse?_decimal record.msgID.toInt
  case ledStatus =>
    exact Texts.parse?_decimal record.ledStatus.toInt

/- What is read back is determined by the body. -/
theorem Decodes.integers_eq
    {record other : Record}
    {post_data : List Char}
    {values values' : BodyValues}
    (hDecodes :
      Decodes floatText record post_data values)
    (hDecodes' :
      Decodes floatText other post_data values') :
    other.nodeID = record.nodeID ∧
      other.iCommType = record.iCommType ∧
      other.timeStamp = record.timeStamp ∧
      other.msgID = record.msgID ∧
      other.ledStatus = record.ledStatus := by
  have hSame : values'.fields.map piece =
      values.fields.map piece := by
    have hPieces :=
      hDecodes'.pieces.symm.trans hDecodes.pieces
    exact (List.cons.inj hPieces).2
  have hValues : values' = values := by
    cases values'
    cases values
    simpa [BodyValues.fields, BodyValues.texts, keys, piece]
      using hSame
  subst hValues
  have hNodeID :=
    Option.some.inj
      (hDecodes'.nodeID.symm.trans hDecodes.nodeID)
  have hICommType :=
    Option.some.inj
      (hDecodes'.iCommType.symm.trans hDecodes.iCommType)
  have hTimeStamp :=
    Option.some.inj
      (hDecodes'.timeStamp.symm.trans hDecodes.timeStamp)
  have hMsgID :=
    Option.some.inj
      (hDecodes'.msgID.symm.trans hDecodes.msgID)
  have hLedStatus :=
    Option.some.inj
      (hDecodes'.ledStatus.symm.trans hDecodes.ledStatus)
  exact
    ⟨BitVec.toInt_inj.mp hNodeID,
      BitVec.toNat_inj.mp (Int.ofNat_inj.mp hICommType),
      BitVec.toNat_inj.mp (Int.ofNat_inj.mp hTimeStamp),
      BitVec.toInt_inj.mp hMsgID,
      BitVec.toInt_inj.mp hLedStatus⟩

theorem roundTrip_of_plain
    (hFloats : floatText.Plain) :
    RoundTrip floatText record := by
  have hDecodes := decodes_finalStr record hFloats
  constructor
  · rw [postField_eq record hFloats]
    exact ⟨_, hDecodes⟩
  · intro other hSame
    rw [postField_eq record hFloats,
      postField_eq other hFloats] at hSame
    have hOther := decodes_finalStr other hFloats
    simp only at hSame
    rw [hSame] at hOther
    exact hDecodes.integers_eq hOther
  · rw [postField_eq record hFloats]

/-
  For every record, whatever its floats are rendered as; and
  for what `postDataToServer` posts in any state, which are
  the members of `telemtryPacketRX`.
-/
theorem postField_roundTrip
    (hFloats : floatText.Plain) :
    RoundTrip floatText record ∧
      ∀ state : State,
        (postDataToServer state).Shows
            state.telemtryPacketRX.masterPacket ∧
          RoundTrip floatText (postDataToServer state) := by
  refine ⟨roundTrip_of_plain record hFloats, ?_⟩
  intro state
  exact
    ⟨postDataToServer_shows state,
      roundTrip_of_plain _ hFloats⟩

------------------------------------------------------------
-- One Record
------------------------------------------------------------

/- The texts of the floats in the master's own packets. -/
def sketchText : FloatText :=
  fun value _ =>
    if value = 0x422B1EB8 then
      "42.78".toList
    else if value = 0x419E490C then
      "19.785667".toList
    else if value = 0x41A56593 then
      "20.674597".toList
    else
      "nan".toList

theorem sketchText_plain : sketchText.Plain := by
  constructor
  · intro value places
    unfold sketchText
    split_ifs <;> decide
  · intro value places
    unfold sketchText
    split_ifs <;> decide

/- A record with those floats and negative integers. -/
def sampleRecord : Record :=
  { nodeID := -8
    iCommType := 255
    timeStamp := 4294967295
    tempAir := 0x422B1EB8
    latitudeGPS := 0x419E490C
    longitudeGPS := 0x41A56593
    msgID := 0x80000000
    ledStatus := 1 }

/- The hypothesis can be met. -/
theorem sampleRecord_roundTrip :
    RoundTrip sketchText sampleRecord ∧
      ∀ state : State,
        (postDataToServer state).Shows
            state.telemtryPacketRX.masterPacket ∧
          RoundTrip sketchText (postDataToServer state) := by
  exact postField_roundTrip sampleRecord sketchText_plain

end Master

end LoRaTelemetry
