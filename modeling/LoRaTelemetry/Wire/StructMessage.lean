import LoRaTelemetry.Library.LittleEndian
import LoRaTelemetry.Library.StructLayout

/-
  The packet structures of the two sketches and the raw
  bytes they occupy on the ESP32.

  Machine types are bit vectors: a 32-bit `int` or `long` is
  read with `BitVec.toInt`, an `unsigned long` with
  `BitVec.toNat`, and a `float` is its bit pattern. A `bool`
  is its byte, which is copied as it is: 1 for true, 0 for
  false, and after a raw copy whatever was received.

  Main declarations:
    * `Master.StructMessage`
    * `Slave.StructMessage`
    * `Slave.StructMessage.ofBytes_master_bytes`
    * `Slave.StructMessage.ofBytes_bytes`
    * `Master.StructMessage.ofBytes_slave_bytes`
-/

------------------------------------------------------------
-- Scalar Types
------------------------------------------------------------

namespace LoRaTelemetry

abbrev Byte := BitVec 8

abbrev CInt := BitVec 32

abbrev CLong := BitVec 32

abbrev ULong := BitVec 32

abbrev CFloat := BitVec 32

/- Packet and link codes, declared alike in both sketches. -/
def msgTypeCheckStatus : Byte := 0x01

def msgTypeCommand : Byte := 0x02

def msgTypeTelemtry : Byte := 0x03

def comTypeLoRa : Byte := 0x01

namespace CType

open StructLayout

def int : Scalar := ⟨4, 4⟩

def unsignedLong : Scalar := ⟨4, 4⟩

def float : Scalar := ⟨4, 4⟩

def byte : Scalar := ⟨1, 1⟩

def bool : Scalar := ⟨1, 1⟩

/- The object representation of a four-byte scalar. -/
def wordBytes (word : BitVec 32) : List Byte :=
  LittleEndian.encode 4 word.toNat

def wordOfBytes (bytes : List Byte) : BitVec 32 :=
  BitVec.ofNat 32 (LittleEndian.decode bytes)

def octetBytes (octet : Byte) : List Byte :=
  LittleEndian.encode 1 octet.toNat

def octetOfBytes (bytes : List Byte) : Byte :=
  BitVec.ofNat 8 (LittleEndian.decode bytes)

@[simp] theorem wordOfBytes_wordBytes
    (word : BitVec 32) :
    wordOfBytes (wordBytes word) = word := by
  exact
    LittleEndian.word_decode_encode (by norm_num) word

@[simp] theorem octetOfBytes_octetBytes
    (octet : Byte) :
    octetOfBytes (octetBytes octet) = octet := by
  exact
    LittleEndian.word_decode_encode (by norm_num) octet

/- The first byte of a word. -/
theorem octetOfBytes_take_wordBytes
    (word : BitVec 32)
    (rest : List Byte) :
    octetOfBytes ((wordBytes word ++ rest).take 1) =
      word.setWidth 8 := by
  have hTake :
      (wordBytes word ++ rest).take 1 =
        LittleEndian.encode 1 word.toNat := by
    rw [List.take_append_of_le_length (by
      simp [wordBytes])]
    exact LittleEndian.take_encode (by norm_num) word.toNat
  apply BitVec.eq_of_toNat_eq
  rw [hTake, octetOfBytes, LittleEndian.decode_encode]
  simp

/- A byte and three zero bytes, read as a word. -/
theorem wordOfBytes_octetBytes_zeros
    (octet : Byte) :
    wordOfBytes (octetBytes octet ++ [0#8, 0#8, 0#8]) =
      octet.setWidth 32 := by
  have hZeros :=
    LittleEndian.decode_append_zeros (octetBytes octet) 3
  have hFits := octet.isLt
  simp only [List.replicate] at hZeros
  apply BitVec.eq_of_toNat_eq
  rw [wordOfBytes, hZeros, octetBytes,
    LittleEndian.decode_encode, BitVec.toNat_ofNat,
    BitVec.toNat_setWidth]
  omega

end CType

------------------------------------------------------------
-- Common Members
------------------------------------------------------------

open CType StructLayout

/- The types both structures declare before `ledStatus`. -/
def leadingTypes : List Scalar :=
  [int, int, byte, int, byte, unsignedLong, float, float,
    float]

/- The members before `ledStatus`, in declaration order. -/
def leadingMembers
    (nodeID RXnodeID : CInt)
    (msgType : Byte)
    (msgID : CInt)
    (iCommType : Byte)
    (timeStamp : ULong)
    (tempAir latitudeGPS longitudeGPS : CFloat) :
    List Member :=
  [(int, wordBytes nodeID),
    (int, wordBytes RXnodeID),
    (byte, octetBytes msgType),
    (int, wordBytes msgID),
    (byte, octetBytes iCommType),
    (unsignedLong, wordBytes timeStamp),
    (float, wordBytes tempAir),
    (float, wordBytes latitudeGPS),
    (float, wordBytes longitudeGPS)]

section

variable (nodeID RXnodeID : CInt)
variable (msgType : Byte)
variable (msgID : CInt)
variable (iCommType : Byte)
variable (timeStamp : ULong)
variable (tempAir latitudeGPS longitudeGPS : CFloat)

theorem leadingMembers_types :
    (leadingMembers nodeID RXnodeID msgType msgID iCommType
      timeStamp tempAir latitudeGPS longitudeGPS).map
        Prod.fst =
      leadingTypes := by
  rfl

theorem leadingMembers_sized :
    Sized
      (leadingMembers nodeID RXnodeID msgType msgID
        iCommType timeStamp tempAir latitudeGPS
        longitudeGPS) := by
  intro member hMember
  simp only [leadingMembers, List.mem_cons,
    List.not_mem_nil, or_false] at hMember
  rcases hMember with rfl | rfl | rfl | rfl | rfl | rfl |
    rfl | rfl | rfl <;>
    exact LittleEndian.length_encode _ _

/- The image of the common members and one last member. -/
theorem length_image_leadingMembers
    (last : Scalar)
    (bytes : List Byte)
    (hLast : bytes.length = last.size) :
    (image
      (leadingMembers nodeID RXnodeID msgType msgID
        iCommType timeStamp tempAir latitudeGPS
        longitudeGPS ++ [(last, bytes)])).length =
      StructLayout.sizeOf (leadingTypes ++ [last]) := by
  have hSized :
      Sized
        (leadingMembers nodeID RXnodeID msgType msgID
          iCommType timeStamp tempAir latitudeGPS
          longitudeGPS ++ [(last, bytes)]) := by
    intro member hMember
    rcases List.mem_append.mp hMember with hHead | hTail
    · exact leadingMembers_sized _ _ _ _ _ _ _ _ _ _ hHead
    · rw [List.mem_singleton] at hTail
      subst hTail
      exact hLast
  rw [length_image _ hSized, List.map_append,
    leadingMembers_types]
  rfl

end

------------------------------------------------------------
-- The Master's Structure
------------------------------------------------------------

namespace Master

/- `struct_message` of the master sketch. -/
structure StructMessage where
  nodeID : CInt := 0
  RXnodeID : CInt := 0
  msgType : Byte := 0
  msgID : CInt := 0
  iCommType : Byte := 0
  timeStamp : ULong := 0
  tempAir : CFloat := 0
  latitudeGPS : CFloat := 0
  longitudeGPS : CFloat := 0
  ledStatus : CInt := 0
deriving DecidableEq, Repr

/- The member types, in declaration order. -/
def layout : List Scalar :=
  [int, int, byte, int, byte, unsignedLong, float, float,
    float, int]

namespace StructMessage

/- The members before `ledStatus`. -/
def leading (packet : StructMessage) : List Member :=
  leadingMembers packet.nodeID packet.RXnodeID
    packet.msgType packet.msgID packet.iCommType
    packet.timeStamp packet.tempAir packet.latitudeGPS
    packet.longitudeGPS

/- The bytes of a packet with zero padding. -/
def bytes (packet : StructMessage) : List Byte :=
  image
    (packet.leading ++ [(int, wordBytes packet.ledStatus)])

/- The packet stored in raw bytes. -/
def ofBytes (raw : List Byte) : StructMessage :=
  let field := fun index =>
    (read 0 layout raw).getD index []
  { nodeID := wordOfBytes (field 0)
    RXnodeID := wordOfBytes (field 1)
    msgType := octetOfBytes (field 2)
    msgID := wordOfBytes (field 3)
    iCommType := octetOfBytes (field 4)
    timeStamp := wordOfBytes (field 5)
    tempAir := wordOfBytes (field 6)
    latitudeGPS := wordOfBytes (field 7)
    longitudeGPS := wordOfBytes (field 8)
    ledStatus := wordOfBytes (field 9) }

end StructMessage

end Master

------------------------------------------------------------
-- The Slave's Structure
------------------------------------------------------------

namespace Slave

/- `struct_message` of the slave sketch. -/
structure StructMessage where
  nodeID : CInt := 0
  RXnodeID : CInt := 0
  msgType : Byte := 0
  msgID : CInt := 0
  iCommType : Byte := 0
  timeStamp : ULong := 0
  tempAir : CFloat := 0
  latitudeGPS : CFloat := 0
  longitudeGPS : CFloat := 0
  ledStatus : Byte := 0
deriving DecidableEq, Repr

/- The member types, in declaration order. -/
def layout : List Scalar :=
  [int, int, byte, int, byte, unsignedLong, float, float,
    float, bool]

namespace StructMessage

/- The members before `ledStatus`. -/
def leading (packet : StructMessage) : List Member :=
  leadingMembers packet.nodeID packet.RXnodeID
    packet.msgType packet.msgID packet.iCommType
    packet.timeStamp packet.tempAir packet.latitudeGPS
    packet.longitudeGPS

/- The bytes of a packet with zero padding. -/
def bytes (packet : StructMessage) : List Byte :=
  image
    (packet.leading ++
      [(bool, octetBytes packet.ledStatus)])

/- The packet stored in raw bytes. -/
def ofBytes (raw : List Byte) : StructMessage :=
  let field := fun index =>
    (read 0 layout raw).getD index []
  { nodeID := wordOfBytes (field 0)
    RXnodeID := wordOfBytes (field 1)
    msgType := octetOfBytes (field 2)
    msgID := wordOfBytes (field 3)
    iCommType := octetOfBytes (field 4)
    timeStamp := wordOfBytes (field 5)
    tempAir := wordOfBytes (field 6)
    latitudeGPS := wordOfBytes (field 7)
    longitudeGPS := wordOfBytes (field 8)
    ledStatus := octetOfBytes (field 9) }

end StructMessage

end Slave

------------------------------------------------------------
-- Sizes
------------------------------------------------------------

/- `sizeof(struct_message)` of the two sketches. -/
def structSize : Nat :=
  StructLayout.sizeOf Master.layout

theorem structSize_eq_slave :
    structSize = StructLayout.sizeOf Slave.layout := by
  decide

@[simp] theorem Master.StructMessage.length_bytes
    (packet : Master.StructMessage) :
    packet.bytes.length = structSize := by
  exact
    length_image_leadingMembers _ _ _ _ _ _ _ _ _ int
      (wordBytes packet.ledStatus)
      (LittleEndian.length_encode _ _)

@[simp] theorem Slave.StructMessage.length_bytes
    (packet : Slave.StructMessage) :
    packet.bytes.length = structSize := by
  rw [structSize_eq_slave]
  exact
    length_image_leadingMembers _ _ _ _ _ _ _ _ _
      CType.bool (octetBytes packet.ledStatus)
      (LittleEndian.length_encode _ _)

------------------------------------------------------------
-- Reading a Packet from Its Bytes
------------------------------------------------------------

/- A master packet with the values a slave reads from it. -/
def Master.StructMessage.asSlave
    (packet : Master.StructMessage) :
    Slave.StructMessage :=
  { nodeID := packet.nodeID
    RXnodeID := packet.RXnodeID
    msgType := packet.msgType
    msgID := packet.msgID
    iCommType := packet.iCommType
    timeStamp := packet.timeStamp
    tempAir := packet.tempAir
    latitudeGPS := packet.latitudeGPS
    longitudeGPS := packet.longitudeGPS
    ledStatus := packet.ledStatus.setWidth 8 }

/- A slave packet with the values the master reads from it. -/
def Slave.StructMessage.asMaster
    (packet : Slave.StructMessage) :
    Master.StructMessage :=
  { nodeID := packet.nodeID
    RXnodeID := packet.RXnodeID
    msgType := packet.msgType
    msgID := packet.msgID
    iCommType := packet.iCommType
    timeStamp := packet.timeStamp
    tempAir := packet.tempAir
    latitudeGPS := packet.latitudeGPS
    longitudeGPS := packet.longitudeGPS
    ledStatus := packet.ledStatus.setWidth 32 }

namespace Slave.StructMessage

theorem layout_eq : layout = leadingTypes ++ [CType.bool] := by
  rfl

/-
  A slave cuts one byte out of the four that the master
  wrote for `ledStatus`; the other members line up.
-/
theorem ofBytes_master_bytes
    (packet : Master.StructMessage)
    (rest : List Byte) :
    ofBytes (packet.bytes ++ rest) = packet.asSlave := by
  have hPad :
      padTo CType.bool.align (finish 0 leadingTypes) =
        padTo int.align (finish 0 leadingTypes) := by
    decide
  have hRead :=
    fun tail =>
      read_write_last 0 packet.leading int CType.bool
        (wordBytes packet.ledStatus) tail
        (leadingMembers_sized _ _ _ _ _ _ _ _ _) hPad
  have hOne : CType.bool.size = 1 := rfl
  simp only [Master.StructMessage.leading,
    leadingMembers_types, hOne] at hRead
  simp only [ofBytes, Master.StructMessage.bytes,
    Master.StructMessage.leading, image,
    List.append_assoc, layout_eq, hRead]
  simp [leadingMembers, octetOfBytes_take_wordBytes,
    Master.StructMessage.asSlave]

/- A slave reads another slave's packet as it was written. -/
theorem ofBytes_bytes
    (packet : StructMessage)
    (rest : List Byte) :
    ofBytes (packet.bytes ++ rest) = packet := by
  have hRead :=
    fun tail =>
      read_write_last 0 packet.leading CType.bool
        CType.bool (octetBytes packet.ledStatus) tail
        (leadingMembers_sized _ _ _ _ _ _ _ _ _) rfl
  have hByte :
      ∀ tail,
        (octetBytes packet.ledStatus ++ tail).take
            CType.bool.size =
          octetBytes packet.ledStatus := by
    intro tail
    exact List.take_left' (LittleEndian.length_encode _ _)
  simp only [leading, leadingMembers_types, hByte] at hRead
  simp only [ofBytes, bytes, leading, image,
    List.append_assoc, layout_eq, hRead]
  simp [leadingMembers]

end Slave.StructMessage

/-
  The master reads the slave's `ledStatus` byte together
  with the three padding bytes after it.
-/
theorem Master.StructMessage.ofBytes_slave_bytes
    (packet : Slave.StructMessage)
    (rest : List Byte) :
    ofBytes (packet.bytes ++ rest) = packet.asMaster := by
  have hLayout :
      Master.layout = leadingTypes ++ [int] := by
    rfl
  have hPad :
      padTo int.align (finish 0 leadingTypes) =
        padTo CType.bool.align (finish 0 leadingTypes) := by
    decide
  have hRead :=
    fun tail =>
      read_write_last 0 packet.leading CType.bool int
        (octetBytes packet.ledStatus) tail
        (leadingMembers_sized _ _ _ _ _ _ _ _ _) hPad
  have hTrailing :
      padTo (alignOf (leadingTypes ++ [CType.bool]))
          (finish 0 (leadingTypes ++ [CType.bool])) = 3 := by
    decide
  have hWord :
      (octetBytes packet.ledStatus ++
          (List.replicate 3 0#8 ++ rest)).take int.size =
        octetBytes packet.ledStatus ++
          List.replicate 3 0#8 := by
    rw [← List.append_assoc]
    exact List.take_left' (by
      simp [octetBytes, int])
  simp only [Slave.StructMessage.leading,
    leadingMembers_types] at hRead
  simp only [ofBytes, Slave.StructMessage.bytes,
    Slave.StructMessage.leading, image, List.append_assoc,
    List.map_append, leadingMembers_types, List.map_cons,
    List.map_nil, hTrailing, hLayout, hRead, hWord]
  simp [leadingMembers, wordOfBytes_octetBytes_zeros,
    Slave.StructMessage.asMaster]

/- The master reads its own packet as it was written. -/
theorem Master.StructMessage.ofBytes_bytes
    (packet : Master.StructMessage)
    (rest : List Byte) :
    ofBytes (packet.bytes ++ rest) = packet := by
  have hLayout :
      Master.layout = leadingTypes ++ [int] := by
    rfl
  have hRead :=
    fun tail =>
      read_write_last 0 packet.leading int int
        (wordBytes packet.ledStatus) tail
        (leadingMembers_sized _ _ _ _ _ _ _ _ _) rfl
  have hWord :
      ∀ tail,
        (wordBytes packet.ledStatus ++ tail).take int.size =
          wordBytes packet.ledStatus := by
    intro tail
    exact List.take_left' (LittleEndian.length_encode _ _)
  simp only [leading, leadingMembers_types, hWord] at hRead
  simp only [ofBytes, bytes, leading, image,
    List.append_assoc, hLayout, hRead]
  simp [leadingMembers]

end LoRaTelemetry
