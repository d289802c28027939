import LoRaTelemetry.Wire.StructMessage

/-
  The receive side of the `LoRaClass` driver and the packet
  buffers that `readBytes` fills.

  `Stream::readBytes` belongs to the Arduino core: it calls
  `read` until it has the requested count or `read` reports
  that nothing is left, and touches no byte beyond.

  Main declarations:
    * `Frame`
    * `PacketBuffer`
    * `PacketBuffer.receive`
    * `PacketBuffer.receive_bytes`
-/

------------------------------------------------------------
-- Frames and the Driver
------------------------------------------------------------

namespace LoRaTelemetry

/- `MAX_PKT_LENGTH` of the driver. -/
def maxPktLength : Nat := 255

/- A frame with a payload of 1 to 255 bytes. -/
structure Frame where
  bytes : List Byte
  nonempty : 0 < bytes.length
  fits : bytes.length ≤ maxPktLength
deriving DecidableEq, Repr

/-
  The driver while a packet is being read: the payload in
  the FIFO and `_packetIndex`.
-/
structure LoRa where
  fifo : List Byte
  packetIndex : Nat

namespace LoRa

/- A received packet is read from its first byte. -/
def opened (frame : Frame) : LoRa :=
  { fifo := frame.bytes
    packetIndex := 0 }

def available (radio : LoRa) : Nat :=
  radio.fifo.length - radio.packetIndex

/- `read` gives -1, here `none`, when nothing is left. -/
def read (radio : LoRa) : Option Byte × LoRa :=
  if radio.available = 0 then
    (none, radio)
  else
    (radio.fifo[radio.packetIndex]?,
      { radio with packetIndex := radio.packetIndex + 1 })

/- The bytes that `readBytes` copies for a request. -/
def readBytes : Nat → LoRa → List Byte
| 0, _ => []
| requested + 1, radio =>
    match radio.read with
    | (none, _) => []
    | (some byte, radio) =>
        byte :: readBytes requested radio

theorem readBytes_eq_take
    (requested : Nat)
    (radio : LoRa) :
    readBytes requested radio =
      (radio.fifo.drop radio.packetIndex).take
        requested := by
  induction requested generalizing radio with
  | zero => simp [readBytes]
  | succ requested ih =>
      by_cases hLeft :
          radio.packetIndex < radio.fifo.length
      · have hAvailable : radio.available ≠ 0 := by
          unfold available
          omega
        have hRead :
            radio.read =
              (some radio.fifo[radio.packetIndex],
                { radio with
                  packetIndex :=
                    radio.packetIndex + 1 }) := by
          simp [read, hAvailable, hLeft]
        rw [readBytes, hRead,
          List.drop_eq_getElem_cons hLeft,
          List.take_succ_cons]
        simp only
        rw [ih]
      · have hAvailable : radio.available = 0 := by
          unfold available
          omega
        have hRead : radio.read = (none, radio) := by
          simp [read, hAvailable]
        rw [readBytes, hRead,
          List.drop_eq_nil_of_le (by omega)]
        rfl

end LoRa

------------------------------------------------------------
-- Packet Buffers
------------------------------------------------------------

/- The storage of one `struct_message`. -/
structure PacketBuffer where
  bytes : List Byte
  length_bytes : bytes.length = structSize

namespace PacketBuffer

@[ext] theorem ext
    {left right : PacketBuffer}
    (hBytes : left.bytes = right.bytes) :
    left = right := by
  cases left
  cases right
  simpa using hBytes

/- A zero-initialised global. -/
def zero : PacketBuffer :=
  { bytes := List.replicate structSize 0#8
    length_bytes := List.length_replicate }

/- Bytes copied over the start of the buffer. -/
def overwrite
    (buffer : PacketBuffer)
    (copied : List Byte) : PacketBuffer :=
  let kept := copied.take structSize
  { bytes := kept ++ buffer.bytes.drop kept.length
    length_bytes := by
      have hLength := buffer.length_bytes
      simp only [kept, List.length_append,
        List.length_drop, List.length_take]
      omega }

/- `LoRa.readBytes` into the buffer, for its whole size. -/
def receive
    (buffer : PacketBuffer)
    (frame : Frame) : PacketBuffer :=
  buffer.overwrite
    (LoRa.readBytes structSize (LoRa.opened frame))

/- The frame covers the start, old bytes stay after it. -/
theorem receive_bytes
    (buffer : PacketBuffer)
    (frame : Frame) :
    (buffer.receive frame).bytes =
      frame.bytes.take structSize ++
        buffer.bytes.drop frame.bytes.length := by
  have hLength := buffer.length_bytes
  simp only [receive, overwrite, LoRa.readBytes_eq_take,
    LoRa.opened, List.drop_zero, List.take_take,
    Nat.min_self]
  congr 1
  by_cases hWhole : structSize ≤ frame.bytes.length
  · rw [List.drop_eq_nil_of_le (by
        rw [List.length_take]
        omega),
      List.drop_eq_nil_of_le (by omega)]
  · rw [List.length_take,
      Nat.min_eq_right (by omega)]

/- A whole frame leaves nothing of the old contents. -/
theorem receive_bytes_of_whole
    (buffer : PacketBuffer)
    {frame : Frame}
    (hWhole : structSize ≤ frame.bytes.length) :
    (buffer.receive frame).bytes =
      frame.bytes.take structSize := by
  rw [receive_bytes, List.drop_eq_nil_of_le (by
    rw [buffer.length_bytes]
    exact hWhole), List.append_nil]

end PacketBuffer

------------------------------------------------------------
-- Frames That Carry a Packet
------------------------------------------------------------

/- The frame that the master's `send` writes for a packet. -/
def Master.StructMessage.frame
    (packet : Master.StructMessage) : Frame :=
  { bytes := packet.bytes
    nonempty := by
      rw [packet.length_bytes]
      decide
    fits := by
      rw [packet.length_bytes]
      decide }

/- The frame that a slave's `send` writes for a packet. -/
def Slave.StructMessage.frame
    (packet : Slave.StructMessage) : Frame :=
  { bytes := packet.bytes
    nonempty := by
      rw [packet.length_bytes]
      decide
    fits := by
      rw [packet.length_bytes]
      decide }

@[simp] theorem Master.StructMessage.receive_frame
    (packet : Master.StructMessage)
    (buffer : PacketBuffer) :
    (buffer.receive packet.frame).bytes =
      packet.bytes := by
  rw [PacketBuffer.receive_bytes_of_whole buffer (by
    simp [frame])]
  exact List.take_of_length_le (by simp [frame])

@[simp] theorem Slave.StructMessage.receive_frame
    (packet : Slave.StructMessage)
    (buffer : PacketBuffer) :
    (buffer.receive packet.frame).bytes =
      packet.bytes := by
  rw [PacketBuffer.receive_bytes_of_whole buffer (by
    simp [frame])]
  exact List.take_of_length_le (by simp [frame])

/- The packet that the slave sees in a buffer. -/
def PacketBuffer.slavePacket
    (buffer : PacketBuffer) : Slave.StructMessage :=
  Slave.StructMessage.ofBytes buffer.bytes

/- The packet that the master sees in a buffer. -/
def PacketBuffer.masterPacket
    (buffer : PacketBuffer) : Master.StructMessage :=
  Master.StructMessage.ofBytes buffer.bytes

@[simp] theorem PacketBuffer.slavePacket_receive_master
    (buffer : PacketBuffer)
    (packet : Master.StructMessage) :
    (buffer.receive packet.frame).slavePacket =
      packet.asSlave := by
  have hRead :=
    Slave.StructMessage.ofBytes_master_bytes packet []
  simpa [slavePacket] using hRead

@[simp] theorem PacketBuffer.slavePacket_receive_slave
    (buffer : PacketBuffer)
    (packet : Slave.StructMessage) :
    (buffer.receive packet.frame).slavePacket =
      packet := by
  have hRead :=
    Slave.StructMessage.ofBytes_bytes packet []
  simpa [slavePacket] using hRead

@[simp] theorem PacketBuffer.masterPacket_receive_slave
    (buffer : PacketBuffer)
    (packet : Slave.StructMessage) :
    (buffer.receive packet.frame).masterPacket =
      packet.asMaster := by
  have hRead :=
    Master.StructMessage.ofBytes_slave_bytes packet []
  simpa [masterPacket] using hRead

end LoRaTelemetry
