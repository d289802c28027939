import LoRaTelemetry.Wire.Radio

/-
  Agreement of the two `struct_message` declarations over
  the air, in both directions.

  The layouts agree member by member except for `ledStatus`,
  an `int` at the master and a `bool` at the slave. A `bool`
  is true or false when its byte is 1 or 0; on other bytes
  the compiled sketch need not take it for either.

  Main declarations:
    * `boolByte`
    * `SlaveReads`
    * `MasterReads`
    * `wire_agreement_iff`
-/

------------------------------------------------------------
-- What Each Side Should Read
------------------------------------------------------------

namespace LoRaTelemetry

/- The byte of a `bool` with some value. -/
def boolByte (value : Bool) : Byte :=
  if value then 1 else 0

theorem exists_boolByte_iff
    (byte : Byte) :
    (∃ value, byte = boolByte value) ↔
      byte = 0 ∨ byte = 1 := by
  simp [boolByte]

/- The slave reads what the master sent. -/
structure SlaveReads
    (sent : Master.StructMessage)
    (got : Slave.StructMessage) : Prop where
  nodeID : got.nodeID = sent.nodeID
  RXnodeID : got.RXnodeID = sent.RXnodeID
  msgType : got.msgType = sent.msgType
  msgID : got.msgID = sent.msgID
  iCommType : got.iCommType = sent.iCommType
  timeStamp : got.timeStamp = sent.timeStamp
  tempAir : got.tempAir = sent.tempAir
  latitudeGPS : got.latitudeGPS = sent.latitudeGPS
  longitudeGPS : got.longitudeGPS = sent.longitudeGPS
  ledStatus :
    got.ledStatus = boolByte (sent.ledStatus ≠ 0)

/- The master reads what a slave sent. -/
structure MasterReads
    (sent : Slave.StructMessage)
    (got : Master.StructMessage) : Prop where
  nodeID : got.nodeID = sent.nodeID
  RXnodeID : got.RXnodeID = sent.RXnodeID
  msgType : got.msgType = sent.msgType
  msgID : got.msgID = sent.msgID
  iCommType : got.iCommType = sent.iCommType
  timeStamp : got.timeStamp = sent.timeStamp
  tempAir : got.tempAir = sent.tempAir
  latitudeGPS : got.latitudeGPS = sent.latitudeGPS
  longitudeGPS : got.longitudeGPS = sent.longitudeGPS
  ledStatus :
    ∃ value,
      sent.ledStatus = boolByte value ∧
        got.ledStatus = if value then 1 else 0

/-
  The master gets the byte of the slave's `bool` as it is,
  which need not be 0 or 1: a slave sends on what it got.
-/
theorem masterReads_asMaster_iff
    (packet : Slave.StructMessage) :
    MasterReads packet packet.asMaster ↔
      packet.ledStatus = 0 ∨ packet.ledStatus = 1 := by
  rw [← exists_boolByte_iff]
  constructor
  · intro hReads
    rcases hReads.ledStatus with ⟨value, hByte, _⟩
    exact ⟨value, hByte⟩
  · rintro ⟨value, hByte⟩
    refine
      ⟨rfl, rfl, rfl, rfl, rfl, rfl, rfl, rfl, rfl, value,
        hByte, ?_⟩
    rw [Slave.StructMessage.asMaster, hByte]
    cases value <;> rfl

/-
  The slave keeps only the low byte of `ledStatus`, so it
  misses the nonzero values whose low byte is not 1.
-/
theorem slaveReads_asSlave_iff
    (packet : Master.StructMessage) :
    SlaveReads packet packet.asSlave ↔
      packet.ledStatus = 0 ∨
        packet.ledStatus.toNat % 256 = 1 := by
  have hLow :
      packet.ledStatus.setWidth 8 = (1 : Byte) ↔
        packet.ledStatus.toNat % 256 = 1 := by
    rw [← BitVec.toNat_inj, BitVec.toNat_setWidth]
    rfl
  by_cases hOff : packet.ledStatus = 0
  · refine iff_of_true ?_ (Or.inl hOff)
    refine ⟨rfl, rfl, rfl, rfl, rfl, rfl, rfl, rfl, rfl, ?_⟩
    simp [Master.StructMessage.asSlave, boolByte, hOff]
  · have hByte :
        boolByte (packet.ledStatus ≠ 0) = 1 := by
      rw [decide_eq_true hOff]
      rfl
    rw [or_iff_right hOff, ← hLow]
    constructor
    · intro hReads
      exact hReads.ledStatus.trans hByte
    · intro hOne
      exact
        ⟨rfl, rfl, rfl, rfl, rfl, rfl, rfl, rfl, rfl,
          hOne.trans hByte.symm⟩

------------------------------------------------------------
-- Agreement over the Air
------------------------------------------------------------

/-
  Whatever the receive buffer held before: the two layouts
  have one size and the same member offsets, the slave reads
  a master packet correctly exactly when `ledStatus` is zero
  or has a low byte of 1, and the master reads a slave packet
  correctly exactly when its `bool` holds 0 or 1; it always
  reads the byte of it.
-/
theorem wire_agreement_iff
    (buffer : PacketBuffer)
    (order : Master.StructMessage)
    (report : Slave.StructMessage) :
    StructLayout.sizeOf Master.layout =
        StructLayout.sizeOf Slave.layout ∧
      StructLayout.offsets 0 Master.layout =
        StructLayout.offsets 0 Slave.layout ∧
      (SlaveReads order
          (buffer.receive order.frame).slavePacket ↔
        order.ledStatus = 0 ∨
          order.ledStatus.toNat % 256 = 1) ∧
      (MasterReads report
          (buffer.receive report.frame).masterPacket ↔
        report.ledStatus = 0 ∨ report.ledStatus = 1) ∧
      (buffer.receive
          report.frame).masterPacket.ledStatus =
        report.ledStatus.setWidth 32 := by
  refine ⟨by decide, by decide, ?_, ?_, ?_⟩
  · rw [PacketBuffer.slavePacket_receive_master]
    exact slaveReads_asSlave_iff order
  · rw [PacketBuffer.masterPacket_receive_slave]
    exact masterReads_asMaster_iff report
  · rw [PacketBuffer.masterPacket_receive_slave]
    rfl

/- A command with `ledStatus` 256, as a server may order. -/
def wideLedOrder : Master.StructMessage :=
  { nodeID := 10
    RXnodeID := 8
    msgType := msgTypeCommand
    msgID := 1
    iCommType := comTypeLoRa
    ledStatus := 256 }

/- The slave takes that order for `ledStatus` 0. -/
theorem wideLedOrder_misread :
    ¬ SlaveReads wideLedOrder
      (PacketBuffer.zero.receive
        wideLedOrder.frame).slavePacket := by
  intro hReads
  have hLed := hReads.ledStatus
  rw [PacketBuffer.slavePacket_receive_master] at hLed
  revert hLed
  decide

end LoRaTelemetry
