import LoRaTelemetry.Master.Steps

/-
  What `onreceive` makes of the frames received.

  When every frame is whole, the receive buffer never shows
  through: the records posted are those of the packets for
  the master, in the order of reception.

  Main declarations:
    * `Master.decoded`
    * `Master.onreceive_record`
    * `Master.posted_eq_of_whole`
-/

------------------------------------------------------------
-- Decoding a Frame
------------------------------------------------------------

namespace LoRaTelemetry

namespace Master

/- The packet in the first bytes of one frame. -/
def decoded (frame : Frame) : StructMessage :=
  StructMessage.ofBytes (frame.bytes.take structSize)

/- A whole frame hides the old contents of the buffer. -/
theorem masterPacket_receive_of_whole
    (buffer : PacketBuffer)
    {frame : Frame}
    (hWhole : structSize ≤ frame.bytes.length) :
    (buffer.receive frame).masterPacket =
      decoded frame := by
  rw [PacketBuffer.masterPacket,
    PacketBuffer.receive_bytes_of_whole buffer hWhole]
  rfl

/- The master reads a slave's packet from its frame. -/
@[simp] theorem decoded_slave_frame
    (packet : Slave.StructMessage) :
    decoded packet.frame = packet.asMaster := by
  have hRead :=
    PacketBuffer.masterPacket_receive_slave
      PacketBuffer.zero packet
  rw [masterPacket_receive_of_whole _ (by
    simp [Slave.StructMessage.frame])] at hRead
  exact hRead

/- The record of a packet for the master. -/
def StructMessage.posted?
    (packet : StructMessage) : Option Record :=
  if packet.RXnodeID = node then
    some packet.record
  else
    none

theorem onreceive_record
    (state : State)
    (frame : Frame) :
    (onreceive state (some frame)).2 =
      (state.telemtryPacketRX.receive
        frame).masterPacket.posted? := by
  unfold onreceive StructMessage.posted?
  by_cases hMine :
      (state.telemtryPacketRX.receive
        frame).masterPacket.RXnodeID = node
  · simp [hMine, postDataToServer]
  · simp [hMine]

------------------------------------------------------------
-- Runs on Whole Frames
------------------------------------------------------------

/- The record that an effect posts. -/
def Effect.record? : Effect → Option Record
| .posted record => some record
| _ => none

/- The records posted in a run. -/
def posted
    (config : Config)
    (steps : List Step) : List Record :=
  ((stepMachine config).trace steps).filterMap
    Effect.record?

/- A record is posted at a poll and at no other step. -/
theorem effects_records
    (config : Config)
    (state : State)
    (step : Step) :
    (effects config state step).filterMap Effect.record? =
      match step with
      | .poll packet => (onreceive state packet).2.toList
      | _ => [] := by
  cases step with
  | fetch got now =>
      simp only [effects]
      cases (getDataFromServer config state got now).2 <;>
        rfl
  | send => rfl
  | mark now => rfl
  | poll packet =>
      simp only [effects]
      cases (onreceive state packet).2 <;> rfl

theorem posted_concat
    (config : Config)
    (steps : List Step)
    (step : Step) :
    posted config (steps ++ [step]) =
      posted config steps ++
        (effects config ((stepMachine config).run steps)
          step).filterMap Effect.record? := by
  simp [posted]

/- The records posted are those of the frames received. -/
theorem posted_eq_of_whole
    (config : Config)
    (steps : List Step)
    (hWhole :
      ∀ frame ∈ received steps,
        structSize ≤ frame.bytes.length) :
    posted config steps =
      (received steps).filterMap
        (fun frame => (decoded frame).posted?) := by
  induction steps using List.reverseRecOn with
  | nil => rfl
  | append_singleton steps step ih =>
      rw [received_concat] at hWhole
      have hEarlier :=
        ih (fun frame hFrame =>
          hWhole frame (List.mem_append_left _ hFrame))
      rw [posted_concat, effects_records, received_concat,
        List.filterMap_append, ← hEarlier]
      congr 1
      cases step with
      | fetch got now => rfl
      | send => rfl
      | mark now => rfl
      | poll packet =>
          cases packet with
          | none => rfl
          | some frame =>
              have hFrame :=
                hWhole frame (by simp [Step.frame])
              simp only [Step.frame, Option.toList_some]
              rw [onreceive_record,
                masterPacket_receive_of_whole _ hFrame]
              cases hPosted : (decoded frame).posted? <;>
                simp [hPosted]

end Master

end LoRaTelemetry
