import LoRaTelemetry.Wire.Radio
import Mathlib.Data.List.Induction
import Mathlib.Tactic.IntervalCases

/-
  What a receive buffer holds after any history of frames,
  short ones included: at each offset the byte of the last
  frame that was long enough to reach it.

  Main declarations:
    * `lastByte`
    * `heardAddress`
    * `masterPacket_RXnodeID_foldl_receive`
    * `slavePacket_RXnodeID_foldl_receive`
-/

------------------------------------------------------------
-- The Last Byte Received at an Offset
------------------------------------------------------------

namespace LoRaTelemetry

/- Zero where no frame of the history reaches. -/
def lastByte
    (history : List Frame)
    (offset : Nat) : Byte :=
  let reaching := history.filter fun frame =>
    decide (offset < frame.bytes.length)
  (reaching.getLast?.bind fun frame =>
    frame.bytes[offset]?).getD 0

theorem lastByte_concat
    (history : List Frame)
    (frame : Frame)
    (offset : Nat) :
    lastByte (history ++ [frame]) offset =
      (frame.bytes[offset]?).getD
        (lastByte history offset) := by
  by_cases hReach : offset < frame.bytes.length
  · simp [lastByte, hReach]
  · simp [lastByte, hReach]

/- The buffer after a history, byte by byte. -/
theorem getElem?_foldl_receive
    (history : List Frame)
    {offset : Nat}
    (hOffset : offset < structSize) :
    (history.foldl PacketBuffer.receive
        PacketBuffer.zero).bytes[offset]? =
      some (lastByte history offset) := by
  induction history using List.reverseRecOn with
  | nil => simp [PacketBuffer.zero, hOffset, lastByte]
  | append_singleton history frame ih =>
      rw [List.foldl_append, List.foldl_cons,
        List.foldl_nil, PacketBuffer.receive_bytes,
        lastByte_concat]
      by_cases hReach : offset < frame.bytes.length
      · rw [List.getElem?_append_left (by
          rw [List.length_take]
          omega)]
        simp [List.getElem?_take_of_lt hOffset, hReach]
      · have hShort :
            frame.bytes.take structSize = frame.bytes :=
          List.take_of_length_le (by omega)
        rw [hShort, List.getElem?_append_right (by omega),
          List.getElem?_drop,
          Nat.add_sub_cancel' (by omega), ih]
        simp [hReach]

------------------------------------------------------------
-- The Address in the Buffer
------------------------------------------------------------

/- The addressee spelled by the last bytes at 4 to 7. -/
def heardAddress (history : List Frame) : CInt :=
  CType.wordOfBytes
    [lastByte history 4, lastByte history 5,
      lastByte history 6, lastByte history 7]

theorem addressBytes_foldl_receive
    (history : List Frame) :
    ((history.foldl PacketBuffer.receive
        PacketBuffer.zero).bytes.drop 4).take 4 =
      [lastByte history 4, lastByte history 5,
        lastByte history 6, lastByte history 7] := by
  have hSize : structSize = 40 := by decide
  apply List.ext_getElem?
  intro index
  by_cases hIndex : index < 4
  · rw [List.getElem?_take_of_lt hIndex,
      List.getElem?_drop,
      getElem?_foldl_receive history (by omega)]
    interval_cases index <;> rfl
  · rw [List.getElem?_eq_none (by
        rw [List.length_take]
        omega),
      List.getElem?_eq_none (by
        simp only [List.length_cons, List.length_nil]
        omega)]

theorem masterPacket_RXnodeID
    (buffer : PacketBuffer) :
    buffer.masterPacket.RXnodeID =
      CType.wordOfBytes ((buffer.bytes.drop 4).take 4) := by
  rfl

theorem slavePacket_RXnodeID
    (buffer : PacketBuffer) :
    buffer.slavePacket.RXnodeID =
      CType.wordOfBytes ((buffer.bytes.drop 4).take 4) := by
  rfl

/- The addressee the master sees after a history. -/
theorem masterPacket_RXnodeID_foldl_receive
    (history : List Frame) :
    (history.foldl PacketBuffer.receive
        PacketBuffer.zero).masterPacket.RXnodeID =
      heardAddress history := by
  rw [masterPacket_RXnodeID, addressBytes_foldl_receive]
  rfl

/- The addressee a slave sees after a history. -/
theorem slavePacket_RXnodeID_foldl_receive
    (history : List Frame) :
    (history.foldl PacketBuffer.receive
        PacketBuffer.zero).slavePacket.RXnodeID =
      heardAddress history := by
  rw [slavePacket_RXnodeID, addressBytes_foldl_receive]
  rfl

end LoRaTelemetry
