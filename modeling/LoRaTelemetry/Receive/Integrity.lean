import LoRaTelemetry.Library.Lists
import LoRaTelemetry.Master.Reception
import LoRaTelemetry.Slave.Reception
import LoRaTelemetry.Wire.StaleBytes

/-
  When the receive handlers act only on the frame that
  triggered them, for frames of any length.

  Neither handler looks at the length that was copied. A
  short frame leaves old bytes in the buffer, and is acted
  upon when these complete an address.

  Main declarations:
    * `ShortFramesMiss`
    * `Master.ReceivesIntact`
    * `Slave.ReceivesIntact`
    * `receivesIntact_iff`
    * `oneByte_posted`
-/

------------------------------------------------------------
-- Histories
------------------------------------------------------------

namespace LoRaTelemetry

/-
  No frame shorter than the structure completes, together
  with the last bytes received at the offsets it does not
  reach, the given address.
-/
def ShortFramesMiss
    (address : CInt)
    (history : List Frame) : Prop :=
  ∀ before frame after,
    history = before ++ frame :: after →
      frame.bytes.length < structSize →
        heardAddress (before ++ [frame]) ≠ address

------------------------------------------------------------
-- The Master's Handler
------------------------------------------------------------

namespace Master

variable (config : Config)

/-
  Every record that `onreceive` posts in a run is the
  decoding of the one frame just received, which is whole
  and addressed to the master.
-/
def ReceivesIntact (steps : List Step) : Prop :=
  ∀ before frame after,
    steps = before ++ .poll (some frame) :: after →
      ∀ record,
        (onreceive ((stepMachine config).run before)
            (some frame)).2 = some record →
          structSize ≤ frame.bytes.length ∧
            (decoded frame).RXnodeID = node ∧
            record = (decoded frame).record

/- One reception after a history. -/
theorem onreceive_intact_iff
    (before : List Step)
    (frame : Frame) :
    (∀ record,
        (onreceive ((stepMachine config).run before)
            (some frame)).2 = some record →
          structSize ≤ frame.bytes.length ∧
            (decoded frame).RXnodeID = node ∧
            record = (decoded frame).record) ↔
      (frame.bytes.length < structSize →
        heardAddress (received before ++ [frame]) ≠
          node) := by
  have hBuffer :
      ((stepMachine config).run
          before).telemtryPacketRX.receive frame =
        (received before ++ [frame]).foldl
          PacketBuffer.receive PacketBuffer.zero := by
    rw [run_telemtryPacketRX, List.foldl_append]
    rfl
  have hAddress :
      (((stepMachine config).run
          before).telemtryPacketRX.receive
            frame).masterPacket.RXnodeID =
        heardAddress (received before ++ [frame]) := by
    rw [hBuffer, masterPacket_RXnodeID_foldl_receive]
  constructor
  · intro hIntact hShort hMine
    rw [← hAddress] at hMine
    have hPosted :=
      onreceive_record ((stepMachine config).run before)
        frame
    rw [StructMessage.posted?, if_pos hMine] at hPosted
    have hWhole := (hIntact _ hPosted).1
    omega
  · intro hMiss record hPosted
    rw [onreceive_record, StructMessage.posted?] at hPosted
    by_cases hMine :
        (((stepMachine config).run
          before).telemtryPacketRX.receive
            frame).masterPacket.RXnodeID = node
    · have hWhole : structSize ≤ frame.bytes.length := by
        by_contra hShort
        rw [hAddress] at hMine
        exact hMiss (not_le.mp hShort) hMine
      have hDecoded :
          (((stepMachine config).run
            before).telemtryPacketRX.receive
              frame).masterPacket = decoded frame := by
        exact masterPacket_receive_of_whole _ hWhole
      rw [if_pos hMine, hDecoded] at hPosted
      rw [hDecoded] at hMine
      exact ⟨hWhole, hMine, (Option.some.inj hPosted).symm⟩
    · rw [if_neg hMine] at hPosted
      cases hPosted

/- The master's half of the characterization. -/
theorem receivesIntact_iff_shortFramesMiss
    (steps : List Step) :
    ReceivesIntact config steps ↔
      ShortFramesMiss node (received steps) := by
  constructor
  · intro hIntact before frame after hSplit
    rcases
        (Lists.filterMap_eq_append_cons_iff Step.frame steps
          before frame after).mp hSplit with
      ⟨first, step, rest, hSteps, hFrame, rfl, _⟩
    cases step with
    | poll packet =>
        have hPacket : packet = some frame := hFrame
        rw [hPacket] at hSteps
        exact
          (onreceive_intact_iff config first frame).mp
            (hIntact first frame rest hSteps)
    | fetch got now => cases hFrame
    | send => cases hFrame
    | mark now => cases hFrame
  · intro hMiss before frame after hSteps
    apply (onreceive_intact_iff config before frame).mpr
    apply hMiss (received before) frame (received after)
    rw [hSteps]
    simp [received, Step.frame]

end Master

------------------------------------------------------------
-- The Slave's Handler
------------------------------------------------------------

namespace Slave

variable (board : Board)

/-
  Every reaction of `onReceive` in a run is what the one
  frame just received asks for, and that frame is whole and
  addressed to this board.
-/
def ReceivesIntact (events : List Event) : Prop :=
  ∀ before now frame after,
    events = before ++ .receive now frame :: after →
      ∀ reaction,
        (onReceive board ((machine board).run before) now
            frame).2 = some reaction →
          structSize ≤ frame.bytes.length ∧
            (decoded frame).RXnodeID = board.node ∧
            reaction = asked board (decoded frame)

/- One reception after a history. -/
theorem onReceive_intact_iff
    (before : List Event)
    (now : ULong)
    (frame : Frame) :
    (∀ reaction,
        (onReceive board ((machine board).run before) now
            frame).2 = some reaction →
          structSize ≤ frame.bytes.length ∧
            (decoded frame).RXnodeID = board.node ∧
            reaction = asked board (decoded frame)) ↔
      (frame.bytes.length < structSize →
        heardAddress
            ((received before).map Prod.snd ++ [frame]) ≠
          board.node) := by
  have hBuffer :
      ((machine board).run
          before).telemtryPacketRX.receive frame =
        ((received before).map Prod.snd ++ [frame]).foldl
          PacketBuffer.receive PacketBuffer.zero := by
    rw [run_telemtryPacketRX, List.foldl_append]
    rfl
  have hAddress :
      (((machine board).run
          before).telemtryPacketRX.receive
            frame).slavePacket.RXnodeID =
        heardAddress
          ((received before).map Prod.snd ++ [frame]) := by
    rw [hBuffer, slavePacket_RXnodeID_foldl_receive]
  constructor
  · intro hIntact hShort hMine
    rw [← hAddress] at hMine
    have hReacted :=
      onReceive_reaction board
        ((machine board).run before) now frame
    rw [reaction?, if_pos hMine] at hReacted
    have hWhole := (hIntact _ hReacted).1
    omega
  · intro hMiss reaction hReacted
    rw [onReceive_reaction, reaction?] at hReacted
    by_cases hMine :
        (((machine board).run
          before).telemtryPacketRX.receive
            frame).slavePacket.RXnodeID = board.node
    · have hWhole : structSize ≤ frame.bytes.length := by
        by_contra hShort
        rw [hAddress] at hMine
        exact hMiss (not_le.mp hShort) hMine
      have hDecoded :
          (((machine board).run
            before).telemtryPacketRX.receive
              frame).slavePacket = decoded frame := by
        exact slavePacket_receive_of_whole _ hWhole
      rw [if_pos hMine, hDecoded] at hReacted
      rw [hDecoded] at hMine
      exact
        ⟨hWhole, hMine, (Option.some.inj hReacted).symm⟩
    · rw [if_neg hMine] at hReacted
      cases hReacted

/- The slave's half of the characterization. -/
theorem receivesIntact_iff_shortFramesMiss
    (events : List Event) :
    ReceivesIntact board events ↔
      ShortFramesMiss board.node
        ((received events).map Prod.snd) := by
  have hFrames :
      (received events).map Prod.snd =
        events.filterMap (fun event =>
          event.reception.map Prod.snd) := by
    simp [received, List.map_filterMap]
  constructor
  · intro hIntact before frame after hSplit
    rw [hFrames] at hSplit
    rcases
        (Lists.filterMap_eq_append_cons_iff _ events before
          frame after).mp hSplit with
      ⟨first, event, rest, hEvents, hFrame, hBefore, _⟩
    cases event with
    | exec now draw => cases hFrame
    | receive now frame' =>
        have hSame : frame' = frame := by
          simpa [Event.reception] using hFrame
        rw [hSame] at hEvents
        have hOne :=
          (onReceive_intact_iff board first now frame).mp
            (hIntact first now frame rest hEvents)
        rw [received, List.map_filterMap, hBefore] at hOne
        exact hOne
  · intro hMiss before now frame after hEvents
    apply (onReceive_intact_iff board before now frame).mpr
    apply
      hMiss ((received before).map Prod.snd) frame
        ((received after).map Prod.snd)
    rw [hEvents]
    simp [received, Event.reception]

end Slave

------------------------------------------------------------
-- Both Handlers
------------------------------------------------------------

/-
  For every run of the master and of any slave, with frames
  of any length: the handler acts only on the frame that
  triggered it exactly when no short frame completes the
  receiver's address out of old bytes.
-/
theorem receivesIntact_iff
    (config : Master.Config)
    (steps : List Master.Step)
    (board : Slave.Board)
    (events : List Slave.Event) :
    (Master.ReceivesIntact config steps ↔
        ShortFramesMiss Master.node
          (Master.received steps)) ∧
      (Slave.ReceivesIntact board events ↔
        ShortFramesMiss board.node
          ((Slave.received events).map Prod.snd)) := by
  exact
    ⟨Master.receivesIntact_iff_shortFramesMiss config steps,
      Slave.receivesIntact_iff_shortFramesMiss board events⟩

/- Telemetry of slave 8, as the slave transmits it. -/
def wholeReport : Frame :=
  Slave.StructMessage.frame
    { nodeID := 8
      RXnodeID := 10
      msgType := msgTypeTelemtry
      msgID := 1 }

/- A frame with a single byte. -/
def oneByte : Frame :=
  { bytes := [9]
    nonempty := by decide
    fits := by decide }

/-
  The one byte replaces the low byte of the sender in the
  buffer, and the old packet is posted again as node 9's.
-/
theorem oneByte_posted :
    ¬ Master.ReceivesIntact Master.deployed
        [.poll (some wholeReport), .poll (some oneByte)] := by
  intro hIntact
  have hPosted :
      (Master.onreceive
          ((Master.stepMachine Master.deployed).run
            [.poll (some wholeReport)])
          (some oneByte)).2 =
        some
          { nodeID := 9
            iCommType := 0
            timeStamp := 0
            tempAir := 0
            latitudeGPS := 0
            longitudeGPS := 0
            msgID := 1
            ledStatus := 0 } := by
    decide
  have hWhole :=
    (hIntact [.poll (some wholeReport)] oneByte [] rfl _
      hPosted).1
  exact absurd hWhole (by decide)

end LoRaTelemetry
