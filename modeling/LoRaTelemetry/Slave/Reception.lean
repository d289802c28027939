import LoRaTelemetry.Slave.Runs

/-
  What `onReceive` makes of the frames received.

  When every frame is whole, the globals that the interrupt
  writes are functions of the packets heard: the buffer is
  the last of them, the LED follows the last one executed,
  and `timeSyncErr` follows the last reception.

  Main declarations:
    * `Slave.decoded`
    * `Slave.reaction?`
    * `Slave.WholeFrames`
    * `Slave.run_slavePacket`
    * `Slave.run_led`
    * `Slave.run_timeSyncErr`
-/

------------------------------------------------------------
-- Decoding a Frame
------------------------------------------------------------

namespace LoRaTelemetry

namespace Slave

/- The packet in the first bytes of one frame. -/
def decoded (frame : Frame) : StructMessage :=
  StructMessage.ofBytes (frame.bytes.take structSize)

/- A whole frame hides the old contents of the buffer. -/
theorem slavePacket_receive_of_whole
    (buffer : PacketBuffer)
    {frame : Frame}
    (hWhole : structSize ≤ frame.bytes.length) :
    (buffer.receive frame).slavePacket =
      decoded frame := by
  rw [PacketBuffer.slavePacket,
    PacketBuffer.receive_bytes_of_whole buffer hWhole]
  rfl

/- The zero-initialised buffer shows a zero packet. -/
theorem slavePacket_zero :
    PacketBuffer.zero.slavePacket = {} := by
  decide

/- A slave reads a slave's packet from its frame. -/
@[simp] theorem decoded_frame
    (packet : StructMessage) :
    decoded packet.frame = packet := by
  have hRead :=
    PacketBuffer.slavePacket_receive_slave
      PacketBuffer.zero packet
  rw [slavePacket_receive_of_whole _ (by
    simp [StructMessage.frame])] at hRead
  exact hRead

/- A slave reads a master's packet from its frame. -/
@[simp] theorem decoded_master_frame
    (packet : Master.StructMessage) :
    decoded packet.frame = packet.asSlave := by
  have hRead :=
    PacketBuffer.slavePacket_receive_master
      PacketBuffer.zero packet
  rw [slavePacket_receive_of_whole _ (by
    simp [Master.StructMessage.frame])] at hRead
  exact hRead

------------------------------------------------------------
-- Reactions
------------------------------------------------------------

variable (board : Board)

/- What an addressed packet asks a slave to do. -/
def asked (packet : StructMessage) : Reaction :=
  if packet.msgType = msgTypeCheckStatus then
    .request
  else
    .command (board.negated packet.ledStatus)

/- The reaction of a board to a packet in its buffer. -/
def reaction? (packet : StructMessage) : Option Reaction :=
  if packet.RXnodeID = board.node then
    some (asked board packet)
  else
    none

theorem onReceive_reaction
    (state : State)
    (now : ULong)
    (frame : Frame) :
    (onReceive board state now frame).2 =
      reaction? board
        (state.telemtryPacketRX.receive
          frame).slavePacket := by
  unfold onReceive reaction?
  by_cases hMine :
      (state.telemtryPacketRX.receive
        frame).slavePacket.RXnodeID = board.node
  · by_cases hRequest :
        (state.telemtryPacketRX.receive
          frame).slavePacket.msgType = msgTypeCheckStatus
    · simp [hMine, hRequest, asked]
    · simp [hMine, hRequest, asked]
  · simp [hMine]

/- The reaction tells what becomes of the flag and the LED. -/
theorem onReceive_flags
    (state : State)
    (now : ULong)
    (frame : Frame) :
    match (onReceive board state now frame).2 with
    | none =>
        (onReceive board state now frame).1.receiveflag =
            state.receiveflag ∧
          (onReceive board state now frame).1.led =
            state.led
    | some .request =>
        (onReceive board state now frame).1.receiveflag =
            true ∧
          (onReceive board state now frame).1.led =
            state.led
    | some (.command level) =>
        (onReceive board state now frame).1.receiveflag =
            true ∧
          (onReceive board state now frame).1.led =
            level := by
  unfold onReceive
  by_cases hMine :
      (state.telemtryPacketRX.receive
        frame).slavePacket.RXnodeID = board.node
  · by_cases hRequest :
        (state.telemtryPacketRX.receive
          frame).slavePacket.msgType = msgTypeCheckStatus
    · simp [hMine, hRequest]
    · simp [hMine, hRequest]
  · simp [hMine]

------------------------------------------------------------
-- Runs on Whole Frames
------------------------------------------------------------

/- Every frame received has at least the structure's size. -/
def WholeFrames (events : List Event) : Prop :=
  ∀ reception ∈ received events,
    structSize ≤ reception.2.bytes.length

theorem WholeFrames.left
    {before after : List Event}
    (hWhole : WholeFrames (before ++ after)) :
    WholeFrames before := by
  intro reception hReception
  apply hWhole reception
  rw [received, List.filterMap_append]
  exact List.mem_append_left _ hReception

theorem WholeFrames.last
    {events : List Event}
    {now : ULong}
    {frame : Frame}
    (hWhole :
      WholeFrames (events ++ [.receive now frame])) :
    structSize ≤ frame.bytes.length := by
  exact hWhole (now, frame) (by simp)

/- The packets heard in a run, whoever they are for. -/
def heard (events : List Event) : List StructMessage :=
  (received events).map fun reception =>
    decoded reception.2

/- The packet heard last; a zero one before the first. -/
def lastHeard (events : List Event) : StructMessage :=
  (heard events).getLastD {}

/- A packet that makes a board write to its LED. -/
def Executes (packet : StructMessage) : Prop :=
  packet.RXnodeID = board.node ∧
    packet.msgType ≠ msgTypeCheckStatus

instance (packet : StructMessage) :
    Decidable (Executes board packet) := by
  unfold Executes
  infer_instance

/- The commands that a board executes in a run. -/
def executed (events : List Event) : List StructMessage :=
  (heard events).filter (Executes board)

/- The command executed last; zero before the first. -/
def lastExecuted (events : List Event) : StructMessage :=
  (executed board events).getLastD {}

@[simp] theorem heard_concat_exec
    (events : List Event)
    (now : ULong)
    (draw : Fin 4) :
    heard (events ++ [.exec now draw]) = heard events := by
  simp [heard]

@[simp] theorem heard_concat_receive
    (events : List Event)
    (now : ULong)
    (frame : Frame) :
    heard (events ++ [.receive now frame]) =
      heard events ++ [decoded frame] := by
  simp [heard]

/- The receive buffer shows the packet heard last. -/
theorem run_slavePacket
    (events : List Event)
    (hWhole : WholeFrames events) :
    ((machine board).run
        events).telemtryPacketRX.slavePacket =
      lastHeard events := by
  induction events using List.reverseRecOn with
  | nil => exact slavePacket_zero
  | append_singleton events event ih =>
      rw [Machine.run_concat, machine_step]
      cases event with
      | exec now draw =>
          have hSame :=
            exec_sameReception board
              ((machine board).run events) now draw
          rw [step, hSame.telemtryPacketRX, lastHeard,
            heard_concat_exec]
          exact ih hWhole.left
      | receive now frame =>
          have hStores :=
            onReceive_stores board
              ((machine board).run events) now frame
          rw [step, hStores.1, lastHeard,
            heard_concat_receive, List.getLastD_concat]
          exact
            slavePacket_receive_of_whole _ hWhole.last

/- The reaction to a whole frame depends on nothing else. -/
theorem onReceive_reaction_of_whole
    (state : State)
    (now : ULong)
    {frame : Frame}
    (hWhole : structSize ≤ frame.bytes.length) :
    (onReceive board state now frame).2 =
      reaction? board (decoded frame) := by
  rw [onReceive_reaction,
    slavePacket_receive_of_whole _ hWhole]

/- The LED shows the command executed last. -/
theorem run_led
    (events : List Event)
    (hWhole : WholeFrames events) :
    ((machine board).run events).led =
      board.negated
        (lastExecuted board events).ledStatus := by
  induction events using List.reverseRecOn with
  | nil => exact board.negated_zero.symm
  | append_singleton events event ih =>
      rw [Machine.run_concat, machine_step]
      cases event with
      | exec now draw =>
          have hSame :=
            exec_sameReception board
              ((machine board).run events) now draw
          rw [step, hSame.led, lastExecuted, executed,
            heard_concat_exec]
          exact ih hWhole.left
      | receive now frame =>
          have hFlags :=
            onReceive_flags board
              ((machine board).run events) now frame
          rw [onReceive_reaction_of_whole board _ now
            hWhole.last] at hFlags
          rw [step, lastExecuted, executed,
            heard_concat_receive, List.filter_append]
          have hEarlier := ih hWhole.left
          rw [lastExecuted, executed] at hEarlier
          by_cases hMine :
              (decoded frame).RXnodeID = board.node
          · by_cases hRequest :
                (decoded frame).msgType =
                  msgTypeCheckStatus
            · simp only [reaction?, asked, hMine, hRequest,
                if_true] at hFlags
              simp [Executes, hRequest, hFlags.2, hEarlier]
            · simp only [reaction?, asked, hMine, hRequest,
                if_true, if_false] at hFlags
              simp [Executes, hMine, hRequest, hFlags.2]
          · simp only [reaction?, hMine, if_false]
              at hFlags
            simp [Executes, hMine, hFlags.2, hEarlier]

/- The clock correction that the last reception left. -/
def lastSync (events : List Event) : CLong :=
  match (received events).getLast? with
  | none => 0
  | some (now, frame) => now - (decoded frame).timeStamp

theorem run_timeSyncErr
    (events : List Event)
    (hWhole : WholeFrames events) :
    ((machine board).run events).timeSyncErr =
      lastSync events := by
  induction events using List.reverseRecOn with
  | nil => rfl
  | append_singleton events event ih =>
      rw [Machine.run_concat, machine_step]
      cases event with
      | exec now draw =>
          have hSame :=
            exec_sameReception board
              ((machine board).run events) now draw
          rw [step, hSame.timeSyncErr, lastSync,
            received_concat_exec]
          exact ih hWhole.left
      | receive now frame =>
          have hStores :=
            onReceive_stores board
              ((machine board).run events) now frame
          rw [step, hStores.2, lastSync,
            received_concat_receive,
            List.getLast?_concat,
            slavePacket_receive_of_whole _ hWhole.last]

/- A reply in progress, or one that is asked for. -/
def Busy (state : State) : Prop :=
  state.receiveflag = true ∨ state.pc ≠ .test

/- The main program does not start a reply by itself. -/
theorem busy_of_exec
    (state : State)
    (now : ULong)
    (draw : Fin 4)
    (hBusy : Busy (exec board state now draw)) :
    Busy state := by
  have hExec := exec_executed board state now draw
  by_cases hTest : state.pc = .test
  · apply Or.inl
    by_contra hIdle
    unfold Busy at hBusy
    rw [hExec.pc, hExec.receiveflag] at hBusy
    simp [hTest, hIdle, Pc.next] at hBusy
  · exact Or.inr hTest

/- A slave that replies has heard a packet for itself. -/
theorem exists_addressed_of_busy
    (events : List Event)
    (hWhole : WholeFrames events)
    (hBusy : Busy ((machine board).run events)) :
    ∃ packet ∈ heard events,
      packet.RXnodeID = board.node := by
  induction events using List.reverseRecOn with
  | nil => simp [Busy, State.init] at hBusy
  | append_singleton events event ih =>
      rw [Machine.run_concat, machine_step] at hBusy
      cases event with
      | exec now draw =>
          rw [heard_concat_exec]
          exact
            ih hWhole.left
              (busy_of_exec board _ now draw hBusy)
      | receive now frame =>
          rw [heard_concat_receive]
          by_cases hEarlier :
              Busy ((machine board).run events)
          · rcases ih hWhole.left hEarlier with
              ⟨packet, hHeard, hMine⟩
            exact
              ⟨packet, List.mem_append_left _ hHeard, hMine⟩
          · refine ⟨decoded frame, by simp, ?_⟩
            by_contra hForeign
            apply hEarlier
            have hFlags :=
              onReceive_flags board
                ((machine board).run events) now frame
            have hSame :=
              onReceive_sameMain board
                ((machine board).run events) now frame
            rw [onReceive_reaction_of_whole board _ now
              hWhole.last, reaction?, if_neg hForeign]
              at hFlags
            rw [Busy, step, hFlags.1, hSame.pc] at hBusy
            exact hBusy

end Slave

end LoRaTelemetry
