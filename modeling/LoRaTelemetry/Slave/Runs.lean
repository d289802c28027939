import LoRaTelemetry.Library.Words
import LoRaTelemetry.Slave.Statements
import Mathlib.Data.BitVec

/-
  What holds along every run of a slave: what its receive
  buffer is left with, what the packet under construction
  contains at each statement, and how telemetry is numbered.

  Main declarations:
    * `Slave.received`
    * `Slave.run_telemtryPacketRX`
    * `Slave.Building`
    * `Slave.run_building`
    * `Slave.fifo_msgID`
    * `Slave.telemetry_msgIDs`
-/

------------------------------------------------------------
-- The Receive Buffer
------------------------------------------------------------

namespace LoRaTelemetry

namespace Slave

variable (board : Board) (state : State)

/- The frame received at an event, with the local clock. -/
def Event.reception : Event → Option (ULong × Frame)
| .exec _ _ => none
| .receive now frame => some (now, frame)

/- The frames received in a run, with the local clock. -/
def received (events : List Event) : List (ULong × Frame) :=
  events.filterMap Event.reception

@[simp] theorem received_concat_exec
    (events : List Event)
    (now : ULong)
    (draw : Fin 4) :
    received (events ++ [.exec now draw]) =
      received events := by
  simp [received, Event.reception]

@[simp] theorem received_concat_receive
    (events : List Event)
    (now : ULong)
    (frame : Frame) :
    received (events ++ [.receive now frame]) =
      received events ++ [(now, frame)] := by
  simp [received, Event.reception]

/- The receive buffer is left by the frames received. -/
theorem run_telemtryPacketRX
    (events : List Event) :
    ((machine board).run events).telemtryPacketRX =
      ((received events).map Prod.snd).foldl
        PacketBuffer.receive PacketBuffer.zero := by
  induction events using List.reverseRecOn with
  | nil => rfl
  | append_singleton events event ih =>
      rw [Machine.run_concat, machine_step]
      cases event with
      | exec now draw =>
          have hSame :=
            exec_sameReception board
              ((machine board).run events) now draw
          rw [received_concat_exec, step,
            hSame.telemtryPacketRX, ih]
      | receive now frame =>
          have hStores :=
            onReceive_stores board
              ((machine board).run events) now frame
          rw [received_concat_receive, step, hStores.1, ih]
          simp [List.foldl_append]

------------------------------------------------------------
-- The Packet under Construction
------------------------------------------------------------

/- How many fields the reply in progress has assigned. -/
def Pc.filled : Pc → Nat
| .RXnodeID => 1
| .msgType => 2
| .msgID => 3
| .iCommType => 4
| .timeStamp => 5
| .tempAir => 6
| .ledStatus => 7
| .latitudeGPS => 8
| .longitudeGPS => 9
| .advanceMsgCount => 10
| .beginPacket => 10
| .write => 10
| .endPacket => 10
| _ => 0

/- The counter has advanced past the packet being sent. -/
def Pc.counted : Pc → Bool
| .beginPacket => true
| .write => true
| .endPacket => true
| _ => false

/- The fields assigned so far have their values. -/
structure Building (state : State) : Prop where
  nodeID :
    1 ≤ state.pc.filled →
      state.telemtryPacketTX.nodeID = board.node
  RXnodeID :
    2 ≤ state.pc.filled →
      state.telemtryPacketTX.RXnodeID = 10
  msgType :
    3 ≤ state.pc.filled →
      state.telemtryPacketTX.msgType = msgTypeTelemtry
  msgID :
    4 ≤ state.pc.filled →
      state.telemtryPacketTX.msgID +
          (if state.pc.counted then 1 else 0) =
        state.msgCount
  iCommType :
    5 ≤ state.pc.filled →
      state.telemtryPacketTX.iCommType = comTypeLoRa
  fifo :
    state.pc = .endPacket →
      state.fifo = state.telemtryPacketTX

theorem building_of_sameMain
    {left right : State}
    (hSame : SameMain left right)
    (hBuilding : Building board right) :
    Building board left := by
  rcases hSame with
    ⟨hCount, hPacket, _, _, _, _, _, hFifo, hPc⟩
  constructor
  · rw [hPc, hPacket]
    exact hBuilding.nodeID
  · rw [hPc, hPacket]
    exact hBuilding.RXnodeID
  · rw [hPc, hPacket]
    exact hBuilding.msgType
  · rw [hPc, hPacket, hCount]
    exact hBuilding.msgID
  · rw [hPc, hPacket]
    exact hBuilding.iCommType
  · rw [hPc, hPacket, hFifo]
    exact hBuilding.fifo

/- The statements that assign the first fields, in order. -/
def Pc.assigning : Nat → Pc
| 0 => .nodeID
| 1 => .RXnodeID
| 2 => .msgType
| 3 => .msgID
| 4 => .iCommType
| 5 => .timeStamp
| 6 => .tempAir
| 7 => .ledStatus
| 8 => .latitudeGPS
| _ => .longitudeGPS

/- The count grows only at the statement it counts. -/
theorem Pc.filled_next
    (receiveflag : Bool)
    (pc : Pc) :
    (pc.next receiveflag).filled ≤ pc.filled ∨
      ((pc.next receiveflag).filled = pc.filled + 1 ∧
        pc = assigning pc.filled) := by
  cases pc <;> cases receiveflag <;>
    simp [next, filled, assigning]

theorem Pc.filled_of_next
    {receiveflag : Bool}
    {pc : Pc}
    {count : Nat}
    (hOther : pc ≠ assigning count)
    (hFilled : count + 1 ≤ (pc.next receiveflag).filled) :
    count + 1 ≤ pc.filled := by
  rcases filled_next receiveflag pc with
    hKept | ⟨hGrown, hHere⟩
  · omega
  · by_contra hShort
    have hCount : pc.filled = count := by omega
    rw [hCount] at hHere
    exact hOther hHere

/- `endPacket` follows `write`. -/
theorem Pc.eq_write_of_next
    {receiveflag : Bool}
    {pc : Pc}
    (hNext : pc.next receiveflag = .endPacket) :
    pc = .write := by
  cases pc <;> cases receiveflag <;>
    simp_all [next]

/- The counter runs ahead of a number once it is assigned. -/
theorem exec_msgID
    (now : ULong)
    (draw : Fin 4)
    (hNumber :
      4 ≤ state.pc.filled →
        state.telemtryPacketTX.msgID +
            (if state.pc.counted then 1 else 0) =
          state.msgCount)
    (hFilled :
      4 ≤ (exec board state now draw).pc.filled) :
    (exec board state now draw).telemtryPacketTX.msgID +
        (if (exec board state now draw).pc.counted then
          1
        else
          0) =
      (exec board state now draw).msgCount := by
  have hExec := exec_executed board state now draw
  rw [hExec.pc] at hFilled ⊢
  rw [hExec.packet.msgID, hExec.msgCount]
  cases hPc : state.pc
  case test =>
    rw [hPc] at hFilled
    cases hFlag : state.receiveflag <;>
      simp [hFlag, Pc.next, Pc.filled] at hFilled
  all_goals
    simp_all [Pc.next, Pc.filled, Pc.counted]

/- Each statement assigns its field and keeps the others. -/
theorem exec_building
    (now : ULong)
    (draw : Fin 4)
    (hBuilding : Building board state) :
    Building board (exec board state now draw) := by
  have hExec := exec_executed board state now draw
  constructor
  case msgID =>
    exact exec_msgID board state now draw hBuilding.msgID
  case fifo =>
    intro hSending
    rw [hExec.pc] at hSending
    simp [exec, Pc.eq_write_of_next hSending]
  all_goals
    intro hFilled
    rw [hExec.pc] at hFilled
  · rw [hExec.packet.nodeID]
    split
    · rfl
    · rename_i hOther
      exact
        hBuilding.nodeID
          (Pc.filled_of_next hOther hFilled)
  · rw [hExec.packet.RXnodeID]
    split
    · rfl
    · rename_i hOther
      exact
        hBuilding.RXnodeID
          (Pc.filled_of_next hOther hFilled)
  · rw [hExec.packet.msgType]
    split
    · rfl
    · rename_i hOther
      exact
        hBuilding.msgType
          (Pc.filled_of_next hOther hFilled)
  · rw [hExec.packet.iCommType]
    split
    · rfl
    · rename_i hOther
      exact
        hBuilding.iCommType
          (Pc.filled_of_next hOther hFilled)

/- The invariant holds along every run. -/
theorem run_building
    (events : List Event) :
    Building board ((machine board).run events) := by
  apply Machine.run_invariant
  · constructor <;> simp [State.init, Pc.filled]
  · intro state event hBuilding
    cases event with
    | exec now draw =>
        exact exec_building board state now draw hBuilding
    | receive now frame =>
        exact
          building_of_sameMain board
            (onReceive_sameMain board state now frame)
            hBuilding

------------------------------------------------------------
-- Telemetry
------------------------------------------------------------

/- A packet leaves at `endPacket` and at no other point. -/
theorem emit_packets
    (event : Event) :
    (emit board state event).filterMap Output.packet? =
      match event with
      | .exec _ _ =>
          if state.pc = .endPacket then
            [state.fifo]
          else
            []
      | .receive _ _ => [] := by
  cases event with
  | exec now draw =>
      cases hPc : state.pc <;>
        simp [emit, hPc, Output.packet?]
  | receive now frame =>
      simp only [emit]
      split <;> simp [Output.packet?]

theorem telemetry_concat
    (events : List Event)
    (event : Event) :
    telemetry board (events ++ [event]) =
      telemetry board events ++
        (emit board ((machine board).run events)
          event).filterMap Output.packet? := by
  simp [telemetry]

/- Every transmission was under construction just before. -/
theorem exists_of_mem_telemetry
    (events : List Event)
    {packet : StructMessage}
    (hPacket : packet ∈ telemetry board events) :
    ∃ before now draw after,
      events = before ++ .exec now draw :: after ∧
        ((machine board).run before).pc = .endPacket ∧
        packet =
          ((machine board).run before).telemtryPacketTX := by
  rcases List.mem_filterMap.mp hPacket with
    ⟨output, hOutput, hSome⟩
  rw [Machine.mem_trace_iff] at hOutput
  rcases hOutput with ⟨before, event, after, rfl, hEmit⟩
  have hSent :
      packet ∈
        (emit board ((machine board).run before)
          event).filterMap Output.packet? :=
    List.mem_filterMap.mpr ⟨output, hEmit, hSome⟩
  rw [emit_packets] at hSent
  cases event with
  | exec now draw =>
      by_cases hPc :
          ((machine board).run before).pc = .endPacket
      · simp only [hPc, if_true, List.mem_singleton]
          at hSent
        have hFifo :=
          (run_building board before).fifo hPc
        exact
          ⟨before, now, draw, after, rfl, hPc,
            hSent.trans hFifo⟩
      · simp [hPc] at hSent
  | receive now frame => simp at hSent

/- The fields that every telemetry packet of a board has. -/
theorem telemetry_fields
    (events : List Event)
    {packet : StructMessage}
    (hPacket : packet ∈ telemetry board events) :
    packet.nodeID = board.node ∧
      packet.RXnodeID = 10 ∧
      packet.msgType = msgTypeTelemtry ∧
      packet.iCommType = comTypeLoRa := by
  rcases exists_of_mem_telemetry board events hPacket with
    ⟨before, _, _, _, _, hPc, rfl⟩
  have hBuilding := run_building board before
  exact
    ⟨hBuilding.nodeID (by simp [hPc, Pc.filled]),
      hBuilding.RXnodeID (by simp [hPc, Pc.filled]),
      hBuilding.msgType (by simp [hPc, Pc.filled]),
      hBuilding.iCommType (by simp [hPc, Pc.filled])⟩

/- The counter, relative to the packets already sent. -/
def pendingCount (state : State) : Nat :=
  if state.pc.counted then 1 else 0

theorem exec_msgCount
    (now : ULong)
    (draw : Fin 4)
    (sent : Nat)
    (hCount :
      state.msgCount =
        BitVec.ofNat 32 (sent + 1 + pendingCount state)) :
    (exec board state now draw).msgCount =
      BitVec.ofNat 32
        (sent +
          (if state.pc = .endPacket then 1 else 0) + 1 +
          pendingCount (exec board state now draw)) := by
  have hExec := exec_executed board state now draw
  rw [hExec.msgCount, pendingCount, hExec.pc, hCount]
  cases hPc : state.pc <;>
    cases state.receiveflag <;>
    simp [pendingCount, hPc, Pc.next, Pc.counted,
      BitVec.ofNat_add]

/- The message counter counts the packets sent. -/
theorem run_msgCount
    (events : List Event) :
    ((machine board).run events).msgCount =
      BitVec.ofNat 32
        ((telemetry board events).length + 1 +
          pendingCount ((machine board).run events)) := by
  induction events using List.reverseRecOn with
  | nil => rfl
  | append_singleton events event ih =>
      rw [Machine.run_concat, machine_step,
        telemetry_concat, emit_packets, List.length_append]
      cases event with
      | exec now draw =>
          have hExec :=
            exec_msgCount board
              ((machine board).run events) now draw
              (telemetry board events).length ih
          rw [step, hExec]
          congr 3
          split <;> rfl
      | receive now frame =>
          have hSame :=
            onReceive_sameMain board
              ((machine board).run events) now frame
          simp only [step, pendingCount, hSame.pc,
            hSame.msgCount, List.length_nil, Nat.add_zero]
          exact ih

/- The packet about to leave has the next number. -/
theorem fifo_msgID
    (events : List Event)
    (hPc : ((machine board).run events).pc = .endPacket) :
    ((machine board).run events).fifo.msgID =
      BitVec.ofNat 32
        ((telemetry board events).length + 1) := by
  have hBuilding := run_building board events
  have hNumber :=
    hBuilding.msgID (by simp [hPc, Pc.filled])
  have hCount := run_msgCount board events
  rw [hBuilding.fifo hPc]
  simp only [hPc, Pc.counted, if_true, pendingCount]
    at hNumber hCount
  rw [hCount, BitVec.ofNat_add _ 1] at hNumber
  exact add_right_cancel hNumber

/- Telemetry packets are numbered from one. -/
theorem telemetry_msgIDs
    (events : List Event) :
    (telemetry board events).map StructMessage.msgID =
      (List.range (telemetry board events).length).map
        (fun index => BitVec.ofNat 32 (index + 1)) := by
  induction events using List.reverseRecOn with
  | nil => rfl
  | append_singleton events event ih =>
      rw [telemetry_concat, emit_packets]
      cases event with
      | exec now draw =>
          by_cases hPc :
              ((machine board).run events).pc = .endPacket
          · have hLast := fifo_msgID board events hPc
            simp [hPc, ih, List.range_succ, hLast]
          · simp [hPc, ih]
      | receive now frame => simp [ih]

/- As signed numbers they increase, up to the range. -/
theorem telemetry_msgIDs_increase
    (events : List Event)
    (hFew : (telemetry board events).length < 2 ^ 31) :
    ((telemetry board events).map
      (fun packet => packet.msgID.toInt)).Pairwise
        (· < ·) := by
  have hNumbers :
      (telemetry board events).map
          (fun packet => packet.msgID.toInt) =
        (List.range (telemetry board events).length).map
          (fun index =>
            (BitVec.ofNat 32 (index + 1)).toInt) := by
    have hMap :=
      congrArg (List.map BitVec.toInt)
        (telemetry_msgIDs board events)
    simpa [Function.comp_def] using hMap
  rw [hNumbers, List.pairwise_map]
  refine List.Pairwise.imp_of_mem ?_ List.pairwise_lt_range
  intro first second hFirst hSecond hBefore
  rw [List.mem_range] at hFirst hSecond
  rw [Words.toInt_ofNat_of_lt (by omega),
    Words.toInt_ofNat_of_lt (by omega)]
  omega

end Slave

end LoRaTelemetry
