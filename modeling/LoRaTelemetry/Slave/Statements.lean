import LoRaTelemetry.Slave.Sketch

/-
  What one statement of the main program does and what one
  interrupt does, field by field.

  Main declarations:
    * `Slave.Pc.next`
    * `Slave.Executed`
    * `Slave.exec_executed`
    * `Slave.onReceive_sameMain`
    * `Slave.onReceive_stores`
-/

------------------------------------------------------------
-- Statements
------------------------------------------------------------

namespace LoRaTelemetry

namespace Slave

variable (board : Board) (state : State)

/- The statement after one, by the flag that `loop` tests. -/
def Pc.next (receiveflag : Bool) : Pc → Pc
| .test => if receiveflag then .clear else .test
| .clear => .drawRandNumber
| .drawRandNumber => .readTempAir
| .readTempAir => .placeLat1
| .placeLat1 => .placeLon1
| .placeLon1 => .advanceC
| .advanceC => .nodeID
| .nodeID => .RXnodeID
| .RXnodeID => .msgType
| .msgType => .msgID
| .msgID => .iCommType
| .iCommType => .timeStamp
| .timeStamp => .tempAir
| .tempAir => .ledStatus
| .ledStatus => .latitudeGPS
| .latitudeGPS => .longitudeGPS
| .longitudeGPS => .advanceMsgCount
| .advanceMsgCount => .beginPacket
| .beginPacket => .write
| .write => .endPacket
| .endPacket => .receive
| .receive => .test

/- Which statement assigns which field of the packet. -/
structure Assigned
    (now : ULong)
    (packet : StructMessage) : Prop where
  nodeID :
    packet.nodeID =
      if state.pc = .nodeID then
        board.node
      else
        state.telemtryPacketTX.nodeID
  RXnodeID :
    packet.RXnodeID =
      if state.pc = .RXnodeID then
        10
      else
        state.telemtryPacketTX.RXnodeID
  msgType :
    packet.msgType =
      if state.pc = .msgType then
        msgTypeTelemtry
      else
        state.telemtryPacketTX.msgType
  msgID :
    packet.msgID =
      if state.pc = .msgID then
        state.msgCount
      else
        state.telemtryPacketTX.msgID
  iCommType :
    packet.iCommType =
      if state.pc = .iCommType then
        comTypeLoRa
      else
        state.telemtryPacketTX.iCommType
  timeStamp :
    packet.timeStamp =
      if state.pc = .timeStamp then
        syncMillis state now
      else
        state.telemtryPacketTX.timeStamp
  tempAir :
    packet.tempAir =
      if state.pc = .tempAir then
        state.tempAir
      else
        state.telemtryPacketTX.tempAir
  ledStatus :
    packet.ledStatus =
      if state.pc = .ledStatus then
        state.telemtryPacketRX.slavePacket.ledStatus
      else
        state.telemtryPacketTX.ledStatus
  latitudeGPS :
    packet.latitudeGPS =
      if state.pc = .latitudeGPS then
        state.lat1
      else
        state.telemtryPacketTX.latitudeGPS
  longitudeGPS :
    packet.longitudeGPS =
      if state.pc = .longitudeGPS then
        state.lon1
      else
        state.telemtryPacketTX.longitudeGPS

/-
  What one statement of the main program does: where it goes
  on, and which statement writes what.
-/
structure Executed
    (now : ULong)
    (draw : Fin 4)
    (next : State) : Prop where
  pc : next.pc = state.pc.next state.receiveflag
  receiveflag :
    next.receiveflag =
      if state.pc = .clear then
        false
      else
        state.receiveflag
  randNumber :
    next.randNumber =
      if state.pc = .drawRandNumber then
        1 + BitVec.ofNat 32 draw.val
      else
        state.randNumber
  tempAir :
    next.tempAir =
      if state.pc = .readTempAir then
        tempReading state.randNumber
      else
        state.tempAir
  lat1 :
    next.lat1 =
      if state.pc = .placeLat1 then
        board.lat1 state.c
      else
        state.lat1
  lon1 :
    next.lon1 =
      if state.pc = .placeLon1 then
        board.lon1 state.c
      else
        state.lon1
  c :
    next.c =
      if state.pc = .advanceC then
        state.c + 1
      else
        state.c
  msgCount :
    next.msgCount =
      if state.pc = .advanceMsgCount then
        state.msgCount + 1
      else
        state.msgCount
  fifo :
    next.fifo =
      if state.pc = .write then
        state.telemtryPacketTX
      else
        state.fifo
  packet :
    Assigned board state now next.telemtryPacketTX
  telemtryPacketRX :
    next.telemtryPacketRX = state.telemtryPacketRX
  timeSyncErr : next.timeSyncErr = state.timeSyncErr
  led : next.led = state.led

theorem exec_assigned
    (now : ULong)
    (draw : Fin 4) :
    Assigned board state now
      (exec board state now draw).telemtryPacketTX := by
  unfold exec
  cases hPc : state.pc with
  | test =>
      cases state.receiveflag <;>
        constructor <;>
        simp [hPc]
  | _ => constructor <;> simp [hPc]

theorem exec_executed
    (now : ULong)
    (draw : Fin 4) :
    Executed board state now draw
      (exec board state now draw) := by
  constructor
  case packet => exact exec_assigned board state now draw
  all_goals
    unfold exec
    cases hPc : state.pc with
    | test =>
        cases hFlag : state.receiveflag <;>
          simp [hPc, hFlag, Pc.next]
    | _ => simp [Pc.next]

------------------------------------------------------------
-- Frame Conditions
------------------------------------------------------------

/- The globals that only the interrupt writes. -/
structure SameReception (left right : State) : Prop where
  telemtryPacketRX :
    left.telemtryPacketRX = right.telemtryPacketRX
  timeSyncErr : left.timeSyncErr = right.timeSyncErr
  led : left.led = right.led

/- The main program leaves them alone. -/
theorem exec_sameReception
    (now : ULong)
    (draw : Fin 4) :
    SameReception (exec board state now draw) state := by
  have hExec := exec_executed board state now draw
  exact
    ⟨hExec.telemtryPacketRX, hExec.timeSyncErr, hExec.led⟩

/- The part of the state that only the main program writes. -/
structure SameMain (left right : State) : Prop where
  msgCount : left.msgCount = right.msgCount
  telemtryPacketTX :
    left.telemtryPacketTX = right.telemtryPacketTX
  c : left.c = right.c
  randNumber : left.randNumber = right.randNumber
  tempAir : left.tempAir = right.tempAir
  lat1 : left.lat1 = right.lat1
  lon1 : left.lon1 = right.lon1
  fifo : left.fifo = right.fifo
  pc : left.pc = right.pc

/- The interrupt leaves it alone. -/
theorem onReceive_sameMain
    (now : ULong)
    (frame : Frame) :
    SameMain (onReceive board state now frame).1 state := by
  unfold onReceive
  simp only
  split
  · exact ⟨rfl, rfl, rfl, rfl, rfl, rfl, rfl, rfl, rfl⟩
  · split <;>
      exact ⟨rfl, rfl, rfl, rfl, rfl, rfl, rfl, rfl, rfl⟩

/- What the interrupt stores, whatever it then decides. -/
theorem onReceive_stores
    (now : ULong)
    (frame : Frame) :
    (onReceive board state now frame).1.telemtryPacketRX =
        state.telemtryPacketRX.receive frame ∧
      (onReceive board state now frame).1.timeSyncErr =
        now -
          (state.telemtryPacketRX.receive
            frame).slavePacket.timeStamp := by
  unfold onReceive
  simp only
  split
  · exact ⟨rfl, rfl⟩
  · split <;> exact ⟨rfl, rfl⟩

end Slave

end LoRaTelemetry
