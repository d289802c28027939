import LoRaTelemetry.Library.Machine
import LoRaTelemetry.Wire.Radio

/-
  The slave sketch as a machine. `loop`, `send` and
  `Sensor_Reading` run one statement at a time, and the
  `onReceive` interrupt may run between any two statements.

  Serial output is left out. The circular test track of
  `Sensor_Reading` is computed in floating point; its values
  enter as functions of the counter `c`. So does what `!`
  makes of a `bool` whose byte is neither 0 nor 1, which the
  language leaves to the compiler.

  Main declarations:
    * `Slave.Board`
    * `Slave.Pc`
    * `Slave.exec`
    * `Slave.onReceive`
    * `Slave.machine`
-/

------------------------------------------------------------
-- Boards and Globals
------------------------------------------------------------

namespace LoRaTelemetry

namespace Slave

/-
  A board: its `node`, the values of `lat1` and `lon1` as
  the counter `c` of the test track advances, and the level
  that `digitalWrite` gives a pin for `!` of a `bool` with
  some byte.
-/
structure Board where
  node : CInt
  lat1 : CInt → CFloat
  lon1 : CInt → CFloat
  negated : Byte → Bool
  negated_zero : negated 0 = true
  negated_one : negated 1 = false

/-
  Slave 8, on a track that stands still. Its compiler makes
  an exclusive or with 1 of `!`.
-/
def board8 : Board :=
  { node := 8
    lat1 := fun _ => 0
    lon1 := fun _ => 0
    negated := fun byte => byte ^^^ 1 != 0
    negated_zero := rfl
    negated_one := rfl }

/-
  The next statement of the main program. The names from
  `nodeID` to `longitudeGPS` are the assignments to the
  fields of `telemtryPacketTX`.
-/
inductive Pc where
| test
| clear
| drawRandNumber
| readTempAir
| placeLat1
| placeLon1
| advanceC
| nodeID
| RXnodeID
| msgType
| msgID
| iCommType
| timeStamp
| tempAir
| ledStatus
| latitudeGPS
| longitudeGPS
| advanceMsgCount
| beginPacket
| write
| endPacket
| receive
deriving DecidableEq, Repr

/-
  The globals of the sketch, the static counter `c`, the
  locals of `Sensor_Reading`, the packet written to the
  radio's FIFO, the level of the LED pin, and the next
  statement.
-/
structure State where
  msgCount : CInt
  timeSyncErr : CLong
  telemtryPacketTX : StructMessage
  telemtryPacketRX : PacketBuffer
  receiveflag : Bool
  c : CInt
  randNumber : CInt
  tempAir : CFloat
  lat1 : CFloat
  lon1 : CFloat
  fifo : StructMessage
  led : Bool
  pc : Pc

/- The state when `setup` has returned; the LED is HIGH. -/
def State.init : State :=
  { msgCount := 1
    timeSyncErr := 0
    telemtryPacketTX := {}
    telemtryPacketRX := PacketBuffer.zero
    receiveflag := false
    c := 1
    randNumber := 0
    tempAir := 0
    lat1 := 0
    lon1 := 0
    fifo := {}
    led := true
    pc := .test }

------------------------------------------------------------
-- The Main Program
------------------------------------------------------------

/- `syncMillis` with `millis()` reading `now`. -/
def syncMillis
    (state : State)
    (now : ULong) : CLong :=
  now - state.timeSyncErr

/-
  The bit pattern of `32 + (0.25 * randNumber)` for the
  values 1 to 4 of `random(1, 5)`.
-/
def tempReading (randNumber : CInt) : CFloat :=
  0x42000000 + 0x10000 * randNumber

/-
  One statement of the main program, with `millis()` reading
  `now` and `random(1, 5)` drawing `1 + draw`.
-/
def exec
    (board : Board)
    (state : State)
    (now : ULong)
    (draw : Fin 4) : State :=
  match state.pc with
  | .test =>
      if state.receiveflag then
        { state with pc := .clear }
      else
        state
  | .clear =>
      { state with
        receiveflag := false
        pc := .drawRandNumber }
  | .drawRandNumber =>
      { state with
        randNumber := 1 + BitVec.ofNat 32 draw.val
        pc := .readTempAir }
  | .readTempAir =>
      { state with
        tempAir := tempReading state.randNumber
        pc := .placeLat1 }
  | .placeLat1 =>
      { state with
        lat1 := board.lat1 state.c
        pc := .placeLon1 }
  | .placeLon1 =>
      { state with
        lon1 := board.lon1 state.c
        pc := .advanceC }
  | .advanceC =>
      { state with
        c := state.c + 1
        pc := .nodeID }
  | .nodeID =>
      { state with
        telemtryPacketTX :=
          { state.telemtryPacketTX with
            nodeID := board.node }
        pc := .RXnodeID }
  | .RXnodeID =>
      { state with
        telemtryPacketTX :=
          { state.telemtryPacketTX with
            RXnodeID := 10 }
        pc := .msgType }
  | .msgType =>
      { state with
        telemtryPacketTX :=
          { state.telemtryPacketTX with
            msgType := msgTypeTelemtry }
        pc := .msgID }
  | .msgID =>
      { state with
        telemtryPacketTX :=
          { state.telemtryPacketTX with
            msgID := state.msgCount }
        pc := .iCommType }
  | .iCommType =>
      { state with
        telemtryPacketTX :=
          { state.telemtryPacketTX with
            iCommType := comTypeLoRa }
        pc := .timeStamp }
  | .timeStamp =>
      { state with
        telemtryPacketTX :=
          { state.telemtryPacketTX with
            timeStamp := syncMillis state now }
        pc := .tempAir }
  | .tempAir =>
      { state with
        telemtryPacketTX :=
          { state.telemtryPacketTX with
            tempAir := state.tempAir }
        pc := .ledStatus }
  | .ledStatus =>
      { state with
        telemtryPacketTX :=
          { state.telemtryPacketTX with
            ledStatus :=
              state.telemtryPacketRX.slavePacket.ledStatus }
        pc := .latitudeGPS }
  | .latitudeGPS =>
      { state with
        telemtryPacketTX :=
          { state.telemtryPacketTX with
            latitudeGPS := state.lat1 }
        pc := .longitudeGPS }
  | .longitudeGPS =>
      { state with
        telemtryPacketTX :=
          { state.telemtryPacketTX with
            longitudeGPS := state.lon1 }
        pc := .advanceMsgCount }
  | .advanceMsgCount =>
      { state with
        msgCount := state.msgCount + 1
        pc := .beginPacket }
  | .beginPacket =>
      { state with pc := .write }
  | .write =>
      { state with
        fifo := state.telemtryPacketTX
        pc := .endPacket }
  | .endPacket =>
      { state with pc := .receive }
  | .receive =>
      { state with pc := .test }

------------------------------------------------------------
-- The Interrupt
------------------------------------------------------------

/- What an accepted frame makes `onReceive` do. -/
inductive Reaction where
| request
| command (level : Bool)
deriving DecidableEq, Repr

/-
  `onReceive`, with the reaction to an accepted frame. A
  frame is never empty, so the test of `packetSize` passes.
-/
def onReceive
    (board : Board)
    (state : State)
    (now : ULong)
    (frame : Frame) : State × Option Reaction :=
  let buffer := state.telemtryPacketRX.receive frame
  let packet := buffer.slavePacket
  let state :=
    { state with
      telemtryPacketRX := buffer
      timeSyncErr := now - packet.timeStamp }
  if packet.RXnodeID ≠ board.node then
    (state, none)
  else if packet.msgType = msgTypeCheckStatus then
    ({ state with receiveflag := true }, some .request)
  else
    ({ state with
      receiveflag := true
      led := board.negated packet.ledStatus },
      some (.command (board.negated packet.ledStatus)))

------------------------------------------------------------
-- Runs of a Slave
------------------------------------------------------------

/- A statement of the main program, or the interrupt. -/
inductive Event where
| exec (now : ULong) (draw : Fin 4)
| receive (now : ULong) (frame : Frame)

/-
  What a slave does: it starts a reply by clearing
  `receiveflag`, transmits a packet, or accepts a frame.
-/
inductive Output where
| started
| sent (packet : StructMessage)
| accepted (reaction : Reaction)
deriving DecidableEq, Repr

def step
    (board : Board)
    (state : State) : Event → State
| .exec now draw => exec board state now draw
| .receive now frame => (onReceive board state now frame).1

def emit
    (board : Board)
    (state : State) : Event → List Output
| .exec _ _ =>
    match state.pc with
    | .clear => [.started]
    | .endPacket => [.sent state.fifo]
    | _ => []
| .receive now frame =>
    match (onReceive board state now frame).2 with
    | none => []
    | some reaction => [.accepted reaction]

/- A slave whose `setup` has returned. -/
def machine (board : Board) : Machine State Event Output :=
  { init := State.init
    step := step board
    emit := emit board }

@[simp] theorem machine_init
    (board : Board) :
    (machine board).init = State.init := by
  rfl

@[simp] theorem machine_step
    (board : Board)
    (state : State)
    (event : Event) :
    (machine board).step state event =
      step board state event := by
  rfl

@[simp] theorem machine_emit
    (board : Board)
    (state : State)
    (event : Event) :
    (machine board).emit state event =
      emit board state event := by
  rfl

/- The packets among some outputs that were transmitted. -/
def Output.packet? : Output → Option StructMessage
| .sent packet => some packet
| _ => none

/- The telemetry that a slave transmits in a run. -/
def telemetry
    (board : Board)
    (events : List Event) : List StructMessage :=
  ((machine board).trace events).filterMap Output.packet?

/- The level that an accepted frame writes to the LED. -/
def Output.level? : Output → Option Bool
| .accepted (.command level) => some level
| _ => none

/- The writes to the LED pin in a run, after `setup`. -/
def ledWrites
    (board : Board)
    (events : List Event) : List Bool :=
  ((machine board).trace events).filterMap Output.level?

end Slave

end LoRaTelemetry
