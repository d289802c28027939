import LoRaTelemetry.Wire.Radio

/-
  The functions of the master sketch over its globals.

  Serial output is left out. The HTTP client and the JSON
  library enter through the outcome of a GET; an invalid
  document or a missing element reads as zero.

  Main declarations:
    * `Master.State`
    * `Master.pktBuild`
    * `Master.getDataFromServer`
    * `Master.onreceive`
-/

------------------------------------------------------------
-- Configuration and Globals
------------------------------------------------------------

namespace LoRaTelemetry

namespace Master

def node : CInt := 10

def interval : CInt := 1200

/- The polling table; a C array is a nonempty object. -/
structure Config where
  slaveNode : List CInt
  nonempty : slaveNode ≠ []
  fits : 4 * slaveNode.length < 2 ^ 32

/- The table of the sketch. -/
def deployed : Config :=
  { slaveNode := [8, 9]
    nonempty := by decide
    fits := by decide }

/-
  The globals of the sketch, with the static index of
  `pktBuild` and the static watermark of
  `getDataFromServer`.
-/
structure State where
  msgCount : CInt
  lastSendTime : CLong
  telemtryPacketRX : PacketBuffer
  telemtryPacketTX : StructMessage
  i : CInt
  lastServerMsgID : CInt

/- The globals when `loop` is first entered. -/
def State.init : State :=
  { msgCount := 1
    lastSendTime := 0
    telemtryPacketRX := PacketBuffer.zero
    telemtryPacketTX := {}
    i := 0
    lastServerMsgID := 0 }

------------------------------------------------------------
-- GET Outcomes
------------------------------------------------------------

/- The elements of `data[0]` that the sketch reads. -/
structure DataRow where
  msgID : Option CInt := none
  nodeID : Option CInt := none
  iCommType : Option CInt := none
  tempAir : Option CFloat := none
  ledStatus : Option CInt := none
deriving DecidableEq, Repr

/- A response body; `none` when no row can be parsed. -/
abbrev Body := Option DataRow

namespace Body

def msgID (body : Body) : CInt :=
  (body.bind DataRow.msgID).getD 0

def nodeID (body : Body) : CInt :=
  (body.bind DataRow.nodeID).getD 0

def iCommType (body : Body) : CInt :=
  (body.bind DataRow.iCommType).getD 0

def tempAir (body : Body) : CFloat :=
  (body.bind DataRow.tempAir).getD 0

def ledStatus (body : Body) : CInt :=
  (body.bind DataRow.ledStatus).getD 0

end Body

/- The result of `http.GET()` and of `http.getString()`. -/
structure GetOutcome where
  httpCode : Int
  body : Body
deriving DecidableEq, Repr

def httpCodeOk : Int := 200

------------------------------------------------------------
-- Building a Packet
------------------------------------------------------------

/- `slaveNode[i]`. -/
def polled
    (config : Config)
    (state : State) : CInt :=
  config.slaveNode.getD state.i.toNat 0

/- `i++`, wrapped by the unsigned comparison that follows. -/
def nextIndex
    (config : Config)
    (i : CInt) : CInt :=
  let count := BitVec.ofNat 32 config.slaveNode.length
  let i := i + 1
  if count ≤ i then i - count else i

/- The status request for the polled slave. -/
def statusRequest
    (config : Config)
    (state : State)
    (now : ULong) : StructMessage :=
  { nodeID := node
    RXnodeID := polled config state
    msgType := msgTypeCheckStatus
    msgID := state.msgCount
    iCommType := comTypeLoRa
    timeStamp := now
    tempAir := 0x422B1EB8
    latitudeGPS := 0x419E490C
    longitudeGPS := 0x41A56593
    ledStatus := 1 }

/- `pktBuild` with `millis()` reading `now`. -/
def pktBuild
    (config : Config)
    (state : State)
    (now : ULong) : State :=
  { state with
    telemtryPacketTX := statusRequest config state now
    msgCount := state.msgCount + 1
    i := nextIndex config state.i }

/- The packet of the command branch. -/
def commandPacket
    (state : State)
    (body : Body)
    (now : ULong) : StructMessage :=
  { nodeID := node
    RXnodeID := body.nodeID
    msgType := msgTypeCommand
    msgID := state.msgCount
    iCommType := body.iCommType.setWidth 8
    timeStamp := now
    tempAir := body.tempAir
    latitudeGPS := 0x419E490C
    longitudeGPS := 0x41A56593
    ledStatus := body.ledStatus }

/- The command branch of `getDataFromServer`. -/
def commandBuild
    (state : State)
    (body : Body)
    (now : ULong) : State :=
  { state with
    lastServerMsgID := body.msgID
    telemtryPacketTX := commandPacket state body now
    msgCount := state.msgCount + 1 }

/-
  A packet built during a call, with the response that it
  carries out when it is a command.
-/
structure Build where
  packet : StructMessage
  order : Option Body
deriving DecidableEq, Repr

/-
  `getDataFromServer`, with the packet built in the call.
  A positive status other than 200 reaches neither `pktBuild`
  nor the command branch.
-/
def getDataFromServer
    (config : Config)
    (state : State)
    (got : GetOutcome)
    (now : ULong) : State × Option Build :=
  if 0 < got.httpCode then
    if got.httpCode = httpCodeOk then
      if got.body.msgID.toInt ≤
          state.lastServerMsgID.toInt then
        (pktBuild config state now,
          some ⟨statusRequest config state now, none⟩)
      else
        (commandBuild state got.body now,
          some
            ⟨commandPacket state got.body now,
              some got.body⟩)
    else
      (state, none)
  else
    (pktBuild config state now,
      some ⟨statusRequest config state now, none⟩)

------------------------------------------------------------
-- Sending and Receiving
------------------------------------------------------------

/- The packet that `send` puts on the air. -/
def send (state : State) : StructMessage :=
  state.telemtryPacketTX

/- `lastSendTime = millis()`. -/
def markSendTime
    (state : State)
    (now : ULong) : State :=
  { state with lastSendTime := now }

/- The condition of the listening loop. -/
def listening
    (state : State)
    (now : ULong) : Bool :=
  now - state.lastSendTime < interval

/- The values that `postDataToServer` puts into its body. -/
structure Record where
  nodeID : CInt
  iCommType : Byte
  timeStamp : ULong
  tempAir : CFloat
  latitudeGPS : CFloat
  longitudeGPS : CFloat
  msgID : CInt
  ledStatus : CInt
deriving DecidableEq, Repr

def StructMessage.record
    (packet : StructMessage) : Record :=
  { nodeID := packet.nodeID
    iCommType := packet.iCommType
    timeStamp := packet.timeStamp
    tempAir := packet.tempAir
    latitudeGPS := packet.latitudeGPS
    longitudeGPS := packet.longitudeGPS
    msgID := packet.msgID
    ledStatus := packet.ledStatus }

/- A record with the members of a packet. -/
structure Record.Shows
    (record : Record)
    (packet : StructMessage) : Prop where
  nodeID : record.nodeID = packet.nodeID
  iCommType : record.iCommType = packet.iCommType
  timeStamp : record.timeStamp = packet.timeStamp
  tempAir : record.tempAir = packet.tempAir
  latitudeGPS : record.latitudeGPS = packet.latitudeGPS
  longitudeGPS : record.longitudeGPS = packet.longitudeGPS
  msgID : record.msgID = packet.msgID
  ledStatus : record.ledStatus = packet.ledStatus

/- `postDataToServer` reads the receive buffer. -/
def postDataToServer (state : State) : Record :=
  state.telemtryPacketRX.masterPacket.record

theorem postDataToServer_shows
    (state : State) :
    (postDataToServer state).Shows
      state.telemtryPacketRX.masterPacket := by
  constructor <;> rfl

/-
  `onreceive`, with the record it posts; `none` is a poll at
  which `parsePacket` finds no packet.
-/
def onreceive
    (state : State)
    (packet : Option Frame) : State × Option Record :=
  match packet with
  | none => (state, none)
  | some frame =>
      let state :=
        { state with
          telemtryPacketRX :=
            state.telemtryPacketRX.receive frame }
      if state.telemtryPacketRX.masterPacket.RXnodeID ≠
          node then
        (state, none)
      else
        (state, some (postDataToServer state))

end Master

end LoRaTelemetry
