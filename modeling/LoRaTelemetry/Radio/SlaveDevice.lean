import LoRaTelemetry.Radio.Reading
import LoRaTelemetry.Slave.Runs

/-
  A slave with its radio: the statements of the sketch call
  the driver, the driver works on the registers of the chip,
  and the chip interrupts the sketch when a frame has come.

  A call of the driver is one step. No interrupt can come
  within one: from `beginPacket` to `receive` the chip is in
  no receive mode.

  Main declarations:
    * `Slave.Device`
    * `Slave.Device.step`
    * `Slave.device`
-/

------------------------------------------------------------
-- The Device
------------------------------------------------------------

namespace LoRaTelemetry

namespace Slave

variable (board : Board)

/- `onReceive` after the bytes have been copied. -/
def accept
    (state : State)
    (now : ULong)
    (buffer : PacketBuffer) : State :=
  let packet := buffer.slavePacket
  let state :=
    { state with
      telemtryPacketRX := buffer
      timeSyncErr := now - packet.timeStamp }
  if packet.RXnodeID ≠ board.node then
    state
  else if packet.msgType = msgTypeCheckStatus then
    { state with receiveflag := true }
  else
    { state with
      receiveflag := true
      led := board.negated packet.ledStatus }

/- `onReceive` as the driver calls it. -/
def onReceiveCall
    (now : ULong)
    (packetSize : Nat)
    (called : LoRaClass × State) : LoRaClass × State :=
  if packetSize = 0 then
    called
  else
    let (bytes, radio) :=
      LoRaClass.readBytes structSize called.1
    (radio,
      accept board called.2 now
        (called.2.telemtryPacketRX.overwrite bytes))

/-
  The globals of the sketch, the radio, and whether the wait
  of `endPacket` has begun. What the globals call `fifo` lies
  in the buffer of the chip here.
-/
structure Device where
  sketch : State
  radio : LoRaClass
  waiting : Bool := false

/-
  A statement, the arrival of a frame at some address of the
  buffer, or the end of a transmission.
-/
inductive DeviceEvent where
| exec (now : ULong) (draw : Fin 4)
| arrive
    (now : ULong) (frame : Frame)
    (start : Byte) (crcError : Bool)
| transmitted

namespace Device

/- `setup`, on a chip in any state. -/
def init (chip : Transceiver) : Device :=
  { sketch := State.init
    radio :=
      (LoRaClass.begin { chip := chip }).receive 0 }

variable (device : Device)

def exec
    (now : ULong)
    (draw : Fin 4) : Device :=
  match device.sketch.pc with
  | .beginPacket =>
      { device with
        sketch := { device.sketch with pc := .write }
        radio := device.radio.beginPacket false }
  | .write =>
      { device with
        sketch := { device.sketch with pc := .endPacket }
        radio :=
          (device.radio.write
            device.sketch.telemtryPacketTX.bytes).2 }
  | .endPacket =>
      if device.waiting then
        let (sent, radio) := device.radio.pollSent
        if sent then
          { sketch := { device.sketch with pc := .receive }
            radio := radio
            waiting := false }
        else
          { device with radio := radio }
      else
        { device with
          radio := device.radio.startSending
          waiting := true }
  | .receive =>
      { device with
        sketch := { device.sketch with pc := .test }
        radio := device.radio.receive 0 }
  | _ =>
      { device with
        sketch := Slave.exec board device.sketch now draw }

/-
  A frame arrives. The pin that interrupts the sketch rises
  when the chip announces a frame and announced none before.
-/
def arrive
    (now : ULong)
    (frame : Frame)
    (start : Byte)
    (crcError : Bool) : Device :=
  let arrived :=
    { device.radio with
      chip := device.radio.chip.arrive frame start crcError }
  if device.radio.chip.irqFlags &&& irqRxDoneMask = 0 ∧
      arrived.chip.irqFlags &&& irqRxDoneMask ≠ 0 then
    let (radio, sketch) :=
      arrived.handleDio0Rise (onReceiveCall board now)
        device.sketch
    { device with
      sketch := sketch
      radio := radio }
  else
    { device with radio := arrived }

def step : DeviceEvent → Device
| .exec now draw => device.exec board now draw
| .arrive now frame start crcError =>
    device.arrive board now frame start crcError
| .transmitted =>
    { device with
      radio :=
        { device.radio with
          chip := device.radio.chip.transmitted } }

/- The frame that the chip receives undamaged. -/
def received? : DeviceEvent → Option (ULong × Frame)
| .arrive now frame _ crcError =>
    if device.radio.chip.Receiving ∧ crcError = false then
      some (now, frame)
    else
      none
| _ => none

end Device

/- A slave from its `setup` on, with what its chip hears. -/
def device (chip : Transceiver) :
    Machine Device DeviceEvent (ULong × Frame) :=
  { init := Device.init chip
    step := Device.step board
    emit := fun device event =>
      (device.received? event).toList }

end Slave

end LoRaTelemetry
