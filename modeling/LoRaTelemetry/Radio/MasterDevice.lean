import LoRaTelemetry.Master.Program
import LoRaTelemetry.Radio.Mailbox

/-
  The master with its radio. It polls: no interrupt is
  attached, and the chip holds a frame until `parsePacket`
  asks for it. A call of the driver is one step, and the chip
  hears or gives up between two calls.

  Main declarations:
    * `Master.Device`
    * `Master.Reading`
    * `Master.onreceiveCall`
    * `Master.Device.step`
    * `Master.device`
-/

------------------------------------------------------------
-- The Device
------------------------------------------------------------

namespace LoRaTelemetry

namespace Master

structure Device where
  sketch : State
  radio : LoRaClass
  call : Call

/-
  A call, the arrival of a frame at some address of the
  buffer, or what the chip ends by itself.
-/
inductive DeviceEvent where
| exec (got : GetOutcome) (now : ULong)
| arrive (frame : Frame) (start : Byte) (crcError : Bool)
| giveUp
| transmitted

/-
  What `onreceive` is given by the driver: the length that
  `parsePacket` returns and the bytes that `readBytes` copies.
-/
structure Reading where
  packetSize : Nat
  bytes : List Byte
deriving DecidableEq, Repr

/-
  What a device does: something happens to the frame that its
  chip holds, a poll finds a packet, or a record is posted.
-/
inductive DeviceOutput where
| mailed (mail : Mail)
| polled (reading : Reading)
| posted (record : Record)
deriving DecidableEq

/-
  `onreceive` over the driver, with what it is given and the
  record it posts.
-/
def onreceiveCall
    (radio : LoRaClass)
    (state : State) :
    LoRaClass × State × Option Reading × Option Record :=
  let (packetSize, radio) := radio.parsePacket 0
  if packetSize = 0 then
    (radio, state, none, none)
  else
    let (bytes, radio) :=
      LoRaClass.readBytes structSize radio
    let reading := some ⟨packetSize, bytes⟩
    let state :=
      { state with
        telemtryPacketRX :=
          state.telemtryPacketRX.overwrite bytes }
    if state.telemtryPacketRX.masterPacket.RXnodeID ≠
        node then
      (radio, state, reading, none)
    else
      (radio, state, reading, some (postDataToServer state))

end Master

/- The packet that a poll finds, as the buffer holds it. -/
def Transceiver.found?
    (chip : Transceiver) : Option Frame :=
  if hFound :
      chip.irqFlags &&& irqRxDoneMask ≠ 0 ∧
        chip.irqFlags &&& irqPayloadCrcErrorMask = 0 ∧
        chip.rxNbBytes ≠ 0 then
    some
      { bytes :=
          RingMemory.load chip.memory
            chip.fifoRxCurrentAddr chip.rxNbBytes.toNat
        nonempty := by
          have hSome : chip.rxNbBytes.toNat ≠ 0 :=
            fun hNone => hFound.2.2 (by
              apply BitVec.eq_of_toNat_eq
              exact hNone)
          rw [RingMemory.length_load]
          omega
        fits := by
          have hBound := chip.rxNbBytes.isLt
          rw [RingMemory.length_load]
          unfold maxPktLength
          omega }
  else
    none

namespace Master

namespace Device

variable (config : Config) (device : Device)

/- `setup`, on a chip that has been reset. -/
def init (chip : Transceiver) : Device :=
  { sketch := State.init
    radio := LoRaClass.begin { chip := chip }
    call := .getDataFromServer }

def exec
    (got : GetOutcome)
    (now : ULong) : Device :=
  match device.call with
  | .getDataFromServer =>
      { device with
        sketch :=
          (getDataFromServer config device.sketch got now).1
        call := .beginPacket }
  | .beginPacket =>
      { device with
        radio := device.radio.beginPacket false
        call := .write }
  | .write =>
      { device with
        radio :=
          (device.radio.write
            device.sketch.telemtryPacketTX.bytes).2
        call := .endPacket }
  | .endPacket =>
      { device with
        radio := device.radio.startSending
        call := .wait }
  | .wait =>
      let (sent, radio) := device.radio.pollSent
      { device with
        radio := radio
        call := if sent then .receive else .wait }
  | .receive =>
      { device with
        radio := device.radio.receive 0
        call := .lastSendTime }
  | .lastSendTime =>
      { device with
        sketch := markSendTime device.sketch now
        call := .onreceive }
  | .onreceive =>
      if listening device.sketch now then
        let (radio, sketch, _, _) :=
          onreceiveCall device.radio device.sketch
        { device with
          sketch := sketch
          radio := radio }
      else
        { device with call := .getDataFromServer }

def step : DeviceEvent → Device
| .exec got now => device.exec config got now
| .arrive frame start crcError =>
    { device with
      radio :=
        { device.radio with
          chip :=
            device.radio.chip.arrive frame start crcError } }
| .giveUp =>
    { device with
      radio :=
        { device.radio with
          chip := device.radio.chip.giveUp } }
| .transmitted =>
    { device with
      radio :=
        { device.radio with
          chip := device.radio.chip.transmitted } }

/- What a step does, as the sketch and the chip show it. -/
def outputs : DeviceEvent → List DeviceOutput
| .exec _ now =>
    match device.call with
    | .write =>
        [.mailed (.overwrite device.sketch.telemtryPacketTX)]
    | .onreceive =>
        if listening device.sketch now then
          let (_, _, reading, record) :=
            onreceiveCall device.radio device.sketch
          [.mailed .poll] ++
            (reading.map DeviceOutput.polled).toList ++
            (record.map DeviceOutput.posted).toList
        else
          []
    | _ => []
| .arrive frame start crcError =>
    if device.radio.chip.Receiving then
      [.mailed (.arrive frame start crcError)]
    else
      []
| .giveUp => []
| .transmitted => []

end Device

/- The master from its `setup` on. -/
def device
    (config : Config)
    (chip : Transceiver) :
    Machine Device DeviceEvent DeviceOutput :=
  { init := Device.init chip
    step := Device.step config
    emit := Device.outputs }

def DeviceOutput.mail? : DeviceOutput → Option Mail
| .mailed mail => some mail
| _ => none

def DeviceOutput.polled? : DeviceOutput → Option Reading
| .polled reading => some reading
| _ => none

def DeviceOutput.record? : DeviceOutput → Option Record
| .posted record => some record
| _ => none

------------------------------------------------------------
-- Polls
------------------------------------------------------------

variable {radio : LoRaClass} {frame : Frame}

/- What a poll finds is held by the chip. -/
theorem holds_of_found
    (hFound : radio.chip.found? = some frame) :
    radio.chip.Holds frame := by
  unfold Transceiver.found? at hFound
  split at hFound
  · rename_i hSome
    rw [Option.some.injEq] at hFound
    subst hFound
    constructor
    · exact hSome.1
    · exact hSome.2.1
    · simp
    · simp
  · cases hFound

/- Where a poll finds nothing, the driver says so. -/
theorem parsePacket_of_not_found
    (hNone : radio.chip.found? = none) :
    (radio.parsePacket 0).1 = 0 := by
  unfold Transceiver.found? at hNone
  split at hNone
  · cases hNone
  · rename_i hEmpty
    by_cases hSome :
        radio.chip.irqFlags &&& irqRxDoneMask ≠ 0 ∧
          radio.chip.irqFlags &&&
            irqPayloadCrcErrorMask = 0
    · rw [LoRaClass.parsePacket_of_announced hSome.1
        hSome.2]
      have hCount : radio.chip.rxNbBytes = 0 := by
        by_contra hLeft
        exact hEmpty ⟨hSome.1, hSome.2, hLeft⟩
      rw [hCount]
      rfl
    · rw [LoRaClass.parsePacket_of_unannounced hSome]

/- What `onreceive` is given of a frame. -/
def reading (frame : Frame) : Reading :=
  { packetSize := frame.bytes.length
    bytes := frame.bytes.take structSize }

/- A poll does to the sketch what `onreceive` does. -/
theorem onreceiveCall_eq
    (radio : LoRaClass)
    (state : State) :
    (onreceiveCall radio state).2 =
      ((onreceive state radio.chip.found?).1,
        radio.chip.found?.map reading,
        (onreceive state radio.chip.found?).2) := by
  unfold onreceiveCall
  cases hParse : radio.parsePacket 0 with
  | mk packetSize opened =>
      cases hFound : radio.chip.found? with
      | none =>
          have hNone := parsePacket_of_not_found hFound
          rw [hParse] at hNone
          simp only at hNone
          simp only [hNone, if_true]
          rfl
      | some frame =>
          rcases LoRaClass.parsePacket_reads
              (holds_of_found hFound) with
            ⟨hLength, hReads⟩
          rw [hParse] at hLength hReads
          simp only at hLength hReads
          have hSome : packetSize ≠ 0 := by
            rw [hLength]
            exact Nat.ne_of_gt frame.nonempty
          have hBytes :
              LoRa.readBytes structSize
                  (LoRa.opened frame) =
                frame.bytes.take structSize := by
            rw [LoRa.readBytes_eq_take]
            rfl
          simp only [hSome, if_false, hReads.readBytes]
          unfold onreceive PacketBuffer.receive
          simp only [Option.map_some, reading, hLength,
            hBytes]
          split_ifs <;> rfl

/- It leaves the radio as `parsePacket` and reading do. -/
theorem onreceiveCall_radio
    (radio : LoRaClass)
    (state : State) :
    (onreceiveCall radio state).1.SameButPointer
      (radio.parsePacket 0).2 := by
  unfold onreceiveCall
  cases hParse : radio.parsePacket 0 with
  | mk packetSize opened =>
      have hRead :=
        LoRaClass.sameButPointer_readBytes structSize opened
      simp only
      split_ifs
      · exact ⟨rfl, rfl⟩
      · exact hRead
      · exact hRead

end Master

end LoRaTelemetry
