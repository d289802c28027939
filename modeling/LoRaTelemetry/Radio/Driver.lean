import LoRaTelemetry.Radio.Transceiver

/-
  The functions of `LoRaClass` by which the two sketches send
  and receive, over the registers of the chip.

  The wait of `endPacket` is one poll of the flags at a time;
  the chip goes on between polls, and in one of the rounds it
  may have sent the packet.

  Main declarations:
    * `LoRaClass`
    * `LoRaClass.beginPacket`
    * `LoRaClass.write`
    * `LoRaClass.startSending`
    * `LoRaClass.pollSent`
    * `LoRaClass.endPacket`
    * `LoRaClass.parsePacket`
    * `LoRaClass.readBytes`
    * `LoRaClass.handleDio0Rise`
-/

------------------------------------------------------------
-- The Object
------------------------------------------------------------

namespace LoRaTelemetry

structure LoRaClass where
  chip : Transceiver
  packetIndex : Int := 0
  implicitHeaderMode : Bool := false

namespace LoRaClass

variable (radio : LoRaClass)

def readRegister (address : Register) : Byte × LoRaClass :=
  ((radio.chip.readRegister address).1,
    { radio with
      chip := (radio.chip.readRegister address).2 })

def writeRegister
    (address : Register)
    (value : Byte) : LoRaClass :=
  { radio with
    chip := radio.chip.writeRegister address value }

------------------------------------------------------------
-- Modes
------------------------------------------------------------

def idle : LoRaClass :=
  radio.writeRegister .opMode
    (modeLongRangeMode ||| modeStdby)

def sleep : LoRaClass :=
  radio.writeRegister .opMode
    (modeLongRangeMode ||| modeSleep)

def explicitHeaderModeOn : LoRaClass :=
  let radio := { radio with implicitHeaderMode := false }
  let (config, radio) := radio.readRegister .modemConfig1
  radio.writeRegister .modemConfig1 (config &&& 0xfe)

def implicitHeaderModeOn : LoRaClass :=
  let radio := { radio with implicitHeaderMode := true }
  let (config, radio) := radio.readRegister .modemConfig1
  radio.writeRegister .modemConfig1 (config ||| 0x01)

def setSignalBandwidth (sbw : Int) : LoRaClass :=
  let bw : Byte :=
    if sbw ≤ 7800 then 0
    else if sbw ≤ 10400 then 1
    else if sbw ≤ 15600 then 2
    else if sbw ≤ 20800 then 3
    else if sbw ≤ 31250 then 4
    else if sbw ≤ 41700 then 5
    else if sbw ≤ 62500 then 6
    else if sbw ≤ 125000 then 7
    else if sbw ≤ 250000 then 8
    else 9
  let (config, radio) := radio.readRegister .modemConfig1
  radio.writeRegister .modemConfig1
    (config &&& 0x0f ||| bw <<< 4)

/- `begin` once the chip is reset, on the registers above. -/
def begin : LoRaClass :=
  let radio := radio.sleep
  let radio := radio.writeRegister .fifoTxBaseAddr 0
  let radio := radio.writeRegister .fifoRxBaseAddr 0
  let radio := radio.setSignalBandwidth 125000
  radio.idle

def receive (size : Int) : LoRaClass :=
  let radio :=
    if 0 < size then
      radio.implicitHeaderModeOn.writeRegister
        .payloadLength (BitVec.ofInt 8 size)
    else
      radio.explicitHeaderModeOn
  radio.writeRegister .opMode
    (modeLongRangeMode ||| modeRxContinuous)

------------------------------------------------------------
-- Sending
------------------------------------------------------------

def beginPacket (implicitHeader : Bool) : LoRaClass :=
  let radio := radio.idle
  let radio :=
    if implicitHeader then
      radio.implicitHeaderModeOn
    else
      radio.explicitHeaderModeOn
  let radio := radio.writeRegister .fifoAddrPtr 0
  radio.writeRegister .payloadLength 0

/- The bytes put into the buffer one by one. -/
def writeAll (bytes : List Byte) : LoRaClass :=
  bytes.foldl
    (fun radio byte => radio.writeRegister .fifo byte) radio

/- `write`, with the number of bytes it took. -/
def write (buffer : List Byte) : Nat × LoRaClass :=
  let (currentLength, radio) :=
    radio.readRegister .payloadLength
  let size :=
    if maxPktLength <
        currentLength.toNat + buffer.length then
      maxPktLength - currentLength.toNat
    else
      buffer.length
  let radio := radio.writeAll (buffer.take size)
  (size,
    radio.writeRegister .payloadLength
      (BitVec.ofNat 8 (currentLength.toNat + size)))

/- `endPacket` up to its wait. -/
def startSending : LoRaClass :=
  radio.writeRegister .opMode (modeLongRangeMode ||| modeTx)

/-
  A round of the wait of `endPacket`: whether the flags show
  the end of the transmission, and then the rest of it.
-/
def pollSent : Bool × LoRaClass :=
  let (flags, radio) := radio.readRegister .irqFlags
  if flags &&& irqTxDoneMask = 0 then
    (false, radio)
  else
    (true, radio.writeRegister .irqFlags irqTxDoneMask)

/-
  The wait of `endPacket`, with whether it has come to its
  end. Each round says whether the chip comes to the end of
  the transmission before the flags are read.
-/
def waitSent : List Bool → LoRaClass → Bool × LoRaClass
| [], radio => (false, radio)
| ended :: rounds, radio =>
    let radio :=
      if ended then
        { radio with chip := radio.chip.transmitted }
      else
        radio
    let (sent, radio) := radio.pollSent
    if sent then
      (true, radio)
    else
      waitSent rounds radio

/- `endPacket`, as far as the rounds of its wait go. -/
def endPacket (rounds : List Bool) : Bool × LoRaClass :=
  waitSent rounds radio.startSending

------------------------------------------------------------
-- Receiving
------------------------------------------------------------

/- `parsePacket`, with the length it returns. -/
def parsePacket (size : Int) : Nat × LoRaClass :=
  let (irqFlags, radio) := radio.readRegister .irqFlags
  let radio :=
    if 0 < size then
      radio.implicitHeaderModeOn.writeRegister
        .payloadLength (BitVec.ofInt 8 size)
    else
      radio.explicitHeaderModeOn
  let radio := radio.writeRegister .irqFlags irqFlags
  if irqFlags &&& irqRxDoneMask ≠ 0 ∧
      irqFlags &&& irqPayloadCrcErrorMask = 0 then
    let radio := { radio with packetIndex := 0 }
    let (packetLength, radio) :=
      if radio.implicitHeaderMode then
        radio.readRegister .payloadLength
      else
        radio.readRegister .rxNbBytes
    let (current, radio) :=
      radio.readRegister .fifoRxCurrentAddr
    let radio := radio.writeRegister .fifoAddrPtr current
    (packetLength.toNat, radio.idle)
  else
    let (mode, radio) := radio.readRegister .opMode
    if mode ≠ modeLongRangeMode ||| modeRxSingle then
      let radio := radio.writeRegister .fifoAddrPtr 0
      (0,
        radio.writeRegister .opMode
          (modeLongRangeMode ||| modeRxSingle))
    else
      (0, radio)

def available : Int :=
  (radio.readRegister .rxNbBytes).1.toNat -
    radio.packetIndex

/- `read` gives -1, here `none`, when nothing is left. -/
def read : Option Byte × LoRaClass :=
  if radio.available = 0 then
    (none, radio)
  else
    let radio :=
      { radio with packetIndex := radio.packetIndex + 1 }
    let (byte, radio) := radio.readRegister .fifo
    (some byte, radio)

def peek : Option Byte × LoRaClass :=
  if radio.available = 0 then
    (none, radio)
  else
    let (currentAddress, radio) :=
      radio.readRegister .fifoAddrPtr
    let (byte, radio) := radio.readRegister .fifo
    (some byte,
      radio.writeRegister .fifoAddrPtr currentAddress)

/- `Stream::readBytes` with the time-out of the driver. -/
def readBytes : Nat → LoRaClass → List Byte × LoRaClass
| 0, radio => ([], radio)
| requested + 1, radio =>
    match radio.read with
    | (none, radio) => ([], radio)
    | (some byte, radio) =>
        let (bytes, radio) := readBytes requested radio
        (byte :: bytes, radio)

/-
  `handleDio0Rise`, with the callback that was passed to
  `onReceive` and the globals that the callback works on.
-/
def handleDio0Rise
    {Globals : Type}
    (callback : Nat → LoRaClass × Globals →
      LoRaClass × Globals)
    (globals : Globals) : LoRaClass × Globals :=
  let (irqFlags, radio) := radio.readRegister .irqFlags
  let radio := radio.writeRegister .irqFlags irqFlags
  if irqFlags &&& irqPayloadCrcErrorMask = 0 then
    let radio := { radio with packetIndex := 0 }
    let (packetLength, radio) :=
      if radio.implicitHeaderMode then
        radio.readRegister .payloadLength
      else
        radio.readRegister .rxNbBytes
    let (current, radio) :=
      radio.readRegister .fifoRxCurrentAddr
    let radio := radio.writeRegister .fifoAddrPtr current
    let (radio, globals) :=
      callback packetLength.toNat (radio, globals)
    (radio.writeRegister .fifoAddrPtr 0, globals)
  else
    (radio, globals)

end LoRaClass

end LoRaTelemetry
