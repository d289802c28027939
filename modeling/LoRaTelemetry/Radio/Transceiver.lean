import LoRaTelemetry.Library.RingMemory
import LoRaTelemetry.Wire.Radio

/-
  The radio chip as its driver sees it: a data buffer of 256
  bytes and the registers that the modelled functions use.

  The chip itself is hardware. What the driver relies on is
  that the buffer is reached through a pointer that advances
  with each access and wraps; that a flag is cleared by
  writing a one; that the transmit mode sends the payload
  that starts at the transmit base, in its own time, and
  loses it when it is left before; and that in a receive
  mode a frame is stored from some address on, and announced.
  Where a frame is stored, when, and whether it was damaged
  is not up to the driver, nor when a payload has been sent.

  Main declarations:
    * `Register`
    * `Transceiver`
    * `Transceiver.readRegister`
    * `Transceiver.writeRegister`
    * `Transceiver.arrive`
    * `Transceiver.transmitted`
-/

------------------------------------------------------------
-- Registers
------------------------------------------------------------

namespace LoRaTelemetry

inductive Register where
| fifo
| opMode
| fifoAddrPtr
| fifoTxBaseAddr
| fifoRxBaseAddr
| fifoRxCurrentAddr
| irqFlags
| rxNbBytes
| modemConfig1
| payloadLength
deriving DecidableEq, Repr

def modeLongRangeMode : Byte := 0x80
def modeSleep : Byte := 0x00
def modeStdby : Byte := 0x01
def modeTx : Byte := 0x03
def modeRxContinuous : Byte := 0x05
def modeRxSingle : Byte := 0x06

def irqTxDoneMask : Byte := 0x08
def irqPayloadCrcErrorMask : Byte := 0x20
def irqRxDoneMask : Byte := 0x40

/- Raised by the chip when it gives up a single reception. -/
def irqRxTimeoutMask : Byte := 0x80

------------------------------------------------------------
-- Flags
------------------------------------------------------------

/- Raising flags raises those of the mask among them. -/
theorem and_ne_zero_of_raised
    {flags raised mask : Byte}
    (hRaised : raised &&& mask ≠ 0) :
    (flags ||| raised) &&& mask ≠ 0 := by
  intro hClear
  rw [BitVec.and_or_distrib_right] at hClear
  exact hRaised (BitVec.or_eq_zero_iff.mp hClear).2

/- Raising or clearing others leaves those of a mask. -/
theorem and_raised_of_other
    {flags raised mask : Byte}
    (hOther : raised &&& mask = 0) :
    (flags ||| raised) &&& mask = flags &&& mask := by
  rw [BitVec.and_or_distrib_right, hOther]
  exact BitVec.or_zero

theorem and_cleared_of_other
    {flags cleared mask : Byte}
    (hOther : ~~~cleared &&& mask = mask) :
    flags &&& ~~~cleared &&& mask = flags &&& mask := by
  rw [BitVec.and_assoc, hOther]

/- Flags that are cleared are down. -/
theorem and_cleared_self
    (flags mask : Byte) :
    flags &&& ~~~mask &&& mask = 0 := by
  rw [BitVec.and_assoc, BitVec.not_and_self]
  exact BitVec.and_zero

/- Clearing all that are up leaves none. -/
theorem and_cleared_all
    (flags mask : Byte) :
    flags &&& ~~~flags &&& mask = 0 := by
  rw [BitVec.and_not_self]
  exact BitVec.zero_and

------------------------------------------------------------
-- The Chip
------------------------------------------------------------

/- Buffer, registers, and the payloads sent to their end. -/
structure Transceiver where
  memory : Byte → Byte
  opMode : Byte
  fifoAddrPtr : Byte
  fifoTxBaseAddr : Byte
  fifoRxBaseAddr : Byte
  fifoRxCurrentAddr : Byte
  irqFlags : Byte
  rxNbBytes : Byte
  modemConfig1 : Byte
  payloadLength : Byte
  onAir : List (List Byte)

namespace Transceiver

/- A chip that has been reset. -/
def reset : Transceiver :=
  { memory := fun _ => 0
    opMode := 0
    fifoAddrPtr := 0
    fifoTxBaseAddr := 0
    fifoRxBaseAddr := 0
    fifoRxCurrentAddr := 0
    irqFlags := 0
    rxNbBytes := 0
    modemConfig1 := 0
    payloadLength := 0
    onAir := [] }

variable (chip : Transceiver)

/- What a register reads as. -/
def register : Register → Byte
| .fifo => chip.memory chip.fifoAddrPtr
| .opMode => chip.opMode
| .fifoAddrPtr => chip.fifoAddrPtr
| .fifoTxBaseAddr => chip.fifoTxBaseAddr
| .fifoRxBaseAddr => chip.fifoRxBaseAddr
| .fifoRxCurrentAddr => chip.fifoRxCurrentAddr
| .irqFlags => chip.irqFlags
| .rxNbBytes => chip.rxNbBytes
| .modemConfig1 => chip.modemConfig1
| .payloadLength => chip.payloadLength

/- Reading the buffer advances the pointer. -/
def readRegister (address : Register) : Byte × Transceiver :=
  (chip.register address,
    if address = .fifo then
      { chip with fifoAddrPtr := chip.fifoAddrPtr + 1 }
    else
      chip)

/- The payload that the transmit mode sends. -/
def payload : List Byte :=
  RingMemory.load chip.memory chip.fifoTxBaseAddr
    chip.payloadLength.toNat

def writeRegister
    (address : Register)
    (value : Byte) : Transceiver :=
  match address with
  | .fifo =>
      { chip with
        memory :=
          Function.update chip.memory chip.fifoAddrPtr value
        fifoAddrPtr := chip.fifoAddrPtr + 1 }
  | .opMode => { chip with opMode := value }
  | .fifoAddrPtr => { chip with fifoAddrPtr := value }
  | .fifoTxBaseAddr => { chip with fifoTxBaseAddr := value }
  | .fifoRxBaseAddr => { chip with fifoRxBaseAddr := value }
  | .irqFlags =>
      { chip with irqFlags := chip.irqFlags &&& ~~~value }
  | .modemConfig1 => { chip with modemConfig1 := value }
  | .payloadLength => { chip with payloadLength := value }
  | .fifoRxCurrentAddr => chip
  | .rxNbBytes => chip

------------------------------------------------------------
-- What the Chip Does by Itself
------------------------------------------------------------

def inMode (mode : Byte) : Prop :=
  chip.opMode = modeLongRangeMode ||| mode

instance (mode : Byte) : Decidable (chip.inMode mode) :=
  inferInstanceAs (Decidable (_ = _))

/- The chip receives frames that say how long they are. -/
def explicitHeader : Prop :=
  chip.modemConfig1 &&& 0x01 = 0

instance : Decidable chip.explicitHeader :=
  inferInstanceAs (Decidable (_ = _))

def Receiving : Prop :=
  (chip.inMode modeRxContinuous ∨
      chip.inMode modeRxSingle) ∧
    chip.explicitHeader

instance : Decidable chip.Receiving :=
  inferInstanceAs (Decidable (_ ∧ _))

/-
  A frame arrives, to be stored from a start address on. A
  single reception ends in standby.
-/
def arrive
    (frame : Frame)
    (start : Byte)
    (crcError : Bool) : Transceiver :=
  if chip.Receiving then
    { chip with
      memory :=
        RingMemory.store chip.memory start frame.bytes
      fifoRxCurrentAddr := start
      rxNbBytes := BitVec.ofNat 8 frame.bytes.length
      irqFlags :=
        chip.irqFlags ||| irqRxDoneMask |||
          (if crcError then irqPayloadCrcErrorMask else 0)
      opMode :=
        if chip.inMode modeRxSingle then
          modeLongRangeMode ||| modeStdby
        else
          chip.opMode }
  else
    chip

/- A single reception is given up. -/
def giveUp : Transceiver :=
  if chip.inMode modeRxSingle then
    { chip with
      irqFlags := chip.irqFlags ||| irqRxTimeoutMask
      opMode := modeLongRangeMode ||| modeStdby }
  else
    chip

/- The payload has been sent to its end. -/
def transmitted : Transceiver :=
  if chip.inMode modeTx then
    { chip with
      irqFlags := chip.irqFlags ||| irqTxDoneMask
      opMode := modeLongRangeMode ||| modeStdby
      onAir := chip.onAir ++ [chip.payload] }
  else
    chip

variable {chip}

/- A chip is in one mode at a time. -/
theorem not_inMode
    {mode other : Byte}
    (hMode : chip.inMode mode)
    (hOther :
      modeLongRangeMode ||| mode ≠
        modeLongRangeMode ||| other) :
    ¬ chip.inMode other := by
  exact fun hSame => hOther (hMode.symm.trans hSame)

/- Two modes of the chip receive. -/
theorem not_receiving_of_mode
    {mode : Byte}
    (hMode : chip.inMode mode)
    (hOther :
      modeLongRangeMode ||| mode ≠
          modeLongRangeMode ||| modeRxContinuous ∧
        modeLongRangeMode ||| mode ≠
          modeLongRangeMode ||| modeRxSingle) :
    ¬ chip.Receiving := by
  rintro ⟨hContinuous | hSingle, -⟩
  · exact not_inMode hMode hOther.1 hContinuous
  · exact not_inMode hMode hOther.2 hSingle

end Transceiver

end LoRaTelemetry
