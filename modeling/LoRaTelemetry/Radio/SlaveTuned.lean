import LoRaTelemetry.Radio.SlaveDevice

/-
  The radio of a slave between its statements: which mode it
  is in, that no flag waits, and what lies in the buffer. The
  calls of the sketch and what the chip hears keep it so.

  Main declarations:
    * `Slave.Tuned`
    * `Slave.Tuned.arrive`
-/

------------------------------------------------------------
-- The Radio between Statements
------------------------------------------------------------

namespace LoRaTelemetry

namespace Slave

/- From `beginPacket` to `receive` the radio is off the air. -/
def Pc.offAir : Pc → Bool
| .write => true
| .endPacket => true
| .receive => true
| _ => false

/-
  The radio fits the statement that comes next: `packet` is
  what it is about to send.
-/
structure Tuned
    (device : Device)
    (packet : StructMessage) : Prop where
  rest : device.waiting = false → device.radio.AtRest
  sending :
    device.radio.chip.inMode modeTx →
      device.radio.chip.irqFlags &&& irqTxDoneMask = 0
  explicit :
    device.radio.implicitHeaderMode = false ∧
      device.radio.chip.explicitHeader
  unannounced :
    device.radio.chip.irqFlags &&& irqRxDoneMask = 0
  intact :
    device.radio.chip.irqFlags &&&
      irqPayloadCrcErrorMask = 0
  waits : device.waiting → device.sketch.pc = .endPacket
  listens :
    device.sketch.pc.offAir = false →
      device.radio.chip.inMode modeRxContinuous
  silent :
    device.sketch.pc.offAir →
      ¬ device.radio.chip.Receiving
  begun :
    device.sketch.pc = .write → device.radio.Filled []
  written :
    device.sketch.pc = .endPacket →
      device.radio.Filled packet.bytes

variable {device : Device} {packet : StructMessage}

------------------------------------------------------------
-- The Radio after a Call
------------------------------------------------------------

/- A round of the wait of `endPacket`. -/
theorem Device.exec_of_waiting
    (board : Board)
    (hPc : device.sketch.pc = .endPacket)
    (hWaiting : device.waiting)
    (now : ULong)
    (draw : Fin 4) :
    device.exec board now draw =
      if device.radio.chip.irqFlags &&& irqTxDoneMask =
          0 then
        device
      else
        { sketch := { device.sketch with pc := .receive }
          radio :=
            device.radio.writeRegister .irqFlags
              irqTxDoneMask
          waiting := false } := by
  rcases device with ⟨sketch, radio, waiting⟩
  simp only at hPc hWaiting
  subst hWaiting
  simp only [Device.exec, hPc, if_true]
  rw [LoRaClass.pollSent_eq]
  by_cases hGoing :
      radio.chip.irqFlags &&& irqTxDoneMask = 0
  · rw [if_pos hGoing, if_pos hGoing]
    rfl
  · rw [if_neg hGoing, if_neg hGoing]
    rfl

/- Only the wait of `endPacket` is waited in. -/
theorem Tuned.not_waiting
    (hTuned : Tuned device packet)
    (hPc : device.sketch.pc ≠ .endPacket) :
    device.waiting = false := by
  cases hWaiting : device.waiting with
  | false => rfl
  | true => exact absurd (hTuned.waits hWaiting) hPc

/- Only that wait sends. -/
theorem Tuned.waiting_of_sending
    (hTuned : Tuned device packet)
    (hMode : device.radio.chip.inMode modeTx) :
    device.waiting = true := by
  by_contra hIdle
  exact
    (hTuned.rest (eq_false_of_ne_true hIdle)).idle hMode

/- Statements that do not call the driver keep it in tune. -/
theorem Tuned.of_sketch
    {sketch : State}
    (hTuned : Tuned device packet)
    (hBefore : device.sketch.pc.offAir = false)
    (hAfter : sketch.pc.offAir = false) :
    Tuned { device with sketch := sketch } packet := by
  have hWaiting :=
    hTuned.not_waiting (by
      intro hPc
      rw [hPc] at hBefore
      cases hBefore)
  constructor
  case rest => exact hTuned.rest
  case sending => exact hTuned.sending
  case explicit => exact hTuned.explicit
  case unannounced => exact hTuned.unannounced
  case intact => exact hTuned.intact
  case waits => simp [hWaiting]
  case listens => exact fun _ => hTuned.listens hBefore
  case silent => simp [hAfter]
  case begun =>
    intro hPc
    simp [show sketch.pc = .write from hPc, Pc.offAir]
      at hAfter
  case written =>
    intro hPc
    simp [show sketch.pc = .endPacket from hPc, Pc.offAir]
      at hAfter

theorem Tuned.beginPacket
    (hTuned : Tuned device packet)
    (board : Board)
    (hPc : device.sketch.pc = .beginPacket)
    (now : ULong)
    (draw : Fin 4) :
    Tuned (device.exec board now draw) packet := by
  have hWaiting := hTuned.not_waiting (by simp [hPc])
  have hRest := hTuned.rest hWaiting
  have hBegun := hRest.beginPacket false
  simp only [Device.exec, hPc]
  constructor
  case rest => exact fun _ => hBegun
  case sending => exact fun _ => hBegun.untold
  case explicit =>
    refine ⟨rfl, ?_⟩
    simp only [LoRaClass.beginPacket_eq,
      Transceiver.explicitHeader]
    rw [BitVec.and_assoc]
    exact BitVec.and_zero
  case unannounced => exact hTuned.unannounced
  case intact => exact hTuned.intact
  case waits => simp [hWaiting]
  case listens => simp [Pc.offAir]
  case silent =>
    intro _
    exact
      Transceiver.not_receiving_of_mode
        (show Transceiver.inMode _ modeStdby from rfl)
        (by decide)
  case begun =>
    exact fun _ => .of_beginPacket hRest.base
  case written => simp

theorem Tuned.write
    (hTuned : Tuned device packet)
    (board : Board)
    (hPc : device.sketch.pc = .write)
    (now : ULong)
    (draw : Fin 4) :
    Tuned (device.exec board now draw)
      device.sketch.telemtryPacketTX := by
  have hWaiting := hTuned.not_waiting (by simp [hPc])
  have hSilent := hTuned.silent (by simp [hPc, Pc.offAir])
  have hWritten :=
    (hTuned.rest hWaiting).write
      device.sketch.telemtryPacketTX.bytes
  have hFilled :=
    (hTuned.begun hPc).write
      device.sketch.telemtryPacketTX.bytes
  have hWhole :
      device.sketch.telemtryPacketTX.bytes.length ≤
        maxPktLength := by
    rw [StructMessage.length_bytes]
    decide
  rw [List.nil_append, List.length_nil, Nat.sub_zero,
    List.take_of_length_le hWhole] at hFilled
  simp only [Device.exec, hPc]
  constructor
  case rest => exact fun _ => hWritten
  case sending => exact fun _ => hWritten.untold
  case written => exact fun _ => hFilled
  case waits => simp [hWaiting]
  case listens => simp [Pc.offAir]
  case begun => simp
  all_goals
    simp only [LoRaClass.write_eq, LoRaClass.writeAll_eq]
  case explicit => exact hTuned.explicit
  case unannounced => exact hTuned.unannounced
  case intact => exact hTuned.intact
  case silent => exact fun _ => hSilent

theorem Tuned.startSending
    (hTuned : Tuned device packet)
    (hPc : device.sketch.pc = .endPacket)
    (hWaiting : device.waiting = false) :
    Tuned
      { device with
        radio := device.radio.startSending
        waiting := true } packet := by
  constructor
  case rest => simp
  case sending =>
    exact fun _ => (hTuned.rest hWaiting).untold
  case explicit => exact hTuned.explicit
  case unannounced => exact hTuned.unannounced
  case intact => exact hTuned.intact
  case waits => exact fun _ => hPc
  case listens => simp [hPc, Pc.offAir]
  case silent =>
    intro _
    exact
      Transceiver.not_receiving_of_mode
        (show Transceiver.inMode _ modeTx from rfl)
        (by decide)
  case begun => simp [hPc]
  case written =>
    exact fun _ => (hTuned.written hPc).startSending

theorem Tuned.pollSent
    (hTuned : Tuned device packet)
    (board : Board)
    (hPc : device.sketch.pc = .endPacket)
    (hWaiting : device.waiting)
    (now : ULong)
    (draw : Fin 4) :
    Tuned (device.exec board now draw) packet := by
  have hSilent := hTuned.silent (by simp [hPc, Pc.offAir])
  rw [Device.exec_of_waiting board hPc hWaiting]
  split
  · exact hTuned
  · rename_i hTold
    have hCleared :
        (device.radio.writeRegister .irqFlags
          irqTxDoneMask).chip.irqFlags &&& irqTxDoneMask =
            0 := and_cleared_self _ _
    constructor
    case rest =>
      exact fun _ =>
        ⟨(hTuned.written hPc).base,
          fun hSending => hTold (hTuned.sending hSending),
          hCleared⟩
    case sending => exact fun _ => hCleared
    case explicit => exact hTuned.explicit
    case unannounced =>
      exact
        (and_cleared_of_other (by decide)).trans
          hTuned.unannounced
    case intact =>
      exact
        (and_cleared_of_other (by decide)).trans
          hTuned.intact
    case waits => simp
    case listens => simp [Pc.offAir]
    case silent => exact fun _ => hSilent
    case begun => simp
    case written => simp

theorem Tuned.receive
    (hTuned : Tuned device packet)
    (board : Board)
    (hPc : device.sketch.pc = .receive)
    (now : ULong)
    (draw : Fin 4) :
    Tuned (device.exec board now draw) packet := by
  have hWaiting := hTuned.not_waiting (by simp [hPc])
  have hRest :=
    (hTuned.rest hWaiting).step (.receive 0)
  simp only [Device.exec, hPc]
  constructor
  case rest => exact fun _ => hRest
  case sending => exact fun _ => hRest.untold
  case explicit =>
    refine ⟨rfl, ?_⟩
    show _ &&& 0xfe &&& 0x01 = 0
    rw [BitVec.and_assoc]
    exact BitVec.and_zero
  case unannounced => exact hTuned.unannounced
  case intact => exact hTuned.intact
  case waits => simp [hWaiting]
  case listens => exact fun _ => rfl
  case silent => simp [Pc.offAir]
  case begun => simp
  case written => simp

/- `setup` leaves the radio listening, if no frame waits. -/
theorem Tuned.of_setup
    (hReset : chip.irqFlags = 0) :
    Tuned (Device.init chip) packet := by
  have hFlags :
      (Device.init chip).radio.chip.irqFlags = 0 := hReset
  have hRest : (Device.init chip).radio.AtRest :=
    LoRaClass.usage_atRest chip hReset [.receive 0]
  constructor
  case rest => exact fun _ => hRest
  case sending => exact fun _ => hRest.untold
  case explicit =>
    refine ⟨rfl, ?_⟩
    show _ &&& 0xfe &&& 0x01 = 0
    rw [BitVec.and_assoc]
    exact BitVec.and_zero
  case unannounced =>
    rw [hFlags]
    rfl
  case intact =>
    rw [hFlags]
    rfl
  case waits => simp [Device.init]
  case listens => exact fun _ => rfl
  case silent => simp [Device.init, State.init, Pc.offAir]
  case begun => simp [Device.init, State.init]
  case written => simp [Device.init, State.init]

/- The wait then has something to find. -/
theorem Tuned.transmitted
    (hTuned : Tuned device packet)
    (board : Board) :
    Tuned (device.step board .transmitted) packet := by
  by_cases hMode : device.radio.chip.inMode modeTx
  · have hWaiting := hTuned.waiting_of_sending hMode
    simp only [Device.step,
      LoRaClass.transmitted_of_sending hMode]
    constructor
    case rest => simp [hWaiting]
    case sending =>
      exact fun hSending =>
        absurd hSending
          (Transceiver.not_inMode
            (show Transceiver.inMode _ modeStdby from rfl)
            (by decide))
    case explicit => exact hTuned.explicit
    case unannounced =>
      simp only
      rw [and_raised_of_other (by decide)]
      exact hTuned.unannounced
    case intact =>
      simp only
      rw [and_raised_of_other (by decide)]
      exact hTuned.intact
    case waits => exact hTuned.waits
    case listens =>
      intro hOn
      exact
        absurd (hTuned.listens hOn)
          (Transceiver.not_inMode hMode (by decide))
    case silent =>
      intro _
      exact
        Transceiver.not_receiving_of_mode
          (show Transceiver.inMode _ modeStdby from rfl)
          (by decide)
    case begun =>
      intro hPc
      rw [hTuned.waits hWaiting] at hPc
      cases hPc
    case written =>
      intro hPc
      have hFilled := hTuned.written hPc
      exact
        ⟨hFilled.base, hFilled.length, hFilled.pointer,
          hFilled.memory⟩
  · have hSame :
        device.radio.chip.transmitted =
          device.radio.chip := if_neg hMode
    simp only [Device.step, hSame]
    exact hTuned

------------------------------------------------------------
-- A Frame That Arrives
------------------------------------------------------------

/- Where the chip receives, it listens all the time. -/
theorem Tuned.listening
    (hTuned : Tuned device packet)
    (hReceiving : device.radio.chip.Receiving) :
    device.sketch.pc.offAir = false ∧
      device.radio.chip.inMode modeRxContinuous := by
  have hOn : device.sketch.pc.offAir = false := by
    by_contra hOff
    exact
      hTuned.silent (by simpa using hOff) hReceiving
  exact ⟨hOn, hTuned.listens hOn⟩

theorem Tuned.idle
    (hTuned : Tuned device packet)
    (hReceiving : device.radio.chip.Receiving) :
    device.waiting = false := by
  apply hTuned.not_waiting
  intro hPc
  have hOn := (hTuned.listening hReceiving).1
  simp [hPc, Pc.offAir] at hOn

theorem onReceiveCall_eq
    (board : Board)
    {radio : LoRaClass}
    {frame : Frame}
    (sketch : State)
    (now : ULong)
    (hReads : radio.Reads (LoRa.opened frame)) :
    onReceiveCall board now frame.bytes.length
        (radio, sketch) =
      ((LoRaClass.readBytes structSize radio).2,
        (onReceive board sketch now frame).1) := by
  have hSize : frame.bytes.length ≠ 0 :=
    Nat.ne_of_gt frame.nonempty
  have hAccept :
      accept board sketch now
          (sketch.telemtryPacketRX.receive frame) =
        (onReceive board sketch now frame).1 := by
    simp only [accept, onReceive]
    split_ifs <;> rfl
  rw [onReceiveCall, if_neg hSize]
  simp only [hReads.readBytes]
  rw [← hAccept]
  rfl

/- What the interrupt leaves of the radio. -/
structure Handled (after before : LoRaClass) : Prop where
  base :
    after.chip.fifoTxBaseAddr = before.chip.fifoTxBaseAddr
  mode : after.chip.opMode = before.chip.opMode
  config :
    after.chip.modemConfig1 = before.chip.modemConfig1
  onAir : after.chip.onAir = before.chip.onAir
  header :
    after.implicitHeaderMode = before.implicitHeaderMode
  flags : after.chip.irqFlags = 0

theorem Tuned.of_handled
    {sketch : State}
    {radio : LoRaClass}
    (hTuned : Tuned device packet)
    (hOn : device.sketch.pc.offAir = false)
    (hPc : sketch.pc = device.sketch.pc)
    (hHandled : Handled radio device.radio) :
    Tuned
      { device with
        sketch := sketch
        radio := radio } packet := by
  have hSketch := hTuned.of_sketch hOn (hPc ▸ hOn)
  have hUntold :
      radio.chip.irqFlags &&& irqTxDoneMask = 0 := by
    rw [hHandled.flags]
    rfl
  constructor
  case rest =>
    intro hWaiting
    have hRest := hTuned.rest hWaiting
    refine ⟨hHandled.base.trans hRest.base, ?_, hUntold⟩
    simp only [Transceiver.inMode, hHandled.mode]
    exact hRest.idle
  case sending => exact fun _ => hUntold
  case explicit =>
    simp only [Transceiver.explicitHeader, hHandled.config,
      hHandled.header]
    exact hTuned.explicit
  case unannounced =>
    rw [hHandled.flags]
    rfl
  case intact =>
    rw [hHandled.flags]
    rfl
  case waits => exact hSketch.waits
  case listens =>
    intro _
    simp only [Transceiver.inMode, hHandled.mode]
    exact hTuned.listens hOn
  case silent => simp [hPc, hOn]
  case begun =>
    intro hWrite
    simp [hPc ▸ hWrite, Pc.offAir] at hOn
  case written =>
    intro hEnd
    simp [hPc ▸ hEnd, Pc.offAir] at hOn

/- A chip that listens all the time goes on listening. -/
theorem arrive_of_listening
    {chip : Transceiver}
    (hReceiving : chip.Receiving)
    (hMode : chip.inMode modeRxContinuous)
    (frame : Frame)
    (start : Byte)
    (crcError : Bool) :
    chip.arrive frame start crcError =
      { chip with
        memory :=
          RingMemory.store chip.memory start frame.bytes
        fifoRxCurrentAddr := start
        rxNbBytes := BitVec.ofNat 8 frame.bytes.length
        irqFlags :=
          chip.irqFlags ||| irqRxDoneMask |||
            (if crcError then
              irqPayloadCrcErrorMask
            else
              0) } := by
  have hOther : ¬ chip.inMode modeRxSingle := by
    intro hSingle
    exact absurd (hMode.symm.trans hSingle) (by decide)
  rw [Transceiver.arrive, if_pos hReceiving, if_neg hOther]

/- The interrupt clears the flags and moves the pointer. -/
theorem Handled.of_arrive
    {radio after : LoRaClass}
    (frame : Frame)
    (start : Byte)
    (crcError : Bool)
    (pointer : Byte)
    (hReceiving : radio.chip.Receiving)
    (hMode : radio.chip.inMode modeRxContinuous)
    (hHeader :
      after.implicitHeaderMode = radio.implicitHeaderMode)
    (hChip :
      after.chip =
        { radio.chip.arrive frame start crcError with
          irqFlags := 0
          fifoAddrPtr := pointer }) :
    Handled after radio := by
  rw [arrive_of_listening hReceiving hMode] at hChip
  constructor
  case header => exact hHeader
  all_goals rw [hChip]

/- An undamaged frame is handed to `onReceive`. -/
theorem handled_of_intact
    (board : Board)
    (hTuned : Tuned device packet)
    (hReceiving : device.radio.chip.Receiving)
    (now : ULong)
    (frame : Frame)
    (start : Byte) :
    let arrived : LoRaClass :=
      { device.radio with
        chip := device.radio.chip.arrive frame start false }
    let handled :=
      arrived.handleDio0Rise (onReceiveCall board now)
        device.sketch
    handled.2 = (onReceive board device.sketch now frame).1 ∧
      Handled handled.1 device.radio := by
  intro arrived handled
  have hMode := (hTuned.listening hReceiving).2
  have hHolds :=
    Transceiver.holds_arrive frame start hReceiving
      hTuned.intact
  have hIntact : arrived.chip.irqFlags &&&
      irqPayloadCrcErrorMask = 0 := hHolds.intact
  have hOpened :
      LoRaClass.Reads
        { arrived with
          packetIndex := 0
          chip :=
            { arrived.chip with
              irqFlags := 0
              fifoAddrPtr :=
                arrived.chip.fifoRxCurrentAddr } }
        (LoRa.opened frame) :=
    ⟨rfl, Nat.zero_le _, hHolds.count, hHolds.stored⟩
  have hCall :=
    onReceiveCall_eq board device.sketch now
      hOpened
  have hHandled : handled = _ :=
    LoRaClass.handleDio0Rise_of_intact
      (onReceiveCall board now) device.sketch
      hTuned.explicit.1 hIntact
  have hCount :
      arrived.chip.rxNbBytes.toNat = frame.bytes.length :=
    hHolds.count
  rw [hCount, hCall] at hHandled
  have hRead :=
    LoRaClass.sameButPointer_readBytes structSize
      { arrived with
        packetIndex := 0
        chip :=
          { arrived.chip with
            irqFlags := 0
            fifoAddrPtr :=
              arrived.chip.fifoRxCurrentAddr } }
  have hChip := hRead.chip
  rw [hHandled]
  refine ⟨rfl, ?_⟩
  refine
    .of_arrive frame start false 0 hReceiving hMode
      hRead.header ?_
  simp only [LoRaClass.writeRegister,
    Transceiver.writeRegister]
  rw [hChip]

/- A damaged one is dropped. -/
theorem handled_of_damaged
    (board : Board)
    (hTuned : Tuned device packet)
    (hReceiving : device.radio.chip.Receiving)
    (now : ULong)
    (frame : Frame)
    (start : Byte) :
    let arrived : LoRaClass :=
      { device.radio with
        chip := device.radio.chip.arrive frame start true }
    let handled :=
      arrived.handleDio0Rise (onReceiveCall board now)
        device.sketch
    handled.2 = device.sketch ∧
      Handled handled.1 device.radio := by
  intro arrived handled
  have hMode := (hTuned.listening hReceiving).2
  have hArrived : arrived.chip = _ :=
    arrive_of_listening hReceiving hMode frame start true
  have hDamaged :
      arrived.chip.irqFlags &&& irqPayloadCrcErrorMask ≠
        0 := by
    rw [hArrived]
    exact and_ne_zero_of_raised (by decide)
  have hHandled : handled = _ :=
    LoRaClass.handleDio0Rise_of_damaged
      (onReceiveCall board now) device.sketch hDamaged
  rw [hHandled]
  exact
    ⟨rfl,
      .of_arrive frame start true
        arrived.chip.fifoAddrPtr hReceiving hMode rfl rfl⟩

/- The interrupt comes when a frame has been announced. -/
theorem Device.arrive_eq
    (board : Board)
    (hTuned : Tuned device packet)
    (hReceiving : device.radio.chip.Receiving)
    (now : ULong)
    (frame : Frame)
    (start : Byte)
    (crcError : Bool) :
    let handled :=
      LoRaClass.handleDio0Rise
        { device.radio with
          chip :=
            device.radio.chip.arrive frame start crcError }
        (onReceiveCall board now) device.sketch
    device.arrive board now frame start crcError =
      { device with
        sketch := handled.2
        radio := handled.1 } := by
  intro handled
  have hRises :=
    Transceiver.announces_arrive frame start crcError
      hReceiving
  unfold Device.arrive
  rw [if_pos ⟨hTuned.unannounced, hRises⟩]

/- What the chip does not receive changes nothing. -/
theorem Device.arrive_of_deaf
    (board : Board)
    (hTuned : Tuned device packet)
    (hDeaf : ¬ device.radio.chip.Receiving)
    (now : ULong)
    (frame : Frame)
    (start : Byte)
    (crcError : Bool) :
    device.arrive board now frame start crcError =
      device := by
  have hSame :
      device.radio.chip.arrive frame start crcError =
        device.radio.chip := if_neg hDeaf
  simp only [Device.arrive, hSame, hTuned.unannounced]
  rfl

/- What the chip receives undamaged reaches `onReceive`. -/
theorem Tuned.arrive
    (hTuned : Tuned device packet)
    (board : Board)
    (now : ULong)
    (frame : Frame)
    (start : Byte)
    (crcError : Bool) :
    let event := DeviceEvent.arrive now frame start crcError
    let arrived := device.step board event
    Tuned arrived packet ∧
      arrived.waiting = device.waiting ∧
      arrived.radio.chip.onAir = device.radio.chip.onAir ∧
      arrived.sketch =
        match device.received? event with
        | none => device.sketch
        | some (now, frame) =>
            (onReceive board device.sketch now frame).1 := by
  intro event arrived
  by_cases hReceiving : device.radio.chip.Receiving
  · have hEq :
        arrived = _ :=
      Device.arrive_eq board hTuned hReceiving now frame start
        crcError
    have hOn := (hTuned.listening hReceiving).1
    rw [hEq]
    cases crcError with
    | false =>
        rcases handled_of_intact board hTuned
            hReceiving now frame start with
          ⟨hSketch, hHandled⟩
        have hPc :=
          (onReceive_sameMain board device.sketch now
            frame).pc
        refine
          ⟨hTuned.of_handled hOn (hSketch ▸ hPc) hHandled,
            rfl, hHandled.onAir, ?_⟩
        simp only [event, Device.received?, hReceiving,
          and_self, if_true]
        exact hSketch
    | true =>
        rcases handled_of_damaged board hTuned
            hReceiving now frame start with
          ⟨hSketch, hHandled⟩
        refine
          ⟨hTuned.of_handled hOn (by rw [hSketch]) hHandled,
            rfl, hHandled.onAir, ?_⟩
        simp only [event, Device.received?,
          Bool.true_eq_false, and_false, if_false]
        exact hSketch
  · have hEq : arrived = device :=
      Device.arrive_of_deaf board hTuned hReceiving now
        frame start crcError
    rw [hEq]
    refine ⟨hTuned, rfl, rfl, ?_⟩
    simp [event, Device.received?, hReceiving]

end Slave

end LoRaTelemetry
