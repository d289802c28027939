import LoRaTelemetry.Radio.MasterDevice

/-
  The radio of the master between its calls: off the air it
  holds the packet to be sent, and nothing that the chip does
  by itself disturbs it.

  Main declarations:
    * `Master.Tuned`
-/

------------------------------------------------------------
-- The Radio between Calls
------------------------------------------------------------

namespace LoRaTelemetry

namespace Master

/- From `beginPacket` to `receive` the radio is off the air. -/
def Call.offAir : Call → Bool
| .write => true
| .endPacket => true
| .wait => true
| .receive => true
| _ => false

/- The radio fits the call that comes next. -/
structure Tuned (device : Device) : Prop where
  rest : device.call ≠ .wait → device.radio.AtRest
  sending :
    device.radio.chip.inMode modeTx →
      device.radio.chip.irqFlags &&& irqTxDoneMask = 0
  silent :
    device.call.offAir → ¬ device.radio.chip.Receiving
  begun :
    device.call = .write → device.radio.Filled []
  written :
    device.call = .endPacket ∨ device.call = .wait →
      device.radio.Filled
        device.sketch.telemtryPacketTX.bytes

variable {device : Device}

/- On the air the radio only has to be at rest. -/
theorem Tuned.of_onAir
    (hRest : device.radio.AtRest)
    (hOn : device.call.offAir = false) :
    Tuned device := by
  constructor
  case rest => exact fun _ => hRest
  case sending => exact fun _ => hRest.untold
  case silent => simp [hOn]
  case begun =>
    intro hCall
    simp [hCall, Call.offAir] at hOn
  case written =>
    intro hCall
    rcases hCall with hCall | hCall <;>
      simp [hCall, Call.offAir] at hOn

theorem atRest_onreceiveCall
    {radio : LoRaClass}
    (hRest : radio.AtRest)
    (state : State) :
    (onreceiveCall radio state).1.AtRest := by
  exact
    (hRest.parsePacket 0).of_same
      (onreceiveCall_radio radio state)

/- A poll sends nothing. -/
theorem onAir_onreceiveCall
    (radio : LoRaClass)
    (state : State) :
    (onreceiveCall radio state).1.chip.onAir =
      radio.chip.onAir := by
  have hRead := onreceiveCall_radio radio state
  rw [hRead.chip]
  by_cases hSome :
      radio.chip.irqFlags &&& irqRxDoneMask ≠ 0 ∧
        radio.chip.irqFlags &&& irqPayloadCrcErrorMask = 0
  · rw [LoRaClass.parsePacket_of_announced hSome.1 hSome.2]
  · rw [LoRaClass.parsePacket_of_unannounced hSome]

theorem Tuned.beginPacket
    (hTuned : Tuned device)
    (hCall : device.call = .beginPacket) :
    Tuned
      { device with
        radio := device.radio.beginPacket false
        call := .write } := by
  have hRest := hTuned.rest (by simp [hCall])
  have hBegun := hRest.beginPacket false
  constructor
  case rest => exact fun _ => hBegun
  case sending => exact fun _ => hBegun.untold
  case silent =>
    intro _
    exact
      Transceiver.not_receiving_of_mode
        (show Transceiver.inMode _ modeStdby from rfl)
        (by decide)
  case begun => exact fun _ => .of_beginPacket hRest.base
  case written => simp

theorem Tuned.write
    (hTuned : Tuned device)
    (hCall : device.call = .write) :
    Tuned
      { device with
        radio :=
          (device.radio.write
            device.sketch.telemtryPacketTX.bytes).2
        call := .endPacket } := by
  have hRest := hTuned.rest (by simp [hCall])
  have hSilent :=
    hTuned.silent (by simp [hCall, Call.offAir])
  have hWritten :=
    hRest.write device.sketch.telemtryPacketTX.bytes
  have hFilled :=
    (hTuned.begun hCall).write
      device.sketch.telemtryPacketTX.bytes
  have hWhole :
      device.sketch.telemtryPacketTX.bytes.length ≤
        maxPktLength := by
    rw [StructMessage.length_bytes]
    decide
  rw [List.nil_append, List.length_nil, Nat.sub_zero,
    List.take_of_length_le hWhole] at hFilled
  constructor
  case rest => exact fun _ => hWritten
  case sending => exact fun _ => hWritten.untold
  case silent =>
    simp only [LoRaClass.write_eq, LoRaClass.writeAll_eq]
    exact fun _ => hSilent
  case begun => simp
  case written => exact fun _ => hFilled

theorem Tuned.endPacket
    (hTuned : Tuned device)
    (hCall : device.call = .endPacket) :
    Tuned
      { device with
        radio := device.radio.startSending
        call := .wait } := by
  have hRest := hTuned.rest (by simp [hCall])
  have hFilled := hTuned.written (.inl hCall)
  constructor
  case rest => simp
  case sending => exact fun _ => hRest.untold
  case silent =>
    intro _
    exact
      Transceiver.not_receiving_of_mode
        (show Transceiver.inMode _ modeTx from rfl)
        (by decide)
  case begun => simp
  case written => exact fun _ => hFilled.startSending

/- The wait ends when the end of the sending is told. -/
theorem Tuned.told
    (hTuned : Tuned device)
    (hCall : device.call = .wait)
    (hTold :
      device.radio.chip.irqFlags &&& irqTxDoneMask ≠ 0) :
    Tuned
      { device with
        radio :=
          device.radio.writeRegister .irqFlags irqTxDoneMask
        call := .receive } := by
  have hSilent :=
    hTuned.silent (by simp [hCall, Call.offAir])
  have hBase := (hTuned.written (.inr hCall)).base
  have hCleared :
      (device.radio.writeRegister .irqFlags
        irqTxDoneMask).chip.irqFlags &&& irqTxDoneMask =
          0 := and_cleared_self _ _
  constructor
  case rest =>
    exact fun _ =>
      ⟨hBase, fun hSending => hTold (hTuned.sending hSending),
        hCleared⟩
  case sending => exact fun _ => hCleared
  case silent => exact fun _ => hSilent
  case begun => simp
  case written => simp

/- What the chip does by itself keeps the radio in tune. -/
theorem Tuned.arrive
    (hTuned : Tuned device)
    (config : Config)
    (frame : Frame)
    (start : Byte)
    (crcError : Bool) :
    Tuned
      (device.step config
        (.arrive frame start crcError)) := by
  by_cases hReceiving : device.radio.chip.Receiving
  · have hOn : device.call.offAir = false := by
      by_contra hOff
      exact hTuned.silent (by simpa using hOff) hReceiving
    have hRest :=
      hTuned.rest (by
        intro hCall
        simp [hCall, Call.offAir] at hOn)
    exact
      .of_onAir (hRest.arrive frame start crcError) hOn
  · have hSame :
        device.radio.chip.arrive frame start crcError =
          device.radio.chip := if_neg hReceiving
    simp only [Device.step, hSame]
    exact hTuned

theorem Tuned.giveUp
    (hTuned : Tuned device)
    (config : Config) :
    Tuned (device.step config .giveUp) := by
  by_cases hMode : device.radio.chip.inMode modeRxSingle
  · have hAfter :
        device.radio.chip.giveUp =
          { device.radio.chip with
            irqFlags :=
              device.radio.chip.irqFlags |||
                irqRxTimeoutMask
            opMode := modeLongRangeMode ||| modeStdby } :=
      if_pos hMode
    have hFilled {written : List Byte}
        (hBefore : device.radio.Filled written) :
        LoRaClass.Filled
          { device.radio with
            chip := device.radio.chip.giveUp } written := by
      rw [hAfter]
      exact
        ⟨hBefore.base, hBefore.length, hBefore.pointer,
          hBefore.memory⟩
    constructor
    case rest =>
      exact fun hCall => (hTuned.rest hCall).giveUp
    case sending =>
      simp only [Device.step, hAfter]
      exact fun hSending =>
        absurd hSending
          (Transceiver.not_inMode
            (show Transceiver.inMode _ modeStdby from rfl)
            (by decide))
    case silent =>
      intro _
      simp only [Device.step, hAfter]
      exact
        Transceiver.not_receiving_of_mode
          (show Transceiver.inMode _ modeStdby from rfl)
          (by decide)
    case begun =>
      exact fun hCall => hFilled (hTuned.begun hCall)
    case written =>
      exact fun hCall => hFilled (hTuned.written hCall)
  · have hSame :
        device.radio.chip.giveUp =
          device.radio.chip := if_neg hMode
    simp only [Device.step, hSame]
    exact hTuned

/- Only the wait of `endPacket` sends. -/
theorem Tuned.waits
    (hTuned : Tuned device)
    (hMode : device.radio.chip.inMode modeTx) :
    device.call = .wait := by
  by_contra hCall
  exact (hTuned.rest hCall).idle hMode

theorem Tuned.transmitted
    (hTuned : Tuned device)
    (config : Config) :
    Tuned (device.step config .transmitted) := by
  by_cases hMode : device.radio.chip.inMode modeTx
  · have hCall := hTuned.waits hMode
    have hFilled := hTuned.written (.inr hCall)
    constructor
    case rest => exact fun hOther => absurd hCall hOther
    case sending =>
      simp only [Device.step,
        LoRaClass.transmitted_of_sending hMode]
      exact fun hSending =>
        absurd hSending
          (Transceiver.not_inMode
            (show Transceiver.inMode _ modeStdby from rfl)
            (by decide))
    case silent =>
      intro _
      simp only [Device.step,
        LoRaClass.transmitted_of_sending hMode]
      exact
        Transceiver.not_receiving_of_mode
          (show Transceiver.inMode _ modeStdby from rfl)
          (by decide)
    case begun => simp [Device.step, hCall]
    case written => exact fun _ => hFilled.transmitted
  · have hSame :
        device.radio.chip.transmitted =
          device.radio.chip := if_neg hMode
    simp only [Device.step, hSame]
    exact hTuned

end Master

end LoRaTelemetry
