import LoRaTelemetry.Radio.MasterRefines

/-
  The radio of the master is a mailbox: at every poll the
  driver gives what the mailbox gives, the length and the
  bytes.

  Main declarations:
    * `Master.Keeps`
    * `Master.device_mailbox`
-/

------------------------------------------------------------
-- The Chip and the Mailbox
------------------------------------------------------------

namespace LoRaTelemetry

/- The packet that is found depends on these alone. -/
theorem Transceiver.found?_eq_none_iff
    (chip : Transceiver) :
    chip.found? = none ↔
      ¬ (chip.irqFlags &&& irqRxDoneMask ≠ 0 ∧
        chip.irqFlags &&& irqPayloadCrcErrorMask = 0 ∧
        chip.rxNbBytes ≠ 0) := by
  unfold found?
  split
  · rename_i hFound
    constructor
    · intro hNone
      cases hNone
    · exact fun hEmpty => absurd hFound hEmpty
  · rename_i hEmpty
    exact ⟨fun _ => hEmpty, fun _ => rfl⟩

namespace Master

/- The chip holds a letter, to be found by the next poll. -/
structure Kept
    (chip : Transceiver)
    (letter : Letter) : Prop where
  done : chip.irqFlags &&& irqRxDoneMask ≠ 0
  intact : chip.irqFlags &&& irqPayloadCrcErrorMask = 0
  count :
    chip.rxNbBytes.toNat = letter.frame.bytes.length
  current : chip.fifoRxCurrentAddr = letter.start
  stored :
    RingMemory.load chip.memory letter.start
        letter.frame.bytes.length =
      letter.bytes

theorem Kept.found
    {chip : Transceiver}
    {letter : Letter}
    (hKept : Kept chip letter) :
    chip.found?.map Frame.bytes = some letter.bytes := by
  have hSome : chip.rxNbBytes ≠ 0 := by
    intro hNone
    have hCount := hKept.count
    have hNonempty := letter.frame.nonempty
    rw [hNone] at hCount
    simp only [BitVec.ofNat_eq_ofNat, BitVec.toNat_ofNat,
      Nat.zero_mod] at hCount
    omega
  have hFound :=
    And.intro hKept.done (And.intro hKept.intact hSome)
  unfold Transceiver.found?
  rw [dif_pos hFound, Option.map_some]
  simp only
  rw [hKept.current, hKept.count, hKept.stored]

/- The chip is in the state of the mailbox. -/
structure Keeps
    (chip : Transceiver)
    (box : Mailbox) : Prop where
  spoilt :
    box.spoilt = true ↔
      chip.irqFlags &&& irqPayloadCrcErrorMask ≠ 0
  empty : box.slot = none → chip.found? = none
  full :
    ∀ letter, box.slot = some letter → Kept chip letter

variable {chip after : Transceiver} {box : Mailbox}

/- What `onreceive` is given of a letter. -/
def Letter.reading (letter : Letter) : Reading :=
  { packetSize := letter.frame.bytes.length
    bytes := letter.bytes.take structSize }

/- A poll takes out what the mailbox gives. -/
theorem Keeps.found
    (hKeeps : Keeps chip box) :
    chip.found?.toList.map reading =
      box.slot.toList.map Letter.reading := by
  cases hSlot : box.slot with
  | none =>
      rw [hKeeps.empty hSlot]
      rfl
  | some letter =>
      have hFound := (hKeeps.full letter hSlot).found
      rw [Option.map_eq_some_iff] at hFound
      rcases hFound with ⟨frame, hFrame, hBytes⟩
      rw [hFrame]
      simp [reading, Letter.reading, hBytes]

/- Nothing else of the chip matters to the mailbox. -/
theorem Keeps.of_same
    (hKeeps : Keeps chip box)
    (hMemory : after.memory = chip.memory)
    (hCount : after.rxNbBytes = chip.rxNbBytes)
    (hCurrent :
      after.fifoRxCurrentAddr = chip.fifoRxCurrentAddr)
    (hDone :
      after.irqFlags &&& irqRxDoneMask =
        chip.irqFlags &&& irqRxDoneMask)
    (hIntact :
      after.irqFlags &&& irqPayloadCrcErrorMask =
        chip.irqFlags &&& irqPayloadCrcErrorMask) :
    Keeps after box := by
  constructor
  case spoilt =>
    rw [hIntact]
    exact hKeeps.spoilt
  case empty =>
    intro hSlot
    have hNone := hKeeps.empty hSlot
    rw [Transceiver.found?_eq_none_iff] at hNone ⊢
    rw [hDone, hIntact, hCount]
    exact hNone
  case full =>
    intro letter hSlot
    have hKept := hKeeps.full letter hSlot
    constructor
    · rw [hDone]
      exact hKept.done
    · rw [hIntact]
      exact hKept.intact
    · rw [hCount]
      exact hKept.count
    · rw [hCurrent]
      exact hKept.current
    · rw [hMemory]
      exact hKept.stored

/- Once the flags are cleared, the mailbox is empty. -/
theorem Keeps.of_cleared
    (hCleared : chip.irqFlags = 0) :
    Keeps chip {} := by
  constructor
  case spoilt =>
    rw [hCleared]
    decide
  case empty =>
    intro _
    rw [Transceiver.found?_eq_none_iff, hCleared]
    exact fun hFound => hFound.1 rfl
  case full =>
    intro letter hSlot
    cases hSlot

/- A damaged frame leaves its mark until it is cleared. -/
theorem damaged_arrive
    (hReceiving : chip.Receiving)
    (frame : Frame)
    (start : Byte)
    (crcError : Bool) :
    (chip.arrive frame start crcError).irqFlags &&&
        irqPayloadCrcErrorMask ≠ 0 ↔
      chip.irqFlags &&& irqPayloadCrcErrorMask ≠ 0 ∨
        crcError = true := by
  rw [Transceiver.arrive, if_pos hReceiving]
  simp only
  cases crcError with
  | true =>
      simp only [if_true, or_true, iff_true]
      exact and_ne_zero_of_raised (by decide)
  | false =>
      have hSame :
          (chip.irqFlags ||| irqRxDoneMask ||| 0) &&&
              irqPayloadCrcErrorMask =
            chip.irqFlags &&& irqPayloadCrcErrorMask := by
        rw [and_raised_of_other (by decide),
          and_raised_of_other (by decide)]
      simp only [Bool.false_eq_true, if_false, or_false]
      rw [hSame]

/- A frame that arrives takes the slot, or spoils it. -/
theorem Keeps.arrive
    (hKeeps : Keeps chip box)
    (hReceiving : chip.Receiving)
    (frame : Frame)
    (start : Byte)
    (crcError : Bool) :
    Keeps (chip.arrive frame start crcError)
      (box.step (.arrive frame start crcError)) := by
  have hDamaged :=
    damaged_arrive hReceiving frame start crcError
  rw [← hKeeps.spoilt] at hDamaged
  simp only [Mailbox.step, Bool.or_eq_true]
  by_cases hSpoilt : box.spoilt = true ∨ crcError = true
  · rw [if_pos hSpoilt]
    have hMark := hDamaged.mpr hSpoilt
    constructor
    case spoilt => exact ⟨fun _ => hMark, fun _ => rfl⟩
    case empty =>
      intro _
      rw [Transceiver.found?_eq_none_iff]
      exact fun hFound => hMark hFound.2.1
    case full =>
      intro letter hSlot
      cases hSlot
  · rw [if_neg hSpoilt]
    rw [not_or, Bool.not_eq_true, Bool.not_eq_true]
      at hSpoilt
    rcases hSpoilt with ⟨hClean, rfl⟩
    have hIntact :
        chip.irqFlags &&& irqPayloadCrcErrorMask = 0 := by
      by_contra hMark
      rw [hKeeps.spoilt.mpr hMark] at hClean
      cases hClean
    have hHolds :=
      Transceiver.holds_arrive frame start hReceiving
        hIntact
    have hCurrent :
        (chip.arrive frame start false).fifoRxCurrentAddr =
          start := by
      rw [Transceiver.arrive, if_pos hReceiving]
    constructor
    case spoilt =>
      rw [hHolds.intact]
      simp
    case empty =>
      intro hSlot
      cases hSlot
    case full =>
      intro letter hSlot
      rw [Option.some.injEq] at hSlot
      subst hSlot
      have hStored := hHolds.stored
      rw [hCurrent] at hStored
      exact
        ⟨hHolds.done, hHolds.intact, hHolds.count, hCurrent,
          hStored⟩

/- A packet covers whatever another one covered. -/
theorem getD_getD_bytes
    (packet before : StructMessage)
    (place : Nat)
    (byte : Byte) :
    packet.bytes.getD place
        (before.bytes.getD place byte) =
      packet.bytes.getD place byte := by
  have hLength := packet.length_bytes
  have hBefore := before.length_bytes
  by_cases hPlace : place < structSize
  · rw [List.getD_eq_getElem _ _ (by omega),
      List.getD_eq_getElem _ _ (by omega)]
  · rw [List.getD_eq_default before.bytes _ (by omega)]

/- The last packet written over a letter is what counts. -/
theorem Letter.bytes_over
    (letter : Letter)
    (packet : StructMessage) :
    (letter.bytes.mapIdx fun place byte =>
        packet.bytes.getD
          (letter.start + BitVec.ofNat 8 place).toNat
          byte) =
      Letter.bytes { letter with packet? := some packet } := by
  cases hOver : letter.packet? with
  | none => simp [Letter.bytes, hOver]
  | some before =>
      simp only [Letter.bytes, hOver, List.mapIdx_mapIdx,
        Function.comp_def, getD_getD_bytes]

/- A packet that is written goes over what is held. -/
theorem Keeps.overwrite
    {packet : StructMessage}
    (hKeeps : Keeps chip box)
    (hMemory :
      after.memory =
        RingMemory.store chip.memory 0 packet.bytes)
    (hCount : after.rxNbBytes = chip.rxNbBytes)
    (hCurrent :
      after.fifoRxCurrentAddr = chip.fifoRxCurrentAddr)
    (hFlags : after.irqFlags = chip.irqFlags) :
    Keeps after (box.step (.overwrite packet)) := by
  have hFits : packet.bytes.length ≤ 2 ^ 8 := by
    rw [StructMessage.length_bytes]
    decide
  constructor
  case spoilt =>
    rw [hFlags]
    exact hKeeps.spoilt
  case empty =>
    intro hSlot
    have hBefore : box.slot = none := by
      simpa [Mailbox.step] using hSlot
    have hNone := hKeeps.empty hBefore
    rw [Transceiver.found?_eq_none_iff] at hNone ⊢
    rw [hFlags, hCount]
    exact hNone
  case full =>
    intro letter hSlot
    simp only [Mailbox.step, Option.map_eq_some_iff]
      at hSlot
    rcases hSlot with ⟨before, hBefore, rfl⟩
    have hKept := hKeeps.full before hBefore
    constructor
    · rw [hFlags]
      exact hKept.done
    · rw [hFlags]
      exact hKept.intact
    · rw [hCount]
      exact hKept.count
    · rw [hCurrent]
      exact hKept.current
    · rw [hMemory, RingMemory.load_store_over _ _ _ hFits,
        hKept.stored, ← before.bytes_over]
      simp

------------------------------------------------------------
-- Runs
------------------------------------------------------------

variable {config : Config} {device : Device}

/- A device whose radio is off keeps what it holds. -/
theorem Keeps.exec
    (hKeeps : Keeps device.radio.chip box)
    (got : GetOutcome)
    (now : ULong)
    (hWrite : device.call ≠ .write)
    (hPoll : device.call ≠ .onreceive) :
    Keeps (device.exec config got now).radio.chip box := by
  unfold Device.exec
  cases hCall : device.call
  case getDataFromServer => exact hKeeps
  case lastSendTime => exact hKeeps
  case beginPacket =>
    exact hKeeps.of_same rfl rfl rfl rfl rfl
  case endPacket =>
    exact hKeeps.of_same rfl rfl rfl rfl rfl
  case receive =>
    exact hKeeps.of_same rfl rfl rfl rfl rfl
  case wait =>
    simp only [LoRaClass.pollSent_eq]
    split
    · exact hKeeps
    · exact
        hKeeps.of_same rfl rfl rfl
          (and_cleared_of_other (by decide))
          (and_cleared_of_other (by decide))
  case write => exact absurd hCall hWrite
  case onreceive => exact absurd hCall hPoll

/- What a poll has not taken out is cleared. -/
theorem Keeps.of_poll
    (radio : LoRaClass)
    (state : State) :
    Keeps (onreceiveCall radio state).1.chip {} := by
  have hRead := onreceiveCall_radio radio state
  apply Keeps.of_cleared
  rw [hRead.chip]
  by_cases hSome :
      radio.chip.irqFlags &&& irqRxDoneMask ≠ 0 ∧
        radio.chip.irqFlags &&& irqPayloadCrcErrorMask = 0
  · rw [LoRaClass.parsePacket_of_announced hSome.1 hSome.2]
  · rw [LoRaClass.parsePacket_of_unannounced hSome]

/- The packet to be sent goes over what is held. -/
theorem Keeps.write
    (hTuned : Tuned device)
    (hCall : device.call = .write)
    (hKeeps : Keeps device.radio.chip box) :
    Keeps
      (device.radio.write
        device.sketch.telemtryPacketTX.bytes).2.chip
      (box.step
        (.overwrite device.sketch.telemtryPacketTX)) := by
  have hWhole :
      device.sketch.telemtryPacketTX.bytes.length ≤
        maxPktLength := by
    rw [StructMessage.length_bytes]
    decide
  have hMemory := (hTuned.begun hCall).memory_write hWhole
  refine hKeeps.overwrite hMemory ?_ ?_ ?_
  all_goals
    rw [LoRaClass.write_eq, LoRaClass.writeAll_eq]
    rfl

/- A step of the device is one of the mailbox, or none. -/
theorem Keeps.step
    (hKeeps : Keeps device.radio.chip box)
    (config : Config)
    (hTuned : Tuned device)
    (event : DeviceEvent) :
    let outputs := device.outputs event
    let mails := outputs.filterMap DeviceOutput.mail?
    Keeps (device.step config event).radio.chip
        (mailbox.runFrom box mails) ∧
      outputs.filterMap DeviceOutput.polled? =
        (mailbox.traceFrom box mails).map
          Letter.reading := by
  intro outputs mails
  cases event with
  | exec got now =>
      by_cases hWrite : device.call = .write
      · simp only [mails, outputs, Device.outputs, hWrite,
          Device.step, Device.exec]
        exact ⟨hKeeps.write hTuned hWrite, rfl⟩
      by_cases hPoll : device.call = .onreceive
      · by_cases hOpen : listening device.sketch now = true
        · have hFound := hKeeps.found
          have hMails : mails = [.poll] := by
            simp only [mails, outputs, Device.outputs,
              hPoll, hOpen, if_true]
            cases (onreceiveCall device.radio
                device.sketch).2.2.1 <;>
              cases (onreceiveCall device.radio
                device.sketch).2.2.2 <;>
              rfl
          have hGiven :
              (onreceiveCall device.radio
                device.sketch).2.2.1 =
                device.radio.chip.found?.map reading :=
            congrArg (fun called => called.2.1)
              (onreceiveCall_eq device.radio device.sketch)
          have hPolled :
              outputs.filterMap DeviceOutput.polled? =
                device.radio.chip.found?.toList.map
                  reading := by
            simp only [outputs, Device.outputs, hPoll,
              hOpen, if_true, hGiven]
            cases device.radio.chip.found? <;>
              cases (onreceiveCall device.radio
                device.sketch).2.2.2 <;>
              rfl
          rw [hMails, hPolled, hFound]
          simp only [Device.step, Device.exec, hPoll, hOpen,
            if_true]
          exact
            ⟨.of_poll _ _,
              by simp [Machine.traceFrom, mailbox]⟩
        · simp only [mails, outputs, Device.outputs, hPoll,
            hOpen, Device.step, Device.exec,
            Bool.false_eq_true, if_false]
          exact ⟨hKeeps, rfl⟩
      · have hNone : outputs = [] := by
          simp only [outputs, Device.outputs]
        simp only [mails, hNone]
        exact ⟨hKeeps.exec got now hWrite hPoll, rfl⟩
  | arrive frame start crcError =>
      by_cases hReceiving : device.radio.chip.Receiving
      · have hMails :
            mails = [.arrive frame start crcError] := by
          simp [mails, outputs, Device.outputs, hReceiving,
            DeviceOutput.mail?]
        have hPolled :
            outputs.filterMap DeviceOutput.polled? =
              [] := by
          simp [outputs, Device.outputs, hReceiving,
            DeviceOutput.polled?]
        rw [hMails, hPolled]
        exact
          ⟨hKeeps.arrive hReceiving frame start crcError,
            rfl⟩
      · have hNone : outputs = [] := if_neg hReceiving
        have hDeaf :
            device.radio.chip.arrive frame start crcError =
              device.radio.chip := if_neg hReceiving
        simp only [mails, hNone, Device.step, hDeaf]
        exact ⟨hKeeps, rfl⟩
  | giveUp =>
      refine ⟨?_, rfl⟩
      simp only [Device.step, Transceiver.giveUp]
      split
      · exact
          hKeeps.of_same rfl rfl rfl
            (and_raised_of_other (by decide))
            (and_raised_of_other (by decide))
      · exact hKeeps
  | transmitted =>
      refine ⟨?_, rfl⟩
      simp only [Device.step, Transceiver.transmitted]
      split
      · exact
          hKeeps.of_same rfl rfl rfl
            (and_raised_of_other (by decide))
            (and_raised_of_other (by decide))
      · exact hKeeps

/- The chip after a run, and what the polls have found. -/
theorem run_keeps
    (config : Config)
    (hReset : chip.irqFlags = 0)
    (events : List DeviceEvent) :
    let outputs := (Master.device config chip).trace events
    let mails := outputs.filterMap DeviceOutput.mail?
    Keeps ((Master.device config chip).run events).radio.chip
        (mailbox.run mails) ∧
      outputs.filterMap DeviceOutput.polled? =
        (mailbox.trace mails).map Letter.reading := by
  induction events using List.reverseRecOn with
  | nil =>
      exact ⟨.of_cleared hReset, rfl⟩
  | append_singleton events event ih =>
      rcases ih with ⟨hKeeps, hPolled⟩
      rcases device_runs config chip hReset events with
        ⟨steps, hRuns⟩
      rcases hKeeps.step config hRuns.radio event with
        ⟨hNext, hFound⟩
      intro outputs mails
      have hOutputs :
          outputs =
            (Master.device config chip).trace events ++
              Device.outputs
                ((Master.device config chip).run events)
                event := by
        simp only [outputs, Machine.trace_concat]
        rfl
      simp only [mails, hOutputs, List.filterMap_append,
        Machine.run_append, Machine.trace_append,
        List.map_append]
      exact ⟨hNext, by rw [hPolled, hFound]⟩

/-
  What the driver gives at the polls, the length and the
  bytes, is what a mailbox with one slot gives, whatever the
  radio hears and sends.
-/
theorem device_mailbox
    (config : Config)
    (chip : Transceiver)
    (hReset : chip.irqFlags = 0)
    (events : List DeviceEvent) :
    let outputs := (Master.device config chip).trace events
    outputs.filterMap DeviceOutput.polled? =
      (mailbox.trace
        (outputs.filterMap DeviceOutput.mail?)).map
          Letter.reading := by
  exact (run_keeps config hReset events).2

/- The late poll reads the status request for slave 9. -/
theorem lateReply_covered :
    let reply : Slave.StructMessage :=
      { nodeID := 8
        RXnodeID := node }
    let request :=
      statusRequest deployed
        { State.init with
          msgCount := 2
          i := 1 } 0
    (((Master.device deployed Transceiver.reset).trace
        (lateReply reply.frame)).filterMap
          DeviceOutput.polled?) =
      [⟨structSize, request.bytes⟩] := by
  intro reply request
  have hMailbox :=
    device_mailbox deployed Transceiver.reset rfl
      (lateReply reply.frame)
  have hCovered :
      ((mailbox.trace
          (((Master.device deployed Transceiver.reset).trace
            (lateReply reply.frame)).filterMap
              DeviceOutput.mail?)).map Letter.reading) =
        [⟨structSize, request.bytes⟩] := by
    decide +kernel
  exact hMailbox.trans hCovered

end Master

end LoRaTelemetry
