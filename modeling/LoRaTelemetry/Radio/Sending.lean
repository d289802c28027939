import LoRaTelemetry.Library.Machine
import LoRaTelemetry.Radio.Driver

/-
  What the driver puts on the air: the bytes that were passed
  to `write` since `beginPacket`, in order, up to the longest
  payload. They are on the air when `endPacket` returns, and
  it returns when they are.

  Main declarations:
    * `LoRaClass.Filled`
    * `LoRaClass.Filled.write`
    * `LoRaClass.Filled.payload`
    * `LoRaClass.endPacket_eq`
    * `LoRaClass.usage`
    * `LoRaClass.AtRest`
    * `LoRaClass.writes_onAir`
-/

------------------------------------------------------------
-- The Functions as Updates
------------------------------------------------------------

namespace LoRaTelemetry

namespace LoRaClass

variable (radio : LoRaClass)

theorem readRegister_eq
    {address : Register}
    (hAddress : address ≠ .fifo) :
    radio.readRegister address =
      (radio.chip.register address, radio) := by
  simp [readRegister, Transceiver.readRegister, hAddress]

theorem explicitHeaderModeOn_eq :
    radio.explicitHeaderModeOn =
      { radio with
        implicitHeaderMode := false
        chip :=
          { radio.chip with
            modemConfig1 :=
              radio.chip.modemConfig1 &&& 0xfe } } := by
  rfl

theorem beginPacket_eq :
    radio.beginPacket false =
      { radio with
        implicitHeaderMode := false
        chip :=
          { radio.chip with
            opMode := modeLongRangeMode ||| modeStdby
            modemConfig1 :=
              radio.chip.modemConfig1 &&& 0xfe
            fifoAddrPtr := 0
            payloadLength := 0 } } := by
  rfl

theorem writeAll_eq
    (bytes : List Byte) :
    radio.writeAll bytes =
      { radio with
        chip :=
          { radio.chip with
            memory :=
              RingMemory.store radio.chip.memory
                radio.chip.fifoAddrPtr bytes
            fifoAddrPtr :=
              radio.chip.fifoAddrPtr +
                BitVec.ofNat 8 bytes.length } } := by
  induction bytes generalizing radio with
  | nil => simp [writeAll, RingMemory.store]
  | cons byte bytes ih =>
      rw [writeAll, List.foldl_cons, ← writeAll, ih,
        List.length_cons, RingMemory.add_ofNat_succ]
      rfl

/- What `write` still takes of a buffer. -/
def room (buffer : List Byte) : Nat :=
  min buffer.length
    (maxPktLength - radio.chip.payloadLength.toNat)

theorem write_eq
    (buffer : List Byte) :
    radio.write buffer =
      (radio.room buffer,
        (radio.writeAll
            (buffer.take (radio.room buffer))).writeRegister
          .payloadLength
          (BitVec.ofNat 8
            (radio.chip.payloadLength.toNat +
              radio.room buffer))) := by
  have hOther : Register.payloadLength ≠ .fifo := by simp
  have hCurrent := radio.readRegister_eq hOther
  have hRoom :
      (if maxPktLength <
          radio.chip.payloadLength.toNat + buffer.length then
        maxPktLength - radio.chip.payloadLength.toNat
      else
        buffer.length) = radio.room buffer := by
    unfold room
    split <;> omega
  rw [write, hCurrent]
  dsimp only [Transceiver.register]
  rw [hRoom]

theorem receive_eq :
    radio.receive 0 =
      { radio with
        implicitHeaderMode := false
        chip :=
          { radio.chip with
            opMode := modeLongRangeMode ||| modeRxContinuous
            modemConfig1 :=
              radio.chip.modemConfig1 &&& 0xfe } } := by
  rfl

theorem pollSent_eq :
    radio.pollSent =
      if radio.chip.irqFlags &&& irqTxDoneMask = 0 then
        (false, radio)
      else
        (true,
          radio.writeRegister .irqFlags irqTxDoneMask) := by
  unfold pollSent
  rw [readRegister_eq _ (by simp)]
  rfl

@[simp] theorem onAir_write
    (buffer : List Byte) :
    (radio.write buffer).2.chip.onAir =
      radio.chip.onAir := by
  rw [write_eq, writeAll_eq]
  rfl

------------------------------------------------------------
-- A Packet under Construction
------------------------------------------------------------

/- The bytes written so far are the payload. -/
structure Filled (written : List Byte) : Prop where
  base : radio.chip.fifoTxBaseAddr = 0
  length :
    radio.chip.payloadLength.toNat = written.length
  pointer :
    radio.chip.fifoAddrPtr = radio.chip.payloadLength
  memory :
    ∃ before,
      radio.chip.memory =
        RingMemory.store before 0 written

variable {radio}

theorem Filled.of_beginPacket
    (hBase : radio.chip.fifoTxBaseAddr = 0) :
    (radio.beginPacket false).Filled [] := by
  rw [beginPacket_eq]
  exact ⟨hBase, rfl, rfl, radio.chip.memory, rfl⟩

theorem Filled.room
    {written : List Byte}
    (hFilled : radio.Filled written)
    (buffer : List Byte) :
    radio.room buffer =
      min buffer.length (maxPktLength - written.length) := by
  rw [LoRaClass.room, hFilled.length]

/- A call of `write` appends what fits. -/
theorem Filled.write
    {written : List Byte}
    (hFilled : radio.Filled written)
    (buffer : List Byte) :
    (radio.write buffer).2.Filled
      (written ++
        buffer.take (maxPktLength - written.length)) := by
  have hBound := radio.chip.payloadLength.isLt
  rw [hFilled.length] at hBound
  have hTake :
      buffer.take (radio.room buffer) =
        buffer.take (maxPktLength - written.length) := by
    rw [hFilled.room, List.take_eq_take_iff]
    omega
  rw [write_eq, writeAll_eq, hTake, hFilled.length,
    hFilled.room]
  rcases hFilled.memory with ⟨before, hMemory⟩
  constructor
  · exact hFilled.base
  · simp only [writeRegister, Transceiver.writeRegister,
      BitVec.toNat_ofNat, List.length_append,
      List.length_take]
    unfold maxPktLength
    omega
  · simp only [writeRegister, Transceiver.writeRegister]
    rw [hFilled.pointer, List.length_take, Nat.min_comm,
      BitVec.ofNat_add, ← hFilled.length,
      BitVec.ofNat_toNat, BitVec.setWidth_eq]
  · refine ⟨before, ?_⟩
    have hPointer :
        radio.chip.fifoAddrPtr =
          0 + BitVec.ofNat 8 written.length := by
      rw [hFilled.pointer, ← hFilled.length,
        BitVec.ofNat_toNat, BitVec.setWidth_eq, zero_add]
    rw [RingMemory.store_append, ← hMemory, ← hPointer]
    rfl

/- The first packet written lies at the start. -/
theorem Filled.memory_write
    (hFilled : radio.Filled [])
    {buffer : List Byte}
    (hFits : buffer.length ≤ maxPktLength) :
    (radio.write buffer).2.chip.memory =
      RingMemory.store radio.chip.memory 0 buffer := by
  have hEmpty : radio.chip.payloadLength = 0 :=
    BitVec.eq_of_toNat_eq hFilled.length
  have hRoom : radio.room buffer = buffer.length := by
    rw [hFilled.room]
    exact Nat.min_eq_left hFits
  rw [write_eq, writeAll_eq, hRoom, List.take_length,
    hFilled.pointer, hEmpty]
  rfl

/- The payload is what was written. -/
theorem Filled.payload
    {written : List Byte}
    (hFilled : radio.Filled written) :
    radio.chip.payload = written := by
  have hBound := radio.chip.payloadLength.isLt
  rw [hFilled.length] at hBound
  rcases hFilled.memory with ⟨before, hMemory⟩
  rw [Transceiver.payload, hFilled.base, hFilled.length,
    hMemory]
  exact RingMemory.load_store before 0 (by omega)

/- Sending, to its end or not, leaves the buffer alone. -/
theorem Filled.startSending
    {written : List Byte}
    (hFilled : radio.Filled written) :
    radio.startSending.Filled written := by
  exact
    ⟨hFilled.base, hFilled.length, hFilled.pointer,
      hFilled.memory⟩

theorem Filled.transmitted
    {written : List Byte}
    (hFilled : radio.Filled written) :
    Filled
      { radio with chip := radio.chip.transmitted }
      written := by
  unfold Transceiver.transmitted
  split
  · exact
      ⟨hFilled.base, hFilled.length, hFilled.pointer,
        hFilled.memory⟩
  · exact hFilled

------------------------------------------------------------
-- The Wait for the End
------------------------------------------------------------

/- The chip at the end of its transmission. -/
theorem transmitted_of_sending
    {chip : Transceiver}
    (hMode : chip.inMode modeTx) :
    chip.transmitted =
      { chip with
        irqFlags := chip.irqFlags ||| irqTxDoneMask
        opMode := modeLongRangeMode ||| modeStdby
        onAir := chip.onAir ++ [chip.payload] } := by
  exact if_pos hMode

/- The wait ends in the round in which the sending ends. -/
theorem waitSent_eq
    (hMode : radio.chip.inMode modeTx)
    (hUntold :
      radio.chip.irqFlags &&& irqTxDoneMask = 0)
    (rounds : List Bool) :
    waitSent rounds radio =
      if true ∈ rounds then
        (true,
          LoRaClass.writeRegister
            { radio with chip := radio.chip.transmitted }
            .irqFlags irqTxDoneMask)
      else
        (false, radio) := by
  induction rounds with
  | nil => rfl
  | cons ended rounds ih =>
      cases ended with
      | false =>
          simp only [waitSent, Bool.false_eq_true, if_false,
            pollSent_eq, hUntold, if_true, List.mem_cons,
            Bool.true_eq_false, false_or]
          exact ih
      | true =>
          have hTold :
              radio.chip.transmitted.irqFlags &&&
                irqTxDoneMask ≠ 0 := by
            rw [transmitted_of_sending hMode]
            exact and_ne_zero_of_raised (by decide)
          simp only [waitSent, if_true, pollSent_eq, hTold,
            if_false, List.mem_cons, true_or]

/-
  `endPacket` on a radio that has no earlier transmission to
  tell of: it returns once the chip has sent the packet.
-/
theorem endPacket_eq
    (hUntold :
      radio.chip.irqFlags &&& irqTxDoneMask = 0)
    (rounds : List Bool) :
    radio.endPacket rounds =
      if true ∈ rounds then
        (true,
          LoRaClass.writeRegister
            { radio.startSending with
              chip := radio.startSending.chip.transmitted }
            .irqFlags irqTxDoneMask)
      else
        (false, radio.startSending) := by
  exact
    waitSent_eq
      (show radio.startSending.chip.inMode modeTx from rfl)
      hUntold rounds

theorem onAir_endPacket
    (hUntold :
      radio.chip.irqFlags &&& irqTxDoneMask = 0)
    (rounds : List Bool) :
    (radio.endPacket rounds).2.chip.onAir =
      radio.chip.onAir ++
        if true ∈ rounds then
          [radio.chip.payload]
        else
          [] := by
  rw [endPacket_eq hUntold]
  split
  · rfl
  · exact (List.append_nil _).symm

------------------------------------------------------------
-- Any Use of the Driver
------------------------------------------------------------

/-
  A call of the driver, or something that the chip does by
  itself between calls. A callback on a received packet reads
  some bytes; the wait of `endPacket` goes some rounds until
  the chip has sent the packet.
-/
inductive Event where
| idle
| sleep
| receive (size : Int)
| beginPacket (implicitHeader : Bool)
| write (buffer : List Byte)
| endPacket (rounds : Nat)
| parsePacket (size : Int)
| read
| peek
| dio0Rise (requested : Nat)
| arrive (frame : Frame) (start : Byte) (crcError : Bool)
| giveUp

def step (radio : LoRaClass) : Event → LoRaClass
| .idle => radio.idle
| .sleep => radio.sleep
| .receive size => radio.receive size
| .beginPacket implicitHeader =>
    radio.beginPacket implicitHeader
| .write buffer => (radio.write buffer).2
| .endPacket rounds =>
    (radio.endPacket
      (List.replicate rounds false ++ [true])).2
| .parsePacket size => (radio.parsePacket size).2
| .read => radio.read.2
| .peek => radio.peek.2
| .dio0Rise requested =>
    (radio.handleDio0Rise
      (fun _ globals =>
        ((readBytes requested globals.1).2, globals.2))
      ()).1
| .arrive frame start crcError =>
    { radio with
      chip := radio.chip.arrive frame start crcError }
| .giveUp => { radio with chip := radio.chip.giveUp }

/- The driver in use, from a call of `begin` on. -/
def usage (chip : Transceiver) :
    Machine LoRaClass Event Empty :=
  { init := begin { chip := chip }
    step := step
    emit := fun _ _ => [] }

/- Reading moves the pointer and the index only. -/
structure SameButPointer
    (radio' radio : LoRaClass) : Prop where
  chip :
    radio'.chip =
      { radio.chip with
        fifoAddrPtr := radio'.chip.fifoAddrPtr }
  header :
    radio'.implicitHeaderMode = radio.implicitHeaderMode

theorem sameButPointer_read
    (radio : LoRaClass) :
    radio.read.2.SameButPointer radio := by
  unfold LoRaClass.read
  split <;> exact ⟨rfl, rfl⟩

theorem sameButPointer_readBytes
    (requested : Nat)
    (radio : LoRaClass) :
    (LoRaClass.readBytes requested radio).2.SameButPointer
      radio := by
  induction requested generalizing radio with
  | zero => exact ⟨rfl, rfl⟩
  | succ requested ih =>
      have hRead := sameButPointer_read radio
      rw [LoRaClass.readBytes]
      split
      · rename_i hNone
        rw [hNone] at hRead
        exact hRead
      · rename_i byte radio' hSome
        rw [hSome] at hRead
        have hRest := ih radio'
        constructor
        · rw [hRest.chip, hRead.chip]
        · exact hRest.header.trans hRead.header

/-
  The radio between two calls: nothing is being sent, and no
  transmission that has ended is left to be told.
-/
structure AtRest (radio : LoRaClass) : Prop where
  base : radio.chip.fifoTxBaseAddr = 0
  idle : ¬ radio.chip.inMode modeTx
  untold : radio.chip.irqFlags &&& irqTxDoneMask = 0

theorem AtRest.of_same
    {after before : LoRaClass}
    (hRest : before.AtRest)
    (hSame : after.SameButPointer before) :
    after.AtRest := by
  constructor
  case base =>
    rw [hSame.chip]
    exact hRest.base
  case idle =>
    rw [hSame.chip]
    exact hRest.idle
  case untold =>
    rw [hSame.chip]
    exact hRest.untold

/- Leaving a mode for one that does not send. -/
theorem AtRest.of_mode
    {after before : LoRaClass}
    (hRest : before.AtRest)
    (hBase :
      after.chip.fifoTxBaseAddr =
        before.chip.fifoTxBaseAddr)
    (hFlags : after.chip.irqFlags = before.chip.irqFlags)
    {mode : Byte}
    (hMode : after.chip.inMode mode)
    (hOther :
      modeLongRangeMode ||| mode ≠
        modeLongRangeMode ||| modeTx) :
    after.AtRest := by
  constructor
  case base => exact hBase.trans hRest.base
  case idle => exact Transceiver.not_inMode hMode hOther
  case untold =>
    rw [hFlags]
    exact hRest.untold

theorem AtRest.beginPacket
    {radio : LoRaClass}
    (hRest : radio.AtRest)
    (implicitHeader : Bool) :
    (radio.beginPacket implicitHeader).AtRest := by
  cases implicitHeader
  all_goals
    exact
      hRest.of_mode rfl rfl
        (show Transceiver.inMode _ modeStdby from rfl)
        (by decide)

theorem AtRest.write
    {radio : LoRaClass}
    (hRest : radio.AtRest)
    (buffer : List Byte) :
    (radio.write buffer).2.AtRest := by
  rw [write_eq, writeAll_eq]
  exact ⟨hRest.base, hRest.idle, hRest.untold⟩

/- Once `endPacket` has returned, the radio is at rest. -/
theorem AtRest.endPacket
    {radio : LoRaClass}
    (hRest : radio.AtRest)
    (rounds : Nat) :
    (radio.endPacket
      (List.replicate rounds false ++ [true])).2.AtRest := by
  have hSending : radio.startSending.chip.inMode modeTx :=
    rfl
  rw [endPacket_eq hRest.untold, if_pos (by simp),
    transmitted_of_sending hSending]
  constructor
  case base => exact hRest.base
  case idle =>
    exact
      Transceiver.not_inMode
        (show Transceiver.inMode _ modeStdby from rfl)
        (by decide)
  case untold => exact and_cleared_self _ _

theorem base_parsePacket
    (radio : LoRaClass)
    (size : Int) :
    (radio.parsePacket size).2.chip.fifoTxBaseAddr =
      radio.chip.fifoTxBaseAddr := by
  unfold parsePacket
  simp only
  split_ifs <;> rfl

/- A poll ends in standby with a packet, or receives. -/
theorem mode_parsePacket
    (radio : LoRaClass)
    (size : Int) :
    (radio.parsePacket size).2.chip.inMode modeStdby ∨
      (radio.parsePacket size).2.chip.inMode
        modeRxSingle := by
  unfold parsePacket
  simp only
  split_ifs
  all_goals first
    | exact .inl rfl
    | exact .inr rfl
    | rename_i hMode
      exact .inr (not_not.mp hMode)

/- It clears the flags that it has read. -/
theorem AtRest.parsePacket
    {radio : LoRaClass}
    (hRest : radio.AtRest)
    (size : Int) :
    (radio.parsePacket size).2.AtRest := by
  constructor
  case base =>
    exact (base_parsePacket radio size).trans hRest.base
  case idle =>
    rcases mode_parsePacket radio size with
      hStdby | hSingle
    · exact Transceiver.not_inMode hStdby (by decide)
    · exact Transceiver.not_inMode hSingle (by decide)
  case untold =>
    unfold LoRaClass.parsePacket
    simp only
    split_ifs
    all_goals exact and_cleared_all _ _

theorem AtRest.dio0Rise
    {radio : LoRaClass}
    (hRest : radio.AtRest)
    (requested : Nat) :
    (step radio (.dio0Rise requested)).AtRest := by
  have hCleared (pointer : Byte) (index : Int) :
      AtRest
        { radio with
          packetIndex := index
          chip :=
            { radio.chip with
              irqFlags :=
                radio.chip.irqFlags &&&
                  ~~~radio.chip.irqFlags
              fifoAddrPtr := pointer } } :=
    ⟨hRest.base, hRest.idle, and_cleared_all _ _⟩
  simp only [step, handleDio0Rise]
  split
  · have hRead :=
      (hCleared radio.chip.fifoRxCurrentAddr 0).of_same
        (sameButPointer_readBytes requested _)
    split
    · exact ⟨hRead.base, hRead.idle, hRead.untold⟩
    · exact ⟨hRead.base, hRead.idle, hRead.untold⟩
  · exact hCleared radio.chip.fifoAddrPtr radio.packetIndex

theorem AtRest.arrive
    {radio : LoRaClass}
    (hRest : radio.AtRest)
    (frame : Frame)
    (start : Byte)
    (crcError : Bool) :
    (step radio (.arrive frame start crcError)).AtRest := by
  simp only [step, Transceiver.arrive]
  split
  · constructor
    case base => exact hRest.base
    case idle =>
      by_cases hSingle : radio.chip.inMode modeRxSingle
      · simp only [hSingle, if_true]
        exact
          Transceiver.not_inMode
            (show Transceiver.inMode _ modeStdby from rfl)
            (by decide)
      · simp only [hSingle, if_false]
        exact hRest.idle
    case untold =>
      simp only
      rw [BitVec.or_assoc,
        and_raised_of_other (by cases crcError <;> decide)]
      exact hRest.untold
  · exact hRest

theorem AtRest.giveUp
    {radio : LoRaClass}
    (hRest : radio.AtRest) :
    (step radio .giveUp).AtRest := by
  simp only [step, Transceiver.giveUp]
  split
  · constructor
    case base => exact hRest.base
    case idle =>
      exact
        Transceiver.not_inMode
          (show Transceiver.inMode _ modeStdby from rfl)
          (by decide)
    case untold =>
      simp only
      rw [and_raised_of_other (by decide)]
      exact hRest.untold
  · exact hRest

/- Every use of the driver leaves the radio at rest. -/
theorem AtRest.step
    {radio : LoRaClass}
    (hRest : radio.AtRest)
    (event : Event) :
    (step radio event).AtRest := by
  cases event with
  | idle =>
      exact
        hRest.of_mode rfl rfl
          (show Transceiver.inMode _ modeStdby from rfl)
          (by decide)
  | sleep =>
      exact
        hRest.of_mode rfl rfl
          (show Transceiver.inMode _ modeSleep from rfl)
          (by decide)
  | receive size =>
      simp only [LoRaClass.step, LoRaClass.receive]
      split
      all_goals
        exact
          hRest.of_mode rfl rfl
            (show Transceiver.inMode _ modeRxContinuous
              from rfl)
            (by decide)
  | beginPacket implicitHeader =>
      exact hRest.beginPacket implicitHeader
  | write buffer => exact hRest.write buffer
  | endPacket rounds => exact hRest.endPacket rounds
  | parsePacket size => exact hRest.parsePacket size
  | read =>
      exact hRest.of_same (sameButPointer_read radio)
  | peek =>
      simp only [LoRaClass.step, LoRaClass.peek]
      split
      all_goals
        exact ⟨hRest.base, hRest.idle, hRest.untold⟩
  | dio0Rise requested => exact hRest.dio0Rise requested
  | arrive frame start crcError =>
      exact hRest.arrive frame start crcError
  | giveUp => exact hRest.giveUp

theorem usage_atRest
    (chip : Transceiver)
    (hReset : chip.irqFlags = 0)
    (events : List Event) :
    ((usage chip).run events).AtRest := by
  apply Machine.run_invariant (usage chip) (P := AtRest)
  · constructor
    case base => rfl
    case idle =>
      exact
        Transceiver.not_inMode
          (show Transceiver.inMode _ modeStdby from rfl)
          (by decide)
    case untold =>
      show chip.irqFlags &&& irqTxDoneMask = 0
      rw [hReset]
      rfl
  · exact fun _ event hRest => hRest.step event

------------------------------------------------------------
-- Packets on the Air
------------------------------------------------------------

/- The buffers passed to `write`, one call for each. -/
def writes :
    LoRaClass → List (List Byte) → List Nat × LoRaClass
| radio, [] => ([], radio)
| radio, buffer :: buffers =>
    let (size, radio) := radio.write buffer
    let (sizes, radio) := writes radio buffers
    (size :: sizes, radio)

/- Calls of `write` append what fits, and say how much. -/
theorem Filled.writes
    {radio : LoRaClass}
    {written : List Byte}
    (hFilled : radio.Filled written)
    (hFits : written.length ≤ maxPktLength)
    (buffers : List (List Byte)) :
    (LoRaClass.writes radio buffers).2.Filled
        ((written ++ buffers.flatten).take maxPktLength) ∧
      (LoRaClass.writes radio buffers).2.chip.onAir =
        radio.chip.onAir ∧
      written.length +
          (LoRaClass.writes radio buffers).1.sum =
        min maxPktLength
          (written ++ buffers.flatten).length := by
  induction buffers generalizing radio written with
  | nil =>
      simp only [LoRaClass.writes, List.flatten_nil,
        List.append_nil, List.sum_nil, Nat.add_zero]
      rw [List.take_of_length_le hFits]
      exact ⟨hFilled, trivial, by omega⟩
  | cons buffer buffers ih =>
      have hWrite := hFilled.write buffer
      have hOnce :
          written ++
              buffer.take (maxPktLength - written.length) =
            (written ++ buffer).take maxPktLength := by
        rw [List.take_append, List.take_of_length_le hFits]
      have hSize :
          (radio.write buffer).1 =
            min buffer.length
              (maxPktLength - written.length) := by
        rw [write_eq]
        exact hFilled.room buffer
      have hOnAir := radio.onAir_write buffer
      rw [hOnce] at hWrite
      rcases ih hWrite (by simp) with
        ⟨hRest, hSame, hTotal⟩
      simp only [LoRaClass.writes, List.flatten_cons,
        List.sum_cons]
      have hJoin :
          ((written ++ buffer).take maxPktLength ++
              buffers.flatten).take maxPktLength =
            (written ++
              (buffer ++ buffers.flatten)).take
                maxPktLength := by
        rw [← List.append_assoc, List.take_append,
          List.take_take, Nat.min_self, List.length_take,
          @List.take_append _ (written ++ buffer)]
        congr 2
        omega
      refine ⟨?_, hSame.trans hOnAir, ?_⟩
      · rw [← hJoin]
        exact hRest
      · simp only [List.length_append, List.length_take]
          at hTotal ⊢
        rw [hSize]
        omega

theorem AtRest.writes
    {radio : LoRaClass}
    (hRest : radio.AtRest)
    (buffers : List (List Byte)) :
    (LoRaClass.writes radio buffers).2.AtRest := by
  induction buffers generalizing radio with
  | nil => exact hRest
  | cons buffer buffers ih => exact ih (hRest.write buffer)

/-
  After any use of the driver, a packet is begun, filled by
  calls of `write` and ended: `endPacket` returns if and only
  if the chip comes to the end of the transmission, and then
  the bytes passed to `write` are on the air, up to the
  longest payload. The sizes returned add up to them.
-/
theorem writes_onAir
    (chip : Transceiver)
    (hReset : chip.irqFlags = 0)
    (events : List Event)
    (buffers : List (List Byte))
    (rounds : List Bool) :
    let radio := (usage chip).run events
    let written := writes (radio.beginPacket false) buffers
    let ended := written.2.endPacket rounds
    ended.1 = decide (true ∈ rounds) ∧
      ended.2.chip.onAir =
        radio.chip.onAir ++
          (if ended.1 then
            [buffers.flatten.take maxPktLength]
          else
            []) ∧
      written.1.sum =
        min maxPktLength buffers.flatten.length := by
  intro radio written ended
  have hRest : radio.AtRest :=
    usage_atRest chip hReset events
  have hUntold :=
    ((hRest.beginPacket false).writes buffers).untold
  rcases (Filled.of_beginPacket hRest.base).writes
      (by simp) buffers with
    ⟨hFilled, hOnAir, hSizes⟩
  rw [List.nil_append] at hFilled hSizes
  have hReturns : ended.1 = decide (true ∈ rounds) := by
    simp only [ended]
    rw [endPacket_eq hUntold]
    split <;> simp_all
  refine ⟨hReturns, ?_, ?_⟩
  · rw [hReturns, onAir_endPacket hUntold, hFilled.payload,
      hOnAir]
    simp only [decide_eq_true_eq]
    rfl
  · simpa using hSizes

/- A second packet, written in two parts. -/
theorem secondPacket_onAir :
    let radio :=
      (usage Transceiver.reset).run
        [.beginPacket false, .write [1, 2], .endPacket 3,
          .receive 0]
    let written :=
      writes (radio.beginPacket false) [[5], [6, 7]]
    let ended := written.2.endPacket [false, true, false]
    ended.1 = true ∧
      ended.2.chip.onAir = [[1, 2], [5, 6, 7]] ∧
      written.1.sum = 3 := by
  have hFirst :
      ((usage Transceiver.reset).run
        [.beginPacket false, .write [1, 2], .endPacket 3,
          .receive 0]).chip.onAir = [[1, 2]] := by
    decide +kernel
  rcases writes_onAir Transceiver.reset rfl
      [.beginPacket false, .write [1, 2], .endPacket 3,
        .receive 0]
      [[5], [6, 7]] [false, true, false] with
    ⟨hReturns, hOnAir, hSizes⟩
  rw [hFirst, hReturns] at hOnAir
  exact ⟨hReturns, hOnAir, hSizes⟩

end LoRaClass

end LoRaTelemetry
