import LoRaTelemetry.Library.Simulation
import LoRaTelemetry.Radio.Sending

/-
  What the driver gives of a received packet: however the
  calls of `available`, `read` and `peek` follow one another,
  they answer as on the list of the frame's bytes, wherever
  in the buffer the chip has stored it.

  Main declarations:
    * `LoRaClass.Reads`
    * `LoRaClass.Reads.readBytes`
    * `LoRaClass.parsePacket_reads`
    * `LoRaClass.reader`
    * `LoRaClass.received_answers`
-/

------------------------------------------------------------
-- A Packet Being Read
------------------------------------------------------------

namespace LoRaTelemetry

namespace LoRaClass

/-
  The driver stands where a reader of the frame's bytes
  would: the bytes still to be read lie at the pointer.
-/
structure Reads
    (radio : LoRaClass)
    (reader : LoRa) : Prop where
  index : radio.packetIndex = reader.packetIndex
  inside : reader.packetIndex ≤ reader.fifo.length
  count :
    radio.chip.rxNbBytes.toNat = reader.fifo.length
  unread :
    RingMemory.load radio.chip.memory
        radio.chip.fifoAddrPtr reader.available =
      reader.fifo.drop reader.packetIndex

variable {radio : LoRaClass} {reader : LoRa}

theorem Reads.available
    (hReads : radio.Reads reader) :
    radio.available = reader.available := by
  have hInside := hReads.inside
  have hCount :
      ((radio.readRegister .rxNbBytes).1.toNat : Int) =
        reader.fifo.length := by
    exact congrArg Nat.cast hReads.count
  rw [LoRaClass.available, hCount, hReads.index,
    LoRa.available]
  omega

/- With bytes left, the next one lies at the pointer. -/
theorem Reads.next
    (hReads : radio.Reads reader)
    (hLeft : reader.available ≠ 0) :
    reader.fifo[reader.packetIndex]? =
        some (radio.chip.memory radio.chip.fifoAddrPtr) ∧
      RingMemory.load radio.chip.memory
          (radio.chip.fifoAddrPtr + 1)
          (reader.available - 1) =
        reader.fifo.drop (reader.packetIndex + 1) := by
  have hUnread := hReads.unread
  rcases Nat.exists_eq_succ_of_ne_zero hLeft with
    ⟨left, hLength⟩
  rw [hLength, RingMemory.load] at hUnread
  rw [hLength, Nat.succ_sub_one]
  have hInside :
      reader.packetIndex < reader.fifo.length := by
    unfold LoRa.available at hLength
    omega
  rw [List.drop_eq_getElem_cons hInside,
    List.cons_eq_cons] at hUnread
  rw [List.getElem?_eq_getElem hInside, hUnread.1]
  exact ⟨rfl, hUnread.2⟩

/- `read` gives what the reader gives, and keeps in step. -/
theorem Reads.read
    (hReads : radio.Reads reader) :
    radio.read.1 = reader.read.1 ∧
      radio.read.2.Reads reader.read.2 := by
  have hAvailable := hReads.available
  by_cases hLeft : reader.available = 0
  · have hNone : radio.available = 0 := by omega
    rw [LoRaClass.read, LoRa.read, if_pos hNone,
      if_pos hLeft]
    exact ⟨rfl, hReads⟩
  · have hSome : radio.available ≠ 0 := by omega
    rcases hReads.next hLeft with ⟨hByte, hRest⟩
    rw [LoRaClass.read, LoRa.read, if_neg hSome,
      if_neg hLeft, hByte]
    have hInside := hReads.inside
    have hShorter :
        reader.fifo.length - (reader.packetIndex + 1) =
          reader.available - 1 := by
      unfold LoRa.available
      omega
    refine ⟨rfl, ?_, ?_, hReads.count, ?_⟩
    · simp only [readRegister, hReads.index]
      rfl
    · unfold LoRa.available at hLeft
      simp only
      omega
    · simp only [LoRa.available, hShorter]
      exact hRest

/- `peek` gives the next byte and changes nothing. -/
theorem Reads.peek
    (hReads : radio.Reads reader) :
    radio.peek =
      (if reader.available = 0 then
        none
      else
        reader.fifo[reader.packetIndex]?, radio) := by
  have hAvailable := hReads.available
  by_cases hLeft : reader.available = 0
  · have hNone : radio.available = 0 := by omega
    rw [LoRaClass.peek, if_pos hNone, if_pos hLeft]
  · have hSome : radio.available ≠ 0 := by omega
    rw [LoRaClass.peek, if_neg hSome, if_neg hLeft,
      (hReads.next hLeft).1]
    rfl

/- `readBytes` copies the bytes that the reader copies. -/
theorem Reads.readBytes
    (hReads : radio.Reads reader)
    (requested : Nat) :
    (LoRaClass.readBytes requested radio).1 =
      LoRa.readBytes requested reader := by
  induction requested generalizing radio reader with
  | zero => rfl
  | succ requested ih =>
      rcases hReads.read with ⟨hByte, hNext⟩
      rw [LoRaClass.readBytes, LoRa.readBytes]
      cases hRead : radio.read with
      | mk byte radio' =>
          cases hRead' : reader.read with
          | mk byte' reader' =>
              rw [hRead, hRead'] at hByte hNext
              simp only at hByte hNext
              subst hByte
              cases byte with
              | none => rfl
              | some byte =>
                  simp only
                  rw [ih hNext]

------------------------------------------------------------
-- Opening a Received Packet
------------------------------------------------------------

end LoRaClass

/- A whole frame has been stored and announced. -/
structure Transceiver.Holds
    (chip : Transceiver)
    (frame : Frame) : Prop where
  done : chip.irqFlags &&& irqRxDoneMask ≠ 0
  intact : chip.irqFlags &&& irqPayloadCrcErrorMask = 0
  count : chip.rxNbBytes.toNat = frame.bytes.length
  stored :
    RingMemory.load chip.memory chip.fifoRxCurrentAddr
        frame.bytes.length =
      frame.bytes

/- Every frame that arrives is announced. -/
theorem Transceiver.announces_arrive
    {chip : Transceiver}
    (frame : Frame)
    (start : Byte)
    (crcError : Bool)
    (hReceiving : chip.Receiving) :
    (chip.arrive frame start crcError).irqFlags &&&
      irqRxDoneMask ≠ 0 := by
  rw [Transceiver.arrive, if_pos hReceiving]
  simp only
  rw [BitVec.or_assoc]
  apply and_ne_zero_of_raised
  cases crcError <;> decide

/- A frame that arrives undamaged is held, wherever it is. -/
theorem Transceiver.holds_arrive
    {chip : Transceiver}
    (frame : Frame)
    (start : Byte)
    (hReceiving : chip.Receiving)
    (hIntact :
      chip.irqFlags &&& irqPayloadCrcErrorMask = 0) :
    (chip.arrive frame start false).Holds frame := by
  have hFits := frame.fits
  have hAnnounced :=
    announces_arrive frame start false hReceiving
  unfold maxPktLength at hFits
  rw [Transceiver.arrive, if_pos hReceiving] at hAnnounced ⊢
  constructor
  · exact hAnnounced
  · simp only [Bool.false_eq_true, if_false,
      BitVec.and_or_distrib_right, hIntact]
    decide
  · rw [BitVec.toNat_ofNat, Nat.mod_eq_of_lt (by omega)]
  · exact RingMemory.load_store _ _ (by omega)

namespace LoRaClass

variable {radio : LoRaClass} {frame : Frame}

/- Every flag that has been read is cleared. -/
theorem clear_flags
    (radio : LoRaClass) :
    radio.writeRegister .irqFlags radio.chip.irqFlags =
      { radio with
        chip := { radio.chip with irqFlags := 0 } } := by
  simp only [writeRegister, Transceiver.writeRegister]
  rw [BitVec.and_not_self]

theorem parsePacket_of_announced
    (hDone : radio.chip.irqFlags &&& irqRxDoneMask ≠ 0)
    (hIntact :
      radio.chip.irqFlags &&& irqPayloadCrcErrorMask = 0) :
    radio.parsePacket 0 =
      (radio.chip.rxNbBytes.toNat,
        { packetIndex := 0
          implicitHeaderMode := false
          chip :=
            { radio.chip with
              modemConfig1 :=
                radio.chip.modemConfig1 &&& 0xfe
              irqFlags := 0
              fifoAddrPtr := radio.chip.fifoRxCurrentAddr
              opMode :=
                modeLongRangeMode ||| modeStdby } }) := by
  have hBoth := And.intro hDone hIntact
  have hClear :=
    clear_flags radio.explicitHeaderModeOn
  rw [explicitHeaderModeOn_eq] at hClear
  unfold parsePacket
  rw [readRegister_eq _ (by simp)]
  dsimp only [Transceiver.register]
  rw [if_neg (Int.lt_irrefl 0), if_pos hBoth,
    explicitHeaderModeOn_eq, hClear]
  rfl

theorem parsePacket_of_unannounced
    (hNone :
      ¬ (radio.chip.irqFlags &&& irqRxDoneMask ≠ 0 ∧
        radio.chip.irqFlags &&&
          irqPayloadCrcErrorMask = 0)) :
    radio.parsePacket 0 =
      (0,
        { radio with
          implicitHeaderMode := false
          chip :=
            { radio.chip with
              modemConfig1 :=
                radio.chip.modemConfig1 &&& 0xfe
              irqFlags := 0
              fifoAddrPtr :=
                if radio.chip.inMode modeRxSingle then
                  radio.chip.fifoAddrPtr
                else
                  0
              opMode :=
                modeLongRangeMode ||| modeRxSingle } }) := by
  have hClear :=
    clear_flags radio.explicitHeaderModeOn
  rw [explicitHeaderModeOn_eq] at hClear
  unfold parsePacket
  rw [readRegister_eq _ (by simp)]
  dsimp only [Transceiver.register]
  rw [if_neg (Int.lt_irrefl 0), if_neg hNone,
    explicitHeaderModeOn_eq, hClear,
    readRegister_eq _ (by simp)]
  by_cases hMode : radio.chip.inMode modeRxSingle
  · have hSingle :
        radio.chip.opMode =
          modeLongRangeMode ||| modeRxSingle := hMode
    simp only [Transceiver.register, hSingle, ne_eq,
      not_true_eq_false, if_false, hMode, if_true]
  · have hOther :
        ¬ radio.chip.opMode =
          modeLongRangeMode ||| modeRxSingle := hMode
    simp only [Transceiver.register, hOther, ne_eq,
      not_false_eq_true, if_true, hMode, if_false]
    rfl

/- A poll opens the frame that the chip holds. -/
theorem parsePacket_reads
    (hHolds : radio.chip.Holds frame) :
    (radio.parsePacket 0).1 = frame.bytes.length ∧
      (radio.parsePacket 0).2.Reads
        (LoRa.opened frame) := by
  rw [parsePacket_of_announced hHolds.done hHolds.intact]
  exact
    ⟨hHolds.count, rfl, Nat.zero_le _, hHolds.count,
      hHolds.stored⟩

/- The handler opens a packet and calls back. -/
theorem handleDio0Rise_of_intact
    {Globals : Type}
    (callback : Nat → LoRaClass × Globals →
      LoRaClass × Globals)
    (globals : Globals)
    (hHeader : radio.implicitHeaderMode = false)
    (hIntact :
      radio.chip.irqFlags &&& irqPayloadCrcErrorMask = 0) :
    radio.handleDio0Rise callback globals =
      (let called :=
        callback radio.chip.rxNbBytes.toNat
          ({ radio with
            packetIndex := 0
            chip :=
              { radio.chip with
                irqFlags := 0
                fifoAddrPtr :=
                  radio.chip.fifoRxCurrentAddr } },
            globals)
      (called.1.writeRegister .fifoAddrPtr 0, called.2)) := by
  unfold handleDio0Rise
  rw [readRegister_eq _ (by simp)]
  dsimp only [Transceiver.register]
  rw [clear_flags, if_pos hIntact]
  simp only [hHeader, Bool.false_eq_true, if_false]
  rfl

/- It drops a damaged one. -/
theorem handleDio0Rise_of_damaged
    {Globals : Type}
    (callback : Nat → LoRaClass × Globals →
      LoRaClass × Globals)
    (globals : Globals)
    (hDamaged :
      radio.chip.irqFlags &&& irqPayloadCrcErrorMask ≠ 0) :
    radio.handleDio0Rise callback globals =
      ({ radio with
        chip := { radio.chip with irqFlags := 0 } },
        globals) := by
  unfold handleDio0Rise
  rw [readRegister_eq _ (by simp)]
  dsimp only [Transceiver.register]
  rw [clear_flags, if_neg hDamaged]

------------------------------------------------------------
-- Readers
------------------------------------------------------------

/- A call that reads from a received packet. -/
inductive Query where
| available
| read
| peek
deriving DecidableEq, Repr

inductive Answer where
| count (left : Int)
| byte (found : Option Byte)
deriving DecidableEq, Repr

/- The driver, answering the calls of a sketch. -/
def reader (radio : LoRaClass) :
    Machine LoRaClass Query Answer :=
  { init := radio
    step := fun radio query =>
      match query with
      | .available => radio
      | .read => radio.read.2
      | .peek => radio.peek.2
    emit := fun radio query =>
      match query with
      | .available => [.count radio.available]
      | .read => [.byte radio.read.1]
      | .peek => [.byte radio.peek.1] }

/- A reader of a list of bytes, answering the same calls. -/
def listReader (reader : LoRa) :
    Machine LoRa Query Answer :=
  { init := reader
    step := fun reader query =>
      match query with
      | .available => reader
      | .read => reader.read.2
      | .peek => reader
    emit := fun reader query =>
      match query with
      | .available => [.count reader.available]
      | .read => [.byte reader.read.1]
      | .peek =>
          [.byte
            (if reader.available = 0 then
              none
            else
              reader.fifo[reader.packetIndex]?)] }

/- The driver answers as the list would. -/
theorem reader_simulates
    (radio : LoRaClass)
    (list : LoRa) :
    (reader radio).Simulates (listReader list) Reads := by
  constructor
  · intro radio list query hReads
    cases query with
    | available => exact hReads
    | read => exact hReads.read.2
    | peek =>
        simp only [reader, listReader, hReads.peek]
        exact hReads
  · intro radio list query hReads
    cases query with
    | available =>
        simp only [reader, listReader, hReads.available]
    | read =>
        simp only [reader, listReader, hReads.read.1]
    | peek => simp only [reader, listReader, hReads.peek]

/-
  A frame that arrives undamaged, wherever in the buffer: the
  next poll returns its length, and whatever calls follow
  read its bytes.
-/
theorem received_answers
    (radio : LoRaClass)
    (frame : Frame)
    (start : Byte)
    (hReceiving : radio.chip.Receiving)
    (hIntact :
      radio.chip.irqFlags &&& irqPayloadCrcErrorMask = 0)
    (queries : List Query) :
    let arrived : LoRaClass :=
      { radio with
        chip := radio.chip.arrive frame start false }
    let polled := arrived.parsePacket 0
    polled.1 = frame.bytes.length ∧
      (reader polled.2).trace queries =
        (listReader (LoRa.opened frame)).trace queries := by
  intro arrived polled
  have hHolds : arrived.chip.Holds frame :=
    Transceiver.holds_arrive frame start hReceiving hIntact
  rcases parsePacket_reads hHolds with
    ⟨hLength, hReads⟩
  exact
    ⟨hLength,
      (reader_simulates polled.2
        (LoRa.opened frame)).trace hReads queries⟩

/- A frame of two bytes, stored across the buffer's end. -/
theorem wrapped_answers :
    let radio := (begin { chip := Transceiver.reset }).receive 0
    let frame : Frame := ⟨[7, 9], by decide, by decide⟩
    let arrived : LoRaClass :=
      { radio with
        chip := radio.chip.arrive frame 255 false }
    let polled := arrived.parsePacket 0
    polled.1 = 2 ∧
      (reader polled.2).trace [.peek, .read, .read, .read] =
        [.byte (some 7), .byte (some 7), .byte (some 9),
          .byte none] := by
  intro radio frame arrived polled
  exact
    received_answers radio frame 255 (by decide) (by decide)
      [.peek, .read, .read, .read]

end LoRaClass

end LoRaTelemetry
