import LoRaTelemetry.Radio.SlaveTuned

/-
  A slave with its radio does what the sketch does: its
  packets are the telemetry of the sketch, on the frames that
  its chip has received. The sketch has sent a packet when
  the chip comes to the end of it.

  Main declarations:
    * `Slave.DeviceRuns`
    * `Slave.device_runs`
    * `Slave.device_refines`
-/

------------------------------------------------------------
-- Runs of the Device
------------------------------------------------------------

namespace LoRaTelemetry

namespace Slave

/-
  The statement that comes next: while `endPacket` waits, the
  packet has been sent or not.
-/
def Device.pc (device : Device) : Pc :=
  if device.waiting ∧
      device.radio.chip.irqFlags &&& irqTxDoneMask ≠ 0 then
    .receive
  else
    device.sketch.pc

theorem Device.pc_of_not_waiting
    (device : Device)
    (hWaiting : device.waiting = false) :
    device.pc = device.sketch.pc := by
  simp [Device.pc, hWaiting]

theorem Device.pc_of_untold
    (device : Device)
    (hUntold :
      device.radio.chip.irqFlags &&& irqTxDoneMask = 0) :
    device.pc = device.sketch.pc := by
  simp [Device.pc, hUntold]

theorem Device.pc_of_told
    (device : Device)
    (hWaiting : device.waiting)
    (hTold :
      device.radio.chip.irqFlags &&& irqTxDoneMask ≠ 0) :
    device.pc = .receive := by
  exact if_pos ⟨hWaiting, hTold⟩

/-
  A device after some events of the sketch alone: they lead
  to its globals, its packets are on the air, and the frames
  that its chip heard are those that it received.
-/
structure DeviceRuns
    (board : Board)
    (chip : Transceiver)
    (heard : List (ULong × Frame))
    (device : Device)
    (steps : List Event) : Prop where
  state :
    (machine board).run steps =
      { device.sketch with
        fifo := ((machine board).run steps).fifo
        pc := device.pc }
  radio : Tuned device ((machine board).run steps).fifo
  onAir :
    device.radio.chip.onAir =
      chip.onAir ++
        (telemetry board steps).map StructMessage.bytes
  received : Slave.received steps = heard

variable {board : Board} {chip : Transceiver}
variable {device : Device}

------------------------------------------------------------
-- The Sketch Follows
------------------------------------------------------------

/- What lies in the radio matters to no other statement. -/
theorem exec_fifo
    {state : State}
    (hPc : state.pc ≠ .write)
    (fifo : StructMessage)
    (now : ULong)
    (draw : Fin 4) :
    exec board { state with fifo := fifo } now draw =
      { exec board state now draw with fifo := fifo } := by
  cases hCase : state.pc
  case write => exact absurd hCase hPc
  case test =>
    cases hFlag : state.receiveflag <;>
      simp [exec, hCase, hFlag]
  all_goals simp only [exec, hCase, syncMillis]

variable {heard : List (ULong × Frame)}
variable {steps : List Event}

/- A statement of the sketch. -/
theorem DeviceRuns.advance
    (hRuns : DeviceRuns board chip heard device steps)
    (hPc : device.pc = device.sketch.pc)
    (now : ULong)
    (draw : Fin 4)
    (fifo : StructMessage)
    {next : Device}
    (hState :
      exec board
          { device.sketch with
            fifo := ((machine board).run steps).fifo }
          now draw =
        { next.sketch with
          fifo := fifo
          pc := next.pc })
    (hRadio : Tuned next fifo)
    (hOnAir :
      next.radio.chip.onAir =
        device.radio.chip.onAir ++
          if device.sketch.pc = .endPacket then
            [((machine board).run steps).fifo.bytes]
          else
            []) :
    DeviceRuns board chip heard next
      (steps ++ [.exec now draw]) := by
  have hBefore := hRuns.state
  rw [hPc] at hBefore
  have hRun :
      (machine board).run (steps ++ [.exec now draw]) =
        { next.sketch with
          fifo := fifo
          pc := next.pc } := by
    rw [Machine.run_concat, machine_step, step, ← hState]
    exact congrArg (exec board · now draw) hBefore
  have hSame :
      ((machine board).run steps).pc =
        device.sketch.pc := by
    rw [hBefore]
  constructor
  case state => rw [hRun]
  case radio =>
    rw [hRun]
    exact hRadio
  case onAir =>
    rw [hOnAir, hRuns.onAir, telemetry_concat,
      emit_packets, hSame, List.map_append,
      List.append_assoc]
    split <;> rfl
  case received =>
    rw [received_concat_exec]
    exact hRuns.received

/- The statements that leave the driver alone. -/
theorem Device.exec_of_computing
    (board : Board)
    (hOn : device.sketch.pc.offAir = false)
    (hBegin : device.sketch.pc ≠ .beginPacket)
    (now : ULong)
    (draw : Fin 4) :
    device.exec board now draw =
        { device with
          sketch :=
            Slave.exec board device.sketch now draw } ∧
      (Slave.exec board device.sketch now draw).pc.offAir =
        false := by
  rw [(exec_executed board device.sketch now draw).pc]
  unfold Device.exec
  cases hPc : device.sketch.pc
  case beginPacket => exact absurd hPc hBegin
  case test =>
    refine ⟨rfl, ?_⟩
    cases device.sketch.receiveflag <;> rfl
  all_goals first
    | exact ⟨rfl, rfl⟩
    | simp [hPc, Pc.offAir] at hOn

theorem DeviceRuns.computes
    (hRuns : DeviceRuns board chip heard device steps)
    (hOn : device.sketch.pc.offAir = false)
    (hBegin : device.sketch.pc ≠ .beginPacket)
    (now : ULong)
    (draw : Fin 4) :
    DeviceRuns board chip heard
      (device.exec board now draw)
      (steps ++ [.exec now draw]) := by
  rcases Device.exec_of_computing board hOn hBegin now draw
    with ⟨hExec, hNext⟩
  have hEnd : device.sketch.pc ≠ .endPacket := by
    intro hPc
    simp [hPc, Pc.offAir] at hOn
  have hWrite : device.sketch.pc ≠ .write := by
    intro hPc
    simp [hPc, Pc.offAir] at hOn
  have hWaiting := hRuns.radio.not_waiting hEnd
  rw [hExec]
  refine
    hRuns.advance (device.pc_of_not_waiting hWaiting) now
      draw
      ((machine board).run steps).fifo ?_
      (hRuns.radio.of_sketch hOn hNext) ?_
  · rw [exec_fifo hWrite]
    simp [Device.pc, hWaiting]
  · rw [if_neg hEnd, List.append_nil]

theorem DeviceRuns.beginPacket
    (hRuns : DeviceRuns board chip heard device steps)
    (hPc : device.sketch.pc = .beginPacket)
    (now : ULong)
    (draw : Fin 4) :
    DeviceRuns board chip heard
      (device.exec board now draw)
      (steps ++ [.exec now draw]) := by
  have hWaiting :=
    hRuns.radio.not_waiting (by simp [hPc])
  have hRadio :=
    hRuns.radio.beginPacket board hPc now draw
  refine
    hRuns.advance (device.pc_of_not_waiting hWaiting) now
      draw
      ((machine board).run steps).fifo ?_
      hRadio ?_
  · simp [exec, Device.exec, hPc, Device.pc, hWaiting]
  · simp [Device.exec, hPc, LoRaClass.beginPacket_eq]

theorem DeviceRuns.write
    (hRuns : DeviceRuns board chip heard device steps)
    (hPc : device.sketch.pc = .write)
    (now : ULong)
    (draw : Fin 4) :
    DeviceRuns board chip heard
      (device.exec board now draw)
      (steps ++ [.exec now draw]) := by
  have hWaiting :=
    hRuns.radio.not_waiting (by simp [hPc])
  have hRadio :=
    hRuns.radio.write board hPc now draw
  refine
    hRuns.advance (device.pc_of_not_waiting hWaiting) now
      draw
      device.sketch.telemtryPacketTX ?_ hRadio ?_
  · simp [exec, Device.exec, hPc, Device.pc, hWaiting]
  · simp [Device.exec, hPc]

/- The sketch stands still while `endPacket` is called. -/
theorem DeviceRuns.startSending
    (hRuns : DeviceRuns board chip heard device steps)
    (hPc : device.sketch.pc = .endPacket)
    (hWaiting : device.waiting = false)
    (now : ULong)
    (draw : Fin 4) :
    DeviceRuns board chip heard
      (device.exec board now draw) steps := by
  have hExec :
      device.exec board now draw =
        { device with
          radio := device.radio.startSending
          waiting := true } := by
    simp [Device.exec, hPc, hWaiting]
  have hUntold := (hRuns.radio.rest hWaiting).untold
  have hState := hRuns.state
  rw [device.pc_of_not_waiting hWaiting] at hState
  have hStill :
      Device.pc
          { device with
            radio := device.radio.startSending
            waiting := true } =
        device.sketch.pc :=
    Device.pc_of_untold _ hUntold
  rw [hExec]
  constructor
  case state =>
    rw [hStill]
    exact hState
  case radio => exact hRuns.radio.startSending hPc hWaiting
  case onAir => exact hRuns.onAir
  case received => exact hRuns.received

theorem DeviceRuns.pollSent
    (hRuns : DeviceRuns board chip heard device steps)
    (hPc : device.sketch.pc = .endPacket)
    (hWaiting : device.waiting)
    (now : ULong)
    (draw : Fin 4) :
    DeviceRuns board chip heard
      (device.exec board now draw) steps := by
  have hRadio :=
    hRuns.radio.pollSent board hPc hWaiting now
      draw
  have hState := hRuns.state
  rw [Device.exec_of_waiting board hPc hWaiting]
    at hRadio ⊢
  by_cases hGoing :
      device.radio.chip.irqFlags &&& irqTxDoneMask = 0
  · rw [if_pos hGoing]
    exact hRuns
  · rw [if_neg hGoing] at hRadio ⊢
    constructor
    case state =>
      rw [device.pc_of_told hWaiting hGoing] at hState
      exact hState
    case radio => exact hRadio
    case onAir => exact hRuns.onAir
    case received => exact hRuns.received

theorem DeviceRuns.receive
    (hRuns : DeviceRuns board chip heard device steps)
    (hPc : device.sketch.pc = .receive)
    (now : ULong)
    (draw : Fin 4) :
    DeviceRuns board chip heard
      (device.exec board now draw)
      (steps ++ [.exec now draw]) := by
  have hWaiting :=
    hRuns.radio.not_waiting (by simp [hPc])
  have hRadio :=
    hRuns.radio.receive board hPc now draw
  refine
    hRuns.advance (device.pc_of_not_waiting hWaiting) now
      draw
      ((machine board).run steps).fifo ?_
      hRadio ?_
  · simp [exec, Device.exec, hPc, Device.pc, hWaiting]
  · simp [Device.exec, hPc, LoRaClass.receive_eq]

------------------------------------------------------------
-- Any Run of the Device
------------------------------------------------------------

/- Each step of the device is a step of the sketch or none. -/
theorem DeviceRuns.exec
    (hRuns : DeviceRuns board chip heard device steps)
    (now : ULong)
    (draw : Fin 4) :
    ∃ steps',
      DeviceRuns board chip heard
        (device.exec board now draw) steps' := by
  by_cases hOn : device.sketch.pc.offAir = false
  · by_cases hBegin : device.sketch.pc = .beginPacket
    · exact ⟨_, hRuns.beginPacket hBegin now draw⟩
    · exact ⟨_, hRuns.computes hOn hBegin now draw⟩
  · cases hPc : device.sketch.pc
    case write => exact ⟨_, hRuns.write hPc now draw⟩
    case receive => exact ⟨_, hRuns.receive hPc now draw⟩
    case endPacket =>
      cases hWaiting : device.waiting with
      | false =>
          exact
            ⟨_, hRuns.startSending hPc hWaiting now draw⟩
      | true =>
          exact ⟨_, hRuns.pollSent hPc hWaiting now draw⟩
    all_goals simp [hPc, Pc.offAir] at hOn

theorem onReceive_fifo
    (state : State)
    (fifo : StructMessage)
    (now : ULong)
    (frame : Frame) :
    (onReceive board { state with fifo := fifo } now
        frame).1 =
      { (onReceive board state now frame).1 with
        fifo := fifo } := by
  simp only [onReceive]
  split_ifs <;> simp only

/- The sketch is interrupted when the chip hears a frame. -/
theorem DeviceRuns.arrive
    (hRuns : DeviceRuns board chip heard device steps)
    (now : ULong)
    (frame : Frame)
    (start : Byte)
    (crcError : Bool) :
    let event := DeviceEvent.arrive now frame start crcError
    ∃ steps',
      DeviceRuns board chip
        (heard ++ (device.received? event).toList)
        (device.step board event) steps' := by
  intro event
  have hState := hRuns.state
  rcases hRuns.radio.arrive board now frame start
      crcError with
    ⟨hRadio, hWaiting, hOnAir, hSketch⟩
  by_cases hHeard :
      device.radio.chip.Receiving ∧ crcError = false
  · have hReceived :
        device.received? event = some (now, frame) :=
      if_pos hHeard
    have hIdle := hRuns.radio.idle hHeard.1
    have hSame :=
      onReceive_sameMain board device.sketch now frame
    rw [hReceived] at hSketch ⊢
    simp only at hSketch
    rw [device.pc_of_not_waiting hIdle] at hState
    have hRun :
        (machine board).run
            (steps ++ [.receive now frame]) =
          { (device.step board event).sketch with
            fifo := ((machine board).run steps).fifo } := by
      rw [Machine.run_concat, machine_step, step, hSketch,
        ← onReceive_fifo]
      exact
        congrArg
          (fun state => (onReceive board state now frame).1)
          hState
    refine ⟨steps ++ [.receive now frame], ?_⟩
    constructor
    case state =>
      rw [hRun,
        Device.pc_of_not_waiting _ (hWaiting.trans hIdle)]
    case radio =>
      rw [hRun]
      exact hRadio
    case onAir =>
      rw [telemetry_concat, emit_packets, List.append_nil]
      exact hOnAir.trans hRuns.onAir
    case received =>
      rw [received_concat_receive, hRuns.received]
      rfl
  · have hReceived :
        device.received? event = none := if_neg hHeard
    have hPc : (device.step board event).pc = device.pc := by
      by_cases hReceiving : device.radio.chip.Receiving
      · have hIdle := hRuns.radio.idle hReceiving
        rw [Device.pc_of_not_waiting _ hIdle,
          Device.pc_of_not_waiting _
            (hWaiting.trans hIdle), hSketch, hReceived]
      · exact
          congrArg Device.pc
            (Device.arrive_of_deaf board hRuns.radio
              hReceiving now frame start crcError)
    rw [hReceived] at hSketch ⊢
    simp only at hSketch
    refine ⟨steps, ?_⟩
    constructor
    case state =>
      rw [hSketch, hPc]
      exact hState
    case radio => exact hRadio
    case onAir => exact hOnAir.trans hRuns.onAir
    case received => simpa using hRuns.received

/- At the end of a transmission its packet is on the air. -/
theorem DeviceRuns.transmitted
    (hRuns : DeviceRuns board chip heard device steps) :
    ∃ steps',
      DeviceRuns board chip heard
        (device.step board .transmitted) steps' := by
  have hRadio := hRuns.radio.transmitted board
  by_cases hMode : device.radio.chip.inMode modeTx
  · have hWaiting := hRuns.radio.waiting_of_sending hMode
    have hUntold := hRuns.radio.sending hMode
    have hPc := hRuns.radio.waits hWaiting
    have hPayload := (hRuns.radio.written hPc).payload
    have hChip :
        (device.step board .transmitted).radio.chip = _ :=
      LoRaClass.transmitted_of_sending hMode
    have hTold :
        (device.step board .transmitted).pc = .receive := by
      refine
        Device.pc_of_told (device.step board .transmitted)
          hWaiting ?_
      rw [hChip]
      exact and_ne_zero_of_raised (by decide)
    refine
      ⟨_,
        hRuns.advance (device.pc_of_untold hUntold) 0 0
          ((machine board).run steps).fifo ?_ hRadio ?_⟩
    · rw [hTold]
      simp only [Slave.exec, hPc]
      rfl
    · rw [hChip, if_pos hPc, ← hPayload]
  · have hSame :
        device.radio.chip.transmitted =
          device.radio.chip := if_neg hMode
    refine ⟨steps, ?_⟩
    simp only [Device.step, hSame]
    exact hRuns

theorem device_runs
    (board : Board)
    (hReset : chip.irqFlags = 0)
    (events : List DeviceEvent) :
    ∃ steps,
      DeviceRuns board chip
        ((Slave.device board chip).trace events)
        ((Slave.device board chip).run events) steps := by
  induction events using List.reverseRecOn with
  | nil =>
      refine ⟨[], rfl, .of_setup hReset, ?_, rfl⟩
      exact (List.append_nil _).symm
  | append_singleton events event ih =>
      rcases ih with ⟨steps, hRuns⟩
      rw [Machine.run_concat, Machine.trace_concat]
      cases event with
      | arrive now frame start crcError =>
          exact hRuns.arrive now frame start crcError
      | exec now draw =>
          have hDeaf :
              (Slave.device board chip).emit
                ((Slave.device board chip).run events)
                (.exec now draw) = [] := rfl
          rw [hDeaf, List.append_nil]
          exact hRuns.exec now draw
      | transmitted =>
          have hDeaf :
              (Slave.device board chip).emit
                ((Slave.device board chip).run events)
                .transmitted = [] := rfl
          rw [hDeaf, List.append_nil]
          exact hRuns.transmitted

/-
  Whatever the chip hears and however the calls follow one
  another: the device receives except while it replies, and
  does what the sketch does on the frames that came whole.
-/
theorem device_refines
    (board : Board)
    (chip : Transceiver)
    (hReset : chip.irqFlags = 0)
    (events : List DeviceEvent) :
    let device := (Slave.device board chip).run events
    (device.radio.chip.Receiving ↔
        device.sketch.pc.offAir = false) ∧
      ∃ steps : List Event,
        received steps =
            (Slave.device board chip).trace events ∧
          device.radio.chip.onAir =
            chip.onAir ++
              (telemetry board steps).map
                StructMessage.bytes ∧
          (machine board).run steps =
            { device.sketch with
              fifo := ((machine board).run steps).fifo
              pc := device.pc } := by
  intro device
  rcases device_runs board hReset events with
    ⟨steps, hRuns⟩
  constructor
  · constructor
    · exact fun hReceiving =>
        (hRuns.radio.listening hReceiving).1
    · exact fun hOn =>
        ⟨.inl (hRuns.radio.listens hOn),
          hRuns.radio.explicit.2⟩
  · exact
      ⟨steps, hRuns.received, hRuns.onAir, hRuns.state⟩

/-
  An order comes damaged and then whole, both times across
  the end of the buffer. The slave replies, and hears nothing
  meanwhile.
-/
def wrappedOrder (order : Frame) : List DeviceEvent :=
  [.arrive 5 order 250 true, .arrive 6 order 250 false] ++
    List.replicate 21 (.exec 7 1) ++
    [.arrive 8 order 0 false, .transmitted] ++
    List.replicate 2 (.exec 9 1)

/- One order is heard and obeyed, one packet is sent. -/
theorem device_refines_wrapped :
    let order : Master.StructMessage :=
      { nodeID := 10
        RXnodeID := 8
        msgType := msgTypeCommand
        ledStatus := 1 }
    let device :=
      (Slave.device board8 Transceiver.reset).run
        (wrappedOrder order.frame)
    device.radio.chip.Receiving ∧
      device.sketch.telemtryPacketRX.bytes = order.bytes ∧
      device.sketch.led = false ∧
      device.radio.chip.onAir.length = 1 ∧
      ∃ steps : List Event,
        received steps = [(6, order.frame)] ∧
          device.radio.chip.onAir =
            (telemetry board8 steps).map
              StructMessage.bytes ∧
          (machine board8).run steps =
            { device.sketch with
              fifo := ((machine board8).run steps).fifo
              pc := .test } := by
  intro order device
  have hTrace :
      (Slave.device board8 Transceiver.reset).trace
        (wrappedOrder order.frame) = [(6, order.frame)] := by
    decide +kernel
  have hPc : device.pc = .test := by decide +kernel
  rcases device_refines board8 Transceiver.reset rfl
      (wrappedOrder order.frame) with
    ⟨hReceiving, steps, hReceived, hOnAir, hState⟩
  refine
    ⟨hReceiving.mpr (by decide +kernel), by decide +kernel,
      by decide +kernel, by decide +kernel, steps,
      hReceived.trans hTrace, hOnAir, ?_⟩
  rw [← hPc]
  exact hState

end Slave

end LoRaTelemetry
