import LoRaTelemetry.Radio.MasterTuned

/-
  The master with its radio does what its `loop` does, pass
  after pass: what it puts on the air is what the passes
  send, and the records it posts are those of the passes on
  the packets that its polls find. A pass has sent its packet
  when the chip comes to the end of it.

  Main declarations:
    * `Master.DeviceRuns`
    * `Master.device_runs`
    * `Master.device_passes`
-/

------------------------------------------------------------
-- Runs of the Device
------------------------------------------------------------

namespace LoRaTelemetry

namespace Master

variable {config : Config} {steps : List Step}
variable {device : Device}

/- The packet that an effect puts on the air. -/
def Effect.packet? : Effect → Option StructMessage
| .sent packet => some packet
| _ => none

/- The packets sent in a run. -/
def transmitted
    (config : Config)
    (steps : List Step) : List StructMessage :=
  ((stepMachine config).trace steps).filterMap
    Effect.packet?

/- The packet that a step puts on the air. -/
def Step.packets (state : State) :
    Step → List StructMessage
| .send => [state.telemtryPacketTX]
| _ => []

/- The record that a step posts. -/
def Step.records (state : State) : Step → List Record
| .poll packet => (onreceive state packet).2.toList
| _ => []

theorem transmitted_concat
    (steps : List Step)
    (step : Step) :
    transmitted config (steps ++ [step]) =
      transmitted config steps ++
        step.packets ((stepMachine config).run steps) := by
  rw [transmitted, Machine.trace_concat,
    List.filterMap_append, ← transmitted]
  congr 1
  rw [stepMachine_emit]
  cases step with
  | fetch got now =>
      simp only [effects]
      cases (getDataFromServer config
        ((stepMachine config).run steps) got now).2 <;>
        rfl
  | send => rfl
  | mark now => rfl
  | poll packet =>
      simp only [effects]
      cases (onreceive ((stepMachine config).run steps)
        packet).2 <;>
        rfl

/-
  The call that the sketch has come to: while `endPacket`
  waits, the packet has been sent or not.
-/
def Device.reached (device : Device) : Call :=
  if device.call = .wait ∧
      device.radio.chip.irqFlags &&& irqTxDoneMask = 0 then
    .endPacket
  else
    device.call

theorem Device.reached_of_call
    (device : Device)
    (hCall : device.call ≠ .wait) :
    device.reached = device.call := by
  exact if_neg fun hWaits => hCall hWaits.1

theorem Device.reached_of_untold
    (device : Device)
    (hCall : device.call = .wait)
    (hUntold :
      device.radio.chip.irqFlags &&& irqTxDoneMask = 0) :
    device.reached = .endPacket := by
  exact if_pos ⟨hCall, hUntold⟩

theorem Device.reached_of_told
    (device : Device)
    (hTold :
      device.radio.chip.irqFlags &&& irqTxDoneMask ≠ 0) :
    device.reached = device.call := by
  exact if_neg fun hWaits => hTold hWaits.2

/-
  A device after some steps of the sketch alone, with what
  it has done so far.
-/
structure DeviceRuns
    (config : Config)
    (chip : Transceiver)
    (outputs : List DeviceOutput)
    (device : Device)
    (steps : List Step) : Prop where
  program : Program config device.reached steps
  state : (stepMachine config).run steps = device.sketch
  radio : Tuned device
  onAir :
    device.radio.chip.onAir =
      chip.onAir ++
        (transmitted config steps).map StructMessage.bytes
  posted :
    outputs.filterMap DeviceOutput.record? =
      posted config steps
  polled :
    outputs.filterMap DeviceOutput.polled? =
      (received steps).map reading

variable {chip : Transceiver}
variable {outputs : List DeviceOutput}

/- A call that is a step of the sketch. -/
theorem DeviceRuns.advance
    (hRuns : DeviceRuns config chip outputs device steps)
    {next : Device}
    {step : Step}
    {more : List DeviceOutput}
    (hProgram :
      Program config next.reached (steps ++ [step]))
    (hState : next.sketch = perform config device.sketch step)
    (hRadio : Tuned next)
    (hOnAir :
      next.radio.chip.onAir =
        device.radio.chip.onAir ++
          (step.packets device.sketch).map
            StructMessage.bytes)
    (hPosted :
      more.filterMap DeviceOutput.record? =
        step.records device.sketch)
    (hPolled :
      more.filterMap DeviceOutput.polled? =
        step.frame.toList.map reading) :
    DeviceRuns config chip (outputs ++ more) next
      (steps ++ [step]) := by
  constructor
  case program => exact hProgram
  case state =>
    rw [Machine.run_concat, stepMachine_step, hRuns.state,
      hState]
  case radio => exact hRadio
  case onAir =>
    rw [hOnAir, hRuns.onAir, transmitted_concat,
      hRuns.state, List.map_append, List.append_assoc]
  case posted =>
    rw [List.filterMap_append, hRuns.posted, hPosted,
      posted_concat, effects_records, hRuns.state]
    cases step <;> rfl
  case polled =>
    rw [List.filterMap_append, hRuns.polled, hPolled,
      received_concat, List.map_append]

/- What the sketch does not see. -/
theorem DeviceRuns.stay
    (hRuns : DeviceRuns config chip outputs device steps)
    {next : Device}
    {more : List DeviceOutput}
    (hProgram : Program config next.reached steps)
    (hState : next.sketch = device.sketch)
    (hRadio : Tuned next)
    (hOnAir :
      next.radio.chip.onAir = device.radio.chip.onAir)
    (hPosted :
      more.filterMap DeviceOutput.record? = [])
    (hPolled :
      more.filterMap DeviceOutput.polled? = []) :
    DeviceRuns config chip (outputs ++ more) next
      steps := by
  constructor
  case program => exact hProgram
  case state => rw [hRuns.state, hState]
  case radio => exact hRadio
  case onAir => rw [hOnAir, hRuns.onAir]
  case posted =>
    rw [List.filterMap_append, hPosted, List.append_nil,
      hRuns.posted]
  case polled =>
    rw [List.filterMap_append, hPolled, List.append_nil,
      hRuns.polled]

/- A round of the listening loop. -/
theorem DeviceRuns.onreceive
    (hRuns : DeviceRuns config chip outputs device steps)
    (hCall : device.call = .onreceive)
    (got : GetOutcome)
    (now : ULong) :
    ∃ steps',
      DeviceRuns config chip
        (outputs ++ device.outputs (.exec got now))
        (device.exec config got now) steps' := by
  have hProgram := hRuns.program
  rw [device.reached_of_call (by simp [hCall]), hCall]
    at hProgram
  have hRest := hRuns.radio.rest (by simp [hCall])
  have hRound :=
    hProgram.poll now device.radio.chip.found?
  rw [hRuns.state] at hRound
  by_cases hOpen : listening device.sketch now = true
  · rw [if_pos hOpen] at hRound
    have hPoll :=
      onreceiveCall_eq device.radio device.sketch
    have hSketch :
        (onreceiveCall device.radio device.sketch).2.1 =
          (Master.onreceive device.sketch
            device.radio.chip.found?).1 :=
      congrArg Prod.fst hPoll
    have hReading :
        (onreceiveCall device.radio device.sketch).2.2.1 =
          device.radio.chip.found?.map reading :=
      congrArg (fun called => called.2.1) hPoll
    have hRecord :
        (onreceiveCall device.radio device.sketch).2.2.2 =
          (Master.onreceive device.sketch
            device.radio.chip.found?).2 :=
      congrArg (fun called => called.2.2) hPoll
    refine ⟨steps ++ [.poll device.radio.chip.found?], ?_⟩
    simp only [Device.outputs, Device.exec, hCall, hOpen,
      if_true]
    refine
      hRuns.advance ?_ hSketch (.of_onAir ?_ rfl) ?_ ?_ ?_
    · rw [Device.reached_of_call _ (by simp)]
      exact hRound
    · exact atRest_onreceiveCall hRest device.sketch
    · exact
        (onAir_onreceiveCall _ _).trans
          (List.append_nil _).symm
    · rw [hReading, hRecord, Step.records]
      cases device.radio.chip.found? <;>
        cases (Master.onreceive device.sketch _).2 <;> rfl
    · rw [hReading, hRecord, Step.frame]
      cases device.radio.chip.found? <;>
        cases (Master.onreceive device.sketch _).2 <;> rfl
  · rw [if_neg hOpen] at hRound
    refine ⟨steps, ?_⟩
    simp only [Device.outputs, Device.exec, hCall, hOpen,
      Bool.false_eq_true, if_false]
    refine
      hRuns.stay ?_ rfl (.of_onAir hRest rfl) rfl rfl rfl
    rw [Device.reached_of_call _ (by simp)]
    exact hRound

/- A round of the wait of `endPacket`. -/
theorem DeviceRuns.wait
    (hRuns : DeviceRuns config chip outputs device steps)
    (hCall : device.call = .wait)
    (got : GetOutcome)
    (now : ULong) :
    DeviceRuns config chip
      (outputs ++ device.outputs (.exec got now))
      (device.exec config got now) steps := by
  have hProgram := hRuns.program
  have hSilent : device.outputs (.exec got now) = [] := by
    simp only [Device.outputs, hCall]
  rw [hSilent]
  by_cases hGoing :
      device.radio.chip.irqFlags &&& irqTxDoneMask = 0
  · have hSame : device.exec config got now = device := by
      simp only [Device.exec, hCall,
        LoRaClass.pollSent_eq, hGoing, if_true,
        Bool.false_eq_true, if_false]
      rw [← hCall]
    rw [hSame, List.append_nil]
    exact hRuns
  · rw [device.reached_of_told hGoing, hCall] at hProgram
    have hNext :
        device.exec config got now =
          { device with
            radio :=
              device.radio.writeRegister .irqFlags
                irqTxDoneMask
            call := .receive } := by
      simp only [Device.exec, hCall,
        LoRaClass.pollSent_eq, hGoing, if_false, if_true]
    rw [hNext]
    refine
      hRuns.stay ?_ rfl (hRuns.radio.told hCall hGoing)
        rfl rfl rfl
    rw [Device.reached_of_call _ (by simp)]
    exact hProgram.call (by simp)

theorem DeviceRuns.exec
    (hRuns : DeviceRuns config chip outputs device steps)
    (got : GetOutcome)
    (now : ULong) :
    ∃ steps',
      DeviceRuns config chip
        (outputs ++ device.outputs (.exec got now))
        (device.exec config got now) steps' := by
  have hRadio := hRuns.radio
  by_cases hPoll : device.call = .onreceive
  · exact hRuns.onreceive hPoll got now
  by_cases hWait : device.call = .wait
  · exact ⟨steps, hRuns.wait hWait got now⟩
  have hProgram := hRuns.program
  have hRest := hRadio.rest hWait
  rw [device.reached_of_call hWait] at hProgram
  cases hCall : device.call <;> rw [hCall] at hProgram
  case getDataFromServer =>
    refine ⟨steps ++ [.fetch got now], ?_⟩
    simp only [Device.outputs, Device.exec, hCall]
    refine
      hRuns.advance ?_ rfl (.of_onAir hRest rfl)
        (List.append_nil _).symm rfl rfl
    rw [Device.reached_of_call _ (by simp)]
    exact hProgram.fetch got now
  case beginPacket =>
    refine ⟨steps, ?_⟩
    simp only [Device.outputs, Device.exec, hCall]
    refine
      hRuns.stay ?_ rfl (hRadio.beginPacket hCall) rfl rfl
        rfl
    rw [Device.reached_of_call _ (by simp)]
    exact hProgram.call (by simp)
  case write =>
    refine ⟨steps, ?_⟩
    simp only [Device.outputs, Device.exec, hCall]
    refine
      hRuns.stay ?_ rfl (hRadio.write hCall)
        (LoRaClass.onAir_write _ _) rfl rfl
    rw [Device.reached_of_call _ (by simp)]
    exact hProgram.call (by simp)
  case endPacket =>
    refine ⟨steps, ?_⟩
    simp only [Device.outputs, Device.exec, hCall]
    have hNext :
        Device.reached
            { device with
              radio := device.radio.startSending
              call := .wait } = .endPacket :=
      Device.reached_of_untold _ rfl hRest.untold
    refine
      hRuns.stay ?_ rfl (hRadio.endPacket hCall) rfl rfl
        rfl
    rw [hNext]
    exact hProgram
  case receive =>
    refine ⟨steps, ?_⟩
    simp only [Device.outputs, Device.exec, hCall]
    refine
      hRuns.stay ?_ rfl
        (.of_onAir (hRest.step (.receive 0)) rfl) rfl rfl
        rfl
    rw [Device.reached_of_call _ (by simp)]
    exact hProgram.call (by simp)
  case lastSendTime =>
    refine ⟨steps ++ [.mark now], ?_⟩
    simp only [Device.outputs, Device.exec, hCall]
    refine
      hRuns.advance ?_ rfl (.of_onAir hRest rfl)
        (List.append_nil _).symm rfl rfl
    rw [Device.reached_of_call _ (by simp)]
    exact hProgram.mark now
  case wait => exact absurd hCall hWait
  case onreceive => exact absurd hCall hPoll

/- What the chip hears or gives up goes unseen. -/
theorem DeviceRuns.unseen
    (hRuns : DeviceRuns config chip outputs device steps)
    {after : Transceiver}
    {more : List DeviceOutput}
    (hRadio :
      Tuned
        { device with
          radio := { device.radio with chip := after } })
    (hOnAir : after.onAir = device.radio.chip.onAir)
    (hTold :
      after.irqFlags &&& irqTxDoneMask =
        device.radio.chip.irqFlags &&& irqTxDoneMask)
    (hPosted :
      more.filterMap DeviceOutput.record? = [])
    (hPolled :
      more.filterMap DeviceOutput.polled? = []) :
    DeviceRuns config chip (outputs ++ more)
      { device with
        radio := { device.radio with chip := after } }
      steps := by
  refine hRuns.stay ?_ rfl hRadio hOnAir hPosted hPolled
  have hProgram := hRuns.program
  simp only [Device.reached, hTold] at hProgram ⊢
  exact hProgram

/- At the end of a transmission its packet is on the air. -/
theorem DeviceRuns.transmitted
    (hRuns : DeviceRuns config chip outputs device steps) :
    ∃ steps',
      DeviceRuns config chip outputs
        (device.step config .transmitted) steps' := by
  have hRadio := hRuns.radio.transmitted config
  by_cases hMode : device.radio.chip.inMode modeTx
  · have hCall := hRuns.radio.waits hMode
    have hUntold := hRuns.radio.sending hMode
    have hPayload :=
      (hRuns.radio.written (.inr hCall)).payload
    have hProgram := hRuns.program
    rw [device.reached_of_untold hCall hUntold] at hProgram
    have hChip :
        (device.step config .transmitted).radio.chip = _ :=
      LoRaClass.transmitted_of_sending hMode
    have hTold :
        (device.step config .transmitted).reached =
          .wait := by
      rw [Device.reached_of_told]
      · exact hCall
      · rw [hChip]
        exact and_ne_zero_of_raised (by decide)
    refine ⟨steps ++ [.send], ?_⟩
    rw [← List.append_nil outputs]
    refine hRuns.advance ?_ rfl hRadio ?_ rfl rfl
    · rw [hTold]
      exact hProgram.send
    · rw [hChip, hPayload]
      rfl
  · have hSame :
        device.radio.chip.transmitted =
          device.radio.chip := if_neg hMode
    refine ⟨steps, ?_⟩
    simp only [Device.step, hSame]
    exact hRuns

theorem DeviceRuns.step
    (hRuns : DeviceRuns config chip outputs device steps)
    (event : DeviceEvent) :
    ∃ steps',
      DeviceRuns config chip
        (outputs ++ device.outputs event)
        (device.step config event) steps' := by
  have hRadio := hRuns.radio
  cases event with
  | exec got now => exact hRuns.exec got now
  | arrive frame start crcError =>
      refine ⟨steps, ?_⟩
      refine
        hRuns.unseen
          (hRadio.arrive config frame start crcError)
          ?_ ?_ ?_ ?_
      · unfold Transceiver.arrive
        split <;> rfl
      · unfold Transceiver.arrive
        split
        · simp only
          rw [BitVec.or_assoc,
            and_raised_of_other
              (by cases crcError <;> decide)]
        · rfl
      · simp only [Device.outputs]
        split <;> rfl
      · simp only [Device.outputs]
        split <;> rfl
  | giveUp =>
      refine
        ⟨steps,
          hRuns.unseen (hRadio.giveUp config) ?_ ?_
            rfl rfl⟩
      · unfold Transceiver.giveUp
        split <;> rfl
      · unfold Transceiver.giveUp
        split
        · exact and_raised_of_other (by decide)
        · rfl
  | transmitted =>
      rw [show device.outputs .transmitted = [] from rfl,
        List.append_nil]
      exact hRuns.transmitted

theorem device_runs
    (config : Config)
    (chip : Transceiver)
    (hReset : chip.irqFlags = 0)
    (events : List DeviceEvent) :
    ∃ steps,
      DeviceRuns config chip
        ((Master.device config chip).trace events)
        ((Master.device config chip).run events) steps := by
  induction events using List.reverseRecOn with
  | nil =>
      have hRest :
          (LoRaClass.begin { chip := chip }).AtRest :=
        LoRaClass.usage_atRest chip hReset []
      refine
        ⟨[], .init config, rfl, .of_onAir hRest rfl, ?_, rfl,
          rfl⟩
      exact (List.append_nil _).symm
  | append_singleton events event ih =>
      rcases ih with ⟨steps, hRuns⟩
      rw [Machine.run_concat, Machine.trace_concat]
      exact hRuns.step event

/-
  Whatever the chip hears, gives up and sends, and however
  the calls follow one another: the device is somewhere in a
  pass after some passes of `loop`, its packets are those
  that they have sent, and its records those posted on the
  packets that its polls have found.
-/
theorem device_passes
    (config : Config)
    (chip : Transceiver)
    (hReset : chip.irqFlags = 0)
    (events : List DeviceEvent) :
    let device := (Master.device config chip).run events
    let outputs := (Master.device config chip).trace events
    ∃ steps,
      Program config device.reached steps ∧
        (stepMachine config).run steps = device.sketch ∧
        device.radio.chip.onAir =
          chip.onAir ++
            (transmitted config steps).map
              StructMessage.bytes ∧
        outputs.filterMap DeviceOutput.record? =
          posted config steps ∧
        outputs.filterMap DeviceOutput.polled? =
          (received steps).map reading := by
  rcases device_runs config chip hReset events with
    ⟨steps, hRuns⟩
  exact
    ⟨steps, hRuns.program, hRuns.state, hRuns.onAir,
      hRuns.posted, hRuns.polled⟩

/-
  A reply that arrives after the window: the next packet goes
  over it, and the next poll finds that packet.
-/
def lateReply (reply : Frame) : List DeviceEvent :=
  let failed : GetOutcome := ⟨-1, none⟩
  let send : List DeviceEvent :=
    List.replicate 4 (.exec failed 0) ++ [.transmitted] ++
      List.replicate 2 (.exec failed 0)
  send ++
    [.exec failed 0, .exec failed 1, .arrive reply 0 false,
      .exec failed 1200] ++
    send ++ [.exec failed 1201, .exec failed 1202]

/- Two passes: two requests on the air, nothing posted. -/
theorem lateReply_passes :
    let reply : Slave.StructMessage :=
      { nodeID := 8
        RXnodeID := node }
    let device :=
      (Master.device deployed Transceiver.reset).run
        (lateReply reply.frame)
    device.radio.chip.onAir.length = 2 ∧
      ∃ steps,
        Program deployed .onreceive steps ∧
          (stepMachine deployed).run steps =
            device.sketch ∧
          device.radio.chip.onAir =
            (transmitted deployed steps).map
              StructMessage.bytes ∧
          posted deployed steps = [] ∧
          (received steps).length = 1 := by
  intro reply
  rcases device_passes deployed Transceiver.reset rfl
      (lateReply reply.frame) with
    ⟨steps, hProgram, hState, hOnAir, hPosted, hPolled⟩
  have hReached :
      ((Master.device deployed Transceiver.reset).run
        (lateReply reply.frame)).reached = .onreceive := by
    decide +kernel
  have hNone :
      ((Master.device deployed Transceiver.reset).trace
        (lateReply reply.frame)).filterMap
          DeviceOutput.record? = [] := by
    decide +kernel
  have hOne :
      (((Master.device deployed Transceiver.reset).trace
        (lateReply reply.frame)).filterMap
          DeviceOutput.polled?).length = 1 := by
    decide +kernel
  rw [hReached] at hProgram
  rw [hPosted] at hNone
  rw [hPolled, List.length_map] at hOne
  exact
    ⟨by decide +kernel, steps, hProgram, hState, hOnAir,
      hNone, hOne⟩

end Master

end LoRaTelemetry
