import LoRaTelemetry.Library.Lists
import LoRaTelemetry.Radio.MasterMailbox

/-
  What the master posts has arrived: a reply may be lost when
  the next packet goes over it, but none is made up.

  Main declarations:
    * `Master.NeverSelf`
    * `Master.WholeAtBase`
    * `Master.device_posts`
-/

------------------------------------------------------------
-- What Is Posted
------------------------------------------------------------

namespace LoRaTelemetry

namespace Master

variable {config : Config} {device : Device}

/- The record of some bytes, read as `onreceive` reads them. -/
def recordOf (bytes : List Byte) : Option Record :=
  (StructMessage.ofBytes (bytes.take structSize)).posted?

/- The bytes after the struct do not matter to it. -/
theorem recordOf_take
    (bytes : List Byte) :
    recordOf (bytes.take structSize) = recordOf bytes := by
  rw [recordOf, recordOf, List.take_take, Nat.min_self]

/- No slave of the table, and no order, has the master's id. -/
structure NeverSelf
    (config : Config)
    (events : List DeviceEvent) : Prop where
  table : node ∉ config.slaveNode
  orders :
    ∀ got now,
      DeviceEvent.exec got now ∈ events →
        got.body.nodeID ≠ node

theorem NeverSelf.left
    {before after : List DeviceEvent}
    (hNever : NeverSelf config (before ++ after)) :
    NeverSelf config before := by
  exact
    ⟨hNever.table, fun got now hEvent =>
      hNever.orders got now (List.mem_append_left _ hEvent)⟩

/- The packet to be sent is then for someone else. -/
theorem getDataFromServer_RXnodeID
    (state : State)
    (got : GetOutcome)
    (now : ULong)
    (hTable : node ∉ config.slaveNode)
    (hOrder : got.body.nodeID ≠ node)
    (hState : state.telemtryPacketTX.RXnodeID ≠ node) :
    (getDataFromServer config state got
        now).1.telemtryPacketTX.RXnodeID ≠ node := by
  rcases getDataFromServer_cases config state got now with
    ⟨-, hCase⟩ | ⟨-, hCase⟩ | ⟨-, -, hCase⟩
  · rw [hCase]
    exact hState
  · rw [hCase]
    exact hOrder
  · rw [hCase]
    intro hPolled
    have hEntry : polled config state = node := hPolled
    rw [polled, List.getD_eq_getElem?_getD] at hEntry
    cases hPlace : config.slaveNode[state.i.toNat]? with
    | none =>
        rw [hPlace] at hEntry
        exact absurd hEntry (by decide)
    | some slave =>
        rw [hPlace, Option.getD_some] at hEntry
        subst hEntry
        exact hTable (List.mem_of_getElem? hPlace)

theorem exec_RXnodeID
    (got : GetOutcome)
    (now : ULong)
    (hTable : node ∉ config.slaveNode)
    (hOrder : got.body.nodeID ≠ node)
    (hDevice :
      device.sketch.telemtryPacketTX.RXnodeID ≠ node) :
    (device.exec config got
        now).sketch.telemtryPacketTX.RXnodeID ≠ node := by
  cases hCall : device.call <;>
    simp only [Device.exec, hCall]
  case getDataFromServer =>
    exact
      getDataFromServer_RXnodeID device.sketch got now
        hTable hOrder hDevice
  case onreceive =>
    split
    · rcases onreceive_state device.sketch
          device.radio.chip.found? with
        ⟨buffer, hBuffer⟩
      simp only [onreceiveCall_eq, hBuffer]
      exact hDevice
    · exact hDevice
  all_goals exact hDevice

theorem run_RXnodeID
    (chip : Transceiver)
    (events : List DeviceEvent)
    (hNever : NeverSelf config events) :
    ((Master.device config chip).run
        events).sketch.telemtryPacketTX.RXnodeID ≠
      node := by
  induction events using List.reverseRecOn with
  | nil =>
      show (0 : CInt) ≠ node
      decide
  | append_singleton events event ih =>
      have hBefore := ih hNever.left
      rw [Machine.run_concat]
      cases event with
      | arrive frame start crcError => exact hBefore
      | giveUp => exact hBefore
      | transmitted => exact hBefore
      | exec got now =>
          have hOrder :=
            hNever.orders got now (by simp)
          exact
            exec_RXnodeID got now hNever.table hOrder
              hBefore

/- What is written is the packet to be sent. -/
theorem overwrite_of_outputs
    {event : DeviceEvent}
    {packet : StructMessage}
    (hWritten :
      DeviceOutput.mailed (.overwrite packet) ∈
        device.outputs event) :
    packet = device.sketch.telemtryPacketTX := by
  cases event with
  | giveUp => cases hWritten
  | transmitted => cases hWritten
  | arrive frame start crcError =>
      simp only [Device.outputs] at hWritten
      split at hWritten <;> simp at hWritten
  | exec got now =>
      simp only [Device.outputs] at hWritten
      split at hWritten
      · simpa using hWritten
      · split at hWritten <;> simp at hWritten
      · cases hWritten

theorem arrive_of_outputs
    {event : DeviceEvent}
    {frame : Frame}
    {start : Byte}
    {crcError : Bool}
    (hArrived :
      DeviceOutput.mailed (.arrive frame start crcError) ∈
        device.outputs event) :
    event = .arrive frame start crcError := by
  cases event with
  | giveUp => cases hArrived
  | transmitted => cases hArrived
  | arrive frame start crcError =>
      simp only [Device.outputs] at hArrived
      split at hArrived
      · simp only [List.mem_singleton,
          DeviceOutput.mailed.injEq, Mail.arrive.injEq]
          at hArrived
        rcases hArrived with ⟨rfl, rfl, rfl⟩
        rfl
      · cases hArrived
  | exec got now =>
      simp only [Device.outputs] at hArrived
      split at hArrived
      · simp at hArrived
      · split at hArrived <;> simp at hArrived
      · cases hArrived

/- What is written over a letter is not for the master. -/
theorem over_RXnodeID
    (chip : Transceiver)
    (events : List DeviceEvent)
    (hNever : NeverSelf config events)
    {packet : StructMessage}
    (hOver :
      Mail.overwrite packet ∈
        ((Master.device config chip).trace
          events).filterMap DeviceOutput.mail?) :
    packet.RXnodeID ≠ node := by
  rw [List.mem_filterMap] at hOver
  rcases hOver with ⟨output, hOutput, hMail⟩
  rw [Machine.mem_trace_iff] at hOutput
  rcases hOutput with ⟨before, event, after, rfl, hEmit⟩
  have hAddressed := run_RXnodeID chip before hNever.left
  cases output with
  | polled reading => cases hMail
  | posted record => cases hMail
  | mailed mail =>
      rw [DeviceOutput.mail?, Option.some.injEq] at hMail
      subst hMail
      rw [overwrite_of_outputs hEmit]
      exact hAddressed

/- Frames are whole, and stored at the start of the buffer. -/
def WholeAtBase (events : List DeviceEvent) : Prop :=
  ∀ frame start crcError,
    DeviceEvent.arrive frame start crcError ∈ events →
      start = 0 ∧ structSize ≤ frame.bytes.length

theorem arrive_of_mail
    (chip : Transceiver)
    (events : List DeviceEvent)
    {frame : Frame}
    {start : Byte}
    {crcError : Bool}
    (hMail :
      Mail.arrive frame start crcError ∈
        ((Master.device config chip).trace
          events).filterMap DeviceOutput.mail?) :
    DeviceEvent.arrive frame start crcError ∈ events := by
  rw [List.mem_filterMap] at hMail
  rcases hMail with ⟨output, hOutput, hSome⟩
  rw [Machine.mem_trace_iff] at hOutput
  rcases hOutput with ⟨before, event, after, rfl, hEmit⟩
  cases output with
  | polled reading => cases hSome
  | posted record => cases hSome
  | mailed mail =>
      rw [DeviceOutput.mail?, Option.some.injEq] at hSome
      subst hSome
      have hArrived := arrive_of_outputs hEmit
      subst hArrived
      simp

/- A letter at the start is hidden by what covers it. -/
theorem recordOf_over
    (letter : Letter)
    (packet : StructMessage)
    (hBase : letter.start = 0)
    (hWhole : structSize ≤ letter.frame.bytes.length)
    (hOver : letter.packet? = some packet) :
    recordOf letter.bytes = packet.posted? := by
  have hLength := packet.length_bytes
  have hCovered :
      letter.bytes.take structSize = packet.bytes := by
    apply List.ext_getElem?
    intro place
    by_cases hPlace : place < structSize
    · have hSmall : structSize < 2 ^ 8 := by decide
      rw [List.getElem?_take_of_lt hPlace]
      simp only [Letter.bytes, hOver, hBase,
        List.getElem?_mapIdx]
      rw [List.getElem?_eq_getElem (by omega),
        List.getElem?_eq_getElem (by omega),
        Option.map_some, zero_add,
        BitVec.toNat_ofNat, Nat.mod_eq_of_lt (by omega),
        List.getD_eq_getElem _ _ (by omega)]
    · rw [List.getElem?_eq_none (by simp; omega),
        List.getElem?_eq_none (by omega)]
  have hRead := StructMessage.ofBytes_bytes packet []
  rw [List.append_nil] at hRead
  rw [recordOf, hCovered, hRead]

/- What a poll finds has the record of its frame, or none. -/
theorem recordOf_letter
    (chip : Transceiver)
    (events : List DeviceEvent)
    (hNever : NeverSelf config events)
    (hWhole : WholeAtBase events)
    {letter : Letter}
    (hLetter :
      letter ∈
        mailbox.trace
          (((Master.device config chip).trace
            events).filterMap DeviceOutput.mail?)) :
    recordOf letter.bytes = none ∨
      recordOf letter.bytes =
        (decoded letter.frame).posted? := by
  have hWaiting :=
    List.mem_append_left
      (mailbox.run
        (((Master.device config chip).trace
          events).filterMap
            DeviceOutput.mail?)).slot.toList
      hLetter
  cases hOver : letter.packet? with
  | none =>
      refine .inr ?_
      simp only [recordOf, Letter.bytes, hOver]
      rfl
  | some packet =>
      refine .inl ?_
      have hArrived :=
        arrive_of_mail chip events
          (arrive_of_letter _ hWaiting)
      rcases hWhole _ _ _ hArrived with ⟨hBase, hLong⟩
      have hOther :=
        over_RXnodeID chip events hNever
          (overwrite_of_letter _ hWaiting hOver)
      rw [recordOf_over letter packet hBase hLong hOver]
      exact if_neg hOther

/-
  Everything that is posted has arrived: the records are
  among those of the undamaged frames, in their order and
  once each. A reply that was still waiting when the next
  packet was written is lost, not mistaken.
-/
theorem device_posts
    (config : Config)
    (chip : Transceiver)
    (hReset : chip.irqFlags = 0)
    (events : List DeviceEvent)
    (hNever : NeverSelf config events)
    (hWhole : WholeAtBase events) :
    let outputs := (Master.device config chip).trace events
    (outputs.filterMap DeviceOutput.record?).Sublist
      ((arrivals
        (outputs.filterMap DeviceOutput.mail?)).filterMap
          fun frame => (decoded frame).posted?) := by
  intro outputs
  rcases device_runs config chip hReset events with
    ⟨steps, hRuns⟩
  let mails := outputs.filterMap DeviceOutput.mail?
  have hPolled :
      (received steps).map reading =
        (mailbox.trace mails).map Letter.reading := by
    rw [← hRuns.polled]
    exact (run_keeps config hReset events).2
  have hLong :
      ∀ frame ∈ received steps,
        structSize ≤ frame.bytes.length := by
    intro frame hFrame
    have hReading :
        reading frame ∈ (received steps).map reading :=
      List.mem_map_of_mem hFrame
    rw [hPolled, List.mem_map] at hReading
    rcases hReading with ⟨letter, hLetter, hSame⟩
    have hLength :
        letter.frame.bytes.length = frame.bytes.length :=
      congrArg Reading.packetSize hSame
    have hArrived :=
      arrive_of_mail chip events
        (arrive_of_letter mails
          (List.mem_append_left _ hLetter))
    rw [← hLength]
    exact (hWhole _ _ _ hArrived).2
  have hRecords :
      outputs.filterMap DeviceOutput.record? =
        (mailbox.trace mails).filterMap
          (fun letter => recordOf letter.bytes) := by
    calc
      outputs.filterMap DeviceOutput.record? =
          (received steps).filterMap
            (fun frame => recordOf frame.bytes) := by
        rw [hRuns.posted]
        exact posted_eq_of_whole config steps hLong
      _ = ((received steps).map reading).filterMap
            (fun reading => recordOf reading.bytes) := by
        rw [List.filterMap_map]
        simp only [Function.comp_def, reading,
          recordOf_take]
      _ = (mailbox.trace mails).filterMap
            (fun letter => recordOf letter.bytes) := by
        rw [hPolled, List.filterMap_map]
        simp only [Function.comp_def, Letter.reading,
          recordOf_take]
  rw [hRecords]
  have hTaken :
      ((mailbox.trace mails).map Letter.frame).Sublist
        (arrivals mails) := by
    have hAll := letters_sublist mails
    rw [letters, List.map_append] at hAll
    exact (List.sublist_append_left _ _).trans hAll
  have hArrived :=
    hTaken.filterMap
      (fun frame => (decoded frame).posted?)
  rw [List.filterMap_map] at hArrived
  refine List.Sublist.trans ?_ hArrived
  apply Lists.filterMap_sublist
  intro letter hLetter
  exact recordOf_letter chip events hNever hWhole hLetter

/- The late reply is the only candidate, and not posted. -/
theorem lateReply_posts :
    let reply : Slave.StructMessage :=
      { nodeID := 8
        RXnodeID := node }
    let records :=
      ((Master.device deployed Transceiver.reset).trace
        (lateReply reply.frame)).filterMap
          DeviceOutput.record?
    records.Sublist [reply.asMaster.record] ∧
      records = [] := by
  intro reply
  have hNever :
      NeverSelf deployed (lateReply reply.frame) := by
    refine ⟨by decide, ?_⟩
    intro got now hEvent
    have hFailed : got = ⟨-1, none⟩ := by
      simp [lateReply] at hEvent
      tauto
    rw [hFailed]
    decide
  have hWhole : WholeAtBase (lateReply reply.frame) := by
    intro frame start crcError hEvent
    have hReply : frame = reply.frame ∧ start = 0 := by
      simp [lateReply] at hEvent
      tauto
    rw [hReply.1, hReply.2]
    decide
  have hPosts :=
    device_posts deployed Transceiver.reset rfl
      (lateReply reply.frame) hNever hWhole
  have hArrivals :
      (arrivals
        (((Master.device deployed Transceiver.reset).trace
          (lateReply reply.frame)).filterMap
            DeviceOutput.mail?)).filterMap
          (fun frame => (decoded frame).posted?) =
        [reply.asMaster.record] := by
    decide +kernel
  exact ⟨hArrivals ▸ hPosts, by decide +kernel⟩

end Master

end LoRaTelemetry
