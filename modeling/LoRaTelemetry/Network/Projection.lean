import LoRaTelemetry.Master.Reception
import LoRaTelemetry.Network.System
import LoRaTelemetry.Slave.Reception

/-
  Every node of the network runs its own sketch: the part of
  a network state that belongs to a node is the state of that
  node's machine after some events of its own.

  Main declarations:
    * `Network.SlaveRuns`
    * `Network.MasterRuns`
    * `Network.step_slave`
    * `Network.run_slave`
    * `Network.run_master`
    * `Network.step_master`
-/

------------------------------------------------------------
-- Local Views
------------------------------------------------------------

namespace LoRaTelemetry

/- The telemetry of one slave among the transmissions. -/
def Transmission.telemetry?
    {ι : Type} [DecidableEq ι]
    (index : ι) :
    Transmission ι → Option Slave.StructMessage
| .master _ _ _ => none
| .slave other packet _ =>
    if other = index then
      some packet
    else
      none

/- Every frame on the air is as long as the structure. -/
theorem Transmission.length_frame
    {ι : Type}
    (transmission : Transmission ι) :
    transmission.frame.bytes.length = structSize := by
  cases transmission with
  | master packet order stamp =>
      simp [frame, Master.StructMessage.frame]
  | slave index packet stamp =>
      simp [frame, Slave.StructMessage.frame]

/- A slave reads the time stamp that was transmitted. -/
theorem Transmission.decoded_timeStamp
    {ι : Type}
    (transmission : Transmission ι) :
    (Slave.decoded transmission.frame).timeStamp =
      transmission.timeStamp := by
  cases transmission with
  | master packet order stamp =>
      simp [frame, timeStamp, Master.StructMessage.asSlave]
  | slave index packet stamp => simp [frame, timeStamp]

namespace Network

variable {ι : Type} [DecidableEq ι]
variable (deployment : Deployment ι) (net : Net ι)

/-
  A slave after some events of its own: they lead to its
  state, to its telemetry on the air, and to the receptions
  that the medium has recorded for it.
-/
structure SlaveRuns
    (index : ι)
    (steps : List Slave.Event) : Prop where
  state :
    net.slave index =
      (Slave.machine (deployment.board index)).run steps
  telemetry :
    Slave.telemetry (deployment.board index) steps =
      net.air.log.filterMap (Transmission.telemetry? index)
  received :
    Slave.received steps =
      (net.heard index).map fun delivery =>
        (deployment.slaveClock index delivery.2,
          delivery.1.frame)

/- A slave's own part of two network states is the same. -/
structure SameSlave
    (net' net : Net ι)
    (index : ι) : Prop where
  state : net'.slave index = net.slave index
  telemetry :
    net'.air.log.filterMap
        (Transmission.telemetry? index) =
      net.air.log.filterMap (Transmission.telemetry? index)
  heard : net'.heard index = net.heard index

/- The same for the master and the records it posted. -/
structure MasterRuns (steps : List Master.Step) : Prop where
  state :
    net.master =
      (Master.stepMachine deployment.config).run steps
  posts : net.posts = Master.posted deployment.config steps
  received :
    Master.received steps =
      (net.air.heard .master).map fun delivery =>
        delivery.1.frame

------------------------------------------------------------
-- What a Step Leaves Alone
------------------------------------------------------------

@[simp] theorem fetch_slave
    (got : Master.GetOutcome) :
    (fetch deployment net got).slave = net.slave := by
  unfold fetch
  simp only
  split <;> rfl

@[simp] theorem fetch_air
    (got : Master.GetOutcome) :
    (fetch deployment net got).air = net.air := by
  unfold fetch
  simp only
  split <;> rfl

@[simp] theorem fetch_master
    (got : Master.GetOutcome) :
    (fetch deployment net got).master =
      (Master.getDataFromServer deployment.config net.master
        got (deployment.masterClock net.now)).1 := by
  unfold fetch
  simp only
  split <;> rfl

@[simp] theorem fetch_posts
    (got : Master.GetOutcome) :
    (fetch deployment net got).posts = net.posts := by
  unfold fetch
  simp only
  split <;> rfl

variable {deployment net}

theorem SlaveRuns.of_same
    {net' : Net ι}
    {index : ι}
    {steps : List Slave.Event}
    (hRuns : SlaveRuns deployment net index steps)
    (hSame : SameSlave net' net index) :
    SlaveRuns deployment net' index steps := by
  exact
    ⟨hSame.state.trans hRuns.state,
      hRuns.telemetry.trans hSame.telemetry.symm,
      by rw [hRuns.received, hSame.heard]⟩

/- A slave in the network hears whole frames only. -/
theorem SlaveRuns.whole
    {index : ι}
    {steps : List Slave.Event}
    (hRuns : SlaveRuns deployment net index steps) :
    Slave.WholeFrames steps := by
  intro reception hReception
  rw [hRuns.received] at hReception
  rcases List.mem_map.mp hReception with
    ⟨delivery, _, rfl⟩
  exact delivery.1.length_frame.ge

/- Its clock correction is that of the last frame heard. -/
theorem SlaveRuns.timeSyncErr
    {index : ι}
    {steps : List Slave.Event}
    {earlier : List (Transmission ι × Nat)}
    {delivery : Transmission ι × Nat}
    (hRuns : SlaveRuns deployment net index steps)
    (hHeard : net.heard index = earlier ++ [delivery]) :
    (net.slave index).timeSyncErr =
      deployment.slaveClock index delivery.2 -
        delivery.1.timeStamp := by
  have hSync :=
    Slave.run_timeSyncErr (deployment.board index) steps
      hRuns.whole
  rw [Slave.lastSync, hRuns.received, hHeard,
    List.map_append, List.map_singleton,
    List.getLast?_concat, ← hRuns.state] at hSync
  simp only at hSync
  rw [hSync, Transmission.decoded_timeStamp]

theorem MasterRuns.of_same
    {net' : Net ι}
    {steps : List Master.Step}
    (hRuns : MasterRuns deployment net steps)
    (hState : net'.master = net.master)
    (hPosts : net'.posts = net.posts)
    (hHeard :
      net'.air.heard .master = net.air.heard .master) :
    MasterRuns deployment net' steps := by
  exact
    ⟨hState.trans hRuns.state, hPosts.trans hRuns.posts,
      by rw [hRuns.received, hHeard]⟩

------------------------------------------------------------
-- A Slave's Steps
------------------------------------------------------------

variable (deployment net)

/- A slave's own statement. -/
theorem advance_slave
    (index : ι)
    (draw : Fin 4) :
    (advance deployment net index draw).slave index =
        Slave.exec (deployment.board index)
          (net.slave index)
          (deployment.slaveClock index net.now) draw ∧
      (advance deployment net index draw).air.log.filterMap
          (Transmission.telemetry? index) =
        net.air.log.filterMap
            (Transmission.telemetry? index) ++
          (if (net.slave index).pc = .endPacket then
            [(net.slave index).fifo]
          else
            []) ∧
      (advance deployment net index draw).heard index =
        net.heard index := by
  by_cases hPc : (net.slave index).pc = .endPacket
  · simp [advance, hPc, Net.heard, Transmission.telemetry?]
  · simp [advance, hPc, Net.heard]

/- Another slave's statement. -/
theorem advance_slave_other
    {index other : ι}
    (draw : Fin 4)
    (hOther : index ≠ other) :
    SameSlave (advance deployment net other draw) net
      index := by
  by_cases hPc : (net.slave other).pc = .endPacket
  · constructor <;>
      simp [advance, hPc, hOther, hOther.symm, Net.heard,
        Transmission.telemetry?]
  · constructor <;> simp [advance, hPc, hOther, Net.heard]

/- The master's statements. -/
theorem master_slave
    (got : Master.GetOutcome)
    (position : Nat)
    (index : ι) :
    SameSlave
      (step deployment net (.master got position)) net
      index := by
  unfold step
  cases net.masterPc with
  | getDataFromServer => constructor <;> simp [Net.heard]
  | send =>
      constructor <;>
        simp [transmit, Net.heard, Transmission.telemetry?]
  | lastSendTime => constructor <;> simp [mark, Net.heard]
  | onreceive =>
      simp only
      unfold listen
      split
      · constructor <;> simp [Net.heard, Medium.heard_hear]
      · exact ⟨rfl, rfl, rfl⟩

/-
  What a step of the network is for one slave: a statement of
  its own, an interrupt by a frame, or nothing.
-/
theorem step_slave
    (event : Event ι)
    (index : ι) :
    (∃ draw,
      event = .slave index draw ∧
        step deployment net event =
          advance deployment net index draw) ∨
      (∃ transmission,
        (step deployment net event).slave index =
            (Slave.onReceive (deployment.board index)
              (net.slave index)
              (deployment.slaveClock index net.now)
              transmission.frame).1 ∧
          (step deployment net event).air.log =
            net.air.log ∧
          (step deployment net event).heard index =
            net.heard index ++ [(transmission, net.now)]) ∨
      SameSlave (step deployment net event) net index := by
  cases event with
  | tick elapsed => exact Or.inr (Or.inr ⟨rfl, rfl, rfl⟩)
  | master got position =>
      exact
        Or.inr (Or.inr
          (master_slave deployment net got position index))
  | slave other draw =>
      by_cases hOther : index = other
      · subst hOther
        exact Or.inl ⟨draw, rfl, rfl⟩
      · exact
          Or.inr (Or.inr
            (advance_slave_other deployment net draw
              hOther))
  | interrupt other position =>
      apply Or.inr
      unfold step interrupt
      simp only
      cases hOffered :
          net.air.offered (.slave other) position with
      | none => exact Or.inr ⟨rfl, rfl, rfl⟩
      | some transmission =>
          by_cases hOther : index = other
          · subst hOther
            apply Or.inl
            refine ⟨transmission, ?_, ?_, ?_⟩
            · simp
            · simp
            · simp [Net.heard, Medium.heard_hear, hOffered]
          · apply Or.inr
            constructor
            · simp [hOther]
            · simp
            · simp [Net.heard, Medium.heard_hear, hOther]

/- Every step of the network is one of a slave, or none. -/
theorem step_slaveRuns
    (event : Event ι)
    {index : ι}
    (hRuns : ∃ steps, SlaveRuns deployment net index steps) :
    ∃ steps,
      SlaveRuns deployment (step deployment net event) index
        steps := by
  rcases hRuns with ⟨steps, hRuns⟩
  rcases step_slave deployment net event index with
    ⟨draw, rfl, hStep⟩ |
      ⟨transmission, hState, hLog, hHeard⟩ | hSame
  · rcases advance_slave deployment net index draw with
      ⟨hState, hTelemetry, hHeard⟩
    rw [hStep]
    refine
      ⟨steps ++
        [.exec (deployment.slaveClock index net.now) draw],
        ?_, ?_, ?_⟩
    · rw [hState, Machine.run_concat, ← hRuns.state]
      rfl
    · rw [hTelemetry, Slave.telemetry_concat,
        Slave.emit_packets, ← hRuns.state, hRuns.telemetry]
    · rw [hHeard, Slave.received_concat_exec,
        hRuns.received]
  · refine
      ⟨steps ++
        [.receive (deployment.slaveClock index net.now)
          transmission.frame], ?_, ?_, ?_⟩
    · rw [hState, Machine.run_concat, ← hRuns.state]
      rfl
    · rw [hLog, Slave.telemetry_concat, Slave.emit_packets,
        hRuns.telemetry]
      exact List.append_nil _
    · rw [hHeard, Slave.received_concat_receive,
        hRuns.received, List.map_append]
      rfl
  · exact ⟨steps, hRuns.of_same hSame⟩

/- A slave in a run of the network runs its own sketch. -/
theorem run_slave
    (events : List (Event ι))
    (index : ι) :
    ∃ steps,
      SlaveRuns deployment ((network deployment).run events)
        index steps := by
  apply
    Machine.run_invariant (network deployment)
      (P := fun net =>
        ∃ steps, SlaveRuns deployment net index steps)
  · exact ⟨[], rfl, rfl, rfl⟩
  · intro net event hRuns
    exact step_slaveRuns deployment net event hRuns

------------------------------------------------------------
-- The Master's Steps
------------------------------------------------------------

/- A round of the listening loop polls at most once. -/
theorem listen_masterRuns
    {steps : List Master.Step}
    (position : Nat)
    (hRuns : MasterRuns deployment net steps) :
    ∃ steps',
      MasterRuns deployment (listen deployment net position)
        steps' := by
  unfold listen
  split
  · refine
      ⟨steps ++
        [.poll
          ((net.air.offered .master position).map
            Transmission.frame)], ?_, ?_, ?_⟩
    · rw [Machine.run_concat, ← hRuns.state]
      rfl
    · rw [Master.posted_concat, Master.effects_records,
        ← hRuns.state, ← hRuns.posts]
    · rw [Master.received_concat, hRuns.received,
        Medium.heard_hear, if_pos rfl]
      cases net.air.offered .master position with
      | none => simp [Master.Step.frame]
      | some transmission => simp [Master.Step.frame]
  · exact ⟨steps, hRuns.of_same rfl rfl rfl⟩

theorem step_masterRuns
    (event : Event ι)
    (hRuns : ∃ steps, MasterRuns deployment net steps) :
    ∃ steps,
      MasterRuns deployment (step deployment net event)
        steps := by
  rcases hRuns with ⟨steps, hRuns⟩
  cases event with
  | tick elapsed => exact ⟨steps, hRuns.of_same rfl rfl rfl⟩
  | master got position =>
      unfold step
      cases net.masterPc with
      | getDataFromServer =>
          refine
            ⟨steps ++
              [.fetch got
                (deployment.masterClock net.now)],
              ?_, ?_, ?_⟩
          · rw [Machine.run_concat, ← hRuns.state]
            simp [Master.perform]
          · rw [Master.posted_concat,
              Master.effects_records, ← hRuns.posts]
            simp
          · rw [Master.received_concat, hRuns.received]
            simp [Master.Step.frame]
      | send =>
          exact ⟨steps, hRuns.of_same rfl rfl rfl⟩
      | lastSendTime =>
          refine
            ⟨steps ++
              [.mark (deployment.masterClock net.now)],
              ?_, ?_, ?_⟩
          · rw [Machine.run_concat, ← hRuns.state]
            rfl
          · rw [Master.posted_concat,
              Master.effects_records, ← hRuns.posts]
            simp [mark]
          · rw [Master.received_concat, hRuns.received]
            simp [mark, Master.Step.frame]
      | onreceive =>
          exact
            listen_masterRuns deployment net position hRuns
  | slave index draw =>
      refine ⟨steps, hRuns.of_same rfl rfl ?_⟩
      by_cases hPc : (net.slave index).pc = .endPacket
      · simp [step, advance, hPc]
      · simp [step, advance, hPc]
  | interrupt index position =>
      refine ⟨steps, ?_⟩
      unfold step interrupt
      simp only
      cases net.air.offered (.slave index) position with
      | none => exact hRuns
      | some transmission =>
          apply hRuns.of_same <;> simp [Medium.heard_hear]

/- The master in a run of the network runs its own sketch. -/
theorem run_master
    (events : List (Event ι)) :
    ∃ steps,
      MasterRuns deployment
        ((network deployment).run events) steps := by
  apply
    Machine.run_invariant (network deployment)
      (P := fun net =>
        ∃ steps, MasterRuns deployment net steps)
  · exact ⟨[], rfl, rfl, rfl⟩
  · intro net event hRuns
    exact step_masterRuns deployment net event hRuns

------------------------------------------------------------
-- The Master's Packets
------------------------------------------------------------

/-
  What the master builds and sends is the same; the slaves
  may have put telemetry on the air.
-/
structure SameMaster (net' net : Net ι) : Prop where
  count : net'.master.msgCount = net.master.msgCount
  packet :
    net'.master.telemtryPacketTX =
      net.master.telemtryPacketTX
  watermark :
    net'.master.lastServerMsgID =
      net.master.lastServerMsgID
  order : net'.order = net.order
  log :
    ∃ telemetry : List (Transmission ι),
      net'.air.log = net.air.log ++ telemetry ∧
        ∀ transmission ∈ telemetry,
          transmission.sender ≠ .master

theorem SameMaster.of_log
    {net' net : Net ι}
    (hMaster : net'.master = net.master)
    (hOrder : net'.order = net.order)
    (hLog : net'.air.log = net.air.log) :
    SameMaster net' net := by
  constructor
  · rw [hMaster]
  · rw [hMaster]
  · rw [hMaster]
  · exact hOrder
  · exact ⟨[], by simp [hLog], by simp⟩

theorem listen_sameMaster
    (position : Nat) :
    SameMaster (listen deployment net position) net := by
  unfold listen
  split
  · rcases Master.onreceive_state net.master
        ((net.air.offered .master position).map
          Transmission.frame) with
      ⟨buffer, hBuffer⟩
    constructor
    · simp [hBuffer]
    · simp [hBuffer]
    · simp [hBuffer]
    · rfl
    · exact ⟨[], by simp, by simp⟩
  · exact SameMaster.of_log rfl rfl rfl

theorem advance_sameMaster
    (index : ι)
    (draw : Fin 4) :
    SameMaster (advance deployment net index draw) net := by
  refine ⟨rfl, rfl, rfl, rfl, ?_⟩
  simp only [advance]
  split
  · refine ⟨_, Medium.log_transmit _ _, ?_⟩
    intro transmission hNew
    rw [List.mem_singleton] at hNew
    subst hNew
    intro hSender
    cases hSender
  · exact ⟨[], by simp, by simp⟩

/-
  What a step of the network is for the master's packets: a
  call of `getDataFromServer`, one of `send`, or nothing.
-/
theorem step_master
    (event : Event ι) :
    (∃ got position,
      event = .master got position ∧
        net.masterPc = .getDataFromServer ∧
        step deployment net event =
          fetch deployment net got) ∨
      (∃ got position,
        event = .master got position ∧
          net.masterPc = .send ∧
          step deployment net event = transmit net) ∨
      (SameMaster (step deployment net event) net ∧
        ∀ got position,
          event = .master got position →
            net.masterPc ≠ .getDataFromServer) := by
  cases event with
  | tick elapsed =>
      exact
        Or.inr (Or.inr
          ⟨SameMaster.of_log rfl rfl rfl, by simp⟩)
  | master got position =>
      unfold step
      cases hPc : net.masterPc with
      | getDataFromServer =>
          exact Or.inl ⟨got, position, rfl, rfl, rfl⟩
      | send =>
          exact
            Or.inr (Or.inl ⟨got, position, rfl, rfl, rfl⟩)
      | lastSendTime =>
          refine Or.inr (Or.inr ⟨?_, by simp⟩)
          exact ⟨rfl, rfl, rfl, rfl, [], by simp [mark]⟩
      | onreceive =>
          exact
            Or.inr (Or.inr
              ⟨listen_sameMaster deployment net position,
                by simp⟩)
  | slave index draw =>
      exact
        Or.inr (Or.inr
          ⟨advance_sameMaster deployment net index draw,
            by simp⟩)
  | interrupt index position =>
      refine Or.inr (Or.inr ⟨?_, by simp⟩)
      unfold step interrupt
      simp only
      split
      · exact SameMaster.of_log rfl rfl rfl
      · exact SameMaster.of_log rfl rfl (by simp)

end Network

end LoRaTelemetry
