import LoRaTelemetry.Network.Projection

/-
  How far the synchronised clocks lag behind the master's.

  A slave resynchronises at every frame it receives, and its
  clock then lags as far as the packet did when it was
  stamped, and the time the packet took. Words wrap at 2^32;
  the law is stated with the wraps undone.

  Main declarations:
    * `Network.Stamped`
    * `Network.StampedAt`
    * `Network.Stamps`
    * `Network.run_stamps`
    * `Network.ClockLag`
    * `Network.run_clockLag`
-/

------------------------------------------------------------
-- Time Stamps
------------------------------------------------------------

namespace LoRaTelemetry

/- The master's time that a stamp shows, wraps undone. -/
def Deployment.stampTime
    {ι : Type}
    (deployment : Deployment ι)
    (stamp : Stamp) : Int :=
  deployment.masterTime stamp.time - stamp.lag

/- Only one statement assigns `timeStamp`. -/
theorem Slave.exec_timeStamp
    (board : Board)
    (state : State)
    (now : ULong)
    (draw : Fin 4)
    (hFilled : 6 ≤ (exec board state now draw).pc.filled) :
    (state.pc = .timeStamp ∧
        (exec board state now
            draw).telemtryPacketTX.timeStamp =
          syncMillis state now) ∨
      (state.pc ≠ .timeStamp ∧ 6 ≤ state.pc.filled ∧
        (exec board state now
            draw).telemtryPacketTX.timeStamp =
          state.telemtryPacketTX.timeStamp) := by
  have hExec := exec_executed board state now draw
  rw [hExec.pc] at hFilled
  rw [hExec.packet.timeStamp]
  by_cases hStamp : state.pc = .timeStamp
  · rw [if_pos hStamp]
    exact Or.inl ⟨hStamp, rfl⟩
  · rw [if_neg hStamp]
    exact
      Or.inr
        ⟨hStamp, Pc.filled_of_next hStamp hFilled, rfl⟩

namespace Network

variable {ι : Type} (deployment : Deployment ι)

/-
  A word that shows the time of its stamp, which is not in
  the future and not ahead of the master's clock.
-/
structure Stamped
    (now : Nat)
    (stamp : Stamp)
    (word : ULong) : Prop where
  shows : word = BitVec.ofInt 32 (deployment.stampTime stamp)
  behind : 0 ≤ stamp.lag
  past : stamp.time ≤ now

theorem Stamped.later
    {deployment : Deployment ι}
    {now later : Nat}
    {stamp : Stamp}
    {word : ULong}
    (hStamped : Stamped deployment now stamp word)
    (hLater : now ≤ later) :
    Stamped deployment later stamp word := by
  have hPast := hStamped.past
  exact ⟨hStamped.shows, hStamped.behind, by omega⟩

variable [DecidableEq ι]

/-
  A stamp that a slave took at some moment of the run, with
  the lag it had at that moment.
-/
def StampedAt
    (events : List (Event ι))
    (index : ι)
    (stamp : Stamp) : Prop :=
  ∃ before, before <+: events ∧
    (((network deployment).run before).slave index).pc =
        .timeStamp ∧
      stamp.time = ((network deployment).run before).now ∧
        ((network deployment).run before).lag index =
          some stamp.lag

/-
  The master stamps with its own clock, a slave with the lag
  it has at the stamping.
-/
def Origin
    (events : List (Event ι)) :
    Transmission ι → Prop
| .master _ _ stamp => stamp.lag = 0
| .slave index _ stamp =>
    StampedAt deployment events index stamp

/-
  The time stamps on the air and under construction, and the
  order of stamping, reception and the present.
-/
structure Stamps
    (events : List (Event ι))
    (net : Net ι) : Prop where
  master :
    Stamped deployment net.now net.masterStamp
      net.master.telemtryPacketTX.timeStamp
  masterLag : net.masterStamp.lag = 0
  slave :
    ∀ index, 6 ≤ (net.slave index).pc.filled →
      Stamped deployment net.now (net.slaveStamp index)
          (net.slave index).telemtryPacketTX.timeStamp ∧
        StampedAt deployment events index
          (net.slaveStamp index)
  log :
    ∀ transmission ∈ net.air.log,
      Stamped deployment net.now transmission.stamp
          transmission.timeStamp ∧
        Origin deployment events transmission
  heard :
    ∀ index, ∀ delivery ∈ net.heard index,
      delivery.1.stamp.time ≤ delivery.2 ∧
        delivery.2 ≤ net.now

variable {deployment}

theorem StampedAt.append
    {events : List (Event ι)}
    {index : ι}
    {stamp : Stamp}
    (hStamped : StampedAt deployment events index stamp)
    (event : Event ι) :
    StampedAt deployment (events ++ [event]) index
      stamp := by
  rcases hStamped with ⟨before, hPrefix, hRest⟩
  exact
    ⟨before, hPrefix.trans (List.prefix_append _ _), hRest⟩

theorem Origin.append
    {events : List (Event ι)}
    {transmission : Transmission ι}
    (hOrigin : Origin deployment events transmission)
    (event : Event ι) :
    Origin deployment (events ++ [event])
      transmission := by
  cases transmission with
  | master packet order stamp => exact hOrigin
  | slave index packet stamp =>
      exact StampedAt.append hOrigin event

------------------------------------------------------------
-- The Synchronised Clock
------------------------------------------------------------

/-
  After its first reception a slave's clock shows the
  master's time less the lag.
-/
theorem syncMillis_of_stamps
    {events : List (Event ι)}
    {net : Net ι}
    {index : ι}
    {steps : List Slave.Event}
    {lag : Int}
    (hStamps : Stamps deployment events net)
    (hRuns : SlaveRuns deployment net index steps)
    (hLag : net.lag index = some lag) :
    0 ≤ lag ∧
      Slave.syncMillis (net.slave index)
          (deployment.slaveClock index net.now) =
        BitVec.ofInt 32
          (deployment.masterTime net.now - lag) := by
  rcases List.eq_nil_or_concat' (net.heard index) with
    hNone | ⟨earlier, delivery, hHeard⟩
  · rw [Net.lag, hNone] at hLag
    cases hLag
  · have hLast : Net.lagAfter delivery = lag := by
      rw [Net.lag, hHeard, List.getLast?_concat] at hLag
      exact Option.some.inj hLag
    have hMember : delivery ∈ net.heard index := by
      rw [hHeard]
      simp
    rcases hStamps.log delivery.1
        (Medium.mem_log_of_mem_heard _ hMember) with
      ⟨hStamped, _⟩
    rcases hStamps.heard index delivery hMember with
      ⟨hOrder, _⟩
    have hBehind := hStamped.behind
    refine ⟨?_, ?_⟩
    · rw [← hLast, Net.lagAfter]
      omega
    · rw [Slave.syncMillis, hRuns.timeSyncErr hHeard,
        hStamped.shows, Deployment.slaveClock,
        Deployment.slaveClock, ← Words.ofInt_sub,
        ← Words.ofInt_sub, ← hLast]
      congr 1
      simp only [Deployment.stampTime,
        Deployment.masterTime, Net.lagAfter]
      omega

------------------------------------------------------------
-- Steps of the Network
------------------------------------------------------------

variable {events : List (Event ι)} {net : Net ι}

/- What was stamped stays stamped as the run goes on. -/
theorem Stamps.append
    (hStamps : Stamps deployment events net)
    (event : Event ι) :
    Stamps deployment (events ++ [event]) net := by
  rcases hStamps with ⟨h1, h2, h3, h4, h5⟩
  refine ⟨h1, h2, ?_, ?_, h5⟩
  · intro index hFilled
    rcases h3 index hFilled with ⟨hStamped, hAt⟩
    exact ⟨hStamped, hAt.append event⟩
  · intro transmission hLog
    rcases h4 transmission hLog with ⟨hStamped, hOrigin⟩
    exact ⟨hStamped, hOrigin.append event⟩

/- Steps that move nothing but time and the receivers. -/
theorem Stamps.of_same
    {net' : Net ι}
    (hStamps : Stamps deployment events net)
    (hNow : net.now ≤ net'.now)
    (hPacket :
      net'.master.telemtryPacketTX =
        net.master.telemtryPacketTX)
    (hMaster : net'.masterStamp = net.masterStamp)
    (hSlave : net'.slave = net.slave)
    (hSlaveStamp : net'.slaveStamp = net.slaveStamp)
    (hLog : net'.air.log = net.air.log)
    (hHeard :
      ∀ index, net'.heard index = net.heard index) :
    Stamps deployment events net' := by
  rcases hStamps with ⟨h1, h2, h3, h4, h5⟩
  constructor
  · rw [hPacket, hMaster]
    exact h1.later hNow
  · rw [hMaster]
    exact h2
  · rw [hSlave, hSlaveStamp]
    intro index hFilled
    rcases h3 index hFilled with ⟨hStamped, hAt⟩
    exact ⟨hStamped.later hNow, hAt⟩
  · rw [hLog]
    intro transmission hOld
    rcases h4 transmission hOld with ⟨hStamped, hOrigin⟩
    exact ⟨hStamped.later hNow, hOrigin⟩
  · intro index delivery hDelivery
    rw [hHeard] at hDelivery
    rcases h5 index delivery hDelivery with
      ⟨hOrder, hPast⟩
    exact ⟨hOrder, hPast.trans hNow⟩

/- A packet that is built is stamped with the clock. -/
theorem fetch_stamps
    (got : Master.GetOutcome)
    (hStamps : Stamps deployment events net) :
    Stamps deployment events (fetch deployment net got) := by
  have hNow :
      Stamped deployment net.now ⟨net.now, 0⟩
        (deployment.masterClock net.now) := by
    refine ⟨?_, le_rfl, le_rfl⟩
    simp [Deployment.masterClock, Deployment.stampTime]
  rcases Master.getDataFromServer_cases deployment.config
      net.master got (deployment.masterClock net.now) with
    ⟨_, hCase⟩ | ⟨_, hCase⟩ | ⟨_, _, hCase⟩
  · apply hStamps.of_same <;>
      simp [fetch, hCase, Net.heard]
  · rcases hStamps with ⟨_, _, h3, h4, h5⟩
    simp only [fetch, hCase]
    exact ⟨hNow, rfl, h3, h4, h5⟩
  · rcases hStamps with ⟨_, _, h3, h4, h5⟩
    simp only [fetch, hCase]
    exact ⟨hNow, rfl, h3, h4, h5⟩

/- The master's packet goes on the air with its stamp. -/
theorem transmit_stamps
    (hStamps : Stamps deployment events net) :
    Stamps deployment events (transmit net) := by
  rcases hStamps with ⟨h1, h2, h3, h4, h5⟩
  refine ⟨h1, h2, h3, ?_, h5⟩
  intro transmission hLog
  rw [transmit, Medium.log_transmit, List.mem_append,
    List.mem_singleton] at hLog
  rcases hLog with hOld | rfl
  · exact h4 transmission hOld
  · exact ⟨h1, h2⟩

/- A slave that replies has a lag. -/
theorem SlaveRuns.exists_lag
    {index : ι}
    {steps : List Slave.Event}
    (hRuns : SlaveRuns deployment net index steps)
    (hBusy : Slave.Busy (net.slave index)) :
    ∃ lag, net.lag index = some lag := by
  rw [hRuns.state] at hBusy
  rcases Slave.exists_addressed_of_busy _ steps
      hRuns.whole hBusy with
    ⟨packet, hHeard, _⟩
  have hReceived : Slave.received steps ≠ [] := by
    intro hNone
    simp [Slave.heard, hNone] at hHeard
  rw [hRuns.received, Ne, List.map_eq_nil_iff] at hReceived
  rw [← Option.isSome_iff_exists, Net.lag,
    Option.isSome_map]
  exact List.getLast?_isSome.mpr hReceived

/-
  A slave's own statement: the one that assigns `timeStamp`
  reads the synchronised clock.
-/
theorem advance_slaveStamp
    {index : ι}
    {steps : List Slave.Event}
    (draw : Fin 4)
    (hRuns : SlaveRuns deployment net index steps)
    (hAt :
      ∀ lag,
        (net.slave index).pc = .timeStamp →
          net.lag index = some lag →
            StampedAt deployment events index
              ⟨net.now, lag⟩)
    (hStamps : Stamps deployment events net)
    (hFilled :
      6 ≤
        ((advance deployment net index draw).slave
          index).pc.filled) :
    Stamped deployment net.now
        ((advance deployment net index draw).slaveStamp
          index)
        ((advance deployment net index draw).slave
          index).telemtryPacketTX.timeStamp ∧
      StampedAt deployment events index
        ((advance deployment net index draw).slaveStamp
          index) := by
  simp only [advance, Function.update_self] at hFilled ⊢
  rcases Slave.exec_timeStamp _ _ _ draw hFilled with
    ⟨hPc, hWord⟩ | ⟨hPc, hEarlier, hWord⟩
  · have hBusy : Slave.Busy (net.slave index) := by
      apply Or.inr
      rw [hPc]
      decide
    rcases hRuns.exists_lag hBusy with ⟨lag, hLag⟩
    rcases syncMillis_of_stamps hStamps hRuns hLag with
      ⟨hBehind, hShows⟩
    rw [if_pos hPc, Function.update_self, hWord, hLag]
    exact ⟨⟨hShows, hBehind, le_rfl⟩, hAt lag hPc hLag⟩
  · rw [if_neg hPc, hWord]
    exact hStamps.slave index hEarlier

/- It leaves the stamps of the other slaves alone. -/
theorem advance_slaveStamp_other
    (deployment : Deployment ι)
    (net : Net ι)
    {index other : ι}
    (draw : Fin 4)
    (hOther : other ≠ index) :
    (advance deployment net index draw).slave other =
        net.slave other ∧
      (advance deployment net index draw).slaveStamp
          other =
        net.slaveStamp other := by
  refine ⟨Function.update_of_ne hOther _ _, ?_⟩
  simp only [advance]
  split
  · exact Function.update_of_ne hOther _ _
  · rfl

/- `endPacket` transmits the packet with its stamp. -/
theorem advance_logStamps
    {index : ι}
    {steps : List Slave.Event}
    (draw : Fin 4)
    (hRuns : SlaveRuns deployment net index steps)
    (hStamps : Stamps deployment events net)
    {transmission : Transmission ι}
    (hLog :
      transmission ∈
        (advance deployment net index draw).air.log) :
    Stamped deployment net.now transmission.stamp
        transmission.timeStamp ∧
      Origin deployment events transmission := by
  by_cases hPc : (net.slave index).pc = .endPacket
  · simp only [advance, hPc, if_true,
      Medium.log_transmit, List.mem_append,
      List.mem_singleton] at hLog
    rcases hLog with hOld | rfl
    · exact hStamps.log transmission hOld
    · have hBuilding :=
        Slave.run_building (deployment.board index) steps
      rw [← hRuns.state] at hBuilding
      have hStamp :=
        hStamps.slave index (by simp [hPc, Slave.Pc.filled])
      rw [← hBuilding.fifo hPc] at hStamp
      exact hStamp
  · simp only [advance, hPc, if_false] at hLog
    exact hStamps.log transmission hLog

theorem advance_stamps
    {index : ι}
    {steps : List Slave.Event}
    (draw : Fin 4)
    (hRuns : SlaveRuns deployment net index steps)
    (hAt :
      ∀ lag,
        (net.slave index).pc = .timeStamp →
          net.lag index = some lag →
            StampedAt deployment events index
              ⟨net.now, lag⟩)
    (hStamps : Stamps deployment events net) :
    Stamps deployment events
      (advance deployment net index draw) := by
  have hHeard :
      ∀ other,
        (advance deployment net index draw).heard other =
          net.heard other := by
    intro other
    by_cases hPc : (net.slave index).pc = .endPacket <;>
      simp [advance, hPc, Net.heard]
  constructor
  · exact hStamps.master
  · exact hStamps.masterLag
  · intro other hFilled
    by_cases hOther : other = index
    · subst hOther
      exact
        advance_slaveStamp draw hRuns hAt hStamps hFilled
    · have hSame :=
        advance_slaveStamp_other deployment net draw hOther
      rw [hSame.1] at hFilled ⊢
      rw [hSame.2]
      exact hStamps.slave other hFilled
  · intro transmission hLog
    exact advance_logStamps draw hRuns hStamps hLog
  · intro other delivery hDelivery
    rw [hHeard] at hDelivery
    exact hStamps.heard other delivery hDelivery

/- A reception comes after the stamping. -/
theorem interrupt_stamps
    (index : ι)
    (position : Nat)
    (hStamps : Stamps deployment events net) :
    Stamps deployment events
      (interrupt deployment net index position) := by
  unfold interrupt
  cases hOffered :
      net.air.offered (.slave index) position with
  | none => exact hStamps
  | some transmission =>
      constructor
      · exact hStamps.master
      · exact hStamps.masterLag
      · intro other hFilled
        by_cases hOther : other = index
        · subst hOther
          have hSame :=
            Slave.onReceive_sameMain
              (deployment.board other) (net.slave other)
              (deployment.slaveClock other net.now)
              transmission.frame
          simp only [Function.update_self] at hFilled ⊢
          rw [hSame.pc] at hFilled
          rw [hSame.telemtryPacketTX]
          exact hStamps.slave other hFilled
        · simp only [Function.update_of_ne hOther]
            at hFilled ⊢
          exact hStamps.slave other hFilled
      · intro sent hSent
        rw [Medium.log_hear] at hSent
        exact hStamps.log sent hSent
      · intro other delivery hDelivery
        rcases Medium.mem_heard_hear _ hDelivery with
          hOld | ⟨hNew, hTime⟩
        · exact hStamps.heard other delivery hOld
        · rw [Medium.offered_eq_some_iff] at hNew
          have hMember : delivery.1 ∈ net.air.log :=
            List.mem_of_getElem? hNew.2.1
          rcases hStamps.log delivery.1 hMember with
            ⟨hStamped, _⟩
          rw [hTime]
          exact ⟨hStamped.past, le_rfl⟩

/- Every step of the network keeps the stamps in order. -/
theorem step_stamps
    (event : Event ι)
    (hRuns :
      ∀ index, ∃ steps,
        SlaveRuns deployment net index steps)
    (hAt :
      ∀ index lag,
        (net.slave index).pc = .timeStamp →
          net.lag index = some lag →
            StampedAt deployment events index
              ⟨net.now, lag⟩)
    (hStamps : Stamps deployment events net) :
    Stamps deployment events
      (step deployment net event) := by
  cases event with
  | tick elapsed =>
      exact
        hStamps.of_same (Nat.le_add_right _ _) rfl rfl rfl
          rfl rfl (fun _ => rfl)
  | master got position =>
      unfold step
      cases net.masterPc with
      | getDataFromServer => exact fetch_stamps got hStamps
      | send => exact transmit_stamps hStamps
      | lastSendTime =>
          exact
            hStamps.of_same le_rfl rfl rfl rfl rfl rfl
              (fun _ => rfl)
      | onreceive =>
          simp only
          unfold listen
          split
          · rcases Master.onreceive_state net.master
                ((net.air.offered .master position).map
                  Transmission.frame) with
              ⟨buffer, hBuffer⟩
            apply hStamps.of_same <;>
              simp [hBuffer, Net.heard, Medium.heard_hear]
          · exact
              hStamps.of_same le_rfl rfl rfl rfl rfl rfl
                (fun _ => rfl)
  | slave index draw =>
      rcases hRuns index with ⟨steps, hSteps⟩
      exact
        advance_stamps draw hSteps (hAt index) hStamps
  | interrupt index position =>
      exact interrupt_stamps index position hStamps

variable (deployment)

/- The invariant holds along every run. -/
theorem run_stamps
    (events : List (Event ι)) :
    Stamps deployment events
      ((network deployment).run events) := by
  apply
    Machine.run_history (network deployment)
      (P := Stamps deployment)
  · constructor
    · refine ⟨?_, le_rfl, ?_⟩
      · simp [Net.init, Master.State.init,
          Deployment.stampTime, Deployment.masterTime]
      · simp [Net.init]
    · rfl
    · intro index hFilled
      simp [Net.init, Slave.State.init, Slave.Pc.filled]
        at hFilled
    · simp [Net.init]
    · simp [Net.init, Net.heard]
  · intro events event hStamps
    apply step_stamps event
    · exact run_slave deployment events
    · intro index lag hPc hLag
      exact
        ⟨events, List.prefix_append _ _, hPc, rfl, hLag⟩
    · exact hStamps.append event

------------------------------------------------------------
-- The Law
------------------------------------------------------------

/-
  After its first reception, each slave's clock shows the
  master's time less its lag, which is not negative; and each
  time stamp on the air shows the master's time at the
  stamping less the lag of the clock it was read from, so
  that none is ahead of the master.
-/
structure ClockLag
    (events : List (Event ι))
    (net : Net ι) : Prop where
  synchronised :
    ∀ index lag, net.lag index = some lag →
      0 ≤ lag ∧
        Slave.syncMillis (net.slave index)
            (deployment.slaveClock index net.now) =
          BitVec.ofInt 32
            (deployment.masterTime net.now - lag)
  stamped :
    ∀ transmission ∈ net.air.log,
      transmission.timeStamp =
          BitVec.ofInt 32
            (deployment.stampTime transmission.stamp) ∧
        deployment.stampTime transmission.stamp ≤
          deployment.masterTime net.now ∧
        Origin deployment events transmission
  started :
    ∀ index, net.heard index ≠ [] →
      (net.lag index).isSome = true

/- For every run, whatever the relays and the wraps. -/
theorem run_clockLag
    (events : List (Event ι)) :
    ClockLag deployment events
      ((network deployment).run events) := by
  have hStamps := run_stamps deployment events
  constructor
  · intro index lag hLag
    rcases run_slave deployment events index with
      ⟨steps, hRuns⟩
    exact syncMillis_of_stamps hStamps hRuns hLag
  · intro transmission hLog
    rcases hStamps.log transmission hLog with
      ⟨hStamped, hOrigin⟩
    have hBehind := hStamped.behind
    have hPast := hStamped.past
    refine ⟨hStamped.shows, ?_, hOrigin⟩
    simp only [Deployment.stampTime, Deployment.masterTime]
    omega
  · intro index hHeard
    rw [Net.lag, Option.isSome_map]
    exact List.getLast?_isSome.mpr hHeard

end Network

end LoRaTelemetry
