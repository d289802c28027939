import LoRaTelemetry.Master.RoundRobin
import LoRaTelemetry.Network.Readings
import LoRaTelemetry.Slave.Responses

/-
  No deadlock: whatever has been lost or cut short, a reading
  of any slave in the table can still be had, without the
  server and without the other slaves.

  Main declarations:
    * `Network.Unaided`
    * `Network.Leads`
    * `Network.leads_fetching`
    * `Network.leads_turn`
    * `Network.run_recovers`
-/

------------------------------------------------------------
-- The End of the Listening Loop
------------------------------------------------------------

namespace LoRaTelemetry

namespace Deployment

variable {ι : Type} (deployment : Deployment ι)

/- What the master's clock shows some time later. -/
theorem masterClock_add
    (now elapsed : Nat) :
    deployment.masterClock (now + elapsed) =
      deployment.masterClock now +
        BitVec.ofNat 32 elapsed := by
  rw [Deployment.masterClock, Deployment.masterClock,
    Deployment.masterTime, Deployment.masterTime,
    Nat.cast_add, ← add_assoc, BitVec.ofInt_add,
    BitVec.ofInt_natCast]

/- Whenever the listening began, the interval ends. -/
theorem exists_closed
    (state : Master.State)
    (now : Nat) :
    ∃ elapsed,
      Master.listening state
        (deployment.masterClock (now + elapsed)) = false := by
  by_cases hOpen :
      Master.listening state (deployment.masterClock now) =
        true
  · have hEarly :
        (deployment.masterClock now -
            state.lastSendTime).toNat < 1200 :=
      BitVec.lt_def.mp (of_decide_eq_true hOpen)
    refine
      ⟨1200 -
        (deployment.masterClock now -
          state.lastSendTime).toNat, ?_⟩
    have hSum :
        ∀ gap : CLong, gap.toNat < 1200 →
          ¬ gap + BitVec.ofNat 32 (1200 - gap.toNat) <
            Master.interval := by
      intro gap hGap
      have hInterval : Master.interval.toNat = 1200 := by
        rfl
      rw [BitVec.lt_def, BitVec.toNat_add,
        BitVec.toNat_ofNat, hInterval]
      omega
    apply decide_eq_false
    rw [masterClock_add, add_sub_right_comm]
    exact hSum _ hEarly
  · exact ⟨0, eq_false_of_ne_true hOpen⟩

end Deployment

------------------------------------------------------------
-- Continuations
------------------------------------------------------------

namespace Network

open Master (failedGet)

variable {ι : Type} [DecidableEq ι]
variable (deployment : Deployment ι)

/-
  What one slave needs for a reading: time, the master with
  failing GETs, and itself.
-/
def Unaided (index : ι) : Event ι → Prop
| .tick _ => True
| .master got _ => got = failedGet
| .slave other _ => other = index
| .interrupt other _ => other = index

/- One state leads to another, without any other help. -/
def Reaches
    (index : ι)
    (net net' : Net ι) : Prop :=
  ∃ later,
    (∀ event ∈ later, Unaided index event) ∧
      (network deployment).runFrom net later = net'

/- One state leads to another, and nothing is posted. -/
structure Leads
    (index : ι)
    (net net' : Net ι) : Prop where
  reaches : Reaches deployment index net net'
  posts : net'.posts = net.posts
  now : net.now ≤ net'.now

variable {deployment}

theorem Reaches.refl
    (index : ι)
    (net : Net ι) :
    Reaches deployment index net net := by
  exact ⟨[], by simp, rfl⟩

theorem Reaches.trans
    {index : ι}
    {net middle net' : Net ι}
    (hFirst : Reaches deployment index net middle)
    (hSecond : Reaches deployment index middle net') :
    Reaches deployment index net net' := by
  rcases hFirst with ⟨first, hFirst, rfl⟩
  rcases hSecond with ⟨second, hSecond, rfl⟩
  refine
    ⟨first ++ second, ?_, Machine.runFrom_append _ _ _ _⟩
  intro event hEvent
  rcases List.mem_append.mp hEvent with hEarly | hLate
  · exact hFirst event hEarly
  · exact hSecond event hLate

theorem Reaches.step
    {index : ι}
    (net : Net ι)
    (event : Event ι)
    (hUnaided : Unaided index event) :
    Reaches deployment index net
      (step deployment net event) := by
  exact ⟨[event], by simpa using hUnaided, rfl⟩

theorem Leads.refl
    (index : ι)
    (net : Net ι) :
    Leads deployment index net net := by
  exact ⟨Reaches.refl index net, rfl, le_rfl⟩

theorem Leads.trans
    {index : ι}
    {net middle net' : Net ι}
    (hFirst : Leads deployment index net middle)
    (hSecond : Leads deployment index middle net') :
    Leads deployment index net net' := by
  exact
    ⟨hFirst.reaches.trans hSecond.reaches,
      hSecond.posts.trans hFirst.posts,
      hFirst.now.trans hSecond.now⟩

------------------------------------------------------------
-- The Next Pass of the Master
------------------------------------------------------------

variable {net : Net ι}

/- The master goes on to its next pass. -/
theorem leads_leaving
    (index : ι)
    {elapsed : Nat}
    (hPc : net.masterPc = .onreceive)
    (hClosed :
      Master.listening net.master
        (deployment.masterClock (net.now + elapsed)) =
          false) :
    Leads deployment index net
      { net with
        now := net.now + elapsed
        masterPc := .getDataFromServer } := by
  refine ⟨?_, rfl, Nat.le_add_right _ _⟩
  refine ⟨[.tick elapsed, .master failedGet 0], ?_, ?_⟩
  · simp [Unaided]
  · simp [Machine.runFrom, step, hPc, listen, hClosed]

/- The master sends its packet and listens. -/
theorem leads_listening
    (deployment : Deployment ι)
    (index : ι)
    (hPc : net.masterPc ≠ .getDataFromServer) :
    ∃ net',
      Leads deployment index net net' ∧
        net'.masterPc = .onreceive := by
  have hMark :
      ∀ net : Net ι, net.masterPc = .lastSendTime →
        ∃ net',
          Leads deployment index net net' ∧
            net'.masterPc = .onreceive := by
    intro net hPc
    refine ⟨mark deployment net, ⟨?_, rfl, le_rfl⟩, rfl⟩
    refine ⟨[.master failedGet 0], by simp [Unaided], ?_⟩
    simp [Machine.runFrom, step, hPc]
  cases hHere : net.masterPc with
  | getDataFromServer => exact absurd hHere hPc
  | send =>
      have hSent :
          Leads deployment index net (transmit net) := by
        refine
          ⟨⟨[.master failedGet 0], ?_, ?_⟩, rfl, le_rfl⟩
        · simp [Unaided]
        · simp [Machine.runFrom, step, hHere]
      rcases hMark (transmit net) rfl with
        ⟨net', hLeads, hListens⟩
      exact ⟨net', hSent.trans hLeads, hListens⟩
  | lastSendTime => exact hMark net hHere
  | onreceive =>
      exact ⟨net, Leads.refl index net, hHere⟩

/- Wherever the master is, it comes to its next pass. -/
theorem leads_fetching
    (deployment : Deployment ι)
    (index : ι)
    (net : Net ι) :
    ∃ net',
      Leads deployment index net net' ∧
        net'.masterPc = .getDataFromServer := by
  by_cases hPc : net.masterPc = .getDataFromServer
  · exact ⟨net, Leads.refl index net, hPc⟩
  · rcases leads_listening deployment index hPc with
      ⟨middle, hLeads, hListens⟩
    rcases deployment.exists_closed middle.master
        middle.now with
      ⟨elapsed, hClosed⟩
    have hLeaves := leads_leaving index hListens hClosed
    exact ⟨_, hLeads.trans hLeaves, rfl⟩

------------------------------------------------------------
-- The Turn of the Slave
------------------------------------------------------------

variable (deployment)

/-
  The master has polled a slave and listens: its request is
  the last packet on the air.
-/
structure Requested (net net' : Net ι) : Prop where
  now : net'.now = net.now
  posts : net'.posts = net.posts
  slave : net'.slave = net.slave
  masterPc : net'.masterPc = .onreceive
  lastSendTime :
    net'.master.lastSendTime =
      deployment.masterClock net.now
  i :
    net'.master.i =
      Master.nextIndex deployment.config net.master.i
  air :
    net'.air =
      net.air.transmit
        (.master
          (Master.statusRequest deployment.config net.master
            (deployment.masterClock net.now))
          none ⟨net.now, 0⟩)

theorem exists_requested
    (index : ι)
    (hPc : net.masterPc = .getDataFromServer) :
    ∃ net',
      Reaches deployment index net net' ∧
        Requested deployment net net' := by
  refine
    ⟨_,
      ⟨List.replicate 3 (.master failedGet 0),
        by simp [Unaided], rfl⟩, ?_⟩
  constructor <;>
    simp [Machine.runFrom, step, hPc, fetch, transmit, mark,
      Master.getDataFromServer, failedGet, Master.pktBuild,
      Master.markSendTime, Master.send]

/- A pass in which nothing is heard. -/
theorem leads_pass
    (index : ι)
    (hPc : net.masterPc = .getDataFromServer) :
    ∃ net',
      Leads deployment index net net' ∧
        net'.masterPc = .getDataFromServer ∧
        net'.master.i =
          Master.nextIndex deployment.config
            net.master.i := by
  rcases exists_requested deployment index hPc with
    ⟨middle, hReaches, hAsked⟩
  have hClosed :
      Master.listening middle.master
        (deployment.masterClock (middle.now + 1200)) =
          false := by
    rw [Master.listening, deployment.masterClock_add,
      hAsked.now, hAsked.lastSendTime, add_sub_cancel_left]
    decide
  have hAsks : Leads deployment index net middle :=
    ⟨hReaches, hAsked.posts, hAsked.now.ge⟩
  have hLeaves :=
    leads_leaving index hAsked.masterPc hClosed
  exact ⟨_, hAsks.trans hLeaves, rfl, hAsked.i⟩

/- Some passes later. -/
theorem leads_passes
    (index : ι)
    (hPc : net.masterPc = .getDataFromServer)
    (hInside :
      net.master.i.toNat < deployment.config.slaveNode.length)
    (count : Nat) :
    ∃ net',
      Leads deployment index net net' ∧
        net'.masterPc = .getDataFromServer ∧
        net'.master.i.toNat =
          (net.master.i.toNat + count) %
            deployment.config.slaveNode.length := by
  induction count with
  | zero =>
      refine ⟨net, Leads.refl index net, hPc, ?_⟩
      exact (Nat.mod_eq_of_lt hInside).symm
  | succ count ih =>
      rcases ih with ⟨middle, hLeads, hFetches, hIndex⟩
      have hMiddle :
          middle.master.i.toNat <
            deployment.config.slaveNode.length := by
        rw [hIndex]
        exact Nat.mod_lt _ (by omega)
      rcases leads_pass deployment index hFetches with
        ⟨net', hPass, hNext, hTurn⟩
      refine ⟨net', hLeads.trans hPass, hNext, ?_⟩
      rw [hTurn, Master.toNat_nextIndex hMiddle, hIndex,
        Nat.mod_add_mod, Nat.add_assoc]

/- In its turn, a slave in the table is polled next. -/
theorem leads_turn
    (index : ι)
    {node : CInt}
    (hPc : net.masterPc = .getDataFromServer)
    (hInside :
      net.master.i.toNat < deployment.config.slaveNode.length)
    (hPolled : node ∈ deployment.config.slaveNode) :
    ∃ net',
      Leads deployment index net net' ∧
        net'.masterPc = .getDataFromServer ∧
        Master.polled deployment.config net'.master =
          node := by
  rcases List.getElem_of_mem hPolled with
    ⟨place, hPlace, hNode⟩
  -- the passes up to the place of the slave, from here on
  rcases leads_passes deployment index hPc hInside
      ((place + (deployment.config.slaveNode.length -
          net.master.i.toNat)) %
        deployment.config.slaveNode.length) with
    ⟨net', hLeads, hFetches, hIndex⟩
  have hTurn : net'.master.i.toNat = place := by
    rw [hIndex, Nat.add_mod_mod,
      show
        net.master.i.toNat +
            (place + (deployment.config.slaveNode.length -
              net.master.i.toNat)) =
          place + deployment.config.slaveNode.length by
        omega,
      Nat.add_mod_right, Nat.mod_eq_of_lt hPlace]
  refine ⟨net', hLeads, hFetches, ?_⟩
  rw [Master.polled, hTurn, List.getD_eq_getElem?_getD,
    List.getElem?_eq_getElem hPlace, Option.getD_some, hNode]

------------------------------------------------------------
-- The Statements of the Slave
------------------------------------------------------------

/- A slave that is left alone comes to wait for a request. -/
theorem leads_idle
    (index : ι)
    (net : Net ι) :
    ∃ net',
      Leads deployment index net net' ∧
        Slave.Idle (net'.slave index) ∧
        net'.master = net.master ∧
        net'.masterPc = net.masterPc := by
  induction hLeft : Slave.untilIdle (net.slave index)
      generalizing net with
  | zero =>
      exact
        ⟨net, Leads.refl index net,
          Slave.idle_of_untilIdle _ hLeft, rfl, rfl⟩
  | succ left ih =>
      have hFewer :
          Slave.untilIdle
              ((advance deployment net index
                (Fin.last 3)).slave index) =
            left := by
        have hStep :=
          Slave.exec_untilIdle (deployment.board index)
            (net.slave index)
            (deployment.slaveClock index net.now)
            (Fin.last 3) (by omega)
        rw [(advance_slave deployment net index
          (Fin.last 3)).1]
        omega
      rcases ih _ hFewer with
        ⟨net', hLeads, hIdle, hMaster, hPc⟩
      have hStep :
          Leads deployment index net
            (advance deployment net index (Fin.last 3)) := by
        exact
          ⟨Reaches.step net (.slave index (Fin.last 3)) rfl,
            rfl, le_rfl⟩
      exact
        ⟨net', hStep.trans hLeads, hIdle, hMaster, hPc⟩

/- What the slave does until it transmits. -/
structure Replying
    (index : ι)
    (draw : Fin 4)
    (count : Nat)
    (net net' : Net ι) : Prop where
  reaches : Reaches deployment index net net'
  now : net'.now = net.now
  posts : net'.posts = net.posts
  master : net'.master = net.master
  masterPc : net'.masterPc = net.masterPc
  air : net'.air = net.air
  slave :
    net'.slave index =
      Slave.statements (deployment.board index)
        (deployment.slaveClock index net.now) draw count
        (net.slave index)

theorem exists_replying
    (index : ι)
    (draw : Fin 4)
    (net : Net ι)
    (hTest : (net.slave index).pc = .test)
    (hFlag : (net.slave index).receiveflag = true)
    {count : Nat}
    (hCount : count ≤ 20) :
    ∃ net',
      Replying deployment index draw count net net' := by
  induction count with
  | zero =>
      exact
        ⟨net, Reaches.refl index net, rfl, rfl, rfl, rfl,
          rfl, rfl⟩
  | succ count ih =>
      rcases ih (by omega) with ⟨middle, hMiddle⟩
      have hPlace :=
        Slave.place_statements (deployment.board index)
          (deployment.slaveClock index net.now) draw hTest
          hFlag (by omega : count ≤ 20)
      have hEarly : (middle.slave index).pc ≠ .endPacket := by
        intro hEnd
        rw [← hMiddle.slave, hEnd, Slave.Pc.place] at hPlace
        omega
      refine
        ⟨advance deployment middle index draw,
          hMiddle.reaches.trans
            (Reaches.step middle (.slave index draw) rfl),
          hMiddle.now, hMiddle.posts, hMiddle.master,
          hMiddle.masterPc, ?_, ?_⟩
      · rw [← hMiddle.air]
        exact if_neg hEarly
      · rw [(advance_slave deployment middle index draw).1,
          hMiddle.slave, hMiddle.now, Slave.statements_succ]

------------------------------------------------------------
-- The Reading
------------------------------------------------------------

/- The slave has its request, and its clock is right. -/
structure Asked
    (index : ι)
    (net net' : Net ι) : Prop where
  now : net'.now = net.now
  posts : net'.posts = net.posts
  lastSendTime :
    net'.master.lastSendTime =
      deployment.masterClock net.now
  masterPc : net'.masterPc = .onreceive
  inLog : net'.air.InLog
  pc : (net'.slave index).pc = .test
  receiveflag : (net'.slave index).receiveflag = true
  syncMillis :
    Slave.syncMillis (net'.slave index)
        (deployment.slaveClock index net.now) =
      deployment.masterClock net.now

/- A slave that waits hears the request of the master. -/
theorem exists_asked
    {index : ι}
    (hPc : net.masterPc = .getDataFromServer)
    (hPolled :
      Master.polled deployment.config net.master =
        (deployment.board index).node)
    (hIdle : Slave.Idle (net.slave index))
    (hInLog : net.air.InLog) :
    ∃ net',
      Reaches deployment index net net' ∧
        Asked deployment index net net' := by
  rcases exists_requested deployment index hPc with
    ⟨middle, hReaches, hRequested⟩
  have hOffered :
      middle.air.offered (.slave index)
          net.air.log.length =
        some
          (.master
            (Master.statusRequest deployment.config
              net.master (deployment.masterClock net.now))
            none ⟨net.now, 0⟩) := by
    rw [hRequested.air]
    exact
      Medium.offered_transmit hInLog
        (by simp [Transmission.sender])
  have hHears :
      Reaches deployment index middle
        (interrupt deployment middle index
          net.air.log.length) :=
    Reaches.step middle
      (.interrupt index net.air.log.length) rfl
  refine ⟨_, hReaches.trans hHears, ?_⟩
  rcases Slave.onReceive_addressed (deployment.board index)
      (net.slave index)
      (deployment.slaveClock index net.now)
      (Master.statusRequest deployment.config net.master
        (deployment.masterClock net.now)) hPolled with
    ⟨hTest, hFlag, hSync⟩
  rw [interrupt, hOffered]
  constructor
  case now => exact hRequested.now
  case posts => exact hRequested.posts
  case lastSendTime => exact hRequested.lastSendTime
  case masterPc => exact hRequested.masterPc
  case inLog =>
    apply Medium.InLog.hear
    rw [hRequested.air]
    exact hInLog.transmit _
  all_goals
    simp only [Function.update_self, hRequested.slave,
      hRequested.now, Transmission.frame]
  · rw [hTest]
    exact hIdle.1
  · exact hFlag
  · rw [Slave.syncMillis, hSync, sub_sub_cancel]
    rfl

/- A master that listens posts the telemetry on the air. -/
theorem exists_posted
    (net : Net ι)
    {index : ι}
    {air : Medium Nat (@Transmission.sender ι)}
    {packet : Slave.StructMessage}
    {stamp : Stamp}
    (hPc : net.masterPc = .onreceive)
    (hOpen :
      Master.listening net.master
        (deployment.masterClock net.now) = true)
    (hAir :
      net.air = air.transmit (.slave index packet stamp))
    (hInLog : air.InLog)
    (hMine : packet.RXnodeID = Master.node) :
    ∃ net',
      Reaches deployment index net net' ∧
        net'.now = net.now ∧
        net'.posts = net.posts ++ [packet.asMaster.record] ∧
        net'.air.log = net.air.log := by
  have hOffered :
      net.air.offered .master air.log.length =
        some (.slave index packet stamp) := by
    rw [hAir]
    exact
      Medium.offered_transmit hInLog
        (by simp [Transmission.sender])
  have hStep :
      step deployment net
          (.master failedGet air.log.length) =
        listen deployment net air.log.length := by
    rw [step, hPc]
  have hRecord :
      (Master.onreceive net.master
          (some packet.frame)).2 =
        some packet.asMaster.record := by
    have hAddress :
        packet.asMaster.RXnodeID = Master.node := hMine
    rw [Master.onreceive_record,
      PacketBuffer.masterPacket_receive_slave,
      Master.StructMessage.posted?, if_pos hAddress]
  refine
    ⟨_,
      Reaches.step net (.master failedGet air.log.length)
        rfl, ?_⟩
  rw [hStep, listen, if_pos hOpen, hOffered,
    Option.map_some, Transmission.frame]
  simp [hRecord]

/- The slave answers, and the master posts it. -/
theorem exists_reading
    {index : ι}
    {middle : Net ι}
    (hAsked : Asked deployment index net middle) :
    ∃ net' packet stamp,
      Reaches deployment index middle net' ∧
        net'.now = net.now ∧
        net'.posts = net.posts ++ [packet.asMaster.record] ∧
        .slave index packet stamp ∈ net'.air.log ∧
        packet.timeStamp =
          deployment.masterClock net.now := by
  rcases exists_replying deployment index (Fin.last 3)
      middle hAsked.pc hAsked.receiveflag
      (le_refl 20) with
    ⟨ready, hReady⟩
  have hPlace :=
    Slave.place_statements (deployment.board index)
      (deployment.slaveClock index middle.now) (Fin.last 3)
      hAsked.pc hAsked.receiveflag (le_refl 20)
  have hFifo :=
    Slave.reply_fifo (deployment.board index)
      (deployment.slaveClock index middle.now) (Fin.last 3)
      hAsked.pc hAsked.receiveflag
  rw [← hReady.slave] at hPlace hFifo
  rw [hAsked.now, hAsked.syncMillis] at hFifo
  have hEnd : (ready.slave index).pc = .endPacket :=
    Slave.Pc.place_injective hPlace
  have hAir :
      (advance deployment ready index (Fin.last 3)).air =
        ready.air.transmit
          (.slave index (ready.slave index).fifo
            (ready.slaveStamp index)) :=
    if_pos hEnd
  have hOpen :
      Master.listening ready.master
          (deployment.masterClock ready.now) =
        true := by
    rw [hReady.master, hReady.now, hAsked.now,
      Master.listening, hAsked.lastSendTime, sub_self]
    decide
  have hInLog : ready.air.InLog := by
    rw [hReady.air]
    exact hAsked.inLog
  rcases exists_posted deployment
      (advance deployment ready index (Fin.last 3))
      (hReady.masterPc.trans hAsked.masterPc) hOpen hAir
      hInLog hFifo.2 with
    ⟨net', hHears, hNow, hPosts, hLog⟩
  refine
    ⟨net', (ready.slave index).fifo, ready.slaveStamp index,
      ?_, ?_, ?_, ?_, hFifo.1⟩
  · exact
      (hReady.reaches.trans
        (Reaches.step ready (.slave index (Fin.last 3))
          rfl)).trans hHears
  · exact hNow.trans (hReady.now.trans hAsked.now)
  · rw [hPosts, ← hAsked.posts, ← hReady.posts]
    rfl
  · rw [hLog, hAir]
    simp

------------------------------------------------------------
-- Every Run
------------------------------------------------------------

variable (events : List (Event ι))

/- What a step of the network is for the medium. -/
theorem step_inLog
    (event : Event ι)
    (hInLog : net.air.InLog) :
    (step deployment net event).air.InLog := by
  cases event with
  | tick elapsed => exact hInLog
  | master got position =>
      unfold step
      cases net.masterPc with
      | getDataFromServer =>
          rw [fetch_air]
          exact hInLog
      | send => exact hInLog.transmit _
      | lastSendTime => exact hInLog
      | onreceive =>
          simp only
          unfold listen
          split
          · exact hInLog.hear _ _ _
          · exact hInLog
  | slave index draw =>
      unfold step advance
      simp only
      split
      · exact hInLog.transmit _
      · exact hInLog
  | interrupt index position =>
      unfold step interrupt
      simp only
      split
      · exact hInLog
      · exact hInLog.hear _ _ _

theorem run_inLog :
    ((network deployment).run events).air.InLog := by
  apply
    Machine.run_invariant (network deployment)
      (P := fun net => net.air.InLog)
  · exact Medium.inLog_silent
  · intro net event hInLog
    exact step_inLog deployment event hInLog

/- The index of the table is inside it. -/
theorem run_index_lt :
    ((network deployment).run events).master.i.toNat <
      deployment.config.slaveNode.length := by
  rcases run_master deployment events with ⟨steps, hRuns⟩
  rw [hRuns.state]
  exact Master.index_lt deployment.config steps

/- What a state of a run leads to is one of a longer run. -/
theorem Reaches.exists_run
    {deployment : Deployment ι}
    {events : List (Event ι)}
    {index : ι}
    {net' : Net ι}
    (hReaches :
      Reaches deployment index
        ((network deployment).run events) net') :
    ∃ later,
      (∀ event ∈ later, Unaided index event) ∧
        (network deployment).run (events ++ later) =
          net' := by
  rcases hReaches with ⟨later, hUnaided, hRun⟩
  refine ⟨later, hUnaided, ?_⟩
  rw [Machine.run_append, hRun]

/-
  From every state of every run, a slave in the table can
  have a reading posted that was taken since.
-/
theorem run_recovers
    {index : ι}
    (hPolled :
      (deployment.board index).node ∈
        deployment.config.slaveNode) :
    ∃ later record,
      (∀ event ∈ later, Unaided index event) ∧
        ((network deployment).run
            (events ++ later)).posts =
          ((network deployment).run events).posts ++
            [record] ∧
        SampleOf deployment index record ∧
        ∃ taken,
          ((network deployment).run events).now ≤ taken ∧
            taken ≤
              ((network deployment).run
                (events ++ later)).now ∧
            record.timeStamp =
              deployment.masterClock taken := by
  -- to the next pass of the master
  rcases leads_fetching deployment index
      ((network deployment).run events) with
    ⟨fetching, hFirst, hFetches⟩
  have hInside :
      fetching.master.i.toNat <
        deployment.config.slaveNode.length := by
    rcases hFirst.reaches.exists_run with ⟨later, _, rfl⟩
    exact run_index_lt deployment _
  -- to the turn of the slave, while it finishes its reply
  rcases leads_turn deployment index hFetches hInside
      hPolled with
    ⟨turn, hSecond, hTurn, hNext⟩
  rcases leads_idle deployment index turn with
    ⟨waiting, hThird, hIdle, hMaster, hPc⟩
  have hLeads := (hFirst.trans hSecond).trans hThird
  have hInLog : waiting.air.InLog := by
    rcases hLeads.reaches.exists_run with ⟨later, _, rfl⟩
    exact run_inLog deployment _
  -- its request, and its answer
  rcases exists_asked deployment (hPc.trans hTurn)
      (by rw [hMaster, hNext]) hIdle hInLog with
    ⟨middle, hAsks, hAsked⟩
  rcases exists_reading deployment hAsked with
    ⟨last, packet, stamp, hAnswers, hNow, hPosts, hLog,
      hTime⟩
  rcases ((hLeads.reaches.trans hAsks).trans
      hAnswers).exists_run with
    ⟨later, hUnaided, rfl⟩
  refine
    ⟨later, packet.asMaster.record, hUnaided, ?_,
      sampleOf_of_mem_log deployment _ hLog, waiting.now,
      hLeads.now, hNow.ge, hTime⟩
  rw [hPosts, hLeads.posts]

/- Slave 9 can be heard after the reply of slave 8. -/
theorem oneReply_recovers :
    ∃ later record,
      (∀ event ∈ later, Unaided TwoSlaves.slave9 event) ∧
        ((network twoSlaves).run (oneReply ++ later)).posts =
          ((network twoSlaves).run oneReply).posts ++
            [record] ∧
        SampleOf twoSlaves .slave9 record ∧
        ∃ taken,
          ((network twoSlaves).run oneReply).now ≤ taken ∧
            taken ≤
              ((network twoSlaves).run
                (oneReply ++ later)).now ∧
            record.timeStamp =
              twoSlaves.masterClock taken := by
  exact run_recovers twoSlaves oneReply (by decide)

end Network

end LoRaTelemetry
