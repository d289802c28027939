import LoRaTelemetry.Master.Commands
import LoRaTelemetry.Network.Telemetry

/-
  Who decides the LED of a slave in the closed system: the
  server commands for it that reached it, and among these the
  one with the highest server message number.

  Commands go on the air in the order of their numbers, and a
  repeated number is the same command sent again. Deliveries
  keep that order, so the last command executed is the
  highest.

  Main declarations:
    * `Network.Authority`
    * `Network.run_authority`
    * `Network.commandsFor`
    * `Network.LedAuthority`
    * `Network.run_ledAuthority`
-/

------------------------------------------------------------
-- Orders on the Air
------------------------------------------------------------

namespace LoRaTelemetry

/- The `ledStatus` of a response, as a slave decodes it. -/
def Master.Body.ledSeen (body : Master.Body) : Byte :=
  body.ledStatus.setWidth 8

/- The server response that a transmission carries out. -/
def Transmission.order?
    {ι : Type} :
    Transmission ι → Option Master.Body
| .master _ order _ => order
| .slave _ _ _ => none

namespace Network

open Master (serverMsgID)

variable {ι : Type} [DecidableEq ι]
variable (deployment : Deployment ι) (net : Net ι)

/-
  What a packet of the master is: a command that carries out
  its order, a status request, or the zero packet.
-/
def Carries
    (packet : Master.StructMessage) :
    Option Master.Body → Prop
| some body => Master.CarriesOut body packet
| none =>
    packet.msgType = msgTypeCheckStatus ∨
      packet.RXnodeID = 0

/- The orders on the air, in the order of transmission. -/
def orders (net : Net ι) : List Master.Body :=
  net.air.log.filterMap Transmission.order?

/- A lower server message number, or the same command. -/
def Precedes (first second : Master.Body) : Prop :=
  serverMsgID first < serverMsgID second ∨ first = second

/-
  The watermark bounds all orders on the air and the one in
  the transmit packet, and the latter is the last of them.
-/
structure Authority (net : Net ι) : Prop where
  carries :
    Carries net.master.telemtryPacketTX net.order
  carried :
    ∀ packet order stamp,
      .master packet order stamp ∈ net.air.log →
        Carries packet order
  bounded :
    ∀ body ∈ orders net,
      serverMsgID body ≤ net.master.lastServerMsgID.toInt
  current :
    ∀ body, net.order = some body →
      serverMsgID body ≤
          net.master.lastServerMsgID.toInt ∧
        ∀ earlier ∈ orders net, Precedes earlier body
  ranked : (orders net).Pairwise Precedes

------------------------------------------------------------
-- The Invariant
------------------------------------------------------------

variable {net}

/- A slave's telemetry carries no order. -/
theorem orders_of_same
    {net' : Net ι}
    (hSame : SameMaster net' net) :
    orders net' = orders net := by
  rcases hSame.log with ⟨telemetry, hLog, hSlaves⟩
  have hNone :
      telemetry.filterMap Transmission.order? = [] := by
    rw [List.filterMap_eq_nil_iff]
    intro transmission hMember
    cases hTransmission : transmission with
    | master packet order stamp =>
        rw [hTransmission] at hMember
        exact absurd rfl (hSlaves _ hMember)
    | slave index packet stamp => rfl
  rw [orders, hLog, List.filterMap_append, hNone,
    List.append_nil, orders]

/- Steps that leave the master's packet and orders alone. -/
theorem Authority.of_same
    {net' : Net ι}
    (hAuthority : Authority net)
    (hSame : SameMaster net' net) :
    Authority net' := by
  have hOrders := orders_of_same hSame
  rcases hAuthority with ⟨h1, h2, h3, h4, h5⟩
  constructor
  · rw [hSame.packet, hSame.order]
    exact h1
  · intro packet order stamp hLog
    rcases hSame.log with ⟨telemetry, hNew, hSlaves⟩
    rw [hNew, List.mem_append] at hLog
    rcases hLog with hOld | hTelemetry
    · exact h2 packet order stamp hOld
    · exact absurd rfl (hSlaves _ hTelemetry)
  · rw [hOrders, hSame.watermark]
    exact h3
  · rw [hSame.order, hOrders, hSame.watermark]
    exact h4
  · rw [hOrders]
    exact h5

/-
  A refused GET keeps everything, a new command is above
  every order so far, and a status request is no order.
-/
theorem fetch_authority
    (got : Master.GetOutcome)
    (hAuthority : Authority net) :
    Authority (fetch deployment net got) := by
  rcases Master.getDataFromServer_cases deployment.config
      net.master got (deployment.masterClock net.now) with
    ⟨_, hCase⟩ | ⟨hNewer, hCase⟩ | ⟨_, _, hCase⟩
  · apply hAuthority.of_same
    apply SameMaster.of_log <;> simp [fetch, hCase]
  · have hBelow :
        ∀ body ∈ orders net,
          serverMsgID body < serverMsgID got.body := by
      intro body hBody
      have hBound := hAuthority.bounded body hBody
      have hAbove := hNewer.2
      unfold serverMsgID at hBound ⊢
      omega
    simp only [fetch, hCase]
    constructor
    · exact Master.commandPacket_carriesOut _ _ _
    · exact hAuthority.carried
    · intro body hBody
      exact (hBelow body hBody).le
    · rintro body ⟨⟩
      exact
        ⟨le_rfl, fun earlier hEarlier =>
          Or.inl (hBelow earlier hEarlier)⟩
    · exact hAuthority.ranked
  · simp only [fetch, hCase]
    constructor
    · exact Or.inl rfl
    · exact hAuthority.carried
    · exact hAuthority.bounded
    · rintro body ⟨⟩
    · exact hAuthority.ranked

/- The packet on the air carries the current order. -/
theorem transmit_authority
    (hAuthority : Authority net) :
    Authority (transmit net) := by
  have hOrders :
      orders (transmit net) =
        orders net ++ net.order.toList := by
    cases hOrder : net.order <;>
      simp [orders, transmit, Transmission.order?, hOrder]
  rcases hAuthority with ⟨h1, h2, h3, h4, h5⟩
  constructor
  · exact h1
  · intro packet order stamp hLog
    rw [transmit, Medium.log_transmit, List.mem_append,
      List.mem_singleton] at hLog
    rcases hLog with hOld | hNew
    · exact h2 packet order stamp hOld
    · cases hNew
      exact h1
  · rw [hOrders]
    intro body hBody
    rcases List.mem_append.mp hBody with hOld | hNew
    · exact h3 body hOld
    · rw [Option.mem_toList] at hNew
      exact (h4 body hNew).1
  · rw [hOrders]
    intro body hOrder
    refine ⟨(h4 body hOrder).1, ?_⟩
    intro earlier hEarlier
    rcases List.mem_append.mp hEarlier with hOld | hNew
    · exact (h4 body hOrder).2 earlier hOld
    · rw [Option.mem_toList] at hNew
      have hSame : some earlier = some body := by
        exact hNew.symm.trans hOrder
      exact Or.inr (Option.some.inj hSame)
  · rw [hOrders, List.pairwise_append]
    refine ⟨h5, ?_, ?_⟩
    · cases net.order <;> simp
    · intro earlier hEarlier body hBody
      rw [Option.mem_toList] at hBody
      exact (h4 body hBody).2 earlier hEarlier

theorem step_authority
    (event : Event ι)
    (hAuthority : Authority net) :
    Authority (step deployment net event) := by
  rcases step_master deployment net event with
    ⟨got, position, _, _, hStep⟩ |
      ⟨got, position, _, _, hStep⟩ | ⟨hSame, _⟩
  · rw [hStep]
    exact fetch_authority deployment got hAuthority
  · rw [hStep]
    exact transmit_authority hAuthority
  · exact hAuthority.of_same hSame

/- The invariant holds along every run. -/
theorem run_authority
    (events : List (Event ι)) :
    Authority ((network deployment).run events) := by
  apply Machine.run_invariant
  · constructor
    · exact Or.inr rfl
    · simp [Net.init]
    · simp [orders, Net.init]
    · simp [Net.init]
    · simp [orders, Net.init]
  · intro net event hAuthority
    exact step_authority deployment event hAuthority

------------------------------------------------------------
-- Commands That Reached a Slave
------------------------------------------------------------

variable (net)

/- The server commands for a slave that reached it. -/
def commandsFor (index : ι) : List Master.Body :=
  (((net.heard index).map Prod.fst).filterMap
    Transmission.order?).filter fun body =>
      body.nodeID = (deployment.board index).node

/-
  The LED pin shows what `setup` wrote, or the negation, as
  the slave negates, of the `ledStatus` of the command with
  the highest server message number among those that reached
  the slave.
-/
structure LedAuthority (index : ι) : Prop where
  initial :
    commandsFor deployment net index = [] →
      (net.slave index).led = true
  highest :
    ∀ body ∈ commandsFor deployment net index,
      (∀ other ∈ commandsFor deployment net index,
          serverMsgID other ≤ serverMsgID body) →
        (net.slave index).led =
          (deployment.board index).negated body.ledSeen

/- The commands that reached a slave come in their rank. -/
theorem commandsFor_ranked
    (events : List (Event ι))
    (index : ι) :
    (commandsFor deployment
      ((network deployment).run events) index).Pairwise
        Precedes := by
  have hRanked :=
    (run_authority deployment events).ranked
  have hHeard :=
    Medium.heard_sublist_log
      ((network deployment).run events).air (.slave index)
  have hOrders := hHeard.filterMap Transmission.order?
  exact hRanked.sublist (List.filter_sublist.trans hOrders)

/-
  A reception makes a slave execute a command exactly when
  it carries an order for that slave, and then the LED
  follows that order.
-/
theorem executes_iff
    (hNonzero :
      ∀ index, (deployment.board index).node ≠ 0)
    (events : List (Event ι))
    {index : ι}
    {transmission : Transmission ι}
    (hLog :
      transmission ∈
        ((network deployment).run events).air.log) :
    (if Slave.Executes (deployment.board index)
          (Slave.decoded transmission.frame) then
        some (Slave.decoded transmission.frame).ledStatus
      else
        none) =
      (transmission.order?.filter fun body =>
        body.nodeID =
          (deployment.board index).node).map
            Master.Body.ledSeen := by
  cases transmission with
  | slave other packet stamp =>
      have hAddress :=
        (telemetry_of_mem_log deployment events hLog).2.1
      have hForeign :
          packet.RXnodeID ≠
            (deployment.board index).node := by
        rw [hAddress]
        exact (deployment.notMaster index).symm
      simp [Transmission.frame, Transmission.order?,
        Slave.Executes, hForeign]
  | master packet order stamp =>
      have hCarries :=
        (run_authority deployment events).carried packet
          order stamp hLog
      cases order with
      | none =>
          rcases hCarries with hRequest | hZero
          · simp [Transmission.frame, Transmission.order?,
              Slave.Executes,
              Master.StructMessage.asSlave, hRequest]
          · have hForeign :
                packet.RXnodeID ≠
                  (deployment.board index).node := by
              rw [hZero]
              exact (hNonzero index).symm
            simp [Transmission.frame, Transmission.order?,
              Slave.Executes,
              Master.StructMessage.asSlave, hForeign]
      | some body =>
          have hCommand :
              packet.msgType ≠ msgTypeCheckStatus := by
            rw [hCarries.msgType]
            decide
          by_cases hMine :
              body.nodeID = (deployment.board index).node
          · simp [Transmission.frame, Transmission.order?,
              Slave.Executes, hCommand,
              Master.StructMessage.asSlave,
              hCarries.RXnodeID, hCarries.ledStatus, hMine,
              Master.Body.ledSeen]
          · simp [Transmission.frame, Transmission.order?,
              Slave.Executes, Master.StructMessage.asSlave,
              hCarries.RXnodeID, hMine]

/- The LED values executed are those of the commands. -/
theorem executed_ledStatus
    (hNonzero :
      ∀ index, (deployment.board index).node ≠ 0)
    (events : List (Event ι))
    {index : ι}
    {steps : List Slave.Event}
    (hRuns :
      SlaveRuns deployment ((network deployment).run events)
        index steps) :
    (Slave.executed (deployment.board index) steps).map
        Slave.StructMessage.ledStatus =
      (commandsFor deployment
        ((network deployment).run events) index).map
          Master.Body.ledSeen := by
  rw [Slave.executed, Slave.heard, hRuns.received,
    commandsFor, ← List.filterMap_eq_filter,
    List.map_filterMap, List.filter_filterMap,
    List.map_filterMap, List.filterMap_map,
    List.filterMap_map, List.filterMap_map]
  apply List.filterMap_congr
  intro delivery hHeard
  have hOne :=
    @executes_iff _ _ deployment hNonzero events index _
      (Medium.mem_log_of_mem_heard _ hHeard)
  simp only [Function.comp_apply]
  rw [← hOne, Option.guard]
  simp only [decide_eq_true_eq]
  split <;> rfl

/- For every run, on nonzero node ids. -/
theorem run_ledAuthority
    (hNonzero :
      ∀ index, (deployment.board index).node ≠ 0)
    (events : List (Event ι))
    (index : ι) :
    LedAuthority deployment
      ((network deployment).run events) index := by
  rcases run_slave deployment events index with
    ⟨steps, hRuns⟩
  have hLed :
      (((network deployment).run events).slave index).led =
        (deployment.board index).negated
          (((commandsFor deployment
              ((network deployment).run events) index).map
            Master.Body.ledSeen).getLastD 0) := by
    rw [hRuns.state, Slave.run_led _ steps hRuns.whole,
      Slave.lastExecuted,
      ← executed_ledStatus deployment hNonzero events hRuns]
    have hLast :=
      @List.getLastD_map _ _ Slave.StructMessage.ledStatus
        (Slave.executed (deployment.board index) steps) {}
    rw [← hLast]
  have hRanked := commandsFor_ranked deployment events index
  constructor
  · intro hNone
    rw [hLed, hNone]
    exact (deployment.board index).negated_zero
  · intro body hBody hHighest
    rw [hLed]
    rcases List.eq_nil_or_concat'
        (commandsFor deployment
          ((network deployment).run events) index) with
      hNone | ⟨earlier, last, hSplit⟩
    · rw [hNone] at hBody
      cases hBody
    · rw [hSplit] at hRanked hBody hHighest ⊢
      have hLast :=
        Lists.eq_last_of_pairwise hRanked hBody hHighest
      rw [List.map_append, List.map_singleton,
        List.getLastD_concat, hLast]

------------------------------------------------------------
-- One Command
------------------------------------------------------------

/- A response that orders slave 8 to switch its LED. -/
def ledOrder : Master.GetOutcome :=
  { httpCode := 200
    body :=
      some
        { msgID := some 1
          nodeID := some 8
          ledStatus := some 1 } }

/- The master routes the command and slave 8 receives it. -/
def oneCommand : List (Event TwoSlaves) :=
  List.replicate 3 (.master ledOrder 0) ++
    [.interrupt .slave8 0]

/- The hypothesis can be met, with a command executed. -/
theorem oneCommand_ledAuthority :
    (((network twoSlaves).run oneCommand).slave
        .slave8).led =
        false ∧
      LedAuthority twoSlaves
        ((network twoSlaves).run oneCommand) .slave8 := by
  refine ⟨by decide +kernel, ?_⟩
  have hNonzero :
      ∀ index, (twoSlaves.board index).node ≠ 0 := by
    intro index
    cases index <;> decide
  exact
    run_ledAuthority twoSlaves hNonzero oneCommand .slave8

end Network

end LoRaTelemetry
