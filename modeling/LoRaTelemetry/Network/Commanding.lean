import LoRaTelemetry.Master.Commands
import LoRaTelemetry.Network.Recovery
import LoRaTelemetry.Network.Requests

/-
  When the server can still switch an LED: from every state
  of every run and for each slave, until it has used up its
  message numbers. From then on the master builds no command.

  Main declarations:
    * `Network.commandsSince`
    * `Network.Switched`
    * `Network.switchOrder`
    * `Network.commandsSince_of_exhausted`
    * `Network.exists_switched`
    * `Network.switched_iff`
-/

------------------------------------------------------------
-- Commands to Come
------------------------------------------------------------

namespace LoRaTelemetry

namespace Network

open Master (failedGet serverMsgID)

variable {ι : Type} [DecidableEq ι]
variable (deployment : Deployment ι)

/- The commands that the master builds from a state on. -/
def commandsSince
    (net : Net ι)
    (later : List (Event ι)) : List Master.StructMessage :=
  ((builder deployment).traceFrom net later).filter
    fun packet => packet.msgType = msgTypeCommand

/-
  The last frame that a slave has received is a command that
  was built since some state, and the LED shows the level.
-/
structure Switched
    (index : ι)
    (level : Bool)
    (net : Net ι)
    (later : List (Event ι)) : Prop where
  command :
    ∃ packet order stamp time,
      packet ∈ commandsSince deployment net later ∧
        (((network deployment).runFrom net
            later).heard index).getLast? =
          some (.master packet order stamp, time)
  led :
    (((network deployment).runFrom net
      later).slave index).led = level

theorem commandsSince_append
    (net : Net ι)
    (first second : List (Event ι)) :
    commandsSince deployment net (first ++ second) =
      commandsSince deployment net first ++
        commandsSince deployment
          ((network deployment).runFrom net first)
          second := by
  rw [commandsSince, Machine.traceFrom_append,
    List.filter_append]
  rfl

------------------------------------------------------------
-- No Number Left
------------------------------------------------------------

/- The number of the last command only goes up. -/
theorem step_lastServerMsgID_le
    (net : Net ι)
    (event : Event ι) :
    net.master.lastServerMsgID.toInt ≤
      (step deployment net
        event).master.lastServerMsgID.toInt := by
  rcases step_master deployment net event with
    ⟨got, position, rfl, _, hStep⟩ |
      ⟨got, position, _, _, hStep⟩ | ⟨hSame, _⟩
  · rw [hStep, fetch_master]
    rcases Master.getDataFromServer_cases deployment.config
        net.master got (deployment.masterClock net.now) with
      ⟨_, hCase⟩ | ⟨hNewer, hCase⟩ | ⟨_, _, hCase⟩
    · rw [hCase]
    · rw [hCase]
      exact hNewer.2.le
    · rw [hCase]
      exact le_rfl
  · rw [hStep]
    exact le_rfl
  · rw [hSame.watermark]

/- A command takes a number above the last one. -/
theorem lastServerMsgID_lt_of_command
    {net : Net ι}
    {event : Event ι}
    {packet : Master.StructMessage}
    (hBuilt : built? deployment net event = some packet)
    (hCommand : packet.msgType = msgTypeCommand) :
    net.master.lastServerMsgID.toInt < 2 ^ 31 - 1 := by
  cases event with
  | tick elapsed => cases hBuilt
  | slave index draw => cases hBuilt
  | interrupt index position => cases hBuilt
  | master got position =>
      simp only [built?] at hBuilt
      split at hBuilt
      · rcases Master.getDataFromServer_cases
            deployment.config net.master got
            (deployment.masterClock net.now) with
          ⟨_, hCase⟩ | ⟨hNewer, _⟩ | ⟨_, _, hCase⟩
        · rw [hCase] at hBuilt
          cases hBuilt
        · have hRange :=
            BitVec.toInt_lt (x := got.body.msgID)
          exact lt_of_lt_of_le hNewer.2 (by omega)
        · rw [hCase, Option.map_some,
            Option.some.injEq] at hBuilt
          subst hBuilt
          cases hCommand
      · cases hBuilt

/- Once the largest number is used, no command is built. -/
theorem commandsSince_of_exhausted
    {net : Net ι}
    (hUsed :
      ¬ net.master.lastServerMsgID.toInt < 2 ^ 31 - 1)
    (later : List (Event ι)) :
    commandsSince deployment net later = [] := by
  induction later generalizing net with
  | nil => rfl
  | cons event later ih =>
      have hStill :=
        step_lastServerMsgID_le deployment net event
      have hRest :
          commandsSince deployment
            (step deployment net event) later = [] :=
        ih (by omega)
      rw [commandsSince, Machine.traceFrom,
        List.filter_append, List.append_eq_nil_iff]
      refine ⟨?_, hRest⟩
      rw [List.filter_eq_nil_iff]
      intro packet hPacket hCommand
      exact
        hUsed
          (lastServerMsgID_lt_of_command deployment
            (Option.mem_toList.mp hPacket)
            (of_decide_eq_true hCommand))

------------------------------------------------------------
-- A Number Left
------------------------------------------------------------

/- A response that switches the LED of a slave. -/
def switchOrder
    (node : CInt)
    (level : Bool)
    (top : CInt) : Master.GetOutcome :=
  { httpCode := Master.httpCodeOk
    body :=
      some
        { msgID := some (BitVec.ofInt 32 (top.toInt + 1))
          nodeID := some node
          ledStatus := some (if level then 0 else 1) } }

/- It is newer, where there is a number left. -/
theorem serverMsgID_switchOrder
    (node : CInt)
    (level : Bool)
    {top : CInt}
    (hRoom : top.toInt < 2 ^ 31 - 1) :
    serverMsgID (switchOrder node level top).body =
      top.toInt + 1 := by
  have hLeast := BitVec.le_toInt top
  apply BitVec.toInt_ofInt_eq_self <;> omega

/- Failing GETs leave the number of the last command. -/
theorem step_lastServerMsgID
    {index : ι}
    (net : Net ι)
    {event : Event ι}
    (hUnaided : Unaided index event) :
    (step deployment net event).master.lastServerMsgID =
      net.master.lastServerMsgID := by
  rcases step_master deployment net event with
    ⟨got, position, rfl, _, hStep⟩ |
      ⟨got, position, _, _, hStep⟩ | ⟨hSame, _⟩
  · have hFailed : got = failedGet := hUnaided
    rw [hStep, fetch_master, hFailed]
    simp [Master.getDataFromServer, failedGet,
      Master.pktBuild]
  · rw [hStep]
    rfl
  · exact hSame.watermark

theorem Reaches.lastServerMsgID
    {deployment : Deployment ι}
    {index : ι}
    {net net' : Net ι}
    (hReaches : Reaches deployment index net net') :
    net'.master.lastServerMsgID =
      net.master.lastServerMsgID := by
  rcases hReaches with ⟨later, hUnaided, rfl⟩
  induction later using List.reverseRecOn with
  | nil => rfl
  | append_singleton later event ih =>
      rw [Machine.runFrom_append]
      have hStep :=
        step_lastServerMsgID deployment
          ((network deployment).runFrom net later)
          (hUnaided event (by simp))
      refine hStep.trans (ih ?_)
      intro other hOther
      exact hUnaided other (List.mem_append_left _ hOther)

------------------------------------------------------------
-- A Command on Its Way
------------------------------------------------------------

/- What a newer command makes the master build. -/
theorem getDataFromServer_switchOrder
    (config : Master.Config)
    (state : Master.State)
    (node : CInt)
    (level : Bool)
    (now : ULong)
    (hRoom : state.lastServerMsgID.toInt < 2 ^ 31 - 1) :
    Master.getDataFromServer config state
        (switchOrder node level state.lastServerMsgID) now =
      (Master.commandBuild state
          (switchOrder node level
            state.lastServerMsgID).body now,
        some
          ⟨Master.commandPacket state
              (switchOrder node level
                state.lastServerMsgID).body now,
            some
              (switchOrder node level
                state.lastServerMsgID).body⟩) := by
  have hNewer :
      (switchOrder node level
        state.lastServerMsgID).Newer
          state.lastServerMsgID := by
    have hNumber :=
      serverMsgID_switchOrder node level hRoom
    rw [serverMsgID] at hNumber
    constructor
    · rfl
    · omega
  rcases Master.getDataFromServer_cases config state
      (switchOrder node level state.lastServerMsgID)
      now with
    ⟨hRefused, _⟩ | ⟨_, hCase⟩ | ⟨_, hOld, _⟩
  · exact absurd rfl hRefused.2
  · exact hCase
  · exact absurd hNewer hOld

/- A command sets the level that it asks for. -/
theorem led_of_command
    (board : Slave.Board)
    (state : Slave.State)
    (now : ULong)
    {frame : Frame}
    {level : Bool}
    (hReaction :
      (Slave.onReceive board state now frame).2 =
        some (.command level)) :
    (Slave.onReceive board state now frame).1.led =
      level := by
  have hFlags :=
    Slave.onReceive_flags board state now frame
  rw [hReaction] at hFlags
  exact hFlags.2

/- What the command makes a slave do. -/
theorem onReceive_switchOrder
    (board : Slave.Board)
    (state : Slave.State)
    (now : ULong)
    (master : Master.State)
    (level : Bool)
    (top : CInt)
    (built : ULong) :
    (Slave.onReceive board state now
        (Master.commandPacket master
          (switchOrder board.node level top).body
          built).frame).1.led =
      level := by
  have hWhole :
      structSize ≤
        (Master.commandPacket master
          (switchOrder board.node level top).body
          built).frame.bytes.length := by
    simp [Master.StructMessage.frame]
  have hMine :
      (Master.commandPacket master
          (switchOrder board.node level top).body
          built).asSlave.RXnodeID =
        board.node := by
    rfl
  have hReaction :
      (Slave.onReceive board state now
          (Master.commandPacket master
            (switchOrder board.node level top).body
            built).frame).2 =
        some (.command level) := by
    rw [Slave.onReceive_reaction_of_whole board state now
      hWhole, Slave.decoded_master_frame, Slave.reaction?,
      if_pos hMine]
    cases level with
    | false =>
        exact
          congrArg
            (fun level => some (Slave.Reaction.command level))
            board.negated_one
    | true =>
        exact
          congrArg
            (fun level => some (Slave.Reaction.command level))
            board.negated_zero
  exact led_of_command board state now hReaction

/- The packet of such a command. -/
def switchPacket
    (node : CInt)
    (level : Bool)
    (net : Net ι) : Master.StructMessage :=
  Master.commandPacket net.master
    (switchOrder node level net.master.lastServerMsgID).body
    (deployment.masterClock net.now)

/- The next pass builds it and puts it on the air. -/
theorem exists_commanded
    (node : CInt)
    (level : Bool)
    {net : Net ι}
    (hPc : net.masterPc = .getDataFromServer)
    (hRoom : net.master.lastServerMsgID.toInt < 2 ^ 31 - 1) :
    ∃ before order stamp,
      switchPacket deployment node level net ∈
          commandsSince deployment net before ∧
        ((network deployment).runFrom net before).air =
          net.air.transmit
            (.master (switchPacket deployment node level net)
              order stamp) := by
  have hGot :=
    getDataFromServer_switchOrder deployment.config
      net.master node level
      (deployment.masterClock net.now) hRoom
  refine
    ⟨[.master
        (switchOrder node level
          net.master.lastServerMsgID) 0,
      .master failedGet 0],
      some (switchOrder node level
        net.master.lastServerMsgID).body,
      ⟨net.now, 0⟩, ?_, ?_⟩
  · apply List.mem_filter.mpr
    constructor
    · rw [Machine.traceFrom]
      apply List.mem_append_left
      simp [builder, built?, hPc, hGot, switchPacket]
    · exact decide_eq_true rfl
  · simp only [Machine.runFrom, List.foldl_cons,
      List.foldl_nil, network_step, step, hPc, fetch, hGot]
    rfl

/- It reaches the slave. -/
theorem exists_switched
    (index : ι)
    (level : Bool)
    {net : Net ι}
    (hPc : net.masterPc = .getDataFromServer)
    (hInLog : net.air.InLog)
    (hRoom : net.master.lastServerMsgID.toInt < 2 ^ 31 - 1) :
    ∃ later, Switched deployment index level net later := by
  rcases exists_commanded deployment
      (deployment.board index).node level hPc hRoom with
    ⟨before, order, stamp, hBuilt, hAir⟩
  let packet :=
    switchPacket deployment (deployment.board index).node
      level net
  let middle := (network deployment).runFrom net before
  have hOffered :
      middle.air.offered (.slave index)
          net.air.log.length =
        some (.master packet order stamp) := by
    rw [hAir]
    exact
      Medium.offered_transmit hInLog
        (by simp [Transmission.sender])
  have hLast :
      ((middle.air.hear (.slave index) net.air.log.length
          middle.now).heard (.slave index)).getLast? =
        some
          (.master packet order stamp, middle.now) := by
    rw [Medium.heard_hear, if_pos rfl, hOffered]
    exact List.getLast?_concat
  have hHears :
      (network deployment).runFrom net
          (before ++
            [.interrupt index net.air.log.length]) =
        interrupt deployment middle index
          net.air.log.length := by
    rw [Machine.runFrom_append]
    rfl
  refine
    ⟨before ++ [.interrupt index net.air.log.length], ?_⟩
  constructor
  case command =>
    refine ⟨packet, order, stamp, middle.now, ?_, ?_⟩
    · rw [commandsSince_append]
      exact List.mem_append_left _ hBuilt
    · rw [hHears, interrupt, hOffered]
      exact hLast
  case led =>
    rw [hHears, interrupt, hOffered]
    simp only [Function.update_self, Transmission.frame,
      packet, switchPacket]
    exact onReceive_switchOrder _ _ _ _ _ _ _

/-
  From every state of every run: the LED of a slave can be
  switched by a command yet to be built if and only if there
  is a number left, and if there is none, no command will
  ever be built.
-/
theorem switched_iff
    (events : List (Event ι))
    (index : ι)
    (level : Bool) :
    let net := (network deployment).run events
    let room :=
      net.master.lastServerMsgID.toInt < 2 ^ 31 - 1
    ((∃ later,
        Switched deployment index level net later) ↔
          room) ∧
      ((∃ later,
        commandsSince deployment net later ≠ []) ↔
          room) := by
  intro net room
  have hNone :
      ∀ later,
        commandsSince deployment net later ≠ [] → room := by
    intro later hSome
    by_contra hUsed
    exact
      hSome
        (commandsSince_of_exhausted deployment hUsed later)
  have hBuilt :
      ∀ later,
        Switched deployment index level net later →
          commandsSince deployment net later ≠ [] := by
    intro later hSwitched
    rcases hSwitched.command with
      ⟨packet, _, _, _, hMember, _⟩
    exact List.ne_nil_of_mem hMember
  have hAll :
      room →
        ∃ later,
          Switched deployment index level net later := by
    intro hRoom
    rcases leads_fetching deployment index net with
      ⟨fetching, hLeads, hFetches⟩
    have hKept := hLeads.reaches.lastServerMsgID
    have hInLog : fetching.air.InLog := by
      rcases hLeads.reaches.exists_run with ⟨later, _, rfl⟩
      exact run_inLog deployment _
    rcases exists_switched deployment index level hFetches
        hInLog (by rw [hKept]; exact hRoom) with
      ⟨second, hSwitched⟩
    rcases hLeads.reaches with ⟨first, _, rfl⟩
    rcases hSwitched.command with
      ⟨packet, order, stamp, time, hMember, hLast⟩
    refine
      ⟨first ++ second, ⟨packet, order, stamp, time, ?_, ?_⟩,
        ?_⟩
    · rw [commandsSince_append]
      exact List.mem_append_right _ hMember
    · rw [Machine.runFrom_append]
      exact hLast
    · rw [Machine.runFrom_append]
      exact hSwitched.led
  constructor
  · constructor
    · rintro ⟨later, hSwitched⟩
      exact hNone later (hBuilt later hSwitched)
    · exact hAll
  · constructor
    · rintro ⟨later, hSome⟩
      exact hNone later hSome
    · intro hRoom
      rcases hAll hRoom with ⟨later, hSwitched⟩
      exact ⟨later, hBuilt later hSwitched⟩

end Network

end LoRaTelemetry
