import LoRaTelemetry.Network.Requests
import LoRaTelemetry.Network.Telemetry

/-
  The message number of a reply, and that of the packet of
  the master which it answers.

  The number of a reply is taken from the slave's counter,
  that of a request from the master's. The two agree exactly
  when the slave has sent as many replies as the master has
  built packets, for whichever slaves.

  Main declarations:
    * `Network.Answer`
    * `Network.exists_answer`
    * `Network.MsgIDsSynchronised`
    * `Network.AnswersInStep`
    * `Network.msgIDsSynchronised_iff`
-/

------------------------------------------------------------
-- Replies and Their Requests
------------------------------------------------------------

namespace LoRaTelemetry

namespace Network

variable {ι : Type} [DecidableEq ι]
variable (deployment : Deployment ι)

/- The telemetry that a slave has put on the air. -/
def sentBy
    (net : Net ι)
    (index : ι) : List Slave.StructMessage :=
  net.air.log.filterMap (Transmission.telemetry? index)

/- A packet of the master for a slave. -/
def requestFor?
    (index : ι) :
    Transmission ι → Option Master.StructMessage
| .master packet _ _ =>
    if packet.RXnodeID = (deployment.board index).node then
      some packet
    else
      none
| .slave _ _ _ => none

/-
  The last packet of the master for a slave among those that
  the slave has received.
-/
def lastRequest
    (net : Net ι)
    (index : ι) : Option Master.StructMessage :=
  (((net.heard index).map Prod.fst).filterMap
    (requestFor? deployment index)).getLast?

/-
  A reply in a run, given by the events before the statement
  that assigns its `msgID` and by the events before its
  `endPacket`.
-/
structure Answer
    (index : ι)
    (building sending : List (Event ι)) : Prop where
  numbers :
    (((network deployment).run building).slave index).pc =
      .msgID
  begins :
    ∃ draw,
      building ++ [.slave index draw] <+: sending
  unsent :
    sentBy ((network deployment).run sending) index =
      sentBy ((network deployment).run building) index
  transmits :
    (((network deployment).run sending).slave index).pc =
      .endPacket

------------------------------------------------------------
-- Every Transmission Is an Answer
------------------------------------------------------------

/-
  A step leaves the program counter and the telemetry of a
  slave alone, unless it is the slave's own statement; that
  adds to the telemetry at `endPacket` only.
-/
theorem step_pc
    (net : Net ι)
    (event : Event ι)
    (index : ι) :
    (∃ draw,
      event = .slave index draw ∧
        ((step deployment net event).slave index).pc =
          (net.slave index).pc.next
            (net.slave index).receiveflag ∧
        ((net.slave index).pc ≠ .endPacket →
          sentBy (step deployment net event) index =
            sentBy net index)) ∨
      (((step deployment net event).slave index).pc =
          (net.slave index).pc ∧
        sentBy (step deployment net event) index =
          sentBy net index) := by
  rcases step_slave deployment net event index with
    ⟨draw, hEvent, hStep⟩ |
      ⟨transmission, hState, hLog, _⟩ | hSame
  · rcases advance_slave deployment net index draw with
      ⟨hState, hTelemetry, _⟩
    have hExec :=
      Slave.exec_executed (deployment.board index)
        (net.slave index)
        (deployment.slaveClock index net.now) draw
    refine Or.inl ⟨draw, hEvent, ?_, ?_⟩
    · rw [hStep, hState]
      exact hExec.pc
    · intro hPc
      rw [if_neg hPc, List.append_nil] at hTelemetry
      rw [hStep]
      exact hTelemetry
  · have hSameMain :=
      Slave.onReceive_sameMain (deployment.board index)
        (net.slave index)
        (deployment.slaveClock index net.now)
        transmission.frame
    refine Or.inr ⟨?_, ?_⟩
    · rw [hState]
      exact hSameMain.pc
    · rw [sentBy, hLog]
      rfl
  · refine Or.inr ⟨?_, hSame.telemetry⟩
    rw [hSame.state]

/-
  Past the statement that assigns `msgID`, that statement
  was executed since the last transmission.
-/
theorem run_numbers
    (events : List (Event ι))
    {index : ι}
    (hFilled :
      4 ≤ (((network deployment).run
        events).slave index).pc.filled) :
    ∃ building draw,
      building ++ [.slave index draw] <+: events ∧
        (((network deployment).run
          building).slave index).pc = .msgID ∧
        sentBy ((network deployment).run events) index =
          sentBy ((network deployment).run building)
            index := by
  induction events using List.reverseRecOn with
  | nil =>
      simp [Net.init, Slave.State.init, Slave.Pc.filled]
        at hFilled
  | append_singleton events event ih =>
      rw [Machine.run_concat, network_step] at hFilled ⊢
      rcases step_pc deployment
          ((network deployment).run events) event index with
        ⟨draw, rfl, hNext, hUnsent⟩ | ⟨hPc, hUnsent⟩
      · rw [hNext] at hFilled
        by_cases hNumbers :
            (((network deployment).run
              events).slave index).pc = .msgID
        · exact
            ⟨events, draw, List.prefix_rfl, hNumbers,
              hUnsent (by simp [hNumbers])⟩
        · have hEarlier :=
            Slave.Pc.filled_of_next hNumbers hFilled
          have hOther :
              (((network deployment).run
                events).slave index).pc ≠ .endPacket := by
            intro hPc
            simp [hPc, Slave.Pc.next, Slave.Pc.filled]
              at hFilled
          rcases ih hEarlier with
            ⟨building, first, hPrefix, hPc, hSame⟩
          exact
            ⟨building, first,
              hPrefix.trans (List.prefix_append _ _), hPc,
              (hUnsent hOther).trans hSame⟩
      · rw [hPc] at hFilled
        rcases ih hFilled with
          ⟨building, first, hPrefix, hPc, hSame⟩
        exact
          ⟨building, first,
            hPrefix.trans (List.prefix_append _ _), hPc,
            hUnsent.trans hSame⟩

theorem exists_answer
    {index : ι}
    {sending : List (Event ι)}
    (hPc :
      (((network deployment).run sending).slave index).pc =
        .endPacket) :
    ∃ building, Answer deployment index building sending := by
  rcases run_numbers deployment sending (by
      rw [hPc]
      decide) with
    ⟨building, draw, hPrefix, hNumbers, hUnsent⟩
  exact
    ⟨building, hNumbers, ⟨draw, hPrefix⟩, hUnsent, hPc⟩

------------------------------------------------------------
-- Every Answer Has a Request
------------------------------------------------------------

/- A packet that a slave accepts is one of the master's. -/
theorem requestFor?_of_accepted
    (events : List (Event ι))
    {index : ι}
    {transmission : Transmission ι}
    (hLog :
      transmission ∈
        ((network deployment).run events).air.log)
    (hMine :
      (Slave.decoded transmission.frame).RXnodeID =
        (deployment.board index).node) :
    ∃ request,
      requestFor? deployment index transmission =
        some request := by
  cases transmission with
  | master packet order stamp =>
      rw [Transmission.frame, Slave.decoded_master_frame]
        at hMine
      exact ⟨packet, if_pos hMine⟩
  | slave other packet stamp =>
      have hAddress :=
        (telemetry_of_mem_log deployment events hLog).2.1
      rw [Transmission.frame, Slave.decoded_frame,
        hAddress] at hMine
      exact absurd hMine.symm (deployment.notMaster index)

theorem Answer.exists_request
    {deployment : Deployment ι}
    {index : ι}
    {building sending : List (Event ι)}
    (hAnswer : Answer deployment index building sending) :
    ∃ request,
      lastRequest deployment
          ((network deployment).run building) index =
        some request := by
  rcases run_slave deployment building index with
    ⟨steps, hRuns⟩
  have hBusy :
      Slave.Busy
        ((Slave.machine (deployment.board index)).run
          steps) := by
    rw [← hRuns.state]
    apply Or.inr
    rw [hAnswer.numbers]
    decide
  rcases Slave.exists_addressed_of_busy _ steps
      hRuns.whole hBusy with
    ⟨packet, hHeard, hMine⟩
  rw [Slave.heard, hRuns.received, List.map_map]
    at hHeard
  rcases List.mem_map.mp hHeard with
    ⟨delivery, hDelivery, rfl⟩
  rcases requestFor?_of_accepted deployment building
      (Medium.mem_log_of_mem_heard _ hDelivery) hMine with
    ⟨request, hRequest⟩
  rw [← Option.isSome_iff_exists, lastRequest,
    List.getLast?_isSome]
  apply List.ne_nil_of_mem
  exact
    List.mem_filterMap.mpr
      ⟨delivery.1, List.mem_map_of_mem hDelivery, hRequest⟩

/- A request is one of the packets that the master built. -/
theorem exists_place_of_lastRequest
    (events : List (Event ι))
    {index : ι}
    {request : Master.StructMessage}
    (hLast :
      lastRequest deployment
          ((network deployment).run events) index =
        some request) :
    ∃ place : Nat,
      (numbered deployment events)[place]? =
        some request := by
  rcases List.mem_filterMap.mp
      (List.mem_of_getLast? hLast) with
    ⟨transmission, hMember, hRequest⟩
  rcases List.mem_map.mp hMember with
    ⟨delivery, hHeard, rfl⟩
  have hLog := Medium.mem_log_of_mem_heard _ hHeard
  cases hTransmission : delivery.1 with
  | slave other packet stamp =>
      rw [hTransmission] at hRequest
      cases hRequest
  | master packet order stamp =>
      rw [hTransmission] at hRequest hLog
      rw [requestFor?, Option.ite_none_right_eq_some]
        at hRequest
      cases hRequest.2
      exact
        List.mem_iff_getElem?.mp
          ((run_requests deployment events).onAir request
            order stamp hLog)

------------------------------------------------------------
-- The Two Numbers
------------------------------------------------------------

/- A reply has the number of the replies sent, from one. -/
theorem Answer.msgID
    {deployment : Deployment ι}
    {index : ι}
    {building sending : List (Event ι)}
    (hAnswer : Answer deployment index building sending) :
    (((network deployment).run
        sending).slave index).fifo.msgID =
      BitVec.ofNat 32
        ((sentBy ((network deployment).run sending)
          index).length + 1) := by
  rcases run_slave deployment sending index with
    ⟨steps, hRuns⟩
  have hPc := hAnswer.transmits
  rw [hRuns.state] at hPc ⊢
  rw [Slave.fifo_msgID _ steps hPc, hRuns.telemetry]
  rfl

/-
  A reply has the number of its request exactly when the
  slave has sent as many packets as the master had built.
-/
theorem Answer.msgID_eq_iff
    {deployment : Deployment ι}
    {index : ι}
    {building sending : List (Event ι)}
    {place : Nat}
    {request : Master.StructMessage}
    (hAnswer : Answer deployment index building sending)
    (hPlace :
      (numbered deployment building)[place]? =
        some request) :
    (((network deployment).run
          sending).slave index).fifo.msgID =
        request.msgID ↔
      place ≡
        (sentBy ((network deployment).run sending)
          index).length + 1 [MOD 2 ^ 32] := by
  have hNumber :=
    (run_requests deployment building).places place request
      hPlace
  rw [hAnswer.msgID, hNumber, Words.ofNat_eq_iff]
  exact Nat.ModEq.comm

/-
  Every telemetry packet transmitted in a run has the
  `msgID` of the packet of the master that it answers.
-/
def MsgIDsSynchronised (events : List (Event ι)) : Prop :=
  ∀ index building sending draw,
    sending ++ [.slave index draw] <+: events →
      Answer deployment index building sending →
        ∃ request,
          lastRequest deployment
              ((network deployment).run building) index =
            some request ∧
          (((network deployment).run
              sending).slave index).fifo.msgID =
            request.msgID

/-
  The n-th reply of every slave answers the n-th packet that
  the master built, up to the range of the counters.
-/
def AnswersInStep (events : List (Event ι)) : Prop :=
  ∀ index building sending draw,
    sending ++ [.slave index draw] <+: events →
      Answer deployment index building sending →
        ∀ (request : Master.StructMessage) (place : Nat),
          lastRequest deployment
                ((network deployment).run building) index =
              some request →
            (numbered deployment building)[place]? =
                some request →
              place ≡
                (sentBy ((network deployment).run sending)
                  index).length + 1 [MOD 2 ^ 32]

/- For every run. -/
theorem msgIDsSynchronised_iff
    (events : List (Event ι)) :
    MsgIDsSynchronised deployment events ↔
      AnswersInStep deployment events := by
  constructor
  · intro hSynchronised index building sending draw hPrefix
      hAnswer request place hLast hPlace
    rcases hSynchronised index building sending draw
        hPrefix hAnswer with
      ⟨answered, hAnswered, hNumber⟩
    have hSame : answered = request := by
      rw [hAnswered] at hLast
      exact Option.some.inj hLast
    subst hSame
    exact (hAnswer.msgID_eq_iff hPlace).mp hNumber
  · intro hInStep index building sending draw hPrefix
      hAnswer
    rcases hAnswer.exists_request with ⟨request, hLast⟩
    rcases exists_place_of_lastRequest deployment building
        hLast with
      ⟨place, hPlace⟩
    have hNumber :=
      hInStep index building sending draw hPrefix hAnswer
        request place hLast hPlace
    exact
      ⟨request, hLast,
        (hAnswer.msgID_eq_iff hPlace).mpr hNumber⟩

------------------------------------------------------------
-- Two Slaves in Turn
------------------------------------------------------------

/- The master polls slave 8 in vain and then slave 9. -/
def pollsUntilSlave9 : List (Event TwoSlaves) :=
  List.replicate 3 (.master ⟨-1, none⟩ 0) ++
    [.tick 1200] ++
    List.replicate 3 (.master ⟨-1, none⟩ 0) ++
    [.interrupt .slave9 1]

/- Slave 9 runs up to its `msgID`, and up to `endPacket`. -/
def slave9Building : List (Event TwoSlaves) :=
  pollsUntilSlave9 ++
    List.replicate 10 (.slave .slave9 (Fin.last 3))

def slave9Sending : List (Event TwoSlaves) :=
  pollsUntilSlave9 ++
    List.replicate 20 (.slave .slave9 (Fin.last 3))

/- The first reply of slave 9 answers packet number two. -/
theorem slave9Sending_unsynchronised :
    ¬ MsgIDsSynchronised twoSlaves
      (slave9Sending ++
        [.slave .slave9 (Fin.last 3)]) := by
  intro hSynchronised
  have hAnswer :
      Answer twoSlaves .slave9 slave9Building
        slave9Sending := by
    constructor
    · decide +kernel
    · exact ⟨Fin.last 3, List.replicate 9 _, rfl⟩
    · decide +kernel
    · decide +kernel
  rcases hSynchronised .slave9 slave9Building slave9Sending
      (Fin.last 3) List.prefix_rfl hAnswer with
    ⟨request, hLast, hNumber⟩
  have hTwo :
      (lastRequest twoSlaves
        ((network twoSlaves).run slave9Building)
          .slave9).map Master.StructMessage.msgID =
        some 2 := by
    decide +kernel
  have hOne :
      (((network twoSlaves).run
          slave9Sending).slave .slave9).fifo.msgID = 1 := by
    decide +kernel
  rw [hLast, Option.map_some, ← hNumber, hOne] at hTwo
  cases hTwo

end Network

end LoRaTelemetry
