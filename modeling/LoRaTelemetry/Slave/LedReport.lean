import LoRaTelemetry.Master.Loop
import LoRaTelemetry.Slave.Replies
import LoRaTelemetry.Wire.Agreement

/-
  When the `ledStatus` that a slave reports is the state of
  its LED.

  The report is copied from the last packet heard, the LED
  follows the last command executed. A status request is
  heard and not executed, and it carries a `ledStatus` of 1;
  a command for another node is heard and not executed. The
  byte of a command may be neither 0 nor 1: then no level of
  the pin is what it says.

  Main declarations:
    * `Slave.HearsMaster`
    * `Slave.ReportsTruly`
    * `Slave.CopiesItsOrders`
    * `Slave.reportsTruly_iff`
    * `Slave.requestRun_misreports`
-/

------------------------------------------------------------
-- Runs of a Master and a Slave
------------------------------------------------------------

namespace LoRaTelemetry

/- A packet that `getDataFromServer` built in some call. -/
def Master.Built (packet : Master.StructMessage) : Prop :=
  ∃ config state got now order,
    (Master.getDataFromServer config state got now).2 =
      some ⟨packet, order⟩

namespace Slave

variable (board : Board)

/- Every frame received carries a packet the master built. -/
def HearsMaster (events : List Event) : Prop :=
  ∀ reception ∈ received events,
    ∃ packet,
      Master.Built packet ∧ reception.2 = packet.frame

theorem HearsMaster.whole
    {events : List Event}
    (hMaster : HearsMaster events) :
    WholeFrames events := by
  intro reception hReception
  rcases hMaster reception hReception with
    ⟨packet, _, hFrame⟩
  rw [hFrame]
  simp [Master.StructMessage.frame]

------------------------------------------------------------
-- Reports
------------------------------------------------------------

/-
  Every packet transmitted in a run carries the negation of
  the level on the LED pin when it is transmitted, and the
  `ledStatus` of the command executed last.
-/
def ReportsTruly (events : List Event) : Prop :=
  ∀ before event after packet,
    events = before ++ event :: after →
      .sent packet ∈
          emit board ((machine board).run before) event →
        packet.ledStatus =
            boolByte (!((machine board).run before).led) ∧
          packet.ledStatus =
            (lastExecuted board before).ledStatus

/-
  For every reply, the packet heard last before the copy and
  the command executed last before the transmission agree on
  the byte of `ledStatus`, and it is 0 or 1.
-/
def CopiesItsOrders (events : List Event) : Prop :=
  ∀ copying sending,
    Reply board events copying sending →
      (lastHeard copying).ledStatus =
          (lastExecuted board sending).ledStatus ∧
        ((lastExecuted board sending).ledStatus = 0 ∨
          (lastExecuted board sending).ledStatus = 1)

/- For the byte of a `bool`, the level says what it is. -/
theorem boolByte_not_negated
    {byte : Byte}
    (hByte : byte = 0 ∨ byte = 1) :
    boolByte (!board.negated byte) = byte := by
  rcases hByte with rfl | rfl
  · rw [board.negated_zero]
    rfl
  · rw [board.negated_one]
    rfl

/- What leaves at a statement is in the FIFO. -/
theorem sent_mem_emit_iff
    (state : State)
    (event : Event)
    (packet : StructMessage) :
    .sent packet ∈ emit board state event ↔
      (∃ now draw, event = .exec now draw) ∧
        state.pc = .endPacket ∧ packet = state.fifo := by
  cases event with
  | exec now draw =>
      cases hPc : state.pc <;> simp [emit, hPc]
  | receive now frame =>
      simp only [emit]
      split <;> simp

/-
  For every run on packets of the master: each report is the
  state of the LED exactly when each copy reads a packet that
  agrees with the slave's orders.
-/
theorem reportsTruly_iff
    (events : List Event)
    (hMaster : HearsMaster events) :
    ReportsTruly board events ↔
      CopiesItsOrders board events := by
  have hWhole := hMaster.whole
  constructor
  · intro hTruly copying sending hReply
    have hReported := hReply.copied hWhole
    rcases hReply.transmits with
      ⟨now, draw, after, hEvents⟩
    have hSent :
        .sent ((machine board).run sending).fifo ∈
          emit board ((machine board).run sending)
            (.exec now draw) := by
      rw [sent_mem_emit_iff]
      exact ⟨⟨now, draw, rfl⟩, hReply.pc, rfl⟩
    rcases
        hTruly sending (.exec now draw) after _ hEvents
          hSent with
      ⟨hPin, hExecuted⟩
    have hBool :=
      (exists_boolByte_iff _).mp ⟨_, hPin⟩
    rw [hExecuted] at hBool
    rw [hReported] at hExecuted
    exact ⟨hExecuted, hBool⟩
  · intro hOrders before event after packet hEvents hSent
    rw [sent_mem_emit_iff] at hSent
    rcases hSent with ⟨⟨now, draw, rfl⟩, hPc, rfl⟩
    rcases exists_reply board hEvents hPc with
      ⟨copying, hReply⟩
    have hReported := hReply.copied hWhole
    have hLed :=
      run_led board before (hReply.whole_sending hWhole)
    rcases hOrders copying before hReply with
      ⟨hSame, hBool⟩
    rw [hReported, hLed, hSame]
    exact ⟨(boolByte_not_negated board hBool).symm, rfl⟩

------------------------------------------------------------
-- A Status Request before Any Command
------------------------------------------------------------

/- The first status request of the master. -/
def firstRequest : Master.StructMessage :=
  Master.statusRequest Master.deployed Master.State.init 0

/- Slave 8 receives the request and answers it. -/
def requestRun : List Event :=
  .receive 0 firstRequest.frame ::
    List.replicate 21 (.exec 0 (Fin.last 3))

theorem requestRun_hearsMaster :
    HearsMaster requestRun := by
  intro reception hReception
  refine
    ⟨firstRequest,
      ⟨Master.deployed, Master.State.init, ⟨-1, none⟩, 0,
        none, rfl⟩, ?_⟩
  have hOnly :
      received requestRun = [(0, firstRequest.frame)] := by
    rfl
  rw [hOnly, List.mem_singleton] at hReception
  rw [hReception]

/- The hypothesis can be met. -/
theorem requestRun_reportsTruly_iff :
    ReportsTruly board8 requestRun ↔
      CopiesItsOrders board8 requestRun := by
  exact
    reportsTruly_iff board8 requestRun
      requestRun_hearsMaster

/-
  The LED pin is HIGH since `setup`, and the telemetry
  reports a `ledStatus` of true.
-/
theorem requestRun_misreports :
    HearsMaster requestRun ∧
      ¬ ReportsTruly board8 requestRun := by
  refine ⟨requestRun_hearsMaster, ?_⟩
  intro hTruly
  have hReport :=
    hTruly
      (.receive 0 firstRequest.frame ::
        List.replicate 20 (.exec 0 (Fin.last 3)))
      (.exec 0 (Fin.last 3)) []
      ((machine board8).run
        (.receive 0 firstRequest.frame ::
          List.replicate 20 (.exec 0 (Fin.last 3)))).fifo
      rfl
      ((sent_mem_emit_iff board8 _ _ _).mpr
        ⟨⟨0, Fin.last 3, rfl⟩, by decide +kernel, rfl⟩)
  exact absurd hReport.1 (by decide +kernel)

end Slave

end LoRaTelemetry
