import LoRaTelemetry.Slave.LedReport
import LoRaTelemetry.Slave.Mailbox
import LoRaTelemetry.Slave.Readings
import LoRaTelemetry.Slave.Replies

/-
  How soon a slave answers: an accepted frame is answered by
  a reply that starts after it and leaves within forty-one
  statements of the main program, wherever the frame found
  the program and whatever interrupts come in between.

  Main declarations:
    * `Slave.Pc.untilClear`
    * `Slave.Pending`
    * `Slave.Answers`
    * `Slave.answered_within`
    * `Slave.reply_fifo`
-/

------------------------------------------------------------
-- Up to the Start of the Reply
------------------------------------------------------------

namespace LoRaTelemetry

namespace Slave

variable (board : Board) (state : State)

/- The statements before the next `clear`, on a set flag. -/
def Pc.untilClear : Pc → Nat
| .test => 1
| .clear => 0
| pc => 23 - pc.place

/- A reply is to start. -/
def Pending (state : State) : Prop :=
  state.receiveflag = true ∨ state.pc = .clear

theorem exec_pending
    (now : ULong)
    (draw : Fin 4)
    (hPending : Pending state)
    (hBefore : 0 < state.pc.untilClear) :
    Pending (exec board state now draw) ∧
      (exec board state now draw).pc.untilClear + 1 =
        state.pc.untilClear := by
  have hExec := exec_executed board state now draw
  have hOther : state.pc ≠ .clear := by
    intro hClear
    rw [hClear] at hBefore
    exact absurd hBefore (by decide)
  have hFlag : state.receiveflag = true :=
    hPending.resolve_right hOther
  rw [Pending, hExec.receiveflag, hExec.pc, if_neg hOther]
  refine ⟨Or.inl hFlag, ?_⟩
  cases hPc : state.pc <;>
    simp_all [Pc.next, Pc.untilClear, Pc.place]

theorem onReceive_pending
    (now : ULong)
    (frame : Frame)
    (hPending : Pending state) :
    Pending (onReceive board state now frame).1 := by
  have hSame := onReceive_sameMain board state now frame
  rw [Pending, onReceive_receiveflag, hSame.pc]
  rcases hPending with hFlag | hClear
  · rw [hFlag, Bool.true_or]
    exact Or.inl rfl
  · exact Or.inr hClear

/- A pending reply starts after so many statements. -/
theorem runFrom_pending
    {state : State}
    (hPending : Pending state)
    (events : List Event)
    (hBound :
      events.countP Event.isExec ≤ state.pc.untilClear) :
    Pending ((machine board).runFrom state events) ∧
      ((machine board).runFrom state
            events).pc.untilClear +
          events.countP Event.isExec =
        state.pc.untilClear := by
  apply
    (machine board).runFrom_countdown
      (fun state => state.pc.untilClear) _ _ hPending events
      hBound
  · intro state event hEvent hPending hBefore
    cases event with
    | exec now draw =>
        exact
          exec_pending board state now draw hPending hBefore
    | receive now frame => cases hEvent
  · intro state event hEvent hPending
    cases event with
    | exec now draw => cases hEvent
    | receive now frame =>
        have hSame :=
          onReceive_sameMain board state now frame
        rw [machine_step, step, hSame.pc]
        exact
          ⟨onReceive_pending board state now frame hPending,
            rfl⟩

theorem Pc.untilClear_le
    (pc : Pc) :
    pc.untilClear ≤ 21 := by
  cases pc <;> decide

theorem Pc.eq_clear_of_untilClear
    {pc : Pc}
    (hHere : pc.untilClear = 0) :
    pc = .clear := by
  cases pc <;> simp_all [untilClear, place]

------------------------------------------------------------
-- Up to Its Transmission
------------------------------------------------------------

/- The statements from `clear` up to `endPacket`. -/
def InReply (state : State) : Prop :=
  1 ≤ state.pc.place ∧ state.pc.place ≤ 20

theorem exec_inReply
    (now : ULong)
    (draw : Fin 4)
    (hReply : InReply state)
    (hBefore : 0 < 20 - state.pc.place) :
    InReply (exec board state now draw) ∧
      20 - (exec board state now draw).pc.place + 1 =
        20 - state.pc.place := by
  have hExec := exec_executed board state now draw
  have hNext :
      (state.pc.next state.receiveflag).place =
        state.pc.place + 1 := by
    rw [InReply] at hReply
    cases hPc : state.pc <;>
      simp_all [Pc.next, Pc.place]
  rw [InReply] at hReply ⊢
  rw [hExec.pc, hNext]
  omega

/- A reply in progress leaves after so many statements. -/
theorem runFrom_inReply
    {state : State}
    (hReply : InReply state)
    (events : List Event)
    (hBound :
      events.countP Event.isExec ≤ 20 - state.pc.place) :
    InReply ((machine board).runFrom state events) ∧
      20 - ((machine board).runFrom state
            events).pc.place +
          events.countP Event.isExec =
        20 - state.pc.place := by
  apply
    (machine board).runFrom_countdown
      (fun state => 20 - state.pc.place) _ _ hReply events
      hBound
  · intro state event hEvent hReply hBefore
    cases event with
    | exec now draw =>
        exact
          exec_inReply board state now draw hReply hBefore
    | receive now frame => cases hEvent
  · intro state event hEvent hReply
    cases event with
    | exec now draw => cases hEvent
    | receive now frame =>
        have hSame :=
          onReceive_sameMain board state now frame
        rw [machine_step, step, InReply, hSame.pc]
        exact ⟨hReply, rfl⟩

/- Nothing is transmitted before that. -/
theorem telemetry_inReply
    {before : List Event}
    (hReply : InReply ((machine board).run before))
    (events : List Event)
    (hBound :
      events.countP Event.isExec ≤
        20 - ((machine board).run before).pc.place) :
    telemetry board (before ++ events) =
      telemetry board before := by
  induction events using List.reverseRecOn with
  | nil => rw [List.append_nil]
  | append_singleton events event ih =>
      rw [List.countP_append, List.countP_singleton]
        at hBound
      rw [← List.append_assoc, telemetry_concat,
        ih (by omega), emit_packets]
      cases event with
      | exec now draw =>
          rw [Event.isExec, if_pos rfl] at hBound
          have hPlace :=
            (runFrom_inReply board hReply events
              (by omega)).2
          rw [← Machine.run_append] at hPlace
          have hOther :
              ((machine board).run (before ++ events)).pc ≠
                .endPacket := by
            intro hEnd
            rw [hEnd, Pc.place] at hPlace
            omega
          rw [if_neg hOther, List.append_nil]
      | receive now frame => exact List.append_nil _

------------------------------------------------------------
-- The Bound
------------------------------------------------------------

/-
  Some events after others hold a whole reply: the statement
  that starts it, eighteen more, and the one that transmits
  its packet.
-/
def Answered (before after : List Event) : Prop :=
  ∃ starting replying now draw rest packet,
    after =
        starting ++ (replying ++ .exec now draw :: rest) ∧
      replying.countP Event.isExec = 19 ∧
      ((machine board).run (before ++ starting)).pc =
        .clear ∧
      ((machine board).run
          (before ++ starting ++ replying)).pc =
        .endPacket ∧
      telemetry board
          (before ++ starting ++ replying ++
            [.exec now draw]) =
        telemetry board (before ++ starting) ++ [packet]

/- A reply that has started leaves. -/
theorem answered_of_clear
    {before starting after : List Event}
    (hClear :
      ((machine board).run (before ++ starting)).pc = .clear)
    (hEnough : 20 ≤ after.countP Event.isExec) :
    Answered board before (starting ++ after) := by
  have hReply :
      InReply ((machine board).run (before ++ starting)) := by
    rw [InReply, hClear]
    decide
  have hMore : 19 < after.countP Event.isExec := by
    omega
  rcases Lists.exists_split_of_countP hMore with
    ⟨replying, event, rest, rfl, hEvent, hCount⟩
  have hPlace : Pc.place .clear = 1 := by
    rfl
  have hBound :
      replying.countP Event.isExec ≤
        20 -
          ((machine board).run
            (before ++ starting)).pc.place := by
    rw [hClear, hPlace, hCount]
  rcases runFrom_inReply board hReply replying hBound with
    ⟨hInside, hLeft⟩
  rw [← Machine.run_append, InReply] at hInside
  rw [← Machine.run_append, hClear, hPlace] at hLeft
  have hEnd :
      ((machine board).run
          (before ++ starting ++ replying)).pc =
        .endPacket := by
    apply Pc.place_injective
    rw [show Pc.place .endPacket = 20 from rfl]
    omega
  cases event with
  | receive now frame => cases hEvent
  | exec now draw =>
      refine
        ⟨starting, replying, now, draw, rest,
          ((machine board).run
            (before ++ starting ++ replying)).fifo,
          rfl, hCount, hClear, hEnd, ?_⟩
      rw [telemetry_concat, emit_packets,
        telemetry_inReply board hReply replying hBound]
      exact congrArg _ (if_pos hEnd)

/-
  For every point of every run at which a frame is accepted,
  and every continuation with forty-one statements.
-/
theorem answered_within
    {before after : List Event}
    {now : ULong}
    {frame : Frame}
    (hAccepts :
      Accepts board ((machine board).run before) now frame)
    (hEnough : 41 ≤ after.countP Event.isExec) :
    Answered board (before ++ [.receive now frame])
      after := by
  have hPending :
      Pending
        ((machine board).run
          (before ++ [.receive now frame])) := by
    apply Or.inl
    rw [Machine.run_concat, machine_step, step,
      onReceive_receiveflag, hAccepts, Bool.or_true]
  have hSoon :=
    Pc.untilClear_le
      ((machine board).run
        (before ++ [.receive now frame])).pc
  have hMore :
      ((machine board).run
            (before ++
              [.receive now frame])).pc.untilClear <
        after.countP Event.isExec := by
    omega
  rcases Lists.exists_split_of_countP hMore with
    ⟨starting, event, rest, rfl, hEvent, hCount⟩
  have hStart :=
    (runFrom_pending board hPending starting hCount.le).2
  rw [← Machine.run_append] at hStart
  apply answered_of_clear
  · apply Pc.eq_clear_of_untilClear
    omega
  · rw [List.countP_append] at hEnough
    omega

/-
  A request that comes just after `clear` waits for the reply
  in progress: it is answered by the forty-first statement,
  and the hypotheses can be met.
-/
theorem lateRequest_answered :
    Answered board8
      (.receive 0 firstRequest.frame ::
        List.replicate 2 (.exec 0 (Fin.last 3)) ++
          [.receive 0 firstRequest.frame])
      (List.replicate 41 (.exec 0 (Fin.last 3))) := by
  apply answered_within
  · unfold Accepts
    decide +kernel
  · decide

------------------------------------------------------------
-- A Reply without Interrupts
------------------------------------------------------------

/- What a packet of the master for the slave leaves behind. -/
theorem onReceive_addressed
    (now : ULong)
    (packet : Master.StructMessage)
    (hMine : packet.RXnodeID = board.node) :
    (onReceive board state now packet.frame).1.pc =
        state.pc ∧
      (onReceive board state now
          packet.frame).1.receiveflag = true ∧
      (onReceive board state now
          packet.frame).1.timeSyncErr =
        now - packet.timeStamp := by
  have hWhole : structSize ≤ packet.frame.bytes.length := by
    simp [Master.StructMessage.frame]
  have hStores :=
    onReceive_stores board state now packet.frame
  have hAccepted :
      (onReceive board state now packet.frame).2.isSome =
        true := by
    rw [onReceive_reaction_of_whole board state now hWhole,
      decoded_master_frame, reaction?]
    exact congrArg Option.isSome (if_pos hMine)
  refine
    ⟨(onReceive_sameMain board state now packet.frame).pc,
      ?_, ?_⟩
  · rw [onReceive_receiveflag, hAccepted, Bool.or_true]
  · rw [hStores.2, slavePacket_receive_of_whole _ hWhole,
      decoded_master_frame]
    rfl

/- Some statements in a row, at one reading of the clock. -/
def statements
    (now : ULong)
    (draw : Fin 4)
    (count : Nat)
    (state : State) : State :=
  (fun state => exec board state now draw)^[count] state

theorem statements_succ
    (now : ULong)
    (draw : Fin 4)
    (count : Nat) :
    statements board now draw (count + 1) state =
      exec board (statements board now draw count state) now
        draw := by
  exact Function.iterate_succ_apply' _ _ _

/- The main program waits for a request. -/
def Idle (state : State) : Prop :=
  state.pc = .test ∧ state.receiveflag = false

/- The statements before the main program waits again. -/
def untilIdle (state : State) : Nat :=
  match state.pc with
  | .test => if state.receiveflag then 22 else 0
  | .clear => 21
  | pc => 22 - pc.place + if state.receiveflag then 22 else 0

theorem exec_untilIdle
    (now : ULong)
    (draw : Fin 4)
    (hBusy : 0 < untilIdle state) :
    untilIdle (exec board state now draw) + 1 =
      untilIdle state := by
  have hExec := exec_executed board state now draw
  rw [untilIdle, hExec.pc, hExec.receiveflag]
  cases hPc : state.pc <;>
    cases hFlag : state.receiveflag <;>
    simp_all [untilIdle, Pc.next, Pc.place]

theorem idle_of_untilIdle
    (hNone : untilIdle state = 0) :
    Idle state := by
  cases hPc : state.pc <;>
    cases hFlag : state.receiveflag <;>
    simp_all [untilIdle, Idle, Pc.place]

variable {state}

/- From a request on, each statement is the next one. -/
theorem place_statements
    (now : ULong)
    (draw : Fin 4)
    (hTest : state.pc = .test)
    (hFlag : state.receiveflag = true)
    {count : Nat}
    (hCount : count ≤ 20) :
    (statements board now draw count state).pc.place =
      count := by
  induction count with
  | zero =>
      rw [statements, Function.iterate_zero_apply, hTest]
      rfl
  | succ count ih =>
      have hHere := ih (by omega)
      rw [statements_succ]
      cases count with
      | zero =>
          have hExec := exec_executed board state now draw
          rw [statements, Function.iterate_zero_apply,
            hExec.pc, hTest, hFlag]
          rfl
      | succ count =>
          have hReply :
              InReply
                (statements board now draw (count + 1)
                  state) := by
            rw [InReply, hHere]
            omega
          rcases exec_inReply board _ now draw hReply
              (by omega) with
            ⟨hNext, hLeft⟩
          rw [InReply] at hNext
          omega

/- The packet of the reply, ready to be transmitted. -/
theorem reply_fifo
    (now : ULong)
    (draw : Fin 4)
    (hTest : state.pc = .test)
    (hFlag : state.receiveflag = true) :
    (statements board now draw 20 state).fifo.timeStamp =
        syncMillis state now ∧
      (statements board now draw 20 state).fifo.RXnodeID =
        10 := by
  rcases state
  simp only at hTest hFlag
  subst hTest hFlag
  exact ⟨rfl, rfl⟩

end Slave

end LoRaTelemetry
