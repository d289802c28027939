import LoRaTelemetry.Slave.Mailbox

/-
  Telemetry against requests: a slave has sent no more
  packets than it has received frames for itself, and where
  one is under construction, fewer.

  Main declarations:
    * `Slave.Pc.replying`
    * `Slave.telemetry_started`
    * `Slave.framesAccepted_eq`
    * `Slave.telemetry_le`
-/

------------------------------------------------------------
-- Replies
------------------------------------------------------------

namespace LoRaTelemetry

namespace Slave

variable (board : Board)

/- The flag is cleared and the packet has not been sent. -/
def Pc.replying : Pc → Bool
| .test => false
| .clear => false
| .receive => false
| _ => true

/- What a statement does to the packets under way. -/
theorem emit_replying
    (state : State)
    (now : ULong)
    (draw : Fin 4) :
    ((emit board state (.exec now draw)).filterMap
          Output.packet?).length +
        (if (exec board state now draw).pc.replying then
          1
        else
          0) =
      (if state.pc.replying then 1 else 0) +
        (emit board state (.exec now draw)).countP
          Output.isStarted := by
  rw [(exec_executed board state now draw).pc]
  cases hPc : state.pc with
  | test =>
      cases state.receiveflag <;>
        simp [emit, hPc, Pc.next, Pc.replying]
  | _ =>
      simp [emit, hPc, Pc.next, Pc.replying,
        Output.packet?, Output.isStarted]

/- A reply that has started is sent or under way. -/
theorem telemetry_started
    (events : List Event) :
    (telemetry board events).length +
        (if ((machine board).run events).pc.replying then
          1
        else
          0) =
      repliesStarted board events := by
  induction events using List.reverseRecOn with
  | nil => rfl
  | append_singleton events event ih =>
      rw [Machine.run_concat, machine_step,
        telemetry_concat, List.length_append,
        repliesStarted, Machine.trace_concat,
        List.countP_append, ← repliesStarted, ← ih,
        machine_emit]
      cases event with
      | exec now draw =>
          have hStep :=
            emit_replying board ((machine board).run events)
              now draw
          rw [step]
          omega
      | receive now frame =>
          have hSame :=
            onReceive_sameMain board
              ((machine board).run events) now frame
          rw [emit_packets, emit_started, step, hSame.pc]
          rfl

------------------------------------------------------------
-- Requests
------------------------------------------------------------

/- Of whole frames, those for the slave are accepted. -/
theorem framesAccepted_eq
    (events : List Event)
    (hWhole : WholeFrames events) :
    framesAccepted board events =
      (heard events).countP
        (fun packet => packet.RXnodeID = board.node) := by
  induction events using List.reverseRecOn with
  | nil => rfl
  | append_singleton events event ih =>
      rw [framesAccepted, Machine.trace_concat,
        List.countP_append, ← framesAccepted,
        ih hWhole.left, machine_emit, emit_accepted]
      cases event with
      | exec now draw =>
          rw [heard_concat_exec]
          rfl
      | receive now frame =>
          rw [heard_concat_receive, List.countP_append,
            List.countP_singleton]
          simp only
          rw [onReceive_reaction_of_whole board _ now
            hWhole.last, reaction?]
          by_cases hMine :
              (decoded frame).RXnodeID = board.node <;>
            simp [hMine]

/- Each packet sent or under way has its own request. -/
theorem telemetry_le
    (events : List Event)
    (hWhole : WholeFrames events) :
    (telemetry board events).length +
        (if ((machine board).run events).pc.replying then
          1
        else
          0) ≤
      (heard events).countP
        (fun packet => packet.RXnodeID = board.node) := by
  have hCount := (run_solicited board events).count
  rw [telemetry_started, ← framesAccepted_eq _ _ hWhole]
  omega

end Slave

end LoRaTelemetry
