import LoRaTelemetry.Slave.Reception

/-
  `receiveflag` as a mailbox between `onReceive` and `loop`.

  The interrupt sets the flag when it accepts a frame, and
  `loop` clears it before it calls `send`. An acceptance at
  any statement of the reply in progress is answered by a
  later one; several of them by the same one.

  Main declarations:
    * `Slave.Solicited`
    * `Slave.Awaited`
    * `Slave.Mailbox`
    * `Slave.run_mailbox`
-/

------------------------------------------------------------
-- Acceptances and Replies
------------------------------------------------------------

namespace LoRaTelemetry

namespace Slave

variable (board : Board) (state : State)

def Output.isStarted : Output → Bool
| .started => true
| _ => false

def Output.isAccepted : Output → Bool
| .accepted _ => true
| _ => false

/- The replies started in a run, by clearing the flag. -/
def repliesStarted (events : List Event) : Nat :=
  ((machine board).trace events).countP Output.isStarted

/- The frames accepted in a run. -/
def framesAccepted (events : List Event) : Nat :=
  ((machine board).trace events).countP Output.isAccepted

/- An interrupt that sets `receiveflag`. -/
def Accepts
    (state : State)
    (now : ULong)
    (frame : Frame) : Prop :=
  (onReceive board state now frame).2.isSome = true

/- An acceptance sets the flag, and nothing else does. -/
theorem onReceive_receiveflag
    (now : ULong)
    (frame : Frame) :
    (onReceive board state now frame).1.receiveflag =
      (state.receiveflag ||
        (onReceive board state now frame).2.isSome) := by
  have hFlags := onReceive_flags board state now frame
  cases hReaction :
      (onReceive board state now frame).2 with
  | none =>
      rw [hReaction] at hFlags
      simp [hFlags.1]
  | some reaction =>
      rw [hReaction] at hFlags
      cases reaction with
      | request => simp [hFlags.1]
      | command level => simp [hFlags.1]

/- What an event adds to the two counts. -/
theorem emit_started
    (event : Event) :
    (emit board state event).countP Output.isStarted =
      match event with
      | .exec _ _ => if state.pc = .clear then 1 else 0
      | .receive _ _ => 0 := by
  cases event with
  | exec now draw =>
      cases hPc : state.pc <;>
        simp [emit, hPc, Output.isStarted]
  | receive now frame =>
      simp only [emit]
      split <;> simp [Output.isStarted]

theorem emit_accepted
    (event : Event) :
    (emit board state event).countP Output.isAccepted =
      match event with
      | .exec _ _ => 0
      | .receive now frame =>
          if (onReceive board state now frame).2.isSome then
            1
          else
            0 := by
  cases event with
  | exec now draw =>
      cases hPc : state.pc <;>
        simp [emit, hPc, Output.isAccepted]
  | receive now frame =>
      simp only [emit]
      cases (onReceive board state now frame).2 with
      | none => simp
      | some reaction => simp [Output.isAccepted]

------------------------------------------------------------
-- No Unsolicited Reply
------------------------------------------------------------

/-
  A flag that is set stands for an acceptance that no reply
  has answered, and `loop` clears none but such a flag.
-/
structure Solicited
    (events : List Event)
    (state : State) : Prop where
  count :
    repliesStarted board events +
        (if state.receiveflag then 1 else 0) ≤
      framesAccepted board events
  clear : state.pc = .clear → state.receiveflag = true

/- `clear` follows `test` on a flag that is set. -/
theorem Pc.receiveflag_of_next
    {receiveflag : Bool}
    {pc : Pc}
    (hNext : pc.next receiveflag = .clear) :
    pc = .test ∧ receiveflag = true := by
  cases pc <;> cases receiveflag <;> simp [next] at hNext ⊢

theorem exec_solicited
    {events : List Event}
    (now : ULong)
    (draw : Fin 4)
    (hSolicited :
      Solicited board events ((machine board).run events)) :
    Solicited board (events ++ [.exec now draw])
      (exec board ((machine board).run events) now draw) := by
  have hExec :=
    exec_executed board ((machine board).run events) now
      draw
  constructor
  · rw [repliesStarted, framesAccepted,
      Machine.trace_concat, List.countP_append,
      List.countP_append, machine_emit, emit_started,
      emit_accepted, hExec.receiveflag]
    have hCount := hSolicited.count
    rw [repliesStarted, framesAccepted] at hCount
    by_cases hClear :
        ((machine board).run events).pc = .clear
    · -- the flag is given up for the reply that starts
      simp only [hSolicited.clear hClear, if_true] at hCount
      simpa [hClear] using hCount
    · simpa [hClear] using hCount
  · intro hNext
    rw [hExec.pc] at hNext
    rcases Pc.receiveflag_of_next hNext with
      ⟨hTest, hFlag⟩
    rw [hExec.receiveflag, hTest]
    simpa using hFlag

theorem onReceive_solicited
    {events : List Event}
    (now : ULong)
    (frame : Frame)
    (hSolicited :
      Solicited board events ((machine board).run events)) :
    Solicited board (events ++ [.receive now frame])
      (onReceive board ((machine board).run events) now
        frame).1 := by
  have hFlag :=
    onReceive_receiveflag board
      ((machine board).run events) now frame
  constructor
  · rw [repliesStarted, framesAccepted,
      Machine.trace_concat, List.countP_append,
      List.countP_append, machine_emit, emit_started,
      emit_accepted, hFlag]
    have hCount := hSolicited.count
    rw [repliesStarted, framesAccepted] at hCount
    cases hAccepted :
        (onReceive board ((machine board).run events) now
          frame).2.isSome with
    | false => simpa [hAccepted] using hCount
    | true =>
        simp only [hAccepted, Bool.or_true, if_true]
        omega
  · intro hClear
    have hSame :=
      onReceive_sameMain board
        ((machine board).run events) now frame
    rw [hSame.pc] at hClear
    rw [hFlag, hSolicited.clear hClear, Bool.true_or]

theorem run_solicited
    (events : List Event) :
    Solicited board events ((machine board).run events) := by
  apply Machine.run_history
  · constructor
    · exact le_rfl
    · simp [State.init]
  · intro events event hSolicited
    cases event with
    | exec now draw =>
        exact exec_solicited board now draw hSolicited
    | receive now frame =>
        exact onReceive_solicited board now frame hSolicited

------------------------------------------------------------
-- No Lost Request
------------------------------------------------------------

/-
  After some events, `Sensor_Reading` begins in none of the
  following ones.
-/
def NoReadingBegins
    (before after : List Event) : Prop :=
  ∀ during now draw rest,
    after = during ++ .exec now draw :: rest →
      ((machine board).run (before ++ during)).pc ≠
        .drawRandNumber

theorem NoReadingBegins.left
    {before after : List Event}
    {event : Event}
    (hNone :
      NoReadingBegins board before (after ++ [event])) :
    NoReadingBegins board before after := by
  intro during now draw rest hAfter
  exact
    hNone during now draw (rest ++ [event])
      (by simp [hAfter])

/-
  Some frame was accepted, and `Sensor_Reading` has not
  begun since.
-/
def Awaited (events : List Event) : Prop :=
  ∃ before now frame after,
    events = before ++ .receive now frame :: after ∧
      Accepts board ((machine board).run before) now
        frame ∧
      NoReadingBegins board
        (before ++ [.receive now frame]) after

/-
  From an acceptance on, the flag stays set up to the call of
  `Sensor_Reading` that follows `clear`.
-/
theorem receiveflag_of_noReading
    {before : List Event}
    (hFlag :
      ((machine board).run before).receiveflag = true)
    {after : List Event}
    (hNone : NoReadingBegins board before after) :
    ((machine board).run
          (before ++ after)).receiveflag = true ∨
      ((machine board).run (before ++ after)).pc =
        .drawRandNumber := by
  induction after using List.reverseRecOn with
  | nil =>
      rw [List.append_nil]
      exact Or.inl hFlag
  | append_singleton after event ih =>
      have hEarlier := ih hNone.left
      rw [← List.append_assoc, Machine.run_concat,
        machine_step]
      cases event with
      | exec now draw =>
          have hExec :=
            exec_executed board
              ((machine board).run (before ++ after)) now
              draw
          have hHere := hNone after now draw [] rfl
          rw [step, hExec.receiveflag, hExec.pc]
          by_cases hClear :
              ((machine board).run (before ++ after)).pc =
                .clear
          · rw [hClear]
            exact Or.inr rfl
          · rw [if_neg hClear]
            exact
              Or.inl (hEarlier.resolve_right hHere)
      | receive now frame =>
          have hSame :=
            onReceive_sameMain board
              ((machine board).run (before ++ after)) now
              frame
          rw [step, hSame.pc, onReceive_receiveflag]
          rcases hEarlier with hSet | hBegins
          · rw [hSet, Bool.true_or]
            exact Or.inl rfl
          · exact Or.inr hBegins

theorem receiveflag_of_awaited
    {events : List Event}
    (hTest : ((machine board).run events).pc = .test)
    (hAwaited : Awaited board events) :
    ((machine board).run events).receiveflag = true := by
  rcases hAwaited with
    ⟨before, now, frame, after, rfl, hAccepts, hNone⟩
  have hFlag :
      ((machine board).run
          (before ++ [.receive now frame])).receiveflag =
        true := by
    rw [Machine.run_concat, machine_step, step,
      onReceive_receiveflag, hAccepts, Bool.or_true]
  have hSplit :
      before ++ .receive now frame :: after =
        (before ++ [.receive now frame]) ++ after := by
    simp
  rw [hSplit] at hTest ⊢
  rcases receiveflag_of_noReading board hFlag hNone with
    hSet | hBegins
  · exact hSet
  · rw [hTest] at hBegins
    cases hBegins

------------------------------------------------------------
-- The Mailbox
------------------------------------------------------------

/-
  No reply is unsolicited, and whenever `loop` tests the flag
  while a request is awaited, it finds it set.
-/
structure Mailbox (events : List Event) : Prop where
  solicited :
    repliesStarted board events ≤
      framesAccepted board events
  noneLost :
    ((machine board).run events).pc = .test →
      Awaited board events →
        ((machine board).run events).receiveflag = true

/- For every interleaving, at every point of it. -/
theorem run_mailbox
    (events : List Event) :
    Mailbox board events := by
  constructor
  · have hCount := (run_solicited board events).count
    omega
  · exact receiveflag_of_awaited board

end Slave

end LoRaTelemetry
