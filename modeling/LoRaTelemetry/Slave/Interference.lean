import LoRaTelemetry.Slave.Alike
import LoRaTelemetry.Slave.Replies

/-
  What frames for other nodes can change in a slave.

  Two runs with the same frames for this board, at the same
  points, and with any frames for others in between, write
  the LED alike and send the same telemetry up to `timeStamp`
  and `ledStatus`. The latter is copied out of the shared
  receive buffer, so a frame for another node can change it.

  Main declarations:
    * `Slave.RunsAlike`
    * `Slave.run_alike`
    * `Slave.Indistinguishable`
    * `Slave.indistinguishable_iff`
    * `Slave.overheardRun_differs`
-/

------------------------------------------------------------
-- Outputs of One Event
------------------------------------------------------------

namespace LoRaTelemetry

namespace Slave

variable (board : Board)

/- A hidden event is a frame for another node. -/
theorem view_eq_none_iff
    (event : Event) :
    view board event = none ↔
      ∃ now frame,
        event = .receive now frame ∧
          (decoded frame).RXnodeID ≠ board.node := by
  cases event with
  | exec now draw => simp [view]
  | receive now frame =>
      by_cases hMine :
          (decoded frame).RXnodeID = board.node
      · simp [view, hMine]
      · simp [view, hMine]

/- The level that a reaction writes to the LED. -/
def Reaction.level? : Reaction → Option Bool
| .request => none
| .command level => some level

/- The LED is written by the interrupt alone. -/
theorem emit_levels
    (state : State)
    (event : Event) :
    (emit board state event).filterMap Output.level? =
      match event with
      | .exec _ _ => []
      | .receive now frame =>
          ((onReceive board state now frame).2.bind
            Reaction.level?).toList := by
  cases event with
  | exec now draw =>
      cases hPc : state.pc <;>
        simp [emit, hPc, Output.level?]
  | receive now frame =>
      simp only [emit]
      cases (onReceive board state now frame).2 with
      | none => rfl
      | some reaction => cases reaction <;> rfl

theorem ledWrites_concat
    (events : List Event)
    (event : Event) :
    ledWrites board (events ++ [event]) =
      ledWrites board events ++
        (emit board ((machine board).run events)
          event).filterMap Output.level? := by
  simp [ledWrites]

------------------------------------------------------------
-- Two Runs
------------------------------------------------------------

/-
  Runs with one view: the states stay alike, the LED is
  written alike, and the telemetry differs at most in
  `timeStamp` and `ledStatus`.
-/
structure RunsAlike (left right : List Event) : Prop where
  states :
    Alike ((machine board).run left)
      ((machine board).run right)
  ledWrites : ledWrites board left = ledWrites board right
  telemetry :
    (telemetry board left).map StructMessage.masked =
      (telemetry board right).map StructMessage.masked

namespace RunsAlike

variable {board : Board}
variable {first second third : List Event}

theorem symm
    (hAlike : RunsAlike board first second) :
    RunsAlike board second first := by
  exact
    ⟨hAlike.states.symm, hAlike.ledWrites.symm,
      hAlike.telemetry.symm⟩

theorem trans
    (hFirst : RunsAlike board first second)
    (hSecond : RunsAlike board second third) :
    RunsAlike board first third := by
  exact
    ⟨hFirst.states.trans hSecond.states,
      hFirst.ledWrites.trans hSecond.ledWrites,
      hFirst.telemetry.trans hSecond.telemetry⟩

end RunsAlike

/- No packet leaves the slave at a hidden event. -/
theorem telemetry_of_hidden
    (events : List Event)
    {event : Event}
    (hHidden : view board event = none) :
    telemetry board (events ++ [event]) =
      telemetry board events := by
  rcases (view_eq_none_iff board event).mp hHidden with
    ⟨now, frame, rfl, _⟩
  rw [telemetry_concat, emit_packets]
  simp

/- A hidden event changes nothing that is visible. -/
theorem runsAlike_of_hidden
    (events : List Event)
    {event : Event}
    (hWhole : WholeFrames (events ++ [event]))
    (hHidden : view board event = none) :
    RunsAlike board (events ++ [event]) events := by
  have hPackets :=
    telemetry_of_hidden board events hHidden
  rcases (view_eq_none_iff board event).mp hHidden with
    ⟨now, frame, rfl, hForeign⟩
  refine ⟨?_, ?_, ?_⟩
  · rw [Machine.run_concat]
    exact
      onReceive_alike_of_foreign board _ now hWhole.last
        hForeign
  · rw [ledWrites_concat, emit_levels]
    simp only
    rw [onReceive_reaction_of_whole board _ now hWhole.last,
      reaction?, if_neg hForeign]
    simp
  · rw [hPackets]

/- Visible events with one view are of one kind. -/
theorem visible_pair
    {event event' : Event}
    {shown : Fin 4 ⊕ Frame}
    (hView : view board event = some shown)
    (hView' : view board event' = some shown) :
    (∃ now now' draw,
        event = .exec now draw ∧
          event' = .exec now' draw) ∨
      ∃ now now' frame,
        event = .receive now frame ∧
          event' = .receive now' frame := by
  have hShown : view board event = view board event' := by
    rw [hView, hView']
  cases event with
  | exec now draw =>
      cases event' with
      | exec now' draw' =>
          simp only [view, Option.some.injEq,
            Sum.inl.injEq] at hShown
          subst hShown
          exact Or.inl ⟨now, now', draw, rfl, rfl⟩
      | receive now' frame' =>
          simp only [view] at hShown
          split at hShown <;> cases hShown
  | receive now frame =>
      have hMine :
          (decoded frame).RXnodeID = board.node := by
        by_contra hForeign
        simp [view, hForeign] at hView
      cases event' with
      | exec now' draw' => simp [view, hMine] at hShown
      | receive now' frame' =>
          have hMine' :
              (decoded frame').RXnodeID = board.node := by
            by_contra hForeign
            simp [view, hForeign] at hView'
          simp only [view, hMine, hMine', if_true,
            Option.some.injEq, Sum.inr.injEq] at hShown
          subst hShown
          exact Or.inr ⟨now, now', frame, rfl, rfl⟩

/- Two visible events with one view. -/
theorem runsAlike_of_visible
    (left right : List Event)
    {event event' : Event}
    {shown : Fin 4 ⊕ Frame}
    (hLeft : WholeFrames (left ++ [event]))
    (hView : view board event = some shown)
    (hView' : view board event' = some shown)
    (hAlike : RunsAlike board left right) :
    RunsAlike board (left ++ [event])
      (right ++ [event']) := by
  rcases hAlike with ⟨hStates, hLeds, hPackets⟩
  rcases visible_pair board hView hView' with
    ⟨now, now', draw, rfl, rfl⟩ |
      ⟨now, now', frame, rfl, rfl⟩
  · constructor
    · rw [Machine.run_concat, Machine.run_concat]
      exact exec_alike board now now' draw hStates
    · rw [ledWrites_concat, ledWrites_concat, emit_levels,
        emit_levels, hLeds]
    · rw [telemetry_concat, telemetry_concat, emit_packets,
        emit_packets, List.map_append, List.map_append,
        hPackets]
      simp only
      rw [hStates.pc]
      split
      · simp [hStates.fifo]
      · rfl
  · constructor
    · rw [Machine.run_concat, Machine.run_concat]
      exact
        onReceive_alike board now now' hLeft.last hStates
    · rw [ledWrites_concat, ledWrites_concat, emit_levels,
        emit_levels, hLeds]
      simp only
      rw [onReceive_reaction_of_whole board _ now
          hLeft.last,
        onReceive_reaction_of_whole board _ now' hLeft.last]
    · rw [telemetry_concat, telemetry_concat, emit_packets,
        emit_packets, List.map_append, List.map_append,
        hPackets]

theorem run_alike
    (left right : List Event)
    (hLeft : WholeFrames left)
    (hRight : WholeFrames right)
    (hSame :
      left.filterMap (view board) =
        right.filterMap (view board)) :
    RunsAlike board left right := by
  revert hLeft hRight
  apply
    Machine.paired_induction
      (P := fun left right =>
        WholeFrames left →
          WholeFrames right → RunsAlike board left right)
      ?_ ?_ ?_ ?_ left right hSame
  · intro _ _
    exact
      ⟨⟨rfl, rfl, rfl, rfl, rfl, rfl, rfl, rfl, rfl, rfl,
        rfl⟩, rfl, rfl⟩
  · intro left right event hHidden ih hLeft hRight
    exact
      (runsAlike_of_hidden board left hLeft hHidden).trans
        (ih hLeft.left hRight)
  · intro left right event hHidden ih hLeft hRight
    exact
      (ih hLeft hRight.left).trans
        (runsAlike_of_hidden board right hRight
          hHidden).symm
  · intro left right event event' shown _ hView hView' ih
      hLeft hRight
    exact
      runsAlike_of_visible board left right hLeft hView
        hView' (ih hLeft.left hRight.left)

------------------------------------------------------------
-- Interference
------------------------------------------------------------

/-
  The writes to the LED are the same, and so is the telemetry
  up to its time stamps.
-/
def Indistinguishable (left right : List Event) : Prop :=
  ledWrites board left = ledWrites board right ∧
    (telemetry board left).map StructMessage.untimed =
      (telemetry board right).map StructMessage.untimed

/-
  Replies at the same point of the two runs copied
  `ledStatus` from packets that agree on it.
-/
def SameCopies (left right : List Event) : Prop :=
  ∀ copying sending copying' sending',
    Reply board left copying sending →
      Reply board right copying' sending' →
        sending.filterMap (view board) =
            sending'.filterMap (view board) →
          (lastHeard copying).ledStatus =
            (lastHeard copying').ledStatus

theorem Reply.append
    {board : Board}
    {events copying sending : List Event}
    (hReply : Reply board events copying sending)
    (more : List Event) :
    Reply board (events ++ more) copying sending := by
  rcases hReply with
    ⟨hCopies, hBetween, now, draw, after, rfl⟩
  exact
    ⟨hCopies, hBetween, now, draw, after ++ more, by simp⟩

/- A reply's packet follows the telemetry sent before. -/
theorem Reply.telemetry
    {board : Board}
    {events copying sending : List Event}
    (hReply : Reply board events copying sending) :
    ∃ rest,
      Slave.telemetry board events =
        Slave.telemetry board sending ++
          ((machine board).run sending).fifo :: rest := by
  rcases hReply.transmits with ⟨now, draw, after, rfl⟩
  have hSplit :
      sending ++ .exec now draw :: after =
        (sending ++ [.exec now draw]) ++ after := by
    simp
  rw [hSplit, Slave.telemetry, Machine.trace_append,
    List.filterMap_append, ← Slave.telemetry,
    telemetry_concat, emit_packets]
  simp [hReply.pc]

/- Equal telemetry forces equal copies. -/
theorem sameCopies_of_untimed
    (left right : List Event)
    (hLeft : WholeFrames left)
    (hRight : WholeFrames right)
    (hPackets :
      (telemetry board left).map StructMessage.untimed =
        (telemetry board right).map
          StructMessage.untimed) :
    SameCopies board left right := by
  intro copying sending copying' sending' hReply hReply'
    hSame
  rcases hReply.telemetry with ⟨rest, hSplit⟩
  rcases hReply'.telemetry with ⟨rest', hSplit'⟩
  have hSending := hReply.whole_sending hLeft
  have hSending' := hReply'.whole_sending hRight
  have hLength :
      ((telemetry board sending).map
          StructMessage.untimed).length =
        ((telemetry board sending').map
          StructMessage.untimed).length := by
    have hMasked :=
      congrArg List.length
        (run_alike board sending sending' hSending
          hSending' hSame).telemetry
    simpa using hMasked
  rw [hSplit, hSplit', List.map_append, List.map_append]
    at hPackets
  have hTail := (List.append_inj hPackets hLength).2
  simp only [List.map_cons, List.cons.injEq] at hTail
  have hLed := ((untimed_eq_iff _ _).mp hTail.1).2
  rw [hReply.copied hLeft, hReply'.copied hRight] at hLed
  exact hLed

/- Equal copies make the telemetry equal. -/
theorem untimed_of_sameCopies
    (left right : List Event)
    (hSame :
      left.filterMap (view board) =
        right.filterMap (view board)) :
    WholeFrames left →
      WholeFrames right →
        SameCopies board left right →
          (telemetry board left).map
              StructMessage.untimed =
            (telemetry board right).map
              StructMessage.untimed := by
  apply
    Machine.paired_induction
      (P := fun left right =>
        WholeFrames left →
          WholeFrames right →
            SameCopies board left right →
              (telemetry board left).map
                  StructMessage.untimed =
                (telemetry board right).map
                  StructMessage.untimed)
      ?_ ?_ ?_ ?_ left right hSame
  · intro _ _ _
    rfl
  · intro left right event hHidden ih hLeft hRight hCopies
    rw [telemetry_of_hidden board left hHidden]
    apply ih hLeft.left hRight
    intro copying sending copying' sending' hReply
    exact
      hCopies copying sending copying' sending'
        (hReply.append [event])
  · intro left right event hHidden ih hLeft hRight hCopies
    rw [telemetry_of_hidden board right hHidden]
    apply ih hLeft hRight.left
    intro copying sending copying' sending' hReply hReply'
    exact
      hCopies copying sending copying' sending' hReply
        (hReply'.append [event])
  · intro left right event event' shown hSame hView hView'
      ih hLeft hRight hCopies
    have hEarlier :=
      ih hLeft.left hRight.left
        (fun copying sending copying' sending' hReply
            hReply' =>
          hCopies copying sending copying' sending'
            (hReply.append [event])
            (hReply'.append [event']))
    have hAlike :=
      run_alike board left right hLeft.left hRight.left
        hSame
    rw [telemetry_concat, telemetry_concat, emit_packets,
      emit_packets, List.map_append, List.map_append,
      hEarlier]
    congr 1
    rcases visible_pair board hView hView' with
      ⟨now, now', draw, rfl, rfl⟩ |
        ⟨now, now', frame, rfl, rfl⟩
    · simp only
      rw [← hAlike.states.pc]
      by_cases hPc :
          ((machine board).run left).pc = .endPacket
      · -- both packets leave here, each with its own copy
        rcases exists_reply board rfl hPc with
          ⟨copying, hReply⟩
        have hPc' := hPc
        rw [hAlike.states.pc] at hPc'
        rcases exists_reply board rfl hPc' with
          ⟨copying', hReply'⟩
        have hLed :=
          hCopies copying left copying' right hReply
            hReply' hSame
        rw [← hReply.copied hLeft, ← hReply'.copied hRight]
          at hLed
        have hUntimed :=
          (untimed_eq_iff _ _).mpr
            ⟨hAlike.states.fifo, hLed⟩
        simp [hPc, hUntimed]
      · simp [hPc]
    · rfl

/-
  For every two runs with the same view: they cannot be told
  apart exactly when the replies at the same points copied
  the same `ledStatus`.
-/
theorem indistinguishable_iff
    (left right : List Event)
    (hLeft : WholeFrames left)
    (hRight : WholeFrames right)
    (hSame :
      left.filterMap (view board) =
        right.filterMap (view board)) :
    Indistinguishable board left right ↔
      SameCopies board left right := by
  constructor
  · intro hIndistinguishable
    exact
      sameCopies_of_untimed board left right hLeft hRight
        hIndistinguishable.2
  · intro hCopies
    exact
      ⟨(run_alike board left right hLeft hRight
          hSame).ledWrites,
        untimed_of_sameCopies board left right hSame hLeft
          hRight hCopies⟩

------------------------------------------------------------
-- A Frame Overheard before the Reply
------------------------------------------------------------

/- A command for slave 8 with a `ledStatus` of zero. -/
def orderFor8 : Frame :=
  Master.StructMessage.frame
    { nodeID := 10
      RXnodeID := 8
      msgType := msgTypeCommand }

/- A status request for slave 9. -/
def requestFor9 : Frame :=
  Master.StructMessage.frame
    { nodeID := 10
      RXnodeID := 9
      msgType := msgTypeCheckStatus
      ledStatus := 1 }

/- Slave 8 executes the command and answers it. -/
def quietRun : List Event :=
  .receive 0 orderFor8 ::
    List.replicate 21 (.exec 0 (Fin.last 3))

/- The same, with the request overheard in between. -/
def overheardRun : List Event :=
  .receive 0 orderFor8 ::
    .receive 0 requestFor9 ::
      List.replicate 21 (.exec 0 (Fin.last 3))

theorem quietRun_whole : WholeFrames quietRun := by
  unfold WholeFrames
  decide +kernel

theorem overheardRun_whole : WholeFrames overheardRun := by
  unfold WholeFrames
  decide +kernel

theorem overheardRun_view :
    quietRun.filterMap (view board8) =
      overheardRun.filterMap (view board8) := by
  decide +kernel

/- The hypotheses can be met. -/
theorem overheardRun_indistinguishable_iff :
    Indistinguishable board8 quietRun overheardRun ↔
      SameCopies board8 quietRun overheardRun := by
  exact
    indistinguishable_iff board8 quietRun overheardRun
      quietRun_whole overheardRun_whole overheardRun_view

/- The overheard request shows in the telemetry. -/
theorem overheardRun_differs :
    WholeFrames quietRun ∧
      WholeFrames overheardRun ∧
      quietRun.filterMap (view board8) =
        overheardRun.filterMap (view board8) ∧
      ¬ Indistinguishable board8 quietRun overheardRun := by
  refine
    ⟨quietRun_whole, overheardRun_whole, overheardRun_view,
      ?_⟩
  intro hIndistinguishable
  exact absurd hIndistinguishable.2 (by decide +kernel)

end Slave

end LoRaTelemetry
