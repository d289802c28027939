import LoRaTelemetry.Master.ListenWindow
import LoRaTelemetry.Master.Reception

/-
  The order of the calls of `loop`: at any moment the steps
  taken are those of some passes and the beginning of one
  more.

  Main declarations:
    * `Master.Call`
    * `Master.programSteps`
    * `Master.Program`
    * `Master.Program.poll`
-/

------------------------------------------------------------
-- Passes as Programs
------------------------------------------------------------

namespace LoRaTelemetry

namespace Master

/-
  The next call of `loop`. `send` calls the driver from
  `beginPacket` to `receive`; `wait` is the wait inside of
  `endPacket`.
-/
inductive Call where
| getDataFromServer
| beginPacket
| write
| endPacket
| wait
| receive
| lastSendTime
| onreceive
deriving DecidableEq, Repr

variable (config : Config)

/- The steps of some passes, one pass after another. -/
def programSteps : State → List Pass → List Step
| _, [] => []
| state, pass :: passes =>
    passSteps config state pass ++
      programSteps (loop config state pass).1 passes

theorem programSteps_concat
    (state : State)
    (passes : List Pass)
    (pass : Pass) :
    programSteps config state (passes ++ [pass]) =
      programSteps config state passes ++
        passSteps config
          ((machine config).runFrom state passes) pass := by
  induction passes generalizing state with
  | nil => simp [programSteps, Machine.runFrom]
  | cons first passes ih =>
      rw [List.cons_append, programSteps, ih, programSteps,
        List.append_assoc]
      rfl

/- Passes of `loop` are the run of their steps. -/
theorem runFrom_programSteps
    (state : State)
    (passes : List Pass) :
    (stepMachine config).runFrom state
          (programSteps config state passes) =
        (machine config).runFrom state passes ∧
      (stepMachine config).traceFrom state
          (programSteps config state passes) =
        ((machine config).traceFrom state passes).flatMap
          PassOutput.effects := by
  induction passes generalizing state with
  | nil => exact ⟨rfl, rfl⟩
  | cons pass passes ih =>
      rcases runFrom_passSteps config state pass with
        ⟨hRun, hTrace⟩
      rcases ih (loop config state pass).1 with
        ⟨hRunRest, hTraceRest⟩
      constructor
      · rw [programSteps, Machine.runFrom_append, hRun,
          hRunRest]
        rfl
      · rw [programSteps, Machine.traceFrom_append, hRun,
          hTrace, hTraceRest, Machine.traceFrom,
          List.flatMap_append]
        simp

/- The condition of the listening loop holds at each poll. -/
def Open (state : State) (polls : List Poll) : Prop :=
  ∀ poll ∈ polls, listening state poll.clock = true

/- While it holds, every round calls `onreceive`. -/
theorem windowSteps_of_open
    (state : State)
    (polls rest : List Poll)
    (hOpen : Open state polls) :
    windowSteps state (polls ++ rest) =
      polls.map (fun poll => .poll poll.packet) ++
        windowSteps (listenWindow state polls).1 rest := by
  induction polls generalizing state with
  | nil => rfl
  | cons poll polls ih =>
      have hNow :
          listening state poll.clock = true :=
        hOpen poll List.mem_cons_self
      have hLater :
          Open (onreceive state poll.packet).1 polls := by
        intro later hMember
        rw [listening_onreceive]
        exact hOpen later (List.mem_cons_of_mem _ hMember)
      rw [List.cons_append, windowSteps, if_pos hNow,
        ih _ hLater, listenWindow, if_pos hNow]
      rfl

theorem listening_listenWindow
    (state : State)
    (polls : List Poll)
    (clock : ULong) :
    listening (listenWindow state polls).1 clock =
      listening state clock := by
  rcases listenWindow_state state polls with
    ⟨buffer, hBuffer⟩
  rw [hBuffer]
  rfl

/- The beginning of a pass, up to a call. -/
def Begun (state : State) : Call → List Step → Prop
| .getDataFromServer, steps => steps = []
| .onreceive, steps =>
    ∃ pass : Pass,
      Open
          (markSendTime
            (getDataFromServer config state pass.got
              pass.buildClock).1 pass.sentClock)
          pass.window ∧
        steps = passSteps config state pass
| call, steps =>
    ∃ got now,
      steps =
        if call ∈ [.beginPacket, .write, .endPacket] then
          [.fetch got now]
        else
          [.fetch got now, .send]

/- Whole passes, and the beginning of one up to a call. -/
def Program (call : Call) (steps : List Step) : Prop :=
  ∃ passes begun,
    steps = programSteps config State.init passes ++ begun ∧
      Begun config ((machine config).run passes) call begun

theorem Program.init :
    Program config .getDataFromServer [] := by
  exact ⟨[], [], rfl, rfl⟩

variable {config} {steps : List Step}

theorem Program.fetch
    (hProgram : Program config .getDataFromServer steps)
    (got : GetOutcome)
    (now : ULong) :
    Program config .beginPacket
      (steps ++ [.fetch got now]) := by
  rcases hProgram with ⟨passes, begun, rfl, rfl⟩
  exact
    ⟨passes, [.fetch got now], by simp, got, now, rfl⟩

/- Calls of the driver that the sketch does not see. -/
theorem Program.call
    {call next : Call}
    (hProgram : Program config call steps)
    (hNext :
      (call, next) ∈
        [(Call.beginPacket, Call.write),
          (Call.write, Call.endPacket),
          (Call.wait, Call.receive),
          (Call.receive, Call.lastSendTime)]) :
    Program config next steps := by
  rcases hProgram with ⟨passes, begun, hSteps, hBegun⟩
  refine ⟨passes, begun, hSteps, ?_⟩
  simp only [List.mem_cons, Prod.mk.injEq,
    List.not_mem_nil, or_false] at hNext
  rcases hNext with
    ⟨rfl, rfl⟩ | ⟨rfl, rfl⟩ | ⟨rfl, rfl⟩ | ⟨rfl, rfl⟩ <;>
    exact hBegun

theorem Program.send
    (hProgram : Program config .endPacket steps) :
    Program config .wait (steps ++ [.send]) := by
  rcases hProgram with
    ⟨passes, begun, rfl, got, now, rfl⟩
  exact
    ⟨passes, [.fetch got now, .send], by simp, got, now,
      rfl⟩

theorem Program.mark
    (hProgram : Program config .lastSendTime steps)
    (now : ULong) :
    Program config .onreceive (steps ++ [.mark now]) := by
  rcases hProgram with
    ⟨passes, begun, rfl, got, clock, rfl⟩
  refine
    ⟨passes, [.fetch got clock, .send, .mark now], by simp,
      ⟨got, clock, now, []⟩, ?_, rfl⟩
  intro poll hPoll
  cases hPoll

/- A pass listens on from where its steps have led. -/
theorem passSteps_window
    (state : State)
    (pass : Pass)
    (rest : List Poll)
    (hOpen :
      Open
        (markSendTime
          (getDataFromServer config state pass.got
            pass.buildClock).1 pass.sentClock)
        pass.window) :
    passSteps config state
        { pass with window := pass.window ++ rest } =
      passSteps config state pass ++
        windowSteps
          ((stepMachine config).runFrom state
            (passSteps config state pass)) rest := by
  have hAll :=
    windowSteps_of_open _ pass.window [] hOpen
  rw [List.append_nil, windowSteps, List.append_nil] at hAll
  rw [(runFrom_passSteps config state pass).1, passSteps,
    windowSteps_of_open _ pass.window rest hOpen, ← hAll,
    ← List.append_assoc]
  rfl

/- A round of the listening loop goes on or ends the pass. -/
theorem Program.poll
    (hProgram : Program config .onreceive steps)
    (now : ULong)
    (packet : Option Frame) :
    if listening ((stepMachine config).run steps) now then
      Program config .onreceive (steps ++ [.poll packet])
    else
      Program config .getDataFromServer steps := by
  rcases hProgram with
    ⟨passes, begun, rfl, pass, hOpen, rfl⟩
  let next : Pass :=
    { pass with window := pass.window ++ [⟨now, packet⟩] }
  have hNext :=
    passSteps_window ((machine config).run passes) pass
      [⟨now, packet⟩] hOpen
  have hRun :
      (stepMachine config).run
          (programSteps config State.init passes ++
            passSteps config ((machine config).run passes)
              pass) =
        (stepMachine config).runFrom
          ((machine config).run passes)
          (passSteps config ((machine config).run passes)
            pass) := by
    rw [Machine.run_append, Machine.run, stepMachine_init,
      (runFrom_programSteps config State.init passes).1]
    rfl
  rw [← hRun] at hNext
  split
  · rename_i hGoing
    rw [windowSteps, if_pos hGoing, windowSteps] at hNext
    refine ⟨passes, _, ?_, next, ?_, hNext.symm⟩
    · rw [List.append_assoc]
    · intro poll hPoll
      rcases List.mem_append.mp hPoll with hOld | hNew
      · exact hOpen poll hOld
      · rw [List.mem_singleton.mp hNew]
        rw [hRun, (runFrom_passSteps config _ pass).1,
          loop, listening_listenWindow] at hGoing
        exact hGoing
  · rename_i hOver
    rw [windowSteps, if_neg hOver, List.append_nil] at hNext
    refine ⟨passes ++ [next], [], ?_, rfl⟩
    rw [programSteps_concat, List.append_nil]
    exact congrArg _ hNext.symm

end Master

end LoRaTelemetry
