import LoRaTelemetry.Master.Loop

/-
  The statements of the master's `loop` as steps of their
  own, in any order; a pass of `loop` is one such run.

  Main declarations:
    * `Master.Step`
    * `Master.stepMachine`
    * `Master.passSteps`
    * `Master.runFrom_passSteps`
    * `Master.run_telemtryPacketRX`
-/

------------------------------------------------------------
-- Steps
------------------------------------------------------------

namespace LoRaTelemetry

namespace Master

/-
  A call of `getDataFromServer` or `send`, the assignment to
  `lastSendTime`, or a call of `onreceive`.
-/
inductive Step where
| fetch (got : GetOutcome) (now : ULong)
| send
| mark (now : ULong)
| poll (packet : Option Frame)

/- What a step does to the outside world. -/
inductive Effect where
| built (build : Build)
| sent (packet : StructMessage)
| posted (record : Record)
deriving DecidableEq

def perform
    (config : Config)
    (state : State) : Step → State
| .fetch got now =>
    (getDataFromServer config state got now).1
| .send => state
| .mark now => markSendTime state now
| .poll packet => (onreceive state packet).1

def effects
    (config : Config)
    (state : State) : Step → List Effect
| .fetch got now =>
    ((getDataFromServer config state got now).2.map
      Effect.built).toList
| .send => [.sent (send state)]
| .mark _ => []
| .poll packet =>
    ((onreceive state packet).2.map Effect.posted).toList

/- The master from power-up, one step per event. -/
def stepMachine (config : Config) :
    Machine State Step Effect :=
  { init := State.init
    step := perform config
    emit := effects config }

@[simp] theorem stepMachine_init
    (config : Config) :
    (stepMachine config).init = State.init := by
  rfl

@[simp] theorem stepMachine_step
    (config : Config)
    (state : State)
    (step : Step) :
    (stepMachine config).step state step =
      perform config state step := by
  rfl

@[simp] theorem stepMachine_emit
    (config : Config)
    (state : State)
    (step : Step) :
    (stepMachine config).emit state step =
      effects config state step := by
  rfl

------------------------------------------------------------
-- Passes as Runs of Steps
------------------------------------------------------------

variable (config : Config) (state : State)

/- The calls of `onreceive` that the window leads to. -/
def windowSteps : State → List Poll → List Step
| _, [] => []
| state, poll :: polls =>
    if listening state poll.clock then
      .poll poll.packet ::
        windowSteps (onreceive state poll.packet).1 polls
    else
      []

/- The steps of one pass of `loop`. -/
def passSteps (pass : Pass) : List Step :=
  let fetched :=
    (getDataFromServer config state pass.got
      pass.buildClock).1
  [.fetch pass.got pass.buildClock, .send,
    .mark pass.sentClock] ++
    windowSteps (markSendTime fetched pass.sentClock)
      pass.window

/- What a pass does, as effects of its steps. -/
def PassOutput.effects (output : PassOutput) : List Effect :=
  (output.built.map Effect.built).toList ++
    [.sent output.sent] ++ output.posts.map Effect.posted

theorem runFrom_windowSteps
    (polls : List Poll) :
    (stepMachine config).runFrom state
        (windowSteps state polls) =
      (listenWindow state polls).1 := by
  induction polls generalizing state with
  | nil => rfl
  | cons poll polls ih =>
      unfold windowSteps listenWindow
      by_cases hOpen : listening state poll.clock = true
      · rw [if_pos hOpen, if_pos hOpen]
        exact ih (onreceive state poll.packet).1
      · rw [if_neg hOpen, if_neg hOpen]
        rfl

theorem traceFrom_windowSteps
    (polls : List Poll) :
    (stepMachine config).traceFrom state
        (windowSteps state polls) =
      (listenWindow state polls).2.map Effect.posted := by
  induction polls generalizing state with
  | nil => rfl
  | cons poll polls ih =>
      unfold windowSteps listenWindow
      by_cases hOpen : listening state poll.clock = true
      · rw [if_pos hOpen, if_pos hOpen, Machine.traceFrom,
          stepMachine_step, perform, ih, stepMachine_emit,
          effects, List.map_append]
        cases (onreceive state poll.packet).2 <;> rfl
      · rw [if_neg hOpen, if_neg hOpen]
        rfl

/- A pass of `loop` is the run of its steps. -/
theorem runFrom_passSteps
    (pass : Pass) :
    (stepMachine config).runFrom state
          (passSteps config state pass) =
        (loop config state pass).1 ∧
      (stepMachine config).traceFrom state
          (passSteps config state pass) =
        (loop config state pass).2.effects := by
  constructor
  · rw [passSteps, Machine.runFrom_append]
    exact runFrom_windowSteps config _ pass.window
  · rw [passSteps, Machine.traceFrom_append]
    have hWindow :=
      traceFrom_windowSteps config
        (markSendTime
          (getDataFromServer config state pass.got
            pass.buildClock).1 pass.sentClock)
        pass.window
    simp only [loop, PassOutput.effects, ← hWindow]
    rfl

------------------------------------------------------------
-- The Receive Buffer
------------------------------------------------------------

/- The frame received at a step. -/
def Step.frame : Step → Option Frame
| .poll packet => packet
| _ => none

/- The frames received in a run. -/
def received (steps : List Step) : List Frame :=
  steps.filterMap Step.frame

theorem received_concat
    (steps : List Step)
    (step : Step) :
    received (steps ++ [step]) =
      received steps ++ step.frame.toList := by
  simp only [received, List.filterMap_append]
  cases hFrame : step.frame <;> simp [hFrame]

theorem getDataFromServer_telemtryPacketRX
    (got : GetOutcome)
    (now : ULong) :
    (getDataFromServer config state got
        now).1.telemtryPacketRX =
      state.telemtryPacketRX := by
  rcases getDataFromServer_cases config state got now with
    ⟨_, hCase⟩ | ⟨_, hCase⟩ | ⟨_, _, hCase⟩ <;>
    rw [hCase] <;>
    rfl

theorem onreceive_telemtryPacketRX
    (frame : Frame) :
    (onreceive state (some frame)).1.telemtryPacketRX =
      state.telemtryPacketRX.receive frame := by
  unfold onreceive
  simp only
  split <;> rfl

/- The receive buffer is left by the frames received. -/
theorem run_telemtryPacketRX
    (steps : List Step) :
    ((stepMachine config).run steps).telemtryPacketRX =
      (received steps).foldl PacketBuffer.receive
        PacketBuffer.zero := by
  induction steps using List.reverseRecOn with
  | nil => rfl
  | append_singleton steps step ih =>
      rw [Machine.run_concat, stepMachine_step,
        received_concat]
      cases step with
      | fetch got now =>
          rw [perform, getDataFromServer_telemtryPacketRX,
            ih]
          simp [Step.frame]
      | send => simpa [perform, Step.frame] using ih
      | mark now =>
          simpa [perform, markSendTime, Step.frame] using ih
      | poll packet =>
          cases packet with
          | none =>
              simpa [perform, onreceive, Step.frame]
                using ih
          | some frame =>
              rw [perform, onreceive_telemtryPacketRX, ih]
              simp [Step.frame]

end Master

end LoRaTelemetry
