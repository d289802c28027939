import LoRaTelemetry.Library.Machine
import LoRaTelemetry.Master.Sketch

/-
  The `loop` function of the master sketch as a machine
  whose events are passes.

  Main declarations:
    * `Master.Pass`
    * `Master.loop`
    * `Master.machine`
    * `Master.getDataFromServer_cases`
    * `Master.loop_sameSender`
-/

------------------------------------------------------------
-- One Pass
------------------------------------------------------------

namespace LoRaTelemetry

namespace Master

/- One evaluation of the listening condition. -/
structure Poll where
  clock : ULong
  packet : Option Frame

/- What the outside world supplies to one pass of `loop`. -/
structure Pass where
  got : GetOutcome
  buildClock : ULong
  sentClock : ULong
  window : List Poll

/- What one pass of `loop` does to the outside world. -/
structure PassOutput where
  built : Option Build
  sent : StructMessage
  posts : List Record
deriving DecidableEq

/- The listening loop, up to its first failing condition. -/
def listenWindow :
    State → List Poll → State × List Record
| state, [] => (state, [])
| state, poll :: polls =>
    if listening state poll.clock then
      let received := onreceive state poll.packet
      let rest := listenWindow received.1 polls
      (rest.1, received.2.toList ++ rest.2)
    else
      (state, [])

/- `loop`. -/
def loop
    (config : Config)
    (state : State)
    (pass : Pass) : State × PassOutput :=
  let fetched :=
    getDataFromServer config state pass.got pass.buildClock
  let sent := send fetched.1
  let marked := markSendTime fetched.1 pass.sentClock
  let listened := listenWindow marked pass.window
  (listened.1,
    { built := fetched.2
      sent := sent
      posts := listened.2 })

/- The master from power-up, one pass per event. -/
def machine (config : Config) :
    Machine State Pass PassOutput :=
  { init := State.init
    step := fun state pass => (loop config state pass).1
    emit := fun state pass => [(loop config state pass).2] }

@[simp] theorem machine_init
    (config : Config) :
    (machine config).init = State.init := by
  rfl

@[simp] theorem machine_step
    (config : Config)
    (state : State)
    (pass : Pass) :
    (machine config).step state pass =
      (loop config state pass).1 := by
  rfl

@[simp] theorem machine_emit
    (config : Config)
    (state : State)
    (pass : Pass) :
    (machine config).emit state pass =
      [(loop config state pass).2] := by
  rfl

------------------------------------------------------------
-- What a Pass Can Change
------------------------------------------------------------

/- A positive status code that is not 200. -/
def GetOutcome.Refused (got : GetOutcome) : Prop :=
  0 < got.httpCode ∧ got.httpCode ≠ httpCodeOk

instance (got : GetOutcome) : Decidable got.Refused := by
  unfold GetOutcome.Refused
  infer_instance

/- A 200 response with a server message number above `top`. -/
def GetOutcome.Newer
    (top : CInt)
    (got : GetOutcome) : Prop :=
  got.httpCode = httpCodeOk ∧
    top.toInt < got.body.msgID.toInt

instance
    (top : CInt)
    (got : GetOutcome) :
    Decidable (got.Newer top) := by
  unfold GetOutcome.Newer
  infer_instance

variable (config : Config) (state : State)

/- The three things a call of `getDataFromServer` can do. -/
theorem getDataFromServer_cases
    (got : GetOutcome)
    (now : ULong) :
    (got.Refused ∧
        getDataFromServer config state got now =
          (state, none)) ∨
      (got.Newer state.lastServerMsgID ∧
        getDataFromServer config state got now =
          (commandBuild state got.body now,
            some
              ⟨commandPacket state got.body now,
                some got.body⟩)) ∨
      (¬ got.Refused ∧
        ¬ got.Newer state.lastServerMsgID ∧
        getDataFromServer config state got now =
          (pktBuild config state now,
            some
              ⟨statusRequest config state now, none⟩)) := by
  unfold getDataFromServer GetOutcome.Refused
    GetOutcome.Newer
  by_cases hAnswered : 0 < got.httpCode
  · by_cases hOk : got.httpCode = httpCodeOk
    · by_cases hOld :
          got.body.msgID.toInt ≤
            state.lastServerMsgID.toInt
      · refine Or.inr (Or.inr ⟨?_, ?_, ?_⟩)
        · exact fun hRefused => hRefused.2 hOk
        · exact fun hNewer =>
            absurd hNewer.2 (not_lt.mpr hOld)
        · rw [if_pos hAnswered, if_pos hOk, if_pos hOld]
      · refine Or.inr (Or.inl ⟨⟨hOk, ?_⟩, ?_⟩)
        · exact not_le.mp hOld
        · rw [if_pos hAnswered, if_pos hOk, if_neg hOld]
    · refine Or.inl ⟨⟨hAnswered, hOk⟩, ?_⟩
      rw [if_pos hAnswered, if_neg hOk]
  · refine Or.inr (Or.inr ⟨?_, ?_, ?_⟩)
    · exact fun hRefused => hAnswered hRefused.1
    · intro hNewer
      rw [hNewer.1] at hAnswered
      exact hAnswered (by decide)
    · rw [if_neg hAnswered]

/- Receiving touches the receive buffer only. -/
theorem onreceive_state
    (packet : Option Frame) :
    ∃ buffer,
      (onreceive state packet).1 =
        { state with telemtryPacketRX := buffer } := by
  cases packet with
  | none => exact ⟨state.telemtryPacketRX, rfl⟩
  | some frame =>
      refine ⟨state.telemtryPacketRX.receive frame, ?_⟩
      unfold onreceive
      simp only
      split <;> rfl

theorem listenWindow_state
    (polls : List Poll) :
    ∃ buffer,
      (listenWindow state polls).1 =
        { state with telemtryPacketRX := buffer } := by
  induction polls generalizing state with
  | nil => exact ⟨state.telemtryPacketRX, rfl⟩
  | cons poll polls ih =>
      unfold listenWindow
      by_cases hOpen : listening state poll.clock = true
      · rw [if_pos hOpen]
        rcases onreceive_state state poll.packet with
          ⟨first, hFirst⟩
        rcases ih (onreceive state poll.packet).1 with
          ⟨last, hLast⟩
        refine ⟨last, ?_⟩
        simp only
        rw [hLast, hFirst]
      · rw [if_neg hOpen]
        exact ⟨state.telemtryPacketRX, rfl⟩

/-
  The globals that decide what is sent: after a pass they
  are what `getDataFromServer` left.
-/
structure SameSender (left right : State) : Prop where
  msgCount : left.msgCount = right.msgCount
  telemtryPacketTX :
    left.telemtryPacketTX = right.telemtryPacketTX
  i : left.i = right.i
  lastServerMsgID :
    left.lastServerMsgID = right.lastServerMsgID

theorem loop_sameSender
    (pass : Pass) :
    SameSender (loop config state pass).1
      (getDataFromServer config state pass.got
        pass.buildClock).1 := by
  rcases listenWindow_state
      (markSendTime
        (getDataFromServer config state pass.got
          pass.buildClock).1 pass.sentClock)
      pass.window with
    ⟨buffer, hBuffer⟩
  simp only [loop, hBuffer]
  exact ⟨rfl, rfl, rfl, rfl⟩

end Master

end LoRaTelemetry
