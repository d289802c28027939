import LoRaTelemetry.Library.RunningMax
import LoRaTelemetry.Master.Loop

/-
  Which server commands the master turns into packets, over
  runs of `loop`.

  The static watermark `lastServerMsgID` is the highest
  message number of the 200 responses so far, and zero; a
  command is built exactly for the responses above it.

  Main declarations:
    * `Master.responses`
    * `Master.run_lastServerMsgID`
    * `Master.loop_order`
    * `Master.SendsBuilt`
    * `Master.commands_deduplicated`
-/

------------------------------------------------------------
-- Responses and Orders
------------------------------------------------------------

namespace LoRaTelemetry

namespace Master

open RunningMax

/- The body of a 200 response. -/
def GetOutcome.response (got : GetOutcome) : Option Body :=
  if got.httpCode = httpCodeOk then some got.body else none

/- The bodies of the 200 responses seen by some passes. -/
def responses (passes : List Pass) : List Body :=
  passes.filterMap fun pass => pass.got.response

/- The server message number of a response. -/
def serverMsgID (body : Body) : Int :=
  body.msgID.toInt

/- The response that a pass turned into a command. -/
def PassOutput.order (output : PassOutput) : Option Body :=
  output.built.bind Build.order

/- A command packet that carries out a response. -/
structure CarriesOut
    (body : Body)
    (packet : StructMessage) : Prop where
  msgType : packet.msgType = msgTypeCommand
  RXnodeID : packet.RXnodeID = body.nodeID
  iCommType :
    packet.iCommType.toNat = body.iCommType.toNat % 256
  tempAir : packet.tempAir = body.tempAir
  ledStatus : packet.ledStatus = body.ledStatus

theorem commandPacket_carriesOut
    (state : State)
    (body : Body)
    (now : ULong) :
    CarriesOut body (commandPacket state body now) := by
  refine ⟨rfl, rfl, ?_, rfl, rfl⟩
  simp [commandPacket]

variable (config : Config)

------------------------------------------------------------
-- The Watermark
------------------------------------------------------------

theorem responses_concat
    (passes : List Pass)
    (pass : Pass) :
    responses (passes ++ [pass]) =
      responses passes ++ pass.got.response.toList := by
  simp only [responses, List.filterMap_append]
  cases hResponse : pass.got.response <;>
    simp [hResponse]

/- Only a newer response moves the watermark. -/
theorem loop_lastServerMsgID
    (state : State)
    (pass : Pass) :
    (loop config state pass).1.lastServerMsgID =
      if pass.got.Newer state.lastServerMsgID then
        pass.got.body.msgID
      else
        state.lastServerMsgID := by
  have hSender := loop_sameSender config state pass
  rw [hSender.lastServerMsgID]
  rcases getDataFromServer_cases config state pass.got
      pass.buildClock with
    ⟨hRefused, hFetched⟩ | ⟨hNewer, hFetched⟩ |
      ⟨_, hOld, hFetched⟩
  · rw [hFetched, if_neg]
    exact fun hNewer => hRefused.2 hNewer.1
  · rw [hFetched, if_pos hNewer]
    rfl
  · rw [hFetched, if_neg hOld]
    rfl

/- A command is built exactly for a newer response. -/
theorem loop_order
    (state : State)
    (pass : Pass) :
    (loop config state pass).2.order =
      if pass.got.Newer state.lastServerMsgID then
        some pass.got.body
      else
        none := by
  rcases getDataFromServer_cases config state pass.got
      pass.buildClock with
    ⟨hRefused, hFetched⟩ | ⟨hNewer, hFetched⟩ |
      ⟨_, hOld, hFetched⟩
  · rw [if_neg]
    · simp [loop, hFetched, PassOutput.order]
    · exact fun hNewer => hRefused.2 hNewer.1
  · rw [if_pos hNewer]
    simp [loop, hFetched, PassOutput.order]
  · rw [if_neg hOld]
    simp [loop, hFetched, PassOutput.order]

/- The watermark is the highest number seen, and zero. -/
theorem run_lastServerMsgID
    (passes : List Pass) :
    ((machine config).run passes).lastServerMsgID.toInt =
      highest serverMsgID 0 (responses passes) := by
  induction passes using List.reverseRecOn with
  | nil => rfl
  | append_singleton passes pass ih =>
      rw [Machine.run_concat, machine_step,
        loop_lastServerMsgID, responses_concat]
      by_cases hOk : pass.got.httpCode = httpCodeOk
      · have hResponse :
            pass.got.response = some pass.got.body := by
          simp [GetOutcome.response, hOk]
        rw [hResponse, Option.toList_some, highest_concat,
          ← ih]
        by_cases hNewer :
            pass.got.Newer
              ((machine config).run passes).lastServerMsgID
        · rw [if_pos hNewer]
          exact (max_eq_right hNewer.2.le).symm
        · rw [if_neg hNewer]
          have hOld :
              serverMsgID pass.got.body ≤
                ((machine config).run
                  passes).lastServerMsgID.toInt := by
            by_contra hAbove
            exact hNewer ⟨hOk, not_le.mp hAbove⟩
          exact (max_eq_left hOld).symm
      · have hResponse : pass.got.response = none := by
          simp [GetOutcome.response, hOk]
        rw [hResponse, if_neg (fun hNewer => hOk hNewer.1),
          ih]
        simp

/- Being newer than the watermark is a strict maximum. -/
theorem newer_iff_isStrictMaximum
    (passes : List Pass)
    (got : GetOutcome) :
    got.Newer
        ((machine config).run passes).lastServerMsgID ↔
      got.httpCode = httpCodeOk ∧
        IsStrictMaximum serverMsgID 0 (responses passes)
          got.body := by
  rw [isStrictMaximum_iff, ← run_lastServerMsgID config]
  rfl

------------------------------------------------------------
-- Deduplication
------------------------------------------------------------

/-
  A pass sends what it leaves in `telemtryPacketTX`: the
  packet that it has built, under the number of `msgCount`,
  or else the one from before.
-/
structure SendsBuilt
    (state : State)
    (pass : Pass) : Prop where
  sent :
    (loop config state pass).2.sent =
      (loop config state pass).1.telemtryPacketTX
  built :
    ∀ build,
      (loop config state pass).2.built = some build →
        (loop config state pass).1.telemtryPacketTX =
            build.packet ∧
          build.packet.msgID = state.msgCount ∧
          (loop config state pass).1.msgCount =
            state.msgCount + 1
  notBuilt :
    (loop config state pass).2.built = none →
      (loop config state pass).1.telemtryPacketTX =
          state.telemtryPacketTX ∧
        (loop config state pass).1.msgCount =
          state.msgCount

/-
  What the master does with the responses of a run: the
  commands built are the strict left-to-right maxima of the
  server message numbers above zero, each in its own pass,
  which sends it.
-/
structure Deduplicated (passes : List Pass) : Prop where
  commands :
    ((machine config).trace passes).filterMap
        PassOutput.order =
      strictMaxima serverMsgID 0 (responses passes)
  inPass :
    ∀ before pass after,
      passes = before ++ pass :: after →
        (loop config ((machine config).run before)
            pass).2.order =
          if pass.got.httpCode = httpCodeOk ∧
              IsStrictMaximum serverMsgID 0
                (responses before) pass.got.body then
            some pass.got.body
          else
            none
  carried :
    ∀ output ∈ (machine config).trace passes,
      ∀ build, output.built = some build →
        match build.order with
        | some body => CarriesOut body build.packet
        | none => build.packet.msgType = msgTypeCheckStatus
  sent :
    ∀ before pass after,
      passes = before ++ pass :: after →
        SendsBuilt config ((machine config).run before) pass
  watermark :
    ∀ before, before <+: passes →
      ((machine config).run before).lastServerMsgID.toInt =
        highest serverMsgID 0 (responses before)
  kept :
    ∀ before pass after,
      passes = before ++ pass :: after →
      (loop config ((machine config).run before)
          pass).2.order = none →
        ((machine config).run
            (before ++ [pass])).lastServerMsgID =
          ((machine config).run before).lastServerMsgID

theorem order_inPass
    (before : List Pass)
    (pass : Pass) :
    (loop config ((machine config).run before)
        pass).2.order =
      if pass.got.httpCode = httpCodeOk ∧
          IsStrictMaximum serverMsgID 0
            (responses before) pass.got.body then
        some pass.got.body
      else
        none := by
  rw [loop_order]
  exact
    if_congr (newer_iff_isStrictMaximum config before
      pass.got) rfl rfl

/- Each pass extends the list of strict maxima alike. -/
theorem trace_orders
    (passes : List Pass) :
    ((machine config).trace passes).filterMap
        PassOutput.order =
      strictMaxima serverMsgID 0 (responses passes) := by
  induction passes using List.reverseRecOn with
  | nil => rfl
  | append_singleton passes pass ih =>
      rw [Machine.trace_concat, List.filterMap_append, ih,
        responses_concat, machine_emit]
      have hOrder := order_inPass config passes pass
      by_cases hOk : pass.got.httpCode = httpCodeOk
      · have hResponse :
            pass.got.response = some pass.got.body := by
          simp [GetOutcome.response, hOk]
        rw [hResponse, Option.toList_some,
          strictMaxima_concat]
        by_cases hMaximum :
            IsStrictMaximum serverMsgID 0
              (responses passes) pass.got.body
        · rw [if_pos ⟨hOk, hMaximum⟩] at hOrder
          simp [hOrder, hMaximum]
        · rw [if_neg (fun h => hMaximum h.2)] at hOrder
          simp [hOrder, hMaximum]
      · have hResponse : pass.got.response = none := by
          simp [GetOutcome.response, hOk]
        rw [if_neg (fun h => hOk h.1)] at hOrder
        simp [hOrder, hResponse]

/- Every packet built is of the kind its order says. -/
theorem built_carried
    (state : State)
    (pass : Pass)
    {build : Build}
    (hBuilt :
      (loop config state pass).2.built = some build) :
    match build.order with
    | some body => CarriesOut body build.packet
    | none =>
        build.packet.msgType = msgTypeCheckStatus := by
  have hFetched :
      (getDataFromServer config state pass.got
        pass.buildClock).2 = some build := by
    exact hBuilt
  rcases getDataFromServer_cases config state pass.got
      pass.buildClock with
    ⟨_, hCase⟩ | ⟨_, hCase⟩ | ⟨_, _, hCase⟩
  · rw [hCase] at hFetched
    cases hFetched
  · rw [hCase] at hFetched
    cases hFetched
    exact commandPacket_carriesOut state pass.got.body
      pass.buildClock
  · rw [hCase] at hFetched
    cases hFetched
    rfl

/- What is built is stored, numbered and sent. -/
theorem loop_sendsBuilt
    (state : State)
    (pass : Pass) :
    SendsBuilt config state pass := by
  have hSender := loop_sameSender config state pass
  constructor
  case sent => exact hSender.telemtryPacketTX.symm
  case built =>
    intro build hBuilt
    have hFetched :
        (getDataFromServer config state pass.got
          pass.buildClock).2 = some build := hBuilt
    rw [hSender.telemtryPacketTX, hSender.msgCount]
    rcases getDataFromServer_cases config state pass.got
        pass.buildClock with
      ⟨_, hCase⟩ | ⟨_, hCase⟩ | ⟨_, _, hCase⟩
    · rw [hCase] at hFetched
      cases hFetched
    · rw [hCase] at hFetched ⊢
      cases hFetched
      exact ⟨rfl, rfl, rfl⟩
    · rw [hCase] at hFetched ⊢
      cases hFetched
      exact ⟨rfl, rfl, rfl⟩
  case notBuilt =>
    intro hNone
    have hFetched :
        (getDataFromServer config state pass.got
          pass.buildClock).2 = none := hNone
    rw [hSender.telemtryPacketTX, hSender.msgCount]
    rcases getDataFromServer_cases config state pass.got
        pass.buildClock with
      ⟨_, hCase⟩ | ⟨_, hCase⟩ | ⟨_, _, hCase⟩
    · rw [hCase]
      exact ⟨rfl, rfl⟩
    · rw [hCase] at hFetched
      cases hFetched
    · rw [hCase] at hFetched
      cases hFetched

/- Every run of the master deduplicates its commands. -/
theorem commands_deduplicated
    (passes : List Pass) :
    Deduplicated config passes := by
  refine
    { commands := trace_orders config passes
      inPass := ?_
      carried := ?_
      sent := ?_
      watermark := ?_
      kept := ?_ }
  · intro before pass after _
    exact order_inPass config before pass
  · intro output hOutput build hBuilt
    rw [Machine.mem_trace_iff] at hOutput
    rcases hOutput with ⟨before, pass, after, _, hEmit⟩
    have hOutput :
        output =
          (loop config
            ((machine config).run before) pass).2 := by
      simpa using hEmit
    rw [hOutput] at hBuilt
    exact built_carried config _ pass hBuilt
  · intro before pass after _
    exact loop_sendsBuilt config _ pass
  · intro before _
    exact run_lastServerMsgID config before
  · intro before pass after _ hNone
    rw [Machine.run_concat, machine_step,
      loop_lastServerMsgID]
    rw [loop_order] at hNone
    by_cases hNewer :
        pass.got.Newer
          ((machine config).run before).lastServerMsgID
    · rw [if_pos hNewer] at hNone
      cases hNone
    · rw [if_neg hNewer]

end Master

end LoRaTelemetry
