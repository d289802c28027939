import LoRaTelemetry.Library.Rotation
import LoRaTelemetry.Master.Steps

/-
  Whom the master polls, over runs of its steps in any order.

  The static index of `pktBuild` is the number of status
  requests built so far, modulo the length of `slaveNode`.

  Main declarations:
    * `Master.statusRequests`
    * `Master.RoundRobin`
    * `Master.run_index`
    * `Master.statusRequests_polled`
    * `Master.run_roundRobin`
-/

------------------------------------------------------------
-- Status Requests
------------------------------------------------------------

namespace LoRaTelemetry

namespace Master

variable (config : Config)

/- The status request that an effect is, if it is one. -/
def Effect.statusRequest? : Effect → Option StructMessage
| .built ⟨packet, none⟩ => some packet
| _ => none

/- The status requests built in a run, in order. -/
def statusRequests
    (steps : List Step) : List StructMessage :=
  ((stepMachine config).trace steps).filterMap
    Effect.statusRequest?

theorem statusRequests_concat
    (steps : List Step)
    (step : Step) :
    statusRequests config (steps ++ [step]) =
      statusRequests config steps ++
        (effects config ((stepMachine config).run steps)
          step).filterMap Effect.statusRequest? := by
  simp [statusRequests]

------------------------------------------------------------
-- The Index
------------------------------------------------------------

variable {config}

/- `i++` with its wrap, on an index inside the table. -/
theorem toNat_nextIndex
    {i : CInt}
    (hInside : i.toNat < config.slaveNode.length) :
    (nextIndex config i).toNat =
      (i.toNat + 1) % config.slaveNode.length := by
  have hFits := config.fits
  have hCount :
      (BitVec.ofNat 32 config.slaveNode.length).toNat =
        config.slaveNode.length := by
    rw [BitVec.toNat_ofNat]
    exact Nat.mod_eq_of_lt (by omega)
  have hNext : (i + 1).toNat = i.toNat + 1 := by
    rw [BitVec.toNat_add]
    exact Nat.mod_eq_of_lt (by simp; omega)
  unfold nextIndex
  simp only [BitVec.le_def, hCount, hNext]
  by_cases hWrap : config.slaveNode.length ≤ i.toNat + 1
  · have hEnd : i.toNat + 1 = config.slaveNode.length := by
      omega
    rw [if_pos hWrap, BitVec.toNat_sub_of_le (by
      rw [BitVec.le_def, hCount, hNext]
      exact hWrap), hCount, hNext, hEnd, Nat.sub_self,
      Nat.mod_self]
  · rw [if_neg hWrap, hNext, Nat.mod_eq_of_lt (by omega)]

/- As an `int`, such an index is not negative. -/
theorem toInt_index
    {i : CInt}
    (hInside : i.toNat < config.slaveNode.length) :
    i.toInt = i.toNat := by
  have hFits := config.fits
  exact BitVec.toInt_eq_toNat_of_lt (by omega)

variable (config)

/- What a step does to the index and to the requests. -/
theorem perform_index
    (state : State)
    (step : Step) :
    ((effects config state step).filterMap
          Effect.statusRequest? = [] ∧
        (perform config state step).i = state.i) ∨
      ∃ now,
        (effects config state step).filterMap
            Effect.statusRequest? =
          [statusRequest config state now] ∧
        (perform config state step).i =
          nextIndex config state.i := by
  cases step with
  | fetch got now =>
      rcases getDataFromServer_cases config state got now
        with ⟨_, hCase⟩ | ⟨_, hCase⟩ | ⟨_, _, hCase⟩
      · refine Or.inl ⟨?_, ?_⟩
        · simp [effects, hCase]
        · simp [perform, hCase]
      · refine Or.inl ⟨?_, ?_⟩
        · simp [effects, hCase, Effect.statusRequest?]
        · simp [perform, hCase, commandBuild]
      · refine Or.inr ⟨now, ?_, ?_⟩
        · simp [effects, hCase, Effect.statusRequest?]
        · simp [perform, hCase, pktBuild]
  | send =>
      exact
        Or.inl
          ⟨by simp [effects, Effect.statusRequest?], rfl⟩
  | mark now => exact Or.inl ⟨rfl, rfl⟩
  | poll packet =>
      rcases onreceive_state state packet with
        ⟨buffer, hBuffer⟩
      refine Or.inl ⟨?_, ?_⟩
      · simp only [effects]
        cases (onreceive state packet).2 <;>
          simp [Effect.statusRequest?]
      · simp [perform, hBuffer]

/- The index counts the requests, modulo the length. -/
theorem run_index
    (steps : List Step) :
    ((stepMachine config).run steps).i.toNat =
      (statusRequests config steps).length %
        config.slaveNode.length := by
  have hPositive : 0 < config.slaveNode.length :=
    List.length_pos_iff.mpr config.nonempty
  induction steps using List.reverseRecOn with
  | nil =>
      have hZero :
          (statusRequests config []).length %
              config.slaveNode.length = 0 := by
        exact Nat.zero_mod _
      rw [hZero]
      rfl
  | append_singleton steps step ih =>
      rw [Machine.run_concat, stepMachine_step,
        statusRequests_concat, List.length_append]
      rcases perform_index config
          ((stepMachine config).run steps) step with
        ⟨hNone, hKept⟩ | ⟨now, hOne, hNext⟩
      · rw [hNone, hKept, ih]
        rfl
      · have hInside :
            ((stepMachine config).run steps).i.toNat <
              config.slaveNode.length := by
          rw [ih]
          exact Nat.mod_lt _ hPositive
        rw [hOne, hNext, toNat_nextIndex hInside, ih,
          Nat.mod_add_mod]
        rfl

theorem index_lt
    (steps : List Step) :
    ((stepMachine config).run steps).i.toNat <
      config.slaveNode.length := by
  rw [run_index]
  exact
    Nat.mod_lt _ (List.length_pos_iff.mpr config.nonempty)

------------------------------------------------------------
-- The Rotation
------------------------------------------------------------

/- The slave polled next has the next turn. -/
theorem turn_polled
    (steps : List Step) :
    Rotation.turn config.slaveNode
        (statusRequests config steps).length =
      some
        (polled config
          ((stepMachine config).run steps)) := by
  have hInside := index_lt config steps
  rw [Rotation.turn, ← run_index, polled,
    List.getD_eq_getElem?_getD,
    List.getElem?_eq_getElem hInside]
  rfl

/- The requests are addressed in turns. -/
theorem statusRequests_polled
    (steps : List Step) :
    (statusRequests config steps).map
        StructMessage.RXnodeID =
      Rotation.turns config.slaveNode
        (statusRequests config steps).length := by
  induction steps using List.reverseRecOn with
  | nil => rfl
  | append_singleton steps step ih =>
      rw [statusRequests_concat, List.map_append,
        List.length_append]
      rcases perform_index config
          ((stepMachine config).run steps) step with
        ⟨hNone, _⟩ | ⟨now, hOne, _⟩
      · rw [hNone, ih]
        simp
      · rw [hOne, ih, List.length_singleton,
          Rotation.turns_succ, turn_polled]
        rfl

/-
  A status request lies in `telemtryPacketTX` once it has
  been built, and has the number of `msgCount`, which goes
  up.
-/
theorem perform_stored
    (state : State)
    (step : Step)
    {request : StructMessage}
    (hBuilt :
      request ∈
        (effects config state step).filterMap
          Effect.statusRequest?) :
    (perform config state step).telemtryPacketTX =
        request ∧
      request.msgID = state.msgCount ∧
      (perform config state step).msgCount =
        state.msgCount + 1 := by
  cases step with
  | fetch got now =>
      rcases getDataFromServer_cases config state got now
        with ⟨_, hCase⟩ | ⟨_, hCase⟩ | ⟨_, _, hCase⟩
      · simp [effects, hCase] at hBuilt
      · simp [effects, hCase, Effect.statusRequest?]
          at hBuilt
      · simp only [effects, hCase, Option.map_some,
          Option.toList_some, List.filterMap_cons,
          Effect.statusRequest?, List.filterMap_nil,
          List.mem_singleton] at hBuilt
        rw [perform, hCase, hBuilt]
        exact ⟨rfl, rfl, rfl⟩
  | send => simp [effects, Effect.statusRequest?] at hBuilt
  | mark now => simp [effects] at hBuilt
  | poll packet =>
      simp only [effects] at hBuilt
      cases hPosted : (onreceive state packet).2 <;>
        simp [hPosted, Effect.statusRequest?] at hBuilt

/-
  The index is inside the table, the requests go round the
  table, no slave is ever two requests behind another, a
  request that is built is the packet to be sent, and a step
  that builds no request leaves the index alone.
-/
structure RoundRobin (steps : List Step) : Prop where
  inBounds :
    0 ≤ ((stepMachine config).run steps).i.toInt ∧
      ((stepMachine config).run steps).i.toInt <
        config.slaveNode.length
  rotation :
    ∀ index request,
      (statusRequests config steps)[index]? =
          some request →
        config.slaveNode[
            index % config.slaveNode.length]? =
          some request.RXnodeID
  fair :
    ∀ slave ∈ config.slaveNode,
      ∀ other ∈ config.slaveNode,
        (statusRequests config steps).countP
            (fun request => request.RXnodeID == slave) ≤
          (statusRequests config steps).countP
            (fun request => request.RXnodeID == other) + 1
  stored :
    ∀ before step after request,
      steps = before ++ step :: after →
        request ∈
            (effects config ((stepMachine config).run before)
              step).filterMap Effect.statusRequest? →
          ((stepMachine config).run
              (before ++ [step])).telemtryPacketTX =
              request ∧
            request.msgID =
              ((stepMachine config).run before).msgCount ∧
            ((stepMachine config).run
                (before ++ [step])).msgCount =
              ((stepMachine config).run before).msgCount + 1
  unshifted :
    ∀ step,
      statusRequests config (steps ++ [step]) =
          statusRequests config steps →
        ((stepMachine config).run (steps ++ [step])).i =
          ((stepMachine config).run steps).i

/- The requests for one slave are its turns. -/
theorem countP_statusRequests
    (steps : List Step)
    (slave : CInt) :
    (statusRequests config steps).countP
        (fun request => request.RXnodeID == slave) =
      (Rotation.turns config.slaveNode
        (statusRequests config steps).length).count
          slave := by
  rw [← statusRequests_polled, List.count,
    List.countP_map]
  rfl

/- For every run, on a table of distinct ids. -/
theorem run_roundRobin
    (hDistinct : config.slaveNode.Nodup)
    (steps : List Step) :
    RoundRobin config steps := by
  have hInside := index_lt config steps
  constructor
  · rw [toInt_index hInside]
    omega
  · intro index request hRequest
    rcases List.getElem?_eq_some_iff.mp hRequest with
      ⟨hIndex, _⟩
    have hTurn :=
      Rotation.getElem?_turns config.nonempty hIndex
    rw [← statusRequests_polled, List.getElem?_map,
      hRequest] at hTurn
    exact hTurn.symm
  · intro slave hSlave other hOther
    rw [countP_statusRequests, countP_statusRequests]
    exact
      Rotation.count_turns_le hDistinct hSlave hOther _
  · intro before step after request _ hBuilt
    rw [Machine.run_concat, stepMachine_step]
    exact perform_stored config _ step hBuilt
  · intro step hSame
    rw [Machine.run_concat, stepMachine_step]
    rcases perform_index config
        ((stepMachine config).run steps) step with
      ⟨_, hKept⟩ | ⟨now, hOne, _⟩
    · exact hKept
    · rw [statusRequests_concat, hOne] at hSame
      simp at hSame

------------------------------------------------------------
-- Requests around a Command
------------------------------------------------------------

/- A GET that fails, and one that fetches a command. -/
def failedGet : GetOutcome :=
  { httpCode := -1
    body := none }

def commandGet : GetOutcome :=
  { httpCode := 200
    body := some { msgID := some 1, nodeID := some 9 } }

/- A packet of slave 9 for the master. -/
def replyOf9 : Frame :=
  Slave.StructMessage.frame
    { nodeID := 9
      RXnodeID := 10
      msgType := msgTypeTelemtry
      msgID := 1 }

/- Three requests, a command and a reception between them. -/
def mixedSteps : List Step :=
  [.fetch failedGet 0, .send, .fetch commandGet 1200, .send,
    .poll (some replyOf9), .fetch failedGet 2400,
    .fetch failedGet 3600]

/- The hypothesis can be met, and the command skips no one. -/
theorem mixedSteps_roundRobin :
    (statusRequests deployed mixedSteps).map
        StructMessage.RXnodeID =
      [8, 9, 8] ∧
      RoundRobin deployed mixedSteps := by
  refine ⟨by decide +kernel, ?_⟩
  exact run_roundRobin deployed (by decide) mixedSteps

end Master

end LoRaTelemetry
