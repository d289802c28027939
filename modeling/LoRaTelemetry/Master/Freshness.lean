import LoRaTelemetry.Library.Words
import LoRaTelemetry.Master.Loop
import Mathlib.Data.List.Nodup

/-
  Which packets the master transmits, over runs of `loop`.

  A pass transmits a packet built in that pass unless its
  GET was answered with a positive status other than 200;
  such a pass transmits the packet of an earlier pass, or
  the zero-initialised one.

  Main declarations:
    * `Master.Fresh`
    * `Master.run_msgCount`
    * `Master.fresh_iff`
-/

------------------------------------------------------------
-- Fresh Runs
------------------------------------------------------------

namespace LoRaTelemetry

namespace Master

/-
  Every pass transmits what it built; message numbers count
  from one within the range of `int`, so that no packet is
  transmitted twice.
-/
structure Fresh (outputs : List PassOutput) : Prop where
  built :
    ∀ output ∈ outputs,
      ∃ build,
        output.built = some build ∧
          output.sent = build.packet
  notZero :
    ∀ output ∈ outputs, output.sent ≠ {}
  numbered :
    outputs.length < 2 ^ 31 →
      outputs.map (fun output =>
          output.sent.msgID.toInt) =
        (List.range outputs.length).map (fun index : Nat =>
          (index : Int) + 1)
  once :
    outputs.length < 2 ^ 31 →
      (outputs.map PassOutput.sent).Nodup

variable (config : Config)

/- What a pass does when its GET was not refused. -/
theorem loop_of_not_refused
    (state : State)
    (pass : Pass)
    (hAccepted : ¬ pass.got.Refused) :
    ∃ build,
      (loop config state pass).2.built = some build ∧
        (loop config state pass).2.sent = build.packet ∧
        build.packet.nodeID = node ∧
        build.packet.msgID = state.msgCount ∧
        (loop config state pass).1.msgCount =
          state.msgCount + 1 := by
  have hSender := loop_sameSender config state pass
  rcases getDataFromServer_cases config state pass.got
      pass.buildClock with
    ⟨hRefused, _⟩ | ⟨_, hFetched⟩ | ⟨_, _, hFetched⟩
  · exact absurd hRefused hAccepted
  · rw [hFetched] at hSender
    refine ⟨⟨commandPacket state pass.got.body
      pass.buildClock, some pass.got.body⟩, ?_, ?_, rfl,
      rfl, hSender.msgCount⟩
    · simp [loop, hFetched]
    · simp [loop, hFetched, send, commandBuild]
  · rw [hFetched] at hSender
    refine ⟨⟨statusRequest config state pass.buildClock,
      none⟩, ?_, ?_, rfl, rfl, hSender.msgCount⟩
    · simp [loop, hFetched]
    · simp [loop, hFetched, send, pktBuild]

/- A refused pass builds nothing. -/
theorem loop_of_refused
    (state : State)
    (pass : Pass)
    (hRefused : pass.got.Refused) :
    (loop config state pass).2.built = none ∧
      (loop config state pass).2.sent =
        state.telemtryPacketTX := by
  rcases getDataFromServer_cases config state pass.got
      pass.buildClock with
    ⟨_, hFetched⟩ | ⟨hNewer, _⟩ | ⟨hAccepted, _, _⟩
  · simp [loop, hFetched, send]
  · exact absurd hNewer.1 hRefused.2
  · exact absurd hRefused hAccepted

theorem length_trace
    (passes : List Pass) :
    ((machine config).trace passes).length =
      passes.length := by
  induction passes using List.reverseRecOn with
  | nil => rfl
  | append_singleton passes pass ih =>
      simp [ih]

/- The message counter counts the passes. -/
theorem run_msgCount
    (passes : List Pass)
    (hAccepted : ∀ pass ∈ passes, ¬ pass.got.Refused) :
    ((machine config).run passes).msgCount =
      BitVec.ofNat 32 (passes.length + 1) := by
  induction passes using List.reverseRecOn with
  | nil => rfl
  | append_singleton passes pass ih =>
      have hPrefix :
          ∀ earlier ∈ passes, ¬ earlier.got.Refused := by
        intro earlier hEarlier
        exact hAccepted earlier (by simp [hEarlier])
      rcases loop_of_not_refused config
          ((machine config).run passes) pass
          (hAccepted pass (by simp)) with
        ⟨_, _, _, _, _, hCount⟩
      rw [Machine.run_concat, machine_step, hCount,
        ih hPrefix, List.length_append,
        List.length_singleton,
        BitVec.ofNat_add (passes.length + 1) 1]
      rfl

/- The number of each transmitted packet. -/
theorem trace_msgIDs
    (passes : List Pass)
    (hAccepted : ∀ pass ∈ passes, ¬ pass.got.Refused) :
    ((machine config).trace passes).map
        (fun output => output.sent.msgID) =
      (List.range passes.length).map (fun index =>
        BitVec.ofNat 32 (index + 1)) := by
  induction passes using List.reverseRecOn with
  | nil => rfl
  | append_singleton passes pass ih =>
      have hPrefix :
          ∀ earlier ∈ passes, ¬ earlier.got.Refused := by
        intro earlier hEarlier
        exact hAccepted earlier (by simp [hEarlier])
      rcases loop_of_not_refused config
          ((machine config).run passes) pass
          (hAccepted pass (by simp)) with
        ⟨build, _, hSent, _, hNumber, _⟩
      rw [Machine.trace_concat, List.map_append,
        ih hPrefix, List.length_append,
        List.length_singleton, List.range_succ,
        List.map_append]
      simp [hSent, hNumber,
        run_msgCount config passes hPrefix]

/- Without a refused GET, each pass sends what it built. -/
theorem built_of_accepted
    (passes : List Pass)
    (hAccepted : ∀ pass ∈ passes, ¬ pass.got.Refused)
    (output : PassOutput)
    (hOutput : output ∈ (machine config).trace passes) :
    ∃ build,
      output.built = some build ∧
        output.sent = build.packet ∧
        build.packet.nodeID = node := by
  rw [Machine.mem_trace_iff] at hOutput
  rcases hOutput with
    ⟨before, pass, after, rfl, hEmit⟩
  rcases loop_of_not_refused config
      ((machine config).run before) pass
      (hAccepted pass (by simp)) with
    ⟨build, hBuilt, hSent, hNode, _, _⟩
  have hOutput :
      output =
        (loop config
          ((machine config).run before) pass).2 := by
    simpa using hEmit
  rw [hOutput]
  exact ⟨build, hBuilt, hSent, hNode⟩

/- The numbers count from one within the range of `int`. -/
theorem trace_numbered
    (passes : List Pass)
    (hAccepted : ∀ pass ∈ passes, ¬ pass.got.Refused)
    (hRange : passes.length < 2 ^ 31) :
    ((machine config).trace passes).map
        (fun output => output.sent.msgID.toInt) =
      (List.range passes.length).map (fun index : Nat =>
        (index : Int) + 1) := by
  have hIDs :=
    congrArg (List.map BitVec.toInt)
      (trace_msgIDs config passes hAccepted)
  rw [List.map_map, List.map_map] at hIDs
  refine hIDs.trans ?_
  apply List.map_congr_left
  intro index hIndex
  have hBound := List.mem_range.mp hIndex
  exact Words.toInt_ofNat_of_lt (by omega)

/- Packets with distinct numbers are distinct. -/
theorem sent_nodup
    (passes : List Pass)
    (hAccepted : ∀ pass ∈ passes, ¬ pass.got.Refused)
    (hRange : passes.length < 2 ^ 31) :
    (((machine config).trace passes).map
      PassOutput.sent).Nodup := by
  apply List.Nodup.of_map
    (fun packet : StructMessage => packet.msgID.toInt)
  rw [List.map_map]
  have hDistinct :
      ((List.range passes.length).map (fun index : Nat =>
        (index : Int) + 1)).Nodup := by
    apply List.Nodup.map _ List.nodup_range
    intro left right hEqual
    simpa using hEqual
  rw [← trace_numbered config passes hAccepted hRange]
    at hDistinct
  exact hDistinct

theorem fresh_of_accepted
    (passes : List Pass)
    (hAccepted : ∀ pass ∈ passes, ¬ pass.got.Refused) :
    Fresh ((machine config).trace passes) := by
  refine
    { built := ?_
      notZero := ?_
      numbered := ?_
      once := ?_ }
  · intro output hOutput
    rcases built_of_accepted config passes hAccepted
        output hOutput with
      ⟨build, hBuilt, hSent, _⟩
    exact ⟨build, hBuilt, hSent⟩
  · intro output hOutput hZero
    rcases built_of_accepted config passes hAccepted
        output hOutput with
      ⟨build, _, hSent, hNode⟩
    rw [← hSent, hZero] at hNode
    exact absurd hNode (by decide)
  · rw [length_trace]
    exact trace_numbered config passes hAccepted
  · rw [length_trace]
    exact sent_nodup config passes hAccepted

/-
  Exactly the runs without a refused GET are fresh.
-/
theorem fresh_iff
    (passes : List Pass) :
    Fresh ((machine config).trace passes) ↔
      ∀ pass ∈ passes, ¬ pass.got.Refused := by
  constructor
  · intro hFresh pass hPass hRefused
    rcases List.append_of_mem hPass with
      ⟨before, after, rfl⟩
    have hMember :
        (loop config ((machine config).run before) pass).2 ∈
          (machine config).trace
            (before ++ pass :: after) := by
      rw [Machine.mem_trace_iff]
      exact ⟨before, pass, after, rfl, by simp⟩
    rcases hFresh.built _ hMember with
      ⟨build, hBuilt, _⟩
    have hNothing :=
      (loop_of_refused config
        ((machine config).run before) pass hRefused).1
    rw [hNothing] at hBuilt
    cases hBuilt
  · exact fresh_of_accepted config passes

/- A pass that fetches a first command for slave 8. -/
def orderPass : Pass :=
  { got :=
      { httpCode := 200
        body :=
          some
            { msgID := some 1
              nodeID := some 8
              ledStatus := some 1 } }
    buildClock := 5000
    sentClock := 5100
    window := [] }

/- A pass whose GET is answered with status 404. -/
def refusedPass : Pass :=
  { got :=
      { httpCode := 404
        body := none }
    buildClock := 6400
    sentClock := 6500
    window := [] }

/- The refused pass transmits the command a second time. -/
theorem refusedPass_replays :
    ((machine deployed).trace
          [orderPass, refusedPass]).map PassOutput.sent =
        [commandPacket State.init orderPass.got.body 5000,
          commandPacket State.init orderPass.got.body
            5000] ∧
      ¬ Fresh
        ((machine deployed).trace
          [orderPass, refusedPass]) := by
  refine ⟨by decide, ?_⟩
  intro hFresh
  have hLast :
      (loop deployed ((machine deployed).run [orderPass])
          refusedPass).2 ∈
        (machine deployed).trace
          [orderPass, refusedPass] := by
    decide
  rcases hFresh.built _ hLast with ⟨build, hBuilt, _⟩
  have hNothing :
      (loop deployed ((machine deployed).run [orderPass])
        refusedPass).2.built = none := by
    decide
  rw [hNothing] at hBuilt
  cases hBuilt

end Master

end LoRaTelemetry
