import LoRaTelemetry.Library.Words
import LoRaTelemetry.Network.Projection

/-
  The packets that the master builds in the closed system,
  and those that it puts on the air.

  The n-th packet built has message number n. The master
  transmits no other packet, except the zero-initialised one,
  which counts as number zero.

  Main declarations:
    * `Network.builds`
    * `Network.numbered`
    * `Network.Requests`
    * `Network.run_requests`
-/

------------------------------------------------------------
-- Packets Built
------------------------------------------------------------

namespace LoRaTelemetry

namespace Network

variable {ι : Type} [DecidableEq ι]
variable (deployment : Deployment ι)

/- The packet that the master builds at an event. -/
def built?
    (net : Net ι) : Event ι → Option Master.StructMessage
| .master got _ =>
    if net.masterPc = .getDataFromServer then
      (Master.getDataFromServer deployment.config net.master
        got (deployment.masterClock net.now)).2.map
          Master.Build.packet
    else
      none
| _ => none

/- The network, with the packets built as its outputs. -/
def builder :
    Machine (Net ι) (Event ι) Master.StructMessage :=
  { init := (network deployment).init
    step := (network deployment).step
    emit := fun net event =>
      (built? deployment net event).toList }

/- The packets that the master built in a run, in order. -/
def builds
    (events : List (Event ι)) : List Master.StructMessage :=
  (builder deployment).trace events

theorem builder_run
    (events : List (Event ι)) :
    (builder deployment).run events =
      (network deployment).run events := by
  rfl

theorem builds_concat
    (events : List (Event ι))
    (event : Event ι) :
    builds deployment (events ++ [event]) =
      builds deployment events ++
        (built? deployment
          ((network deployment).run events)
          event).toList := by
  rw [builds, Machine.trace_concat, builder_run]
  rfl

/- The packets by their number; the zero packet is first. -/
def numbered
    (events : List (Event ι)) : List Master.StructMessage :=
  {} :: builds deployment events

theorem numbered_concat
    (events : List (Event ι))
    (event : Event ι) :
    numbered deployment (events ++ [event]) =
      numbered deployment events ++
        (built? deployment
          ((network deployment).run events)
          event).toList := by
  rw [numbered, builds_concat]
  rfl

------------------------------------------------------------
-- The Invariant
------------------------------------------------------------

/-
  The counter is the number of the next packet, every packet
  has the number of its place, and the packet to transmit and
  those on the air are among them.
-/
structure Requests
    (events : List (Event ι))
    (net : Net ι) : Prop where
  count :
    net.master.msgCount =
      BitVec.ofNat 32 (numbered deployment events).length
  places :
    ∀ place packet,
      (numbered deployment events)[place]? =
          some packet →
        packet.msgID = BitVec.ofNat 32 place
  current :
    net.master.telemtryPacketTX ∈
      numbered deployment events
  onAir :
    ∀ packet order stamp,
      .master packet order stamp ∈ net.air.log →
        packet ∈ numbered deployment events

variable {deployment}

/- Packets are built by `getDataFromServer` only. -/
theorem built?_eq_none
    {net : Net ι}
    {event : Event ι}
    (hOther :
      ∀ got position,
        event = .master got position →
          net.masterPc ≠ .getDataFromServer) :
    built? deployment net event = none := by
  cases event with
  | master got position =>
      exact if_neg (hOther got position rfl)
  | _ => rfl

/- Events at which no packet is built. -/
theorem Requests.of_none
    {events : List (Event ι)}
    {event : Event ι}
    {net : Net ι}
    (hRequests :
      Requests deployment events
        ((network deployment).run events))
    (hNone :
      built? deployment ((network deployment).run events)
        event = none)
    (hCount :
      net.master.msgCount =
        ((network deployment).run events).master.msgCount)
    (hPacket :
      net.master.telemtryPacketTX =
        ((network deployment).run
          events).master.telemtryPacketTX)
    (hLog :
      ∀ packet order stamp,
        .master packet order stamp ∈ net.air.log →
          packet ∈ numbered deployment events) :
    Requests deployment (events ++ [event]) net := by
  have hSame :
      numbered deployment (events ++ [event]) =
        numbered deployment events := by
    rw [numbered_concat, hNone]
    exact List.append_nil _
  constructor
  · rw [hSame, hCount]
    exact hRequests.count
  · rw [hSame]
    exact hRequests.places
  · rw [hSame, hPacket]
    exact hRequests.current
  · rw [hSame]
    exact hLog

/- Events at which the next packet is built. -/
theorem Requests.of_built
    {events : List (Event ι)}
    {event : Event ι}
    {net : Net ι}
    {packet : Master.StructMessage}
    (hRequests :
      Requests deployment events
        ((network deployment).run events))
    (hOne :
      built? deployment ((network deployment).run events)
        event = some packet)
    (hNumber :
      packet.msgID =
        ((network deployment).run events).master.msgCount)
    (hCount :
      net.master.msgCount =
        ((network deployment).run events).master.msgCount +
          1)
    (hPacket : net.master.telemtryPacketTX = packet)
    (hLog :
      net.air.log =
        ((network deployment).run events).air.log) :
    Requests deployment (events ++ [event]) net := by
  have hNext :
      numbered deployment (events ++ [event]) =
        numbered deployment events ++ [packet] := by
    rw [numbered_concat, hOne]
    rfl
  constructor
  · rw [hNext, hCount, hRequests.count,
      List.length_append, BitVec.ofNat_add]
    rfl
  · rw [hNext]
    intro place other hPlace
    rcases Nat.lt_trichotomy place
        (numbered deployment events).length with
      hBefore | hLast | hBeyond
    · rw [List.getElem?_append_left hBefore] at hPlace
      exact hRequests.places place other hPlace
    · subst hLast
      rw [List.getElem?_concat_length, Option.some_inj]
        at hPlace
      rw [← hPlace, hNumber, hRequests.count]
    · rw [List.getElem?_eq_none (by simp; omega)] at hPlace
      cases hPlace
  · rw [hNext, hPacket]
    simp
  · rw [hNext, hLog]
    intro other order stamp hOld
    exact
      List.mem_append_left _
        (hRequests.onAir other order stamp hOld)

/- A call of `getDataFromServer` builds it or nothing. -/
theorem fetch_requests
    {events : List (Event ι)}
    (got : Master.GetOutcome)
    (position : Nat)
    (hPc :
      ((network deployment).run events).masterPc =
        .getDataFromServer)
    (hRequests :
      Requests deployment events
        ((network deployment).run events)) :
    Requests deployment (events ++ [.master got position])
      (fetch deployment ((network deployment).run events)
        got) := by
  rcases Master.getDataFromServer_cases deployment.config
      ((network deployment).run events).master got
      (deployment.masterClock
        ((network deployment).run events).now) with
    ⟨_, hCase⟩ | ⟨_, hCase⟩ | ⟨_, _, hCase⟩
  · apply hRequests.of_none
    · simp [built?, hPc, hCase]
    · simp [hCase]
    · simp [hCase]
    · rw [fetch_air]
      exact hRequests.onAir
  · apply hRequests.of_built
    · simp only [built?, hPc, if_true, hCase,
        Option.map_some]
      rfl
    · rfl
    · simp [hCase, Master.commandBuild]
    · simp [hCase, Master.commandBuild]
    · rw [fetch_air]
  · apply hRequests.of_built
    · simp only [built?, hPc, if_true, hCase,
        Option.map_some]
      rfl
    · rfl
    · simp [hCase, Master.pktBuild]
    · simp [hCase, Master.pktBuild]
    · rw [fetch_air]

/- A call of `send` puts the current packet on the air. -/
theorem transmit_requests
    {events : List (Event ι)}
    {event : Event ι}
    (hNone :
      built? deployment ((network deployment).run events)
        event = none)
    (hRequests :
      Requests deployment events
        ((network deployment).run events)) :
    Requests deployment (events ++ [event])
      (transmit ((network deployment).run events)) := by
  apply hRequests.of_none hNone
  · rfl
  · rfl
  · intro packet order stamp hLog
    simp only [transmit, Medium.log_transmit,
      List.mem_append, List.mem_singleton] at hLog
    rcases hLog with hOld | hNew
    · exact hRequests.onAir packet order stamp hOld
    · cases hNew
      exact hRequests.current

/- The other steps leave the master's packets alone. -/
theorem Requests.of_same
    {events : List (Event ι)}
    {event : Event ι}
    {net : Net ι}
    (hRequests :
      Requests deployment events
        ((network deployment).run events))
    (hNone :
      built? deployment ((network deployment).run events)
        event = none)
    (hSame :
      SameMaster net ((network deployment).run events)) :
    Requests deployment (events ++ [event]) net := by
  apply hRequests.of_none hNone hSame.count hSame.packet
  intro packet order stamp hLog
  rcases hSame.log with ⟨telemetry, hNew, hSlaves⟩
  rw [hNew, List.mem_append] at hLog
  rcases hLog with hOld | hTelemetry
  · exact hRequests.onAir packet order stamp hOld
  · exact absurd rfl (hSlaves _ hTelemetry)

variable (deployment)

/- The invariant holds along every run. -/
theorem run_requests
    (events : List (Event ι)) :
    Requests deployment events
      ((network deployment).run events) := by
  apply
    Machine.run_history (network deployment)
      (P := Requests deployment)
  · constructor
    · rfl
    · intro place packet hPlace
      cases place with
      | zero =>
          cases hPlace
          rfl
      | succ place => cases hPlace
    · exact List.mem_singleton_self _
    · intro packet order stamp hLog
      cases hLog
  · intro events event hRequests
    rw [network_step]
    rcases step_master deployment
        ((network deployment).run events) event with
      ⟨got, position, rfl, hPc, hStep⟩ |
        ⟨got, position, rfl, hPc, hStep⟩ |
        ⟨hSame, hOther⟩
    · rw [hStep]
      exact fetch_requests got position hPc hRequests
    · rw [hStep]
      apply transmit_requests _ hRequests
      exact built?_eq_none (by simp [hPc])
    · exact
        hRequests.of_same (built?_eq_none hOther) hSame

end Network

end LoRaTelemetry
