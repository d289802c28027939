import LoRaTelemetry.Network.Pairing
import LoRaTelemetry.Slave.Accounts

/-
  No amplification: the slaves put no more telemetry on the
  air than the master asks for, and the master posts no more
  than the slaves have sent.

  The accounts are kept for each slave, by the ids of the
  nodes. That the ids differ makes them add up.

  Main declarations:
    * `Network.addressees`
    * `Network.repliers`
    * `Network.Causal`
    * `Network.run_causal`
-/

------------------------------------------------------------
-- Accounts
------------------------------------------------------------

namespace LoRaTelemetry

namespace Network

variable {ι : Type} [DecidableEq ι]
variable (deployment : Deployment ι)

/- Whom a packet of the master is for. -/
def addressee? : Transmission ι → Option CInt
| .master packet _ _ => some packet.RXnodeID
| .slave _ _ _ => none

/- Which node a packet of a slave is from. -/
def replier? : Transmission ι → Option CInt
| .master _ _ _ => none
| .slave index _ _ => some (deployment.board index).node

/- Whom the packets on the air are for, in their order. -/
def addressees (net : Net ι) : List CInt :=
  net.air.log.filterMap addressee?

/- Whom the telemetry on the air is from, in its order. -/
def repliers (net : Net ι) : List CInt :=
  net.air.log.filterMap (replier? deployment)

/- The packets of the master for a slave that reached it. -/
def requestsHeard
    (net : Net ι)
    (index : ι) : List Master.StructMessage :=
  ((net.heard index).map Prod.fst).filterMap
    (requestFor? deployment index)

/-
  Each record has a telemetry packet of its own, from the
  slave that it names; each telemetry packet a request of its
  own, to the slave that sent it and heard by that slave. A
  packet under construction has one, too.
-/
structure Causal (net : Net ι) : Prop where
  posted :
    (net.posts.map Master.Record.nodeID).Subperm
      (repliers deployment net)
  answered :
    ∀ index,
      (sentBy net index).length +
          (if (net.slave index).pc.replying then
            1
          else
            0) ≤
        (requestsHeard deployment net index).length
  requested :
    (repliers deployment net).Subperm (addressees net)

------------------------------------------------------------
-- Counting by Node
------------------------------------------------------------

/- A slave's telemetry is what its node id counts. -/
theorem count_repliers
    (net : Net ι)
    (index : ι) :
    (repliers deployment net).count
        (deployment.board index).node =
      (sentBy net index).length := by
  rw [repliers, sentBy, List.count_filterMap,
    List.length_filterMap_eq_countP]
  apply List.countP_congr
  intro transmission _
  cases transmission with
  | master packet order stamp =>
      simp [replier?, Transmission.telemetry?]
  | slave other packet stamp =>
      by_cases hOther : other = index
      · simp [replier?, Transmission.telemetry?, hOther]
      · have hDifferent :
            (deployment.board other).node ≠
              (deployment.board index).node :=
          fun hSame => hOther (deployment.distinct hSame)
        simp [replier?, Transmission.telemetry?, hOther,
          hDifferent]

/- So is what the master has sent to it. -/
theorem count_addressees
    (net : Net ι)
    (index : ι) :
    (addressees net).count (deployment.board index).node =
      (net.air.log.filterMap
        (requestFor? deployment index)).length := by
  rw [addressees, List.count_filterMap,
    List.length_filterMap_eq_countP]
  apply List.countP_congr
  intro transmission _
  cases transmission with
  | master packet order stamp =>
      by_cases hMine :
          packet.RXnodeID =
            (deployment.board index).node <;>
        simp [addressee?, requestFor?, hMine]
  | slave other packet stamp =>
      simp [addressee?, requestFor?]

------------------------------------------------------------
-- Every Run
------------------------------------------------------------

variable (events : List (Event ι))

/- What a slave accepts are requests of the master. -/
theorem accepted_le_requestsHeard
    {index : ι}
    {steps : List Slave.Event}
    (hRuns :
      SlaveRuns deployment ((network deployment).run events)
        index steps) :
    (Slave.heard steps).countP
        (fun packet =>
          packet.RXnodeID =
            (deployment.board index).node) ≤
      (requestsHeard deployment
        ((network deployment).run events) index).length := by
  rw [Slave.heard, hRuns.received, List.map_map,
    List.countP_map, requestsHeard,
    List.length_filterMap_eq_countP, List.countP_map]
  apply List.countP_mono_left
  intro delivery hHeard hMine
  have hLog := Medium.mem_log_of_mem_heard _ hHeard
  rcases requestFor?_of_accepted deployment events hLog
      (of_decide_eq_true hMine) with
    ⟨request, hRequest⟩
  simp [hRequest]

/- Each slave answers requests that it has heard. -/
theorem sentBy_le
    (index : ι) :
    (sentBy ((network deployment).run events)
          index).length +
        (if (((network deployment).run events).slave
            index).pc.replying then
          1
        else
          0) ≤
      (requestsHeard deployment
        ((network deployment).run events) index).length := by
  rcases run_slave deployment events index with
    ⟨steps, hRuns⟩
  have hAnswers :=
    Slave.telemetry_le (deployment.board index) steps
      hRuns.whole
  rw [hRuns.telemetry, ← hRuns.state] at hAnswers
  exact
    hAnswers.trans
      (accepted_le_requestsHeard deployment events hRuns)

/- What was heard is on the air, once each. -/
theorem requestsHeard_le
    (net : Net ι)
    (index : ι) :
    (requestsHeard deployment net index).length ≤
      (net.air.log.filterMap
        (requestFor? deployment index)).length := by
  apply List.Sublist.length_le
  exact (Medium.heard_sublist_log _ _).filterMap _

/- Only slaves reply. -/
theorem exists_of_mem_repliers
    {net : Net ι}
    {node : CInt}
    (hNode : node ∈ repliers deployment net) :
    ∃ index, node = (deployment.board index).node := by
  rcases List.mem_filterMap.mp hNode with
    ⟨transmission, _, hReplier⟩
  cases transmission with
  | master packet order stamp => cases hReplier
  | slave index packet stamp =>
      cases hReplier
      exact ⟨index, rfl⟩

theorem repliers_subperm :
    (repliers deployment
        ((network deployment).run events)).Subperm
      (addressees ((network deployment).run events)) := by
  rw [List.subperm_iff_count]
  intro node
  by_cases hNode :
      node ∈
        repliers deployment ((network deployment).run events)
  · rcases exists_of_mem_repliers deployment hNode with
      ⟨index, rfl⟩
    have hAnswers := sentBy_le deployment events index
    have hHeard :=
      requestsHeard_le deployment
        ((network deployment).run events) index
    rw [count_repliers, count_addressees]
    omega
  · rw [List.count_eq_zero_of_not_mem hNode]
    exact Nat.zero_le _

/- The names in the records are those of the senders. -/
theorem posts_nodeIDs :
    ((network deployment).run events).posts.map
        Master.Record.nodeID =
      (sources ((network deployment).run events)).filterMap
        (replier? deployment) := by
  rw [posts_eq, List.map_filterMap]
  apply List.filterMap_congr
  intro transmission hSource
  rcases List.mem_map.mp hSource with
    ⟨delivery, hHeard, rfl⟩
  rcases exists_of_mem_heard_master deployment events
      hHeard with
    ⟨index, packet, stamp, hSlave, hNode, _⟩
  rw [hSlave, Transmission.record?, replier?,
    Option.map_some, ← hNode]
  rfl

theorem posts_subperm :
    (((network deployment).run events).posts.map
        Master.Record.nodeID).Subperm
      (repliers deployment
        ((network deployment).run events)) := by
  rw [posts_nodeIDs]
  apply List.Sublist.subperm
  exact (Medium.heard_sublist_log _ _).filterMap _

/- For every run, at every point of it. -/
theorem run_causal :
    Causal deployment ((network deployment).run events) := by
  exact
    ⟨posts_subperm deployment events,
      sentBy_le deployment events,
      repliers_subperm deployment events⟩

end Network

end LoRaTelemetry
