import LoRaTelemetry.Library.Lists
import LoRaTelemetry.Network.Projection

/-
  What the master posts in the closed system: telemetry of
  the slave that it names, each packet at most once, and in
  the order in which the slave sent it.

  Main declarations:
    * `Network.Reports`
    * `Network.TelemetryIntact`
    * `Network.posts_eq`
    * `Network.run_telemetryIntact`
-/

------------------------------------------------------------
-- Telemetry on the Air
------------------------------------------------------------

namespace LoRaTelemetry

/- The record that the master makes of a slave's packet. -/
def Transmission.record?
    {ι : Type} :
    Transmission ι → Option Master.Record
| .master _ _ _ => none
| .slave _ packet _ => some packet.asMaster.record

namespace Network

variable {ι : Type} [DecidableEq ι]
variable (deployment : Deployment ι)
variable (events : List (Event ι))

/- A slave's transmissions are telemetry of its own. -/
theorem telemetry_of_mem_log
    {index : ι}
    {packet : Slave.StructMessage}
    {stamp : Stamp}
    (hLog :
      .slave index packet stamp ∈
        ((network deployment).run events).air.log) :
    packet.nodeID = (deployment.board index).node ∧
      packet.RXnodeID = 10 ∧
      packet.msgType = msgTypeTelemtry ∧
      packet.iCommType = comTypeLoRa := by
  rcases run_slave deployment events index with
    ⟨steps, hRuns⟩
  apply
    Slave.telemetry_fields (deployment.board index) steps
  rw [hRuns.telemetry]
  exact
    List.mem_filterMap.mpr
      ⟨_, hLog, by simp [Transmission.telemetry?]⟩

/- The master hears slaves only. -/
theorem exists_of_mem_heard_master
    {delivery : Transmission ι × Nat}
    (hHeard :
      delivery ∈
        ((network deployment).run events).air.heard
          .master) :
    ∃ index packet stamp,
      delivery.1 = .slave index packet stamp ∧
        packet.nodeID = (deployment.board index).node ∧
        packet.RXnodeID = Master.node := by
  have hSender :=
    Medium.sender_ne_of_mem_heard _ hHeard
  have hLog := Medium.mem_log_of_mem_heard _ hHeard
  cases hTransmission : delivery.1 with
  | master packet order stamp =>
      rw [hTransmission] at hSender
      exact absurd rfl hSender
  | slave index packet stamp =>
      rw [hTransmission] at hLog
      rcases telemetry_of_mem_log deployment events hLog with
        ⟨hNode, hAddress, _⟩
      exact ⟨index, packet, stamp, rfl, hNode, hAddress⟩

------------------------------------------------------------
-- The Records Posted
------------------------------------------------------------

/- The transmissions that the master received. -/
def sources (net : Net ι) : List (Transmission ι) :=
  (net.air.heard .master).map Prod.fst

/- Every reception of the master is posted. -/
theorem posts_eq :
    ((network deployment).run events).posts =
      (sources ((network deployment).run
        events)).filterMap Transmission.record? := by
  rcases run_master deployment events with ⟨steps, hRuns⟩
  rw [hRuns.posts,
    Master.posted_eq_of_whole deployment.config steps (by
      intro frame hFrame
      rw [hRuns.received] at hFrame
      rcases List.mem_map.mp hFrame with
        ⟨delivery, _, rfl⟩
      exact delivery.1.length_frame.ge),
    hRuns.received, sources, List.filterMap_map,
    List.filterMap_map]
  apply List.filterMap_congr
  intro delivery hHeard
  rcases exists_of_mem_heard_master deployment events
      hHeard with
    ⟨index, packet, stamp, hSlave, _, hAddress⟩
  simp only [Function.comp_apply, hSlave,
    Transmission.frame, Master.decoded_slave_frame,
    Transmission.record?]
  have hMine :
      packet.asMaster.RXnodeID = Master.node := hAddress
  rw [Master.StructMessage.posted?, if_pos hMine]

/-
  A record with the fields of a telemetry packet, of whose
  `bool` it has the byte.
-/
structure ShowsPacket
    (packet : Slave.StructMessage)
    (record : Master.Record) : Prop where
  nodeID : record.nodeID = packet.nodeID
  iCommType : record.iCommType = packet.iCommType
  timeStamp : record.timeStamp = packet.timeStamp
  tempAir : record.tempAir = packet.tempAir
  latitudeGPS : record.latitudeGPS = packet.latitudeGPS
  longitudeGPS : record.longitudeGPS = packet.longitudeGPS
  msgID : record.msgID = packet.msgID
  ledStatus :
    record.ledStatus = packet.ledStatus.setWidth 32

theorem showsPacket_record
    (packet : Slave.StructMessage) :
    ShowsPacket packet packet.asMaster.record := by
  constructor <;> rfl

/-
  A record that shows a telemetry packet, which the slave
  with the record's `nodeID` transmitted.
-/
def Reports
    (transmission : Transmission ι)
    (record : Master.Record) : Prop :=
  ∃ index packet stamp,
    transmission = .slave index packet stamp ∧
      ShowsPacket packet record ∧
      record.nodeID = (deployment.board index).node

/-
  The records posted are made of transmissions in the order
  of the log, so of each at most once; and the numbers of the
  records of one slave increase.
-/
structure TelemetryIntact (net : Net ι) : Prop where
  origin :
    ∃ sources : List (Transmission ι),
      sources.Sublist net.air.log ∧
        List.Forall₂ (Reports deployment) sources net.posts
  increasing :
    ∀ index,
      ((net.posts.filter (fun record =>
          record.nodeID =
            (deployment.board index).node)).map
        (fun record => record.msgID.toInt)).Pairwise (· < ·)

/- The records of one slave, from its own telemetry. -/
theorem posts_of_slave
    (index : ι) :
    ((network deployment).run events).posts.filter
        (fun record =>
          record.nodeID =
            (deployment.board index).node) =
      ((sources ((network deployment).run
          events)).filterMap
        (Transmission.telemetry? index)).map
          (fun packet => packet.asMaster.record) := by
  rw [posts_eq, List.filter_filterMap, List.map_filterMap]
  apply List.filterMap_congr
  intro transmission hSource
  rcases List.mem_map.mp hSource with
    ⟨delivery, hHeard, rfl⟩
  rcases exists_of_mem_heard_master deployment events
      hHeard with
    ⟨other, packet, stamp, hSlave, hNode, _⟩
  have hSender :
      packet.asMaster.record.nodeID =
        (deployment.board other).node := hNode
  rw [hSlave]
  by_cases hOther : other = index
  · subst hOther
    simp [Transmission.record?, Transmission.telemetry?,
      hSender]
  · have hDifferent :
        (deployment.board other).node ≠
          (deployment.board index).node := by
      exact fun hSame => hOther (deployment.distinct hSame)
    simp [Transmission.record?, Transmission.telemetry?,
      hSender, hOther, hDifferent]

/-
  For every run in which no slave sends so many packets that
  its counter leaves the positive range.
-/
theorem run_telemetryIntact
    (hFew :
      ∀ index,
        (((network deployment).run
          events).air.log.filterMap
            (Transmission.telemetry? index)).length <
          2 ^ 31) :
    TelemetryIntact deployment
      ((network deployment).run events) := by
  refine
    ⟨⟨sources ((network deployment).run events), ?_, ?_⟩,
      ?_⟩
  · exact Medium.heard_sublist_log _ _
  · rw [posts_eq]
    apply Lists.forall₂_filterMap
    intro transmission hSource
    rcases List.mem_map.mp hSource with
      ⟨delivery, hHeard, rfl⟩
    rcases exists_of_mem_heard_master deployment events
        hHeard with
      ⟨index, packet, stamp, hSlave, hNode, _⟩
    exact
      ⟨packet.asMaster.record, by
          rw [hSlave]
          rfl,
        index, packet, stamp, hSlave,
          showsPacket_record packet, hNode⟩
  · intro index
    rw [posts_of_slave, List.map_map]
    rcases run_slave deployment events index with
      ⟨steps, hRuns⟩
    have hFewLocal := hFew index
    rw [← hRuns.telemetry] at hFewLocal
    have hIncrease :=
      Slave.telemetry_msgIDs_increase
        (deployment.board index) steps hFewLocal
    have hSources :
        ((sources ((network deployment).run
            events)).filterMap
          (Transmission.telemetry? index)).Sublist
        (Slave.telemetry (deployment.board index)
          steps) := by
      rw [hRuns.telemetry]
      exact
        (Medium.heard_sublist_log _ _).filterMap _
    exact
      hIncrease.sublist
        (hSources.map fun packet => packet.msgID.toInt)

------------------------------------------------------------
-- One Poll and Its Reply
------------------------------------------------------------

/- The master polls slave 8, which answers at once. -/
def oneReply : List (Event TwoSlaves) :=
  [.master ⟨-1, none⟩ 0, .master ⟨-1, none⟩ 0,
    .master ⟨-1, none⟩ 0, .interrupt .slave8 0] ++
    List.replicate 21 (.slave .slave8 (Fin.last 3)) ++
    [.master ⟨-1, none⟩ 1]

/- The hypothesis can be met, with a record posted. -/
theorem oneReply_telemetryIntact :
    ((network twoSlaves).run oneReply).posts.length = 1 ∧
      TelemetryIntact twoSlaves
        ((network twoSlaves).run oneReply) := by
  have hPosts :
      ((network twoSlaves).run oneReply).posts.length =
        1 := by
    decide +kernel
  have hFew :
      ∀ index,
        (((network twoSlaves).run
          oneReply).air.log.filterMap
            (Transmission.telemetry? index)).length <
          2 ^ 31 := by
    intro index
    cases index <;> decide +kernel
  exact
    ⟨hPosts, run_telemetryIntact twoSlaves oneReply hFew⟩

end Network

end LoRaTelemetry
