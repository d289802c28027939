import LoRaTelemetry.Network.Telemetry
import LoRaTelemetry.Slave.Readings

/-
  From the sensor to the server: every record that is posted
  is a sample that the slave it names has taken, at the place
  of the track that has the record's number.

  Main declarations:
    * `Network.SampleOf`
    * `Network.posts_samples`
-/

------------------------------------------------------------
-- Samples
------------------------------------------------------------

namespace LoRaTelemetry

namespace Network

variable {ι : Type} [DecidableEq ι]
variable (deployment : Deployment ι)
variable (events : List (Event ι))

/- A record that shows a sample of a slave. -/
structure SampleOf
    (index : ι)
    (record : Master.Record) : Prop where
  nodeID : record.nodeID = (deployment.board index).node
  iCommType : record.iCommType = comTypeLoRa
  tempAir : Slave.Readable record.tempAir
  latitudeGPS :
    record.latitudeGPS =
      (deployment.board index).lat1 record.msgID
  longitudeGPS :
    record.longitudeGPS =
      (deployment.board index).lon1 record.msgID

/- Whatever a slave has put on the air is a sample. -/
theorem sampleOf_of_mem_log
    {index : ι}
    {packet : Slave.StructMessage}
    {stamp : Stamp}
    (hLog :
      .slave index packet stamp ∈
        ((network deployment).run events).air.log) :
    SampleOf deployment index packet.asMaster.record := by
  rcases run_slave deployment events index with
    ⟨steps, hRuns⟩
  have hPacket :
      packet ∈
        Slave.telemetry (deployment.board index) steps := by
    rw [hRuns.telemetry]
    exact
      List.mem_filterMap.mpr
        ⟨_, hLog, by simp [Transmission.telemetry?]⟩
  rcases Slave.telemetry_fields _ steps hPacket with
    ⟨hNode, _, _, hComm⟩
  rcases Slave.telemetry_readings _ steps hPacket with
    ⟨hTemp, hLat, hLon⟩
  exact ⟨hNode, hComm, hTemp, hLat, hLon⟩

/- For every run, whatever is lost or comes in between. -/
theorem posts_samples :
    ∀ record ∈ ((network deployment).run events).posts,
      ∃ index, SampleOf deployment index record := by
  intro record hRecord
  rw [posts_eq] at hRecord
  rcases List.mem_filterMap.mp hRecord with
    ⟨transmission, hSource, hMade⟩
  rcases List.mem_map.mp hSource with
    ⟨delivery, hHeard, rfl⟩
  have hLog := Medium.mem_log_of_mem_heard _ hHeard
  rcases exists_of_mem_heard_master deployment events
      hHeard with
    ⟨index, packet, stamp, hSlave, _⟩
  rw [hSlave] at hLog hMade
  cases hMade
  exact
    ⟨index, sampleOf_of_mem_log deployment events hLog⟩

/- The record of one reply is a sample. -/
theorem oneReply_sampled :
    ∃ record,
      ((network twoSlaves).run oneReply).posts = [record] ∧
        ∃ index, SampleOf twoSlaves index record := by
  have hLength :
      ((network twoSlaves).run oneReply).posts.length =
        1 := by
    decide +kernel
  rcases List.length_eq_one_iff.mp hLength with
    ⟨record, hPosts⟩
  have hRecord :
      record ∈ ((network twoSlaves).run oneReply).posts := by
    rw [hPosts]
    exact List.mem_singleton_self record
  exact
    ⟨record, hPosts,
      posts_samples twoSlaves oneReply record hRecord⟩

end Network

end LoRaTelemetry
