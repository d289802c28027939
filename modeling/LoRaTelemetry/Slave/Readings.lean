import LoRaTelemetry.Slave.Runs

/-
  What the slave measures and what it sends: a telemetry
  packet carries the sample of the track with its own number,
  and a temperature that the sensor can read.

  Main declarations:
    * `Slave.Pc.place`
    * `Slave.Sampled`
    * `Slave.run_sampled`
    * `Slave.telemetry_readings`
-/

------------------------------------------------------------
-- Samples
------------------------------------------------------------

namespace LoRaTelemetry

namespace Slave

variable (board : Board) (state : State)

/- The place of a statement in the main program. -/
def Pc.place : Pc → Nat
| .test => 0
| .clear => 1
| .drawRandNumber => 2
| .readTempAir => 3
| .placeLat1 => 4
| .placeLon1 => 5
| .advanceC => 6
| .nodeID => 7
| .RXnodeID => 8
| .msgType => 9
| .msgID => 10
| .iCommType => 11
| .timeStamp => 12
| .tempAir => 13
| .ledStatus => 14
| .latitudeGPS => 15
| .longitudeGPS => 16
| .advanceMsgCount => 17
| .beginPacket => 18
| .write => 19
| .endPacket => 20
| .receive => 21

/- What `random(1, 5)` can have drawn. -/
def Drawn (randNumber : CInt) : Prop :=
  ∃ draw : Fin 4, randNumber = 1 + BitVec.ofNat 32 draw.val

/- A temperature that the sensor can read. -/
def Readable (tempAir : CFloat) : Prop :=
  ∃ randNumber,
    Drawn randNumber ∧ tempAir = tempReading randNumber

/-
  The sample in progress belongs to the packet with the next
  number, and the packet has what was sampled for it.
-/
structure Sampled (state : State) : Prop where
  randNumber :
    state.pc.place = 3 → Drawn state.randNumber
  tempAir :
    4 ≤ state.pc.place → Readable state.tempAir
  lat1 :
    5 ≤ state.pc.place → state.pc.place ≤ 17 →
      state.lat1 = board.lat1 state.msgCount
  lon1 :
    6 ≤ state.pc.place → state.pc.place ≤ 17 →
      state.lon1 = board.lon1 state.msgCount
  c :
    state.c =
      state.msgCount +
        (if 7 ≤ state.pc.place ∧ state.pc.place ≤ 17 then
          1
        else
          0)
  packetTempAir :
    14 ≤ state.pc.place →
      Readable state.telemtryPacketTX.tempAir
  packetLatitudeGPS :
    16 ≤ state.pc.place →
      state.telemtryPacketTX.latitudeGPS =
        board.lat1 state.telemtryPacketTX.msgID
  packetLongitudeGPS :
    17 ≤ state.pc.place →
      state.telemtryPacketTX.longitudeGPS =
        board.lon1 state.telemtryPacketTX.msgID

theorem sampled_of_sameMain
    {left right : State}
    (hSame : SameMain left right)
    (hSampled : Sampled board right) :
    Sampled board left := by
  rcases hSame with
    ⟨hCount, hPacket, hC, hRand, hTemp, hLat, hLon, _, hPc⟩
  constructor
  · rw [hPc, hRand]
    exact hSampled.randNumber
  · rw [hPc, hTemp]
    exact hSampled.tempAir
  · rw [hPc, hLat, hCount]
    exact hSampled.lat1
  · rw [hPc, hLon, hCount]
    exact hSampled.lon1
  · rw [hPc, hC, hCount]
    exact hSampled.c
  · rw [hPc, hPacket]
    exact hSampled.packetTempAir
  · rw [hPc, hPacket]
    exact hSampled.packetLatitudeGPS
  · rw [hPc, hPacket]
    exact hSampled.packetLongitudeGPS

/- While it is under way, the packet has the next number. -/
theorem Building.msgID_eq
    {board : Board}
    {state : State}
    (hBuilding : Building board state)
    (hPlace : state.pc.place = 15 ∨ state.pc.place = 16) :
    state.telemtryPacketTX.msgID = state.msgCount := by
  have hNumber := hBuilding.msgID
  cases hPc : state.pc <;>
    simp_all [Pc.place, Pc.filled, Pc.counted]

/- A statement is the first, or it follows the one before. -/
theorem Pc.place_next
    (receiveflag : Bool)
    (pc : Pc) :
    (pc.next receiveflag).place = 0 ∨
      (pc.next receiveflag).place = pc.place + 1 := by
  cases pc <;> cases receiveflag <;> simp [next, place]

/- Each statement has its place. -/
theorem Pc.place_injective
    {left right : Pc}
    (hPlace : left.place = right.place) :
    left = right := by
  cases left <;> cases right <;> simp_all [place]

theorem exec_sampled
    (now : ULong)
    (draw : Fin 4)
    (hBuilding : Building board state)
    (hSampled : Sampled board state) :
    Sampled board (exec board state now draw) := by
  have hExec := exec_executed board state now draw
  have hPlace :=
    Pc.place_next state.receiveflag state.pc
  have hAt :
      ∀ {pc : Pc}, state.pc.place = pc.place → state.pc = pc :=
    Pc.place_injective
  constructor
  · rw [hExec.pc, hExec.randNumber]
    intro hRead
    have hDraw : state.pc = .drawRandNumber :=
      hAt (show state.pc.place = 2 by omega)
    rw [if_pos hDraw]
    exact ⟨draw, rfl⟩
  · rw [hExec.pc, hExec.tempAir]
    intro hLater
    split
    · rename_i hRead
      exact
        ⟨state.randNumber,
          hSampled.randNumber (by rw [hRead]; rfl), rfl⟩
    · rename_i hOther
      have hPast : state.pc.place ≠ 3 :=
        fun hRead => hOther (hAt hRead)
      exact hSampled.tempAir (by omega)
  · rw [hExec.pc, hExec.lat1, hExec.msgCount]
    intro hLater hBefore
    have hCounting : state.pc ≠ .advanceMsgCount := by
      intro hPc
      rw [hPc] at hPlace hBefore
      simp [Pc.next, Pc.place] at hBefore
    rw [if_neg hCounting]
    split
    · rename_i hHere
      have hC := hSampled.c
      simp only [hHere, Pc.place] at hC
      simpa using congrArg board.lat1 hC
    · rename_i hOther
      have hPast : state.pc.place ≠ 4 :=
        fun hHere => hOther (hAt hHere)
      exact hSampled.lat1 (by omega) (by omega)
  · rw [hExec.pc, hExec.lon1, hExec.msgCount]
    intro hLater hBefore
    have hCounting : state.pc ≠ .advanceMsgCount := by
      intro hPc
      rw [hPc] at hPlace hBefore
      simp [Pc.next, Pc.place] at hBefore
    rw [if_neg hCounting]
    split
    · rename_i hHere
      have hC := hSampled.c
      simp only [hHere, Pc.place] at hC
      simpa using congrArg board.lon1 hC
    · rename_i hOther
      have hPast : state.pc.place ≠ 5 :=
        fun hHere => hOther (hAt hHere)
      exact hSampled.lon1 (by omega) (by omega)
  · have hC := hSampled.c
    rw [hExec.pc, hExec.c, hExec.msgCount]
    cases hPc : state.pc
    case test =>
      cases hFlag : state.receiveflag <;>
        simp_all [Pc.next, Pc.place]
    all_goals
      simp_all [Pc.next, Pc.place]
  · rw [hExec.pc, hExec.packet.tempAir]
    intro hLater
    split
    · rename_i hHere
      exact hSampled.tempAir (by rw [hHere]; decide)
    · rename_i hOther
      have hPast : state.pc.place ≠ 13 :=
        fun hHere => hOther (hAt hHere)
      exact hSampled.packetTempAir (by omega)
  · rw [hExec.pc, hExec.packet.latitudeGPS,
      hExec.packet.msgID]
    intro hLater
    have hNumbered : state.pc ≠ .msgID := by
      intro hPc
      rw [hPc] at hPlace hLater
      simp [Pc.next, Pc.place] at hLater
    rw [if_neg hNumbered]
    split
    · rename_i hHere
      rw [hBuilding.msgID_eq (.inl (by rw [hHere]; rfl))]
      exact
        hSampled.lat1 (by rw [hHere]; decide)
          (by rw [hHere]; decide)
    · rename_i hOther
      have hPast : state.pc.place ≠ 15 :=
        fun hHere => hOther (hAt hHere)
      exact hSampled.packetLatitudeGPS (by omega)
  · rw [hExec.pc, hExec.packet.longitudeGPS,
      hExec.packet.msgID]
    intro hLater
    have hNumbered : state.pc ≠ .msgID := by
      intro hPc
      rw [hPc] at hPlace hLater
      simp [Pc.next, Pc.place] at hLater
    rw [if_neg hNumbered]
    split
    · rename_i hHere
      rw [hBuilding.msgID_eq (.inr (by rw [hHere]; rfl))]
      exact
        hSampled.lon1 (by rw [hHere]; decide)
          (by rw [hHere]; decide)
    · rename_i hOther
      have hPast : state.pc.place ≠ 16 :=
        fun hHere => hOther (hAt hHere)
      exact hSampled.packetLongitudeGPS (by omega)

theorem run_sampled
    (events : List Event) :
    Sampled board ((machine board).run events) := by
  induction events using List.reverseRecOn with
  | nil => constructor <;> simp [State.init, Pc.place]
  | append_singleton events event ih =>
      rw [Machine.run_concat, machine_step]
      cases event with
      | exec now draw =>
          exact
            exec_sampled board _ now draw
              (run_building board events) ih
      | receive now frame =>
          exact
            sampled_of_sameMain board
              (onReceive_sameMain board _ now frame) ih

/- The sample that every telemetry packet carries. -/
theorem telemetry_readings
    (events : List Event)
    {packet : StructMessage}
    (hPacket : packet ∈ telemetry board events) :
    Readable packet.tempAir ∧
      packet.latitudeGPS = board.lat1 packet.msgID ∧
      packet.longitudeGPS = board.lon1 packet.msgID := by
  rcases exists_of_mem_telemetry board events hPacket with
    ⟨before, _, _, _, _, hPc, rfl⟩
  have hSampled := run_sampled board before
  exact
    ⟨hSampled.packetTempAir (by rw [hPc]; decide),
      hSampled.packetLatitudeGPS (by rw [hPc]; decide),
      hSampled.packetLongitudeGPS (by rw [hPc]; decide)⟩

end Slave

end LoRaTelemetry
