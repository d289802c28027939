import LoRaTelemetry.Library.Lists
import LoRaTelemetry.Slave.Reception

/-
  Where the `ledStatus` of a telemetry packet comes from.

  A reply copies it out of the receive buffer at one
  statement and transmits it six statements later; any
  number of interrupts may run in between.

  Main declarations:
    * `Slave.Reply`
    * `Slave.run_copied`
    * `Slave.exists_reply`
    * `Slave.Reply.ledStatus`
    * `Slave.Reply.copied`
-/

------------------------------------------------------------
-- Replies
------------------------------------------------------------

namespace LoRaTelemetry

namespace Slave

variable (board : Board)

/- Whether an event is a statement of the main program. -/
def Event.isExec : Event → Bool
| .exec _ _ => true
| .receive _ _ => false

/-
  A transmission in a run, given by the events before the
  statement that copied `ledStatus` and by the events before
  its `endPacket`. Five statements lie between the two.
-/
structure Reply
    (events copying sending : List Event) : Prop where
  copies : ((machine board).run copying).pc = .ledStatus
  between :
    ∃ now draw during,
      sending = copying ++ .exec now draw :: during ∧
        during.countP Event.isExec = 5
  transmits :
    ∃ now draw after,
      events = sending ++ .exec now draw :: after

/- The statements executed since `ledStatus` was copied. -/
def Pc.sinceCopy : Pc → Option Nat
| .latitudeGPS => some 0
| .longitudeGPS => some 1
| .advanceMsgCount => some 2
| .beginPacket => some 3
| .write => some 4
| .endPacket => some 5
| _ => none

theorem Pc.sinceCopy_eq_five_iff
    (pc : Pc) :
    pc.sinceCopy = some 5 ↔ pc = .endPacket := by
  cases pc <;> simp [sinceCopy]

/- The count starts at the copy and grows by one. -/
theorem Pc.sinceCopy_next
    {receiveflag : Bool}
    {pc : Pc}
    {count : Nat}
    (hSince :
      (pc.next receiveflag).sinceCopy = some count) :
    (pc = .ledStatus ∧ count = 0) ∨
      (pc ≠ .ledStatus ∧ ∃ earlier,
        pc.sinceCopy = some earlier ∧
          count = earlier + 1) := by
  cases pc <;> cases receiveflag <;>
    simp [next, sinceCopy] at hSince ⊢ <;>
    omega

/- Only one statement assigns `ledStatus`. -/
theorem exec_sinceCopy
    (state : State)
    (now : ULong)
    (draw : Fin 4)
    {count : Nat}
    (hSince :
      (exec board state now draw).pc.sinceCopy =
        some count) :
    (state.pc = .ledStatus ∧ count = 0 ∧
        (exec board state now
            draw).telemtryPacketTX.ledStatus =
          state.telemtryPacketRX.slavePacket.ledStatus) ∨
      ∃ earlier,
        state.pc.sinceCopy = some earlier ∧
          count = earlier + 1 ∧
          (exec board state now
              draw).telemtryPacketTX.ledStatus =
            state.telemtryPacketTX.ledStatus := by
  have hExec := exec_executed board state now draw
  rw [hExec.pc] at hSince
  rw [hExec.packet.ledStatus]
  rcases Pc.sinceCopy_next hSince with
    ⟨hCopies, hCount⟩ |
      ⟨hOther, earlier, hEarlier, hCount⟩
  · rw [if_pos hCopies]
    exact Or.inl ⟨hCopies, hCount, rfl⟩
  · rw [if_neg hOther]
    exact Or.inr ⟨earlier, hEarlier, hCount, rfl⟩

/-
  Past the copy, the packet under construction holds what
  the receive buffer showed at the copy.
-/
theorem run_copied
    (events : List Event)
    {count : Nat}
    (hSince :
      ((machine board).run events).pc.sinceCopy =
        some count) :
    ∃ copying now draw during,
      events = copying ++ .exec now draw :: during ∧
        during.countP Event.isExec = count ∧
        ((machine board).run copying).pc = .ledStatus ∧
        ((machine board).run
            events).telemtryPacketTX.ledStatus =
          ((machine board).run
            copying).telemtryPacketRX.slavePacket.ledStatus
      := by
  induction events using List.reverseRecOn
      generalizing count with
  | nil => cases hSince
  | append_singleton events event ih =>
      rw [Machine.run_concat, machine_step] at hSince ⊢
      cases event with
      | exec now draw =>
          rw [step] at hSince ⊢
          rcases exec_sinceCopy board _ now draw hSince with
            ⟨hCopies, rfl, hLed⟩ |
              ⟨earlier, hEarlier, rfl, hLed⟩
          · exact
              ⟨events, now, draw, [], rfl, rfl, hCopies,
                hLed⟩
          · rcases ih hEarlier with
              ⟨copying, start, first, during, hEvents,
                hCount, hCopies, hCopied⟩
            refine
              ⟨copying, start, first,
                during ++ [.exec now draw], ?_, ?_, hCopies,
                hLed.trans hCopied⟩
            · simp [hEvents]
            · simp [hCount, Event.isExec]
      | receive now frame =>
          have hSame :=
            onReceive_sameMain board
              ((machine board).run events) now frame
          rw [step] at hSince ⊢
          rw [hSame.pc] at hSince
          rw [hSame.telemtryPacketTX]
          rcases ih hSince with
            ⟨copying, start, first, during, hEvents,
              hCount, hCopies, hCopied⟩
          refine
            ⟨copying, start, first,
              during ++ [.receive now frame], ?_, ?_,
              hCopies, hCopied⟩
          · simp [hEvents]
          · simp [hCount, Event.isExec]

/- Every transmission is a reply. -/
theorem exists_reply
    {events sending after : List Event}
    {now : ULong}
    {draw : Fin 4}
    (hEvents :
      events = sending ++ .exec now draw :: after)
    (hPc :
      ((machine board).run sending).pc = .endPacket) :
    ∃ copying, Reply board events copying sending := by
  have hSince :
      ((machine board).run sending).pc.sinceCopy =
        some 5 := by
    rw [hPc]
    rfl
  rcases run_copied board sending hSince with
    ⟨copying, start, first, during, hSending, hCount,
      hCopies, _⟩
  exact
    ⟨copying, hCopies,
      ⟨start, first, during, hSending, hCount⟩,
      ⟨now, draw, after, hEvents⟩⟩

------------------------------------------------------------
-- From the Copy to the Transmission
------------------------------------------------------------

/- The statements after the copy run in a fixed order. -/
theorem exec_sinceCopy_succ
    (state : State)
    (now : ULong)
    (draw : Fin 4)
    {count : Nat}
    (hSince : state.pc.sinceCopy = some count)
    (hBound : count < 5) :
    (exec board state now draw).pc.sinceCopy =
      some (count + 1) := by
  have hExec := exec_executed board state now draw
  rw [hExec.pc]
  cases hPc : state.pc <;>
    simp [hPc, Pc.sinceCopy] at hSince <;>
    subst hSince <;>
    first
      | rfl
      | omega

theorem runFrom_sinceCopy
    (state : State)
    (during : List Event)
    (hPc : state.pc = .latitudeGPS)
    (hBound : during.countP Event.isExec ≤ 5) :
    ((machine board).runFrom state during).pc.sinceCopy =
      some (during.countP Event.isExec) := by
  induction during using List.reverseRecOn with
  | nil =>
      simp [Machine.runFrom, hPc, Pc.sinceCopy]
  | append_singleton during event ih =>
      rw [Machine.runFrom_append]
      rw [List.countP_append] at hBound ⊢
      have hEarlier := ih (by omega)
      cases event with
      | exec now draw =>
          simp only [Event.isExec, List.countP_singleton,
            if_true] at hBound ⊢
          exact
            exec_sinceCopy_succ board _ now draw hEarlier
              (by omega)
      | receive now frame =>
          have hSame :=
            onReceive_sameMain board
              ((machine board).runFrom state during) now
              frame
          have hPcSame :
              ((machine board).runFrom
                  ((machine board).runFrom state during)
                  [.receive now frame]).pc =
                ((machine board).runFrom state during).pc
              := by
            exact hSame.pc
          rw [hPcSame, hEarlier]
          simp [Event.isExec]

/- A reply reaches `endPacket` after its five statements. -/
theorem Reply.pc
    {board : Board}
    {events copying sending : List Event}
    (hReply : Reply board events copying sending) :
    ((machine board).run sending).pc = .endPacket := by
  rcases hReply.between with
    ⟨now, draw, during, rfl, hCount⟩
  rw [← Pc.sinceCopy_eq_five_iff, Machine.run_append]
  have hNext :
      (exec board ((machine board).run copying) now
        draw).pc = .latitudeGPS := by
    simp [exec, hReply.copies]
  have hRun :=
    runFrom_sinceCopy board _ during hNext (by omega)
  rw [hCount] at hRun
  exact hRun

/- It carries the `ledStatus` in the buffer at the copy. -/
theorem Reply.ledStatus
    {board : Board}
    {events copying sending : List Event}
    (hReply : Reply board events copying sending) :
    ((machine board).run sending).fifo.ledStatus =
      ((machine board).run
        copying).telemtryPacketRX.slavePacket.ledStatus
    := by
  have hPc := hReply.pc
  have hFifo := (run_building board sending).fifo hPc
  have hSince :
      ((machine board).run sending).pc.sinceCopy =
        some 5 := by
    rw [hPc]
    rfl
  rcases run_copied board sending hSince with
    ⟨copying', now', draw', during', hSending', hCount',
      _, hCopied⟩
  rcases hReply.between with
    ⟨now, draw, during, hSending, hCount⟩
  have hSame : copying = copying' := by
    have hExec :
        ∀ now draw,
          Event.isExec (.exec now draw) = true := by
      intro _ _
      rfl
    exact
      Lists.prefix_unique_of_countP (hExec now draw)
        (hExec now' draw') (hCount.trans hCount'.symm)
        (hSending.symm.trans hSending')
  rw [hFifo, hCopied, hSame]

------------------------------------------------------------
-- Replies to Whole Frames
------------------------------------------------------------

theorem Reply.whole_sending
    {board : Board}
    {events copying sending : List Event}
    (hReply : Reply board events copying sending)
    (hWhole : WholeFrames events) :
    WholeFrames sending := by
  rcases hReply.transmits with ⟨_, _, _, rfl⟩
  exact hWhole.left

/-
  On whole frames, a reply carries the `ledStatus` heard
  last before its copy.
-/
theorem Reply.copied
    {board : Board}
    {events copying sending : List Event}
    (hReply : Reply board events copying sending)
    (hWhole : WholeFrames events) :
    ((machine board).run sending).fifo.ledStatus =
      (lastHeard copying).ledStatus := by
  have hSending := hReply.whole_sending hWhole
  have hCopying : WholeFrames copying := by
    rcases hReply.between with ⟨_, _, _, rfl, _⟩
    exact hSending.left
  rw [hReply.ledStatus,
    run_slavePacket board copying hCopying]

end Slave

end LoRaTelemetry
