import LoRaTelemetry.Network.Clock

/-
  When only the master steers the clocks of the slaves.

  A slave resynchronises at every frame, before it looks at
  the sender, so telemetry of another slave that it overhears
  moves its clock unless it shows the very time that the
  slave's clock has.

  Main declarations:
    * `Network.Steered`
    * `Network.RelaysAgree`
    * `Network.heard_concat`
    * `Network.steered_iff`
    * `Network.overheardReply_steers`
-/

------------------------------------------------------------
-- Steering
------------------------------------------------------------

namespace LoRaTelemetry

namespace Network

variable {ι : Type} [DecidableEq ι]
variable (deployment : Deployment ι)

/- A delivery of a packet that the master sent. -/
def fromMaster (delivery : Transmission ι × Nat) : Bool :=
  delivery.1.sender = .master

/-
  After a packet of the master, a slave's clock shows the
  time stamp of the last one and the time since then.
-/
def Steered
    (net : Net ι)
    (index : ι) : Prop :=
  ∀ delivery,
    ((net.heard index).filter fromMaster).getLast? =
        some delivery →
      Slave.syncMillis (net.slave index)
          (deployment.slaveClock index net.now) =
        delivery.1.timeStamp +
          (deployment.slaveClock index net.now -
            deployment.slaveClock index delivery.2)

/- The clock correction that a reception asks for. -/
def correction
    (index : ι)
    (delivery : Transmission ι × Nat) : CLong :=
  deployment.slaveClock index delivery.2 -
    delivery.1.timeStamp

/-
  Telemetry that a slave overhears after a packet of the
  master asks for the correction that the last such packet
  asked for.
-/
def RelaysAgree
    (net : Net ι)
    (index : ι) : Prop :=
  ∀ before delivery after last,
    net.heard index = before ++ delivery :: after →
      fromMaster delivery = false →
        (before.filter fromMaster).getLast? = some last →
          correction deployment index delivery =
            correction deployment index last

/- The clock is steered as the last correction says. -/
theorem steered_iff_correction
    {net : Net ι}
    {index : ι}
    {steps : List Slave.Event}
    {earlier : List (Transmission ι × Nat)}
    {delivery : Transmission ι × Nat}
    (hRuns : SlaveRuns deployment net index steps)
    (hHeard : net.heard index = earlier ++ [delivery]) :
    Steered deployment net index ↔
      ∀ last,
        ((net.heard index).filter fromMaster).getLast? =
            some last →
          correction deployment index delivery =
            correction deployment index last := by
  have hOne :
      ∀ last : Transmission ι × Nat,
        Slave.syncMillis (net.slave index)
              (deployment.slaveClock index net.now) =
            last.1.timeStamp +
              (deployment.slaveClock index net.now -
                deployment.slaveClock index last.2) ↔
          correction deployment index delivery =
            correction deployment index last := by
    intro last
    have hShift :
        last.1.timeStamp +
            (deployment.slaveClock index net.now -
              deployment.slaveClock index last.2) =
          deployment.slaveClock index net.now -
            correction deployment index last := by
      unfold correction
      rw [sub_sub_eq_add_sub, ← add_sub_assoc,
        add_comm last.1.timeStamp]
    rw [Slave.syncMillis, hRuns.timeSyncErr hHeard, hShift]
    exact sub_right_inj
  constructor
  · intro hSteered last hLast
    exact (hOne last).mp (hSteered last hLast)
  · intro hCorrection last hLast
    exact (hOne last).mpr (hCorrection last hLast)

------------------------------------------------------------
-- Receptions along a Run
------------------------------------------------------------

/- A step adds at most one reception of a slave. -/
theorem heard_step
    (net : Net ι)
    (event : Event ι)
    (index : ι) :
    ∃ new : Option (Transmission ι × Nat),
      (step deployment net event).heard index =
        net.heard index ++ new.toList := by
  rcases step_slave deployment net event index with
    ⟨draw, _, hStep⟩ | ⟨transmission, _, _, hHeard⟩ | hSame
  · have hAdvance :=
      advance_slave deployment net index draw
    refine ⟨none, ?_⟩
    rw [hStep, hAdvance.2.2]
    exact (List.append_nil _).symm
  · exact ⟨some (transmission, net.now), hHeard⟩
  · refine ⟨none, ?_⟩
    rw [hSame.heard]
    exact (List.append_nil _).symm

theorem heard_concat
    (events : List (Event ι))
    (event : Event ι)
    (index : ι) :
    ∃ new : Option (Transmission ι × Nat),
      ((network deployment).run
          (events ++ [event])).heard index =
        ((network deployment).run events).heard index ++
          new.toList := by
  rw [Machine.run_concat]
  exact heard_step deployment _ event index

/- Later in a run a slave has heard more. -/
theorem heard_prefix
    {before events : List (Event ι)}
    (hPrefix : before <+: events)
    (index : ι) :
    ((network deployment).run before).heard index <+:
      ((network deployment).run events).heard index := by
  rcases hPrefix with ⟨after, rfl⟩
  induction after using List.reverseRecOn with
  | nil => simp
  | append_singleton after event ih =>
      rcases heard_concat deployment (before ++ after) event
          index with
        ⟨new, hNew⟩
      rw [← List.append_assoc, hNew]
      exact ih.trans (List.prefix_append _ _)

/- Every reception was the last one at some moment. -/
theorem exists_heard_last
    (events : List (Event ι))
    {index : ι}
    {before after : List (Transmission ι × Nat)}
    {delivery : Transmission ι × Nat}
    (hHeard :
      ((network deployment).run events).heard index =
        before ++ delivery :: after) :
    ∃ early, early <+: events ∧
      ((network deployment).run early).heard index =
        before ++ [delivery] := by
  induction events using List.reverseRecOn
      generalizing after with
  | nil =>
      simp [Net.init, Net.heard] at hHeard
  | append_singleton events event ih =>
      rcases List.eq_nil_or_concat' after with
        rfl | ⟨shorter, last, rfl⟩
      · exact ⟨_, List.prefix_rfl, hHeard⟩
      · rcases heard_concat deployment events event index
          with ⟨new, hNew⟩
        rw [hNew] at hHeard
        have hEarlier :
            ∃ rest,
              ((network deployment).run
                  events).heard index =
                before ++ delivery :: rest := by
          cases new with
          | none => exact ⟨_, by simpa using hHeard⟩
          | some newest =>
              refine ⟨shorter, ?_⟩
              have hSplit :
                  ((network deployment).run
                        events).heard index ++ [newest] =
                    (before ++ delivery :: shorter) ++
                      [last] := by
                simpa using hHeard
              exact (List.append_inj' hSplit rfl).1
        rcases hEarlier with ⟨rest, hRest⟩
        rcases ih hRest with ⟨early, hPrefix, hLast⟩
        exact
          ⟨early,
            hPrefix.trans (List.prefix_append _ _), hLast⟩

------------------------------------------------------------
-- Whole Runs
------------------------------------------------------------

/-
  For every run: all slaves are steered by the master at
  every moment exactly when the telemetry they overhear asks
  for no other correction.
-/
theorem steered_iff
    (events : List (Event ι)) :
    (∀ before, before <+: events →
        ∀ index,
          Steered deployment
            ((network deployment).run before) index) ↔
      ∀ index,
        RelaysAgree deployment
          ((network deployment).run events) index := by
  constructor
  · intro hSteered index before delivery after last hHeard
      hRelay hLast
    rcases exists_heard_last deployment events hHeard with
      ⟨early, hPrefix, hEarly⟩
    rcases run_slave deployment early index with
      ⟨steps, hRuns⟩
    apply
      (steered_iff_correction deployment hRuns hEarly).mp
        (hSteered early hPrefix index)
    rw [hEarly, List.filter_append,
      List.filter_singleton, hRelay]
    simpa using hLast
  · intro hAgree before hPrefix index
    rcases run_slave deployment before index with
      ⟨steps, hRuns⟩
    rcases List.eq_nil_or_concat'
        (((network deployment).run before).heard index) with
      hNone | ⟨earlier, delivery, hHeard⟩
    · intro last hLast
      rw [hNone] at hLast
      cases hLast
    · apply
        (steered_iff_correction deployment hRuns hHeard).mpr
      intro last hLast
      rw [hHeard, List.filter_append,
        List.filter_singleton] at hLast
      cases hMaster : fromMaster delivery with
      | true =>
          -- the last reception is the master's own packet
          simp only [hMaster, cond_true,
            List.getLast?_concat] at hLast
          rw [Option.some.inj hLast]
      | false =>
          rcases heard_prefix deployment hPrefix index with
            ⟨after, hAfter⟩
          rw [hHeard, List.append_assoc] at hAfter
          apply
            hAgree index earlier delivery after last
              hAfter.symm hMaster
          simpa [hMaster] using hLast

------------------------------------------------------------
-- A Reply Overheard
------------------------------------------------------------

/-
  Both slaves receive the request for slave 8 ten
  milliseconds after it was stamped. Slave 8 answers, and
  slave 9 overhears the answer ten milliseconds later.
-/
def overheardReply : List (Event TwoSlaves) :=
  List.replicate 3 (.master ⟨-1, none⟩ 0) ++
    [.tick 10, .interrupt .slave8 0,
      .interrupt .slave9 0] ++
    List.replicate 21 (.slave .slave8 (Fin.last 3)) ++
    [.tick 10, .interrupt .slave9 1]

/- The request that slave 9 received, and when. -/
def overheardRequest : Transmission TwoSlaves × Nat :=
  (.master
    (Master.statusRequest Master.deployed Master.State.init
      100)
    none ⟨0, 0⟩, 10)

/- The answer sets the clock of slave 9 back. -/
theorem overheardReply_steers :
    ¬ ∀ before, before <+: overheardReply →
        ∀ index,
          Steered twoSlaves
            ((network twoSlaves).run before) index := by
  intro hSteered
  have hRequest :
      ((((network twoSlaves).run
          overheardReply).heard .slave9).filter
            fromMaster).getLast? =
        some overheardRequest := by
    decide +kernel
  have hClock :=
    hSteered overheardReply List.prefix_rfl .slave9
      overheardRequest hRequest
  exact absurd hClock (by decide +kernel)

end Network

end LoRaTelemetry
