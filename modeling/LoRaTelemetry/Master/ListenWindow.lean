import LoRaTelemetry.Master.Loop

/-
  When the listening loop of the master leaves, on a clock
  that wraps.

  The loop compares the unsigned difference of two readings
  of `millis()` with `interval`. While no two successive
  readings are almost a whole wrap apart, that difference is
  the time elapsed, so the loop leaves in time.

  Main declarations:
    * `Master.listenLoop`
    * `Master.listenWindow_of_listenLoop`
    * `Master.Uptime`
    * `Master.listening_iff`
    * `Master.listenFrom_leavesAt`
-/

------------------------------------------------------------
-- The Loop without a Last Round
------------------------------------------------------------

namespace LoRaTelemetry

namespace Master

/-
  What the loop leaves behind, with the number of the
  evaluation of its condition at which it left.
-/
structure Left where
  evaluation : Nat
  state : State
  posts : List Record

/-
  The listening loop on rounds that never run out; `none`
  while it has not left.
-/
def listenLoop
    (rounds : Nat → Poll) :
    Nat → Nat → State → Option Left
| 0, _, _ => none
| fuel + 1, index, state =>
    if listening state (rounds index).clock then
      let received :=
        onreceive state (rounds index).packet
      (listenLoop rounds fuel (index + 1)
        received.1).map fun left =>
          { left with
            posts := received.2.toList ++ left.posts }
    else
      some
        { evaluation := index
          state := state
          posts := [] }

/- It is the loop of a pass that sees these rounds. -/
theorem listenWindow_of_listenLoop
    {rounds : Nat → Poll}
    {fuel index : Nat}
    {state : State}
    {left : Left}
    (hLeft :
      listenLoop rounds fuel index state = some left) :
    index ≤ left.evaluation ∧
      listenWindow state
          ((List.range' index
            (left.evaluation + 1 - index)).map rounds) =
        (left.state, left.posts) := by
  induction fuel generalizing index state left with
  | zero => cases hLeft
  | succ fuel ih =>
      unfold listenLoop at hLeft
      by_cases hOpen :
          listening state (rounds index).clock = true
      · rw [if_pos hOpen, Option.map_eq_some_iff] at hLeft
        rcases hLeft with ⟨later, hLater, rfl⟩
        rcases ih hLater with ⟨hIndex, hWindow⟩
        refine ⟨by simp only; omega, ?_⟩
        have hCount :
            later.evaluation + 1 - index =
              later.evaluation + 1 - (index + 1) + 1 := by
          omega
        simp only
        rw [hCount, List.range'_succ, List.map_cons,
          listenWindow, if_pos hOpen]
        simp only
        rw [hWindow]
      · rw [if_neg hOpen] at hLeft
        cases hLeft
        refine ⟨le_rfl, ?_⟩
        simp only
        rw [Nat.add_sub_cancel_left, List.range'_one,
          List.map_singleton, listenWindow, if_neg hOpen]

/- A round leaves the condition of the later ones alone. -/
theorem listening_onreceive
    (state : State)
    (packet : Option Frame)
    (clock : ULong) :
    listening (onreceive state packet).1 clock =
      listening state clock := by
  rcases onreceive_state state packet with
    ⟨buffer, hBuffer⟩
  rw [hBuffer]
  rfl

/- It goes on while its condition holds. -/
theorem listenLoop_waits
    {rounds : Nat → Poll}
    {state : State}
    {index fuel : Nat}
    (hOpen :
      ∀ round, index ≤ round → round < index + fuel →
        listening state (rounds round).clock = true) :
    listenLoop rounds fuel index state = none := by
  induction fuel generalizing index state with
  | zero => rfl
  | succ fuel ih =>
      unfold listenLoop
      rw [hOpen index le_rfl (by omega), if_pos rfl]
      simp only
      rw [Option.map_eq_none_iff]
      apply ih
      intro round hFrom hTo
      rw [listening_onreceive]
      exact hOpen round (by omega) (by omega)

/- It leaves at the first evaluation that fails. -/
theorem listenLoop_leaves
    {rounds : Nat → Poll}
    {state : State}
    {index last fuel : Nat}
    (hIndex : index ≤ last)
    (hOpen :
      ∀ round, index ≤ round → round < last →
        listening state (rounds round).clock = true)
    (hClosed :
      listening state (rounds last).clock = false)
    (hFuel : last < index + fuel) :
    ∃ left,
      listenLoop rounds fuel index state = some left ∧
        left.evaluation = last := by
  induction fuel generalizing index state with
  | zero => omega
  | succ fuel ih =>
      unfold listenLoop
      rcases Nat.eq_or_lt_of_le hIndex with rfl | hBefore
      · rw [hClosed]
        exact ⟨_, rfl, rfl⟩
      · rw [hOpen index le_rfl hBefore, if_pos rfl]
        have hOpenAfter :
            ∀ round, index + 1 ≤ round → round < last →
              listening
                  (onreceive state
                    (rounds index).packet).1
                  (rounds round).clock =
                true := by
          intro round hFrom hTo
          rw [listening_onreceive]
          exact hOpen round (by omega) hTo
        have hClosedAfter :
            listening
                (onreceive state (rounds index).packet).1
                (rounds last).clock =
              false := by
          rw [listening_onreceive]
          exact hClosed
        rcases ih hBefore hOpenAfter hClosedAfter
            (by omega) with
          ⟨left, hLeft, hLast⟩
        simp only
        rw [hLeft]
        exact ⟨_, rfl, hLast⟩

------------------------------------------------------------
-- Readings of the Clock
------------------------------------------------------------

/- `millis()` after so many milliseconds of uptime. -/
def millis (uptime : Nat) : ULong :=
  BitVec.ofNat 32 uptime

/-
  The real times at which one pass reads the clock: first for
  `lastSendTime`, then at each evaluation of the condition.
  Time goes on without bound, and successive readings are
  less than a wrap less the interval apart.
-/
structure Uptime where
  reading : Nat → Nat
  monotone : Monotone reading
  unbounded : ∀ bound, ∃ index, bound ≤ reading index
  gaps :
    ∀ index,
      reading (index + 1) - reading index <
        2 ^ 32 - interval.toNat

namespace Uptime

variable (uptime : Uptime)

/- The time since the first reading at an evaluation. -/
def elapsed (evaluation : Nat) : Nat :=
  uptime.reading (evaluation + 1) - uptime.reading 0

/- The rounds of the loop, with what they find to receive. -/
def rounds
    (packets : Nat → Option Frame)
    (evaluation : Nat) : Poll :=
  { clock := millis (uptime.reading (evaluation + 1))
    packet := packets evaluation }

end Uptime

variable (uptime : Uptime)
variable (state : State)

/- `lastSendTime = millis()`, and the loop that follows. -/
def listenFrom
    (packets : Nat → Option Frame)
    (fuel : Nat) : Option Left :=
  listenLoop (uptime.rounds packets) fuel 0
    (markSendTime state (millis (uptime.reading 0)))

------------------------------------------------------------
-- The Condition
------------------------------------------------------------

theorem Uptime.reading_zero_le
    (index : Nat) :
    uptime.reading 0 ≤ uptime.reading index := by
  exact uptime.monotone (Nat.zero_le index)

/- Until a whole wrap has passed, the condition is exact. -/
theorem listening_iff
    {evaluation : Nat}
    (hWrap : uptime.elapsed evaluation < 2 ^ 32) :
    listening
          (markSendTime state (millis (uptime.reading 0)))
          (millis (uptime.reading (evaluation + 1))) =
        true ↔
      uptime.elapsed evaluation < interval.toNat := by
  have hLater := uptime.reading_zero_le (evaluation + 1)
  have hSplit :
      uptime.reading (evaluation + 1) =
        uptime.elapsed evaluation + uptime.reading 0 := by
    unfold Uptime.elapsed
    omega
  have hDifference :
      millis (uptime.reading (evaluation + 1)) -
          millis (uptime.reading 0) =
        BitVec.ofNat 32 (uptime.elapsed evaluation) := by
    rw [hSplit]
    simp only [millis, BitVec.ofNat_add]
    exact BitVec.add_sub_cancel _ _
  have hExact :
      (BitVec.ofNat 32 (uptime.elapsed evaluation)).toNat =
        uptime.elapsed evaluation := by
    rw [BitVec.toNat_ofNat]
    exact Nat.mod_eq_of_lt hWrap
  unfold listening markSendTime
  simp only [hDifference, decide_eq_true_eq,
    BitVec.lt_def, hExact]

/- While the loop is open, no whole wrap can have passed. -/
theorem Uptime.elapsed_lt
    {evaluation : Nat}
    (hOpen :
      ∀ earlier < evaluation,
        uptime.elapsed earlier < interval.toNat) :
    uptime.elapsed evaluation < 2 ^ 32 := by
  have hGap := uptime.gaps evaluation
  have hInterval : interval.toNat = 1200 := by decide
  rw [hInterval] at hGap hOpen
  cases evaluation with
  | zero =>
      unfold elapsed
      omega
  | succ evaluation =>
      have hBefore := hOpen evaluation (by omega)
      unfold elapsed at hBefore ⊢
      omega

------------------------------------------------------------
-- Leaving in Time
------------------------------------------------------------

/-
  The evaluation is the first at which the interval has
  elapsed, and the loop leaves there: with enough fuel it
  has, with less it has not. It leaves what a pass of `loop`
  with these rounds leaves.
-/
structure LeavesAt
    (packets : Nat → Option Frame)
    (evaluation : Nat) : Prop where
  early :
    ∀ earlier < evaluation,
      uptime.elapsed earlier < interval.toNat
  due : interval.toNat ≤ uptime.elapsed evaluation
  waits :
    ∀ fuel ≤ evaluation,
      listenFrom uptime state packets fuel = none
  leaves :
    ∀ fuel, evaluation < fuel →
      ∃ left,
        listenFrom uptime state packets fuel =
            some left ∧
          left.evaluation = evaluation ∧
          listenWindow
              (markSendTime state
                (millis (uptime.reading 0)))
              ((List.range (evaluation + 1)).map
                (uptime.rounds packets)) =
            (left.state, left.posts)

/- Some evaluation is the first that is due. -/
theorem Uptime.exists_first_due :
    ∃ evaluation,
      interval.toNat ≤ uptime.elapsed evaluation ∧
        ∀ earlier < evaluation,
          uptime.elapsed earlier < interval.toNat := by
  have hDue :
      ∃ evaluation,
        interval.toNat ≤ uptime.elapsed evaluation := by
    rcases uptime.unbounded
        (uptime.reading 0 + interval.toNat) with
      ⟨index, hIndex⟩
    have hNext := uptime.monotone (Nat.le_succ index)
    refine ⟨index, ?_⟩
    unfold elapsed
    simp only [Nat.succ_eq_add_one] at hNext
    omega
  refine ⟨Nat.find hDue, Nat.find_spec hDue, ?_⟩
  intro earlier hEarlier
  exact not_le.mp (Nat.find_min hDue hEarlier)

/-
  For every start time, every trace and every packet: the
  loop leaves, and at the first evaluation that is due.
-/
theorem listenFrom_leavesAt
    (packets : Nat → Option Frame) :
    ∃ evaluation,
      LeavesAt uptime state packets evaluation := by
  rcases uptime.exists_first_due with
    ⟨evaluation, hDue, hEarly⟩
  have hOpen :
      ∀ earlier < evaluation,
        listening
            (markSendTime state
              (millis (uptime.reading 0)))
            (uptime.rounds packets earlier).clock =
          true := by
    intro earlier hEarlier
    have hWrap :
        uptime.elapsed earlier < 2 ^ 32 :=
      uptime.elapsed_lt fun before hBefore =>
        hEarly before (by omega)
    exact
      (listening_iff uptime state hWrap).mpr
        (hEarly earlier hEarlier)
  have hClosed :
      listening
          (markSendTime state (millis (uptime.reading 0)))
          (uptime.rounds packets evaluation).clock =
        false := by
    have hExact :=
      listening_iff uptime state (uptime.elapsed_lt hEarly)
    rw [Bool.eq_false_iff]
    intro hStill
    have hEarlyStill := hExact.mp hStill
    omega
  refine ⟨evaluation, hEarly, hDue, ?_, ?_⟩
  · intro fuel hFuel
    apply listenLoop_waits
    intro round _ hRound
    exact hOpen round (by omega)
  · intro fuel hFuel
    rcases listenLoop_leaves (Nat.zero_le evaluation)
        (fun round _ hRound => hOpen round hRound) hClosed
        (by omega : evaluation < 0 + fuel) with
      ⟨left, hLeft, hLast⟩
    have hWindow := (listenWindow_of_listenLoop hLeft).2
    rw [hLast, Nat.sub_zero, ← List.range_eq_range']
      at hWindow
    exact ⟨left, hLeft, hLast, hWindow⟩

------------------------------------------------------------
-- A Window across the Wrap
------------------------------------------------------------

/- Readings every 300 ms, from 600 ms before the wrap on. -/
def acrossWrap : Uptime :=
  { reading := fun index => 2 ^ 32 - 600 + 300 * index
    monotone := by
      intro first second hOrder
      simp only
      omega
    unbounded := by
      intro bound
      exact ⟨bound, by omega⟩
    gaps := by
      intro index
      have hInterval : interval.toNat = 1200 := by decide
      omega }

/- The stored reading is negative, and the loop is on time. -/
theorem acrossWrap_leaves :
    (millis (acrossWrap.reading 0)).toInt < 0 ∧
      (listenFrom acrossWrap State.init
          (fun _ => none) 10).map Left.evaluation =
        some 3 ∧
      ∃ evaluation,
        LeavesAt acrossWrap State.init (fun _ => none)
          evaluation := by
  refine ⟨by decide, by decide, ?_⟩
  exact
    listenFrom_leavesAt acrossWrap State.init
      (fun _ => none)

end Master

end LoRaTelemetry
