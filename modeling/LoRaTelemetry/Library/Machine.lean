import Mathlib.Data.List.Basic
import Mathlib.Data.List.Induction

/-
  Deterministic machines driven by a list of events. Each
  step moves the state and may emit outputs.

  Main declarations:
    * `Machine`
    * `Machine.run`
    * `Machine.trace`
    * `Machine.run_invariant`
    * `Machine.run_history`
    * `Machine.mem_trace_iff`
    * `Machine.runFrom_countdown`
    * `Machine.traceFrom_congr`
    * `Machine.paired_induction`
-/

------------------------------------------------------------
-- Machines and Runs
------------------------------------------------------------

/- A deterministic machine with outputs on its steps. -/
structure Machine
    (State Event Output : Type) where
  init : State
  step : State → Event → State
  emit : State → Event → List Output

namespace Machine

variable {State Event Output : Type}
variable (machine : Machine State Event Output)

/- The state after a list of events from a given state. -/
def runFrom
    (state : State)
    (events : List Event) : State :=
  events.foldl machine.step state

/- The state after a list of events from the initial one. -/
def run (events : List Event) : State :=
  machine.runFrom machine.init events

/- The outputs emitted along a list of events. -/
def traceFrom : State → List Event → List Output
| _, [] => []
| state, event :: events =>
    machine.emit state event ++
      traceFrom (machine.step state event) events

/- The outputs emitted by a run from the initial state. -/
def trace (events : List Event) : List Output :=
  machine.traceFrom machine.init events

@[simp] theorem run_nil :
    machine.run [] = machine.init := by
  rfl

@[simp] theorem trace_nil :
    machine.trace [] = [] := by
  rfl

theorem runFrom_append
    (state : State)
    (first second : List Event) :
    machine.runFrom state (first ++ second) =
      machine.runFrom
        (machine.runFrom state first) second := by
  simp [runFrom, List.foldl_append]

theorem run_append
    (first second : List Event) :
    machine.run (first ++ second) =
      machine.runFrom (machine.run first) second := by
  exact machine.runFrom_append machine.init first second

@[simp] theorem run_concat
    (events : List Event)
    (event : Event) :
    machine.run (events ++ [event]) =
      machine.step (machine.run events) event := by
  simp [run, runFrom]

theorem traceFrom_append
    (state : State)
    (first second : List Event) :
    machine.traceFrom state (first ++ second) =
      machine.traceFrom state first ++
        machine.traceFrom
          (machine.runFrom state first) second := by
  induction first generalizing state with
  | nil => rfl
  | cons event first ih =>
      simp [traceFrom, runFrom, ih]

theorem trace_append
    (first second : List Event) :
    machine.trace (first ++ second) =
      machine.trace first ++
        machine.traceFrom (machine.run first) second := by
  exact
    machine.traceFrom_append machine.init first second

@[simp] theorem trace_concat
    (events : List Event)
    (event : Event) :
    machine.trace (events ++ [event]) =
      machine.trace events ++
        machine.emit (machine.run events) event := by
  simp [trace_append, traceFrom]

------------------------------------------------------------
-- Invariant Rules
------------------------------------------------------------

/- A step-preserved property holds after every run. -/
theorem run_invariant
    {P : State → Prop}
    (hInit : P machine.init)
    (hStep :
      ∀ state event,
        P state → P (machine.step state event))
    (events : List Event) :
    P (machine.run events) := by
  induction events using List.reverseRecOn with
  | nil => exact hInit
  | append_singleton events event ih =>
      rw [run_concat]
      exact hStep _ event ih

/-
  The same rule for a property that also speaks about the
  events consumed so far.
-/
theorem run_history
    {P : List Event → State → Prop}
    (hInit : P [] machine.init)
    (hStep :
      ∀ events event,
        P events (machine.run events) →
          P (events ++ [event])
            (machine.step (machine.run events) event))
    (events : List Event) :
    P events (machine.run events) := by
  induction events using List.reverseRecOn with
  | nil => exact hInit
  | append_singleton events event ih =>
      rw [run_concat]
      exact hStep events event ih

/-
  A countdown that some of the events advance by one, and
  none of the others touches, shows how many are to come.
-/
theorem runFrom_countdown
    {P : State → Prop}
    (left : State → Nat)
    {counted : Event → Bool}
    (hCounted :
      ∀ state event,
        counted event = true → P state → 0 < left state →
          P (machine.step state event) ∧
            left (machine.step state event) + 1 =
              left state)
    (hOther :
      ∀ state event,
        counted event = false → P state →
          P (machine.step state event) ∧
            left (machine.step state event) = left state)
    {state : State}
    (hState : P state)
    (events : List Event)
    (hBound : events.countP counted ≤ left state) :
    P (machine.runFrom state events) ∧
      left (machine.runFrom state events) +
          events.countP counted =
        left state := by
  induction events using List.reverseRecOn with
  | nil => exact ⟨hState, rfl⟩
  | append_singleton events event ih =>
      rw [List.countP_append, List.countP_singleton]
        at hBound
      rw [runFrom_append, List.countP_append,
        List.countP_singleton]
      rcases ih (by omega) with ⟨hHere, hLeft⟩
      cases hEvent : counted event with
      | true =>
          rw [hEvent, if_pos rfl] at hBound
          rcases hCounted _ event hEvent hHere (by omega)
            with ⟨hNext, hFewer⟩
          refine ⟨hNext, ?_⟩
          rw [if_pos rfl, ← hLeft, ← hFewer]
          simp only [runFrom, List.foldl_cons,
            List.foldl_nil]
          omega
      | false =>
          rcases hOther _ event hEvent hHere with
            ⟨hNext, hSame⟩
          refine ⟨hNext, ?_⟩
          rw [← hLeft, ← hSame]
          simp [runFrom]

/- Every output of a run is emitted at one of its events. -/
theorem mem_trace_iff
    (events : List Event)
    (output : Output) :
    output ∈ machine.trace events ↔
      ∃ before event after,
        events = before ++ event :: after ∧
          output ∈
            machine.emit (machine.run before) event := by
  constructor
  · intro hMember
    induction events using List.reverseRecOn with
    | nil => simp at hMember
    | append_singleton events event ih =>
        rw [trace_concat, List.mem_append] at hMember
        rcases hMember with hOld | hNew
        · rcases ih hOld with
            ⟨before, found, after, rfl, hEmit⟩
          exact
            ⟨before, found, after ++ [event],
              by simp, hEmit⟩
        · exact ⟨events, event, [], rfl, hNew⟩
  · rintro ⟨before, event, after, rfl, hEmit⟩
    rw [trace_append, List.mem_append]
    apply Or.inr
    simp [traceFrom, hEmit]

/- States that step alike emit the same outputs. -/
theorem traceFrom_congr
    {R : State → State → Prop}
    (hStep :
      ∀ left right event,
        R left right →
          R (machine.step left event)
            (machine.step right event))
    (hEmit :
      ∀ left right event,
        R left right →
          machine.emit left event =
            machine.emit right event)
    {left right : State}
    (hRelated : R left right)
    (events : List Event) :
    R (machine.runFrom left events)
        (machine.runFrom right events) ∧
      machine.traceFrom left events =
        machine.traceFrom right events := by
  induction events generalizing left right with
  | nil => exact ⟨hRelated, rfl⟩
  | cons event events ih =>
      rcases ih (hStep left right event hRelated) with
        ⟨hRun, hTrace⟩
      refine ⟨hRun, ?_⟩
      rw [traceFrom, traceFrom,
        hEmit left right event hRelated, hTrace]

------------------------------------------------------------
-- Two Runs with the Same Visible Events
------------------------------------------------------------

/-
  Induction over two event lists with the same visible
  part: hidden events may be appended on either side, and a
  visible one on both sides together.
-/
theorem paired_induction
    {Event View : Type}
    {view : Event → Option View}
    {P : List Event → List Event → Prop}
    (hInit : P [] [])
    (hLeft :
      ∀ left right event,
        view event = none →
        P left right → P (left ++ [event]) right)
    (hRight :
      ∀ left right event,
        view event = none →
        P left right → P left (right ++ [event]))
    (hBoth :
      ∀ left right event event' shown,
        left.filterMap view = right.filterMap view →
        view event = some shown →
        view event' = some shown →
        P left right →
          P (left ++ [event]) (right ++ [event']))
    (left right : List Event)
    (hSame :
      left.filterMap view = right.filterMap view) :
    P left right := by
  induction left using List.reverseRecOn
      generalizing right with
  | nil =>
      induction right using List.reverseRecOn with
      | nil => exact hInit
      | append_singleton right event ih =>
          cases hView : view event with
          | none =>
              apply hRight [] right event hView
              exact ih (by simpa [hView] using hSame)
          | some shown => simp [hView] at hSame
  | append_singleton left event ihLeft =>
      cases hView : view event with
      | none =>
          apply hLeft left right event hView
          exact ihLeft right (by simpa [hView] using hSame)
      | some shown =>
          induction right using List.reverseRecOn with
          | nil => simp [hView] at hSame
          | append_singleton right event' ihRight =>
              cases hView' : view event' with
              | none =>
                  apply hRight _ right event' hView'
                  exact
                    ihRight
                      (by simpa [hView'] using hSame)
              | some shown' =>
                  have hSplit :
                      left.filterMap view ++ [shown] =
                        right.filterMap view ++
                          [shown'] := by
                    simpa [hView, hView'] using hSame
                  rcases List.append_inj' hSplit rfl with
                    ⟨hPrefix, hShown⟩
                  have hEqual : shown' = shown := by
                    simpa using hShown.symm
                  subst hEqual
                  exact
                    hBoth left right event event' shown'
                      hPrefix hView hView'
                      (ihLeft right hPrefix)

end Machine
