import LoRaTelemetry.Library.Machine

/-
  Two machines with the same events: when related states step
  to related states and emit the same outputs, they cannot be
  told apart. An event of one may also stand for several
  events of the other, or for none.

  Main declarations:
    * `Machine.Simulates`
    * `Machine.Simulates.traceFrom`
    * `Machine.Simulates.trace`
    * `Machine.Spells`
    * `Machine.Spells.traceFrom`
    * `Machine.Purges`
    * `Machine.Purges.traceFrom`
-/

------------------------------------------------------------
-- Simulations
------------------------------------------------------------

namespace Machine

variable {State State' Event Output : Type}

/- A relation between states that events cannot break. -/
structure Simulates
    (left : Machine State Event Output)
    (right : Machine State' Event Output)
    (R : State → State' → Prop) : Prop where
  step :
    ∀ state state' event,
      R state state' →
        R (left.step state event)
          (right.step state' event)
  emit :
    ∀ state state' event,
      R state state' →
        left.emit state event = right.emit state' event

variable {left : Machine State Event Output}
variable {right : Machine State' Event Output}
variable {R : State → State' → Prop}

/- Related states stay related and emit the same outputs. -/
theorem Simulates.traceFrom
    (hSimulates : left.Simulates right R)
    {state : State}
    {state' : State'}
    (hRelated : R state state')
    (events : List Event) :
    R (left.runFrom state events)
        (right.runFrom state' events) ∧
      left.traceFrom state events =
        right.traceFrom state' events := by
  induction events generalizing state state' with
  | nil => exact ⟨hRelated, rfl⟩
  | cons event events ih =>
      have hStep :=
        hSimulates.step state state' event hRelated
      rcases ih hStep with ⟨hRun, hTrace⟩
      refine ⟨hRun, ?_⟩
      rw [Machine.traceFrom, Machine.traceFrom, hTrace,
        hSimulates.emit state state' event hRelated]

/- Machines that start related have the same traces. -/
theorem Simulates.trace
    (hSimulates : left.Simulates right R)
    (hInit : R left.init right.init)
    (events : List Event) :
    left.trace events = right.trace events := by
  exact (hSimulates.traceFrom hInit events).2

------------------------------------------------------------
-- Events That Are Spelled Out
------------------------------------------------------------

variable {Letter : Type}

/- One event on the right is a word of events on the left. -/
structure Spells
    (left : Machine State Letter Output)
    (right : Machine State' Event Output)
    (spell : Event → List Letter)
    (R : State → State' → Prop) : Prop where
  step :
    ∀ state state' event,
      R state state' →
        R (left.runFrom state (spell event))
          (right.step state' event)
  emit :
    ∀ state state' event,
      R state state' →
        left.traceFrom state (spell event) =
          right.emit state' event

/- The words of a run, one after another. -/
theorem Spells.traceFrom
    {left : Machine State Letter Output}
    {right : Machine State' Event Output}
    {spell : Event → List Letter}
    (hSpells : left.Spells right spell R)
    {state : State}
    {state' : State'}
    (hRelated : R state state')
    (events : List Event) :
    R (left.runFrom state (events.flatMap spell))
        (right.runFrom state' events) ∧
      left.traceFrom state (events.flatMap spell) =
        right.traceFrom state' events := by
  induction events generalizing state state' with
  | nil => exact ⟨hRelated, rfl⟩
  | cons event events ih =>
      have hStep := hSpells.step state state' event hRelated
      rcases ih hStep with ⟨hRun, hTrace⟩
      rw [List.flatMap_cons]
      constructor
      · rw [Machine.runFrom_append]
        exact hRun
      · rw [Machine.traceFrom_append, hTrace,
          hSpells.emit state state' event hRelated,
          Machine.traceFrom]

------------------------------------------------------------
-- Events That Leave No Trace
------------------------------------------------------------

/-
  Some events are not seen by a relation, and nothing is
  emitted on them.
-/
structure Purges
    (machine : Machine State Event Output)
    (Allowed : Event → Prop)
    (keep : Event → Bool)
    (R : State → State → Prop) : Prop where
  kept :
    ∀ state state' event,
      Allowed event → keep event → R state state' →
        R (machine.step state event)
            (machine.step state' event) ∧
          machine.emit state event =
            machine.emit state' event
  dropped :
    ∀ state state' event,
      Allowed event → keep event = false → R state state' →
        R (machine.step state event) state' ∧
          machine.emit state event = []

/- They may be dropped from any run. -/
theorem Purges.traceFrom
    {machine : Machine State Event Output}
    {Allowed : Event → Prop}
    {keep : Event → Bool}
    {R : State → State → Prop}
    (hPurges : machine.Purges Allowed keep R)
    {state state' : State}
    (hRelated : R state state')
    (events : List Event)
    (hAllowed : ∀ event ∈ events, Allowed event) :
    R (machine.runFrom state events)
        (machine.runFrom state' (events.filter keep)) ∧
      machine.traceFrom state events =
        machine.traceFrom state' (events.filter keep) := by
  induction events generalizing state state' with
  | nil => exact ⟨hRelated, rfl⟩
  | cons event events ih =>
      have hFirst := hAllowed event List.mem_cons_self
      have hRest :=
        fun event hEvent =>
          hAllowed event (List.mem_cons_of_mem _ hEvent)
      cases hKeep : keep event with
      | true =>
          rcases hPurges.kept state state' event hFirst hKeep
              hRelated with
            ⟨hStep, hEmit⟩
          rcases ih hStep hRest with ⟨hRun, hTrace⟩
          rw [List.filter_cons_of_pos hKeep]
          refine ⟨hRun, ?_⟩
          rw [Machine.traceFrom, Machine.traceFrom, hTrace,
            hEmit]
      | false =>
          rcases hPurges.dropped state state' event hFirst
              hKeep hRelated with
            ⟨hStep, hEmit⟩
          rcases ih hStep hRest with ⟨hRun, hTrace⟩
          rw [List.filter_cons_of_neg (by simp [hKeep])]
          refine ⟨hRun, ?_⟩
          rw [Machine.traceFrom, hEmit, List.nil_append]
          exact hTrace

end Machine
