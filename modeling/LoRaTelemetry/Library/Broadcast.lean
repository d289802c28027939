import Mathlib.Data.List.Basic
import Mathlib.Logic.Function.Basic

/-
  A broadcast medium. Messages are put on the air one after
  another; each is delivered whole, at most once and in the
  order of transmission to any subset of the other nodes,
  or lost.

  Main declarations:
    * `Medium`
    * `Medium.transmit`
    * `Medium.offered`
    * `Medium.hear`
    * `Medium.heard_sublist_log`
    * `Medium.sender_ne_of_mem_heard`
    * `Medium.offered_transmit`
-/

------------------------------------------------------------
-- The Medium
------------------------------------------------------------

/-
  The messages transmitted so far, and for each node the
  deliveries to it with their times. A node's cursor stands
  behind the last message that was delivered to it.
-/
structure Medium
    {Node Message : Type}
    [DecidableEq Node]
    (Time : Type)
    (sender : Message → Node) where
  log : List Message
  cursor : Node → Nat
  heard : Node → List (Message × Time)
  inOrder :
    ∀ node,
      ((heard node).map Prod.fst).Sublist
        ((log.take (cursor node)).filter
          (fun message => sender message ≠ node))

namespace Medium

variable {Node Message Time : Type}
variable [DecidableEq Node]
variable {sender : Message → Node}

/- Nothing has been transmitted. -/
def silent : Medium Time sender :=
  { log := []
    cursor := fun _ => 0
    heard := fun _ => []
    inOrder := by simp }

variable (medium : Medium Time sender)

/- A message is put on the air. -/
def transmit (message : Message) : Medium Time sender :=
  { log := medium.log ++ [message]
    cursor := medium.cursor
    heard := medium.heard
    inOrder := by
      intro node
      apply (medium.inOrder node).trans
      apply List.Sublist.filter
      rw [List.take_append]
      exact List.sublist_append_left _ _ }

/-
  The message at a position of the log, when a node can
  still receive it.
-/
def offered
    (node : Node)
    (position : Nat) : Option Message :=
  if medium.cursor node ≤ position then
    medium.log[position]?.filter
      (fun message => sender message ≠ node)
  else
    none

theorem offered_eq_some_iff
    (node : Node)
    (position : Nat)
    (message : Message) :
    medium.offered node position = some message ↔
      medium.cursor node ≤ position ∧
        medium.log[position]? = some message ∧
        sender message ≠ node := by
  unfold offered
  by_cases hCursor : medium.cursor node ≤ position
  · rw [if_pos hCursor, Option.filter_eq_some_iff]
    simp [hCursor]
  · simp [hCursor]

/- The deliveries to one node, extended by one. -/
theorem inOrder_deliver
    (node : Node)
    (position : Nat)
    (time : Time)
    (message : Message)
    (hOffered :
      medium.offered node position = some message) :
    ((medium.heard node ++ [(message, time)]).map
        Prod.fst).Sublist
      ((medium.log.take (position + 1)).filter
        (fun message => sender message ≠ node)) := by
  rw [offered_eq_some_iff] at hOffered
  rcases hOffered with ⟨hCursor, hMessage, hSender⟩
  rw [List.take_add_one, hMessage, List.filter_append,
    List.map_append]
  apply List.Sublist.append
  · apply (medium.inOrder node).trans
    apply List.Sublist.filter
    exact
      (List.take_prefix_take_left hCursor).sublist
  · simp [hSender]

/- A message is delivered to one node. -/
def deliver
    (node : Node)
    (position : Nat)
    (time : Time)
    (message : Message)
    (hOffered :
      medium.offered node position = some message) :
    Medium Time sender :=
  { log := medium.log
    cursor :=
      Function.update medium.cursor node (position + 1)
    heard :=
      Function.update medium.heard node
        (medium.heard node ++ [(message, time)])
    inOrder := by
      intro other
      by_cases hOther : other = node
      · subst hOther
        rw [Function.update_self, Function.update_self]
        exact
          medium.inOrder_deliver other position time message
            hOffered
      · rw [Function.update_of_ne hOther,
          Function.update_of_ne hOther]
        exact medium.inOrder other }

/- Reception at a position, if a message is offered. -/
def hear
    (node : Node)
    (position : Nat)
    (time : Time) : Medium Time sender :=
  match hOffered : medium.offered node position with
  | none => medium
  | some message =>
      medium.deliver node position time message hOffered

------------------------------------------------------------
-- Logs and Deliveries
------------------------------------------------------------

@[simp] theorem log_silent :
    (silent : Medium Time sender).log = [] := by
  rfl

@[simp] theorem heard_silent
    (node : Node) :
    (silent : Medium Time sender).heard node = [] := by
  rfl

@[simp] theorem log_transmit
    (message : Message) :
    (medium.transmit message).log =
      medium.log ++ [message] := by
  rfl

@[simp] theorem heard_transmit
    (message : Message) :
    (medium.transmit message).heard = medium.heard := by
  rfl

theorem hear_of_not_offered
    {node : Node}
    {position : Nat}
    (time : Time)
    (hOffered : medium.offered node position = none) :
    medium.hear node position time = medium := by
  unfold hear
  split
  · rfl
  · simp_all

theorem hear_of_offered
    {node : Node}
    {position : Nat}
    (time : Time)
    {message : Message}
    (hOffered :
      medium.offered node position = some message) :
    medium.hear node position time =
      medium.deliver node position time message
        hOffered := by
  unfold hear
  split
  · simp_all
  · rename_i found hFound
    have hSame : found = message := by
      rw [hOffered] at hFound
      exact (Option.some.inj hFound).symm
    subst hSame
    rfl

@[simp] theorem log_hear
    (node : Node)
    (position : Nat)
    (time : Time) :
    (medium.hear node position time).log = medium.log := by
  unfold hear
  split <;> rfl

/- A delivery reaches one node and is the last it heard. -/
theorem heard_hear
    (node other : Node)
    (position : Nat)
    (time : Time) :
    (medium.hear node position time).heard other =
      if other = node then
        medium.heard other ++
          ((medium.offered node position).map
            (fun message => (message, time))).toList
      else
        medium.heard other := by
  cases hOffered : medium.offered node position with
  | none =>
      rw [hear_of_not_offered medium time hOffered]
      simp
  | some message =>
      rw [hear_of_offered medium time hOffered]
      by_cases hOther : other = node
      · subst hOther
        simp [deliver]
      · simp [deliver, hOther]

/- A delivery is an old one or the message just offered. -/
theorem mem_heard_hear
    {node other : Node}
    {position : Nat}
    {time : Time}
    {delivery : Message × Time}
    (hHeard :
      delivery ∈
        (medium.hear node position time).heard other) :
    delivery ∈ medium.heard other ∨
      (medium.offered node position = some delivery.1 ∧
        delivery.2 = time) := by
  rw [heard_hear] at hHeard
  split at hHeard
  · rcases List.mem_append.mp hHeard with hOld | hNew
    · exact Or.inl hOld
    · rw [Option.mem_toList, Option.map_eq_some_iff]
        at hNew
      rcases hNew with ⟨message, hOffered, rfl⟩
      exact Or.inr ⟨hOffered, rfl⟩
  · exact Or.inl hHeard

------------------------------------------------------------
-- What Was Heard
------------------------------------------------------------

/- Deliveries are transmissions, once each and in order. -/
theorem heard_sublist_log
    (node : Node) :
    ((medium.heard node).map Prod.fst).Sublist
      medium.log := by
  exact
    (medium.inOrder node).trans
      ((List.filter_sublist).trans
        (List.take_sublist _ _))

theorem mem_log_of_mem_heard
    {node : Node}
    {delivery : Message × Time}
    (hHeard : delivery ∈ medium.heard node) :
    delivery.1 ∈ medium.log := by
  apply (medium.heard_sublist_log node).subset
  exact List.mem_map_of_mem hHeard

/- No node hears itself. -/
theorem sender_ne_of_mem_heard
    {node : Node}
    {delivery : Message × Time}
    (hHeard : delivery ∈ medium.heard node) :
    sender delivery.1 ≠ node := by
  have hMember :=
    (medium.inOrder node).subset
      (List.mem_map_of_mem hHeard)
  simpa using (List.mem_filter.mp hMember).2

------------------------------------------------------------
-- New Messages
------------------------------------------------------------

/- No cursor stands behind the end of the log. -/
def InLog : Prop :=
  ∀ node, medium.cursor node ≤ medium.log.length

variable {medium}

theorem inLog_silent :
    (silent : Medium Time sender).InLog := by
  intro node
  exact Nat.le_refl _

theorem InLog.transmit
    (hInLog : medium.InLog)
    (message : Message) :
    (medium.transmit message).InLog := by
  intro node
  rw [log_transmit, List.length_append]
  exact Nat.le_trans (hInLog node) (Nat.le_add_right _ _)

theorem InLog.hear
    (hInLog : medium.InLog)
    (node : Node)
    (position : Nat)
    (time : Time) :
    (medium.hear node position time).InLog := by
  intro other
  rw [log_hear]
  cases hOffered : medium.offered node position with
  | none =>
      rw [hear_of_not_offered medium time hOffered]
      exact hInLog other
  | some message =>
      rw [hear_of_offered medium time hOffered]
      rw [offered_eq_some_iff] at hOffered
      by_cases hOther : other = node
      · subst hOther
        simp only [deliver, Function.update_self]
        exact
          (List.getElem?_eq_some_iff.mp hOffered.2.1).1
      · simp only [deliver, Function.update_of_ne hOther]
        exact hInLog other

/- What is put on the air can reach every other node. -/
theorem offered_transmit
    (hInLog : medium.InLog)
    {node : Node}
    {message : Message}
    (hSender : sender message ≠ node) :
    (medium.transmit message).offered node
        medium.log.length =
      some message := by
  rw [offered_eq_some_iff]
  exact ⟨hInLog node, by simp, hSender⟩

end Medium
