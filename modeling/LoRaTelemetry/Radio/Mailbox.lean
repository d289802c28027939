import LoRaTelemetry.Library.Machine
import LoRaTelemetry.Radio.Reading

/-
  A radio that is polled is a mailbox with one slot. A frame
  stays there until it is polled, until the next one arrives,
  or until a damaged one spoils it; a packet written for
  sending goes over it.

  Main declarations:
    * `Master.Mail`
    * `Master.Letter`
    * `Master.mailbox`
    * `Master.letters_sublist`
-/

------------------------------------------------------------
-- The Mailbox
------------------------------------------------------------

namespace LoRaTelemetry

namespace Master

/- What happens to the frame that the radio holds. -/
inductive Mail where
| arrive (frame : Frame) (start : Byte) (crcError : Bool)
| overwrite (packet : StructMessage)
| poll
deriving DecidableEq

/- A frame, where it lies, and what was written over it. -/
structure Letter where
  frame : Frame
  start : Byte
  packet? : Option StructMessage

/- The bytes of a letter that has been written over. -/
def Letter.bytes (letter : Letter) : List Byte :=
  match letter.packet? with
  | none => letter.frame.bytes
  | some packet =>
      letter.frame.bytes.mapIdx fun place byte =>
        packet.bytes.getD
          (letter.start + BitVec.ofNat 8 place).toNat byte

@[simp] theorem Letter.length_bytes
    (letter : Letter) :
    letter.bytes.length = letter.frame.bytes.length := by
  unfold Letter.bytes
  split <;> simp

/- The letter in the slot, and whether a damaged one came. -/
structure Mailbox where
  slot : Option Letter := none
  spoilt : Bool := false

def Mailbox.step (box : Mailbox) : Mail → Mailbox
| .arrive frame start crcError =>
    if box.spoilt || crcError then
      { spoilt := true }
    else
      { slot := some ⟨frame, start, none⟩ }
| .overwrite packet =>
    { box with
      slot :=
        box.slot.map fun letter =>
          { letter with packet? := some packet } }
| .poll => {}

/- A mailbox, with the letters that are taken out of it. -/
def mailbox : Machine Mailbox Mail Letter :=
  { init := {}
    step := Mailbox.step
    emit := fun box mail =>
      match mail with
      | .poll => box.slot.toList
      | _ => [] }

/- The frame that arrives undamaged. -/
def Mail.frame? : Mail → Option Frame
| .arrive frame _ false => some frame
| _ => none

/- The frames that arrive undamaged, in order. -/
def arrivals (mails : List Mail) : List Frame :=
  mails.filterMap Mail.frame?

/- The letters polled, and the one that still waits. -/
def letters (mails : List Mail) : List Letter :=
  mailbox.trace mails ++ (mailbox.run mails).slot.toList

------------------------------------------------------------
-- What Is Taken Out
------------------------------------------------------------

variable (mails : List Mail)

theorem arrivals_concat
    (mail : Mail) :
    arrivals (mails ++ [mail]) =
      arrivals mails ++ mail.frame?.toList := by
  simp only [arrivals, List.filterMap_append]
  cases hFrame : mail.frame? <;> simp [hFrame]

theorem letters_concat
    (mail : Mail) :
    letters (mails ++ [mail]) =
      mailbox.trace mails ++
        match mail with
        | .poll => (mailbox.run mails).slot.toList
        | _ =>
            ((mailbox.run mails).step mail).slot.toList := by
  rw [letters, Machine.trace_concat, Machine.run_concat,
    List.append_assoc]
  cases mail with
  | poll => exact congrArg _ (List.append_nil _)
  | _ => rfl

/- Letters are frames that arrived, in order, once each. -/
theorem letters_sublist :
    ((letters mails).map Letter.frame).Sublist
      (arrivals mails) := by
  induction mails using List.reverseRecOn with
  | nil => exact List.Sublist.refl _
  | append_singleton mails mail ih =>
      rw [letters_concat, arrivals_concat]
      rw [letters, List.map_append] at ih
      rw [List.map_append]
      have hTaken :=
        (List.sublist_append_left _ _).trans ih
      cases mail with
      | poll =>
          exact ih.trans (List.sublist_append_left _ _)
      | overwrite packet =>
          have hSame :
              ((mailbox.run mails).step
                  (.overwrite packet)).slot.toList.map
                  Letter.frame =
                (mailbox.run mails).slot.toList.map
                  Letter.frame := by
            cases hSlot : (mailbox.run mails).slot <;>
              simp [Mailbox.step, hSlot]
          simp only [hSame]
          exact ih.trans (List.sublist_append_left _ _)
      | arrive frame start crcError =>
          simp only [Mailbox.step]
          split
          · rw [Option.toList_none, List.map_nil,
              List.append_nil]
            exact
              hTaken.trans (List.sublist_append_left _ _)
          · rename_i hWhole
            have hIntact : crcError = false := by
              cases crcError <;> simp_all
            subst hIntact
            exact hTaken.append (List.Sublist.refl _)

/- A letter lies where its frame has arrived. -/
theorem arrive_of_letter
    {letter : Letter}
    (hLetter : letter ∈ letters mails) :
    Mail.arrive letter.frame letter.start false ∈
      mails := by
  induction mails using List.reverseRecOn
      generalizing letter with
  | nil => simp [letters, mailbox] at hLetter
  | append_singleton mails mail ih =>
      rw [List.mem_append]
      rw [letters_concat, List.mem_append] at hLetter
      rcases hLetter with hTaken | hLast
      · exact .inl (ih (List.mem_append_left _ hTaken))
      · cases mail with
        | poll =>
            exact .inl (ih (List.mem_append_right _ hLast))
        | arrive frame start crcError =>
            simp only [Mailbox.step] at hLast
            split at hLast
            · cases hLast
            · rename_i hWhole
              rw [Option.toList_some, List.mem_singleton]
                at hLast
              subst hLast
              have hIntact : crcError = false := by
                cases crcError <;> simp_all
              subst hIntact
              exact .inr List.mem_cons_self
        | overwrite packet =>
            simp only [Mailbox.step, Option.mem_toList,
              Option.map_eq_some_iff] at hLast
            rcases hLast with ⟨before, hBefore, rfl⟩
            have hWaiting : before ∈ letters mails :=
              List.mem_append_right _
                (Option.mem_toList.mpr hBefore)
            have hArrived :
                Mail.arrive before.frame before.start
                  false ∈ mails := ih hWaiting
            exact .inl hArrived

/- What is written over a letter has been written. -/
theorem overwrite_of_letter
    {letter : Letter}
    {packet : StructMessage}
    (hLetter : letter ∈ letters mails)
    (hOver : letter.packet? = some packet) :
    Mail.overwrite packet ∈ mails := by
  induction mails using List.reverseRecOn
      generalizing letter with
  | nil => simp [letters, mailbox] at hLetter
  | append_singleton mails mail ih =>
      rw [List.mem_append]
      rw [letters_concat, List.mem_append] at hLetter
      rcases hLetter with hTaken | hLast
      · exact .inl (ih (List.mem_append_left _ hTaken) hOver)
      · cases mail with
        | poll =>
            exact
              .inl (ih (List.mem_append_right _ hLast) hOver)
        | arrive frame start crcError =>
            simp only [Mailbox.step] at hLast
            split at hLast
            · cases hLast
            · rw [Option.toList_some, List.mem_singleton]
                at hLast
              subst hLast
              cases hOver
        | overwrite written =>
            simp only [Mailbox.step, Option.mem_toList,
              Option.map_eq_some_iff] at hLast
            rcases hLast with ⟨before, -, rfl⟩
            rw [Option.some.injEq] at hOver
            subst hOver
            exact .inr List.mem_cons_self

end Master

end LoRaTelemetry
