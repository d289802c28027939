import Mathlib.Data.List.Basic

/-
  Memory images of C structures: members are placed in order
  at the next multiple of their alignment, and the gaps are
  zero bytes.

  Main declarations:
    * `StructLayout.Scalar`
    * `StructLayout.offsets`
    * `StructLayout.write`
    * `StructLayout.read`
    * `StructLayout.read_write_last`
-/

------------------------------------------------------------
-- Placement
------------------------------------------------------------

namespace StructLayout

/- A scalar type: its size and its alignment in bytes. -/
structure Scalar where
  size : Nat
  align : Nat
deriving DecidableEq, Repr

/- Bytes skipped to bring an offset to an alignment. -/
def padTo (align offset : Nat) : Nat :=
  (align - offset % align) % align

/- The offset at which each member starts. -/
def offsets : Nat → List Scalar → List Nat
| _, [] => []
| offset, scalar :: scalars =>
    let start := offset + padTo scalar.align offset
    start :: offsets (start + scalar.size) scalars

/- The offset just after the last member. -/
def finish : Nat → List Scalar → Nat
| offset, [] => offset
| offset, scalar :: scalars =>
    finish
      (offset + padTo scalar.align offset + scalar.size)
      scalars

/- The alignment of the whole structure. -/
def alignOf (scalars : List Scalar) : Nat :=
  scalars.foldr (fun scalar widest =>
    max scalar.align widest) 1

/- The size of the structure, trailing padding included. -/
def sizeOf (scalars : List Scalar) : Nat :=
  finish 0 scalars +
    padTo (alignOf scalars) (finish 0 scalars)

------------------------------------------------------------
-- Images
------------------------------------------------------------

/- A member: its type and its object representation. -/
abbrev Member := Scalar × List (BitVec 8)

/- Every representation has the size of its type. -/
def Sized (members : List Member) : Prop :=
  ∀ member ∈ members, member.2.length = member.1.size

/- The bytes of members placed from an offset on. -/
def write : Nat → List Member → List (BitVec 8)
| _, [] => []
| offset, (scalar, bytes) :: members =>
    List.replicate (padTo scalar.align offset) 0#8 ++
      bytes ++
      write
        (offset + padTo scalar.align offset + scalar.size)
        members

/- The image of a structure with zero padding. -/
def image (members : List Member) : List (BitVec 8) :=
  write 0 members ++
    List.replicate
      (padTo (alignOf (members.map Prod.fst))
        (finish 0 (members.map Prod.fst))) 0#8

/- The representations read back from an image. -/
def read :
    Nat → List Scalar → List (BitVec 8) →
      List (List (BitVec 8))
| _, [], _ => []
| offset, scalar :: scalars, bytes =>
    let pad := padTo scalar.align offset
    (bytes.drop pad).take scalar.size ::
      read (offset + pad + scalar.size) scalars
        (bytes.drop (pad + scalar.size))

------------------------------------------------------------
-- Reading Back What Was Written
------------------------------------------------------------

theorem finish_le
    (offset : Nat)
    (scalars : List Scalar) :
    offset ≤ finish offset scalars := by
  induction scalars generalizing offset with
  | nil => exact Nat.le_refl _
  | cons scalar scalars ih =>
      have hStep :=
        ih (offset + padTo scalar.align offset +
          scalar.size)
      rw [finish]
      omega

theorem length_write
    (offset : Nat)
    (members : List Member)
    (hSized : Sized members) :
    (write offset members).length =
      finish offset (members.map Prod.fst) - offset := by
  induction members generalizing offset with
  | nil => simp [write, finish]
  | cons member members ih =>
      rcases member with ⟨scalar, bytes⟩
      have hHead : bytes.length = scalar.size :=
        hSized (scalar, bytes) (by simp)
      have hTail : Sized members := by
        intro item hItem
        exact hSized item (by simp [hItem])
      have hFinish :=
        finish_le
          (offset + padTo scalar.align offset + scalar.size)
          (members.map Prod.fst)
      simp only [write, finish, List.map_cons,
        List.length_append, List.length_replicate, hHead,
        ih _ hTail]
      omega

@[simp] theorem length_image
    (members : List Member)
    (hSized : Sized members) :
    (image members).length =
      sizeOf (members.map Prod.fst) := by
  simp [image, sizeOf, length_write 0 members hSized]

/-
  Reading a structure whose last member has another type at
  the same place: the common members come back, and the last
  one is what its own size cuts out there.
-/
theorem read_write_last
    (offset : Nat)
    (members : List Member)
    (written reading : Scalar)
    (bytes rest : List (BitVec 8))
    (hSized : Sized members)
    (hPad :
      padTo reading.align
          (finish offset (members.map Prod.fst)) =
        padTo written.align
          (finish offset (members.map Prod.fst))) :
    read offset (members.map Prod.fst ++ [reading])
        (write offset (members ++ [(written, bytes)]) ++
          rest) =
      members.map Prod.snd ++
        [(bytes ++ rest).take reading.size] := by
  induction members generalizing offset with
  | nil =>
      simp only [List.map_nil, finish] at hPad
      simp [read, write, hPad]
  | cons member members ih =>
      rcases member with ⟨scalar, body⟩
      have hHead : body.length = scalar.size :=
        hSized (scalar, body) (by simp)
      have hTail : Sized members := by
        intro item hItem
        exact hSized item (by simp [hItem])
      have hRest :=
        ih (offset + padTo scalar.align offset +
            scalar.size) hTail hPad
      simp only [List.map_cons, List.cons_append, read,
        write, List.append_assoc] at hRest ⊢
      congr 1
      · simp [← hHead]
      · rw [← hRest]
        congr 1
        simp [List.drop_append, ← hHead]

end StructLayout
