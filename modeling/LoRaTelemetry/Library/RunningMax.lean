import Mathlib.Order.Lattice
import Mathlib.Order.MinMax
import Mathlib.Data.List.Basic

/-
  Running maxima and strict left-to-right maxima of a list
  of items with keys in a linear order.

  Main declarations:
    * `RunningMax.highest`
    * `RunningMax.IsStrictMaximum`
    * `RunningMax.strictMaxima`
    * `RunningMax.isStrictMaximum_iff`
-/

------------------------------------------------------------
-- Highest Key
------------------------------------------------------------

namespace RunningMax

variable {Key Item : Type} [LinearOrder Key]
variable (key : Item → Key) (base : Key)

/- The highest key among the items, and the base. -/
def highest (items : List Item) : Key :=
  items.foldl (fun top item => max top (key item)) base

@[simp] theorem highest_nil :
    highest key base [] = base := by
  rfl

@[simp] theorem highest_concat
    (items : List Item)
    (item : Item) :
    highest key base (items ++ [item]) =
      max (highest key base items) (key item) := by
  simp [highest, List.foldl_append]

theorem highest_lt_iff
    (items : List Item)
    (bound : Key) :
    highest key base items < bound ↔
      base < bound ∧ ∀ item ∈ items, key item < bound := by
  unfold highest
  induction items generalizing base with
  | nil => simp
  | cons item items ih =>
      rw [List.foldl_cons, ih]
      simp only [max_lt_iff, List.mem_cons,
        forall_eq_or_imp]
      exact and_assoc

------------------------------------------------------------
-- Strict Left-to-Right Maxima
------------------------------------------------------------

/- The key exceeds the base and every earlier key. -/
def IsStrictMaximum
    (before : List Item)
    (item : Item) : Prop :=
  base < key item ∧
    ∀ earlier ∈ before, key earlier < key item

instance
    (before : List Item)
    (item : Item) :
    Decidable (IsStrictMaximum key base before item) := by
  unfold IsStrictMaximum
  infer_instance

/- It is enough to remember the highest key so far. -/
theorem isStrictMaximum_iff
    (before : List Item)
    (item : Item) :
    IsStrictMaximum key base before item ↔
      highest key base before < key item := by
  exact (highest_lt_iff key base before (key item)).symm

/- The strict maxima of a list read after a prefix. -/
def strictMaximaAfter :
    List Item → List Item → List Item
| _, [] => []
| before, item :: items =>
    (if IsStrictMaximum key base before item then
      [item]
    else
      []) ++
      strictMaximaAfter (before ++ [item]) items

/- The items whose key exceeds the base and all before. -/
def strictMaxima (items : List Item) : List Item :=
  strictMaximaAfter key base [] items

theorem strictMaximaAfter_append
    (before first second : List Item) :
    strictMaximaAfter key base before (first ++ second) =
      strictMaximaAfter key base before first ++
        strictMaximaAfter key base (before ++ first)
          second := by
  induction first generalizing before with
  | nil => simp [strictMaximaAfter]
  | cons item first ih =>
      simp [strictMaximaAfter, ih]

theorem strictMaxima_concat
    (items : List Item)
    (item : Item) :
    strictMaxima key base (items ++ [item]) =
      strictMaxima key base items ++
        if IsStrictMaximum key base items item then
          [item]
        else
          [] := by
  rw [strictMaxima, strictMaximaAfter_append]
  simp [strictMaximaAfter, strictMaxima]

end RunningMax
