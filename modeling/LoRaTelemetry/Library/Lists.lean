import Mathlib.Data.List.Basic
import Mathlib.Data.List.Forall2

/-
  Facts about filtered lists that carry positions from the
  filtered list back to the original one.

  Main declarations:
    * `Lists.filterMap_eq_append_cons_iff`
    * `Lists.prefix_unique_of_countP`
    * `Lists.exists_split_of_countP`
    * `Lists.forall₂_filterMap`
    * `Lists.eq_last_of_pairwise`
-/

------------------------------------------------------------
-- Splitting a Filtered List
------------------------------------------------------------

namespace Lists

variable {α β : Type}

/- An item of the filtered list comes from some place. -/
theorem filterMap_eq_append_cons_iff
    (f : α → Option β)
    (items : List α)
    (before : List β)
    (image : β)
    (after : List β) :
    items.filterMap f = before ++ image :: after ↔
      ∃ first item rest,
        items = first ++ item :: rest ∧
          f item = some image ∧
          first.filterMap f = before ∧
          rest.filterMap f = after := by
  constructor
  · intro hSplit
    rcases List.filterMap_eq_append_iff.mp hSplit with
      ⟨first, tail, rfl, rfl, hTail⟩
    rcases List.filterMap_eq_cons_iff.mp hTail with
      ⟨skipped, item, rest, rfl, hSkipped, hItem, hRest⟩
    refine
      ⟨first ++ skipped, item, rest, by simp, hItem, ?_,
        hRest⟩
    rw [List.filterMap_append,
      List.filterMap_eq_nil_iff.mpr hSkipped,
      List.append_nil]
  · rintro ⟨first, item, rest, rfl, hItem, rfl, rfl⟩
    simp [hItem]

------------------------------------------------------------
-- Counting from the End
------------------------------------------------------------

/-
  In a list split at a counted item, the part before it is
  determined by how many counted items follow.
-/
theorem prefix_unique_of_countP
    {counted : α → Bool}
    {before before' : List α}
    {item item' : α}
    {after after' : List α}
    (hItem : counted item = true)
    (hItem' : counted item' = true)
    (hCount :
      after.countP counted = after'.countP counted)
    (hSplit :
      before ++ item :: after =
        before' ++ item' :: after') :
    before = before' := by
  rcases List.append_eq_append_iff.mp hSplit with
    ⟨middle, hBefore, hAfter⟩ | ⟨middle, hBefore, hAfter⟩
  · cases middle with
    | nil => simp [hBefore]
    | cons first middle =>
        -- then `item'` is counted among what follows `item`
        rw [List.cons_append] at hAfter
        have hTail := (List.cons.inj hAfter).2
        rw [hTail] at hCount
        simp only [List.countP_append, hItem',
          List.countP_cons_of_pos] at hCount
        omega
  · cases middle with
    | nil => simp [hBefore]
    | cons first middle =>
        rw [List.cons_append] at hAfter
        have hTail := (List.cons.inj hAfter).2
        rw [hTail] at hCount
        simp only [List.countP_append, hItem,
          List.countP_cons_of_pos] at hCount
        omega

/- Where more items are counted, there is a next one. -/
theorem exists_split_of_countP
    {counted : α → Bool}
    {items : List α}
    {count : Nat}
    (hMore : count < items.countP counted) :
    ∃ before item after,
      items = before ++ item :: after ∧
        counted item = true ∧
        before.countP counted = count := by
  induction items generalizing count with
  | nil => simp at hMore
  | cons first items ih =>
      rw [List.countP_cons] at hMore
      cases hFirst : counted first with
      | false =>
          rw [hFirst] at hMore
          rcases ih (by simpa using hMore) with
            ⟨before, item, after, rfl, hItem, hCount⟩
          refine ⟨first :: before, item, after, rfl, hItem, ?_⟩
          simp [hFirst, hCount]
      | true =>
          cases count with
          | zero => exact ⟨[], first, items, rfl, hFirst, rfl⟩
          | succ count =>
              rw [hFirst, if_pos rfl] at hMore
              have hRest : count < items.countP counted := by
                omega
              rcases ih hRest with
                ⟨before, item, after, rfl, hItem, hCount⟩
              refine
                ⟨first :: before, item, after, rfl, hItem,
                  ?_⟩
              simp [hFirst, hCount]

------------------------------------------------------------
-- Filtering That Keeps Every Item
------------------------------------------------------------

/- Items that all have an image are paired with these. -/
theorem forall₂_filterMap
    {R : α → β → Prop}
    {f : α → Option β}
    (items : List α)
    (hImage :
      ∀ item ∈ items,
        ∃ image, f item = some image ∧ R item image) :
    List.Forall₂ R items (items.filterMap f) := by
  induction items with
  | nil => exact List.Forall₂.nil
  | cons item items ih =>
      rcases hImage item List.mem_cons_self with
        ⟨image, hItem, hRelated⟩
      rw [List.filterMap_cons_some hItem]
      apply List.Forall₂.cons hRelated
      apply ih
      intro other hOther
      exact hImage other (List.mem_cons_of_mem item hOther)

------------------------------------------------------------
-- The Last Item of a Ranked List
------------------------------------------------------------

/-
  In a list that never falls in rank, and repeats a rank
  only with its item, the last item is the highest.
-/
theorem eq_last_of_pairwise
    {rank : α → Int}
    {items : List α}
    {last item : α}
    (hRanked :
      (items ++ [last]).Pairwise
        (fun first second =>
          rank first < rank second ∨ first = second))
    (hItem : item ∈ items ++ [last])
    (hHighest :
      ∀ other ∈ items ++ [last],
        rank other ≤ rank item) :
    item = last := by
  rw [List.mem_append, List.mem_singleton] at hItem
  rcases hItem with hEarlier | hLast
  · have hBoth :=
      (List.pairwise_append.mp hRanked).2.2 item hEarlier
        last (List.mem_singleton_self last)
    rcases hBoth with hLower | hSame
    · have hUpper :=
        hHighest last (by simp)
      omega
    · exact hSame
  · exact hLast

/- Leaving out some of the values keeps the order. -/
theorem filterMap_sublist
    {items : List α}
    {fewer more : α → Option β}
    (hFewer :
      ∀ item ∈ items,
        fewer item = none ∨ fewer item = more item) :
    (items.filterMap fewer).Sublist
      (items.filterMap more) := by
  induction items with
  | nil => exact List.Sublist.refl _
  | cons item items ih =>
      have hRest :=
        ih fun later hLater =>
          hFewer later (List.mem_cons_of_mem _ hLater)
      rw [List.filterMap_cons, List.filterMap_cons]
      rcases hFewer item List.mem_cons_self with
        hNone | hSame
      · rw [hNone]
        cases more item with
        | none => exact hRest
        | some value => exact hRest.cons value
      · rw [hSame]
        cases more item with
        | none => exact hRest
        | some value => exact hRest.cons_cons value

end Lists
