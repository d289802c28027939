import Mathlib.Data.Int.CardIntervalMod
import Mathlib.Data.List.Nodup

/-
  Round-robin turns over a table: turn after turn takes the
  entry at the number of the turn modulo the length.

  Main declarations:
    * `Rotation.turn`
    * `Rotation.turns`
    * `Rotation.getElem?_turns`
    * `Rotation.count_turns_le`
-/

------------------------------------------------------------
-- Turns
------------------------------------------------------------

namespace Rotation

variable {α : Type}
variable (table : List α)

/- The entry that has the turn with a given number. -/
def turn (index : Nat) : Option α :=
  table[index % table.length]?

/- The entries of the first turns. -/
def turns (count : Nat) : List α :=
  (List.range count).filterMap (turn table)

@[simp] theorem turns_zero :
    turns table 0 = [] := by
  rfl

theorem turns_succ
    (count : Nat) :
    turns table (count + 1) =
      turns table count ++ (turn table count).toList := by
  rw [turns, List.range_succ, List.filterMap_append]
  cases hTurn : turn table count <;> simp [turns, hTurn]

variable {table}

/- Some entry has each turn. -/
theorem exists_turn
    (hNonempty : table ≠ [])
    (index : Nat) :
    ∃ entry, turn table index = some entry := by
  have hInside : index % table.length < table.length :=
    Nat.mod_lt _ (List.length_pos_iff.mpr hNonempty)
  exact ⟨_, List.getElem?_eq_getElem hInside⟩

theorem length_turns
    (hNonempty : table ≠ [])
    (count : Nat) :
    (turns table count).length = count := by
  induction count with
  | zero => rfl
  | succ count ih =>
      rcases exists_turn hNonempty count with
        ⟨entry, hTurn⟩
      rw [turns_succ, hTurn]
      simp [ih]

theorem getElem?_turns
    (hNonempty : table ≠ [])
    {index count : Nat}
    (hIndex : index < count) :
    (turns table count)[index]? = turn table index := by
  induction count with
  | zero => omega
  | succ count ih =>
      have hLength := length_turns hNonempty count
      rw [turns_succ]
      by_cases hEarlier : index < count
      · rw [List.getElem?_append_left (by omega),
          ih hEarlier]
      · have hLast : index = count := by omega
        subst hLast
        rcases exists_turn hNonempty index with
          ⟨entry, hTurn⟩
        rw [List.getElem?_append_right (by omega), hTurn,
          hLength]
        simp

------------------------------------------------------------
-- Fairness
------------------------------------------------------------

variable [DecidableEq α]

/- An entry has the turns congruent to its position. -/
theorem count_turns
    (hDistinct : table.Nodup)
    {position : Nat}
    {entry : α}
    (hEntry : table[position]? = some entry)
    (count : Nat) :
    (turns table count).count entry =
      Nat.count (· ≡ position [MOD table.length]) count := by
  rcases List.getElem?_eq_some_iff.mp hEntry with
    ⟨hInside, _⟩
  have hNonempty : table ≠ [] :=
    List.ne_nil_of_length_pos (by omega)
  induction count with
  | zero => simp
  | succ count ih =>
      rcases exists_turn hNonempty count with
        ⟨other, hTurn⟩
      have hHere : count % table.length < table.length :=
        Nat.mod_lt _ (by omega)
      have hSame :
          other = entry ↔
            count ≡ position [MOD table.length] := by
        rw [Nat.ModEq, Nat.mod_eq_of_lt hInside,
          ← List.getElem?_inj hHere hDistinct, hEntry]
        rw [turn] at hTurn
        rw [hTurn]
        exact Option.some_inj.symm
      rw [turns_succ, Nat.count_succ, List.count_append, ih,
        hTurn, Option.toList_some, List.count_singleton]
      simp only [beq_iff_eq, hSame]

/- No entry is ever two turns behind another. -/
theorem count_turns_le
    (hDistinct : table.Nodup)
    {entry other : α}
    (hEntry : entry ∈ table)
    (hOther : other ∈ table)
    (count : Nat) :
    (turns table count).count entry ≤
      (turns table count).count other + 1 := by
  rcases List.mem_iff_getElem?.mp hEntry with
    ⟨position, hPosition⟩
  rcases List.mem_iff_getElem?.mp hOther with
    ⟨place, hPlace⟩
  have hPositive : 0 < table.length :=
    List.length_pos_of_mem hEntry
  rw [count_turns hDistinct hPosition,
    count_turns hDistinct hPlace,
    Nat.count_modEq_card _ hPositive,
    Nat.count_modEq_card _ hPositive]
  split <;> split <;> omega

end Rotation
