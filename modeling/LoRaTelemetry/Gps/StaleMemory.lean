import LoRaTelemetry.Gps.Scanner

/-
  The constructor leaves most of `term` as it finds it, and a
  `$` leaves all of it. No call on the location depends on
  the bytes left over: the handler reads a term up to its
  zero, and of a checksum the two digits, over which the name
  of a known sentence has been written.

  Main declarations:
    * `Gps.AgreeBelow`
    * `Gps.Parsing.Alike`
    * `Gps.Parsing.Alike.step`
    * `Gps.traceFrom_alike`
    * `Gps.begin_alike`
-/

------------------------------------------------------------
-- Agreement of Terms
------------------------------------------------------------

namespace LoRaTelemetry

namespace Gps

/- Two memories with the same bytes below a mark. -/
def AgreeBelow
    (mark : Nat)
    (left right : Vector Byte 15) : Prop :=
  ∀ index < mark, left[index]? = right[index]?

/- The same byte written to both, at the mark or below. -/
theorem AgreeBelow.setIfInBounds
    {mark : Nat}
    {left right : Vector Byte 15}
    (hAgree : AgreeBelow mark left right)
    {offset : Nat}
    (hOffset : offset ≤ mark)
    (c : Byte) :
    AgreeBelow (max mark (offset + 1))
      (left.setIfInBounds offset c)
      (right.setIfInBounds offset c) := by
  intro index hIndex
  rw [Vector.getElem?_setIfInBounds,
    Vector.getElem?_setIfInBounds]
  split
  · rfl
  · exact hAgree index (by omega)

theorem AgreeBelow.getElem
    {mark : Nat}
    {left right : Vector Byte 15}
    (hAgree : AgreeBelow mark left right)
    (index : Nat)
    (hMark : index < mark)
    (hIndex : index < 15) :
    left[index] = right[index] := by
  have hByte := hAgree index hMark
  rw [Vector.getElem?_eq_getElem hIndex,
    Vector.getElem?_eq_getElem hIndex] at hByte
  exact Option.some.inj hByte

/- The same string, when it ends below the mark. -/
theorem AgreeBelow.cString
    {mark stop : Nat}
    {left right : Vector Byte 15}
    (hAgree : AgreeBelow mark left right)
    (hMark : stop < mark)
    (hStop : left[stop]? = some 0) :
    cString left.toList = cString right.toList := by
  have hOther : right[stop]? = some 0 := by
    rw [← hAgree stop hMark, hStop]
  rw [← Vector.getElem?_toList] at hStop hOther
  rw [cString_eq_take hStop, cString_eq_take hOther]
  congr 1
  apply List.ext_getElem?
  intro index
  rw [List.getElem?_take, List.getElem?_take,
    Vector.getElem?_toList, Vector.getElem?_toList]
  split
  · exact hAgree index (by omega)
  · rfl

------------------------------------------------------------
-- What the Handler Reads
------------------------------------------------------------

/-
  The same readings of the term: its text, its first byte,
  and in a known sentence the checksum that it spells.
-/
structure SameReadings
    (parsing : Parsing)
    (term : Vector Byte 15) : Prop where
  text : parsing.text = { parsing with term }.text
  first : parsing.first = { parsing with term }.first
  checksum :
    parsing.curSentenceType ≠ .OTHER →
      parsing.checksum = { parsing with term }.checksum

theorem handled_of_sameReadings
    {parsing : Parsing}
    {term : Vector Byte 15}
    (hSame : SameReadings parsing term) :
    { parsing with term }.handled =
      { parsing.handled with term } := by
  unfold Parsing.handled
  simp only [← hSame.text, ← hSame.first]
  split
  · rfl
  · split
    · rfl
    · split
      · have hLabel :
            { parsing with term }.label? =
              parsing.label? := by
          rfl
        rw [hLabel]
        cases parsing.label? with
        | none => rfl
        | some label => cases label <;> rfl
      · rfl

theorem handlerCall?_of_sameReadings
    {parsing : Parsing}
    {term : Vector Byte 15}
    (hSame : SameReadings parsing term) :
    { parsing with term }.handlerCall? =
      parsing.handlerCall? := by
  unfold Parsing.handlerCall? Parsing.assignCall?
  simp only [← hSame.text, ← hSame.first]
  split
  · by_cases hKnown : parsing.curSentenceType ≠ .OTHER
    · rw [hSame.checksum hKnown]
    · simp [hKnown]
  · split
    · rfl
    · split
      · rfl
      · rfl

/- A sentence is known by a name of five characters. -/
theorem length_of_sentenceType
    {text : List Byte}
    (hKnown : sentenceType text ≠ .OTHER) :
    text.length = 5 := by
  unfold sentenceType at hKnown
  split at hKnown
  · rename_i hName
    rcases hName with rfl | rfl <;> rfl
  · split at hKnown
    · rename_i hName
      rcases hName with rfl | rfl <;> rfl
    · exact absurd rfl hKnown

/- Only the name of a sentence changes its type. -/
theorem handled_curSentenceType
    (parsing : Parsing) :
    parsing.handled.curSentenceType =
        parsing.curSentenceType ∨
      parsing.handled.curSentenceType =
        sentenceType parsing.text := by
  unfold Parsing.handled
  split
  · exact Or.inl rfl
  · split
    · exact Or.inr rfl
    · split
      · apply Or.inl
        cases parsing.label? with
        | none => rfl
        | some label => cases label <;> rfl
      · exact Or.inl rfl

theorem handled_term
    (parsing : Parsing) :
    parsing.handled.term = parsing.term := by
  unfold Parsing.handled
  split
  · rfl
  · split
    · rfl
    · split
      · cases parsing.label? with
        | none => rfl
        | some label => cases label <;> rfl
      · rfl

------------------------------------------------------------
-- Alike Parsers
------------------------------------------------------------

/-
  Two parsers that differ in old bytes of `term` only. Those
  below a mark agree: the term being read, and in a known
  sentence at least two.
-/
structure Parsing.Alike (left right : Parsing) : Prop where
  same : right = { left with term := right.term }
  agree :
    ∃ mark,
      AgreeBelow mark left.term right.term ∧
        left.curTermOffset ≤ mark ∧
        (left.curSentenceType ≠ .OTHER → 2 ≤ mark)

namespace Parsing

theorem alike_of_term
    {parsing : Parsing}
    {term : Vector Byte 15}
    {mark : Nat}
    (hAgree : AgreeBelow mark parsing.term term)
    (hOffset : parsing.curTermOffset ≤ mark)
    (hKnown :
      parsing.curSentenceType ≠ .OTHER → 2 ≤ mark) :
    Alike parsing { parsing with term } := by
  exact ⟨rfl, mark, hAgree, hOffset, hKnown⟩

/- Sentences begin alike, whatever has been read before. -/
theorem begin_alike
    (left right : Parsing) :
    Alike left.begin right.begin := by
  refine ⟨rfl, 0, ?_, ?_, ?_⟩
  · intro index hIndex
    omega
  · exact le_rfl
  · intro hKnown
    exact absurd rfl hKnown

/- New parsers are alike, and like one behind a `$`. -/
theorem begin_alike_construct
    (parsing : Parsing)
    (memory : TinyGPSPlus) :
    Alike parsing.begin
      (TinyGPSPlus.construct memory).parsing := by
  exact
    begin_alike parsing
      (TinyGPSPlus.construct memory).parsing

theorem construct_alike
    (left right : TinyGPSPlus) :
    Alike (TinyGPSPlus.construct left).parsing
      (TinyGPSPlus.construct right).parsing := by
  exact
    begin_alike (TinyGPSPlus.construct left).parsing
      (TinyGPSPlus.construct right).parsing

theorem ordinary_alike
    {left right : Parsing}
    (c : Byte)
    (hAlike : Alike left right) :
    Alike (left.ordinary c) (right.ordinary c) := by
  rcases hAlike with
    ⟨hSame, mark, hAgree, hOffset, hKnown⟩
  rw [hSame]
  unfold ordinary
  simp only
  split
  · exact
      alike_of_term (hAgree.setIfInBounds hOffset c)
        (by simp)
        (fun hType => (hKnown hType).trans (le_max_left _ _))
  · exact alike_of_term hAgree hOffset hKnown

/- The handler finds the same, once the term is closed. -/
theorem Alike.sameReadings
    {left right : Parsing}
    {mark : Nat}
    (c : Byte)
    (hAgree : AgreeBelow mark left.term right.term)
    (hOffset : left.curTermOffset ≤ mark)
    (hKnown : left.curSentenceType ≠ .OTHER → 2 ≤ mark)
    (hRoom : left.curTermOffset < 15) :
    SameReadings (left.closed c)
      (right.term.setIfInBounds left.curTermOffset 0) := by
  have hClosed := hAgree.setIfInBounds hOffset 0
  constructor
  · exact
      hClosed.cString (by omega)
        (Vector.getElem?_setIfInBounds_self_of_lt hRoom)
  · exact hClosed.getElem 0 (by omega) (by omega)
  · intro hType
    have hMark := hKnown hType
    have hFirst :=
      hClosed.getElem 0 (by omega) (by omega)
    have hSecond :=
      hClosed.getElem 1 (by omega) (by omega)
    unfold checksum first closed
    simp only
    rw [hFirst, hSecond]

/- A new name is shorter than the term that was closed. -/
theorem two_le_of_handled
    {parsing : Parsing}
    {mark : Nat}
    (c : Byte)
    (hKnown :
      parsing.curSentenceType ≠ .OTHER → 2 ≤ mark)
    (hRoom : parsing.curTermOffset < 15)
    (hType :
      (parsing.closed c).handled.curSentenceType ≠
        .OTHER) :
    2 ≤ max mark (parsing.curTermOffset + 1) := by
  rcases handled_curSentenceType (parsing.closed c) with
    hOld | hNew
  · rw [hOld] at hType
    exact (hKnown hType).trans (le_max_left _ _)
  · rw [hNew] at hType
    have hLength := length_of_sentenceType hType
    have hStop :
        (parsing.closed c).term.toList[
            parsing.curTermOffset]? = some 0 := by
      rw [Vector.getElem?_toList]
      exact Vector.getElem?_setIfInBounds_self_of_lt hRoom
    rw [text, cString_eq_take hStop] at hLength
    have hShort :=
      length_cString_le
        ((parsing.closed c).term.toList.take
          parsing.curTermOffset)
    rw [hLength, List.length_take] at hShort
    omega

theorem terminated_alike
    {left right : Parsing}
    (c : Byte)
    (hAlike : Alike left right) :
    Alike (left.terminated c) (right.terminated c) := by
  rcases hAlike with
    ⟨hSame, mark, hAgree, hOffset, hKnown⟩
  unfold terminated
  by_cases hRoom : left.curTermOffset < 15
  · have hReadings :=
      Alike.sameReadings c hAgree hOffset hKnown hRoom
    have hHandled := handled_of_sameReadings hReadings
    have hClosed :
        right.closed c =
          { left.closed c with
            term :=
              right.term.setIfInBounds
                left.curTermOffset 0 } := by
      rw [hSame]
      rfl
    have hRoomRight : right.curTermOffset < 15 := by
      rw [hSame]
      exact hRoom
    simp only [if_pos hRoom, if_pos hRoomRight]
    rw [hClosed, hHandled]
    refine ⟨rfl, max mark (left.curTermOffset + 1), ?_, ?_,
      ?_⟩
    · rw [handled_term]
      exact hAgree.setIfInBounds hOffset 0
    · exact Nat.zero_le _
    · exact two_le_of_handled c hKnown hRoom
  · have hRoomRight : ¬ right.curTermOffset < 15 := by
      rw [hSame]
      exact hRoom
    simp only [if_neg hRoom, if_neg hRoomRight]
    rw [hSame]
    refine ⟨rfl, max mark (left.curTermOffset + 1), ?_, ?_,
      ?_⟩
    · exact hAgree.setIfInBounds hOffset 0
    · exact Nat.zero_le _
    · intro hType
      exact (hKnown hType).trans (le_max_left _ _)

/- Alike parsers read every byte alike. -/
theorem Alike.step
    {left right : Parsing}
    (c : Byte)
    (hAlike : Alike left right) :
    Alike (left.step c) (right.step c) := by
  unfold Parsing.step
  split
  · exact terminated_alike c hAlike
  · split
    · exact begin_alike left right
    · exact ordinary_alike c hAlike

theorem Alike.call?
    {left right : Parsing}
    (c : Byte)
    (hAlike : Alike left right) :
    left.call? c = right.call? c := by
  rcases hAlike with
    ⟨hSame, mark, hAgree, hOffset, hKnown⟩
  by_cases hRoom : left.curTermOffset < 15
  · have hReadings :=
      Alike.sameReadings c hAgree hOffset hKnown hRoom
    have hHandler := handlerCall?_of_sameReadings hReadings
    rw [hSame]
    unfold Parsing.call?
    rw [← hHandler]
    rfl
  · rw [hSame]
    unfold Parsing.call?
    simp [hRoom]

end Parsing

/- Alike parsers make the same calls. -/
theorem traceFrom_alike
    {left right : Parsing}
    (hAlike : Parsing.Alike left right)
    (bytes : List Byte) :
    scanner.traceFrom left bytes =
      scanner.traceFrom right bytes := by
  have hBoth :=
    scanner.traceFrom_congr
      (fun _ _ c hBefore => hBefore.step c)
      (fun _ _ c hBefore =>
        congrArg Option.toList (hBefore.call? c))
      hAlike bytes
  exact hBoth.2

end Gps

end LoRaTelemetry
