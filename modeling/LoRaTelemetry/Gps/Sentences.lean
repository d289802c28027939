import LoRaTelemetry.Gps.Terms

/-
  The parser as the receiver of whole sentences: byte by byte
  it does what the receiver does sentence by sentence, from
  whatever state.

  Main declarations:
    * `Gps.Inside.comma`
    * `Gps.Inside.star`
    * `Gps.Summing.ended`
    * `Gps.announcer_spells`
    * `Gps.log_refines`
-/

------------------------------------------------------------
-- Commas and Stars
------------------------------------------------------------

namespace LoRaTelemetry

namespace Gps

open Parity

variable {start : Receiver}
variable {fields : List (List Byte)}
variable {field : List Byte}
variable {gps : TinyGPSPlus}
variable {c : Byte}

/- Each field but the last is followed by a comma. -/
theorem intercalate_concat
    (separator : List Byte)
    (fields : List (List Byte))
    (field : List Byte) :
    List.intercalate separator (fields ++ [field]) =
      fields.flatMap (fun field => field ++ separator) ++
        field := by
  induction fields with
  | nil => simp [List.intercalate]
  | cons first fields ih =>
      rw [List.cons_append,
        List.intercalate_cons_of_ne_nil (by simp), ih,
        List.flatMap_cons]
      simp only [List.append_assoc]

theorem Inside.comma
    (hInside : Inside start fields field gps)
    (hShort : fields.length ≤ 32) :
    Inside start (fields ++ [field]) []
      (encode gps (ascii ',')).2 := by
  rcases hInside.closed hShort (c := ascii ',') (by decide)
    with
    ⟨-, hView, hType, hNumber, hParity, hOffset, hSummed⟩
  refine
    ⟨hView, hType, hNumber, ?_, .nil hOffset, hSummed⟩
  rw [hParity, List.flatMap_append, List.append_nil,
    List.flatMap_singleton, ← List.append_assoc,
    xorSum_concat, ← hInside.parity]
  rfl

theorem Inside.star
    (hInside : Inside start fields field gps)
    (hShort : fields.length ≤ 32) :
    Summing start (fields ++ [field]) []
      (encode gps (ascii '*')).2 := by
  rcases hInside.closed hShort (c := ascii '*') (by decide)
    with
    ⟨-, hView, hType, hNumber, hParity, hOffset, hSummed⟩
  refine
    ⟨hView, hType, hNumber, ?_, .nil hOffset, hSummed⟩
  rw [hParity, intercalate_concat, ← hInside.parity]
  rfl

------------------------------------------------------------
-- The End of a Sentence
------------------------------------------------------------

theorem commitSentence_view
    (gps : TinyGPSPlus) :
    (commitSentence gps).view =
      { gps.view with
        readout :=
          gps.readout.publish gps.draft
            gps.parsing.curSentenceType } := by
  unfold commitSentence Readout.publish
  cases gps.parsing.curSentenceType with
  | GPRMC =>
      cases hFix : gps.parsing.sentenceHasFix <;>
        simp [hFix, TinyGPSPlus.view, TinyGPSPlus.draft,
          TinyGPSPlus.readout, TinyGPSLocation.shown,
          Member.shown, Member.commit,
          TinyGPSLocation.commit, Shown.fresh]
  | GPGGA =>
      cases hFix : gps.parsing.sentenceHasFix <;>
        simp [hFix, TinyGPSPlus.view, TinyGPSPlus.draft,
          TinyGPSPlus.readout, TinyGPSLocation.shown,
          Member.shown, Member.commit,
          TinyGPSLocation.commit, Shown.fresh]
  | OTHER => rfl

/- The digits as they stand in the term. -/
theorem Parsing.Holds.checksum
    {parsing : Parsing}
    {high low : Byte}
    (hHolds : parsing.Holds [high, low])
    (c : Byte) :
    (parsing.closed c).checksum =
      BitVec.ofInt 8 (16 * fromHex high + fromHex low) := by
  have hOffset : parsing.curTermOffset = 2 :=
    hHolds.offset
  have hKept := hHolds.kept
  rw [hOffset] at hKept
  have hByte :
      ∀ index < 2,
        parsing.term.toList[index]? = [high, low][index]? := by
    intro index hIndex
    rw [← List.getElem?_take_of_lt hIndex, hKept]
    rfl
  have hHigh := hByte 0 (by omega)
  have hLow := hByte 1 (by omega)
  simp at hHigh hLow
  simp [Parsing.checksum, Parsing.first, Parsing.closed,
    hOffset, hHigh, hLow]

/- The receiver once the checksum has been compared. -/
def Receiver.judged
    (state : Receiver)
    (fields : List (List Byte))
    (right : Bool) : Receiver :=
  if right then
    state.accept (typeOf fields)
  else
    state.reject

/- The handler at the end of a checksum. -/
theorem endOfTermHandler_summed
    (gps : TinyGPSPlus)
    (hSummed : gps.parsing.isChecksumTerm = true) :
    let right : Bool :=
      gps.parsing.checksum = gps.parsing.parity
    let handled := endOfTermHandler gps
    handled.1 = right ∧
      handled.2.parsing = gps.parsing ∧
      handled.2.view =
        if right then
          gps.view.accept gps.parsing.curSentenceType
        else
          gps.view.reject := by
  intro right handled
  by_cases hRight : gps.parsing.checksum = gps.parsing.parity
  · simp only [right, handled, endOfTermHandler, hSummed,
      if_true, hRight, decide_true]
    exact
      ⟨trivial, commitSentence_parsing _,
        commitSentence_view _⟩
  · simp only [right, handled, endOfTermHandler, hSummed,
      if_true, hRight, if_false, decide_false,
      Bool.false_eq_true]
    exact ⟨trivial, trivial, rfl⟩

/- A terminator compares the checksum. -/
theorem Summing.ended
    {high low : Byte}
    (hSumming : Summing start fields [high, low] gps)
    (hEnd : isTerminator c)
    (hComma : c ≠ ascii ',') :
    let right : Bool :=
      BitVec.ofInt 8 (16 * fromHex high + fromHex low) =
        xorSum (List.intercalate [ascii ','] fields)
    (encode gps c).1 = right ∧
      (encode gps c).2.view =
        (start.noted fields).judged fields right ∧
      (encode gps c).2.parsing.curTermNumber =
        BitVec.ofNat 8 (fields.length + 1) ∧
      (encode gps c).2.parsing.curTermOffset = 0 ∧
      (encode gps c).2.parsing.isChecksumTerm =
        decide (c = ascii '*') := by
  intro right
  have hRoom : gps.parsing.curTermOffset < 15 := by
    have hOffset := hSumming.holds.offset
    simp at hOffset
    omega
  rw [encode_terminator gps hEnd hRoom]
  let closed : TinyGPSPlus :=
    { gps with
      encodedCharCount := gps.encodedCharCount + 1
      parsing := gps.parsing.closed c }
  have hView : closed.view = start.noted fields :=
    hSumming.view
  have hParity :
      closed.parsing.parity =
        xorSum (List.intercalate [ascii ','] fields) := by
    rw [← hSumming.parity]
    exact if_neg hComma
  have hType :
      closed.parsing.curSentenceType = typeOf fields :=
    hSumming.sentenceType
  have hChecksum :
      closed.parsing.checksum =
        BitVec.ofInt 8
          (16 * fromHex high + fromHex low) :=
    hSumming.holds.checksum c
  have hHandler :=
    endOfTermHandler_summed closed hSumming.summed
  rw [hParity, hType, hChecksum, hView] at hHandler
  rcases hHandler with ⟨hVerdict, hParsing, hJudged⟩
  refine ⟨hVerdict, hJudged, ?_, rfl, rfl⟩
  have hNumber :
      closed.parsing.curTermNumber + 1 =
        BitVec.ofNat 8 (fields.length + 1) := by
    rw [BitVec.ofNat_add]
    exact congrArg (fun number => number + 1) hSumming.number
  rw [← hNumber, ← hParsing]
  rfl

/- A line feed after it is the end of an empty term. -/
theorem encode_emptyTerm
    (hOffset : gps.parsing.curTermOffset = 0)
    (hUnsummed : gps.parsing.isChecksumTerm = false)
    (hNumber : gps.parsing.curTermNumber ≠ 0)
    (hEnd : isTerminator c) :
    (encode gps c).1 = false ∧
      (encode gps c).2.view = gps.view := by
  rw [encode_terminator gps hEnd (by omega)]
  let closed : TinyGPSPlus :=
    { gps with
      encodedCharCount := gps.encodedCharCount + 1
      parsing := gps.parsing.closed c }
  have hFirst : closed.parsing.first = 0 := by
    simp [closed, Parsing.first, Parsing.closed, hOffset]
  have hClosed : closed.parsing.isChecksumTerm = false :=
    hUnsummed
  have hPlace : closed.parsing.curTermNumber ≠ 0 :=
    hNumber
  have hHandler :
      endOfTermHandler closed = (false, closed) := by
    unfold endOfTermHandler
    rw [if_neg (by simp [hClosed]), if_neg hPlace,
      if_neg (by simp [hFirst])]
  have hFields :
      (endOfTermHandler closed).1 = false ∧
        ((endOfTermHandler closed).2.next c).view =
          gps.view := by
    rw [hHandler]
    exact ⟨rfl, rfl⟩
  exact hFields

------------------------------------------------------------
-- Runs of Bytes
------------------------------------------------------------

theorem announcer_quiet
    (hVerdict : (encode gps c).1 = false) :
    announcer.emit gps c = [] := by
  simp only [announcer, hVerdict, Bool.false_eq_true,
    if_false]

/- Ordinary bytes within a field. -/
theorem Inside.run
    (hInside : Inside start fields field gps)
    (bytes : List Byte)
    (hOrdinary : ∀ c ∈ bytes, Ordinary c) :
    Inside start fields (field ++ bytes)
        (announcer.runFrom gps bytes) ∧
      announcer.traceFrom gps bytes = [] := by
  induction bytes generalizing field gps with
  | nil =>
      rw [List.append_nil]
      exact ⟨hInside, rfl⟩
  | cons c bytes ih =>
      have hFirst : Ordinary c :=
        hOrdinary c List.mem_cons_self
      rcases ih (hInside.ordinary hFirst) (fun c hByte =>
          hOrdinary c (List.mem_cons_of_mem _ hByte)) with
        ⟨hRun, hTrace⟩
      constructor
      · rw [List.append_assoc, List.singleton_append] at hRun
        exact hRun
      · rw [Machine.traceFrom,
          announcer_quiet (by
            rw [encode_ordinary gps hFirst])]
        exact hTrace

/- Ordinary bytes within the checksum. -/
theorem Summing.run
    {digits : List Byte}
    (hSumming : Summing start fields digits gps)
    (bytes : List Byte)
    (hOrdinary : ∀ c ∈ bytes, Ordinary c) :
    Summing start fields (digits ++ bytes)
        (announcer.runFrom gps bytes) ∧
      announcer.traceFrom gps bytes = [] := by
  induction bytes generalizing digits gps with
  | nil =>
      rw [List.append_nil]
      exact ⟨hSumming, rfl⟩
  | cons c bytes ih =>
      have hFirst : Ordinary c :=
        hOrdinary c List.mem_cons_self
      rcases ih (hSumming.ordinary hFirst) (fun c hByte =>
          hOrdinary c (List.mem_cons_of_mem _ hByte)) with
        ⟨hRun, hTrace⟩
      constructor
      · rw [List.append_assoc, List.singleton_append] at hRun
        exact hRun
      · rw [Machine.traceFrom,
          announcer_quiet (by
            rw [encode_ordinary gps hFirst])]
        exact hTrace

/- Fields that are each closed by a comma. -/
theorem Inside.runFields
    (hInside : Inside start fields [] gps)
    (more : List (List Byte))
    (hShort : (fields ++ more).length ≤ 33)
    (hOrdinary :
      ∀ field ∈ more, ∀ c ∈ field, Ordinary c) :
    let bytes :=
      more.flatMap (fun field => field ++ [ascii ','])
    Inside start (fields ++ more) []
        (announcer.runFrom gps bytes) ∧
      announcer.traceFrom gps bytes = [] := by
  induction more generalizing fields gps with
  | nil =>
      rw [List.append_nil]
      exact ⟨hInside, rfl⟩
  | cons field more ih =>
      rw [List.length_append, List.length_cons] at hShort
      rcases hInside.run field
          (hOrdinary field List.mem_cons_self) with
        ⟨hField, hFieldQuiet⟩
      rw [List.nil_append] at hField
      have hVerdict :=
        (hField.closed (c := ascii ',') (by omega)
          (by decide)).1
      have hComma := hField.comma (by omega)
      rcases ih hComma (by simp; omega)
          (fun field hMore =>
            hOrdinary field
              (List.mem_cons_of_mem _ hMore)) with
        ⟨hRun, hTrace⟩
      rw [List.append_assoc, List.singleton_append] at hRun
      simp only [List.flatMap_cons, List.append_assoc,
        List.singleton_append, Machine.runFrom_append,
        Machine.traceFrom_append]
      refine ⟨hRun, ?_⟩
      rw [hFieldQuiet, Machine.traceFrom,
        announcer_quiet hVerdict]
      exact hTrace

/- The beginning of a sentence. -/
def opened (gps : TinyGPSPlus) : TinyGPSPlus :=
  (encode gps (ascii '$')).2

theorem runFrom_cons
    (gps : TinyGPSPlus)
    (c : Byte)
    (bytes : List Byte) :
    announcer.runFrom gps (c :: bytes) =
      announcer.runFrom (encode gps c).2 bytes := by
  rfl

theorem runFrom_dollar
    (gps : TinyGPSPlus)
    (bytes : List Byte) :
    announcer.runFrom gps (ascii '$' :: bytes) =
        announcer.runFrom (opened gps) bytes ∧
      announcer.traceFrom gps (ascii '$' :: bytes) =
        announcer.traceFrom (opened gps) bytes := by
  exact ⟨rfl, rfl⟩

/- A sentence up to the checksum. -/
theorem run_body
    (gps : TinyGPSPlus)
    (sentence : Sentence) :
    let bytes := sentence.body ++ [ascii '*']
    Summing gps.view sentence.fields []
        (announcer.runFrom (opened gps) bytes) ∧
      announcer.traceFrom (opened gps) bytes = [] := by
  rcases List.eq_nil_or_concat sentence.fields with
    hNil | ⟨front, last, hFields⟩
  · exact absurd hNil sentence.named
  · rw [List.concat_eq_append] at hFields
    have hShort := sentence.short
    have hOrdinary := sentence.ordinary
    have hBody :
        sentence.body =
          front.flatMap
              (fun field => field ++ [ascii ',']) ++
            last := by
      rw [Sentence.body, hFields, intercalate_concat]
    rw [hFields, List.length_append] at hShort
    rw [hFields] at hOrdinary
    rw [hBody, hFields]
    rcases (Inside.begin gps).runFields front
        (by simp at hShort ⊢; omega)
        (fun field hFront =>
          hOrdinary field
            (List.mem_append_left _ hFront)) with
      ⟨hFront, hFrontQuiet⟩
    rw [List.nil_append] at hFront
    rcases hFront.run last
        (hOrdinary last (by simp)) with
      ⟨hLast, hLastQuiet⟩
    rw [List.nil_append] at hLast
    have hRoom : front.length ≤ 32 := by
      simp at hShort
      omega
    have hVerdict :=
      (hLast.closed (c := ascii '*') hRoom (by decide)).1
    have hStar := hLast.star hRoom
    simp only [Machine.runFrom_append,
      Machine.traceFrom_append]
    refine ⟨hStar, ?_⟩
    unfold opened
    rw [hFrontQuiet, hLastQuiet, Machine.traceFrom,
      announcer_quiet hVerdict]
    rfl

------------------------------------------------------------
-- The Parser Is the Receiver
------------------------------------------------------------

/- A whole sentence. -/
theorem run_whole
    (gps : TinyGPSPlus)
    (sentence : Sentence) :
    (announcer.runFrom gps sentence.bytes).view =
        gps.view.hear (.whole sentence) ∧
      announcer.traceFrom gps sentence.bytes =
        gps.view.announced (.whole sentence) := by
  rcases run_body gps sentence with ⟨hBody, hBodyQuiet⟩
  rcases hBody.run [sentence.high, sentence.low] (by
      simp [sentence.high_ordinary, sentence.low_ordinary])
    with
    ⟨hDigits, hDigitsQuiet⟩
  rw [List.nil_append] at hDigits
  let summing :=
    announcer.runFrom (opened gps)
      (sentence.body ++ [ascii '*'])
  let digits :=
    announcer.runFrom summing [sentence.high, sentence.low]
  let ended := (encode digits 13).2
  rcases hDigits.ended (c := 13) (by decide) (by decide) with
    ⟨hVerdict, hJudged, hNumber, hOffset, hUnsummed⟩
  have hLater : ended.parsing.curTermNumber ≠ 0 := by
    intro hZero
    have hShort := sentence.short
    have hPlace := congrArg BitVec.toNat hNumber
    rw [hZero, BitVec.toNat_ofNat] at hPlace
    simp at hPlace
    omega
  rcases encode_emptyTerm (c := 10) hOffset hUnsummed hLater
      (by decide) with
    ⟨hFeedVerdict, hFeedView⟩
  have hLine : literal "\x0d\n" = [13, 10] := by
    decide
  have hBytes :
      sentence.bytes =
        ascii '$' ::
          (sentence.body ++ [ascii '*'] ++
            ([sentence.high, sentence.low] ++ [13, 10])) := by
    simp only [Sentence.bytes, hLine, List.cons_append,
      List.append_assoc, List.nil_append]
  have hRun :
      announcer.runFrom gps sentence.bytes =
        (encode ended 10).2 := by
    rw [hBytes, (runFrom_dollar _ _).1,
      Machine.runFrom_append, Machine.runFrom_append,
      runFrom_cons digits, runFrom_cons ended]
    exact List.foldl_nil
  have hLineEnd :
      announcer.traceFrom digits [13, 10] =
        announcer.emit digits 13 := by
    have hFeedQuiet : announcer.emit ended 10 = [] :=
      announcer_quiet hFeedVerdict
    calc announcer.traceFrom digits [13, 10]
      _ = announcer.emit digits 13 ++
            (announcer.emit ended 10 ++ []) := rfl
      _ = announcer.emit digits 13 := by
          rw [hFeedQuiet, List.append_nil, List.append_nil]
  have hTrace :
      announcer.traceFrom gps sentence.bytes =
        announcer.emit digits 13 := by
    rw [hBytes, (runFrom_dollar _ _).2,
      Machine.traceFrom_append, hBodyQuiet, List.nil_append,
      Machine.traceFrom_append, hDigitsQuiet,
      List.nil_append]
    exact hLineEnd
  have hHear :
      gps.view.hear (.whole sentence) =
        (gps.view.noted sentence.fields).judged
          sentence.fields (decide sentence.Right) := by
    simp only [Receiver.hear, Receiver.judged,
      Heard.fields, decide_eq_true_eq]
  constructor
  · rw [hRun, hFeedView, hHear]
    exact hJudged
  · have hRight :
        (encode digits 13).1 = decide sentence.Right :=
      hVerdict
    have hReadout :
        (encode digits 13).2.readout =
          (gps.view.hear (.whole sentence)).readout := by
      rw [hHear]
      exact congrArg Receiver.readout hJudged
    rw [hTrace]
    simp only [announcer, Receiver.announced, hRight,
      hReadout, decide_eq_true_eq]

/- A sentence that breaks off within a field. -/
theorem run_cutInField
    (gps : TinyGPSPlus)
    (sentence : Sentence)
    (closed length : Nat) :
    let bytes :=
      (Heard.cutInField sentence closed length).bytes
    (announcer.runFrom gps bytes).view =
        gps.view.noted (sentence.fields.take closed) ∧
      announcer.traceFrom gps bytes = [] := by
  intro bytes
  have hShort := sentence.short
  rcases (Inside.begin gps).runFields
      (sentence.fields.take closed)
      (by simp only [List.nil_append, List.length_take]; omega)
      (fun field hField =>
        sentence.ordinary field (List.mem_of_mem_take hField))
    with
    ⟨hClosed, hClosedQuiet⟩
  rw [List.nil_append] at hClosed
  let rest :=
    ((sentence.fields.drop closed).headD []).take length
  have hRest : ∀ c ∈ rest, Ordinary c := by
    intro c hByte
    have hField :
        c ∈ (sentence.fields.drop closed).headD [] :=
      List.mem_of_mem_take hByte
    cases hDrop : sentence.fields.drop closed with
    | nil => simp [hDrop] at hField
    | cons field fields =>
        rw [hDrop] at hField
        have hMember : field ∈ sentence.fields :=
          List.mem_of_mem_drop (by rw [hDrop]; simp)
        exact sentence.ordinary field hMember c hField
  rcases hClosed.run rest hRest with ⟨hRun, hQuiet⟩
  have hBytes :
      bytes =
        ascii '$' ::
          ((sentence.fields.take closed).flatMap
              (fun field => field ++ [ascii ',']) ++
            rest) := rfl
  rw [hBytes, (runFrom_dollar _ _).1, (runFrom_dollar _ _).2,
    Machine.runFrom_append, Machine.traceFrom_append]
  unfold opened
  rw [hClosedQuiet, hQuiet]
  exact ⟨hRun.view, rfl⟩

/- A sentence that breaks off within its checksum. -/
theorem run_cutInChecksum
    (gps : TinyGPSPlus)
    (sentence : Sentence)
    (length : Nat) :
    let bytes :=
      (Heard.cutInChecksum sentence length).bytes
    (announcer.runFrom gps bytes).view =
        gps.view.noted sentence.fields ∧
      announcer.traceFrom gps bytes = [] := by
  intro bytes
  rcases run_body gps sentence with ⟨hBody, hBodyQuiet⟩
  let rest := [sentence.high, sentence.low].take length
  have hRest : ∀ c ∈ rest, Ordinary c := by
    intro c hByte
    have hDigit : c ∈ [sentence.high, sentence.low] :=
      List.mem_of_mem_take hByte
    rcases List.mem_pair.mp hDigit with rfl | rfl
    · exact sentence.high_ordinary
    · exact sentence.low_ordinary
  rcases hBody.run rest hRest with ⟨hRun, hQuiet⟩
  have hBytes :
      bytes =
        ascii '$' :: (sentence.body ++ [ascii '*'] ++ rest) := by
    simp only [bytes, Heard.bytes, List.cons_append,
      List.append_assoc, List.nil_append]
    rfl
  rw [hBytes, (runFrom_dollar _ _).1, (runFrom_dollar _ _).2,
    Machine.runFrom_append, Machine.traceFrom_append,
    hBodyQuiet, hQuiet]
  exact ⟨hRun.view, rfl⟩

/- One thing heard, byte by byte. -/
theorem announcer_spells
    (state : Receiver) :
    announcer.Spells (receiver state) Heard.bytes
      (fun gps state => gps.view = state) := by
  constructor
  · rintro gps _ heard rfl
    cases heard with
    | whole sentence => exact (run_whole gps sentence).1
    | cutInField sentence closed length =>
        exact (run_cutInField gps sentence closed length).1
    | cutInChecksum sentence length =>
        exact (run_cutInChecksum gps sentence length).1
  · rintro gps _ heard rfl
    cases heard with
    | whole sentence => exact (run_whole gps sentence).2
    | cutInField sentence closed length =>
        exact (run_cutInField gps sentence closed length).2
    | cutInChecksum sentence length =>
        exact (run_cutInChecksum gps sentence length).2

/-
  Whatever the parser has heard before, and wherever the log
  breaks off: it announces the readouts that the receiver
  does, and ends in its state.
-/
theorem log_refines
    (gps : TinyGPSPlus)
    (log : List Heard) :
    let bytes := log.flatMap Heard.bytes
    (feed gps bytes).view = (receiver gps.view).run log ∧
      announcer.traceFrom gps bytes =
        (receiver gps.view).trace log := by
  exact (announcer_spells gps.view).traceFrom rfl log

end Gps

end LoRaTelemetry
