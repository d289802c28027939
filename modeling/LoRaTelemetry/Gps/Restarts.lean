import LoRaTelemetry.Gps.Commits
import LoRaTelemetry.Gps.StaleMemory

/-
  The slave's `GPS`, which constructs a parser at every call,
  against one parser that is fed the whole stream.

  What a new parser lacks is the sentence that was begun
  before the call and the location that was committed before
  it. It shows the same location when the last fix is read
  in the call from its `$` on.

  Main declarations:
    * `Gps.GPS`
    * `Gps.ChunkIndependent`
    * `Gps.WholeInCall`
    * `Gps.valid_iff`
    * `Gps.chunkIndependent_of_whole`
-/

------------------------------------------------------------
-- Calls of `GPS`
------------------------------------------------------------

namespace LoRaTelemetry

namespace Gps

/-
  `GPS`, on a stack with some memory and with the bytes that
  are available. It prints a valid location.
-/
def GPS
    (memory : TinyGPSPlus)
    (available : List Byte) : TinyGPSPlus :=
  let gps := feed (TinyGPSPlus.construct memory) available
  if gps.location.valid then
    { gps with location := gps.location.read.read }
  else
    gps

structure Call where
  memory : TinyGPSPlus
  available : List Byte

/- The bytes that some calls have read. -/
def received (calls : List Call) : List Byte :=
  calls.flatMap Call.available

/- The same validity and the same coordinates. -/
structure SamePosition
    (left right : TinyGPSLocation) : Prop where
  valid : left.valid = right.valid
  lat : left.rawLatData = right.rawLatData
  lng : left.rawLngData = right.rawLngData

namespace SamePosition

variable {first second third : TinyGPSLocation}

theorem symm
    (hSame : SamePosition first second) :
    SamePosition second first := by
  exact ⟨hSame.valid.symm, hSame.lat.symm, hSame.lng.symm⟩

theorem trans
    (hFirst : SamePosition first second)
    (hSecond : SamePosition second third) :
    SamePosition first third := by
  exact
    ⟨hFirst.valid.trans hSecond.valid,
      hFirst.lat.trans hSecond.lat,
      hFirst.lng.trans hSecond.lng⟩

end SamePosition

/-
  After each call, the object returned shows the location of
  one parser that has been fed all bytes so far.
-/
def ChunkIndependent (calls : List Call) : Prop :=
  ∀ before call after,
    calls = before ++ call :: after →
      SamePosition (GPS call.memory call.available).location
        (feed (TinyGPSPlus.construct {})
          (received before ++ call.available)).location

------------------------------------------------------------
-- Sentences across Calls
------------------------------------------------------------

/- A sentence can begin right after these bytes. -/
def AtStart (history : List Byte) : Prop :=
  history = [] ∨ history.getLast? = some (ascii '$')

instance (history : List Byte) :
    Decidable (AtStart history) := by
  unfold AtStart
  infer_instance

/- The bytes of a chunk that belong to an earlier sentence. -/
def carried (history chunk : List Byte) : List Byte :=
  if AtStart history then
    []
  else
    chunk.takeWhile (fun c => c ≠ ascii '$')

/- The rest of the chunk, from its first sentence on. -/
def own (history chunk : List Byte) : List Byte :=
  if AtStart history then
    chunk
  else
    chunk.dropWhile (fun c => c ≠ ascii '$')

theorem carried_append_own
    (history chunk : List Byte) :
    carried history chunk ++ own history chunk = chunk := by
  unfold carried own
  split
  · rfl
  · exact List.takeWhile_append_dropWhile

/- What is read from a `$` on does not depend on the state. -/
theorem traceFrom_dollar
    (left right : Parsing)
    (rest : List Byte) :
    scanner.traceFrom left (ascii '$' :: rest) =
      scanner.traceFrom right (ascii '$' :: rest) := by
  have hTerminator : isTerminator (ascii '$') = false := by
    decide
  have hStep :
      ∀ parsing,
        scanner.traceFrom parsing (ascii '$' :: rest) =
          scanner.traceFrom parsing.begin rest := by
    intro parsing
    simp [Machine.traceFrom, scanner, Parsing.step,
      Parsing.call?, hTerminator]
  rw [hStep, hStep]
  exact traceFrom_alike (Parsing.begin_alike left right) rest

/- Where a sentence can begin, a parser is like a new one. -/
theorem traceFrom_of_atStart
    {history : List Byte}
    (hStart : AtStart history)
    (bytes : List Byte) :
    scanner.traceFrom (scanner.run history) bytes =
      scanner.trace bytes := by
  rcases hStart with rfl | hDollar
  · rfl
  · rcases List.getLast?_eq_some_iff.mp hDollar with
      ⟨earlier, rfl⟩
    have hBegin :
        scanner.run (earlier ++ [ascii '$']) =
          (scanner.run earlier).begin := by
      rw [Machine.run_concat]
      have hTerminator :
          isTerminator (ascii '$') = false := by
        decide
      simp [scanner, Parsing.step, hTerminator]
    rw [hBegin]
    exact
      traceFrom_alike
        (Parsing.begin_alike_construct _ _) bytes

/- A chunk's own bytes are read alike by every parser. -/
theorem traceFrom_own
    (history chunk : List Byte)
    (parsing : Parsing)
    (hStart :
      AtStart history →
        ∀ bytes,
          scanner.traceFrom parsing bytes =
            scanner.trace bytes) :
    scanner.traceFrom parsing (own history chunk) =
      scanner.trace (own history chunk) := by
  by_cases hHistory : AtStart history
  · exact hStart hHistory _
  · rw [own, if_neg hHistory]
    cases hRest :
        chunk.dropWhile (fun c => c ≠ ascii '$') with
    | nil => rfl
    | cons c rest =>
        have hDollar : c = ascii '$' := by
          have hHead :=
            List.head?_dropWhile_not
              (fun c => c ≠ ascii '$') chunk
          rw [hRest] at hHead
          simpa using hHead
        rw [hDollar]
        exact traceFrom_dollar _ _ rest

/- The calls of the parser that is fed everything. -/
theorem trace_history_append
    (history chunk : List Byte) :
    scanner.trace (history ++ chunk) =
      scanner.trace (history ++ carried history chunk) ++
        scanner.trace (own history chunk) := by
  have hSplit := carried_append_own history chunk
  have hBoth :
      history ++ chunk =
        (history ++ carried history chunk) ++
          own history chunk := by
    rw [List.append_assoc, hSplit]
  rw [hBoth, Machine.trace_append]
  congr 1
  apply traceFrom_own
  intro hStart bytes
  rw [carried, if_pos hStart, List.append_nil]
  exact traceFrom_of_atStart hStart bytes

/- The calls of the parser that starts with the chunk. -/
theorem trace_chunk
    (history chunk : List Byte) :
    scanner.trace chunk =
      scanner.trace (carried history chunk) ++
        scanner.trace (own history chunk) := by
  have hSplit := carried_append_own history chunk
  have hChunk :
      scanner.trace chunk =
        scanner.trace
          (carried history chunk ++
            own history chunk) := by
    rw [hSplit]
  rw [hChunk, Machine.trace_append]
  congr 1
  apply traceFrom_own
  intro hStart bytes
  rw [carried, if_pos hStart]
  rfl

------------------------------------------------------------
-- Calls on the Location
------------------------------------------------------------

inductive Coordinate where
| latitude
| longitude
deriving DecidableEq

/- The degrees that the next commit will show. -/
def TinyGPSLocation.staged
    (location : TinyGPSLocation) : Coordinate → RawDegrees
| .latitude => location.rawNewLatData
| .longitude => location.rawNewLngData

/- The call replaces the staged degrees altogether. -/
def LocationCall.Sets
    (coordinate : Coordinate) : LocationCall → Prop
| .setLatitude _ => coordinate = .latitude
| .setLongitude _ => coordinate = .longitude
| _ => False

/- The call changes something of the staged degrees. -/
def LocationCall.Touches
    (coordinate : Coordinate) : LocationCall → Prop
| .setLatitude _ => coordinate = .latitude
| .latNegative _ => coordinate = .latitude
| .setLongitude _ => coordinate = .longitude
| .lngNegative _ => coordinate = .longitude
| .commit => False

instance
    (coordinate : Coordinate) :
    (call : LocationCall) →
    Decidable (call.Sets coordinate)
| .setLatitude _ =>
    inferInstanceAs (Decidable (coordinate = .latitude))
| .setLongitude _ =>
    inferInstanceAs (Decidable (coordinate = .longitude))
| .latNegative _ => inferInstanceAs (Decidable False)
| .lngNegative _ => inferInstanceAs (Decidable False)
| .commit => inferInstanceAs (Decidable False)

namespace TinyGPSLocation

@[simp] theorem performAll_nil
    (location : TinyGPSLocation) :
    location.performAll [] = location := by
  rfl

@[simp] theorem performAll_cons
    (location : TinyGPSLocation)
    (call : LocationCall)
    (calls : List LocationCall) :
    location.performAll (call :: calls) =
      (location.perform call).performAll calls := by
  rfl

/- One coordinate is staged apart from everything else. -/
theorem perform_staged
    {left right : TinyGPSLocation}
    {coordinate : Coordinate}
    (call : LocationCall)
    (hStaged :
      left.staged coordinate = right.staged coordinate ∨
        call.Sets coordinate) :
    (left.perform call).staged coordinate =
      (right.perform call).staged coordinate := by
  cases coordinate <;> cases call <;>
    simp_all [staged, perform, setLatitude, setLongitude,
      commit, LocationCall.Sets]

theorem performAll_staged
    {left right : TinyGPSLocation}
    {coordinate : Coordinate}
    (calls : List LocationCall)
    (hStaged :
      left.staged coordinate = right.staged coordinate ∨
        ∃ call ∈ calls, call.Sets coordinate) :
    (left.performAll calls).staged coordinate =
      (right.performAll calls).staged coordinate := by
  induction calls generalizing left right with
  | nil => simpa using hStaged
  | cons call calls ih =>
      rw [performAll_cons, performAll_cons]
      apply ih
      rcases hStaged with hSame | ⟨other, hOther, hSets⟩
      · exact Or.inl (perform_staged call (Or.inl hSame))
      · rcases List.mem_cons.mp hOther with rfl | hLater
        · exact Or.inl (perform_staged other (Or.inr hSets))
        · exact Or.inr ⟨other, hLater, hSets⟩

/- Untouched degrees stay as they were. -/
theorem performAll_untouched
    {coordinate : Coordinate}
    (location : TinyGPSLocation)
    (calls : List LocationCall)
    (hUntouched :
      ∀ call ∈ calls, ¬ call.Touches coordinate) :
    (location.performAll calls).staged coordinate =
      location.staged coordinate := by
  induction calls generalizing location with
  | nil => rfl
  | cons call calls ih =>
      rw [performAll_cons,
        ih _ fun other hOther =>
          hUntouched other (List.mem_cons_of_mem _ hOther)]
      have hCall := hUntouched call List.mem_cons_self
      cases coordinate <;> cases call <;>
        simp_all [staged, perform, setLatitude,
          setLongitude, commit, LocationCall.Touches]

/- A commit forgets all but the staged degrees. -/
theorem commit_congr
    {left right : TinyGPSLocation}
    (hStaged :
      ∀ coordinate,
        left.staged coordinate = right.staged coordinate) :
    left.commit = right.commit := by
  have hLat := hStaged .latitude
  have hLng := hStaged .longitude
  simp only [staged] at hLat hLng
  simp only [commit, hLat, hLng]

/- Validity says whether there was a commit. -/
theorem performAll_valid
    (location : TinyGPSLocation)
    (calls : List LocationCall) :
    (location.performAll calls).valid = true ↔
      location.valid = true ∨ .commit ∈ calls := by
  induction calls generalizing location with
  | nil => simp
  | cons call calls ih =>
      rw [performAll_cons, ih]
      by_cases hCommit : call = .commit
      · subst hCommit
        simp [perform, commit]
      · rw [(location.perform_keeps hCommit).1]
        simp [Ne.symm hCommit]

/- Without one, the location shows what it showed. -/
theorem performAll_uncommitted
    (location : TinyGPSLocation)
    (calls : List LocationCall)
    (hNone : .commit ∉ calls) :
    SamePosition (location.performAll calls) location := by
  induction calls generalizing location with
  | nil => exact ⟨rfl, rfl, rfl⟩
  | cons call calls ih =>
      rw [List.mem_cons, not_or] at hNone
      have hLater := ih (location.perform call) hNone.2
      rcases location.perform_keeps (Ne.symm hNone.1) with
        ⟨hValid, _, hLat, hLng⟩
      exact hLater.trans ⟨hValid, hLat, hLng⟩

end TinyGPSLocation

/- The location of a new parser after some bytes. -/
def locationAfter (bytes : List Byte) : TinyGPSLocation :=
  ({} : TinyGPSLocation).performAll (scanner.trace bytes)

theorem feed_construct_location
    (memory : TinyGPSPlus)
    (bytes : List Byte) :
    (feed (TinyGPSPlus.construct memory) bytes).location =
      locationAfter bytes := by
  rw [feed_location,
    traceFrom_alike (Parsing.construct_alike memory {})]
  rfl

/- The accessors that `GPS` calls change no position. -/
theorem GPS_position
    (memory : TinyGPSPlus)
    (available : List Byte) :
    SamePosition (GPS memory available).location
      (locationAfter available) := by
  rw [← feed_construct_location memory available]
  unfold GPS
  simp only
  split
  · exact ⟨rfl, rfl, rfl⟩
  · exact ⟨rfl, rfl, rfl⟩

/- The two parsers, up to the chunk's own bytes. -/
theorem locationAfter_chunk
    (history chunk : List Byte) :
    locationAfter chunk =
      (locationAfter (carried history chunk)).performAll
        (scanner.trace (own history chunk)) := by
  rw [locationAfter, trace_chunk history chunk,
    TinyGPSLocation.performAll_append]
  rfl

theorem locationAfter_history
    (history chunk : List Byte) :
    locationAfter (history ++ chunk) =
      (locationAfter
        (history ++ carried history chunk)).performAll
          (scanner.trace (own history chunk)) := by
  rw [locationAfter, trace_history_append,
    TinyGPSLocation.performAll_append]
  rfl

/-
  `GPS` reports a valid location exactly when a fix was read
  in this very call.
-/
theorem valid_iff
    (memory : TinyGPSPlus)
    (available : List Byte) :
    (GPS memory available).location.valid = true ↔
      .commit ∈ scanner.trace available := by
  rw [(GPS_position memory available).valid, locationAfter,
    TinyGPSLocation.performAll_valid]
  simp

------------------------------------------------------------
-- Whole Sentences
------------------------------------------------------------

/-
  The degrees that a fix shows were set by its own sentences,
  or by no sentence at all.
-/
def Determined
    (history chunk : List Byte)
    (before : List LocationCall)
    (coordinate : Coordinate) : Prop :=
  (∃ call ∈ before, call.Sets coordinate) ∨
    ∀ call ∈
      scanner.trace (history ++ carried history chunk) ++
        scanner.trace (carried history chunk),
      ¬ call.Touches coordinate

/-
  The chunk's own sentences contain a fix; its coordinates
  come from the calls before it.
-/
structure Fixes
    (history chunk : List Byte)
    (before after : List LocationCall) : Prop where
  calls :
    scanner.trace (own history chunk) =
      before ++ .commit :: after
  determined :
    ∀ coordinate,
      Determined history chunk before coordinate

/-
  Either no fix has been received, and the bytes carried over
  do not spell one by themselves, or the chunk has a fix of
  its own.
-/
def WholeInCall (history chunk : List Byte) : Prop :=
  (.commit ∉ scanner.trace (history ++ chunk) ∧
      .commit ∉ scanner.trace (carried history chunk)) ∨
    ∃ before after, Fixes history chunk before after

/- Nothing is lost in the first call. -/
theorem wholeInCall_first
    (chunk : List Byte) :
    WholeInCall [] chunk := by
  have hOwn : own [] chunk = chunk := by
    exact if_pos (Or.inl rfl)
  have hCarried : carried [] chunk = [] := by
    exact if_pos (Or.inl rfl)
  by_cases hFix : .commit ∈ scanner.trace chunk
  · rcases List.append_of_mem hFix with
      ⟨before, after, hCalls⟩
    refine Or.inr ⟨before, after, ?_, ?_⟩
    · rw [hOwn]
      exact hCalls
    · intro coordinate
      apply Or.inr
      rw [hCarried]
      intro call hCall
      cases hCall
  · refine Or.inl ⟨hFix, ?_⟩
    rw [hCarried]
    exact List.not_mem_nil

/- Both parsers show the chunk's own fix, from equal data. -/
theorem Fixes.same
    {history chunk : List Byte}
    {before after : List LocationCall}
    (hFixes : Fixes history chunk before after) :
    locationAfter chunk =
      locationAfter (history ++ chunk) := by
  rw [locationAfter_chunk history chunk,
    locationAfter_history, hFixes.calls]
  simp only [TinyGPSLocation.performAll_append,
    TinyGPSLocation.performAll_cons,
    TinyGPSLocation.perform]
  congr 1
  apply TinyGPSLocation.commit_congr
  intro coordinate
  apply TinyGPSLocation.performAll_staged
  rcases hFixes.determined coordinate with
    hSets | hUntouched
  · exact Or.inr hSets
  · apply Or.inl
    unfold locationAfter
    rw [TinyGPSLocation.performAll_untouched,
      TinyGPSLocation.performAll_untouched]
    · intro call hCall
      exact hUntouched call (List.mem_append_left _ hCall)
    · intro call hCall
      exact hUntouched call (List.mem_append_right _ hCall)

theorem samePosition_of_whole
    {history chunk : List Byte}
    (memory : TinyGPSPlus)
    (hWhole : WholeInCall history chunk) :
    SamePosition (GPS memory chunk).location
      (feed (TinyGPSPlus.construct {})
        (history ++ chunk)).location := by
  have hReturned := GPS_position memory chunk
  rw [feed_construct_location]
  rcases hWhole with
    ⟨hNone, hCarried⟩ | ⟨before, after, hFixes⟩
  · have hChunk : .commit ∉ scanner.trace chunk := by
      rw [trace_history_append, List.mem_append, not_or]
        at hNone
      rw [trace_chunk history chunk, List.mem_append, not_or]
      exact ⟨hCarried, hNone.2⟩
    have hNew :=
      TinyGPSLocation.performAll_uncommitted {} _ hChunk
    have hAll :=
      TinyGPSLocation.performAll_uncommitted {} _ hNone
    exact hReturned.trans (hNew.trans hAll.symm)
  · rw [← hFixes.same]
    exact hReturned

/- For every run in which no call reads a broken sentence. -/
theorem chunkIndependent_of_whole
    (calls : List Call)
    (hWhole :
      ∀ before call after,
        calls = before ++ call :: after →
          WholeInCall (received before) call.available) :
    ChunkIndependent calls := by
  intro before call after hCalls
  exact
    samePosition_of_whole call.memory
      (hWhole before call after hCalls)

------------------------------------------------------------
-- What Else Agrees
------------------------------------------------------------

/-
  A call without a fix of its own returns the right position
  exactly when the bytes carried over, read by themselves,
  show what the parser shows that has read everything.
-/
theorem samePosition_iff_of_no_fix
    {history chunk : List Byte}
    (memory : TinyGPSPlus)
    (hNone : .commit ∉ scanner.trace (own history chunk)) :
    SamePosition (GPS memory chunk).location
        (feed (TinyGPSPlus.construct {})
          (history ++ chunk)).location ↔
      SamePosition
        (locationAfter (carried history chunk))
        (locationAfter
          (history ++ carried history chunk)) := by
  have hReturned := GPS_position memory chunk
  rw [locationAfter_chunk history chunk] at hReturned
  rw [feed_construct_location, locationAfter_history]
  have hNew :=
    hReturned.trans
      (TinyGPSLocation.performAll_uncommitted _ _ hNone)
  have hAll :=
    TinyGPSLocation.performAll_uncommitted
      (locationAfter (history ++ carried history chunk)) _
      hNone
  constructor
  · intro hSame
    exact hNew.symm.trans (hSame.trans hAll)
  · intro hSame
    exact hNew.trans (hSame.trans hAll.symm)

/-
  A call with a fix of its own does so exactly when the data
  staged for its last fix are those of the other parser.
-/
theorem samePosition_iff_of_fix
    {history chunk : List Byte}
    {before after : List LocationCall}
    (memory : TinyGPSPlus)
    (hCalls :
      scanner.trace (own history chunk) =
        before ++ .commit :: after)
    (hLast : .commit ∉ after) :
    SamePosition (GPS memory chunk).location
        (feed (TinyGPSPlus.construct {})
          (history ++ chunk)).location ↔
      ∀ coordinate,
        ((locationAfter
            (carried history chunk)).performAll
              before).staged coordinate =
          ((locationAfter
              (history ++
                carried history chunk)).performAll
                before).staged coordinate := by
  have hReturned := GPS_position memory chunk
  rw [locationAfter_chunk history chunk, hCalls]
    at hReturned
  rw [feed_construct_location, locationAfter_history,
    hCalls]
  simp only [TinyGPSLocation.performAll_append,
    TinyGPSLocation.performAll_cons] at hReturned ⊢
  have hNew :=
    hReturned.trans
      (TinyGPSLocation.performAll_uncommitted _ _ hLast)
  have hAll :=
    TinyGPSLocation.performAll_uncommitted
      (((locationAfter
        (history ++ carried history chunk)).performAll
          before).perform .commit) _ hLast
  constructor
  · intro hSame coordinate
    have hShown := hNew.symm.trans (hSame.trans hAll)
    cases coordinate with
    | latitude => exact hShown.lat
    | longitude => exact hShown.lng
  · intro hStaged
    have hShown :
        SamePosition
          (((locationAfter
            (carried history chunk)).performAll
              before).perform .commit)
          (((locationAfter
            (history ++ carried history chunk)).performAll
              before).perform .commit) := by
      exact ⟨rfl, hStaged .latitude, hStaged .longitude⟩
    exact hNew.trans (hShown.trans hAll.symm)

------------------------------------------------------------
-- Two Calls
------------------------------------------------------------

def rmcSentence : List Byte :=
  literal
    ("$GPRMC,045103.000,A,3014.1984,N,09749.2872,W," ++
      "0.67,161.46,030913,,,A*7C\x0d\n")

def ggaSentence : List Byte :=
  literal
    ("$GPGGA,045104.000,3014.1985,N,09749.2873,W,1,09," ++
      "1.2,211.6,M,-22.5,M,,0000*62\x0d\n")

/- A sentence in each of two calls. -/
def wholeSentences : List Call :=
  [⟨{}, rmcSentence⟩, ⟨{}, ggaSentence⟩]

/- The calls on the location before the second commit. -/
def ggaCalls : List LocationCall :=
  [.setLatitude (literal "3014.1985"), .latNegative false,
    .setLongitude (literal "09749.2873"),
    .lngNegative true]

theorem wholeSentences_independent :
    (GPS {} ggaSentence).location.valid = true ∧
      ChunkIndependent wholeSentences := by
  refine ⟨by decide +kernel, ?_⟩
  apply chunkIndependent_of_whole
  intro before call after hCalls
  rcases before with _ | ⟨first, before⟩
  · exact wholeInCall_first call.available
  · rcases before with _ | ⟨second, before⟩
    · cases hCalls
      refine Or.inr ⟨ggaCalls, [], ?_, ?_⟩
      · decide +kernel
      · intro coordinate
        apply Or.inl
        cases coordinate <;> decide +kernel
    · simp [wholeSentences] at hCalls

/- One sentence, cut in the middle of its latitude. -/
def straddled : List Call :=
  [⟨{}, rmcSentence.take 25⟩, ⟨{}, rmcSentence.drop 25⟩]

/- Neither call returns the fix. -/
theorem straddled_lost :
    ¬ ChunkIndependent straddled := by
  intro hIndependent
  have hSame :=
    hIndependent [⟨{}, rmcSentence.take 25⟩]
      ⟨{}, rmcSentence.drop 25⟩ [] rfl
  have hLost :
      (GPS {} (rmcSentence.drop 25)).location.valid =
        false := by
    decide +kernel
  have hFix :
      (feed (TinyGPSPlus.construct {})
        (received [⟨{}, rmcSentence.take 25⟩] ++
          rmcSentence.drop 25)).location.valid = true := by
    decide +kernel
  have hValid := hSame.valid
  simp only [hLost, hFix] at hValid
  cases hValid

end Gps

end LoRaTelemetry
