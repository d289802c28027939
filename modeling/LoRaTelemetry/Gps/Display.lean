import LoRaTelemetry.Gps.Commits

/-
  The sketch that displays the location, pass by pass of its
  `loop`. A pass drains the bytes that have arrived and then
  calls `displayInfo`, if there were any.

  Main declarations:
    * `Gps.displayInfo`
    * `Gps.loop`
    * `Gps.sketch`
    * `Gps.DisplayLaw`
    * `Gps.display_law`
-/

------------------------------------------------------------
-- The Date and the Time
------------------------------------------------------------

namespace LoRaTelemetry

namespace Gps

def TinyGPSDate.month
    (date : TinyGPSDate) : Byte × TinyGPSDate :=
  (((date.val / 100) % 100).setWidth 8, date.value.2)

def TinyGPSDate.day
    (date : TinyGPSDate) : Byte × TinyGPSDate :=
  ((date.val / 10000).setWidth 8, date.value.2)

def TinyGPSDate.year
    (date : TinyGPSDate) : BitVec 16 × TinyGPSDate :=
  ((date.val % 100).setWidth 16 + 2000, date.value.2)

def TinyGPSTime.hour
    (time : TinyGPSTime) : Byte × TinyGPSTime :=
  ((time.val / 1000000).setWidth 8, time.value.2)

def TinyGPSTime.minute
    (time : TinyGPSTime) : Byte × TinyGPSTime :=
  (((time.val / 10000) % 100).setWidth 8, time.value.2)

def TinyGPSTime.second
    (time : TinyGPSTime) : Byte × TinyGPSTime :=
  (((time.val / 100) % 100).setWidth 8, time.value.2)

def TinyGPSTime.centisecond
    (time : TinyGPSTime) : Byte × TinyGPSTime :=
  ((time.val % 100).setWidth 8, time.value.2)

structure Date where
  month : Byte
  day : Byte
  year : BitVec 16
deriving DecidableEq

structure Time where
  hour : Byte
  minute : Byte
  second : Byte
  centisecond : Byte
deriving DecidableEq

/- The date as displayed, or `INVALID`. -/
def displayDate
    (date : TinyGPSDate) : Option Date × TinyGPSDate :=
  if date.valid then
    let (month, date) := date.month
    let (day, date) := date.day
    let (year, date) := date.year
    (some ⟨month, day, year⟩, date)
  else
    (none, date)

def displayTime
    (time : TinyGPSTime) : Option Time × TinyGPSTime :=
  if time.valid then
    let (hour, time) := time.hour
    let (minute, time) := time.minute
    let (second, time) := time.second
    let (centisecond, time) := time.centisecond
    (some ⟨hour, minute, second, centisecond⟩, time)
  else
    (none, time)

------------------------------------------------------------
-- The Sketch
------------------------------------------------------------

variable {Double : Type}
variable [NatCast Double] [Add Double]
variable [Div Double] [Neg Double]

/- What `displayInfo` writes after `Location: `. -/
inductive Info (Double : Type) where
| invalidCoordinates
| nothing
| coordinates
    (lat lng : Double)
    (date : Option Date)
    (time : Option Time)
deriving DecidableEq

def Info.coordinates? :
    Info Double → Option (Double × Double)
| .coordinates lat lng _ _ => some (lat, lng)
| _ => none

variable (Double)

def displayInfo
    (gps : TinyGPSPlus) : Info Double × TinyGPSPlus :=
  if gps.location.valid then
    if gps.location.updated then
      let (lat, location) := gps.location.lat
      let (lng, location) := location.lng
      let (date, dateMember) := displayDate gps.date
      let (time, timeMember) := displayTime gps.time
      (.coordinates lat lng date time,
        { gps with
          location := location
          date := dateMember
          time := timeMember })
    else
      (.nothing, gps)
  else
    (.invalidCoordinates, gps)

/- The globals. -/
structure Sketch where
  gps : TinyGPSPlus
  data : Bool

/- The `while` loop, on the bytes that it drains. -/
def drain
    (sketch : Sketch)
    (bytes : List Byte) : Sketch :=
  bytes.foldl
    (fun sketch c =>
      { gps := (encode sketch.gps c).2
        data := true })
    sketch

/- One pass, and what it displays if it does. -/
def loop
    (sketch : Sketch)
    (bytes : List Byte) : Option (Info Double) × Sketch :=
  let sketch := drain sketch bytes
  if sketch.data then
    let (info, gps) := displayInfo Double sketch.gps
    (some info, { gps := gps, data := false })
  else
    (none, sketch)

/- The sketch as a machine; its events are the passes. -/
def sketch : Machine Sketch (List Byte) (Info Double) :=
  { init :=
      { gps := TinyGPSPlus.construct {}
        data := false }
    step := fun sketch bytes => (loop Double sketch bytes).2
    emit := fun sketch bytes =>
      (loop Double sketch bytes).1.toList }

@[simp] theorem sketch_emit
    (state : Sketch)
    (bytes : List Byte) :
    (sketch Double).emit state bytes =
      (loop Double state bytes).1.toList := by
  rfl

/- The coordinates that a pass prints. -/
def printed
    (before : List (List Byte))
    (bytes : List Byte) : Option (Double × Double) :=
  (loop Double ((sketch Double).run before) bytes).1.bind
    Info.coordinates?

/- The coordinates printed in a run, in order. -/
def allPrinted
    (passes : List (List Byte)) : List (Double × Double) :=
  ((sketch Double).trace passes).filterMap Info.coordinates?

------------------------------------------------------------
-- The Parser of the Sketch
------------------------------------------------------------

variable {Double}

/-
  The parser of the sketch follows the one that no accessor
  touches, up to `updated` flags.
-/
structure Follows
    (gps reference : TinyGPSPlus) : Prop where
  parsing : gps.parsing = reference.parsing
  location :
    gps.location =
      { reference.location with
        updated := gps.location.updated }

/- The location announces the last of some commits. -/
def Announces
    (location : TinyGPSLocation) :
    Option (Double × Double) → Prop
| none => location.updated = false
| some position =>
    location.updated = true ∧ location.valid = true ∧
      location.position = position

theorem TinyGPSLocation.perform_updated
    (location : TinyGPSLocation)
    (updated : Bool)
    (call : LocationCall) :
    { location with updated }.perform call =
      { location.perform call with
        updated :=
          ({ location with updated }.perform
            call).updated } := by
  cases call <;> rfl

theorem encode_follows
    {gps reference : TinyGPSPlus}
    (c : Byte)
    (hFollows : Follows gps reference) :
    Follows (encode gps c).2 (encode reference c).2 := by
  constructor
  · rw [encode_parsing, encode_parsing, hFollows.parsing]
  · rw [encode_location, encode_location, hFollows.parsing]
    cases reference.parsing.call? c with
    | none => exact hFollows.location
    | some call =>
        have hUpdated :=
          reference.location.perform_updated
            gps.location.updated call
        rw [← hFollows.location] at hUpdated
        exact hUpdated

theorem Follows.position
    {gps reference : TinyGPSPlus}
    (hFollows : Follows gps reference) :
    (gps.location.position : Double × Double) =
      reference.location.position := by
  rw [hFollows.location]
  rfl

/- A byte replaces the announcement, or leaves it alone. -/
theorem encode_announces
    {gps reference : TinyGPSPlus}
    {last : Option (Double × Double)}
    (c : Byte)
    (hFollows : Follows gps reference)
    (hAnnounces : Announces gps.location last) :
    Announces (encode gps c).2.location
      (if Commits reference c then
        some (encode reference c).2.location.position
      else
        last) := by
  have hSame : Commits gps c ↔ Commits reference c := by
    unfold Commits
    rw [hFollows.parsing]
  by_cases hCommits : Commits reference c
  · have hNew := encode_commit (hSame.mpr hCommits)
    rw [if_pos hCommits]
    refine ⟨?_, ?_, (encode_follows c hFollows).position⟩
    · rw [hNew]
      rfl
    · rw [hNew]
      rfl
  · rcases encode_keeps
        (fun hOther => hCommits (hSame.mp hOther)) with
      ⟨hValid, hUpdated, hLat, hLng⟩
    rw [if_neg hCommits]
    cases last with
    | none => exact hUpdated.trans hAnnounces
    | some position =>
        rcases hAnnounces with ⟨hNew, hFix, hShown⟩
        refine
          ⟨hUpdated.trans hNew, hValid.trans hFix, ?_⟩
        rw [TinyGPSLocation.position, hLat, hLng]
        exact hShown

theorem feed_concat
    (gps : TinyGPSPlus)
    (bytes : List Byte)
    (c : Byte) :
    feed gps (bytes ++ [c]) =
      (encode (feed gps bytes) c).2 := by
  simp [feed]

variable (Double)

/- After a chunk, the last commit in it is announced. -/
theorem feed_announces
    {gps reference : TinyGPSPlus}
    (hFollows : Follows gps reference)
    (hClear : gps.location.updated = false)
    (bytes : List Byte) :
    Follows (feed gps bytes) (feed reference bytes) ∧
      Announces (feed gps bytes).location
        ((parser Double).traceFrom reference
          bytes).getLast? := by
  induction bytes using List.reverseRecOn with
  | nil => exact ⟨hFollows, hClear⟩
  | append_singleton bytes c ih =>
      rcases ih with ⟨hBefore, hAnnounced⟩
      rw [feed_concat, feed_concat]
      refine ⟨encode_follows c hBefore, ?_⟩
      have hNext := encode_announces c hBefore hAnnounced
      have hLast :
          ((parser Double).traceFrom reference
              (bytes ++ [c])).getLast? =
            if Commits (feed reference bytes) c then
              some
                (encode (feed reference
                  bytes) c).2.location.position
            else
              ((parser Double).traceFrom reference
                bytes).getLast? := by
        rw [Machine.traceFrom_append, parser_runFrom]
        simp only [Machine.traceFrom, parser]
        split <;> simp
      rw [hLast]
      exact hNext

------------------------------------------------------------
-- One Pass
------------------------------------------------------------

theorem drain_gps
    (sketch : Sketch)
    (bytes : List Byte) :
    (drain sketch bytes).gps = feed sketch.gps bytes := by
  induction bytes generalizing sketch with
  | nil => rfl
  | cons c bytes ih => exact ih _

theorem drain_data
    (sketch : Sketch)
    (c : Byte)
    (bytes : List Byte) :
    (drain sketch (c :: bytes)).data = true := by
  induction bytes generalizing sketch c with
  | nil => rfl
  | cons next bytes ih => exact ih _ next

/- What `displayInfo` prints is what is announced. -/
theorem displayInfo_coordinates
    {gps : TinyGPSPlus}
    {last : Option (Double × Double)}
    (hAnnounces : Announces gps.location last) :
    (displayInfo Double gps).1.coordinates? = last := by
  unfold displayInfo
  cases last with
  | none =>
      have hUpdated :
          gps.location.updated = false := hAnnounces
      rw [hUpdated]
      split <;> rfl
  | some position =>
      rcases hAnnounces with ⟨hUpdated, hValid, hPosition⟩
      simp only [hValid, hUpdated, if_true]
      exact congrArg some hPosition

/- Afterwards nothing is announced any more. -/
theorem displayInfo_updated
    {gps : TinyGPSPlus}
    {last : Option (Double × Double)}
    (hAnnounces : Announces gps.location last) :
    (displayInfo Double gps).2.location.updated = false := by
  unfold displayInfo
  cases last with
  | none =>
      have hUpdated :
          gps.location.updated = false := hAnnounces
      rw [hUpdated]
      split <;> exact hUpdated
  | some position =>
      rcases hAnnounces with ⟨hUpdated, hValid, _⟩
      simp only [hValid, hUpdated, if_true]
      rfl

/- The accessors leave the rest of the location alone. -/
theorem displayInfo_follows
    {gps reference : TinyGPSPlus}
    (hFollows : Follows gps reference) :
    Follows (displayInfo Double gps).2 reference := by
  unfold displayInfo
  split
  · split
    · refine ⟨hFollows.parsing, ?_⟩
      have hLocation := hFollows.location
      simp only [TinyGPSLocation.lat, TinyGPSLocation.lng,
        TinyGPSLocation.read]
      rw [hLocation]
    · exact hFollows
  · exact hFollows

/- Between two passes of `loop`. -/
structure Waiting
    (passes : List (List Byte))
    (sketch : Sketch) : Prop where
  data : sketch.data = false
  updated : sketch.gps.location.updated = false
  follows :
    Follows sketch.gps
      (feed (TinyGPSPlus.construct {}) passes.flatten)

theorem Waiting.drained
    {passes : List (List Byte)}
    {sketch : Sketch}
    (hWaiting : Waiting passes sketch)
    (bytes : List Byte) :
    Follows (drain sketch bytes).gps
        ((parser Double).run (passes ++ [bytes]).flatten) ∧
      Announces (drain sketch bytes).gps.location
        (commitsDuring Double passes.flatten
          bytes).getLast? := by
  have hFed :=
    feed_announces Double hWaiting.follows
      hWaiting.updated bytes
  rw [drain_gps, List.flatten_append,
    List.flatten_singleton, Machine.run_append,
    parser_runFrom]
  exact hFed

/- A pass prints the last commit among its bytes, if any. -/
theorem Waiting.loop_coordinates
    {passes : List (List Byte)}
    {sketch : Sketch}
    (hWaiting : Waiting passes sketch)
    (bytes : List Byte) :
    (loop Double sketch bytes).1.bind Info.coordinates? =
      (commitsDuring Double passes.flatten
        bytes).getLast? := by
  unfold loop
  cases bytes with
  | nil =>
      have hIdle : (drain sketch []).data = false :=
        hWaiting.data
      simp only [hIdle]
      rfl
  | cons c bytes =>
      simp only [drain_data, if_true, Option.bind_some]
      exact
        displayInfo_coordinates Double
          (hWaiting.drained Double (c :: bytes)).2

theorem Waiting.loop
    {passes : List (List Byte)}
    {sketch : Sketch}
    (hWaiting : Waiting passes sketch)
    (bytes : List Byte) :
    Waiting (passes ++ [bytes])
      (loop Double sketch bytes).2 := by
  rcases hWaiting.drained Double bytes with
    ⟨hFollows, hAnnounces⟩
  unfold Gps.loop
  cases bytes with
  | nil =>
      have hIdle : (drain sketch []).data = false :=
        hWaiting.data
      simp only [hIdle]
      exact ⟨hIdle, hWaiting.updated, hFollows⟩
  | cons c bytes =>
      simp only [drain_data, if_true]
      exact
        ⟨rfl, displayInfo_updated Double hAnnounces,
          displayInfo_follows Double hFollows⟩

theorem run_waiting
    (passes : List (List Byte)) :
    Waiting passes ((sketch Double).run passes) := by
  apply Machine.run_history
  · refine ⟨rfl, rfl, ⟨rfl, rfl⟩⟩
  · intro passes bytes hWaiting
    exact hWaiting.loop Double bytes

------------------------------------------------------------
-- The Display Law
------------------------------------------------------------

/-
  A pass prints the coordinates of the last commit among the
  bytes it drained, and none if there was none. Over a run,
  no commit is printed twice, and the last coordinates are
  those of the last commit of the whole stream.
-/
structure DisplayLaw (passes : List (List Byte)) : Prop where
  eachPass :
    ∀ before bytes after,
      passes = before ++ bytes :: after →
        printed Double before bytes =
          (commitsDuring Double before.flatten bytes).getLast?
  once :
    (allPrinted Double passes).Sublist
      (commits Double passes.flatten)
  last :
    (allPrinted Double passes).getLast? =
      (commits Double passes.flatten).getLast?

theorem allPrinted_concat
    (passes : List (List Byte))
    (bytes : List Byte) :
    allPrinted Double (passes ++ [bytes]) =
      allPrinted Double passes ++
        (commitsDuring Double passes.flatten
          bytes).getLast?.toList := by
  have hPass :=
    (run_waiting Double passes).loop_coordinates Double
      bytes
  rw [allPrinted, Machine.trace_concat,
    List.filterMap_append, ← hPass, sketch_emit]
  congr 1
  cases (loop Double ((sketch Double).run passes) bytes).1 with
  | none => rfl
  | some info =>
      cases hInfo : info.coordinates? <;> simp [hInfo]

/- For every stream and every division of it into passes. -/
theorem display_law
    (passes : List (List Byte)) :
    DisplayLaw Double passes := by
  constructor
  · intro before bytes after _
    exact
      (run_waiting Double before).loop_coordinates Double
        bytes
  · induction passes using List.reverseRecOn with
    | nil => exact List.Sublist.refl _
    | append_singleton passes bytes ih =>
        rw [allPrinted_concat, List.flatten_append,
          List.flatten_singleton, commits_append]
        apply ih.append
        cases hLast :
            (commitsDuring Double passes.flatten
              bytes).getLast? with
        | none => exact List.nil_sublist _
        | some position =>
            exact
              List.singleton_sublist.mpr
                (List.mem_of_getLast? hLast)
  · induction passes using List.reverseRecOn with
    | nil => rfl
    | append_singleton passes bytes ih =>
        rw [allPrinted_concat, List.flatten_append,
          List.flatten_singleton, commits_append,
          List.getLast?_append, List.getLast?_append, ih]
        cases (commitsDuring Double passes.flatten
          bytes).getLast? <;> rfl

end Gps

end LoRaTelemetry
