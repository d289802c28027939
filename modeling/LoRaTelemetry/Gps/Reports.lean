import LoRaTelemetry.Gps.Coordinates
import LoRaTelemetry.Gps.Display
import LoRaTelemetry.Gps.Spelling

/-
  A fix as a receiver reports it: spelled in a sentence under
  its checksum, parsed byte by byte and displayed.

  Main declarations:
    * `Gps.Clock`
    * `Gps.Calendar`
    * `Gps.Angle`
    * `Gps.Decimal`
    * `Gps.Rmc`
    * `Gps.rmc_displayed`
-/

------------------------------------------------------------
-- The Parts of a Report
------------------------------------------------------------

namespace LoRaTelemetry

namespace Gps

/- A time of the day, with a fraction of a second. -/
structure Clock where
  hour : Fin 100
  minute : Fin 100
  second : Fin 100
  fraction : List Byte
  fraction_digits : AllDigits fraction
  fraction_short : fraction.length ≤ 7

namespace Clock

variable (clock : Clock)

def whole : List Byte :=
  digits 2 clock.hour ++ digits 2 clock.minute ++
    digits 2 clock.second

def text : List Byte :=
  pointed clock.whole clock.fraction

def time : Time :=
  { hour := BitVec.ofNat 8 clock.hour
    minute := BitVec.ofNat 8 clock.minute
    second := BitVec.ofNat 8 clock.second
    centisecond := BitVec.ofNat 8 (scaled 2 clock.fraction) }

theorem allDigits_whole :
    AllDigits clock.whole := by
  exact
    ((allDigits_digits 2 _).append
      (allDigits_digits 2 _)).append (allDigits_digits 2 _)

theorem number_whole :
    number clock.whole =
      10000 * clock.hour + 100 * clock.minute +
        clock.second := by
  simp only [whole, number_append, length_digits,
    number_twoDigits]
  omega

theorem kept_text :
    Kept clock.text := by
  apply kept_pointed clock.allDigits_whole
    clock.fraction_digits
  have hShort := clock.fraction_short
  simp only [whole, List.length_append, length_digits]
  omega

theorem whole_ne_nil :
    clock.whole ≠ [] := by
  intro hNil
  have hLength := congrArg List.length hNil
  simp [whole, length_digits] at hLength

end Clock

/- A date, with the last two digits of the year. -/
structure Calendar where
  day : Fin 100
  month : Fin 100
  year : Fin 100

namespace Calendar

variable (calendar : Calendar)

def text : List Byte :=
  digits 2 calendar.day ++ digits 2 calendar.month ++
    digits 2 calendar.year

def date : Date :=
  { month := BitVec.ofNat 8 calendar.month
    day := BitVec.ofNat 8 calendar.day
    year := BitVec.ofNat 16 (2000 + calendar.year) }

theorem allDigits_text :
    AllDigits calendar.text := by
  exact
    ((allDigits_digits 2 _).append
      (allDigits_digits 2 _)).append (allDigits_digits 2 _)

theorem number_text :
    number calendar.text =
      10000 * calendar.day + 100 * calendar.month +
        calendar.year := by
  simp only [text, number_append, length_digits,
    number_twoDigits]
  omega

theorem text_ne_nil :
    calendar.text ≠ [] := by
  intro hNil
  have hLength := congrArg List.length hNil
  simp [text, length_digits] at hLength

theorem kept_text :
    Kept calendar.text := by
  apply calendar.allDigits_text.kept calendar.text_ne_nil
  simp [text, length_digits]

end Calendar

/- Degrees and minutes, on one side of a line. -/
structure Angle (width : Nat) where
  degrees : Fin (10 ^ width)
  minutes : Fin 60
  fraction : List Byte
  fraction_digits : AllDigits fraction
  fraction_short : fraction.length ≤ 7
  negative : Bool

namespace Angle

variable {width : Nat}
variable (angle : Angle width)

def whole : List Byte :=
  digits width angle.degrees ++
    digits 2 angle.minutes

def text : List Byte :=
  pointed angle.whole angle.fraction

/- The raw degrees once the side is known. -/
def raw : RawDegrees :=
  { parseDegrees angle.text with
    negative := angle.negative }

/- The degrees that are meant. -/
def exact : ℚ :=
  let minutes : ℚ :=
    angle.minutes.val +
      number angle.fraction /
        10 ^ angle.fraction.length
  let degrees := angle.degrees.val + minutes / 60
  if angle.negative then
    -degrees
  else
    degrees

theorem allDigits_whole :
    AllDigits angle.whole := by
  exact (allDigits_digits _ _).append (allDigits_digits 2 _)

theorem number_whole :
    number angle.whole =
      100 * angle.degrees + angle.minutes := by
  have hMinutes : angle.minutes.val < 10 ^ 2 := by
    omega
  simp only [whole, number_append, length_digits,
    number_digits angle.degrees.isLt,
    number_digits hMinutes]
  omega

theorem degreesOf_whole :
    degreesOf angle.whole angle.fraction =
      angle.degrees.val +
        (angle.minutes.val +
          number angle.fraction /
            10 ^ angle.fraction.length) / 60 := by
  have hDegrees :
      number angle.whole / 100 =
        angle.degrees := by
    rw [angle.number_whole]
    omega
  have hMinutes :
      number angle.whole % 100 =
        angle.minutes := by
    rw [angle.number_whole]
    omega
  rw [degreesOf, hDegrees, hMinutes]

theorem whole_ne_nil :
    angle.whole ≠ [] := by
  intro hNil
  have hLength := congrArg List.length hNil
  simp [whole, length_digits] at hLength

theorem kept_text
    (hWidth : width ≤ 4) :
    Kept angle.text := by
  apply kept_pointed angle.allDigits_whole
    angle.fraction_digits
  have hShort := angle.fraction_short
  simp only [whole, List.length_append, length_digits]
  omega

/- The raw degrees are those of the nearest billionth. -/
theorem value_near
    (hWidth : width ≤ 4) :
    |(angle.raw.value : ℚ) - angle.exact| *
      10 ^ 9 ≤ 1 / 3 := by
  have hNumber := angle.number_whole
  have hDegrees : angle.degrees.val < 10 ^ 4 :=
    lt_of_lt_of_le angle.degrees.isLt
      (Nat.pow_le_pow_right (by omega) hWidth)
  have hError :=
    (magnitude_error angle.allDigits_whole
      angle.fraction_digits angle.whole_ne_nil
      (by omega) (by omega)).2 angle.fraction_short
  have hMagnitude :
      angle.raw.magnitude =
        (parseDegrees
          (pointed angle.whole
            angle.fraction)).magnitude := rfl
  rw [angle.degreesOf_whole] at hError
  have hRaw :
      angle.raw.negative = angle.negative := rfl
  rw [value_eq, exact]
  by_cases hSide : angle.negative = true
  · rw [if_pos (hRaw.trans hSide), if_pos hSide,
      neg_sub_neg, abs_sub_comm, hMagnitude]
    exact hError
  · rw [if_neg (hRaw ▸ hSide), if_neg hSide, hMagnitude]
    exact hError

end Angle

/- A number of which two decimals are read. -/
structure Decimal where
  whole : List Byte
  fraction : List Byte
  whole_ne_nil : whole ≠ []
  whole_digits : AllDigits whole
  fraction_digits : AllDigits fraction
  whole_short : whole.length ≤ 7
  fraction_short : fraction.length ≤ 6

namespace Decimal

variable (decimal : Decimal)

def text : List Byte :=
  pointed decimal.whole decimal.fraction

def hundredths : Nat :=
  100 * number decimal.whole + scaled 2 decimal.fraction

theorem kept_text :
    Kept decimal.text := by
  have hWhole := decimal.whole_short
  have hFraction := decimal.fraction_short
  exact
    kept_pointed decimal.whole_digits
      decimal.fraction_digits (by omega)

theorem parseDecimal_text :
    parseDecimal decimal.text =
      BitVec.ofNat 32 decimal.hundredths := by
  have hNumber := number_lt decimal.whole_digits
  have hPower :
      10 ^ decimal.whole.length ≤ 10 ^ 7 :=
    Nat.pow_le_pow_right (by omega) decimal.whole_short
  exact
    parseDecimal_pointed decimal.whole_digits
      decimal.fraction_digits decimal.whole_ne_nil
      (by omega)

end Decimal

------------------------------------------------------------
-- A Report of Type RMC
------------------------------------------------------------

structure Rmc where
  otherSystems : Bool
  clock : Clock
  latitude : Angle 2
  longitude : Angle 3
  speed : Decimal
  course : Decimal
  calendar : Calendar
  rest : List (List Byte)
  rest_short : rest.length ≤ 23
  rest_ordinary :
    ∀ field ∈ rest, ∀ c ∈ field, Ordinary c

namespace Rmc

variable (report : Rmc)

def name : List Byte :=
  if report.otherSystems then
    literal "GNRMC"
  else
    literal "GPRMC"

/- The terms of a report with a fix. -/
def texts : List (List Byte) :=
  [report.clock.text, literal "A", report.latitude.text,
    if report.latitude.negative then
      literal "S"
    else
      literal "N",
    report.longitude.text,
    if report.longitude.negative then
      literal "W"
    else
      literal "E",
    report.speed.text, report.course.text,
    report.calendar.text]

def fields : List (List Byte) :=
  report.name :: (report.texts ++ report.rest)

theorem typeOf_name :
    typeOf [report.name] = .GPRMC := by
  unfold name
  split <;> decide

theorem kept_texts :
    ∀ text ∈ report.texts, Kept text := by
  have hLetter :
      ∀ letter ∈ literal "ASNWE", Kept [letter] := by
    intro letter hMember
    have hPlain :
        ∀ letter ∈ literal "ASNWE",
          Ordinary letter ∧ letter ≠ 0 := by
      decide
    refine ⟨by simp, by simp, fun c hByte => ?_⟩
    rw [List.mem_singleton.mp hByte]
    exact hPlain letter hMember
  intro text hText
  simp only [texts, List.mem_cons, List.not_mem_nil,
    or_false] at hText
  rcases hText with
    rfl | rfl | rfl | rfl | rfl | rfl | rfl | rfl | rfl
  · exact report.clock.kept_text
  · exact hLetter _ (by decide)
  · exact report.latitude.kept_text (by omega)
  · split <;> exact hLetter _ (by decide)
  · exact report.longitude.kept_text (by omega)
  · split <;> exact hLetter _ (by decide)
  · exact report.speed.kept_text
  · exact report.course.kept_text
  · exact report.calendar.kept_text

theorem fields_ordinary :
    ∀ field ∈ report.fields, ∀ c ∈ field, Ordinary c := by
  have hName : ∀ c ∈ report.name, Ordinary c := by
    unfold name
    split <;> decide
  intro field hField
  rcases List.mem_cons.mp hField with rfl | hField
  · exact hName
  · rcases List.mem_append.mp hField with hText | hRest
    · exact fun c hByte =>
        ((report.kept_texts field hText).plain c hByte).1
    · exact report.rest_ordinary field hRest

/- The report as it is sent. -/
def sentence : Sentence :=
  Sentence.underChecksum report.fields (by simp [fields])
    (by
      have hRest := report.rest_short
      simp only [fields, texts, List.length_cons,
        List.length_append, List.length_nil]
      omega)
    report.fields_ordinary

/- The draft after all of the report. -/
def noted (draft : Draft) : Draft :=
  { draft with
    time := parseDecimal report.clock.text
    hasFix := true
    latitude := report.latitude.raw
    longitude := report.longitude.raw
    speed := parseDecimal report.speed.text
    course := parseDecimal report.course.text
    date := atol report.calendar.text }

theorem noteAll_fields
    (draft : Draft) :
    draft.noteAll report.fields = report.noted draft := by
  have hTerms :
      namedTerms report.fields =
        SentenceType.GPRMC.terms.zip report.texts := by
    rw [fields,
      namedTerms_filled report.name report.rest
        report.kept_texts (by rw [report.typeOf_name]; rfl),
      report.typeOf_name]
  have hFix :
      decide ((literal "A").headD 0 = ascii 'A') = true := by
    decide
  have hSouth :
      ∀ south : Bool,
        decide
            ((if south then
                literal "S"
              else
                literal "N").headD 0 = ascii 'S') =
          south := by
    decide
  have hWest :
      ∀ west : Bool,
        decide
            ((if west then
                literal "W"
              else
                literal "E").headD 0 = ascii 'W') =
          west := by
    decide
  rw [Draft.noteAll, hTerms]
  simp only [SentenceType.terms, texts,
    List.zip_cons_cons, List.zip_nil_left, List.foldl_cons,
    List.foldl_nil, Draft.note, Draft.opened, hFix, hSouth,
    hWest]
  rfl

/- What the parser shows of a report. -/
theorem readout_sentence
    (gps : TinyGPSPlus) :
    (feed gps report.sentence.bytes).readout =
      gps.readout.publish (report.noted gps.draft)
        .GPRMC := by
  have hRun := (run_whole gps report.sentence).1
  have hRight : report.sentence.Right :=
    underChecksum_right _ _ _
  have hType : typeOf report.fields = .GPRMC :=
    report.typeOf_name
  have hHear :
      (gps.view.hear (.whole report.sentence)).readout =
        gps.readout.publish (report.noted gps.draft)
          .GPRMC := by
    rw [Receiver.hear]
    simp only [if_pos hRight]
    rw [← report.noteAll_fields, ← hType]
    rfl
  rw [← hHear]
  exact congrArg Receiver.readout hRun

end Rmc

------------------------------------------------------------
-- The Display
------------------------------------------------------------

theorem Calendar.atol_text
    (calendar : Calendar) :
    atol calendar.text =
      BitVec.ofNat 32
        (10000 * calendar.day + 100 * calendar.month +
          calendar.year) := by
  have hEnd : ([] : List Byte).takeWhile isDigit = [] := rfl
  have hRead :=
    atol_digits calendar.allDigits_text calendar.text_ne_nil
      (by rw [calendar.number_text]; omega) hEnd
  rw [List.append_nil, calendar.number_text] at hRead
  exact hRead

theorem Clock.parseDecimal_text
    (clock : Clock) :
    parseDecimal clock.text =
      BitVec.ofNat 32
        (100 *
            (10000 * clock.hour + 100 * clock.minute +
              clock.second) +
          scaled 2 clock.fraction) := by
  rw [← clock.number_whole]
  exact
    parseDecimal_pointed clock.allDigits_whole
      clock.fraction_digits clock.whole_ne_nil
      (by rw [clock.number_whole]; omega)

/- A date that is shown is displayed as it was meant. -/
theorem displayDate_calendar
    {date : TinyGPSDate}
    {calendar : Calendar}
    (hShown : date.shown = .fresh (atol calendar.text)) :
    (displayDate date).1 = some calendar.date := by
  have hValid : date.valid = true :=
    congrArg Shown.valid hShown
  have hVal :
      date.val =
        BitVec.ofNat 32
          (10000 * calendar.day + 100 * calendar.month +
            calendar.year) := by
    rw [← calendar.atol_text]
    exact congrArg Shown.val hShown
  have hNat :
      date.val.toNat =
        10000 * calendar.day + 100 * calendar.month +
          calendar.year := by
    rw [hVal, BitVec.toNat_ofNat]
    exact Nat.mod_eq_of_lt (by omega)
  have hDisplay :
      (displayDate date).1 =
        some
          ⟨((date.val / 100) % 100).setWidth 8,
            (date.val / 10000).setWidth 8,
            (date.val % 100).setWidth 16 + 2000⟩ := by
    simp only [displayDate, hValid, if_true]
    rfl
  have hMonth :
      (date.val / 100 % 100).setWidth 8 =
        BitVec.ofNat 8 calendar.month := by
    apply BitVec.eq_of_toNat_eq
    simp [hNat]
    omega
  have hDay :
      (date.val / 10000).setWidth 8 =
        BitVec.ofNat 8 calendar.day := by
    apply BitVec.eq_of_toNat_eq
    simp [hNat]
    omega
  have hYear :
      (date.val % 100).setWidth 16 + 2000 =
        BitVec.ofNat 16 (2000 + calendar.year) := by
    apply BitVec.eq_of_toNat_eq
    simp [hNat]
    omega
  rw [hDisplay, hMonth, hDay, hYear]
  rfl

/- So is a time. -/
theorem displayTime_clock
    {time : TinyGPSTime}
    {clock : Clock}
    (hShown :
      time.shown = .fresh (parseDecimal clock.text)) :
    (displayTime time).1 = some clock.time := by
  have hValid : time.valid = true :=
    congrArg Shown.valid hShown
  have hVal :
      time.val =
        BitVec.ofNat 32
          (100 *
              (10000 * clock.hour + 100 * clock.minute +
                clock.second) +
            scaled 2 clock.fraction) := by
    rw [← clock.parseDecimal_text]
    exact congrArg Shown.val hShown
  have hCentisecond : scaled 2 clock.fraction < 100 :=
    scaled_lt 2 clock.fraction_digits
  have hNat :
      time.val.toNat =
        100 *
            (10000 * clock.hour + 100 * clock.minute +
              clock.second) +
          scaled 2 clock.fraction := by
    rw [hVal, BitVec.toNat_ofNat]
    exact Nat.mod_eq_of_lt (by omega)
  have hDisplay :
      (displayTime time).1 =
        some
          ⟨(time.val / 1000000).setWidth 8,
            (time.val / 10000 % 100).setWidth 8,
            (time.val / 100 % 100).setWidth 8,
            (time.val % 100).setWidth 8⟩ := by
    simp only [displayTime, hValid, if_true]
    rfl
  have hHour :
      (time.val / 1000000).setWidth 8 =
        BitVec.ofNat 8 clock.hour := by
    apply BitVec.eq_of_toNat_eq
    simp [hNat]
    omega
  have hMinute :
      (time.val / 10000 % 100).setWidth 8 =
        BitVec.ofNat 8 clock.minute := by
    apply BitVec.eq_of_toNat_eq
    simp [hNat]
    omega
  have hSecond :
      (time.val / 100 % 100).setWidth 8 =
        BitVec.ofNat 8 clock.second := by
    apply BitVec.eq_of_toNat_eq
    simp [hNat]
    omega
  have hLast :
      (time.val % 100).setWidth 8 =
        BitVec.ofNat 8 (scaled 2 clock.fraction) := by
    apply BitVec.eq_of_toNat_eq
    simp [hNat]
    omega
  rw [hDisplay, hHour, hMinute, hSecond, hLast]
  rfl

/-
  A report of a fix, whatever the parser has heard before:
  the sketch has its date and time as they were meant, and
  for its coordinates what `lat` and `lng` make, in any
  arithmetic, of raw degrees less than a billionth off.
-/
theorem rmc_displayed
    (Double : Type)
    [NatCast Double] [Add Double]
    [Div Double] [Neg Double]
    (gps : TinyGPSPlus)
    (report : Rmc) :
    let parsed := feed gps report.sentence.bytes
    ∃ lat lng : RawDegrees,
      (displayInfo Double parsed).1 =
          .coordinates lat.value lng.value
            (some report.calendar.date)
            (some report.clock.time) ∧
        |(lat.value : ℚ) - report.latitude.exact| *
            10 ^ 9 ≤ 1 / 3 ∧
        |(lng.value : ℚ) - report.longitude.exact| *
            10 ^ 9 ≤ 1 / 3 ∧
        parsed.speed.val =
          BitVec.ofNat 32 report.speed.hundredths ∧
        parsed.course.val =
          BitVec.ofNat 32 report.course.hundredths := by
  intro parsed
  have hReadout := report.readout_sentence gps
  have hLocation :
      parsed.location.shown =
        .fresh
          (report.latitude.raw, report.longitude.raw) :=
    congrArg Readout.location hReadout
  have hDate :
      parsed.date.shown =
        .fresh (atol report.calendar.text) :=
    congrArg Readout.date hReadout
  have hTime :
      parsed.time.shown =
        .fresh (parseDecimal report.clock.text) :=
    congrArg Readout.time hReadout
  have hSpeed :
      parsed.speed.shown =
        .fresh (parseDecimal report.speed.text) :=
    congrArg Readout.speed hReadout
  have hCourse :
      parsed.course.shown =
        .fresh (parseDecimal report.course.text) :=
    congrArg Readout.course hReadout
  refine
    ⟨report.latitude.raw, report.longitude.raw,
      ?_, report.latitude.value_near (by omega),
      report.longitude.value_near (by omega), ?_, ?_⟩
  · have hValid : parsed.location.valid = true :=
      congrArg Shown.valid hLocation
    have hUpdated : parsed.location.updated = true :=
      congrArg Shown.updated hLocation
    have hPair := congrArg Shown.val hLocation
    have hLat :
        parsed.location.rawLatData = report.latitude.raw :=
      congrArg Prod.fst hPair
    have hLng :
        parsed.location.rawLngData = report.longitude.raw :=
      congrArg Prod.snd hPair
    have hInfo :
        (displayInfo Double parsed).1 =
          .coordinates parsed.location.rawLatData.value
            parsed.location.rawLngData.value
            (displayDate parsed.date).1
            (displayTime parsed.time).1 := by
      simp only [displayInfo, hValid, hUpdated, if_true]
      rfl
    rw [hInfo, hLat, hLng, displayDate_calendar hDate,
      displayTime_clock hTime]
  · rw [← report.speed.parseDecimal_text]
    exact congrArg Shown.val hSpeed
  · rw [← report.course.parseDecimal_text]
    exact congrArg Shown.val hCourse

/- The fix of the first sample sentence. -/
def sampleReport : Rmc :=
  { otherSystems := false
    clock := ⟨4, 51, 3, literal "000", by decide, by decide⟩
    latitude :=
      ⟨30, 14, literal "1984", by decide, by decide, false⟩
    longitude :=
      ⟨97, 49, literal "2872", by decide, by decide, true⟩
    speed :=
      ⟨literal "0", literal "67", by decide, by decide,
        by decide, by decide, by decide⟩
    course :=
      ⟨literal "161", literal "46", by decide, by decide,
        by decide, by decide, by decide⟩
    calendar := ⟨3, 9, 13⟩
    rest := [[], [], literal "A"]
    rest_short := by decide
    rest_ordinary := by decide }

example : sampleReport.sentence.bytes = sampleRmc.bytes := by
  decide +kernel

end Gps

end LoRaTelemetry
