import LoRaTelemetry.Gps.Scanner

/-
  The location commits of a byte stream.

  A byte commits the location when `encode` calls the
  location's `commit` on it. The commits of a chunk depend on
  the stream before it, and not on how that was divided.

  Main declarations:
    * `Gps.Commits`
    * `Gps.parser`
    * `Gps.commits`
    * `Gps.commitsDuring`
    * `Gps.encode_commit`
    * `Gps.encode_keeps`
-/

------------------------------------------------------------
-- Commits
------------------------------------------------------------

namespace LoRaTelemetry

namespace Gps

variable {Double : Type}
variable [NatCast Double] [Add Double]
variable [Div Double] [Neg Double]
variable (gps : TinyGPSPlus)

/- The coordinates that the location shows. -/
def TinyGPSLocation.position
    (location : TinyGPSLocation) : Double × Double :=
  (location.rawLatData.value, location.rawLngData.value)

/- The byte makes the parser commit the location. -/
def Commits (c : Byte) : Prop :=
  gps.parsing.call? c = some .commit

instance (c : Byte) : Decidable (Commits gps c) := by
  unfold Commits
  infer_instance

variable (Double)

/- The parser, with the coordinates of each commit. -/
def parser : Machine TinyGPSPlus Byte (Double × Double) :=
  { init := TinyGPSPlus.construct {}
    step := fun gps c => (encode gps c).2
    emit := fun gps c =>
      if Commits gps c then
        [(encode gps c).2.location.position]
      else
        [] }

@[simp] theorem parser_runFrom
    (bytes : List Byte) :
    (parser Double).runFrom gps bytes = feed gps bytes := by
  rfl

/- The coordinates committed in a stream, in order. -/
def commits (stream : List Byte) : List (Double × Double) :=
  (parser Double).trace stream

/- Those committed in a chunk that follows a stream. -/
def commitsDuring
    (stream chunk : List Byte) : List (Double × Double) :=
  (parser Double).traceFrom ((parser Double).run stream) chunk

theorem commits_append
    (stream chunk : List Byte) :
    commits Double (stream ++ chunk) =
      commits Double stream ++
        commitsDuring Double stream chunk := by
  exact (parser Double).trace_append stream chunk

------------------------------------------------------------
-- What a Byte Does to the Location
------------------------------------------------------------

/- A byte that commits shows the new data, and says so. -/
theorem encode_commit
    {gps : TinyGPSPlus}
    {c : Byte}
    (hCommits : Commits gps c) :
    (encode gps c).2.location = gps.location.commit := by
  rw [encode_location, hCommits]
  rfl

/- Other calls change the data still to be committed. -/
theorem TinyGPSLocation.perform_keeps
    (location : TinyGPSLocation)
    {call : LocationCall}
    (hOther : call ≠ .commit) :
    (location.perform call).valid = location.valid ∧
      (location.perform call).updated = location.updated ∧
      (location.perform call).rawLatData =
        location.rawLatData ∧
      (location.perform call).rawLngData =
        location.rawLngData := by
  cases call with
  | commit => exact absurd rfl hOther
  | _ => exact ⟨rfl, rfl, rfl, rfl⟩

theorem encode_keeps
    {gps : TinyGPSPlus}
    {c : Byte}
    (hCommits : ¬ Commits gps c) :
    (encode gps c).2.location.valid =
        gps.location.valid ∧
      (encode gps c).2.location.updated =
        gps.location.updated ∧
      (encode gps c).2.location.rawLatData =
        gps.location.rawLatData ∧
      (encode gps c).2.location.rawLngData =
        gps.location.rawLngData := by
  rw [encode_location]
  cases hCall : gps.parsing.call? c with
  | none => exact ⟨rfl, rfl, rfl, rfl⟩
  | some call =>
      apply gps.location.perform_keeps
      rintro rfl
      exact hCommits hCall

end Gps

end LoRaTelemetry
