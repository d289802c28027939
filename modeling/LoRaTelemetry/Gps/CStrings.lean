import LoRaTelemetry.Wire.StructMessage

/-
  The C library functions on which the GPS parser rests. A C
  string is the list of its bytes before the terminating
  zero; a `char` is unsigned and a `long` has 32 bits.

  Main declarations:
    * `Gps.ascii`
    * `Gps.cString`
    * `Gps.atol`
-/

------------------------------------------------------------
-- Characters
------------------------------------------------------------

namespace LoRaTelemetry

namespace Gps

/- A character constant. -/
def ascii (character : Char) : Byte :=
  BitVec.ofNat 8 character.toNat

/- A string constant. -/
def literal (text : String) : List Byte :=
  text.toList.map ascii

def isDigit (c : Byte) : Bool :=
  ascii '0' ≤ c && c ≤ ascii '9'

/- Blank, or one of tab, newline and the like. -/
def isSpace (c : Byte) : Bool :=
  c == ascii ' ' || (9 ≤ c && c ≤ 13)

def digitValue (c : Byte) : Nat :=
  c.toNat - (ascii '0').toNat

------------------------------------------------------------
-- Strings
------------------------------------------------------------

/- The string that starts at a piece of memory. -/
def cString (memory : List Byte) : List Byte :=
  memory.takeWhile (fun c => c ≠ 0)

/- The number that the digits at the front of a text spell. -/
def leadingNumber (text : List Byte) : Nat :=
  (text.takeWhile isDigit).foldl
    (fun value c => 10 * value + digitValue c) 0

/- A `long`; numbers out of range become its bounds. -/
def saturated (value : Int) : CLong :=
  BitVec.ofInt 32 (max (-2 ^ 31) (min value (2 ^ 31 - 1)))

def atol (text : List Byte) : CLong :=
  match text.dropWhile isSpace with
  | [] => 0
  | first :: rest =>
      if first = ascii '-' then
        saturated (-leadingNumber rest)
      else if first = ascii '+' then
        saturated (leadingNumber rest)
      else
        saturated (leadingNumber (first :: rest))

/- A string ends before any zero in the memory. -/
theorem cString_eq_take
    {memory : List Byte}
    {stop : Nat}
    (hStop : memory[stop]? = some 0) :
    cString memory = cString (memory.take stop) := by
  induction memory generalizing stop with
  | nil => simp at hStop
  | cons c memory ih =>
      cases stop with
      | zero =>
          rw [List.getElem?_cons_zero, Option.some_inj]
            at hStop
          simp [cString, hStop]
      | succ stop =>
          rw [List.getElem?_cons_succ] at hStop
          have hRest := ih hStop
          unfold cString at hRest ⊢
          rw [List.take_succ_cons, List.takeWhile_cons,
            List.takeWhile_cons, hRest]

theorem length_cString_le
    (memory : List Byte) :
    (cString memory).length ≤ memory.length := by
  exact (List.takeWhile_sublist _).length_le

end Gps

end LoRaTelemetry
