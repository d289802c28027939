import Mathlib.Data.List.Basic

/-
  Texts as lists of characters: numbers in decimal, and
  pieces set apart by a separator that occurs in none.

  Main declarations:
    * `Texts.decimal`
    * `Texts.parse?_decimal`
    * `Texts.Plain`
    * `Texts.splitOn_pieces`
-/

------------------------------------------------------------
-- Decimal Numbers
------------------------------------------------------------

namespace Texts

/- A natural number in decimal. -/
def decimalNat (value : Nat) : List Char :=
  Nat.toDigits 10 value

/- An integer in decimal, with a sign if it is negative. -/
def decimal : Int → List Char
| .ofNat value => decimalNat value
| .negSucc value => '-' :: decimalNat (value + 1)

/- The number that a nonempty row of digits shows. -/
def parseNat? (text : List Char) : Option Nat :=
  if text ≠ [] ∧ text.all Char.isDigit then
    some (Nat.ofDigitChars 10 text 0)
  else
    none

/- The number that such a row with an optional sign shows. -/
def parse? : List Char → Option Int
| '-' :: text =>
    (parseNat? text).map fun value => -(value : Int)
| text => (parseNat? text).map fun value => (value : Int)

theorem isDigit_of_mem_decimalNat
    {value : Nat}
    {character : Char}
    (hMember : character ∈ decimalNat value) :
    character.isDigit = true := by
  exact
    Nat.isDigit_of_mem_toDigits (by decide) (by decide)
      hMember

theorem decimalNat_ne_nil
    (value : Nat) :
    decimalNat value ≠ [] := by
  exact Nat.toDigits_ne_nil

theorem parseNat?_decimalNat
    (value : Nat) :
    parseNat? (decimalNat value) = some value := by
  have hDigits :
      (decimalNat value).all Char.isDigit = true := by
    rw [List.all_eq_true]
    exact fun _ hMember => isDigit_of_mem_decimalNat hMember
  rw [parseNat?, if_pos ⟨decimalNat_ne_nil value, hDigits⟩]
  exact congrArg some Nat.ofDigitChars_ten_toDigits

/- Without a sign, only the digits matter. -/
theorem parse?_of_digit
    {text : List Char}
    (hDigits :
      ∀ character ∈ text, character.isDigit = true) :
    parse? text =
      (parseNat? text).map fun value => (value : Int) := by
  cases text with
  | nil => rfl
  | cons first rest =>
      have hFirst : first ≠ '-' := by
        intro hSign
        have hDigit :=
          hDigits first List.mem_cons_self
        rw [hSign] at hDigit
        exact absurd hDigit (by decide)
      unfold parse?
      split
      · rename_i hSame
        exact absurd (List.cons.inj hSame).1 hFirst
      · rfl

/- Reading a number back from its decimal text. -/
theorem parse?_decimal
    (value : Int) :
    parse? (decimal value) = some value := by
  cases value with
  | ofNat value =>
      have hDigits :
          ∀ character ∈ decimalNat value,
            character.isDigit = true := by
        exact fun _ hMember =>
          isDigit_of_mem_decimalNat hMember
      rw [decimal, parse?_of_digit hDigits,
        parseNat?_decimalNat]
      rfl
  | negSucc value =>
      rw [decimal, parse?, parseNat?_decimalNat]
      rfl

theorem decimal_ne_nil
    (value : Int) :
    decimal value ≠ [] := by
  cases value with
  | ofNat value => exact decimalNat_ne_nil value
  | negSucc value => exact List.cons_ne_nil _ _

------------------------------------------------------------
-- Plain Texts
------------------------------------------------------------

/- Digits, letters, signs and points. -/
def isPlain (character : Char) : Bool :=
  character.isDigit || character.isAlpha ||
    character == '-' || character == '.'

/- A text of plain characters only. -/
def Plain (text : List Char) : Prop :=
  ∀ character ∈ text, isPlain character = true

/- One character after another, not all that there are. -/
instance (text : List Char) : Decidable (Plain text) :=
  List.decidableBAll
    (fun character => isPlain character = true) text

theorem plain_decimalNat
    (value : Nat) :
    Plain (decimalNat value) := by
  intro character hMember
  simp [isPlain, isDigit_of_mem_decimalNat hMember]

theorem plain_decimal
    (value : Int) :
    Plain (decimal value) := by
  cases value with
  | ofNat value => exact plain_decimalNat value
  | negSucc value =>
      intro character hMember
      rcases List.mem_cons.mp hMember with rfl | hRest
      · decide
      · exact plain_decimalNat _ character hRest

/- A character that is not plain occurs in no such text. -/
theorem Plain.not_mem
    {text : List Char}
    (hPlain : Plain text)
    {separator : Char}
    (hSeparator : isPlain separator = false) :
    separator ∉ text := by
  intro hMember
  rw [hPlain separator hMember] at hSeparator
  cases hSeparator

------------------------------------------------------------
-- Pieces and Separators
------------------------------------------------------------

/- Pieces that each follow a separator are split apart. -/
theorem splitOn_pieces
    {separator : Char}
    {first : List Char}
    {pieces : List (List Char)}
    (hFirst : separator ∉ first)
    (hPieces : ∀ piece ∈ pieces, separator ∉ piece) :
    (first ++ pieces.flatMap fun piece =>
        separator :: piece).splitOn separator =
      first :: pieces := by
  induction pieces generalizing first with
  | nil =>
      rw [List.flatMap_nil, List.append_nil,
        List.splitOn_eq_singleton hFirst]
  | cons second pieces ih =>
      have hSecond := hPieces second List.mem_cons_self
      have hRest :
          ∀ piece ∈ pieces, separator ∉ piece := by
        intro piece hPiece
        exact hPieces piece (List.mem_cons_of_mem _ hPiece)
      rw [List.flatMap_cons, List.cons_append,
        List.splitOn_append_cons_self_of_not_mem hFirst,
        ih hSecond hRest]

/- Two texts set apart by one separator. -/
theorem splitOn_pair
    {separator : Char}
    {first second : List Char}
    (hFirst : separator ∉ first)
    (hSecond : separator ∉ second) :
    (first ++ separator :: second).splitOn separator =
      [first, second] := by
  rw [List.splitOn_append_cons_self_of_not_mem hFirst,
    List.splitOn_eq_singleton hSecond]

end Texts
