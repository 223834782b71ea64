import Mathlib.Algebra.Order.Field.Rat
import Mathlib.Data.List.TakeWhile
import PrintParts.Text.Number

/-!
What a number text says before anything is rounded: an exact decimal. A text in plain number characters
is read as it stands, as it has neither blanks nor underscores nor digits of other scripts.
-/

namespace PrintParts

/-- The rational number that a numeral says; the words for infinity and NaN say none. -/
def Numeral.rational? : Numeral → Option ℚ
  | .decimal negative mantissa exponent =>
    some ((if negative then -1 else 1) * (mantissa * 10 ^ exponent))
  | _ => none

namespace Text

def numeral? (text : Text) : Option Numeral :=
  let chars := text.asciiForm.dropWhile isNumberBlank
  Numeral.read? (chars.reverse.dropWhile isNumberBlank).reverse

def rational? (text : Text) : Option ℚ := text.numeral?.bind Numeral.rational?

end Text

theorem Binary64.of_text_eq_rounded (text : Text) :
    ofText? text = text.numeral?.map Numeral.toBinary64 := by
  rw [Option.map_eq_bind]
  rfl

/-- What the library writes numbers with. -/
def isNumberChar (char : Char) : Bool :=
  char.isDigit || ['+', '-', '.', 'a', 'e', 'f', 'i', 'n'].contains char

theorem number_char_cases {char : Char} (written : isNumberChar char = true) :
    char.isDigit = true ∨ char ∈ ['+', '-', '.', 'a', 'e', 'f', 'i', 'n'] := by
  simpa only [isNumberChar, Bool.or_eq_true, List.contains_iff_mem] using written

theorem digit_range {char : Char} (digit : char.isDigit = true) :
    48 ≤ char.toNat ∧ char.toNat ≤ 57 := by
  simp only [Char.isDigit, Bool.and_eq_true, decide_eq_true_eq, ge_iff_le, UInt32.le_iff_toNat_le]
    at digit
  exact digit

theorem to_upper_of_digit {char : Char} (digit : char.isDigit = true) : char.toUpper = char := by
  have range := digit_range digit
  unfold Char.toUpper
  rw [dif_neg]
  intro lower
  have above : 97 ≤ char.toNat := UInt32.le_iff_toNat_le.mp lower.1
  omega

theorem number_char_range {char : Char} (written : isNumberChar char = true) :
    32 < char.toNat ∧ char.toNat < 128 ∧ char.toNat ≠ 95 ∧ char.toNat ≠ 59 := by
  rcases number_char_cases written with digit | sign
  · have range := digit_range digit
    omega
  · simp only [List.mem_cons, List.not_mem_nil, or_false] at sign
    rcases sign with rfl | rfl | rfl | rfl | rfl | rfl | rfl | rfl <;> decide

theorem number_char_not_blank {char : Char} (written : isNumberChar char = true) :
    isNumberBlank char = false := by
  have range := number_char_range written
  have other : char ≠ ' ' := by
    rintro rfl
    exact absurd range.1 (by decide)
  simp only [isNumberBlank, Bool.or_eq_false_iff, Bool.and_eq_false_iff, beq_eq_false_iff_ne, ne_eq,
    decide_eq_false_iff_not]
  exact ⟨other, .inr (by omega)⟩

theorem take_sign_other {char : Char} (minus : char ≠ '-') (plus : char ≠ '+') (chars : List Char) :
    takeSign (char :: chars) = (false, char :: chars) := by
  unfold takeSign
  split
  · rename_i same
    exact absurd (List.cons.inj same).1 minus
  · rename_i same
    exact absurd (List.cons.inj same).1 plus
  · rfl

namespace Numeral

theorem read_decimal_pointless {chars rest : List Char} {first : Char}
    (dropped : chars.dropWhile Char.isDigit = first :: rest) (other : first ≠ '.') :
    readDecimal? chars = if chars.takeWhile Char.isDigit = [] then none
      else (readExponent? (first :: rest)).map fun exponent =>
        (Nat.ofDigitChars 10 (chars.takeWhile Char.isDigit) 0, exponent) := by
  simp only [readDecimal?, dropped]
  split
  · rename_i same
    exact absurd (List.cons.inj same).1 other
  · simp

end Numeral

def InNumberChars (chars : List Char) : Prop := ∀ char ∈ chars, isNumberChar char = true

namespace InNumberChars

variable {chars : List Char}

theorem cons {first : Char} (opens : isNumberChar first = true) (rest : InNumberChars chars) :
    InNumberChars (first :: chars) := by
  intro char member
  rcases List.mem_cons.mp member with rfl | later
  · exact opens
  · exact rest char later

theorem append {others : List Char} (left : InNumberChars chars) (right : InNumberChars others) :
    InNumberChars (chars ++ others) := by
  intro char member
  rcases List.mem_append.mp member with first | second
  · exact left char first
  · exact right char second

theorem of_digits (digits : ∀ char ∈ chars, char.isDigit = true) : InNumberChars chars := by
  intro char member
  rw [isNumberChar, digits char member, Bool.true_or]

theorem ascii_form (written : InNumberChars chars) : (Text.ofChars chars).asciiForm = chars := by
  induction chars with
  | nil => rfl
  | cons first rest induction =>
    have ascii := (number_char_range (written first List.mem_cons_self)).2.1
    have later := induction fun char member => written char (List.mem_cons_of_mem _ member)
    simp only [Text.ofChars, List.map_cons, Text.asciiForm, Symbol.asciiForm?, if_pos ascii]
    exact congrArg (first :: ·) later

theorem drop_blanks (written : InNumberChars chars) : chars.dropWhile isNumberBlank = chars := by
  cases chars with
  | nil => rfl
  | cons first rest =>
    have solid := number_char_not_blank (written first List.mem_cons_self)
    rw [List.dropWhile_cons_of_neg (by simp [solid])]

theorem numeral (written : InNumberChars chars) :
    (Text.ofChars chars).numeral? = Numeral.read? chars := by
  have backward : InNumberChars chars.reverse := fun char member =>
    written char (List.mem_reverse.mp member)
  simp only [Text.numeral?, written.ascii_form, written.drop_blanks, backward.drop_blanks,
    List.reverse_reverse]

theorem join_digits (written : InNumberChars chars) (afterDigit : Bool) :
    joinDigits afterDigit chars = some chars := by
  induction chars generalizing afterDigit with
  | nil => rfl
  | cons first rest induction =>
    have later := fun after =>
      induction (fun char member => written char (List.mem_cons_of_mem _ member)) after
    have other : first ≠ '_' := by
      rintro rfl
      exact absurd (written '_' List.mem_cons_self) (by decide)
    rw [joinDigits, later, Option.map_some]
    exact other

end InNumberChars

theorem read_integer_of_digits {chars : List Char} (digits : ∀ char ∈ chars, char.isDigit = true)
    (nonempty : chars ≠ []) (short : chars.length ≤ integerDigitLimit) :
    readInteger (Text.ofChars chars) = .value (Nat.ofDigitChars 10 chars 0) := by
  have written := InNumberChars.of_digits digits
  have unsigned : takeSign chars = (false, chars) := by
    cases chars with
    | nil => rfl
    | cons first rest =>
      have digit := digits first List.mem_cons_self
      unfold takeSign
      split
      · exact absurd digit (by simp_all)
      · exact absurd digit (by simp_all)
      · rfl
  have belongs : ∀ char ∈ chars, (char.isDigit || char == '_') = true := fun char member => by
    rw [digits char member, Bool.true_or]
  have run : takeDigitRun? chars = some (chars, []) := by
    rw [takeDigitRun?, List.takeWhile_eq_self_iff.mpr belongs, written.join_digits]
    cases chars with
    | nil => exact absurd rfl nonempty
    | cons first rest => rw [List.dropWhile_eq_nil_iff.mpr belongs]
  rw [readInteger, written.ascii_form, written.drop_blanks, takeInteger?, unsigned]
  simp only [run, Option.map_some, if_neg (Nat.not_lt.mpr short), List.all_nil, if_true]
  rfl

end PrintParts
