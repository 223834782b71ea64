import Mathlib.Tactic.NormNum
import Mathlib.Tactic.Ring
import PrintParts.Proofs.Number.Reading

/-!
Decimal texts as the library writes them, read back: the digits are the mantissa, and the place of the
first one gives the exponent, whether the text is positional or has an exponent of its own.
-/

namespace PrintParts

/-- An unsigned decimal text and the number that it stands for. -/
structure DecimalOf (chars : List Char) (value : ℚ) : Prop where
  written : InNumberChars chars
  opens : ∃ first rest, chars = first :: rest ∧ first.isDigit = true
  reads : ∃ mantissa exponent, Numeral.readDecimal? chars = some (mantissa, exponent) ∧
    (mantissa : ℚ) * 10 ^ exponent = value

theorem take_sign_of_digit {first : Char} (digit : first.isDigit = true) (rest : List Char) :
    takeSign (first :: rest) = (false, first :: rest) := by
  refine take_sign_other ?_ ?_ rest <;> rintro rfl <;> cases digit

theorem to_lower_of_digit {char : Char} (digit : char.isDigit = true) : char.toLower = char := by
  have range := digit_range digit
  unfold Char.toLower
  rw [dif_neg]
  intro upper
  have above : 65 ≤ char.toNat := UInt32.le_iff_toNat_le.mp upper.1
  omega

namespace DecimalOf

variable {chars : List Char} {value : ℚ}

theorem read_unsigned (decimal : DecimalOf chars value) :
    ∃ (mantissa : Nat) (exponent : Int), (mantissa : ℚ) * 10 ^ exponent = value ∧ ∀ negative,
      Numeral.read? (Binary64.writeSign negative chars) =
        some (.decimal negative mantissa exponent) := by
  obtain ⟨first, rest, rfl, digit⟩ := decimal.opens
  obtain ⟨mantissa, exponent, reads, same⟩ := decimal.reads
  refine ⟨mantissa, exponent, same, fun negative => ?_⟩
  have written : InNumberChars (Binary64.writeSign negative (first :: rest)) := by
    cases negative with
    | false => exact decimal.written
    | true => exact decimal.written.cons (by decide)
  have sign : takeSign (Binary64.writeSign negative (first :: rest)) = (negative, first :: rest) := by
    cases negative with
    | false => exact take_sign_of_digit digit rest
    | true => rfl
  have other : ∀ letter word, letter.isDigit = false →
      (first :: rest).map Char.toLower ≠ letter :: word := by
    intro letter word lettered same
    rw [List.map_cons, to_lower_of_digit digit] at same
    rw [(List.cons.inj same).1, lettered] at digit
    cases digit
  simp only [Numeral.read?, written.join_digits, Option.bind_eq_bind, Option.bind_some, sign]
  rw [if_neg (other 'n' _ rfl), if_neg (not_or.mpr ⟨other 'i' _ rfl, other 'i' _ rfl⟩), reads]
  rfl

theorem exact_signed (decimal : DecimalOf chars value) (negative : Bool) :
    (Text.ofChars (Binary64.writeSign negative chars)).rational? =
      some (if negative then -value else value) := by
  obtain ⟨mantissa, exponent, rfl, reads⟩ := decimal.read_unsigned
  have written : InNumberChars (Binary64.writeSign negative chars) := by
    cases negative with
    | false => exact decimal.written
    | true => exact decimal.written.cons (by decide)
  rw [Text.rational?, written.numeral, reads, Option.bind_some, Numeral.rational?]
  cases negative with
  | false => simp
  | true => simp

end DecimalOf

def EndsDigits (tail : List Char) : Prop := ∀ char ∈ tail.head?, char.isDigit = false ∧ char ≠ '.'

theorem take_digits {whole tail : List Char} (digits : ∀ char ∈ whole, char.isDigit = true)
    (ends : ∀ char ∈ tail.head?, char.isDigit = false) :
    (whole ++ tail).takeWhile Char.isDigit = whole ∧
      (whole ++ tail).dropWhile Char.isDigit = tail := by
  rw [List.takeWhile_append_of_pos digits, List.dropWhile_append_of_pos digits]
  cases tail with
  | nil => simp
  | cons first rest =>
    have solid := ends first rfl
    simp [solid]

namespace Numeral

theorem read_decimal_whole {whole tail : List Char} {exponent : Int} (nonempty : whole ≠ [])
    (digits : ∀ char ∈ whole, char.isDigit = true) (ends : EndsDigits tail)
    (reads : readExponent? tail = some exponent) :
    readDecimal? (whole ++ tail) = some (Nat.ofDigitChars 10 whole 0, exponent) := by
  obtain ⟨taken, dropped⟩ := take_digits digits fun char first => (ends char first).1
  simp only [readDecimal?, taken, dropped]
  split
  · exact absurd rfl (ends '.' rfl).2
  · simp [nonempty, reads]

theorem read_decimal_point {whole fraction tail : List Char} {exponent : Int} (nonempty : whole ≠ [])
    (digits : ∀ char ∈ whole, char.isDigit = true)
    (places : ∀ char ∈ fraction, char.isDigit = true) (ends : EndsDigits tail)
    (reads : readExponent? tail = some exponent) :
    readDecimal? (whole ++ '.' :: (fraction ++ tail)) =
      some (Nat.ofDigitChars 10 (whole ++ fraction) 0, exponent - fraction.length) := by
  obtain ⟨taken, dropped⟩ := @take_digits whole ('.' :: (fraction ++ tail)) digits (by
    intro char first
    cases first
    rfl)
  obtain ⟨takenFraction, droppedFraction⟩ := take_digits places fun char first => (ends char first).1
  simp only [readDecimal?, taken, dropped, takenFraction, droppedFraction]
  simp [nonempty, reads]

theorem read_exponent_write (place : Int) : readExponent? (writeExponent place) = some place := by
  have digits : ∀ char ∈ Nat.toDigits 10 place.natAbs, char.isDigit = true := fun char member =>
    Nat.isDigit_of_mem_toDigits (by decide) (by decide) member
  have reads : readDigits? (if (Nat.toDigits 10 place.natAbs).length < 2 then
      '0' :: Nat.toDigits 10 place.natAbs else Nat.toDigits 10 place.natAbs) =
      some place.natAbs := by
    unfold readDigits?
    split
    · have padded : Nat.ofDigitChars 10 ('0' :: Nat.toDigits 10 place.natAbs) 0 = place.natAbs := by
        rw [Nat.ofDigitChars_cons]
        exact Nat.ofDigitChars_ten_toDigits
      rw [if_pos, padded]
      refine ⟨List.cons_ne_nil _ _, ?_⟩
      rw [List.all_cons, List.all_eq_true.mpr digits]
      rfl
    · rw [if_pos, Nat.ofDigitChars_ten_toDigits]
      exact ⟨Nat.toDigits_ne_nil, List.all_eq_true.mpr digits⟩
  have signed : ∀ rest, takeSign ((if place < 0 then '-' else '+') :: rest) =
      (decide (place < 0), rest) := by
    intro rest
    by_cases negative : place < 0
    · simp [negative, takeSign]
    · simp [negative, takeSign]
  simp only [readExponent?, writeExponent, true_or, if_true, signed, reads, Option.bind_eq_bind,
    Option.bind_some, Option.pure_def, Option.map_some, decide_eq_true_eq, Option.some.injEq]
  split
  · omega
  · omega

theorem ends_digits_exponent (place : Int) : EndsDigits (writeExponent place) := by
  intro char first
  cases first
  exact ⟨rfl, by decide⟩

theorem number_chars_exponent (place : Int) : InNumberChars (writeExponent place) := by
  have digits : InNumberChars (Nat.toDigits 10 place.natAbs) := InNumberChars.of_digits
    fun char member => Nat.isDigit_of_mem_toDigits (by decide) (by decide) member
  unfold writeExponent
  refine InNumberChars.cons (by decide) (InNumberChars.cons ?_ ?_)
  · split <;> decide
  · split
    · exact digits.cons (by decide)
    · exact digits

end Numeral

/-- The number with these digits, the first of which stands at a place. -/
def placed (digits : List Char) (place : Int) : ℚ :=
  Nat.ofDigitChars 10 digits 0 * 10 ^ (place + 1 - digits.length)

namespace DecimalOf

theorem of_whole {whole tail : List Char} {exponent : Int} (nonempty : whole ≠ [])
    (digits : ∀ char ∈ whole, char.isDigit = true) (written : InNumberChars tail)
    (ends : EndsDigits tail) (reads : Numeral.readExponent? tail = some exponent) :
    DecimalOf (whole ++ tail) (Nat.ofDigitChars 10 whole 0 * 10 ^ exponent) where
  written := (InNumberChars.of_digits digits).append written
  opens := by
    obtain ⟨first, rest, rfl⟩ := List.exists_cons_of_ne_nil nonempty
    exact ⟨first, rest ++ tail, rfl, digits first List.mem_cons_self⟩
  reads := ⟨_, _, Numeral.read_decimal_whole nonempty digits ends reads, rfl⟩

theorem of_point {whole fraction tail : List Char} {exponent : Int} (nonempty : whole ≠ [])
    (digits : ∀ char ∈ whole, char.isDigit = true)
    (places : ∀ char ∈ fraction, char.isDigit = true) (written : InNumberChars tail)
    (ends : EndsDigits tail) (reads : Numeral.readExponent? tail = some exponent) :
    DecimalOf (whole ++ '.' :: (fraction ++ tail))
      (Nat.ofDigitChars 10 (whole ++ fraction) 0 * 10 ^ (exponent - fraction.length)) where
  written := (InNumberChars.of_digits digits).append
    (((InNumberChars.of_digits places).append written).cons (by decide))
  opens := by
    obtain ⟨first, rest, rfl⟩ := List.exists_cons_of_ne_nil nonempty
    exact ⟨first, rest ++ '.' :: (fraction ++ tail), rfl, digits first List.mem_cons_self⟩
  reads := ⟨_, _, Numeral.read_decimal_point nonempty digits places ends reads, rfl⟩

theorem of_digits {digits : List Char} (nonempty : digits ≠ [])
    (plain : ∀ char ∈ digits, char.isDigit = true) :
    DecimalOf digits (Nat.ofDigitChars 10 digits 0) := by
  have whole := @of_whole digits [] 0 nonempty plain (fun _ member => nomatch member)
    (fun _ first => nomatch first) rfl
  rw [List.append_nil, zpow_zero, mul_one] at whole
  exact whole

end DecimalOf

theorem digits_zeros {digits : List Char} (plain : ∀ char ∈ digits, char.isDigit = true)
    (zeros : Nat) : ∀ char ∈ digits ++ List.replicate zeros '0', char.isDigit = true := by
  intro char member
  rcases List.mem_append.mp member with digit | padding
  · exact plain char digit
  · rw [List.eq_of_mem_replicate padding]
    rfl

theorem zeros_digits {digits : List Char} (plain : ∀ char ∈ digits, char.isDigit = true)
    (zeros : Nat) : ∀ char ∈ List.replicate zeros '0' ++ digits, char.isDigit = true := by
  intro char member
  apply digits_zeros plain zeros
  exact List.mem_append.mpr (List.mem_append.mp member).symm

namespace DecimalStyle

variable {digits : List Char} {place : Int}

/-- Below one: a zero in front of the point, and zeros behind it down to the first digit. -/
theorem decimal_below_one (plain : ∀ char ∈ digits, char.isDigit = true) (below : place < 0) :
    DecimalOf ('0' :: '.' :: (List.replicate (-place - 1).toNat '0' ++ digits))
      (placed digits place) := by
  have zeros := zeros_digits plain (-place - 1).toNat
  have decimal := @DecimalOf.of_point ['0'] (List.replicate (-place - 1).toNat '0' ++ digits) [] 0
    (by decide) (List.forall_mem_singleton.mpr rfl) zeros (fun _ member => nomatch member)
    (fun _ first => nomatch first) rfl
  have mantissa : Nat.ofDigitChars 10 (['0'] ++ (List.replicate (-place - 1).toNat '0' ++ digits)) 0 =
      Nat.ofDigitChars 10 digits 0 := by
    rw [Nat.ofDigitChars_append, Nat.ofDigitChars_append]
    simp [Nat.ofDigitChars_cons]
  have exponent : (0 : Int) - (List.replicate (-place - 1).toNat '0' ++ digits).length =
      place + 1 - digits.length := by
    rw [List.length_append, List.length_replicate]
    omega
  rw [mantissa, exponent, List.append_nil] at decimal
  exact decimal

theorem decimal_whole (nonempty : digits ≠ []) (plain : ∀ char ∈ digits, char.isDigit = true)
    (within : (digits.length : Int) ≤ place + 1) :
    DecimalOf (digits ++ List.replicate (place.toNat + 1 - digits.length) '0')
        (placed digits place) ∧
      DecimalOf (digits ++ List.replicate (place.toNat + 1 - digits.length) '0' ++ ['.', '0'])
        (placed digits place) := by
  have positive : 0 < digits.length := List.length_pos_iff.mpr nonempty
  generalize count : place.toNat + 1 - digits.length = zeros
  have padded := digits_zeros plain zeros
  have solid : digits ++ List.replicate zeros '0' ≠ [] := by simp [nonempty]
  have mantissa : Nat.ofDigitChars 10 (digits ++ List.replicate zeros '0') 0 =
      10 ^ zeros * Nat.ofDigitChars 10 digits 0 := by
    rw [Nat.ofDigitChars_append, Nat.ofDigitChars_replicate_zero]
  have exponent : place + 1 - digits.length = (zeros : Int) := by omega
  have value : placed digits place =
      (Nat.ofDigitChars 10 (digits ++ List.replicate zeros '0') 0 : ℚ) := by
    rw [placed, exponent, mantissa, zpow_natCast]
    push_cast
    ring
  constructor
  · rw [value]
    exact DecimalOf.of_digits solid padded
  · have pointed := @DecimalOf.of_point _ ['0'] [] 0 solid padded (List.forall_mem_singleton.mpr rfl)
      (fun _ member => nomatch member) (fun _ first => nomatch first) rfl
    have shifted : (Nat.ofDigitChars 10 (digits ++ List.replicate zeros '0' ++ ['0']) 0 : ℚ) *
        10 ^ ((0 : Int) - (['0'] : List Char).length) = placed digits place := by
      rw [value, Nat.ofDigitChars_append, Nat.ofDigitChars_cons, Nat.ofDigitChars_nil]
      norm_num
      ring
    rw [shifted] at pointed
    exact pointed

theorem decimal_write (style : DecimalStyle) (nonempty : digits ≠ [])
    (plain : ∀ char ∈ digits, char.isDigit = true) :
    DecimalOf (style.write digits place) (placed digits place) := by
  unfold write
  split
  · split
    · rename_i below
      exact decimal_below_one plain below
    · rename_i above
      dsimp only
      split
      · rename_i short
        have within := List.drop_eq_nil_iff.mp short
        rw [List.take_of_length_le within]
        obtain ⟨whole, pointed⟩ := @decimal_whole digits place nonempty plain (by omega)
        split
        · exact pointed
        · exact whole
      · rename_i fraction long
        have beyond : place.toNat + 1 < digits.length := by
          by_contra short
          exact long (List.drop_of_length_le (by omega))
        have parts := List.take_append_drop (place.toNat + 1) digits
        have decimal := @DecimalOf.of_point (digits.take (place.toNat + 1))
          (digits.drop (place.toNat + 1)) [] 0
          (by
            rw [ne_eq, List.take_eq_nil_iff]
            simp [nonempty])
          (fun char member => plain char (List.mem_of_mem_take member))
          (fun char member => plain char (List.mem_of_mem_drop member))
          (fun _ member => nomatch member) (fun _ first => nomatch first) rfl
        have exponent : (0 : Int) - (digits.drop (place.toNat + 1)).length =
            place + 1 - digits.length := by
          rw [List.length_drop]
          omega
        rw [parts, exponent, List.append_nil] at decimal
        rw [show place.toNat + 1 - digits.length = 0 by omega, List.replicate_zero, List.append_nil]
        exact decimal
  · have ends := Numeral.ends_digits_exponent place
    have written := Numeral.number_chars_exponent place
    have reads := Numeral.read_exponent_write place
    split
    · exact absurd rfl nonempty
    · rename_i digit
      have decimal := DecimalOf.of_whole nonempty plain written ends reads
      rw [placed, show place + 1 - (([digit] : List Char).length : Int) = place by simp]
      exact decimal
    · rename_i digit fraction long
      have decimal := @DecimalOf.of_point [digit] fraction _ place (by simp)
        (fun char member => plain char (by simp [List.mem_singleton.mp member]))
        (fun char member => plain char (List.mem_cons_of_mem _ member)) written ends reads
      have exponent : place - fraction.length = place + 1 - (digit :: fraction).length := by
        rw [List.length_cons]
        omega
      rw [exponent] at decimal
      exact decimal

end DecimalStyle

end PrintParts
