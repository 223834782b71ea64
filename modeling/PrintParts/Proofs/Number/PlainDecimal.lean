import PrintParts.Gcode.Command
import PrintParts.Proofs.Number.Recovered

/-!
Numbers of fields that survive. A field that spells a decimal of up to fifteen digits is read as the nearest number
of the format, and that number is written with just those digits: what is taken over from the field and written
again has not drifted.
-/

namespace PrintParts

/-- A decimal without an exponent: a sign or none, digits, and a point with digits behind it or none. One of the
two runs of digits may be empty. -/
structure PlainDecimal where
  /-- Whether the sign, if there is one, is a minus sign. -/
  sign : Option Bool
  whole : List Char
  fraction : Option (List Char)
  digits : ∀ char ∈ whole ++ fraction.getD [], char.isDigit = true
  nonempty : whole ++ fraction.getD [] ≠ []

namespace PlainDecimal

def places (decimal : PlainDecimal) : List Char := decimal.fraction.getD []

def isNegative (decimal : PlainDecimal) : Bool := decimal.sign.getD false

def unsigned (decimal : PlainDecimal) : List Char :=
  decimal.whole ++ decimal.fraction.elim [] ('.' :: ·)

def chars (decimal : PlainDecimal) : List Char :=
  (decimal.sign.elim [] fun negative => [if negative then '-' else '+']) ++ decimal.unsigned

def mantissa (decimal : PlainDecimal) : Nat := Nat.ofDigitChars 10 (decimal.whole ++ decimal.places) 0

def magnitude (decimal : PlainDecimal) : ℚ := decimal.mantissa * 10 ^ (-(decimal.places.length : Int))

def rational (decimal : PlainDecimal) : ℚ :=
  if decimal.isNegative then -decimal.magnitude else decimal.magnitude

/-- How many digits there are from the first to the last one that is not a zero. -/
def significantDigits (decimal : PlainDecimal) : Nat := (trimmedDigits decimal.mantissa).length

variable (decimal : PlainDecimal)

theorem whole_digits : ∀ char ∈ decimal.whole, char.isDigit = true :=
  fun char member => decimal.digits char (List.mem_append_left _ member)

theorem places_digits : ∀ char ∈ decimal.places, char.isDigit = true :=
  fun char member => decimal.digits char (List.mem_append_right _ member)

theorem read_unsigned : Numeral.readDecimal? decimal.unsigned =
    some (decimal.mantissa, -(decimal.places.length : Int)) := by
  obtain ⟨sign, whole, fraction, digits, nonempty⟩ := decimal
  cases fraction with
  | none =>
    rw [Option.getD_none, List.append_nil] at nonempty digits
    have reads := @Numeral.read_decimal_whole whole [] 0 nonempty digits (fun _ first => nomatch first) rfl
    simpa [unsigned, mantissa, places] using reads
  | some fraction =>
    have wholeDigits : ∀ char ∈ whole, char.isDigit = true :=
      fun char member => digits char (List.mem_append_left _ member)
    have fractionDigits : ∀ char ∈ fraction, char.isDigit = true :=
      fun char member => digits char (List.mem_append_right _ member)
    obtain ⟨taken, dropped⟩ := @take_digits whole ('.' :: fraction) wholeDigits (by
      intro char first
      cases first
      rfl)
    have all := List.takeWhile_eq_self_iff.mpr fractionDigits
    have none := List.dropWhile_eq_nil_iff.mpr fractionDigits
    have some : ¬ (whole ++ fraction = []) := nonempty
    simp only [unsigned, mantissa, places, Option.elim_some, Option.getD_some, Numeral.readDecimal?, taken,
      dropped, all, none, if_neg some, Numeral.readExponent?, Option.map_some, zero_sub]

theorem unsigned_opens : ∃ first rest, decimal.unsigned = first :: rest ∧
    (first.isDigit = true ∨ first = '.') := by
  obtain ⟨sign, whole, fraction, digits, nonempty⟩ := decimal
  cases whole with
  | cons first rest => exact ⟨first, _, rfl, .inl (digits first List.mem_cons_self)⟩
  | nil =>
    cases fraction with
    | none => exact absurd rfl nonempty
    | some fraction => exact ⟨'.', fraction, rfl, .inr rfl⟩

theorem number_chars : InNumberChars decimal.chars := by
  have whole := InNumberChars.of_digits decimal.whole_digits
  have places := InNumberChars.of_digits decimal.places_digits
  have unsigned : InNumberChars decimal.unsigned := by
    refine whole.append ?_
    unfold PlainDecimal.places at places
    cases given : decimal.fraction with
    | none => exact fun _ member => nomatch member
    | some fraction =>
      rw [given] at places
      exact places.cons (by decide)
  refine InNumberChars.append ?_ unsigned
  rcases decimal.sign with _ | _ | _
  · exact fun _ member => nomatch member
  · exact List.forall_mem_singleton.mpr (by decide)
  · exact List.forall_mem_singleton.mpr (by decide)

theorem take_sign : takeSign decimal.chars = (decimal.isNegative, decimal.unsigned) := by
  unfold chars isNegative
  rcases decimal.sign with _ | _ | _
  · obtain ⟨first, rest, same, opens⟩ := decimal.unsigned_opens
    rw [same]
    refine take_sign_other ?_ ?_ rest
    · rintro rfl
      rcases opens with digit | point <;> contradiction
    · rintro rfl
      rcases opens with digit | point <;> contradiction
  · rfl
  · rfl

theorem not_a_word (letter : Char) (word : List Char) (isLetter : letter.isDigit = false ∧ letter ≠ '.') :
    decimal.unsigned.map Char.toLower ≠ letter :: word := by
  obtain ⟨first, rest, same, opens⟩ := decimal.unsigned_opens
  rw [same, List.map_cons]
  rintro spells
  obtain ⟨rfl, -⟩ := List.cons.inj spells
  rcases opens with digit | rfl
  · rw [to_lower_of_digit digit, digit] at isLetter
    exact Bool.noConfusion isLetter.1
  · exact isLetter.2 rfl

theorem numeral_of_spelled {text : Text} (spelled : text.asciiForm = decimal.chars) :
    text.numeral? =
      some (.decimal decimal.isNegative decimal.mantissa (-(decimal.places.length : Int))) := by
  have written := decimal.number_chars
  have backward : InNumberChars decimal.chars.reverse := fun char member =>
    written char (List.mem_reverse.mp member)
  have other : ∀ letter word, letter.isDigit = false ∧ letter ≠ '.' →
      decimal.unsigned.map Char.toLower ≠ letter :: word := decimal.not_a_word
  simp only [Text.numeral?, spelled, written.drop_blanks, backward.drop_blanks, List.reverse_reverse,
    Numeral.read?, written.join_digits, Option.bind_eq_bind, Option.bind_some, decimal.take_sign]
  rw [if_neg (other 'n' _ (by decide)), if_neg (not_or.mpr ⟨other 'i' _ (by decide), other 'i' _ (by decide)⟩),
    decimal.read_unsigned]
  rfl

theorem rational_of_spelled {text : Text} (spelled : text.asciiForm = decimal.chars) :
    text.rational? = some decimal.rational := by
  rw [Text.rational?, decimal.numeral_of_spelled spelled, Option.bind_some, Numeral.rational?]
  unfold rational magnitude
  cases decimal.isNegative <;> simp

theorem magnitude_nonneg : 0 ≤ decimal.magnitude :=
  mul_nonneg (Nat.cast_nonneg _) (zpow_nonneg (by norm_num) _)

theorem abs_rational : |decimal.rational| = decimal.magnitude := by
  unfold rational
  split
  · rw [abs_neg, abs_of_nonneg decimal.magnitude_nonneg]
  · rw [abs_of_nonneg decimal.magnitude_nonneg]

theorem rational_eq_zero : decimal.rational = 0 ↔ decimal.mantissa = 0 := by
  rw [← abs_eq_zero, abs_rational, magnitude, mul_eq_zero, Nat.cast_eq_zero]
  exact or_iff_left (zpow_ne_zero _ (by norm_num))

/-- The digits that matter, and the place of the last one. -/
theorem magnitude_of_digits (nonzero : decimal.mantissa ≠ 0) : ∃ (digits : Nat) (exponent : Int),
    digits < 10 ^ decimal.significantDigits ∧ decimal.magnitude = digits * 10 ^ exponent := by
  have positive := Nat.pos_of_ne_zero nonzero
  have below := (placed_bounds positive (decimal.significantDigits - 1)).2
  have same := placed_trimmed decimal.mantissa ((Nat.toDigits 10 decimal.mantissa).length - 1)
  rw [placed, ← significantDigits, sub_add_cancel] at below same
  rw [sub_self, zpow_zero, mul_one, zpow_natCast] at below
  rw [sub_self, zpow_zero, mul_one] at same
  refine ⟨Nat.ofDigitChars 10 (trimmedDigits decimal.mantissa) 0,
    (Nat.toDigits 10 decimal.mantissa).length - decimal.significantDigits + -decimal.places.length,
    mod_cast below, ?_⟩
  rw [magnitude, ← same, mul_assoc, ← zpow_add₀ (by norm_num)]

end PlainDecimal

/-- A decimal of few digits well inside the range is read as a number that is written with just those digits. -/
theorem Binary64.written_back {mantissa digits : Nat} {exponent last : Int} (negative : Bool)
    (nonzero : mantissa ≠ 0) (few : digits < 10 ^ 15) (same : (mantissa : ℚ) * 10 ^ exponent = digits * 10 ^ last)
    (lower : 1 ≤ (mantissa : ℚ) * 10 ^ exponent * tenPower 300)
    (upper : (mantissa : ℚ) * 10 ^ exponent ≤ tenPower 300) :
    ∃ units fits, ofDecimal negative mantissa exponent = finite negative units fits ∧
      DecimalOf (unsignedText units) (mantissa * 10 ^ exponent) := by
  have positive := Nat.pos_of_ne_zero nonzero
  obtain ⟨units, fits, read, some, close⟩ := of_decimal_near negative positive lower upper
  have fine : 4 * (relativeError * 10 ^ (14 + 1)) ≤ 1 := by norm_num [relativeError, twoPower]
  have nonneg : 0 ≤ relativeError := by norm_num [relativeError, twoPower]
  have digitsPositive : 0 < digits := by
    have exact : (0 : ℚ) < mantissa * 10 ^ exponent := mul_pos (Nat.cast_pos.mpr positive) (by positivity)
    rw [same] at exact
    exact Nat.cast_pos.mp (pos_of_mul_pos_left exact (by positivity))
  rw [same] at close
  have back := placed_of_near some unitsPerOne_pos few nonneg fine digitsPositive close
  have digitsSome := @round_significant_pos (14 + 1) units unitsPerOne (by decide) some unitsPerOne_pos
  refine ⟨units, fits, read, ?_⟩
  rw [same, ← back, unsignedText, if_neg (Nat.pos_iff_ne_zero.mp some)]
  generalize roundSignificant (14 + 1) units unitsPerOne = rounded at digitsSome
  exact DecimalStyle.decimal_write _ (trimmed_digits_nonempty digitsSome) (trimmed_digits_plain _)

/-- A field that spells a decimal of at most fifteen significant digits says the same number when it has been read
and is written again, unless the number is hardly more than nothing or beyond all reason. -/
theorem plain_decimal_survives (letter text : Text) (decimal : PlainDecimal)
    (spelled : text.asciiForm = decimal.chars) (few : decimal.significantDigits ≤ 15)
    (range : decimal.rational = 0 ∨
      (10 : ℚ) ^ (-300 : ℤ) ≤ |decimal.rational| ∧ |decimal.rational| ≤ 10 ^ (300 : ℤ)) :
    ∃ value, (Field.mk letter text).value = .ok value ∧ text.rational? = some decimal.rational ∧
      value.toText.rational? = some decimal.rational := by
  have read : Binary64.ofText? text = some (.ofDecimal decimal.isNegative decimal.mantissa
      (-(decimal.places.length : Int))) := by
    rw [Binary64.of_text_eq_rounded, decimal.numeral_of_spelled spelled]
    rfl
  refine ⟨_, Field.value_eq_ok_iff.mpr read, decimal.rational_of_spelled spelled, ?_⟩
  by_cases none : decimal.mantissa = 0
  · rw [Binary64.ofDecimal, if_pos none, Binary64.to_text_zero, Binary64.unsigned_text_zero.exact_signed,
      decimal.rational_eq_zero.mpr none, neg_zero, ite_self]
  · obtain ⟨lower, upper⟩ := range.resolve_left (mt decimal.rational_eq_zero.mp none)
    rw [decimal.abs_rational] at lower upper
    obtain ⟨digits, last, bounded, same⟩ := decimal.magnitude_of_digits none
    have fewer : digits < 10 ^ 15 := Nat.lt_of_lt_of_le bounded (Nat.pow_le_pow_right (by decide) few)
    have least : 1 ≤ decimal.magnitude * tenPower 300 := by
      rw [ten_power_cast, ← div_le_iff₀ (by positivity), one_div, ← zpow_neg]
      exact lower
    obtain ⟨units, fits, rounded, written⟩ := Binary64.written_back decimal.isNegative none fewer same least
      (upper.trans_eq (ten_power_cast 300).symm)
    rw [rounded, Binary64.to_text_finite]
    exact written.exact_signed decimal.isNegative

/-- A number with fifteen digits is not changed, although none of the format is equal to it. -/
theorem fifteen_digits_survive : ∃ value, (Field.mk [.char 'E'] (Text.of "-123456.789012345")).value = .ok value ∧
    value.toText.rational? = some (-(123456789012345 / 10 ^ 9)) := by
  obtain ⟨decimal, given⟩ : ∃ decimal : PlainDecimal, decimal = ⟨some true, "123456".toList,
    some "789012345".toList, List.all_eq_true.mp (by decide), by decide⟩ := ⟨_, rfl⟩
  have spelled : (Text.of "-123456.789012345").asciiForm = decimal.chars := by
    rw [given]
    decide
  have mantissa : decimal.mantissa = 123456789012345 := by
    rw [given]
    decide +kernel
  have few : decimal.significantDigits ≤ 15 := by
    rw [PlainDecimal.significantDigits, mantissa]
    decide +kernel
  have magnitude : decimal.magnitude = 123456789012345 / 10 ^ 9 := by
    have places : decimal.places.length = 9 := by rw [given]; rfl
    rw [PlainDecimal.magnitude, mantissa, places]
    norm_num
  have exact : decimal.rational = -(123456789012345 / 10 ^ 9) := by
    rw [PlainDecimal.rational, if_pos (by rw [given]; rfl), magnitude]
  have lower : (10 : ℚ) ^ (-300 : ℤ) ≤ |decimal.rational| := by
    rw [decimal.abs_rational, magnitude]
    calc (10 : ℚ) ^ (-300 : ℤ) ≤ 10 ^ (5 : ℤ) := zpow_le_zpow_right₀ (by norm_num) (by decide)
      _ ≤ 123456789012345 / 10 ^ 9 := by norm_num
  have upper : |decimal.rational| ≤ 10 ^ (300 : ℤ) := by
    rw [decimal.abs_rational, magnitude]
    calc (123456789012345 : ℚ) / 10 ^ 9 ≤ 10 ^ (6 : ℤ) := by norm_num
      _ ≤ 10 ^ (300 : ℤ) := zpow_le_zpow_right₀ (by norm_num) (by decide)
  obtain ⟨value, read, -, written⟩ := plain_decimal_survives [.char 'E'] (Text.of "-123456.789012345") decimal
    spelled few (.inr ⟨lower, upper⟩)
  exact ⟨value, read, exact ▸ written⟩

end PrintParts
