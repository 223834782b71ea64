import Mathlib.Data.List.TakeWhile
import PrintParts.Proofs.Number.Written

/-!
The texts of machine numbers. Each finite number is written as a decimal behind its sign, so that the
text of the negated number differs in the sign only.
-/

namespace PrintParts

theorem tens_to_one_reach {fuel numerator denominator : Nat}
    (enough : denominator ≤ numerator * tenPower fuel) :
    denominator ≤ numerator * tenPower (tensToOne fuel numerator denominator) := by
  induction fuel generalizing numerator with
  | zero => exact enough
  | succ fuel induction =>
    unfold tensToOne
    split
    · rename_i reached
      simpa [tenPower] using reached
    · have later := @induction (10 * numerator) (by
        rw [tenPower_add] at enough
        calc denominator ≤ numerator * (tenPower fuel * tenPower 1) := enough
          _ = 10 * numerator * tenPower fuel := by
            rw [show tenPower 1 = 10 from rfl]
            ring)
      calc denominator ≤ 10 * numerator * tenPower (tensToOne fuel (10 * numerator) denominator) := later
        _ = numerator * tenPower (tensToOne fuel (10 * numerator) denominator + 1) := by
          rw [tenPower_add, show tenPower 1 = 10 from rfl]
          ring

theorem digits_lower_bound {value : Nat} (positive : 0 < value) :
    tenPower ((Nat.toDigits 10 value).length - 1) ≤ value := by
  by_contra short
  rcases Nat.eq_zero_or_pos ((Nat.toDigits 10 value).length - 1) with single | several
  · rw [single] at short
    exact short positive
  · have fewer := (Nat.length_toDigits_le_iff (by decide) several).mpr (Nat.not_le.mp short)
    omega

theorem leading_place_reached {numerator denominator : Nat} (positive : 0 < numerator)
    (divisor : 0 < denominator) :
    denominator * tenPower (leadingPlace numerator denominator).toNat ≤
      numerator * tenPower (-leadingPlace numerator denominator).toNat := by
  unfold leadingPlace
  split
  · rename_i whole
    have quotient : 0 < numerator / denominator := Nat.div_pos whole divisor
    have length : 0 < (Nat.toDigits 10 (numerator / denominator)).length := Nat.length_toDigits_pos
    have reached := digits_lower_bound quotient
    rw [show (-(((Nat.toDigits 10 (numerator / denominator)).length : Int) - 1)).toNat = 0 by omega,
      show (((Nat.toDigits 10 (numerator / denominator)).length : Int) - 1).toNat =
        (Nat.toDigits 10 (numerator / denominator)).length - 1 by omega]
    calc denominator * tenPower ((Nat.toDigits 10 (numerator / denominator)).length - 1)
        ≤ denominator * (numerator / denominator) := Nat.mul_le_mul_left _ reached
      _ ≤ numerator := Nat.mul_div_le _ _
      _ = numerator * tenPower 0 := (Nat.mul_one _).symm
  · have fuel : denominator ≤ numerator * tenPower (denominator.log2 + 1) := by
      calc denominator ≤ twoPower (denominator.log2 + 1) := Nat.le_of_lt (lt_twoPower_log2 _)
        _ ≤ tenPower (denominator.log2 + 1) := Nat.pow_le_pow_left (by decide) _
        _ ≤ numerator * tenPower (denominator.log2 + 1) := Nat.le_mul_of_pos_left _ positive
    have reached := tens_to_one_reach fuel
    rw [Int.toNat_neg_natCast, neg_neg, Int.toNat_natCast]
    calc denominator * tenPower 0 = denominator := Nat.mul_one _
      _ ≤ _ := reached

theorem round_significant_pos {precision numerator denominator : Nat} (some : 0 < precision)
    (positive : 0 < numerator) (divisor : 0 < denominator) :
    0 < (roundSignificant precision numerator denominator).1 := by
  have reached := leading_place_reached positive divisor
  have shifted : 0 < roundShifted numerator denominator
      (precision - 1 - leadingPlace numerator denominator) := by
    unfold roundShifted
    split
    · apply Nat.lt_of_lt_of_le _ (div_le_roundHalfEven _ _)
      apply Nat.div_pos _ divisor
      calc denominator
          ≤ denominator * tenPower (leadingPlace numerator denominator).toNat :=
            Nat.le_mul_of_pos_right _ (tenPower_pos _)
        _ ≤ numerator * tenPower (-leadingPlace numerator denominator).toNat := reached
        _ ≤ _ := Nat.mul_le_mul_left _ (Nat.pow_le_pow_right (by decide) (by omega))
    · apply Nat.lt_of_lt_of_le _ (div_le_roundHalfEven _ _)
      apply Nat.div_pos _ (Nat.mul_pos divisor (tenPower_pos _))
      calc denominator * tenPower (-(precision - 1 - leadingPlace numerator denominator)).toNat
          ≤ denominator * tenPower (leadingPlace numerator denominator).toNat :=
            Nat.mul_le_mul_left _ (Nat.pow_le_pow_right (by decide) (by omega))
        _ ≤ numerator * tenPower (-leadingPlace numerator denominator).toNat := reached
        _ = numerator := by
          rw [show (-leadingPlace numerator denominator).toNat = 0 by omega]
          exact Nat.mul_one _
  unfold roundSignificant carryDigit
  dsimp only
  split
  · exact tenPower_pos _
  · exact shifted

theorem trimmed_digits_plain (value : Nat) : ∀ char ∈ trimmedDigits value, char.isDigit = true := by
  intro char member
  have kept := (List.dropWhile_sublist _).mem (List.mem_reverse.mp member)
  exact Nat.isDigit_of_mem_toDigits (by decide) (by decide) (List.mem_reverse.mp kept)

theorem trimmed_digits_nonempty {value : Nat} (positive : 0 < value) : trimmedDigits value ≠ [] := by
  intro empty
  have zeros := List.dropWhile_eq_nil_iff.mp (List.reverse_eq_nil_iff.mp empty)
  have all : Nat.toDigits 10 value = List.replicate (Nat.toDigits 10 value).length '0' :=
    List.eq_replicate_of_mem fun char member => eq_of_beq (zeros char (List.mem_reverse.mpr member))
  have none : Nat.ofDigitChars 10 (Nat.toDigits 10 value) 0 = 0 := by
    rw [all, Nat.ofDigitChars_replicate_zero, Nat.mul_zero]
  rw [Nat.ofDigitChars_ten_toDigits] at none
  omega

namespace Binary64

def unsignedText (units : Nat) : List Char :=
  if units = 0 then (DecimalStyle.significant 15).write ['0'] 0
  else
    let (digits, place) := roundSignificant 15 units unitsPerOne
    (DecimalStyle.significant 15).write (trimmedDigits digits) place

theorem to_text_finite (negative : Bool) (units : Nat) (fits : Representable units) :
    (finite negative units fits).toText =
      Text.ofChars (writeSign negative (unsignedText units)) := by
  simp only [toText, significant, writeWith, unsignedText]

theorem unsigned_text_decimal (units : Nat) : ∃ value, DecimalOf (unsignedText units) value := by
  unfold unsignedText
  split
  · exact ⟨_, DecimalStyle.decimal_write _ (by decide) (List.forall_mem_singleton.mpr rfl)⟩
  · rename_i nonzero
    have some := @round_significant_pos 15 units unitsPerOne (by decide)
      (Nat.pos_of_ne_zero nonzero) unitsPerOne_pos
    generalize roundSignificant 15 units unitsPerOne = rounded at some
    obtain ⟨digits, place⟩ := rounded
    exact ⟨_, DecimalStyle.decimal_write _ (trimmed_digits_nonempty some) (trimmed_digits_plain _)⟩

theorem fixed_decimal (places : Nat) (negative : Bool) (units : Nat) (fits : Representable units) :
    ∃ chars value, (finite negative units fits).fixed places = writeSign negative chars ∧
      DecimalOf chars value := by
  generalize rounded : Nat.toDigits 10 (roundHalfEven (units * tenPower places) unitsPerOne) = digits
  have plain : ∀ char ∈ List.replicate (places + 1 - digits.length) '0' ++ digits,
      char.isDigit = true := by
    apply zeros_digits
    rw [← rounded]
    exact fun char digit => Nat.isDigit_of_mem_toDigits (by decide) (by decide) digit
  generalize all : List.replicate (places + 1 - digits.length) '0' ++ digits = padded at plain
  have long : places < padded.length := by
    rw [← all, List.length_append, List.length_replicate]
    omega
  have decimal := @DecimalOf.of_point (padded.take (padded.length - places))
    (padded.drop (padded.length - places)) [] 0
    (by
      intro empty
      rcases List.take_eq_nil_iff.mp empty with short | none
      · omega
      · rw [none] at long
        exact absurd long (Nat.not_lt_zero _))
    (fun char member => plain char (List.mem_of_mem_take member))
    (fun char member => plain char (List.mem_of_mem_drop member))
    (fun _ member => nomatch member) (fun _ first => nomatch first) rfl
  rw [List.append_nil] at decimal
  refine ⟨_, _, ?_, decimal⟩
  simp only [fixed, rounded, all]

theorem number_chars_sign {chars : List Char} (negative : Bool) (written : InNumberChars chars) :
    InNumberChars (writeSign negative chars) := by
  cases negative with
  | false => exact written
  | true => exact written.cons (by decide)

theorem number_chars_significant (value : Binary64) : InNumberChars (value.significant 15) := by
  cases value with
  | nan => exact List.all_eq_true.mp (rfl : ['n', 'a', 'n'].all isNumberChar = true)
  | infinite negative =>
    exact number_chars_sign negative
      (List.all_eq_true.mp (rfl : ['i', 'n', 'f'].all isNumberChar = true))
  | finite negative units fits =>
    obtain ⟨_, decimal⟩ := unsigned_text_decimal units
    have written := number_chars_sign negative decimal.written
    simpa only [significant, writeWith, unsignedText] using written

theorem number_chars_write (style : DecimalStyle) {digits : List Char}
    (plain : ∀ char ∈ digits, char.isDigit = true) (place : Int) :
    InNumberChars (style.write digits place) := by
  by_cases empty : digits = []
  · subst empty
    have zeros : ∀ count, InNumberChars (List.replicate count '0') :=
      fun count => InNumberChars.of_digits fun char member => by
        rw [(List.mem_replicate.mp member).2]
        rfl
    unfold DecimalStyle.write
    split
    · split
      · rw [List.append_nil]
        exact ((zeros _).cons (by decide)).cons (by decide)
      · simp only [List.take_nil, List.nil_append, List.drop_nil]
        split
        · exact (zeros _).append (List.all_eq_true.mp (rfl : ['.', '0'].all isNumberChar = true))
        · exact zeros _
    · exact Numeral.number_chars_exponent place
  · exact (DecimalStyle.decimal_write style empty plain).written

theorem number_chars_shortest (value : Binary64) : InNumberChars value.shortest := by
  cases value with
  | nan => exact List.all_eq_true.mp (rfl : ['n', 'a', 'n'].all isNumberChar = true)
  | infinite negative =>
    exact number_chars_sign negative
      (List.all_eq_true.mp (rfl : ['i', 'n', 'f'].all isNumberChar = true))
  | finite negative units fits =>
    unfold shortest writeWith
    refine number_chars_sign negative ?_
    split
    · exact number_chars_write _ (List.all_eq_true.mp (rfl : ['0'].all Char.isDigit = true)) 0
    · generalize shortestDigits units = chosen
      exact number_chars_write _ (trimmed_digits_plain chosen.1) chosen.2

theorem number_chars_fixed (places : Nat) (value : Binary64) : InNumberChars (value.fixed places) := by
  cases value with
  | nan => exact List.all_eq_true.mp (rfl : ['n', 'a', 'n'].all isNumberChar = true)
  | infinite negative =>
    exact number_chars_sign negative
      (List.all_eq_true.mp (rfl : ['i', 'n', 'f'].all isNumberChar = true))
  | finite negative units fits =>
    obtain ⟨chars, _, same, decimal⟩ := fixed_decimal places negative units fits
    rw [same]
    exact number_chars_sign negative decimal.written

def hasMinus : Binary64 → Bool
  | .nan => false
  | .infinite negative => negative
  | .finite negative _ _ => negative

end Binary64

/-- A text that names neither an infinity nor NaN. -/
def Text.Bounded (text : Text) : Prop :=
  text.numeral? ≠ some .nan ∧ ∀ negative, text.numeral? ≠ some (.infinite negative)

instance (text : Text) : Decidable text.Bounded :=
  inferInstanceAs (Decidable (_ ∧ ∀ _ : Bool, _))

namespace Binary64

variable {value : Binary64}

theorem finite_of_bounded (bounded : value.toText.Bounded) : value.isFinite = true := by
  cases value with
  | nan => exact absurd (by decide) bounded.1
  | infinite negative => exact absurd (by cases negative <;> decide) (bounded.2 negative)
  | finite negative units fits => rfl

theorem finite_of_negated_bounded (bounded : Text.Bounded (.char '-' :: value.toText))
    (unsigned : value.hasMinus = false) : value.isFinite = true := by
  cases value with
  | nan => exact absurd (by decide) bounded.1
  | infinite negative =>
    cases unsigned
    exact absurd (by decide) (bounded.2 true)
  | finite negative units fits => rfl

theorem finite_of_fixed_bounded {places : Nat}
    (bounded : Text.Bounded (Text.ofChars (value.fixed places))) : value.isFinite = true := by
  cases value with
  | nan => exact absurd (by decide : Text.numeral? (Text.ofChars ['n', 'a', 'n']) = _) bounded.1
  | infinite negative =>
    have read : Text.numeral? (Text.ofChars (writeSign negative ['i', 'n', 'f'])) =
        some (.infinite negative) := by
      cases negative <;> decide
    exact absurd read (bounded.2 negative)
  | finite negative units fits => rfl

theorem to_text_exact (isFinite : value.isFinite = true) :
    ∃ number, value.toText.rational? = some number := by
  cases value with
  | finite negative units fits =>
    obtain ⟨number, decimal⟩ := unsigned_text_decimal units
    rw [to_text_finite]
    exact ⟨_, decimal.exact_signed negative⟩
  | nan => cases isFinite
  | infinite negative => cases isFinite

theorem fixed_exact (isFinite : value.isFinite = true) (places : Nat) :
    ∃ number, (Text.ofChars (value.fixed places)).rational? = some number := by
  cases value with
  | finite negative units fits =>
    obtain ⟨chars, number, same, decimal⟩ := fixed_decimal places negative units fits
    rw [same]
    exact ⟨_, decimal.exact_signed negative⟩
  | nan => cases isFinite
  | infinite negative => cases isFinite

theorem negated_text_exact (isFinite : value.isFinite = true) (unsigned : value.hasMinus = false) :
    ∃ number, value.toText.rational? = some number ∧
      Text.rational? (.char '-' :: value.toText) = some (-number) := by
  cases value with
  | finite negative units fits =>
    cases unsigned
    obtain ⟨number, decimal⟩ := unsigned_text_decimal units
    rw [to_text_finite]
    exact ⟨number, decimal.exact_signed false, decimal.exact_signed true⟩
  | nan => cases isFinite
  | infinite negative => cases isFinite

theorem nearest_units_zero (denominator : Nat) : nearestUnits 0 denominator = 0 := by
  have rounded : ∀ divisor, roundHalfEven 0 divisor = 0 := by
    intro divisor
    have whole : 0 < divisor ∨ 0 = divisor := by omega
    simp only [roundHalfEven, Nat.zero_div, Nat.zero_mod, Nat.mul_zero, and_true]
    rw [if_pos whole]
  rw [nearestUnits, rounded, Nat.zero_mul]

theorem nearest_units_of_representable {units : Nat} (fits : Representable units) :
    nearestUnits units 1 = units := by
  obtain ⟨count, whole⟩ := fits.1
  have step := spacing_pos units
  simp only [nearestUnits, Nat.div_one, Nat.one_mul]
  calc roundHalfEven units (spacing units) * spacing units
      = roundHalfEven (count * spacing units) (spacing units) * spacing units := by
        rw [Nat.mul_comm count, ← whole]
    _ = count * spacing units := by rw [roundHalfEven_mul_self count _ step]
    _ = units := by rw [Nat.mul_comm count, ← whole]

theorem zero_eq : (0 : Binary64) = zero false := by
  decide +kernel

theorem zero_sub_finite (negative : Bool) (units : Nat) (fits : Representable units) :
    0 - finite negative units fits =
      if units = 0 then zero false else finite (!negative) units fits := by
  rw [zero_eq]
  show (zero false).add (finite negative units fits).neg = _
  simp only [zero, neg, add]
  by_cases none : units = 0
  · subst none
    cases negative <;> rfl
  · have rounded := nearest_units_of_representable fits
    have nonzero : signedUnits false 0 + signedUnits (!negative) units ≠ 0 := by
      cases negative <;> simp [signedUnits, none]
    rw [if_neg nonzero, if_neg none, ofUnits, ofUnitRatio]
    have size : (signedUnits false 0 + signedUnits (!negative) units).natAbs = units := by
      cases negative <;> simp [signedUnits]
    have sign : decide (signedUnits false 0 + signedUnits (!negative) units < 0) = !negative := by
      have positive := Nat.pos_of_ne_zero none
      cases negative <;> simp [signedUnits, positive]
    simp only [size, sign, rounded, fits.2, dif_pos]

theorem to_text_zero (negative : Bool) :
    (zero negative).toText = Text.ofChars (writeSign negative (unsignedText 0)) :=
  to_text_finite negative 0 _

theorem unsigned_text_zero : DecimalOf (unsignedText 0) 0 := by
  have decimal := @DecimalOf.of_digits ['0'] (by decide) (List.forall_mem_singleton.mpr rfl)
  rw [show Nat.ofDigitChars 10 ['0'] 0 = 0 from rfl, Nat.cast_zero] at decimal
  exact decimal

theorem zero_sub_exact (isFinite : (0 - value).isFinite = true) :
    ∃ number, value.toText.rational? = some number ∧ (0 - value).toText.rational? = some (-number) := by
  cases value with
  | finite negative units fits =>
    rw [zero_sub_finite]
    by_cases none : units = 0
    · subst none
      rw [if_pos rfl, to_text_zero, to_text_finite, unsigned_text_zero.exact_signed,
        unsigned_text_zero.exact_signed]
      refine ⟨_, rfl, ?_⟩
      cases negative <;> simp
    · obtain ⟨number, decimal⟩ := unsigned_text_decimal units
      rw [if_neg none, to_text_finite, to_text_finite, decimal.exact_signed, decimal.exact_signed]
      refine ⟨_, rfl, ?_⟩
      cases negative <;> simp
  | nan =>
    rw [zero_eq] at isFinite
    cases isFinite
  | infinite negative =>
    rw [zero_eq] at isFinite
    cases isFinite

end Binary64

end PrintParts
