import PrintParts.Proofs.Number.Order

/-!
Positional texts: digits with at most one point. The text of a number is positional behind its sign,
except for very large and very small ones, which are written with an exponent.
-/

namespace PrintParts

/-- Digits with at most one point among them, not in front of the first one. -/
def IsPositional (chars : List Char) : Prop :=
  ∃ whole fraction, whole ≠ [] ∧ (∀ char ∈ whole, char.isDigit = true) ∧
    (∀ char ∈ fraction, char.isDigit = true) ∧ (chars = whole ∨ chars = whole ++ '.' :: fraction)

theorem IsPositional.decimal {chars : List Char} (positional : IsPositional chars) :
    ∃ value, DecimalOf chars value := by
  obtain ⟨whole, fraction, nonempty, digits, places, rfl | rfl⟩ := positional
  · exact ⟨_, .of_digits nonempty digits⟩
  · have decimal := @DecimalOf.of_point whole fraction [] 0 nonempty digits places
      (fun _ member => nomatch member) (fun _ first => nomatch first) rfl
    rw [List.append_nil] at decimal
    exact ⟨_, decimal⟩

theorem DecimalStyle.positional_write {style : DecimalStyle} {digits : List Char} {place : Int}
    (nonempty : digits ≠ []) (plain : ∀ char ∈ digits, char.isDigit = true)
    (within : style.positionalFrom ≤ place ∧ place < style.positionalBelow) :
    IsPositional (style.write digits place) := by
  unfold write
  rw [if_pos within]
  split
  · exact ⟨['0'], _, List.cons_ne_nil _ _, List.forall_mem_singleton.mpr rfl,
      zeros_digits plain _, .inr rfl⟩
  · dsimp only
    have whole := @digits_zeros (digits.take (place.toNat + 1))
      (fun char member => plain char (List.mem_of_mem_take member)) (place.toNat + 1 - digits.length)
    have opens : digits.take (place.toNat + 1) ++
        List.replicate (place.toNat + 1 - digits.length) '0' ≠ [] := by
      simp [List.take_eq_nil_iff, nonempty]
    split
    · split
      · exact ⟨_, ['0'], opens, whole, List.forall_mem_singleton.mpr rfl, .inr rfl⟩
      · exact ⟨_, [], opens, whole, (fun _ member => nomatch member), .inl rfl⟩
    · exact ⟨_, _, opens, whole, (fun char member => plain char (List.mem_of_mem_drop member)),
        .inr rfl⟩

/-- With an exponent behind them the digits are written as if the first one were the only whole one. -/
theorem DecimalStyle.write_exponent {precision : Nat} (some : 0 < precision) {digits : List Char}
    (nonempty : digits ≠ []) {place : Int} (outside : ¬ (-4 ≤ place ∧ place < precision)) :
    (significant precision).write digits place =
      (significant precision).write digits 0 ++ writeExponent place := by
  obtain ⟨first, others, rfl⟩ := List.exists_cons_of_ne_nil nonempty
  cases others with
  | nil => simp [write, significant, outside, some]
  | cons next others => simp [write, significant, outside, some]

theorem trimmed_digits_zeros (value : Nat) :
    ∃ zeros, Nat.toDigits 10 value = trimmedDigits value ++ List.replicate zeros '0' := by
  generalize padding : (Nat.toDigits 10 value).reverse.takeWhile (· == '0') = zeros
  have all : zeros = List.replicate zeros.length '0' := by
    apply List.eq_replicate_of_mem
    intro char member
    rw [← padding] at member
    exact eq_of_beq (List.mem_takeWhile_imp (p := (· == '0')) member)
  refine ⟨zeros.length, ?_⟩
  calc Nat.toDigits 10 value
      = (zeros ++ (Nat.toDigits 10 value).reverse.dropWhile (· == '0')).reverse := by
        rw [← padding, List.takeWhile_append_dropWhile, List.reverse_reverse]
    _ = trimmedDigits value ++ zeros.reverse := by rw [List.reverse_append, trimmedDigits]
    _ = trimmedDigits value ++ List.replicate zeros.length '0' := by
        rw [all, List.reverse_replicate, List.length_replicate]

/-- The zeros that are not written only move the place. -/
theorem placed_trimmed (value : Nat) (place : Int) :
    placed (trimmedDigits value) place =
      value * 10 ^ (place + 1 - (Nat.toDigits 10 value).length) := by
  obtain ⟨zeros, digits⟩ := trimmed_digits_zeros value
  have number : value = 10 ^ zeros * Nat.ofDigitChars 10 (trimmedDigits value) 0 := by
    rw [← Nat.ofDigitChars_replicate_zero, ← Nat.ofDigitChars_append, ← digits,
      Nat.ofDigitChars_ten_toDigits]
  have length : ((Nat.toDigits 10 value).length : Int) = (trimmedDigits value).length + zeros := by
    rw [digits, List.length_append, List.length_replicate]
    rfl
  have exponent : place + 1 - ((trimmedDigits value).length : Int) =
      zeros + (place + 1 - (Nat.toDigits 10 value).length) := by omega
  rw [placed, exponent, zpow_add₀ (by norm_num), zpow_natCast]
  nth_rewrite 3 [number]
  push_cast
  ring

theorem placed_bounds {value : Nat} (positive : 0 < value) (place : Int) :
    (10 : ℚ) ^ place ≤ placed (trimmedDigits value) place ∧
      placed (trimmedDigits value) place < 10 ^ (place + 1) := by
  have bounds := decimal_bounds positive (place + 1 - (Nat.toDigits 10 value).length)
  rw [placed_trimmed]
  refine ⟨?_, ?_⟩
  · calc (10 : ℚ) ^ place = _ := by congr 1; omega
      _ ≤ _ := bounds.1
  · calc _ < _ := bounds.2
      _ = (10 : ℚ) ^ (place + 1) := by congr 1; omega

namespace Binary64

/-- The text of a number without its sign is positional, unless the number is at most one or at least
a one with fifteen zeros. -/
theorem unsigned_text_forms (units : Nat) : ∃ value, DecimalOf (unsignedText units) value ∧
    (IsPositional (unsignedText units) ∨ value ≤ 1 ∨ 10 ^ 15 ≤ value) := by
  unfold unsignedText
  split
  · have plain : ∀ char ∈ ['0'], char.isDigit = true := List.forall_mem_singleton.mpr rfl
    refine ⟨_, DecimalStyle.decimal_write _ (by decide) plain, .inl ?_⟩
    exact DecimalStyle.positional_write (by decide) plain (by decide)
  · rename_i nonzero
    have some := @round_significant_pos 15 units unitsPerOne (by decide)
      (Nat.pos_of_ne_zero nonzero) unitsPerOne_pos
    generalize roundSignificant 15 units unitsPerOne = rounded at some
    obtain ⟨digits, place⟩ := rounded
    have nonempty := trimmed_digits_nonempty some
    have bounds := placed_bounds some place
    refine ⟨_, DecimalStyle.decimal_write _ nonempty (trimmed_digits_plain _), ?_⟩
    by_cases small : place < -4
    · apply Or.inr
      apply Or.inl
      calc placed (trimmedDigits digits) place ≤ 10 ^ (place + 1) := bounds.2.le
        _ ≤ 10 ^ (0 : Int) := zpow_le_zpow_right₀ (by norm_num) (by omega)
        _ = 1 := zpow_zero _
    by_cases large : 15 ≤ place
    · apply Or.inr
      apply Or.inr
      calc (10 : ℚ) ^ 15 = 10 ^ (15 : Int) := by norm_num
        _ ≤ 10 ^ place := zpow_le_zpow_right₀ (by norm_num) large
        _ ≤ placed (trimmedDigits digits) place := bounds.1
    · apply Or.inl
      exact DecimalStyle.positional_write nonempty (trimmed_digits_plain _)
        ⟨Int.not_lt.mp small, Int.not_le.mp large⟩

/-- From here on numbers are written with an exponent. -/
def exponentFrom : Binary64 := 1000000000000000

theorem place_of_decimal (negative : Bool) (mantissa : Nat) (exponent : Int) :
    ∃ units, (ofDecimal negative mantissa exponent).place? = some (signedUnits negative units) := by
  unfold ofDecimal
  dsimp only
  split
  · exact ⟨_, rfl⟩
  · split
    · exact ⟨_, rfl⟩
    · split
      · exact ⟨_, rfl⟩
      · split
        · exact ⟨_, place_of_unit_ratio _ _ _⟩
        · exact ⟨_, place_of_unit_ratio _ _ _⟩

theorem number_of_place {value : Binary64} {place : Int} (stands : value.place? = some place) :
    value ≠ .nan := by
  rintro rfl
  cases stands

theorem of_text_decimal {chars : List Char} {number : ℚ} (decimal : DecimalOf chars number) :
    ∃ (mantissa : Nat) (exponent : Int), (mantissa : ℚ) * 10 ^ exponent = number ∧
      ∀ negative, ofText? (Text.ofChars (writeSign negative chars)) =
        some (ofDecimal negative mantissa exponent) := by
  obtain ⟨mantissa, exponent, same, reads⟩ := decimal.read_unsigned
  refine ⟨mantissa, exponent, same, fun negative => ?_⟩
  rw [of_text_eq_rounded, (number_chars_sign negative decimal.written).numeral, reads negative]
  rfl

theorem of_decimal_signed (negative : Bool) (mantissa : Nat) (exponent : Int) :
    ofDecimal negative mantissa exponent ≠ .nan ∧
      (negative = true → ofDecimal negative mantissa exponent ≤ 0) := by
  obtain ⟨size, place⟩ := place_of_decimal negative mantissa exponent
  refine ⟨number_of_place place, ?_⟩
  rintro rfl
  refine le_iff_places.mpr ⟨_, _, place, place_of_whole (Nat.zero_le _), ?_⟩
  simp [signedUnits]

/-- What a decimal text is read as. It is not above zero if it has a minus sign. -/
theorem read_signed {chars : List Char} {number : ℚ} (decimal : DecimalOf chars number)
    (negative : Bool) : ∃ value, ofText? (Text.ofChars (writeSign negative chars)) = some value ∧
      value ≠ .nan ∧ (negative = true → value ≤ 0) := by
  obtain ⟨mantissa, exponent, -, reads⟩ := of_text_decimal decimal
  exact ⟨_, reads negative, of_decimal_signed negative mantissa exponent⟩

/-- What the text of a finite number is read as. Without a sign it is positional, unless it is read as
a number of at most one or as one that is written with an exponent. -/
theorem read_to_text (negative : Bool) (units : Nat) (fits : Representable units) :
    ∃ height, ofText? (finite negative units fits).toText = some height ∧ height ≠ .nan ∧
      (negative = true → height ≤ 0) ∧
      (negative = false →
        IsPositional (unsignedText units) ∨ height ≤ 1 ∨ exponentFrom ≤ height) := by
  obtain ⟨value, decimal, written⟩ := unsigned_text_forms units
  obtain ⟨mantissa, exponent, same, reads⟩ := of_text_decimal decimal
  obtain ⟨number, below⟩ := of_decimal_signed negative mantissa exponent
  refine ⟨_, to_text_finite negative units fits ▸ reads negative, number, below, ?_⟩
  rintro rfl
  rcases written with positional | small | large
  · exact .inl positional
  · apply Or.inr
    apply Or.inl
    exact @of_decimal_le mantissa 1 exponent (by decide) (by rw [same, Nat.cast_one]; exact small)
  · apply Or.inr
    apply Or.inr
    exact @le_of_decimal mantissa 1000000000000000 exponent (by decide) (by decide)
      (by rw [same]; norm_num at large ⊢; exact large)

theorem read_placed {digits : Nat} (positive : 0 < digits) {place : Int} (low : -4 ≤ place)
    (high : place < 15) :
    IsPositional ((DecimalStyle.significant 15).write (trimmedDigits digits) place) ∧
      ∃ value, ofText? (Text.ofChars ((DecimalStyle.significant 15).write (trimmedDigits digits) place)) =
        some value ∧ 0 < value := by
  have nonempty := trimmed_digits_nonempty positive
  have plain := trimmed_digits_plain digits
  obtain ⟨mantissa, exponent, same, reads⟩ :=
    of_text_decimal (DecimalStyle.decimal_write (.significant 15) nonempty plain)
  have unit : ((10 ^ 4 : Nat) : ℚ) ≤ unitsPerOne :=
    Nat.cast_le.mpr (by decide +kernel : 10 ^ 4 ≤ unitsPerOne)
  have reached : (10 : ℚ) ^ (-4 : Int) ≤ mantissa * 10 ^ exponent := by
    rw [same]
    exact (zpow_le_zpow_right₀ (by norm_num) low).trans (placed_bounds positive place).1
  have whole : (1 : ℚ) ≤ mantissa * 10 ^ exponent * unitsPerOne := by
    calc (1 : ℚ) = 10 ^ (-4 : Int) * ((10 ^ 4 : Nat) : ℚ) := by norm_num
      _ ≤ _ := mul_le_mul reached unit (Nat.cast_nonneg _)
        (mul_nonneg (Nat.cast_nonneg _) (zpow_nonneg (by norm_num) _))
  exact ⟨DecimalStyle.positional_write nonempty plain ⟨low, high⟩, _, reads false, of_decimal_pos whole⟩

theorem read_zero : IsPositional (unsignedText 0) ∧
    ofText? (Text.ofChars (unsignedText 0)) = some (zero false) := by
  obtain ⟨mantissa, exponent, same, reads⟩ := of_text_decimal unsigned_text_zero
  have power : (10 : ℚ) ^ exponent ≠ 0 := by positivity
  have none : mantissa = 0 := by exact_mod_cast (mul_eq_zero.mp same).resolve_right power
  refine ⟨@DecimalStyle.positional_write (.significant 15) ['0'] 0 (List.cons_ne_nil _ _)
    (List.forall_mem_singleton.mpr rfl) (by decide), (reads false).trans ?_⟩
  rw [ofDecimal, if_pos none]

/-- The text of a number without its sign: a positional text, and an exponent behind it or nothing. The
positional text is read as zero only if the number is zero. -/
theorem unsigned_text_opens (units : Nat) : ∃ opening behind value,
    unsignedText units = opening ++ behind ∧ (behind = [] ∨ ∃ place, behind = writeExponent place) ∧
    IsPositional opening ∧ ofText? (Text.ofChars opening) = some value ∧ (0 < value ↔ units ≠ 0) := by
  by_cases none : units = 0
  · subst none
    obtain ⟨positional, reads⟩ := read_zero
    refine ⟨_, [], _, (List.append_nil _).symm, .inl rfl, positional, reads, ?_⟩
    rw [← zero_eq]
    simp [lt_irrefl]
  · have positive := @round_significant_pos 15 units unitsPerOne (by decide)
      (Nat.pos_of_ne_zero none) unitsPerOne_pos
    unfold unsignedText
    rw [if_neg none]
    generalize roundSignificant 15 units unitsPerOne = rounded at positive
    obtain ⟨digits, place⟩ := rounded
    by_cases inside : -4 ≤ place ∧ place < 15
    · obtain ⟨positional, value, reads, above⟩ := read_placed positive inside.1 inside.2
      exact ⟨_, [], value, (List.append_nil _).symm, .inl rfl, positional, reads, iff_of_true above none⟩
    · obtain ⟨positional, value, reads, above⟩ := @read_placed digits positive 0 (by decide) (by decide)
      exact ⟨_, _, value, DecimalStyle.write_exponent (by decide) (trimmed_digits_nonempty positive) inside,
        .inr ⟨place, rfl⟩, positional, reads, iff_of_true above none⟩

theorem placed_le_ten {units : Nat} (positive : 0 < units) (small : units ≤ 10 * unitsPerOne) :
    placed (trimmedDigits (roundSignificant 15 units unitsPerOne).1)
      (roundSignificant 15 units unitsPerOne).2 ≤ 10 := by
  have ten : placed (trimmedDigits (tenPower 14)) 1 = 10 := by
    have length : (Nat.toDigits 10 (tenPower 14)).length = 15 := by decide +kernel
    rw [placed_trimmed, length, tenPower]
    norm_num
  have below : ∀ digits place, 0 < digits → place ≤ 0 → placed (trimmedDigits digits) place ≤ 10 := by
    intro digits place some low
    calc placed (trimmedDigits digits) place ≤ 10 ^ (place + 1) := (placed_bounds some place).2.le
      _ ≤ 10 ^ (1 : Int) := zpow_le_zpow_right₀ (by norm_num) (by omega)
      _ = 10 := zpow_one 10
  have nonzero := @round_significant_pos 15 units unitsPerOne (by decide) positive unitsPerOne_pos
  have reached := leading_place_reached positive unitsPerOne_pos
  by_cases large : 0 < leadingPlace units unitsPerOne
  -- Only ten itself has two digits in front of the point.
  · have whole : units = 10 * unitsPerOne := by
      have power : tenPower 1 ≤ tenPower (leadingPlace units unitsPerOne).toNat :=
        Nat.pow_le_pow_right (by decide) (by omega)
      rw [show (-leadingPlace units unitsPerOne).toNat = 0 by omega] at reached
      have times := (Nat.mul_le_mul_left unitsPerOne power).trans reached
      rw [show tenPower 1 = 10 from rfl, show tenPower 0 = 1 from rfl] at times
      omega
    have rounded : roundSignificant 15 (10 * unitsPerOne) unitsPerOne = (tenPower 14, 1) := by
      decide +kernel
    rw [whole, rounded, ten]
  · generalize lead : leadingPlace units unitsPerOne = place at large
    unfold roundSignificant carryDigit at nonzero ⊢
    simp only [lead] at nonzero ⊢
    split
    · rcases Int.lt_or_eq_of_le (Int.not_lt.mp large) with less | rfl
      · exact below _ _ (tenPower_pos _) (by omega)
      · exact ten.le
    · rename_i kept
      rw [if_neg kept] at nonzero
      exact below _ _ nonzero (Int.not_lt.mp large)

theorem text_le_ten {value : Binary64} (low : ¬ (10 : Binary64) < value) {number : ℚ}
    (reads : value.toText.rational? = some number) : number ≤ 10 := by
  cases value with
  | nan =>
    have none : nan.toText.rational? = none := by decide +kernel
    rw [none] at reads
    cases reads
  | infinite negative =>
    have none : (infinite negative).toText.rational? = none := by cases negative <;> decide +kernel
    rw [none] at reads
    cases reads
  | finite negative units fits =>
    rw [to_text_finite] at reads
    by_cases zero : units = 0
    · subst zero
      rw [unsigned_text_zero.exact_signed] at reads
      obtain rfl := Option.some.inj reads
      cases negative <;> norm_num
    · have positive := Nat.pos_of_ne_zero zero
      have nonzero := @round_significant_pos 15 units unitsPerOne (by decide) positive unitsPerOne_pos
      have decimal : DecimalOf (unsignedText units)
          (placed (trimmedDigits (roundSignificant 15 units unitsPerOne).1)
            (roundSignificant 15 units unitsPerOne).2) := by
        have written : unsignedText units = (DecimalStyle.significant 15).write
            (trimmedDigits (roundSignificant 15 units unitsPerOne).1)
            (roundSignificant 15 units unitsPerOne).2 := by
          rw [unsignedText, if_neg zero]
        rw [written]
        exact DecimalStyle.decimal_write _ (trimmed_digits_nonempty nonzero) (trimmed_digits_plain _)
      rw [decimal.exact_signed] at reads
      obtain rfl := Option.some.inj reads
      cases negative with
      | true =>
        have above := (placed_bounds nonzero (roundSignificant 15 units unitsPerOne).2).1
        have nonneg : (0 : ℚ) ≤ 10 ^ (roundSignificant 15 units unitsPerOne).2 := by positivity
        simp only [if_true]
        linarith
      | false =>
        refine placed_le_ten positive (Nat.not_lt.mp fun beyond => low ?_)
        have ten : (10 : Binary64).place? = some ((10 * unitsPerOne : Nat) : Int) :=
          @place_of_whole 10 (by decide)
        have place : (finite false units fits).place? = some (units : Int) := rfl
        exact lt_iff_places.mpr ⟨_, _, ten, place, Int.ofNat_lt.mpr beyond⟩

end Binary64

end PrintParts
