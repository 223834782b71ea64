import Mathlib.Algebra.Order.Field.Power
import Mathlib.Data.Nat.Log
import Mathlib.Tactic.FieldSimp
import Mathlib.Tactic.GCongr
import Mathlib.Tactic.Linarith
import Mathlib.Tactic.Positivity
import PrintParts.Proofs.Number.Rendered

/-!
The order of machine numbers. A number is compared by its place on the number line, and rounding never
passes a number of the format: a decimal that is not above a small whole number is not rounded above
it, and one that is not below it is not rounded below it.
-/

namespace PrintParts

theorem round_half_even_le {numerator denominator bound : Nat} (positive : 0 < denominator)
    (below : numerator ≤ bound * denominator) : roundHalfEven numerator denominator ≤ bound := by
  rcases Nat.lt_or_eq_of_le below with less | same
  · have quotient := (Nat.div_lt_iff_lt_mul positive).mpr less
    have step := roundHalfEven_le_succ_div numerator denominator
    omega
  · rw [same, roundHalfEven_mul_self bound denominator positive]

theorem le_round_half_even {numerator denominator bound : Nat} (positive : 0 < denominator)
    (above : bound * denominator ≤ numerator) : bound ≤ roundHalfEven numerator denominator :=
  Nat.le_trans ((Nat.le_div_iff_mul_le positive).mpr above) (div_le_roundHalfEven _ _)

theorem log2_le_log2 {small large : Nat} (le : small ≤ large) : small.log2 ≤ large.log2 := by
  rw [Nat.log2_eq_log_two, Nat.log2_eq_log_two]
  exact Nat.log_mono_right le

theorem twoPower_lt_twoPower {small large : Nat} (lt : small < large) :
    twoPower small < twoPower large := Nat.pow_lt_pow_right (by decide) lt

/-- Rounding stays at or below a number of the format. -/
theorem nearest_units_le {units numerator denominator : Nat} (aligned : spacing units ∣ units)
    (positive : 0 < denominator) (below : numerator ≤ units * denominator) :
    nearestUnits numerator denominator ≤ units := by
  have quotient : numerator / denominator ≤ units := Nat.div_le_of_le_mul (Nat.mul_comm _ _ ▸ below)
  have finer : spacing (numerator / denominator) ∣ spacing units :=
    twoPower_dvd_twoPower (Nat.sub_le_sub_right (log2_le_log2 quotient) 52)
  obtain ⟨count, whole⟩ := Nat.dvd_trans finer aligned
  have step := spacing_pos (numerator / denominator)
  rw [Nat.mul_comm] at whole
  have counted : roundHalfEven numerator (denominator * spacing (numerator / denominator)) ≤ count := by
    apply round_half_even_le (Nat.mul_pos positive step)
    calc numerator ≤ units * denominator := below
      _ = count * (denominator * spacing (numerator / denominator)) := by
        rw [Nat.mul_left_comm, ← whole, Nat.mul_comm]
  calc nearestUnits numerator denominator
      = roundHalfEven numerator (denominator * spacing (numerator / denominator)) *
          spacing (numerator / denominator) := rfl
    _ ≤ count * spacing (numerator / denominator) := Nat.mul_le_mul_right _ counted
    _ = units := whole.symm

/-- Rounding stays at or above a number of the format. -/
theorem le_nearest_units {units numerator denominator : Nat} (aligned : spacing units ∣ units)
    (positive : 0 < denominator) (above : units * denominator ≤ numerator) :
    units ≤ nearestUnits numerator denominator := by
  have quotient : units ≤ numerator / denominator := (Nat.le_div_iff_mul_le positive).mpr above
  generalize spaced : spacing (numerator / denominator) = step
  have some : 0 < step := spaced ▸ spacing_pos _
  have counted : ∀ count, count * step * denominator ≤ numerator →
      count * step ≤ nearestUnits numerator denominator := by
    intro count reached
    simp only [nearestUnits, spaced]
    apply Nat.mul_le_mul_right
    apply le_round_half_even (Nat.mul_pos positive some)
    rwa [Nat.mul_comm denominator, ← Nat.mul_assoc]
  by_cases level : (numerator / denominator).log2 = units.log2
  · obtain ⟨count, whole⟩ := aligned
    rw [spacing, ← level, Nat.mul_comm] at whole
    rw [spacing] at spaced
    rw [spaced] at whole
    rw [whole]
    apply counted
    rwa [← whole]
  · -- The quotient lies in a higher binade, whose beginning is on its own grid.
    have nonzero : numerator / denominator ≠ 0 := by
      intro zero
      rw [zero] at quotient level
      exact level (by rw [Nat.le_zero.mp quotient])
    have higher : units.log2 < (numerator / denominator).log2 :=
      Nat.lt_of_le_of_ne (log2_le_log2 quotient) (Ne.symm level)
    have begins : twoPower (numerator / denominator).log2 ≤ numerator / denominator :=
      Nat.log2_self_le nonzero
    have below : units ≤ twoPower (numerator / denominator).log2 :=
      Nat.le_of_lt (Nat.lt_of_lt_of_le (lt_twoPower_log2 units) (twoPower_le_twoPower higher))
    obtain ⟨count, whole⟩ : step ∣ twoPower (numerator / denominator).log2 :=
      spaced ▸ twoPower_dvd_twoPower (Nat.sub_le _ 52)
    rw [Nat.mul_comm] at whole
    rw [whole] at begins below
    exact Nat.le_trans below (counted count ((Nat.le_div_iff_mul_le positive).mp begins))

theorem digits_upper_bound (value : Nat) : value < tenPower (Nat.toDigits 10 value).length :=
  (Nat.length_toDigits_le_iff (by decide) Nat.length_toDigits_pos).mp (Nat.le_refl _)

theorem decimal_bounds {mantissa : Nat} (positive : 0 < mantissa) (exponent : Int) :
    (10 : ℚ) ^ ((Nat.toDigits 10 mantissa).length - 1 + exponent) ≤ mantissa * 10 ^ exponent ∧
      (mantissa : ℚ) * 10 ^ exponent < 10 ^ ((Nat.toDigits 10 mantissa).length + exponent) := by
  have some : 0 < (Nat.toDigits 10 mantissa).length := Nat.length_toDigits_pos
  have lower : (10 : ℚ) ^ ((Nat.toDigits 10 mantissa).length - 1) ≤ mantissa :=
    mod_cast digits_lower_bound positive
  have upper : (mantissa : ℚ) < 10 ^ (Nat.toDigits 10 mantissa).length :=
    mod_cast digits_upper_bound mantissa
  constructor
  · rw [zpow_add₀ (by norm_num), show ((Nat.toDigits 10 mantissa).length : Int) - 1 =
      ((Nat.toDigits 10 mantissa).length - 1 : Nat) by omega, zpow_natCast]
    gcongr
  · rw [zpow_add₀ (by norm_num), zpow_natCast]
    gcongr

namespace Binary64

variable {left middle right : Binary64}

theorem lt_iff_places : left < right ↔
    ∃ low high, left.place? = some low ∧ right.place? = some high ∧ low < high := by
  show left.lt right = true ↔ _
  unfold lt
  cases left.place? <;> cases right.place? <;> simp

theorem le_iff_places : left ≤ right ↔
    ∃ low high, left.place? = some low ∧ right.place? = some high ∧ low ≤ high := by
  show left.le right = true ↔ _
  unfold le
  cases left.place? <;> cases right.place? <;> simp

theorem le_trans (first : left ≤ middle) (second : middle ≤ right) : left ≤ right := by
  obtain ⟨low, between, isLow, isBetween, lower⟩ := le_iff_places.mp first
  obtain ⟨same, high, isSame, isHigh, upper⟩ := le_iff_places.mp second
  obtain rfl := Option.some.inj (isBetween.symm.trans isSame)
  exact le_iff_places.mpr ⟨low, high, isLow, isHigh, Int.le_trans lower upper⟩

theorem le_of_lt (ordered : left < right) : left ≤ right := by
  obtain ⟨low, high, isLow, isHigh, below⟩ := lt_iff_places.mp ordered
  exact le_iff_places.mpr ⟨low, high, isLow, isHigh, Int.le_of_lt below⟩

theorem lt_of_le_of_lt (first : left ≤ middle) (second : middle < right) : left < right := by
  obtain ⟨low, between, isLow, isBetween, lower⟩ := le_iff_places.mp first
  obtain ⟨same, high, isSame, isHigh, upper⟩ := lt_iff_places.mp second
  obtain rfl := Option.some.inj (isBetween.symm.trans isSame)
  exact lt_iff_places.mpr ⟨low, high, isLow, isHigh, Int.lt_of_le_of_lt lower upper⟩

theorem lt_of_lt_of_le (first : left < middle) (second : middle ≤ right) : left < right := by
  obtain ⟨low, between, isLow, isBetween, lower⟩ := lt_iff_places.mp first
  obtain ⟨same, high, isSame, isHigh, upper⟩ := le_iff_places.mp second
  obtain rfl := Option.some.inj (isBetween.symm.trans isSame)
  exact lt_iff_places.mpr ⟨low, high, isLow, isHigh, Int.lt_of_lt_of_le lower upper⟩

theorem lt_trans (first : left < middle) (second : middle < right) : left < right :=
  lt_of_le_of_lt (le_of_lt first) second

theorem numbers_of_le (ordered : left ≤ right) : left ≠ nan ∧ right ≠ nan := by
  obtain ⟨_, _, isLow, isHigh, -⟩ := le_iff_places.mp ordered
  constructor
  · rintro rfl
    cases isLow
  · rintro rfl
    cases isHigh

theorem not_lt_of_le (ordered : left ≤ right) : ¬ right < left := by
  obtain ⟨low, high, isLow, isHigh, lower⟩ := le_iff_places.mp ordered
  intro reversed
  obtain ⟨same, other, isSame, isOther, upper⟩ := lt_iff_places.mp reversed
  obtain rfl := Option.some.inj (isHigh.symm.trans isSame)
  obtain rfl := Option.some.inj (isLow.symm.trans isOther)
  omega

/-- A NaN is neither above another number nor at or below it. -/
theorem le_of_not_lt (leftNumber : left ≠ .nan) (rightNumber : right ≠ .nan)
    (ordered : ¬ right < left) : left ≤ right := by
  rw [lt_iff_places] at ordered
  rw [le_iff_places]
  cases left with
  | nan => exact absurd rfl leftNumber
  | infinite _ | finite _ _ _ =>
    cases right with
    | nan => exact absurd rfl rightNumber
    | infinite _ | finite _ _ _ => simpa [place?] using ordered

theorem number_of_finite (isFinite : left.isFinite = true) : left ≠ .nan := by
  rintro rfl
  cases isFinite

theorem lt_irrefl (value : Binary64) : ¬ value < value :=
  fun below => not_lt_of_le (le_of_lt below) below

theorem le_refl_of_number (number : left ≠ .nan) : left ≤ left :=
  le_of_not_lt number number (lt_irrefl left)

theorem lt_of_not_le (leftNumber : left ≠ .nan) (rightNumber : right ≠ .nan)
    (ordered : ¬ right ≤ left) : left < right := by
  by_contra notBelow
  exact ordered (le_of_not_lt rightNumber leftNumber notBelow)

theorem signed_units_false (units : Nat) : signedUnits false units = units := rfl

theorem place_of_zero (negative : Bool) : (zero negative).place? = some 0 := by
  cases negative <;> rfl

theorem place_of_unit_ratio (negative : Bool) (numerator denominator : Nat) :
    (ofUnitRatio negative numerator denominator).place? =
      some (signedUnits negative (min (nearestUnits numerator denominator) overflowUnits)) := by
  unfold ofUnitRatio
  split
  · rename_i bounded
    rw [Nat.min_eq_left (Nat.le_of_lt bounded)]
    rfl
  · rename_i beyond
    rw [Nat.min_eq_right (Nat.le_of_not_lt beyond)]
    rfl

theorem of_decimal_ratio {mantissa : Nat} {exponent : Int} (nonzero : mantissa ≠ 0)
    (notAbove : ((Nat.toDigits 10 mantissa).length : Int) + exponent ≤ 310)
    (notBelow : -330 ≤ ((Nat.toDigits 10 mantissa).length : Int) + exponent) (negative : Bool) :
    ∃ numerator denominator, 0 < denominator ∧
      ofDecimal negative mantissa exponent = ofUnitRatio negative numerator denominator ∧
      (numerator : ℚ) = mantissa * 10 ^ exponent * unitsPerOne * denominator := by
  simp only [ofDecimal, if_neg nonzero, if_neg (Int.not_lt.mpr notAbove),
    if_neg (Int.not_lt.mpr notBelow)]
  generalize unitsPerOne = unit
  split
  · rename_i whole
    refine ⟨_, _, Nat.one_pos, rfl, ?_⟩
    obtain ⟨places, rfl⟩ := Int.eq_ofNat_of_zero_le whole
    simp [tenPower]
  · rename_i fractional
    refine ⟨_, _, tenPower_pos _, rfl, ?_⟩
    obtain ⟨places, same⟩ := Int.eq_ofNat_of_zero_le (Int.le_of_lt (Int.neg_pos_of_neg (Int.not_le.mp fractional)))
    obtain rfl : exponent = -(places : Int) := by omega
    have power : (10 : ℚ) ^ places ≠ 0 := by positivity
    simp only [neg_neg, Int.toNat_natCast, tenPower, Nat.pow_eq, zpow_neg, zpow_natCast]
    push_cast
    field_simp

theorem beyond_whole : twoPower 53 * unitsPerOne < overflowUnits := by
  rw [unitsPerOne, overflowUnits, ← twoPower_add]
  exact twoPower_lt_twoPower (Nat.add_lt_add_right (by decide) _)

theorem representable_whole {whole : Nat} (small : whole ≤ twoPower 53) :
    Representable (whole * unitsPerOne) := by
  refine ⟨spacing_dvd_mul_twoPower small, ?_⟩
  exact Nat.lt_of_le_of_lt (Nat.mul_le_mul_right _ small) beyond_whole

theorem place_of_whole {whole : Nat} (small : whole ≤ twoPower 53) :
    (ofIntRounded whole).place? = some (whole * unitsPerOne : Nat) := by
  have fits := representable_whole small
  have unsigned : decide ((whole : Int) < 0) = false := by simp
  rw [ofIntRounded, unsigned, Int.natAbs_natCast, place_of_unit_ratio,
    nearest_units_of_representable fits, Nat.min_eq_left (Nat.le_of_lt fits.2)]
  rfl

section

variable {mantissa whole : Nat} {exponent : Int}

/-- A decimal that is not above a small whole number is not rounded above it. -/
theorem of_decimal_le (small : whole ≤ twoPower 53)
    (below : (mantissa : ℚ) * 10 ^ exponent ≤ whole) :
    ofDecimal false mantissa exponent ≤ ofIntRounded whole := by
  have fits := representable_whole small
  have zeroBelow : zero false ≤ ofIntRounded whole :=
    le_iff_places.mpr ⟨_, _, place_of_zero false, place_of_whole small, Int.natCast_nonneg _⟩
  by_cases none : mantissa = 0
  · simpa only [ofDecimal, if_pos none] using zeroBelow
  have reached := (decimal_bounds (Nat.pos_of_ne_zero none) exponent).1
  have notAbove : ((Nat.toDigits 10 mantissa).length : Int) + exponent ≤ 310 := by
    have whole_lt : (whole : ℚ) < 10 ^ (16 : Int) := by
      calc (whole : ℚ) ≤ (twoPower 53 : Nat) := Nat.cast_le.mpr small
        _ < 10 ^ (16 : Int) := by norm_num [twoPower]
    have places := (zpow_lt_zpow_iff_right₀ (by norm_num : (1 : ℚ) < 10)).mp
      ((reached.trans below).trans_lt whole_lt)
    omega
  by_cases notBelow : -330 ≤ ((Nat.toDigits 10 mantissa).length : Int) + exponent
  · obtain ⟨numerator, denominator, positive, same, exact⟩ :=
      of_decimal_ratio none notAbove notBelow false
    have scaled : numerator ≤ whole * unitsPerOne * denominator := by
      have cast : (numerator : ℚ) ≤ (whole * unitsPerOne * denominator : Nat) := by
        rw [exact, Nat.cast_mul, Nat.cast_mul]
        exact mul_le_mul_of_nonneg_right
          (mul_le_mul_of_nonneg_right below (Nat.cast_nonneg _)) (Nat.cast_nonneg _)
      exact Nat.cast_le.mp cast
    have rounded := nearest_units_le fits.1 positive scaled
    rw [same]
    refine le_iff_places.mpr ⟨_, _, place_of_unit_ratio _ _ _, place_of_whole small, ?_⟩
    rw [signed_units_false, Int.ofNat_le]
    exact Nat.le_trans (Nat.min_le_left _ _) rounded
  · simpa only [ofDecimal, if_neg none, if_neg (Int.not_lt.mpr notAbove),
      if_pos (Int.not_le.mp notBelow)] using zeroBelow

theorem finite_le_of_decimal {units : Nat} (fits : Representable units) (positive : 0 < units)
    (above : (units : ℚ) ≤ mantissa * 10 ^ exponent * unitsPerOne) :
    finite false units fits ≤ ofDecimal false mantissa exponent := by
  have one : (1 : ℚ) ≤ units := Nat.one_le_cast.mpr positive
  have none : mantissa ≠ 0 := by
    rintro rfl
    rw [Nat.cast_zero, zero_mul, zero_mul] at above
    linarith
  have short := (decimal_bounds (Nat.pos_of_ne_zero none) exponent).2
  have notBelow : -330 ≤ ((Nat.toDigits 10 mantissa).length : Int) + exponent := by
    by_contra below
    have unit : (unitsPerOne : ℚ) ≤ 10 ^ 331 := by
      exact_mod_cast (by decide +kernel : unitsPerOne ≤ 10 ^ 331)
    have vanishing : (10 : ℚ) ^ ((Nat.toDigits 10 mantissa).length + exponent) ≤ 10 ^ (-331 : Int) :=
      zpow_le_zpow_right₀ (by norm_num) (by omega)
    have less : (mantissa : ℚ) * 10 ^ exponent * unitsPerOne < 1 := by
      calc (mantissa : ℚ) * 10 ^ exponent * unitsPerOne < 10 ^ (-331 : Int) * unitsPerOne :=
            mul_lt_mul_of_pos_right (short.trans_le vanishing) (Nat.cast_pos.mpr unitsPerOne_pos)
        _ ≤ 10 ^ (-331 : Int) * 10 ^ 331 := mul_le_mul_of_nonneg_left unit (by positivity)
        _ = 1 := by norm_num
    linarith
  by_cases notAbove : ((Nat.toDigits 10 mantissa).length : Int) + exponent ≤ 310
  · obtain ⟨numerator, denominator, divisor, same, exact⟩ :=
      of_decimal_ratio none notAbove notBelow false
    have scaled : units * denominator ≤ numerator := by
      have cast : ((units * denominator : Nat) : ℚ) ≤ numerator := by
        rw [exact, Nat.cast_mul]
        exact mul_le_mul_of_nonneg_right above (Nat.cast_nonneg _)
      exact Nat.cast_le.mp cast
    have rounded := le_nearest_units fits.1 divisor scaled
    rw [same]
    refine le_iff_places.mpr ⟨_, _, rfl, place_of_unit_ratio _ _ _, ?_⟩
    rw [signed_units_false, signed_units_false, Int.ofNat_le]
    exact Nat.le_min.mpr ⟨rounded, Nat.le_of_lt fits.2⟩
  · simp only [ofDecimal, if_neg none, if_pos (Int.not_le.mp notAbove)]
    refine le_iff_places.mpr ⟨_, _, rfl, rfl, ?_⟩
    rw [signed_units_false, signed_units_false, Int.ofNat_le]
    exact Nat.le_of_lt fits.2

theorem le_of_decimal (small : whole ≤ twoPower 53) (positive : 0 < whole)
    (above : (whole : ℚ) ≤ mantissa * 10 ^ exponent) :
    ofIntRounded whole ≤ ofDecimal false mantissa exponent := by
  have scaled : ((whole * unitsPerOne : Nat) : ℚ) ≤ mantissa * 10 ^ exponent * unitsPerOne := by
    rw [Nat.cast_mul]
    exact mul_le_mul_of_nonneg_right above (Nat.cast_nonneg _)
  obtain ⟨low, high, isLow, isHigh, ordered⟩ := le_iff_places.mp
    (finite_le_of_decimal (representable_whole small) (Nat.mul_pos positive unitsPerOne_pos) scaled)
  cases isLow
  exact le_iff_places.mpr ⟨_, high, place_of_whole small, isHigh, ordered⟩

theorem of_decimal_pos (above : (1 : ℚ) ≤ mantissa * 10 ^ exponent * unitsPerOne) :
    0 < ofDecimal false mantissa exponent := by
  have fits : Representable 1 := by decide +kernel
  refine lt_of_lt_of_le ?_ (finite_le_of_decimal fits Nat.one_pos (Nat.cast_one.trans_le above))
  rw [zero_eq]
  exact lt_iff_places.mpr ⟨0, 1, place_of_zero false, rfl, Int.one_pos⟩

end

end Binary64

end PrintParts
