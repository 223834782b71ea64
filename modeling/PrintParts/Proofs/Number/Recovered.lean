import PrintParts.Proofs.Number.Positional
import PrintParts.Proofs.Number.Range

/-!
Decimals that significant digits bring back. Reading a decimal well inside the range leads to a number relatively
near to it. A number that is nearer to a decimal of a few digits than the decimals of so many digits are to each
other is written with just those digits.
-/

namespace PrintParts

theorem ten_power_cast (exponent : Nat) : (tenPower exponent : ℚ) = 10 ^ (exponent : Int) := by
  rw [tenPower, Nat.pow_eq, Nat.cast_pow, zpow_natCast, Nat.cast_ofNat]

section

variable {numerator denominator : Nat}

/-- Where the numbers of the format have all their digits, half a step is a small part of the number. -/
theorem nearest_units_off (positive : 0 < denominator) (normal : twoPower 52 * denominator ≤ numerator) :
    twoPower 53 * (nearestUnits numerator denominator * denominator) ≤ twoPower 53 * numerator + numerator ∧
      twoPower 53 * numerator ≤ twoPower 53 * (nearestUnits numerator denominator * denominator) + numerator := by
  have quotient : twoPower 52 ≤ numerator / denominator := (Nat.le_div_iff_mul_le positive).mpr normal
  have nonzero : numerator / denominator ≠ 0 :=
    Nat.pos_iff_ne_zero.mp (Nat.lt_of_lt_of_le (twoPower_pos _) quotient)
  have step : twoPower 52 * (denominator * spacing (numerator / denominator)) ≤ numerator := by
    have binade : twoPower 52 * spacing (numerator / denominator) ≤ numerator / denominator := by
      have place := log2_le_log2 quotient
      rw [log2_twoPower] at place
      rw [spacing, ← twoPower_add, Nat.add_sub_cancel' place]
      exact Nat.log2_self_le nonzero
    calc twoPower 52 * (denominator * spacing (numerator / denominator))
        = denominator * (twoPower 52 * spacing (numerator / denominator)) := Nat.mul_left_comm _ _ _
      _ ≤ denominator * (numerator / denominator) := Nat.mul_le_mul_left _ binade
      _ ≤ numerator := Nat.mul_div_le _ _
  have grid := Nat.mul_pos positive (spacing_pos (numerator / denominator))
  have above := roundHalfEven_le_half_above numerator (denominator * spacing (numerator / denominator))
  have below := half_below_le_roundHalfEven numerator (denominator * spacing (numerator / denominator)) grid
  rw [nearestUnits, Nat.mul_assoc, Nat.mul_comm _ denominator]
  rw [show twoPower 52 = 4503599627370496 from rfl] at step
  rw [show twoPower 53 = 9007199254740992 from rfl]
  omega

/-- How far, relative to itself, a number is at most from the nearest one that has all the digits of the format. -/
def relativeError : ℚ := 1 / twoPower 53

theorem nearest_units_near {exact : ℚ} (positive : 0 < denominator) (same : (numerator : ℚ) = exact * denominator)
    (normal : twoPower 52 * denominator ≤ numerator) :
    |(nearestUnits numerator denominator : ℚ) - exact| ≤ relativeError * exact := by
  have scale : (0 : ℚ) < denominator := Nat.cast_pos.mpr positive
  have digits : (0 : ℚ) < twoPower 53 := Nat.cast_pos.mpr (twoPower_pos _)
  obtain ⟨above, beneath⟩ := nearest_units_off positive normal
  generalize nearestUnits numerator denominator = units at above beneath
  have high : (twoPower 53 * (units * denominator) : ℚ) ≤ twoPower 53 * numerator + numerator := mod_cast above
  have low : (twoPower 53 * numerator : ℚ) ≤ twoPower 53 * (units * denominator) + numerator :=
    mod_cast beneath
  rw [relativeError]
  generalize (twoPower 53 : ℚ) = scaled at digits high low
  rw [same] at high low
  have most : scaled * units ≤ scaled * exact + exact := by
    apply le_of_mul_le_mul_right _ scale
    linarith
  have least : scaled * exact ≤ scaled * units + exact := by
    apply le_of_mul_le_mul_right _ scale
    linarith
  rw [div_mul_eq_mul_div, one_mul, le_div_iff₀ digits]
  nth_rewrite 1 [← abs_of_pos digits]
  rw [← abs_mul, abs_le]
  constructor
  · linarith
  · linarith

end

namespace Binary64

theorem of_decimal_near {mantissa : Nat} {exponent : Int} (negative : Bool) (some : 0 < mantissa)
    (lower : 1 ≤ (mantissa : ℚ) * 10 ^ exponent * tenPower 300)
    (upper : (mantissa : ℚ) * 10 ^ exponent ≤ tenPower 300) :
    ∃ units fits, ofDecimal negative mantissa exponent = finite negative units fits ∧ 0 < units ∧
      |(units : ℚ) / unitsPerOne - mantissa * 10 ^ exponent| ≤ relativeError * (mantissa * 10 ^ exponent) := by
  have unit : (0 : ℚ) < unitsPerOne := Nat.cast_pos.mpr unitsPerOne_pos
  obtain ⟨reached, below⟩ := decimal_bounds some exponent
  have notAbove : ((Nat.toDigits 10 mantissa).length : Int) + exponent ≤ 310 := by
    rw [ten_power_cast] at upper
    have places := (zpow_le_zpow_iff_right₀ (by norm_num : (1 : ℚ) < 10)).mp (reached.trans upper)
    omega
  have notBelow : -330 ≤ ((Nat.toDigits 10 mantissa).length : Int) + exponent := by
    rw [ten_power_cast, ← div_le_iff₀ (by positivity), one_div, ← zpow_neg] at lower
    have places := (zpow_lt_zpow_iff_right₀ (by norm_num : (1 : ℚ) < 10)).mp (lower.trans_lt below)
    omega
  obtain ⟨numerator, denominator, divisor, same, exact⟩ :=
    of_decimal_ratio (Nat.pos_iff_ne_zero.mp some) notAbove notBelow negative
  generalize (mantissa : ℚ) * 10 ^ exponent = decimal at lower upper exact ⊢
  have scale : (0 : ℚ) < denominator := Nat.cast_pos.mpr divisor
  have positive : 0 ≤ decimal := by
    by_contra below
    have none : decimal * tenPower 300 ≤ 0 :=
      mul_nonpos_of_nonpos_of_nonneg (not_le.mp below).le (Nat.cast_nonneg _)
    linarith
  have normal : twoPower 52 * denominator ≤ numerator := by
    have fine : ((tenPower 300 * twoPower 52 : Nat) : ℚ) ≤ unitsPerOne := Nat.cast_le.mpr (by decide +kernel)
    apply (Nat.cast_le (α := ℚ)).mp
    rw [exact, Nat.cast_mul]
    refine mul_le_mul_of_nonneg_right ?_ scale.le
    calc (twoPower 52 : ℚ) = 1 * twoPower 52 := (one_mul _).symm
      _ ≤ decimal * tenPower 300 * twoPower 52 := mul_le_mul_of_nonneg_right lower (Nat.cast_nonneg _)
      _ = decimal * (tenPower 300 * twoPower 52 : Nat) := by rw [Nat.cast_mul, mul_assoc]
      _ ≤ decimal * unitsPerOne := mul_le_mul_of_nonneg_left fine positive
  have bounded : numerator ≤ twoPower (1000 + unitExponent) * denominator := by
    have room : (tenPower 300 : ℚ) ≤ twoPower 1000 := Nat.cast_le.mpr (by decide +kernel)
    have power : twoPower (1000 + unitExponent) = twoPower 1000 * unitsPerOne := by
      rw [unitsPerOne, ← twoPower_add]
    apply (Nat.cast_le (α := ℚ)).mp
    rw [exact, power, Nat.cast_mul, Nat.cast_mul]
    exact mul_le_mul_of_nonneg_right (mul_le_mul_of_nonneg_right (upper.trans room) unit.le) scale.le
  have high := nearest_units_le (spacing_dvd_twoPower _) divisor bounded
  have low := le_nearest_units (spacing_dvd_twoPower _) divisor normal
  have fits : nearestUnits numerator denominator < overflowUnits :=
    Nat.lt_of_le_of_lt high (twoPower_lt_twoPower (Nat.add_lt_add_right (by decide) _))
  refine ⟨_, _, same.trans (dif_pos fits), Nat.lt_of_lt_of_le (twoPower_pos _) low, ?_⟩
  have near := nearest_units_near divisor exact normal
  generalize (unitsPerOne : ℚ) = one at unit near
  generalize (nearestUnits numerator denominator : ℚ) = units at near
  rw [← mul_div_cancel_right₀ decimal unit.ne', ← sub_div, abs_div, abs_of_pos unit, mul_div_assoc']
  exact div_le_div_of_nonneg_right near unit.le

end Binary64

theorem tens_to_one_least {fuel numerator denominator : Nat} (short : numerator < 10 * denominator) :
    numerator * tenPower (tensToOne fuel numerator denominator) < 10 * denominator := by
  induction fuel generalizing numerator with
  | zero => simpa [tensToOne, tenPower] using short
  | succ fuel induction =>
    unfold tensToOne
    split
    · simpa [tenPower] using short
    · have later := @induction (10 * numerator) (by omega)
      calc numerator * tenPower (tensToOne fuel (10 * numerator) denominator + 1)
          = 10 * numerator * tenPower (tensToOne fuel (10 * numerator) denominator) := by
            rw [tenPower_add, show tenPower 1 = 10 from rfl]
            ring
        _ < 10 * denominator := later

theorem ten_zpow_split (exponent : Int) :
    (10 : ℚ) ^ exponent = (tenPower exponent.toNat : ℚ) / tenPower (-exponent).toNat := by
  rw [ten_power_cast, ten_power_cast, ← zpow_sub₀ (by norm_num)]
  congr 1
  omega

theorem leading_place_bounds {numerator denominator : Nat} (positive : 0 < numerator)
    (divisor : 0 < denominator) :
    (10 : ℚ) ^ leadingPlace numerator denominator ≤ (numerator : ℚ) / denominator ∧
      (numerator : ℚ) / denominator < 10 ^ (leadingPlace numerator denominator + 1) := by
  have scale : (0 : ℚ) < denominator := Nat.cast_pos.mpr divisor
  constructor
  · have reached := leading_place_reached positive divisor
    rw [ten_zpow_split, div_le_div_iff₀ (Nat.cast_pos.mpr (tenPower_pos _)) scale, mul_comm]
    exact mod_cast reached
  · rw [div_lt_iff₀ scale]
    unfold leadingPlace
    split
    · have below := (Nat.div_lt_iff_lt_mul divisor).mp (digits_upper_bound (numerator / denominator))
      rw [sub_add_cancel, ← ten_power_cast]
      exact mod_cast below
    · rename_i fractional
      have least := @tens_to_one_least (denominator.log2 + 1) numerator denominator (by omega)
      generalize tensToOne (denominator.log2 + 1) numerator denominator = tens at least
      rw [zpow_add₀ (by norm_num), zpow_neg, ← ten_power_cast, zpow_one, mul_assoc, ← div_eq_inv_mul,
        lt_div_iff₀ (Nat.cast_pos.mpr (tenPower_pos _))]
      exact mod_cast least

theorem round_half_even_of_near {numerator denominator whole : Nat} (positive : 0 < denominator)
    (near : |(numerator : ℚ) / denominator - whole| < 1 / 2) :
    roundHalfEven numerator denominator = whole := by
  have scale : (0 : ℚ) < denominator := Nat.cast_pos.mpr positive
  have above := roundHalfEven_le_half_above numerator denominator
  have below := half_below_le_roundHalfEven numerator denominator positive
  generalize roundHalfEven numerator denominator = rounded at above below
  have high : (rounded : ℚ) ≤ (numerator : ℚ) / denominator + 1 / 2 := by
    rw [← sub_le_iff_le_add, le_div_iff₀ scale]
    have cast : (2 * (rounded * denominator) : ℚ) ≤ 2 * numerator + denominator := mod_cast above
    linarith
  have low : (numerator : ℚ) / denominator ≤ rounded + 1 / 2 := by
    rw [div_le_iff₀ scale]
    have cast : (2 * numerator : ℚ) ≤ 2 * (rounded * denominator) + denominator := mod_cast below
    linarith
  obtain ⟨left, right⟩ := abs_lt.mp near
  have less : (rounded : ℚ) < whole + 1 := by linarith
  have more : (whole : ℚ) < rounded + 1 := by linarith
  have upper : rounded < whole + 1 := mod_cast less
  have lower : whole < rounded + 1 := mod_cast more
  omega

theorem round_shifted_of_near {numerator denominator whole : Nat} {shift : Int} (positive : 0 < denominator)
    (near : |(numerator : ℚ) / denominator * 10 ^ shift - whole| < 1 / 2) :
    roundShifted numerator denominator shift = whole := by
  unfold roundShifted
  split
  · rename_i up
    apply round_half_even_of_near positive
    have exponent : (shift.toNat : Int) = shift := Int.toNat_of_nonneg up
    rwa [Nat.cast_mul, ten_power_cast, exponent, mul_div_right_comm]
  · rename_i down
    apply round_half_even_of_near (Nat.mul_pos positive (tenPower_pos _))
    have exponent : ((-shift).toNat : Int) = -shift := Int.toNat_of_nonneg (by omega)
    rwa [Nat.cast_mul, ten_power_cast, exponent, zpow_neg, ← div_div, div_inv_eq_mul]

section

variable {precision mantissa : Nat} {exponent place : Int} {near error : ℚ}

/-- A decimal of so many digits is a whole number of the last places of what is near to it. -/
theorem whole_of_near (few : mantissa < 10 ^ precision) (nonneg : 0 ≤ error)
    (fine : 4 * (error * 10 ^ precision) ≤ 1)
    (close : |near - mantissa * 10 ^ exponent| ≤ error * (mantissa * 10 ^ exponent))
    (reached : 10 ^ place ≤ near) :
    ∃ whole : Nat, (mantissa : ℚ) * 10 ^ exponent * 10 ^ (precision - 1 - place) = whole := by
  by_cases shallow : 0 ≤ exponent + (precision - 1 - place)
  · obtain ⟨zeros, same⟩ := Int.eq_ofNat_of_zero_le shallow
    refine ⟨mantissa * 10 ^ zeros, ?_⟩
    rw [mul_assoc, ← zpow_add₀ (by norm_num), same, zpow_natCast, Nat.cast_mul, Nat.cast_pow, Nat.cast_ofNat]
  · -- A decimal with places behind the last one is too far below the decade.
    exfalso
    have last : (0 : ℚ) < 10 ^ (place - precision) := zpow_pos (by norm_num) _
    have decade : (10 : ℚ) ^ place = 10 ^ precision * 10 ^ (place - precision) := by
      rw [← zpow_natCast, ← zpow_add₀ (by norm_num), add_sub_cancel]
    have digits : (mantissa : ℚ) ≤ 10 ^ precision - 1 := by
      rw [le_sub_iff_add_le]
      exact mod_cast few
    have below : (mantissa : ℚ) * 10 ^ exponent ≤ 10 ^ place - 10 ^ (place - precision) := by
      calc (mantissa : ℚ) * 10 ^ exponent ≤ (10 ^ precision - 1) * 10 ^ (place - precision) := by
            have deep : (10 : ℚ) ^ exponent ≤ 10 ^ (place - precision) :=
              zpow_le_zpow_right₀ (by norm_num) (by omega)
            exact mul_le_mul digits deep (by positivity) ((Nat.cast_nonneg _).trans digits)
        _ = 10 ^ place - 10 ^ (place - precision) := by rw [decade]; ring
    have off : error * (mantissa * 10 ^ exponent) ≤ 10 ^ (place - precision) / 4 := by
      calc error * (mantissa * 10 ^ exponent) ≤ error * 10 ^ place :=
            mul_le_mul_of_nonneg_left (by linarith) nonneg
        _ = error * 10 ^ precision * 10 ^ (place - precision) := by rw [decade]; ring
        _ ≤ 1 / 4 * 10 ^ (place - precision) := mul_le_mul_of_nonneg_right (by linarith) last.le
        _ = 10 ^ (place - precision) / 4 := by ring
    have away := (abs_le.mp close).2
    linarith

theorem near_at_last_place {exact : ℚ} (fine : 4 * (error * 10 ^ precision) ≤ 1) (nonneg : 0 ≤ error)
    (close : |near - exact| ≤ error * exact) (below : near < 10 ^ (place + 1)) (positive : 0 < exact) :
    |near * 10 ^ (precision - 1 - place) - exact * 10 ^ (precision - 1 - place)| < 1 / 2 := by
  have scale : (0 : ℚ) < 10 ^ ((precision : Int) - 1 - place) := zpow_pos (by norm_num) _
  have digits : (1 : ℚ) ≤ 10 ^ precision := one_le_pow₀ (by norm_num)
  have quarter : error ≤ 1 / 4 := by nlinarith
  have most : 3 / 4 * exact ≤ near := by
    have away := (abs_le.mp close).1
    nlinarith
  have decade : (10 : ℚ) ^ (place + 1) * 10 ^ ((precision : Int) - 1 - place) = 10 ^ precision := by
    rw [← zpow_add₀ (by norm_num), ← zpow_natCast]
    congr 1
    omega
  calc |near * 10 ^ ((precision : Int) - 1 - place) - exact * 10 ^ ((precision : Int) - 1 - place)|
      = |near - exact| * 10 ^ ((precision : Int) - 1 - place) := by
        rw [← sub_mul, abs_mul, abs_of_pos scale]
    _ ≤ error * exact * 10 ^ ((precision : Int) - 1 - place) := mul_le_mul_of_nonneg_right close scale.le
    _ ≤ error * (4 / 3 * 10 ^ (place + 1)) * 10 ^ ((precision : Int) - 1 - place) := by
        refine mul_le_mul_of_nonneg_right (mul_le_mul_of_nonneg_left ?_ nonneg) scale.le
        linarith
    _ = 4 / 3 * (error * 10 ^ precision) := by rw [← decade]; ring
    _ < 1 / 2 := by linarith

theorem digits_length {value places : Nat} (lower : tenPower places ≤ value)
    (upper : value < tenPower (places + 1)) : (Nat.toDigits 10 value).length = places + 1 := by
  have most := (Nat.length_toDigits_le_iff (by decide : 1 < 10) (Nat.succ_pos places)).mpr upper
  by_contra other
  have fewer := (Nat.length_toDigits_le_iff (by decide : 1 < 10) Nat.length_toDigits_pos).mp
    (Nat.le_refl (Nat.toDigits 10 value).length)
  have power : tenPower (Nat.toDigits 10 value).length ≤ tenPower places :=
    Nat.pow_le_pow_right (by decide) (by omega)
  exact Nat.lt_irrefl _ (Nat.lt_of_lt_of_le fewer (Nat.le_trans power lower))

theorem placed_carry {digits : Nat} (lower : tenPower precision ≤ digits)
    (upper : digits ≤ tenPower (precision + 1)) :
    placed (trimmedDigits (carryDigit (precision + 1) digits place).1)
      (carryDigit (precision + 1) digits place).2 = digits * 10 ^ (place - precision) := by
  unfold carryDigit
  split
  · rename_i carries
    have length := @digits_length (tenPower precision) precision (Nat.le_refl _)
      (Nat.pow_lt_pow_right (by decide) (Nat.lt_succ_self _))
    rw [Nat.add_sub_cancel, placed_trimmed, length, carries, ten_power_cast, ten_power_cast,
      ← zpow_add₀ (by norm_num), ← zpow_add₀ (by norm_num)]
    congr 1
    omega
  · rename_i stays
    have length := digits_length lower (Nat.lt_of_le_of_ne upper stays)
    rw [placed_trimmed, length]
    congr 2
    omega

/-- Significant digits bring back the decimal that a quotient is near to. -/
theorem placed_of_near {numerator denominator : Nat} (positive : 0 < numerator) (divisor : 0 < denominator)
    (few : mantissa < 10 ^ (precision + 1)) (nonneg : 0 ≤ error)
    (fine : 4 * (error * 10 ^ (precision + 1)) ≤ 1) (some : 0 < mantissa)
    (close : |(numerator : ℚ) / denominator - mantissa * 10 ^ exponent| ≤ error * (mantissa * 10 ^ exponent)) :
    placed (trimmedDigits (roundSignificant (precision + 1) numerator denominator).1)
      (roundSignificant (precision + 1) numerator denominator).2 = mantissa * 10 ^ exponent := by
  obtain ⟨reached, below⟩ := leading_place_bounds positive divisor
  generalize found : leadingPlace numerator denominator = place at reached below
  have exactPositive : (0 : ℚ) < mantissa * 10 ^ exponent :=
    mul_pos (Nat.cast_pos.mpr some) (zpow_pos (by norm_num) _)
  obtain ⟨whole, same⟩ := whole_of_near few nonneg fine close reached
  have nearWhole := near_at_last_place fine nonneg close below exactPositive
  rw [same] at nearWhole
  have digits : roundSignificant (precision + 1) numerator denominator =
      carryDigit (precision + 1) whole place := by
    rw [roundSignificant, found, round_shifted_of_near divisor nearWhole]
  have shift : (((precision + 1 : Nat) : Int) - 1 - place) = precision - place := by omega
  rw [shift] at same nearWhole
  have scale : (0 : ℚ) < 10 ^ ((precision : Int) - place) := zpow_pos (by norm_num) _
  obtain ⟨left, right⟩ := abs_lt.mp nearWhole
  have lower : tenPower precision ≤ whole := by
    have first : (10 : ℚ) ^ place * 10 ^ ((precision : Int) - place) = tenPower precision := by
      rw [ten_power_cast, ← zpow_add₀ (by norm_num), add_sub_cancel]
    have least := mul_le_mul_of_nonneg_right reached scale.le
    have cast : (tenPower precision : ℚ) < whole + 1 := by linarith
    exact Nat.lt_succ_iff.mp (mod_cast cast)
  have upper : whole ≤ tenPower (precision + 1) := by
    have next : (10 : ℚ) ^ (place + 1) * 10 ^ ((precision : Int) - place) = tenPower (precision + 1) := by
      rw [ten_power_cast, ← zpow_add₀ (by norm_num)]
      congr 1
      omega
    have most := mul_lt_mul_of_pos_right below scale
    have cast : (whole : ℚ) < tenPower (precision + 1) + 1 := by linarith
    exact Nat.lt_succ_iff.mp (mod_cast cast)
  rw [digits, placed_carry lower upper, ← same, mul_assoc, ← zpow_add₀ (by norm_num), sub_add_sub_cancel,
    sub_self, zpow_zero, mul_one]

end

end PrintParts
