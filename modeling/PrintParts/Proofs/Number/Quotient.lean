import Mathlib.Data.Rat.Floor
import PrintParts.Proofs.Number.Order

/-!
Quotients of natural numbers, rounded once. A dividend of at most `2 ^ 53` leaves the rounded quotient
on the same side of every whole number as the exact one: rounding up stops at the next whole number,
as that is a number of the format, and rounding down stops short of the one before, as a quotient that
is not whole is further away from it than half the distance between neighbouring numbers. So the
ceiling of the rounded quotient, and its comparison with an integer, are those of the exact one.
-/

namespace PrintParts

theorem log2_of_quotient {number exponent : Nat} (some : number / twoPower exponent ≠ 0) :
    number.log2 = (number / twoPower exponent).log2 + exponent := by
  have positive := twoPower_pos exponent
  have nonzero : number ≠ 0 := by
    rintro rfl
    exact some (Nat.zero_div _)
  rw [Nat.log2_eq_iff nonzero]
  constructor
  · calc 2 ^ ((number / twoPower exponent).log2 + exponent)
        = 2 ^ (number / twoPower exponent).log2 * twoPower exponent := Nat.pow_add _ _ _
      _ ≤ number / twoPower exponent * twoPower exponent :=
        Nat.mul_le_mul_right _ (Nat.log2_self_le some)
      _ ≤ number := Nat.div_mul_le_self _ _
  · calc number < (number / twoPower exponent + 1) * twoPower exponent := by
          rw [Nat.mul_comm]
          exact Nat.lt_mul_div_succ number positive
      _ ≤ twoPower ((number / twoPower exponent).log2 + 1) * twoPower exponent :=
        Nat.mul_le_mul_right _ (lt_twoPower_log2 _)
      _ = 2 ^ ((number / twoPower exponent).log2 + exponent + 1) := by
        rw [← twoPower_add, twoPower]
        congr 1
        omega

section

variable {numerator denominator whole : Nat}

theorem nearest_quotient_le (small : whole ≤ twoPower 53) (positive : 0 < denominator)
    (below : numerator ≤ whole * denominator) :
    nearestUnits (numerator * unitsPerOne) denominator ≤ whole * unitsPerOne := by
  apply nearest_units_le (Binary64.representable_whole small).1 positive
  rw [Nat.mul_right_comm]
  exact Nat.mul_le_mul_right _ below

theorem le_nearest_quotient (small : whole ≤ twoPower 53) (positive : 0 < denominator)
    (above : whole * denominator ≤ numerator) :
    whole * unitsPerOne ≤ nearestUnits (numerator * unitsPerOne) denominator := by
  apply le_nearest_units (Binary64.representable_whole small).1 positive
  rw [Nat.mul_right_comm]
  exact Nat.mul_le_mul_right _ above

/-- Half the distance between the numbers around a quotient is less than the part of it behind the
point, if there is one. -/
theorem spacing_of_quotient (small : numerator ≤ twoPower 53)
    (some : 0 < numerator / denominator)
    (rest : numerator / denominator * denominator < numerator) :
    denominator * spacing (numerator * unitsPerOne / denominator) < 2 * unitsPerOne := by
  have scaled : numerator * unitsPerOne / denominator / unitsPerOne = numerator / denominator := by
    rw [Nat.div_div_eq_div_mul, Nat.mul_div_mul_right _ _ unitsPerOne_pos]
  have place : (numerator * unitsPerOne / denominator).log2 =
      (numerator / denominator).log2 + unitExponent := by
    have lead := @log2_of_quotient (numerator * unitsPerOne / denominator) unitExponent
    rw [show twoPower unitExponent = unitsPerOne from rfl, scaled] at lead
    exact lead (Nat.pos_iff_ne_zero.mp some)
  have finer : spacing (numerator * unitsPerOne / denominator) * twoPower 52 =
      twoPower (numerator / denominator).log2 * unitsPerOne := by
    rw [spacing, place, unitsPerOne, ← twoPower_add, ← twoPower_add]
    congr 1
  have leading : denominator * twoPower (numerator / denominator).log2 < twoPower 53 :=
    calc denominator * twoPower (numerator / denominator).log2
        ≤ denominator * (numerator / denominator) :=
          Nat.mul_le_mul_left _ (Nat.log2_self_le (Nat.pos_iff_ne_zero.mp some))
      _ < numerator := by rwa [Nat.mul_comm]
      _ ≤ twoPower 53 := small
  apply Nat.lt_of_mul_lt_mul_right (a := twoPower 52)
  calc denominator * spacing (numerator * unitsPerOne / denominator) * twoPower 52
      = denominator * twoPower (numerator / denominator).log2 * unitsPerOne := by
        rw [Nat.mul_assoc, finer, Nat.mul_assoc]
    _ < twoPower 53 * unitsPerOne := Nat.mul_lt_mul_of_pos_right leading unitsPerOne_pos
    _ = 2 * unitsPerOne * twoPower 52 := by
        rw [show twoPower 53 = 2 * twoPower 52 from rfl, Nat.mul_right_comm]

theorem floor_lt_nearest_quotient (small : numerator ≤ twoPower 53) (positive : 0 < denominator)
    (some : 0 < numerator / denominator)
    (rest : numerator / denominator * denominator < numerator) :
    numerator / denominator * unitsPerOne <
      nearestUnits (numerator * unitsPerOne) denominator := by
  have near := spacing_of_quotient small some rest
  by_contra notAbove
  have reached := Nat.le_of_not_lt notAbove
  generalize spaced : spacing (numerator * unitsPerOne / denominator) = step at near
  have stepPositive : 0 < denominator * step :=
    Nat.mul_pos positive (spaced ▸ spacing_pos _)
  have half := half_below_le_roundHalfEven (numerator * unitsPerOne) (denominator * step) stepPositive
  have rounded : roundHalfEven (numerator * unitsPerOne) (denominator * step) * (denominator * step) ≤
      numerator / denominator * unitsPerOne * denominator := by
    rw [Nat.mul_left_comm, Nat.mul_comm denominator]
    apply Nat.mul_le_mul_right
    simpa only [nearestUnits, spaced] using reached
  have exceeding : (numerator / denominator * denominator + 1) * unitsPerOne ≤ numerator * unitsPerOne :=
    Nat.mul_le_mul_right _ rest
  rw [Nat.add_mul, Nat.one_mul, Nat.mul_right_comm] at exceeding
  omega

/-- The rounded quotient is above exactly the whole numbers that the exact one is above. -/
theorem whole_lt_nearest_quotient (small : numerator ≤ twoPower 53) (positive : 0 < denominator)
    (notTiny : denominator ≤ numerator * unitsPerOne) :
    whole * unitsPerOne < nearestUnits (numerator * unitsPerOne) denominator ↔
      whole * denominator < numerator := by
  constructor
  · intro above
    by_contra notBelow
    have below := Nat.le_of_not_lt notBelow
    by_cases large : whole ≤ twoPower 53
    · exact absurd above (Nat.not_lt.mpr (nearest_quotient_le large positive below))
    · have bounded := @nearest_quotient_le numerator denominator numerator small positive
        (Nat.le_mul_of_pos_right _ positive)
      have beyond : numerator * unitsPerOne ≤ whole * unitsPerOne := Nat.mul_le_mul_right _ (by omega)
      omega
  · intro above
    have floor : whole ≤ numerator / denominator :=
      (Nat.le_div_iff_mul_le positive).mpr (Nat.le_of_lt above)
    have floorSmall : numerator / denominator ≤ twoPower 53 :=
      Nat.le_trans (Nat.div_le_self _ _) small
    rcases Nat.lt_or_eq_of_le floor with less | rfl
    · calc whole * unitsPerOne < numerator / denominator * unitsPerOne :=
            Nat.mul_lt_mul_of_pos_right less unitsPerOne_pos
        _ ≤ nearestUnits (numerator * unitsPerOne) denominator :=
          le_nearest_quotient floorSmall positive (Nat.div_mul_le_self _ _)
    · by_cases some : 0 < numerator / denominator
      · exact floor_lt_nearest_quotient small positive some above
      · rw [Nat.eq_zero_of_not_pos some, Nat.zero_mul]
        exact @le_nearest_units 1 _ _ ⟨1, rfl⟩ positive (by rwa [Nat.one_mul])

end

namespace Binary64

/-- A machine number that is as good as a quotient where it is rounded up or compared with an integer. -/
structure StandsFor (value : Binary64) (quotient : ℚ) : Prop where
  ceil : value.ceil? = some ⌈quotient⌉
  above : ∀ bound : ℤ, value.gtInt bound = true ↔ (bound : ℚ) < quotient

theorem ceil_units_eq {units : Nat} {quotient : ℚ}
    (sides : ∀ whole : Nat, whole * unitsPerOne < units ↔ (whole : ℚ) < quotient) :
    (units + unitsPerOne - 1) / unitsPerOne = ⌈quotient⌉₊ := by
  apply eq_of_forall_lt_iff
  intro whole
  have unit := unitsPerOne_pos
  rw [Nat.lt_ceil, ← sides whole, Nat.lt_iff_add_one_le, Nat.le_div_iff_mul_le unit, Nat.add_mul,
    Nat.one_mul]
  generalize whole * unitsPerOne = place
  omega

theorem stands_for_of_sides {units : Nat} {representable : Representable units} {quotient : ℚ}
    (nonnegative : 0 ≤ quotient)
    (sides : ∀ whole : Nat, whole * unitsPerOne < units ↔ (whole : ℚ) < quotient) :
    (finite false units representable).StandsFor quotient where
  ceil := by
    rw [ceil?, ceil_units_eq sides, Int.natCast_ceil_eq_ceil nonnegative]
  above := by
    intro bound
    rw [gtInt, decide_eq_true_iff, signed_units_false]
    rcases Int.lt_or_le bound 0 with negative | positive
    · have below : bound * unitsPerOne < 0 :=
        Int.mul_neg_of_neg_of_pos negative (Int.natCast_pos.mpr unitsPerOne_pos)
      have cast : (bound : ℚ) < 0 := Int.cast_lt_zero.mpr negative
      exact ⟨fun _ => cast.trans_le nonnegative, fun _ => by omega⟩
    · obtain ⟨whole, rfl⟩ := Int.eq_ofNat_of_zero_le positive
      rw [Int.cast_natCast, ← sides whole]
      exact mod_cast Iff.rfl

theorem ratio_of_inside {negative : Bool} {numerator denominator : Nat}
    (inside : nearestUnits numerator denominator < overflowUnits) :
    ofUnitRatio negative numerator denominator =
      finite negative _ ⟨spacing_dvd_nearestUnits numerator denominator, inside⟩ := by
  unfold ofUnitRatio
  rw [dif_pos inside]

theorem of_quotient_of_ratio {numerator denominator units : Nat} {fits : Representable units}
    (ratio : ofUnitRatio false (numerator * unitsPerOne) denominator = finite false units fits) :
    ofQuotient? numerator denominator = some (finite false units fits) := by
  -- Opened as a function: on its arguments the kernel would compute with the number of units in one.
  generalize opened : ofQuotient? = rounded
  delta ofQuotient? at opened
  rw [← opened]
  simp only [ratio]

theorem quotient_stands_for {numerator denominator : Nat} (small : numerator ≤ twoPower 53)
    (positive : 0 < denominator) (notTiny : denominator ≤ numerator * unitsPerOne) :
    ∃ value, ofQuotient? numerator denominator = some value ∧
      value.StandsFor ((numerator : ℚ) / denominator) := by
  have inside : nearestUnits (numerator * unitsPerOne) denominator < overflowUnits :=
    calc nearestUnits (numerator * unitsPerOne) denominator
        ≤ numerator * unitsPerOne := nearest_quotient_le small positive (Nat.le_mul_of_pos_right _ positive)
      _ ≤ twoPower 53 * unitsPerOne := Nat.mul_le_mul_right _ small
      _ < overflowUnits := beyond_whole
  have sides : ∀ whole : Nat, whole * unitsPerOne < nearestUnits (numerator * unitsPerOne) denominator ↔
      (whole : ℚ) < (numerator : ℚ) / denominator := by
    intro whole
    rw [whole_lt_nearest_quotient small positive notTiny, lt_div_iff₀ (Nat.cast_pos.mpr positive)]
    exact mod_cast Iff.rfl
  have nonnegative : (0 : ℚ) ≤ (numerator : ℚ) / denominator :=
    div_nonneg (Nat.cast_nonneg _) (Nat.cast_nonneg _)
  exact ⟨_, of_quotient_of_ratio (ratio_of_inside inside), stands_for_of_sides nonnegative sides⟩

end Binary64

end PrintParts
