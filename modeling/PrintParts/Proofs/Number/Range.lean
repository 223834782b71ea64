import PrintParts.Proofs.Number.Quotient

/-!
Quotients that leave the range of the format. A quotient is rounded to zero up to half a unit, and to no finite
number from halfway between the greatest one and the power of two behind it on. In between, rounding at
most doubles it.
-/

namespace PrintParts

section

variable {numerator denominator : Nat}

theorem even_le_round_half_even {even : Nat} (isEven : even % 2 = 0) (some : 0 < even)
    (positive : 0 < denominator) :
    even ≤ roundHalfEven numerator denominator ↔ (2 * even - 1) * denominator ≤ 2 * numerator := by
  have scaled : (2 * even - 1) * denominator + denominator = 2 * (even * denominator) := by
    rw [← Nat.succ_mul, ← Nat.mul_assoc]
    congr 1
    omega
  constructor
  · intro reached
    have near := roundHalfEven_le_half_above numerator denominator
    have room := Nat.mul_le_mul_right denominator reached
    omega
  · intro near
    have whole := Nat.div_add_mod numerator denominator
    have rest := Nat.mod_lt numerator positive
    rw [Nat.mul_comm] at whole
    rcases Nat.lt_trichotomy (numerator / denominator + 1) even with below | same | above
    · have room : (numerator / denominator + 2) * denominator ≤ even * denominator :=
        Nat.mul_le_mul_right denominator below
      rw [Nat.add_mul (numerator / denominator)] at room
      omega
    · -- The number right below is odd, so that the half goes up.
      have level : even * denominator = numerator / denominator * denominator + denominator := by
        rw [← same, Nat.add_mul, Nat.one_mul]
      have odd : numerator / denominator % 2 = 1 := by omega
      have up : denominator ≤ 2 * (numerator % denominator) := by omega
      have rounded : roundHalfEven numerator denominator = numerator / denominator + 1 := by
        unfold roundHalfEven
        dsimp only
        rw [if_neg]
        omega
      omega
    · exact Nat.le_trans (by omega) (div_le_roundHalfEven numerator denominator)

theorem nearest_units_le_twice :
    nearestUnits numerator denominator * denominator ≤ 2 * numerator := by
  by_cases small : numerator / denominator = 0
  · have near := roundHalfEven_le_half_above numerator denominator
    have first := roundHalfEven_le_succ_div numerator denominator
    have step : spacing (numerator / denominator) = 1 := by rw [small]; rfl
    rw [nearestUnits, step, Nat.mul_one, Nat.mul_one]
    rcases Nat.lt_or_ge 0 (roundHalfEven numerator denominator) with up | down
    · have one : roundHalfEven numerator denominator = 1 := by omega
      rw [one] at near ⊢
      omega
    · rw [Nat.le_zero.mp down, Nat.zero_mul]
      exact Nat.zero_le _
  · have finer : spacing (numerator / denominator) ≤ numerator / denominator :=
      Nat.le_trans (twoPower_le_twoPower (Nat.sub_le _ 52)) (Nat.log2_self_le small)
    have step : denominator * spacing (numerator / denominator) ≤ numerator :=
      Nat.le_trans (Nat.mul_le_mul_left _ finer) (Nat.mul_div_le _ _)
    have near := roundHalfEven_le_half_above numerator (denominator * spacing (numerator / denominator))
    have regrouped : nearestUnits numerator denominator * denominator =
        roundHalfEven numerator (denominator * spacing (numerator / denominator)) *
          (denominator * spacing (numerator / denominator)) := by
      rw [nearestUnits, Nat.mul_assoc, Nat.mul_comm denominator]
    rw [regrouped]
    omega

/-- Up to half a unit a quotient is rounded to nothing. -/
theorem nearest_units_eq_zero_iff (positive : 0 < denominator) :
    nearestUnits numerator denominator = 0 ↔ 2 * numerator ≤ denominator := by
  constructor
  · intro vanishes
    have below : numerator < denominator := by
      by_contra reached
      have one : 1 * denominator ≤ numerator := by omega
      have some := le_nearest_units ⟨1, rfl⟩ positive one
      rw [vanishes] at some
      exact Nat.not_succ_le_zero 0 some
    have none : numerator / denominator = 0 := Nat.div_eq_of_lt below
    have step : spacing (numerator / denominator) = 1 := by rw [none]; rfl
    rw [nearestUnits, step, Nat.mul_one, Nat.mul_one] at vanishes
    have near := half_below_le_roundHalfEven numerator denominator positive
    rw [vanishes, Nat.zero_mul] at near
    omega
  · intro small
    have none : numerator / denominator = 0 := Nat.div_eq_of_lt (by omega)
    have step : spacing (numerator / denominator) = 1 := by rw [none]; rfl
    have rest : numerator % denominator = numerator := Nat.mod_eq_of_lt (by omega)
    rw [nearestUnits, step, Nat.mul_one, Nat.mul_one, roundHalfEven]
    simp only [none, rest, Nat.zero_mod, and_true]
    rw [if_pos (Nat.lt_or_eq_of_le small)]

/-- The least whole number that is rounded to no finite one. -/
def rangeEnd : Nat := (twoPower 54 - 1) * twoPower 970

theorem range_end_pos : 0 < rangeEnd := Nat.mul_pos (by decide) (twoPower_pos _)

/-- The distance between the greatest numbers of the format, in units. -/
def widestSpacing : Nat := twoPower (971 + unitExponent)

theorem twoPower_succ (exponent : Nat) : twoPower (exponent + 1) = 2 * twoPower exponent := by
  rw [Nat.add_comm, twoPower_add]
  rfl

theorem log2_of_binade {number exponent : Nat} (lower : twoPower exponent ≤ number)
    (upper : number < twoPower (exponent + 1)) : number.log2 = exponent :=
  (Nat.log2_eq_iff (Nat.pos_iff_ne_zero.mp (Nat.lt_of_lt_of_le (twoPower_pos _) lower))).mpr
    ⟨lower, upper⟩

theorem widest_binade : twoPower (1023 + unitExponent) = twoPower 52 * widestSpacing := by
  rw [widestSpacing, ← twoPower_add, ← Nat.add_assoc]

theorem overflow_units_eq : overflowUnits = twoPower 53 * widestSpacing := by
  rw [overflowUnits, widestSpacing, ← twoPower_add, ← Nat.add_assoc]

theorem range_end_doubled : 2 * (rangeEnd * unitsPerOne) = (2 * twoPower 53 - 1) * widestSpacing := by
  have widest : widestSpacing = 2 * (twoPower 970 * unitsPerOne) := by
    rw [widestSpacing, unitsPerOne, ← twoPower_add, ← twoPower_succ, Nat.add_right_comm]
  rw [rangeEnd, widest, Nat.mul_assoc, Nat.mul_left_comm, ← twoPower_succ]

theorem spacing_dvd_twoPower (exponent : Nat) : spacing (twoPower exponent) ∣ twoPower exponent :=
  twoPower_dvd_twoPower (by rw [log2_twoPower]; exact Nat.sub_le _ _)

theorem nearest_units_widest (above : twoPower (1023 + unitExponent) * denominator ≤ numerator)
    (below : numerator < overflowUnits * denominator) (positive : 0 < denominator) :
    nearestUnits numerator denominator =
      roundHalfEven numerator (denominator * widestSpacing) * widestSpacing := by
  have lower : twoPower (1023 + unitExponent) ≤ numerator / denominator :=
    (Nat.le_div_iff_mul_le positive).mpr above
  have upper : numerator / denominator < twoPower (1023 + unitExponent + 1) := by
    rw [Nat.div_lt_iff_lt_mul positive, Nat.add_right_comm]
    exact below
  have place : (numerator / denominator).log2 = 1023 + unitExponent := log2_of_binade lower upper
  have step : spacing (numerator / denominator) = widestSpacing := by
    rw [spacing, place, widestSpacing, show 1023 + unitExponent - 52 = 971 + unitExponent by omega]
  rw [nearestUnits, step]

theorem overflow_le_nearest_units_iff (positive : 0 < denominator) :
    overflowUnits ≤ nearestUnits numerator denominator ↔
      rangeEnd * unitsPerOne * denominator ≤ numerator := by
  have wide : 0 < widestSpacing := twoPower_pos _
  have doubled : 2 * (rangeEnd * unitsPerOne * denominator) =
      (2 * twoPower 53 - 1) * (denominator * widestSpacing) := by
    rw [← Nat.mul_assoc, range_end_doubled, Nat.mul_assoc, Nat.mul_comm widestSpacing]
  by_cases beyond : overflowUnits * denominator ≤ numerator
  · refine iff_of_true (le_nearest_units (spacing_dvd_twoPower _) positive beyond) ?_
    have within : 2 * (rangeEnd * unitsPerOne * denominator) ≤ 2 * (overflowUnits * denominator) := by
      calc 2 * (rangeEnd * unitsPerOne * denominator)
          = (2 * twoPower 53 - 1) * (denominator * widestSpacing) := doubled
        _ ≤ 2 * twoPower 53 * (denominator * widestSpacing) := Nat.mul_le_mul_right _ (Nat.sub_le _ 1)
        _ = 2 * (overflowUnits * denominator) := by
          rw [overflow_units_eq, Nat.mul_assoc, Nat.mul_assoc, Nat.mul_comm denominator]
    exact Nat.le_trans (Nat.le_of_mul_le_mul_left within Nat.two_pos) beyond
  · by_cases widest : twoPower (1023 + unitExponent) * denominator ≤ numerator
    · rw [nearest_units_widest widest (Nat.not_le.mp beyond) positive, overflow_units_eq,
        Nat.mul_le_mul_right_iff wide,
        even_le_round_half_even rfl (twoPower_pos _) (Nat.mul_pos positive wide), ← doubled,
        Nat.mul_le_mul_left_iff Nat.two_pos]
    · have low := nearest_units_le (spacing_dvd_twoPower _) positive
        (Nat.le_of_lt (Nat.not_le.mp widest))
      have lower : twoPower (1023 + unitExponent) < overflowUnits :=
        twoPower_lt_twoPower (Nat.add_lt_add_right (by decide) _)
      refine iff_of_false (Nat.not_le.mpr (Nat.lt_of_le_of_lt low lower)) fun reached => widest ?_
      have apart : 2 * (twoPower (1023 + unitExponent) * denominator) ≤
          2 * (rangeEnd * unitsPerOne * denominator) := by
        calc 2 * (twoPower (1023 + unitExponent) * denominator)
            = 2 * twoPower 52 * (denominator * widestSpacing) := by
              rw [widest_binade, Nat.mul_assoc, Nat.mul_assoc, Nat.mul_comm denominator]
          _ ≤ (2 * twoPower 53 - 1) * (denominator * widestSpacing) :=
            Nat.mul_le_mul_right _ (by decide)
          _ = 2 * (rangeEnd * unitsPerOne * denominator) := doubled.symm
      exact Nat.le_trans (Nat.le_of_mul_le_mul_left apart Nat.two_pos) reached

end

namespace Binary64

variable {numerator denominator : Nat}

theorem of_quotient_inside (positive : 0 < denominator) (inside : numerator < rangeEnd * denominator) :
    ∃ fits, ofQuotient? numerator denominator =
      some (finite false (nearestUnits (numerator * unitsPerOne) denominator) fits) := by
  have scaled : ¬ rangeEnd * unitsPerOne * denominator ≤ numerator * unitsPerOne := by
    rw [Nat.mul_right_comm, Nat.mul_le_mul_right_iff unitsPerOne_pos]
    exact Nat.not_le.mpr inside
  have bounded := Nat.not_le.mp (mt (overflow_le_nearest_units_iff positive).mp scaled)
  exact ⟨_, of_quotient_of_ratio (ratio_of_inside bounded)⟩

theorem of_quotient_beyond (positive : 0 < denominator) (beyond : rangeEnd * denominator ≤ numerator) :
    ofQuotient? numerator denominator = none := by
  have scaled : rangeEnd * unitsPerOne * denominator ≤ numerator * unitsPerOne := by
    rw [Nat.mul_right_comm]
    exact Nat.mul_le_mul_right _ beyond
  have overflow := (overflow_le_nearest_units_iff positive).mpr scaled
  have infinite : ofUnitRatio false (numerator * unitsPerOne) denominator = .infinite false :=
    dif_neg (Nat.not_lt.mpr overflow)
  generalize opened : ofQuotient? = rounded
  delta ofQuotient? at opened
  rw [← opened]
  simp only [infinite]

end Binary64

end PrintParts
