import PrintParts.Amount.Number
import PrintParts.Proofs.Number.Order
import PrintParts.Proofs.Outcome

/-!
Rounding keeps the order of quotients, and with it the operations keep that of machine numbers. A term that
lies between two others gives a sum between theirs, and scaling whole numbers by one finite number either
keeps their order or reverses it. Infinities take part as long as no result is a NaN.
-/

namespace PrintParts

theorem round_half_even_mono {low high : Nat} (le : low ≤ high) (denominator : Nat) :
    roundHalfEven low denominator ≤ roundHalfEven high denominator := by
  have quotients : low / denominator ≤ high / denominator := Nat.div_le_div_right le
  rcases Nat.lt_or_eq_of_le quotients with less | level
  · calc roundHalfEven low denominator ≤ low / denominator + 1 := roundHalfEven_le_succ_div _ _
      _ ≤ high / denominator := less
      _ ≤ roundHalfEven high denominator := div_le_roundHalfEven _ _
  · have rests : low % denominator ≤ high % denominator := by
      have lower := Nat.div_add_mod low denominator
      have upper := Nat.div_add_mod high denominator
      rw [level] at lower
      omega
    simp only [roundHalfEven, level]
    split <;> split <;> omega

theorem nearest_units_mono {low high denominator : Nat} (positive : 0 < denominator) (le : low ≤ high) :
    nearestUnits low denominator ≤ nearestUnits high denominator := by
  have quotients : low / denominator ≤ high / denominator := Nat.div_le_div_right le
  by_cases level : (low / denominator).log2 = (high / denominator).log2
  · simp only [nearestUnits, spacing, level]
    exact Nat.mul_le_mul_right _ (round_half_even_mono le _)
  · -- The beginning of the upper binade is a number of the format between the two quotients.
    have higher := Nat.lt_of_le_of_ne (log2_le_log2 quotients) level
    have nonzero : high / denominator ≠ 0 := by
      intro zero
      rw [zero] at higher
      exact Nat.not_lt_zero _ higher
    have aligned : spacing (twoPower (high / denominator).log2) ∣ twoPower (high / denominator).log2 :=
      twoPower_dvd_twoPower (by rw [log2_twoPower]; exact Nat.sub_le _ _)
    have below : low / denominator < twoPower (high / denominator).log2 :=
      Nat.lt_of_lt_of_le (lt_twoPower_log2 _) (twoPower_le_twoPower higher)
    have above : twoPower (high / denominator).log2 ≤ high / denominator := Nat.log2_self_le nonzero
    exact Nat.le_trans
      (nearest_units_le aligned positive (Nat.le_of_lt ((Nat.div_lt_iff_lt_mul positive).mp below)))
      (le_nearest_units aligned positive ((Nat.le_div_iff_mul_le positive).mp above))

namespace Binary64

theorem signed_units_within {units bound : Nat} (within : units ≤ bound) (negative : Bool) :
    -(bound : Int) ≤ signedUnits negative units ∧ signedUnits negative units ≤ bound := by
  cases negative <;> simp only [signedUnits, if_true, Bool.false_eq_true, if_false] <;> omega

theorem place_bounds {value : Binary64} (number : value ≠ nan) :
    ∃ place, value.place? = some place ∧ -(overflowUnits : Int) ≤ place ∧ place ≤ overflowUnits := by
  cases value with
  | nan => exact absurd rfl number
  | infinite negative => exact ⟨_, rfl, signed_units_within (Nat.le_refl _) negative⟩
  | finite negative units fits => exact ⟨_, rfl, signed_units_within (Nat.le_of_lt fits.2) negative⟩

theorem infinite_le {value : Binary64} (number : value ≠ nan) : infinite true ≤ value := by
  obtain ⟨place, placed, lower, -⟩ := place_bounds number
  exact le_iff_places.mpr ⟨_, _, rfl, placed, lower⟩

theorem le_infinite {value : Binary64} (number : value ≠ nan) : value ≤ infinite false := by
  obtain ⟨place, placed, -, upper⟩ := place_bounds number
  exact le_iff_places.mpr ⟨_, _, placed, rfl, upper⟩

theorem of_unit_ratio_le {lowNegative highNegative : Bool} {low high denominator : Nat}
    (positive : 0 < denominator) (le : signedUnits lowNegative low ≤ signedUnits highNegative high) :
    ofUnitRatio lowNegative low denominator ≤ ofUnitRatio highNegative high denominator := by
  have mono : ∀ {low high : Nat}, low ≤ high →
      min (nearestUnits low denominator) overflowUnits ≤
        min (nearestUnits high denominator) overflowUnits :=
    fun ordered => min_le_min_right _ (nearest_units_mono positive ordered)
  refine le_iff_places.mpr ⟨_, _, place_of_unit_ratio _ _ _, place_of_unit_ratio _ _ _, ?_⟩
  match lowNegative, highNegative with
  | false, false => exact Int.ofNat_le.mpr (mono (Int.ofNat_le.mp le))
  | true, true =>
    exact Int.neg_le_neg (Int.ofNat_le.mpr (mono (Int.ofNat_le.mp (Int.neg_le_neg_iff.mp le))))
  | true, false =>
    exact Int.le_trans (Int.neg_nonpos_of_nonneg (Int.natCast_nonneg _)) (Int.natCast_nonneg _)
  | false, true =>
    have none : low = 0 ∧ high = 0 := by
      simp only [signedUnits, if_true, Bool.false_eq_true, if_false] at le
      omega
    rw [none.1, none.2, nearest_units_zero, Nat.zero_min]
    exact Int.le_refl 0

theorem place_of_sum {negative other : Bool} {units more : Nat} (fits : Representable units)
    (fitsToo : Representable more) :
    (finite negative units fits + finite other more fitsToo).place? =
      (ofUnits (signedUnits negative units + signedUnits other more)).place? := by
  show (add _ _).place? = _
  simp only [add]
  split
  · rename_i none
    rw [none, place_of_zero, ofUnits, place_of_unit_ratio]
    simp [nearest_units_zero, signedUnits]
  · rfl

theorem finite_number {negative : Bool} {units : Nat} (fits : Representable units) :
    finite negative units fits ≠ nan := nofun

theorem infinite_number (negative : Bool) : infinite negative ≠ nan := nofun

theorem of_unit_ratio_number (negative : Bool) (numerator denominator : Nat) :
    ofUnitRatio negative numerator denominator ≠ nan := by
  unfold ofUnitRatio
  split
  · exact finite_number _
  · exact infinite_number negative

theorem finite_add_number {negative : Bool} {units : Nat} (fits : Representable units)
    {other : Binary64} (number : other ≠ nan) : finite negative units fits + other ≠ nan := by
  cases other with
  | nan => exact absurd rfl number
  | infinite otherNegative => exact infinite_number otherNegative
  | finite otherNegative more fitsToo =>
    show add _ _ ≠ nan
    simp only [add]
    split
    · exact finite_number _
    · exact of_unit_ratio_number _ _ _

theorem signed_units_nat_abs (units : Int) :
    signedUnits (decide (units < 0)) units.natAbs = units := by
  unfold signedUnits
  split <;> rename_i negative <;> simp at negative <;> omega

theorem of_units_le {low high : Int} (le : low ≤ high) : ofUnits low ≤ ofUnits high := by
  apply of_unit_ratio_le Nat.one_pos
  rwa [signed_units_nat_abs, signed_units_nat_abs]

theorem place_of_units {negative : Bool} {units : Nat} (fits : Representable units) :
    (ofUnits (signedUnits negative units)).place? = some (signedUnits negative units) := by
  have size : (signedUnits negative units).natAbs = units := by cases negative <;> simp [signedUnits]
  have same := signed_units_nat_abs (signedUnits negative units)
  rw [size] at same
  rw [ofUnits, place_of_unit_ratio, size, nearest_units_of_representable fits,
    Nat.min_eq_left (Nat.le_of_lt fits.2), same]

theorem infinite_lt_finite {negative : Bool} {units : Nat} (fits : Representable units) :
    infinite true < finite negative units fits := by
  have lower := (signed_units_within (Nat.le_refl units) negative).1
  have bounded := Int.neg_lt_neg (Int.ofNat_lt.mpr fits.2)
  exact lt_iff_places.mpr ⟨_, _, rfl, rfl, Int.lt_of_lt_of_le bounded lower⟩

theorem finite_lt_infinite {negative : Bool} {units : Nat} (fits : Representable units) :
    finite negative units fits < infinite false := by
  have upper := (signed_units_within (Nat.le_refl units) negative).2
  exact lt_iff_places.mpr ⟨_, _, rfl, rfl, Int.lt_of_le_of_lt upper (Int.ofNat_lt.mpr fits.2)⟩

theorem infinite_lt_infinite : infinite true < infinite false :=
  lt_trans (infinite_lt_finite (representable_whole (Nat.zero_le _)))
    (@finite_lt_infinite false _ (representable_whole (Nat.zero_le _)))

theorem eq_infinite_of_le {value : Binary64} (le : value ≤ infinite true) : value = infinite true := by
  cases value with
  | nan => exact absurd rfl (numbers_of_le le).1
  | infinite negative =>
    cases negative with
    | true => rfl
    | false => exact absurd infinite_lt_infinite (not_lt_of_le le)
  | finite negative units fits => exact absurd (infinite_lt_finite fits) (not_lt_of_le le)

theorem eq_infinite_of_ge {value : Binary64} (le : infinite false ≤ value) : value = infinite false := by
  cases value with
  | nan => exact absurd rfl (numbers_of_le le).2
  | infinite negative =>
    cases negative with
    | false => rfl
    | true => exact absurd infinite_lt_infinite (not_lt_of_le le)
  | finite negative units fits => exact absurd (finite_lt_infinite fits) (not_lt_of_le le)

section

variable {term low middle high : Binary64}

theorem infinite_add {negative : Bool} (number : infinite negative + middle ≠ nan) :
    infinite negative + middle = infinite negative := by
  cases middle with
  | nan => exact absurd rfl number
  | infinite other =>
    by_cases same : negative = other
    · exact if_pos same
    · exact absurd (if_neg same) number
  | finite other units fits => rfl

theorem add_nan (term : Binary64) : term + nan = nan := by
  cases term <;> rfl

/-- A greater term gives no lesser sum. -/
theorem add_le_add (le : low ≤ high) (lowNumber : term + low ≠ nan) (highNumber : term + high ≠ nan) :
    term + low ≤ term + high := by
  cases term with
  | nan => exact absurd rfl lowNumber
  | infinite negative =>
    rw [infinite_add lowNumber, infinite_add highNumber]
    cases negative <;> decide +kernel
  | finite negative units fits =>
    cases low with
    | nan => exact absurd rfl lowNumber
    | infinite lowNegative =>
      cases lowNegative with
      | true => exact infinite_le highNumber
      | false =>
        rw [eq_infinite_of_ge le]
        exact le_infinite (infinite_number false)
    | finite lowNegative lowUnits lowFits =>
      cases high with
      | nan => exact absurd rfl highNumber
      | infinite highNegative =>
        cases highNegative with
        | false => exact le_infinite lowNumber
        | true => exact absurd (infinite_lt_finite lowFits) (not_lt_of_le le)
      | finite highNegative highUnits highFits =>
        have ordered : signedUnits lowNegative lowUnits ≤ signedUnits highNegative highUnits := by
          obtain ⟨_, _, isLow, isHigh, ordered⟩ := le_iff_places.mp le
          rwa [← Option.some.inj isLow, ← Option.some.inj isHigh] at ordered
        rw [le_iff_places, place_of_sum, place_of_sum, ← le_iff_places]
        exact of_units_le (Int.add_le_add_left ordered _)

theorem add_number_of_between (lower : low ≤ middle) (upper : middle ≤ high) (lowNumber : term + low ≠ nan)
    (highNumber : term + high ≠ nan) : term + middle ≠ nan := by
  cases middle with
  | nan => exact absurd rfl (numbers_of_le lower).2
  | infinite negative =>
    cases negative with
    | true => rwa [eq_infinite_of_le lower] at lowNumber
    | false => rwa [eq_infinite_of_ge upper] at highNumber
  | finite negative units fits =>
    cases term with
    | nan => exact lowNumber
    | infinite other => exact infinite_number other
    | finite other more fitsToo => exact finite_add_number fitsToo (finite_number fits)

theorem add_between (lower : low ≤ middle) (upper : middle ≤ high) (lowNumber : term + low ≠ nan)
    (highNumber : term + high ≠ nan) : term + low ≤ term + middle ∧ term + middle ≤ term + high :=
  have number := add_number_of_between lower upper lowNumber highNumber
  ⟨add_le_add lower lowNumber number, add_le_add upper number highNumber⟩

/-- Adding what is not negative leads no lower, however the sum is rounded. -/
theorem le_add_of_nonneg (isFinite : low.isFinite = true) (upward : 0 ≤ term) : low ≤ low + term := by
  cases low with
  | nan => cases isFinite
  | infinite negative => cases isFinite
  | finite negative units fits =>
    cases term with
    | nan => exact absurd rfl (numbers_of_le upward).2
    | infinite below =>
      cases below with
      | false => exact le_infinite (finite_number fits)
      | true => exact absurd upward (by decide +kernel)
    | finite below more fitsToo =>
      obtain ⟨_, _, isZero, isTerm, nonneg⟩ := le_iff_places.mp upward
      rw [zero_eq, place_of_zero] at isZero
      cases isZero
      cases isTerm
      rw [le_iff_places, place_of_sum, show (finite negative units fits).place? = _ from
        (place_of_units fits).symm, ← le_iff_places]
      exact of_units_le (Int.le_add_of_nonneg_right nonneg)

theorem sub_nonneg (isFinite : low.isFinite = true) (le : low ≤ high) : 0 ≤ high - low := by
  cases low with
  | nan => cases isFinite
  | infinite negative => cases isFinite
  | finite negative units fits =>
    show 0 ≤ high + finite (!negative) units fits
    cases high with
    | nan => exact absurd rfl (numbers_of_le le).2
    | infinite below =>
      cases below with
      | false => exact le_infinite (by decide +kernel : (0 : Binary64) ≠ nan)
      | true => exact absurd (infinite_lt_finite fits) (not_lt_of_le le)
    | finite above more fitsToo =>
      obtain ⟨_, _, isLow, isHigh, ordered⟩ := le_iff_places.mp le
      cases isLow
      cases isHigh
      have nothing : (0 : Binary64).place? = (ofUnits 0).place? := by decide +kernel
      have mirrored : signedUnits (!negative) units = -signedUnits negative units := by
        cases negative <;> simp [signedUnits]
      rw [le_iff_places, place_of_sum, nothing, ← le_iff_places]
      apply of_units_le
      rw [mirrored]
      omega

end

theorem finite_mul {negative other : Bool} {units more : Nat} (fits : Representable units)
    (fitsToo : Representable more) :
    finite negative units fits * finite other more fitsToo =
      ofUnitRatio (negative ^^ other) (units * more) unitsPerOne := by
  show mul _ _ = _
  simp only [mul]

theorem infinite_mul_zero (negative other : Bool) : infinite negative * zero other = nan := by
  show mul _ _ = _
  simp only [mul, zero, if_true]

theorem signed_units_mul (negative : Bool) (units count : Nat) :
    signedUnits negative (units * count) = signedUnits negative units * count := by
  cases negative with
  | false => exact Int.natCast_mul units count
  | true => exact (congrArg Neg.neg (Int.natCast_mul units count)).trans (Int.neg_mul _ _).symm

theorem of_unit_ratio_of_lt {negative : Bool} {numerator denominator : Nat}
    (bounded : nearestUnits numerator denominator < overflowUnits) :
    ∃ fits, ofUnitRatio negative numerator denominator =
      finite negative (nearestUnits numerator denominator) fits :=
  ⟨⟨spacing_dvd_nearestUnits _ _, bounded⟩, dif_pos bounded⟩

theorem lt_of_finite {negative : Bool} {numerator denominator : Nat}
    (isFinite : (ofUnitRatio negative numerator denominator).isFinite = true) :
    nearestUnits numerator denominator < overflowUnits := by
  by_contra beyond
  rw [ofUnitRatio, dif_neg beyond] at isFinite
  cases isFinite

def countUnits (count : Nat) : Nat := nearestUnits (count * unitsPerOne) 1

theorem count_units_mono {low high : Nat} (le : low ≤ high) : countUnits low ≤ countUnits high :=
  nearest_units_mono Nat.one_pos (Nat.mul_le_mul_right _ le)

theorem of_count (count : Nat) : ofIntRounded count = ofUnitRatio false (count * unitsPerOne) 1 := by
  have unsigned : decide ((count : Int) < 0) = false := decide_eq_false (by omega)
  rw [ofIntRounded, unsigned, Int.natAbs_natCast]

theorem finite_of_count_le {low high : Nat} (le : low ≤ high)
    (isFinite : (ofIntRounded high).isFinite = true) :
    ∃ fits, ofIntRounded low = finite false (countUnits low) fits := by
  rw [of_count] at isFinite
  obtain ⟨fits, same⟩ := of_unit_ratio_of_lt
    (Nat.lt_of_le_of_lt (count_units_mono le) (lt_of_finite isFinite))
  exact ⟨fits, (of_count low).trans same⟩

section

variable {low high last : Nat} {negative : Bool} {units : Nat} (fits : Representable units)
  (isFinite : (ofIntRounded last).isFinite = true)

include isFinite

theorem scale_counts (lowWithin : low ≤ last) (highWithin : high ≤ last)
    (ordered : signedUnits negative units * countUnits low ≤ signedUnits negative units * countUnits high) :
    finite negative units fits * ofIntRounded low ≤ finite negative units fits * ofIntRounded high := by
  obtain ⟨lowFits, isLow⟩ := finite_of_count_le lowWithin isFinite
  obtain ⟨highFits, isHigh⟩ := finite_of_count_le highWithin isFinite
  rw [isLow, isHigh, finite_mul, finite_mul, Bool.xor_false]
  apply of_unit_ratio_le unitsPerOne_pos
  rwa [signed_units_mul, signed_units_mul]

theorem scale_le (upward : 0 ≤ signedUnits negative units) (le : low ≤ high) (within : high ≤ last) :
    finite negative units fits * ofIntRounded low ≤ finite negative units fits * ofIntRounded high := by
  apply scale_counts fits isFinite (Nat.le_trans le within) within
  exact Int.mul_le_mul_of_nonneg_left (Int.ofNat_le.mpr (count_units_mono le)) upward

theorem scale_ge (downward : signedUnits negative units ≤ 0) (le : low ≤ high) (within : high ≤ last) :
    finite negative units fits * ofIntRounded high ≤ finite negative units fits * ofIntRounded low := by
  apply scale_counts fits isFinite within (Nat.le_trans le within)
  exact Int.mul_le_mul_of_nonpos_left downward (Int.ofNat_le.mpr (count_units_mono le))

end

end Binary64

theorem round_integer_eq_ok {value : Int} {nearest : Binary64}
    (rounded : roundInteger value = .ok nearest) :
    Binary64.ofIntRounded value = nearest ∧ nearest.isFinite = true := by
  -- The definitions are opened as functions: at an integer, the kernel would try to round it.
  have found : Binary64.ofInt? value = some nearest := by
    generalize same : roundInteger = round at rounded
    unfold roundInteger at same
    subst same
    dsimp only at rounded
    split at rounded
    · rename_i other found
      rw [found, Except.ok.inj rounded]
    · cases rounded
  generalize same : Binary64.ofInt? = round at found
  unfold Binary64.ofInt? at same
  subst same
  dsimp only at found
  split at found
  · rename_i negative units fits finite
    rw [finite, ← Option.some.inj found]
    exact ⟨rfl, rfl⟩
  · cases found

theorem round_integer_eq_error {value : Int} {failure : Failure}
    (failed : roundInteger value = .error failure) : failure = .tooLarge := by
  generalize same : roundInteger = round at failed
  unfold roundInteger at same
  subst same
  dsimp only at failed
  split at failed
  · cases failed
  · cases failed
    rfl

end PrintParts
