import PrintParts.Proofs.Number.Range
import PrintParts.Proofs.Plan.Exact

/-!
When no plan can be made of integers. What cannot be asked for is refused with a fault of its own. Beyond that a
quotient can leave the range of the format: so many parts are wanted that the layers of each are rounded to
nothing, or the layers are so many that a quotient of them is rounded to no finite number.
-/

namespace PrintParts

namespace Plan

section

variable {value : ℤ} {fault : Amount → Fault}

theorem below_one (low : value < 1) :
    checkAtLeastOne (.integer value) fault = .error (fault (.integer value)).raise := by
  have below : decide (value < 1) = true := decide_eq_true low
  simp only [checkAtLeastOne, Amount.isBelow, below]
  rfl

theorem refused_of_invalid {layerCount parts start : ℤ} {cap : Option ℤ}
    (invalid : ¬ Valid layerCount parts cap start) : ∃ fault : Fault,
      make layerCount (.integer parts) (cap.map .integer) (.integer start) = .error fault.raise ∧
      fault.faultClass = .plan := by
  by_cases someLayers : 1 ≤ layerCount
  · have layers : ¬ layerCount < 1 := Int.not_lt.mpr someLayers
    by_cases someParts : 1 ≤ parts
    · have outside : (∀ limit ∈ cap, 1 ≤ limit) → start < 0 ∨ layerCount ≤ start := by
        intro limited
        by_contra inside
        rw [not_or, Int.not_lt, Int.not_le] at inside
        exact invalid ⟨someLayers, someParts, limited, inside.1, inside.2⟩
      cases cap with
      | none =>
        have beyond := outside fun limit given => nomatch given
        refine ⟨.startOutside (.integer start) (layerCount - 1), ?_, rfl⟩
        simp only [make, Division.make, if_neg layers, at_least_one someParts, ok_bind,
          Option.map_none, Start.ofAmount, if_pos beyond]
        rfl
      | some limit =>
        by_cases limited : 1 ≤ limit
        · have beyond := outside fun other given => Option.some.inj given ▸ limited
          refine ⟨.startOutside (.integer start) (layerCount - 1), ?_, rfl⟩
          simp only [make, Division.make, if_neg layers, at_least_one someParts, at_least_one limited,
            ok_bind, Option.map_some, Start.ofAmount, if_pos beyond]
          rfl
        · refine ⟨.tooSmallCap (.integer limit), ?_, rfl⟩
          simp only [make, Division.make, if_neg layers, at_least_one someParts,
            below_one (Int.not_le.mp limited), ok_bind, Option.map_some]
          rfl
    · refine ⟨.tooFewParts (.integer parts), ?_, rfl⟩
      simp only [make, Division.make, if_neg layers, below_one (Int.not_le.mp someParts)]
      rfl
  · refine ⟨.noLayers, ?_, rfl⟩
    simp only [make, Division.make, if_pos (Int.not_le.mp someLayers)]
    rfl

end

/-- The layers of each of some parts after rounding, in units. -/
def sharedUnits (span parts : Nat) : Nat := nearestUnits (span * unitsPerOne) parts

def wholeAbove (units : Nat) : Nat := (units + unitsPerOne - 1) / unitsPerOne

/-- What the layers are divided by, one number after the other: the parts that are wanted, and if those would
exceed the cap, the cap and the parts that it takes. -/
def divisors (span parts : Nat) : Option Nat → List Nat
  | none => [parts]
  | some limit =>
    if limit * unitsPerOne < sharedUnits span parts then
      [parts, limit, wholeAbove (sharedUnits span limit)]
    else [parts]

/-- The layers of each of some parts are rounded to nothing. -/
def Vanishes (span parts : Nat) : Prop := span * twoPower 1075 ≤ parts

/-- One of the quotients is rounded to no finite number. -/
def Overflows (span parts : Nat) (cap : Option Nat) : Prop :=
  ∃ divisor ∈ divisors span parts cap, rangeEnd * divisor ≤ span

theorem divisors_of_kept {span parts : Nat} {cap : Option Nat}
    (kept : ∀ limit ∈ cap, sharedUnits span parts ≤ limit * unitsPerOne) :
    divisors span parts cap = [parts] := by
  cases cap with
  | none => rfl
  | some limit => exact if_neg (Nat.not_lt.mpr (kept limit rfl))

theorem first_divisor {span parts : Nat} {cap : Option Nat} : parts ∈ divisors span parts cap := by
  cases cap with
  | none => exact List.mem_cons_self
  | some limit =>
    rw [divisors]
    split <;> exact List.mem_cons_self

section

variable {span parts limit : Nat}

theorem quotient_of_inside (positive : 0 < parts) (inside : span < rangeEnd * parts) :
    ∃ fits, quotient span parts = .ok (.finite false (sharedUnits span parts) fits) := by
  obtain ⟨fits, rounded⟩ := Binary64.of_quotient_inside positive inside
  unfold sharedUnits
  refine ⟨fits, ?_⟩
  rw [quotient, if_neg (Nat.pos_iff_ne_zero.mp positive), rounded]

theorem quotient_of_beyond (positive : 0 < parts) (beyond : rangeEnd * parts ≤ span) :
    quotient span parts = .error .tooLarge := by
  rw [quotient, if_neg (Nat.pos_iff_ne_zero.mp positive), Binary64.of_quotient_beyond positive beyond]

theorem whole_of_ceil {value : Binary64} {whole : Nat} (ceil : value.ceil? = some (whole : Int)) :
    wholeNumber value = .ok whole := by
  simp only [wholeNumber, ceil, Int.toNat_natCast]

theorem whole_of_finite {units : Nat} (fits : Representable units) :
    wholeNumber (.finite false units fits) = .ok (wholeAbove units) := by
  apply whole_of_ceil
  unfold wholeAbove
  rw [Binary64.ceil?]

theorem whole_above_eq_zero {units : Nat} : wholeAbove units = 0 ↔ units = 0 := by
  have unit := unitsPerOne_pos
  rw [wholeAbove, Nat.div_eq_zero_iff]
  omega

theorem exceeded_of_units {units : Nat} (fits : Representable units) :
    (Amount.integer limit).isExceededBy (.finite false units fits) = true ↔
      limit * unitsPerOne < units := by
  rw [Amount.isExceededBy, Binary64.gtInt, decide_eq_true_iff, Binary64.signed_units_false]
  exact mod_cast Iff.rfl

theorem vanishes_iff : Vanishes span parts ↔ 2 * (span * unitsPerOne) ≤ parts := by
  have exponent : 1075 = unitExponent + 1 := rfl
  rw [Vanishes, exponent, twoPower_succ, ← unitsPerOne, Nat.mul_left_comm]

theorem shared_units_eq_zero (positive : 0 < parts) : sharedUnits span parts = 0 ↔ Vanishes span parts :=
  (nearest_units_eq_zero_iff positive).trans vanishes_iff.symm

theorem not_vanishing (some : 0 < span) (few : parts ≤ 2 * span) : ¬ Vanishes span parts := by
  have several : 1 < unitsPerOne := twoPower_lt_twoPower (by decide : 0 < unitExponent)
  have more : span < span * unitsPerOne := (Nat.lt_mul_iff_one_lt_right some).mpr several
  rw [vanishes_iff]
  omega

/-- What exceeds a cap vanishes neither when the cap divides it nor when the parts do that the cap takes. -/
theorem exceeding_shares (some : 0 < span) (positive : 0 < parts) (limited : 0 < limit)
    (exceeding : limit * unitsPerOne < sharedUnits span parts) :
    ¬ Vanishes span parts ∧ 0 < wholeAbove (sharedUnits span limit) ∧
      ¬ Vanishes span (wholeAbove (sharedUnits span limit)) := by
  have unit := unitsPerOne_pos
  have together : limit * parts < 2 * span := by
    apply Nat.lt_of_mul_lt_mul_right (a := unitsPerOne)
    calc limit * parts * unitsPerOne = limit * unitsPerOne * parts := Nat.mul_right_comm _ _ _
      _ < sharedUnits span parts * parts := Nat.mul_lt_mul_of_pos_right exceeding positive
      _ ≤ 2 * (span * unitsPerOne) := nearest_units_le_twice
      _ = 2 * span * unitsPerOne := (Nat.mul_assoc _ _ _).symm
  have few : parts ≤ limit * parts := Nat.le_mul_of_pos_left _ limited
  have low : limit ≤ limit * parts := Nat.le_mul_of_pos_right _ positive
  have share : sharedUnits span limit ≤ 2 * (span * unitsPerOne) :=
    Nat.le_trans (Nat.le_mul_of_pos_right _ limited) nearest_units_le_twice
  have needed : wholeAbove (sharedUnits span limit) ≤ 2 * span := by
    rw [wholeAbove, Nat.div_le_iff_le_mul unit]
    rw [← Nat.mul_assoc] at share
    omega
  refine ⟨not_vanishing some (by omega), Nat.pos_of_ne_zero fun none => ?_, not_vanishing some needed⟩
  have vanishes := (shared_units_eq_zero limited).mp (whole_above_eq_zero.mp none)
  exact not_vanishing some (by omega) vanishes

theorem whole_quotient_of_inside (positive : 0 < parts) (inside : span < rangeEnd * parts) :
    quotient span parts >>= wholeNumber = .ok (wholeAbove (sharedUnits span parts)) := by
  obtain ⟨fits, made⟩ := quotient_of_inside positive inside
  rw [made, ok_bind, whole_of_finite]

/-- As long as no quotient overflows, the nominal layers of a part are those of the last divisor, which makes them
vanish only if the wanted parts do. -/
theorem nominal_of_inside {cap : Option Nat} (some : 0 < span) (positive : 0 < parts)
    (limited : ∀ limit ∈ cap, 0 < limit) (inside : ¬ Overflows span parts cap) :
    ∃ divisor fits, nominalLayers (share span) (.integer parts)
        (cap.map fun limit : Nat => .integer limit) = .ok (.finite false (sharedUnits span divisor) fits) ∧
      0 < divisor ∧ (Vanishes span divisor ↔ Vanishes span parts) := by
  have within : ∀ divisor ∈ divisors span parts cap, span < rangeEnd * divisor := by
    intro divisor member
    by_contra beyond
    exact inside ⟨divisor, member, Nat.not_lt.mp beyond⟩
  obtain ⟨fits, made⟩ := quotient_of_inside positive (within parts first_divisor)
  by_cases kept : ∀ limit ∈ cap, sharedUnits span parts ≤ limit * unitsPerOne
  · refine ⟨parts, fits, nominal_kept made fun limit inCap => ?_, positive, Iff.rfl⟩
    rw [exceeded_of_units, Nat.not_lt]
    exact kept limit inCap
  · push Not at kept
    obtain ⟨limit, rfl, exceeding⟩ := kept
    have limitPositive := limited limit rfl
    rw [divisors, if_pos exceeding] at within
    simp only [List.forall_mem_cons] at within
    obtain ⟨-, enough, capped, -⟩ := within
    obtain ⟨few, needed, fewer⟩ := exceeding_shares some positive limitPositive exceeding
    obtain ⟨cappedFits, cappedMade⟩ := quotient_of_inside needed capped
    refine ⟨_, cappedFits, ?_, needed, iff_of_false fewer few⟩
    rw [Option.map_some, nominal_exceeding made ((exceeded_of_units fits).mpr exceeding),
      whole_quotient_of_inside limitPositive enough, ok_bind, cappedMade]

theorem not_vanishing_of_overflow {cap : Option Nat} (some : 0 < span) (positive : 0 < parts)
    (limited : ∀ limit ∈ cap, 0 < limit) (overflows : Overflows span parts cap) :
    ¬ Vanishes span parts := by
  by_cases kept : ∀ limit ∈ cap, sharedUnits span parts ≤ limit * unitsPerOne
  · obtain ⟨divisor, member, beyond⟩ := overflows
    rw [divisors_of_kept kept, List.mem_singleton] at member
    have few : divisor ≤ span := Nat.le_trans (Nat.le_mul_of_pos_left _ range_end_pos) beyond
    exact not_vanishing some (by omega)
  · push Not at kept
    obtain ⟨limit, rfl, exceeding⟩ := kept
    exact (exceeding_shares some positive (limited limit rfl) exceeding).1

theorem nominal_of_refused {cap : Option Amount} {failure : Failure}
    (refused : quotient span parts = .error failure) :
    nominalLayers (share span) (.integer parts) cap = .error failure := by
  simp only [nominalLayers, share_of_nat, refused, error_bind]

theorem nominal_of_overflow {cap : Option Nat} (some : 0 < span) (positive : 0 < parts)
    (limited : ∀ limit ∈ cap, 0 < limit) (overflows : Overflows span parts cap) :
    nominalLayers (share span) (.integer parts) (cap.map fun limit : Nat => .integer limit) =
      .error .tooLarge := by
  by_cases first : rangeEnd * parts ≤ span
  · exact nominal_of_refused (quotient_of_beyond positive first)
  · obtain ⟨fits, made⟩ := quotient_of_inside positive (Nat.not_le.mp first)
    obtain ⟨divisor, member, beyond⟩ := overflows
    by_cases kept : ∀ limit ∈ cap, sharedUnits span parts ≤ limit * unitsPerOne
    · rw [divisors_of_kept kept, List.mem_singleton] at member
      exact absurd (member ▸ beyond) first
    · push Not at kept
      obtain ⟨limit, rfl, exceeding⟩ := kept
      have limitPositive := limited limit rfl
      have needed := (exceeding_shares some positive limitPositive exceeding).2.1
      rw [Option.map_some, nominal_exceeding made ((exceeded_of_units fits).mpr exceeding)]
      by_cases second : rangeEnd * limit ≤ span
      · rw [quotient_of_beyond limitPositive second, error_bind, error_bind]
      · rw [whole_quotient_of_inside limitPositive (Nat.not_le.mp second), ok_bind]
        apply quotient_of_beyond needed
        rw [divisors, if_pos exceeding, List.mem_cons, List.mem_cons, List.mem_singleton] at member
        rcases member with rfl | rfl | rfl
        · exact absurd beyond first
        · exact absurd beyond second
        · exact beyond

end

section

variable {layerCount start parts : Nat} {cap : Option Nat}

theorem divided_of_nothing {parts : Amount} {cap : Option Amount} {value : Binary64}
    (nominal : nominalLayers (share (layerCount - start)) parts cap = .ok value)
    (whole : wholeNumber value = .ok 0) :
    divided layerCount start parts cap = .error .divisionByZero := by
  have refused : ¬ (start < layerCount ∧ 0 < 0) := fun valid => Nat.lt_irrefl 0 valid.2
  simp only [divided, nominal, whole, ok_bind, dif_neg refused]

theorem divided_cases (inside : start < layerCount) (positive : 0 < parts)
    (limited : ∀ limit ∈ cap, 0 < limit) :
    (Overflows (layerCount - start) parts cap ∧ ¬ Vanishes (layerCount - start) parts ∧
      divided layerCount start (.integer parts) (cap.map fun limit : Nat => .integer limit) =
        .error .tooLarge) ∨
    (¬ Overflows (layerCount - start) parts cap ∧ Vanishes (layerCount - start) parts ∧
      divided layerCount start (.integer parts) (cap.map fun limit : Nat => .integer limit) =
        .error .divisionByZero) ∨
    (¬ Overflows (layerCount - start) parts cap ∧ ¬ Vanishes (layerCount - start) parts ∧
      ∃ plan, divided layerCount start (.integer parts) (cap.map fun limit : Nat => .integer limit) =
        .ok plan) := by
  have some : 0 < layerCount - start := Nat.sub_pos_of_lt inside
  by_cases overflows : Overflows (layerCount - start) parts cap
  · have nominal := nominal_of_overflow some positive limited overflows
    refine .inl ⟨overflows, not_vanishing_of_overflow some positive limited overflows, ?_⟩
    simp only [divided, nominal, error_bind]
  · obtain ⟨divisor, fits, nominal, divisorPositive, same⟩ :=
      nominal_of_inside some positive limited overflows
    have whole := whole_of_finite fits
    by_cases vanishes : Vanishes (layerCount - start) parts
    · have none : wholeAbove (sharedUnits (layerCount - start) divisor) = 0 :=
        whole_above_eq_zero.mpr ((shared_units_eq_zero divisorPositive).mpr (same.mpr vanishes))
      rw [none] at whole
      exact .inr (.inl ⟨overflows, vanishes, divided_of_nothing nominal whole⟩)
    · have something : 0 < wholeAbove (sharedUnits (layerCount - start) divisor) := by
        refine Nat.pos_of_ne_zero fun none => vanishes (same.mp ?_)
        exact (shared_units_eq_zero divisorPositive).mp (whole_above_eq_zero.mp none)
      obtain ⟨plan, made, -⟩ := divided_of_chunk inside nominal whole something
      exact .inr (.inr ⟨overflows, vanishes, plan, made⟩)

end

theorem Valid.naturals {layerCount parts start : ℤ} {cap : Option ℤ}
    (valid : Valid layerCount parts cap start) :
    start.toNat < layerCount.toNat ∧ 0 < parts.toNat ∧
      cap.map .integer = (cap.map Int.toNat).map (fun limit : Nat => Amount.integer limit) ∧
      ∀ limit ∈ cap.map Int.toNat, 0 < limit := by
  have layers := valid.layers
  have someParts := valid.parts
  have inside := valid.start_lt
  refine ⟨by omega, by omega, ?_, ?_⟩
  · cases cap with
    | none => rfl
    | some limit =>
      have limited := valid.cap limit rfl
      rw [Option.map_some, Option.map_some, Option.map_some, Int.toNat_of_nonneg (by omega)]
  · intro limit member
    obtain ⟨given, inCap, rfl⟩ := Option.map_eq_some_iff.mp member
    have limited := valid.cap given inCap
    omega

/-- Integers that cannot be asked for are refused as such. Beyond that the quotients alone decide, and a plan is
made unless one of them vanishes or overflows. -/
theorem make_outcome (layerCount parts start : ℤ) (cap : Option ℤ) :
    let made := make layerCount (.integer parts) (cap.map .integer) (.integer start)
    let valid := Valid layerCount parts cap start
    let vanishes := Vanishes (layerCount - start).toNat parts.toNat
    let overflows := Overflows (layerCount - start).toNat parts.toNat (cap.map Int.toNat)
    (¬ valid ↔ ∃ fault : Fault, made = .error fault.raise ∧ fault.faultClass = .plan) ∧
    (valid ∧ vanishes ↔ made = .error .divisionByZero) ∧
    (valid ∧ overflows ↔ made = .error .tooLarge) ∧
    (valid ∧ ¬ vanishes ∧ ¬ overflows ↔ ∃ plan, made = .ok plan) := by
  intro made valid vanishes overflows
  by_cases isValid : valid
  · obtain ⟨inside, positive, natural, limited⟩ := isValid.naturals
    have divides : made = divided layerCount.toNat start.toNat (.integer parts.toNat)
        ((cap.map Int.toNat).map fun limit : Nat => .integer limit) := by
      rw [← natural, Int.toNat_of_nonneg (Int.le_trans Int.one_nonneg isValid.parts)]
      exact make_of_valid isValid
    have span : layerCount.toNat - start.toNat = (layerCount - start).toNat := by
      have first := isValid.start_nonneg
      omega
    have cases := divided_cases inside positive limited
    rw [← divides, span] at cases
    rcases cases with ⟨beyond, something, ends⟩ | ⟨within, nothing, ends⟩ |
      ⟨within, something, plan, ends⟩
    · simp [ends, isValid, vanishes, overflows, beyond, something, Fault.raise]
    · simp [ends, isValid, vanishes, overflows, within, nothing, Fault.raise]
    · simp [ends, isValid, vanishes, overflows, within, something, Fault.raise]
  · obtain ⟨fault, refused, planned⟩ := refused_of_invalid isValid
    have ends : made = .error fault.raise := refused
    simp [ends, isValid, planned, Fault.raise]

theorem divides_by_zero_at_many_parts :
    Valid 10 (10 ^ 325) none 0 ∧
      make 10 (.integer (10 ^ 325)) none (.integer 0) = .error .divisionByZero := by
  refine ⟨⟨by decide, by decide +kernel, ?_, by decide, by decide⟩, ?_⟩
  · intro limit given
    cases given
  · exact failure_of_eq_some.mp (by decide +kernel)

example : make (2 ^ 1024) (.integer 1) none (.integer 0) = .error .tooLarge :=
  failure_of_eq_some.mp (by decide +kernel)

end Plan

end PrintParts
