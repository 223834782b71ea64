import PrintParts.Proofs.Number.Order

/-!
Finite machine numbers as rational numbers, and the operations on them that need no rounding.
-/

namespace PrintParts

namespace Binary64

/-- The rational number that a finite number is. -/
def rational? : Binary64 → Option ℚ
  | .finite negative units _ => some ((signedUnits negative units : ℚ) / unitsPerOne)
  | _ => none

/-- A sum that needs no rounding. -/
def AddExact (left right : Binary64) : Prop :=
  ∃ first second, left.rational? = some first ∧ right.rational? = some second ∧
    (left + right).rational? = some (first + second)

/-- A difference that needs no rounding. -/
def SubExact (left right : Binary64) : Prop :=
  ∃ first second, left.rational? = some first ∧ right.rational? = some second ∧
    (left - right).rational? = some (first - second)

/-- A product that needs no rounding. -/
def MulExact (left right : Binary64) : Prop :=
  ∃ first second, left.rational? = some first ∧ right.rational? = some second ∧
    (left * right).rational? = some (first * second)

instance (left right : Binary64) : Decidable (left.AddExact right) :=
  decidable_of_iff (∃ first ∈ left.rational?, ∃ second ∈ right.rational?,
      (left + right).rational? = some (first + second))
    ⟨fun ⟨first, isFirst, second, isSecond, sum⟩ => ⟨first, second, isFirst, isSecond, sum⟩,
      fun ⟨first, second, isFirst, isSecond, sum⟩ => ⟨first, isFirst, second, isSecond, sum⟩⟩

instance (left right : Binary64) : Decidable (left.SubExact right) :=
  decidable_of_iff (∃ first ∈ left.rational?, ∃ second ∈ right.rational?,
      (left - right).rational? = some (first - second))
    ⟨fun ⟨first, isFirst, second, isSecond, difference⟩ =>
        ⟨first, second, isFirst, isSecond, difference⟩,
      fun ⟨first, second, isFirst, isSecond, difference⟩ =>
        ⟨first, isFirst, second, isSecond, difference⟩⟩

theorem exact_of_zero_units (negative : Bool) (fits : Representable 0) :
    (finite negative 0 fits).rational? = some 0 := by
  have none : signedUnits negative 0 = 0 := by cases negative <;> rfl
  simp only [rational?, none, Int.cast_zero, zero_div]

theorem rational_of_is_zero {value : Binary64} (zero : value.isZero = true) :
    value.rational? = some 0 := by
  cases value with
  | finite negative units fits =>
    obtain rfl : units = 0 := eq_of_beq zero
    exact exact_of_zero_units negative fits
  | nan => cases zero
  | infinite negative => cases zero

variable {left right : Binary64} {first second : ℚ}

theorem AddExact.of_terms (exact : left.AddExact right) (isFirst : left.rational? = some first)
    (isSecond : right.rational? = some second) : (left + right).rational? = some (first + second) := by
  obtain ⟨_, _, sameFirst, sameSecond, sum⟩ := exact
  cases isFirst.symm.trans sameFirst
  cases isSecond.symm.trans sameSecond
  exact sum

theorem SubExact.of_terms (exact : left.SubExact right) (isFirst : left.rational? = some first)
    (isSecond : right.rational? = some second) : (left - right).rational? = some (first - second) := by
  obtain ⟨_, _, sameFirst, sameSecond, difference⟩ := exact
  cases isFirst.symm.trans sameFirst
  cases isSecond.symm.trans sameSecond
  exact difference

theorem MulExact.of_factors (exact : left.MulExact right) (isFirst : left.rational? = some first)
    (isSecond : right.rational? = some second) : (left * right).rational? = some (first * second) := by
  obtain ⟨_, _, sameFirst, sameSecond, product⟩ := exact
  cases isFirst.symm.trans sameFirst
  cases isSecond.symm.trans sameSecond
  exact product

theorem lt_iff_rationals (isFirst : left.rational? = some first) (isSecond : right.rational? = some second) :
    left < right ↔ first < second := by
  have positive : (0 : ℚ) < unitsPerOne := Nat.cast_pos.mpr unitsPerOne_pos
  cases left with
  | finite negative units fits =>
    cases right with
    | finite other more fitsToo =>
      obtain rfl := Option.some.inj isFirst
      obtain rfl := Option.some.inj isSecond
      rw [div_lt_div_iff_of_pos_right positive, Int.cast_lt, lt_iff_places]
      simp [place?]
    | nan => cases isSecond
    | infinite other => cases isSecond
  | nan => cases isFirst
  | infinite negative => cases isFirst

end Binary64

end PrintParts
