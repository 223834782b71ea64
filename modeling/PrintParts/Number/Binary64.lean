import PrintParts.Number.Power
import PrintParts.Number.Rounding

/-!
Binary floating-point numbers of 64 bits, kept exactly. A finite number is a sign and a whole number
of units, where one unit is the smallest positive number, `2 ^ (-1074)`; which unit counts can occur
is part of the type. Every operation computes the exact result first and rounds it once.
There is one NaN: payloads and its sign are not kept, as no output shows them.
-/

namespace PrintParts

/-- One unit is `2` to the power of minus this. -/
def unitExponent : Nat := 1074

def unitsPerOne : Nat := twoPower unitExponent

/-- The first power of two that no finite number reaches, in units: `2 ^ 1024` as a number. -/
def overflowUnits : Nat := twoPower (1024 + unitExponent)

/-- Distance between neighbouring numbers near `units`: a number has 53 significant bits. -/
def spacing (units : Nat) : Nat := twoPower (units.log2 - 52)

/-- The unit counts that finite numbers have. -/
def Representable (units : Nat) : Prop := spacing units ∣ units ∧ units < overflowUnits

instance (units : Nat) : Decidable (Representable units) :=
  inferInstanceAs (Decidable (_ ∧ _))

theorem overflowUnits_pos : 0 < overflowUnits := twoPower_pos _

theorem unitsPerOne_pos : 0 < unitsPerOne := twoPower_pos _

theorem spacing_pos (units : Nat) : 0 < spacing units := twoPower_pos _

theorem spacing_dvd_of_dvd {units exponent : Nat} (small : units.log2 - 52 ≤ exponent)
    (aligned : twoPower exponent ∣ units) : spacing units ∣ units :=
  Nat.dvd_trans (twoPower_dvd_twoPower small) aligned

/-- The multiple of the local spacing nearest to `numerator / denominator`. -/
def nearestUnits (numerator denominator : Nat) : Nat :=
  let step := spacing (numerator / denominator)
  roundHalfEven numerator (denominator * step) * step

theorem log2_mul_twoPower_le {significand shift : Nat} (small : significand < twoPower 53) :
    (significand * twoPower shift).log2 ≤ 52 + shift := by
  by_cases zero : significand * twoPower shift = 0
  · simp [zero]
  · have below : significand * twoPower shift < twoPower (53 + shift) := by
      rw [twoPower_add]
      exact Nat.mul_lt_mul_of_pos_right small (twoPower_pos _)
    have := (log2_lt_iff zero).mpr below
    omega

theorem spacing_dvd_mul_twoPower {significand shift : Nat} (small : significand ≤ twoPower 53) :
    spacing (significand * twoPower shift) ∣ significand * twoPower shift := by
  rcases Nat.lt_or_eq_of_le small with below | top
  · have bounded := @log2_mul_twoPower_le _ shift below
    exact @spacing_dvd_of_dvd _ shift (by omega) (Nat.dvd_mul_left _ _)
  · subst top
    rw [← twoPower_add]
    exact @spacing_dvd_of_dvd _ (53 + shift) (by rw [log2_twoPower]; omega) (Nat.dvd_refl _)

theorem div_spacing_lt (units : Nat) : units / spacing units < twoPower 53 := by
  rw [Nat.div_lt_iff_lt_mul (spacing_pos _), spacing, ← twoPower_add]
  exact Nat.lt_of_lt_of_le (lt_twoPower_log2 units) (twoPower_le_twoPower (by omega))

theorem spacing_dvd_nearestUnits (numerator denominator : Nat) :
    spacing (nearestUnits numerator denominator) ∣ nearestUnits numerator denominator := by
  have small : roundHalfEven numerator (denominator * spacing (numerator / denominator)) ≤
      twoPower 53 := by
    have step := roundHalfEven_le_succ_div numerator
      (denominator * spacing (numerator / denominator))
    rw [← Nat.div_div_eq_div_mul] at step
    have := div_spacing_lt (numerator / denominator)
    omega
  exact spacing_dvd_mul_twoPower small

/-- A number of the format. -/
inductive Binary64 where
  | nan
  | infinite (negative : Bool)
  | finite (negative : Bool) (units : Nat) (representable : Representable units)
  deriving DecidableEq

namespace Binary64

/-- The number nearest to `±numerator / denominator` units, infinite when that is too large. -/
def ofUnitRatio (negative : Bool) (numerator denominator : Nat) : Binary64 :=
  if bounded : nearestUnits numerator denominator < overflowUnits then
    .finite negative (nearestUnits numerator denominator)
      ⟨spacing_dvd_nearestUnits numerator denominator, bounded⟩
  else
    .infinite negative

def zero (negative : Bool) : Binary64 :=
  .finite negative 0 ⟨⟨0, rfl⟩, overflowUnits_pos⟩

instance : Inhabited Binary64 := ⟨zero false⟩

def ofUnits (units : Int) : Binary64 := ofUnitRatio (decide (units < 0)) units.natAbs 1

/-- The number nearest to an integer; infinite for integers beyond the range. -/
def ofIntRounded (value : Int) : Binary64 :=
  ofUnitRatio (decide (value < 0)) (value.natAbs * unitsPerOne) 1

def ofInt? (value : Int) : Option Binary64 :=
  match ofIntRounded value with
  | .finite negative units fits => some (.finite negative units fits)
  | _ => none

def ofQuotient? (numerator denominator : Nat) : Option Binary64 :=
  match ofUnitRatio false (numerator * unitsPerOne) denominator with
  | .finite negative units fits => some (.finite negative units fits)
  | _ => none

instance (value : Nat) : OfNat Binary64 value := ⟨ofIntRounded value⟩

def isNan : Binary64 → Bool
  | .nan => true
  | _ => false

def isZero : Binary64 → Bool
  | .finite _ units _ => units == 0
  | _ => false

def isFinite : Binary64 → Bool
  | .finite .. => true
  | _ => false

def signedUnits (negative : Bool) (units : Nat) : Int :=
  if negative then -(units : Int) else units

/-- Place on the number line in units; the infinities stand just outside the finite numbers. -/
def place? : Binary64 → Option Int
  | .nan => none
  | .infinite negative => some (signedUnits negative overflowUnits)
  | .finite negative units _ => some (signedUnits negative units)

/-- Strictly below; false whenever a NaN takes part. -/
def lt (left right : Binary64) : Bool :=
  match left.place?, right.place? with
  | some low, some high => decide (low < high)
  | _, _ => false

/-- Below or equal; false whenever a NaN takes part, and both zeros are equal. -/
def le (left right : Binary64) : Bool :=
  match left.place?, right.place? with
  | some low, some high => decide (low ≤ high)
  | _, _ => false

instance : LT Binary64 := ⟨fun left right => left.lt right = true⟩
instance : LE Binary64 := ⟨fun left right => left.le right = true⟩
instance (left right : Binary64) : Decidable (left < right) :=
  inferInstanceAs (Decidable (left.lt right = true))
instance (left right : Binary64) : Decidable (left ≤ right) :=
  inferInstanceAs (Decidable (left.le right = true))

theorem not_lt_nan (value : Binary64) : ¬ value < nan := by
  show ¬ value.lt nan = true
  cases value <;> simp [lt, place?]

theorem not_nan_lt (value : Binary64) : ¬ nan < value := by
  show ¬ nan.lt value = true
  cases value <;> simp [lt, place?]

def gtInt (value : Binary64) (bound : Int) : Bool :=
  match value with
  | .nan => false
  | .infinite negative => !negative
  | .finite negative units _ => decide (bound * unitsPerOne < signedUnits negative units)

def ltInt (value : Binary64) (bound : Int) : Bool :=
  match value with
  | .nan => false
  | .infinite negative => negative
  | .finite negative units _ => decide (signedUnits negative units < bound * unitsPerOne)

def eqInt (value : Binary64) (whole : Int) : Bool :=
  match value with
  | .finite negative units _ => signedUnits negative units == whole * unitsPerOne
  | _ => false

def neg : Binary64 → Binary64
  | .nan => .nan
  | .infinite negative => .infinite (!negative)
  | .finite negative units fits => .finite (!negative) units fits

/-- The sum, rounded once. A sum of zero is negative only if both terms are negative zeros. -/
def add : Binary64 → Binary64 → Binary64
  | .nan, _ => .nan
  | _, .nan => .nan
  | .infinite left, .infinite right => if left = right then .infinite left else .nan
  | .infinite left, .finite .. => .infinite left
  | .finite .., .infinite right => .infinite right
  | .finite leftNegative leftUnits _, .finite rightNegative rightUnits _ =>
    let sum := signedUnits leftNegative leftUnits + signedUnits rightNegative rightUnits
    if sum = 0 then zero (leftNegative && rightNegative) else ofUnits sum

def sub (left right : Binary64) : Binary64 := left.add right.neg

def mul : Binary64 → Binary64 → Binary64
  | .nan, _ => .nan
  | _, .nan => .nan
  | .infinite left, .infinite right => .infinite (left ^^ right)
  | .infinite left, .finite right units _ => if units = 0 then .nan else .infinite (left ^^ right)
  | .finite left units _, .infinite right => if units = 0 then .nan else .infinite (left ^^ right)
  | .finite left leftUnits _, .finite right rightUnits _ =>
    ofUnitRatio (left ^^ right) (leftUnits * rightUnits) unitsPerOne

def div : Binary64 → Binary64 → Binary64
  | .nan, _ => .nan
  | _, .nan => .nan
  | .infinite _, .infinite _ => .nan
  | .infinite left, .finite right _ _ => .infinite (left ^^ right)
  | .finite left _ _, .infinite right => zero (left ^^ right)
  | .finite left leftUnits _, .finite right rightUnits _ =>
    if rightUnits = 0 then if leftUnits = 0 then .nan else .infinite (left ^^ right)
    else ofUnitRatio (left ^^ right) (leftUnits * unitsPerOne) rightUnits

instance : Neg Binary64 := ⟨neg⟩
instance : Add Binary64 := ⟨add⟩
instance : Sub Binary64 := ⟨sub⟩
instance : Mul Binary64 := ⟨mul⟩
instance : Div Binary64 := ⟨div⟩

/-- The greater one; the left one unless the right one is strictly greater. -/
def greater (left right : Binary64) : Binary64 := if left < right then right else left

/-- The least integer that is not below the number. -/
def ceil? : Binary64 → Option Int
  | .finite true units _ => some (-((units / unitsPerOne : Nat) : Int))
  | .finite false units _ => some (((units + unitsPerOne - 1) / unitsPerOne : Nat) : Int)
  | _ => none

/-- The greatest integer that is not above the number divided by a natural number. -/
def floorDiv? (value : Binary64) (divisor : Nat) : Option Int :=
  match value with
  | .finite negative units _ => some ((signedUnits negative units).fdiv (divisor * unitsPerOne))
  | _ => none

/-- The integer part, cut toward zero. -/
def truncate? : Binary64 → Option Int
  | .finite true units _ => some (-((units / unitsPerOne : Nat) : Int))
  | .finite false units _ => some ((units / unitsPerOne : Nat) : Int)
  | _ => none

/-- The number nearest to `±mantissa * 10 ^ exponent`. The two bounds on the decimal place of the
leading digit only keep the powers small: beyond them the nearest number is an infinity or a zero. -/
def ofDecimal (negative : Bool) (mantissa : Nat) (exponent : Int) : Binary64 :=
  let leading : Int := (Nat.toDigits 10 mantissa).length + exponent
  if mantissa = 0 then zero negative
  else if 310 < leading then .infinite negative
  else if leading < -330 then zero negative
  else if 0 ≤ exponent then
    ofUnitRatio negative (mantissa * tenPower exponent.toNat * unitsPerOne) 1
  else
    ofUnitRatio negative (mantissa * unitsPerOne) (tenPower (-exponent).toNat)

end Binary64

end PrintParts
