import PrintParts.Number.Binary64

/-!
Decimal texts of binary64 numbers: a given number of significant digits, a given number of places
after the point, or the fewest digits that read back. All three round the exact value once; where a
positional text gives way to an exponent is a property of the style, not of the digits.
-/

namespace PrintParts

/-- How digits and the place of the first one become a text. -/
structure DecimalStyle where
  /-- The least place of the leading digit that is written without an exponent. -/
  positionalFrom : Int
  /-- The least place of the leading digit from which an exponent is written again. -/
  positionalBelow : Int
  /-- Whether a whole number written without an exponent ends in a point and a zero. -/
  keepsPoint : Bool

/-- Significant digits with the exponent from the first place that they do not reach; no ending
zeros, and no point after a whole number. -/
def DecimalStyle.significant (precision : Nat) : DecimalStyle := ⟨-4, precision, false⟩

/-- Sixteen places before the point; a whole number keeps its point. -/
def DecimalStyle.roundTrip : DecimalStyle := ⟨-4, 16, true⟩

/-- How often `numerator / denominator` is multiplied by ten before it reaches one. -/
def tensToOne : Nat → Nat → Nat → Nat
  | 0, _, _ => 0
  | fuel + 1, numerator, denominator =>
    if denominator ≤ numerator then 0 else tensToOne fuel (10 * numerator) denominator + 1

/-- Decimal place of the leading digit of a positive quotient; the units have place zero. -/
def leadingPlace (numerator denominator : Nat) : Int :=
  if denominator ≤ numerator then ((Nat.toDigits 10 (numerator / denominator)).length : Int) - 1
  else -(tensToOne (denominator.log2 + 1) numerator denominator : Int)

def roundShifted (numerator denominator : Nat) (shift : Int) : Nat :=
  if 0 ≤ shift then roundHalfEven (numerator * tenPower shift.toNat) denominator
  else roundHalfEven numerator (denominator * tenPower (-shift).toNat)

/-- Rounding up may produce one digit too many, a one before zeros; the leading place moves then. -/
def carryDigit (precision digits : Nat) (place : Int) : Nat × Int :=
  if digits = tenPower precision then (tenPower (precision - 1), place + 1) else (digits, place)

/-- A positive quotient rounded to `precision` digits: the digits as one number, and the place of
the first. -/
def roundSignificant (precision numerator denominator : Nat) : Nat × Int :=
  let place := leadingPlace numerator denominator
  carryDigit precision (roundShifted numerator denominator (precision - 1 - place)) place

def trimmedDigits (value : Nat) : List Char :=
  ((Nat.toDigits 10 value).reverse.dropWhile (· == '0')).reverse

/-- An exponent has a sign and at least two digits. -/
def writeExponent (place : Int) : List Char :=
  let digits := Nat.toDigits 10 place.natAbs
  'e' :: (if place < 0 then '-' else '+') :: (if digits.length < 2 then '0' :: digits else digits)

/-- A text for digits whose first one stands at `place`. -/
def DecimalStyle.write (style : DecimalStyle) (digits : List Char) (place : Int) : List Char :=
  if style.positionalFrom ≤ place ∧ place < style.positionalBelow then
    if place < 0 then '0' :: '.' :: (List.replicate (-place - 1).toNat '0' ++ digits)
    else
      let wholeLength := place.toNat + 1
      let whole := digits.take wholeLength ++ List.replicate (wholeLength - digits.length) '0'
      match digits.drop wholeLength with
      | [] => if style.keepsPoint then whole ++ ['.', '0'] else whole
      | fraction => whole ++ '.' :: fraction
  else
    match digits with
    | [] => writeExponent place
    | [digit] => digit :: writeExponent place
    | digit :: fraction => digit :: '.' :: (fraction ++ writeExponent place)

/-- The digits and leading place of the shortest decimal that reads back as `units`, the nearest
such one, for 1, 2, … up to `remaining + used` digits. -/
def shortestFrom (units : Nat) (place : Int) : Nat → Nat → Nat × Int
  | 0, used => roundSignificant used units unitsPerOne
  | remaining + 1, used =>
    let precision := used + 1
    let shift : Int := precision - 1 - place
    let scaled : Nat × Nat :=
      if 0 ≤ shift then (units * tenPower shift.toNat, unitsPerOne)
      else (units, unitsPerOne * tenPower (-shift).toNat)
    let readsBack (digits : Nat) : Bool :=
      if 0 ≤ shift then nearestUnits (digits * unitsPerOne) (tenPower shift.toNat) == units
      else nearestUnits (digits * tenPower (-shift).toNat * unitsPerOne) 1 == units
    let near := roundHalfEven scaled.1 scaled.2
    let below := scaled.1 / scaled.2
    let far := if near = below then below + 1 else below
    if readsBack near then carryDigit precision near place
    else if readsBack far then carryDigit precision far place
    else shortestFrom units place remaining precision

/-- Digits and leading place of the shortest decimal that reads back. -/
def shortestDigits (units : Nat) : Nat × Int :=
  shortestFrom units (leadingPlace units unitsPerOne) 17 0

namespace Binary64

def writeSign (negative : Bool) (digits : List Char) : List Char :=
  if negative then '-' :: digits else digits

def writeWith (style : DecimalStyle) (choose : Nat → Nat × Int) : Binary64 → List Char
  | .nan => ['n', 'a', 'n']
  | .infinite negative => writeSign negative ['i', 'n', 'f']
  | .finite negative units _ =>
    writeSign negative <|
      if units = 0 then style.write ['0'] 0
      else
        let (digits, place) := choose units
        style.write (trimmedDigits digits) place

def significant (precision : Nat) : Binary64 → List Char :=
  writeWith (.significant precision) fun units => roundSignificant precision units unitsPerOne

def shortest : Binary64 → List Char :=
  writeWith .roundTrip shortestDigits

def fixed (places : Nat) : Binary64 → List Char
  | .nan => ['n', 'a', 'n']
  | .infinite negative => writeSign negative ['i', 'n', 'f']
  | .finite negative units _ =>
    let digits := Nat.toDigits 10 (roundHalfEven (units * tenPower places) unitsPerOne)
    let padded := List.replicate (places + 1 - digits.length) '0' ++ digits
    let wholeLength := padded.length - places
    writeSign negative (padded.take wholeLength ++ '.' :: padded.drop wholeLength)

end Binary64

end PrintParts
