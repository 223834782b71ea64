/-!
Powers of the two bases that numbers are kept and written in.
-/

namespace PrintParts

def twoPower (exponent : Nat) : Nat := Nat.pow 2 exponent

def tenPower (exponent : Nat) : Nat := Nat.pow 10 exponent

theorem twoPower_pos (exponent : Nat) : 0 < twoPower exponent := Nat.two_pow_pos exponent

theorem tenPower_pos (exponent : Nat) : 0 < tenPower exponent :=
  Nat.pow_pos (by decide : 0 < 10)

theorem twoPower_add (first second : Nat) :
    twoPower (first + second) = twoPower first * twoPower second := Nat.pow_add 2 first second

theorem tenPower_add (first second : Nat) :
    tenPower (first + second) = tenPower first * tenPower second := Nat.pow_add 10 first second

theorem twoPower_dvd_twoPower {small large : Nat} (le : small ≤ large) :
    twoPower small ∣ twoPower large := Nat.pow_dvd_pow 2 le

theorem twoPower_le_twoPower {small large : Nat} (le : small ≤ large) :
    twoPower small ≤ twoPower large := Nat.pow_le_pow_right (by decide) le

theorem log2_twoPower (exponent : Nat) : (twoPower exponent).log2 = exponent :=
  Nat.log2_two_pow

theorem log2_lt_iff {number exponent : Nat} (nonzero : number ≠ 0) :
    number.log2 < exponent ↔ number < twoPower exponent := Nat.log2_lt nonzero

theorem lt_twoPower_log2 (number : Nat) : number < twoPower (number.log2 + 1) :=
  Nat.lt_log2_self

end PrintParts
