import PrintParts.Amount
import PrintParts.Proofs.Number.Rendered

/-!
Every number is written so that it can be read, infinities and NaN too. A minus sign in front of the text can
be read with it, unless the text has a sign of its own.
-/

namespace PrintParts

section

variable {chars : List Char} {value : ℚ}

theorem DecimalOf.is_numeral (decimal : DecimalOf chars value) (negative : Bool) :
    (Text.ofChars (Binary64.writeSign negative chars)).numeral?.isSome = true := by
  obtain ⟨mantissa, exponent, -, reads⟩ := decimal.read_unsigned
  have written := Binary64.number_chars_sign negative decimal.written
  rw [written.numeral, reads]
  rfl

theorem DecimalOf.not_numeral_signed_twice (decimal : DecimalOf chars value) :
    (Text.ofChars ('-' :: '-' :: chars)).numeral? = none := by
  have written : InNumberChars ('-' :: '-' :: chars) :=
    (decimal.written.cons (by decide)).cons (by decide)
  have noDigits : ('-' :: chars).dropWhile Char.isDigit = '-' :: chars :=
    List.dropWhile_cons_of_neg (by decide)
  have unsigned : Numeral.readDecimal? ('-' :: chars) = none := by
    rw [Numeral.read_decimal_pointless noDigits (by decide), List.takeWhile_cons_of_neg (by decide),
      if_pos rfl]
  have other : ∀ letter word, letter ≠ '-' → ('-' :: chars).map Char.toLower ≠ letter :: word := by
    intro letter word different same
    exact different (List.cons.inj same).1.symm
  rw [written.numeral]
  simp only [Numeral.read?, written.join_digits, Option.bind_eq_bind, Option.bind_some]
  rw [show takeSign ('-' :: '-' :: chars) = (true, '-' :: chars) from rfl]
  simp only [unsigned, Option.bind_none]
  rw [if_neg (other 'n' _ (by decide)),
    if_neg (not_or.mpr ⟨other 'i' _ (by decide), other 'i' _ (by decide)⟩)]

end

theorem carry_digit_pos {precision digits : Nat} {place : Int} (positive : 0 < digits) :
    0 < (carryDigit precision digits place).1 := by
  unfold carryDigit
  split
  · exact tenPower_pos _
  · exact positive

theorem shortest_from_pos {units : Nat} (positive : 0 < units) (place : Int) (remaining used : Nat)
    (some : 0 < remaining + used) : 0 < (shortestFrom units place remaining used).1 := by
  induction remaining generalizing used with
  | zero => exact round_significant_pos (by omega) positive unitsPerOne_pos
  | succ remaining induction =>
    have reads_back : ∀ digits scale denominator,
        (nearestUnits (digits * scale) denominator == units) = true → 0 < digits := by
      intro digits scale denominator reads
      refine Nat.pos_of_ne_zero fun none => ?_
      subst none
      rw [Nat.zero_mul, Binary64.nearest_units_zero] at reads
      exact absurd (eq_of_beq reads) (Nat.ne_of_lt positive)
    have next := induction (used + 1) (by omega)
    rw [shortestFrom]
    dsimp only
    split
    · generalize roundHalfEven _ _ = near
      generalize (if near = _ then _ else _) = far
      split
      · rename_i reads
        exact carry_digit_pos (reads_back _ _ _ reads)
      · split
        · rename_i reads
          exact carry_digit_pos (reads_back _ _ _ reads)
        · exact next
    · generalize roundHalfEven _ _ = near
      generalize (if near = _ then _ else _) = far
      simp only [Nat.mul_assoc]
      split
      · rename_i reads
        exact carry_digit_pos (reads_back _ _ _ reads)
      · split
        · rename_i reads
          exact carry_digit_pos (reads_back _ _ _ reads)
        · exact next

namespace Binary64

theorem of_text_is_some {text : Text} : (ofText? text).isSome = text.numeral?.isSome := by
  rw [of_text_eq_rounded, Option.isSome_map]

theorem to_text_is_numeral (value : Binary64) : value.toText.numeral?.isSome = true := by
  cases value with
  | nan => decide
  | infinite negative => cases negative <;> decide
  | finite negative units fits =>
    obtain ⟨number, decimal⟩ := unsigned_text_decimal units
    rw [to_text_finite]
    exact decimal.is_numeral negative

theorem fixed_is_numeral (places : Nat) (value : Binary64) :
    (Text.ofChars (value.fixed places)).numeral?.isSome = true := by
  cases value with
  | nan => exact (by decide : (Text.ofChars ['n', 'a', 'n']).numeral?.isSome = true)
  | infinite negative =>
    exact (by cases negative <;> decide :
      (Text.ofChars (writeSign negative ['i', 'n', 'f'])).numeral?.isSome = true)
  | finite negative units fits =>
    obtain ⟨chars, number, same, decimal⟩ := fixed_decimal places negative units fits
    rw [same]
    exact decimal.is_numeral negative

theorem shortest_is_numeral (value : Binary64) :
    (Text.ofChars value.shortest).numeral?.isSome = true := by
  cases value with
  | nan => decide
  | infinite negative => cases negative <;> decide
  | finite negative units fits =>
    unfold shortest writeWith
    dsimp only
    split
    · exact (DecimalStyle.decimal_write _ (by decide) (List.forall_mem_singleton.mpr rfl)).is_numeral negative
    · rename_i nonzero
      have some := shortest_from_pos (Nat.pos_of_ne_zero nonzero) (leadingPlace units unitsPerOne) 17 0
        (by decide)
      exact (DecimalStyle.decimal_write _ (trimmed_digits_nonempty some)
        (trimmed_digits_plain _)).is_numeral negative

theorem negated_is_numeral (value : Binary64) :
    (Text.numeral? (.char '-' :: value.toText)).isSome = !value.hasMinus := by
  cases value with
  | nan => decide
  | infinite negative => cases negative <;> decide
  | finite negative units fits =>
    obtain ⟨number, decimal⟩ := unsigned_text_decimal units
    rw [to_text_finite]
    cases negative with
    | false => exact decimal.is_numeral true
    | true =>
      have twice := decimal.not_numeral_signed_twice
      exact congrArg Option.isSome twice

end Binary64

/-- An amount that is given as a number, which a truth value is not. -/
def Amount.isNumber : Amount → Bool
  | .integer _ | .number _ => true
  | .truth _ | .other _ => false

theorem Amount.to_text_is_numeral {amount : Amount} (number : amount.isNumber = true) :
    amount.toText.numeral?.isSome = true := by
  have digits : ∀ value : Nat, DecimalOf (Nat.toDigits 10 value)
      (Nat.ofDigitChars 10 (Nat.toDigits 10 value) 0) :=
    fun value => DecimalOf.of_digits Nat.toDigits_ne_nil fun char digit =>
      Nat.isDigit_of_mem_toDigits (by decide) (by decide) digit
  cases amount with
  | integer value =>
    cases value with
    | ofNat value => exact (digits value).is_numeral false
    | negSucc below => exact (digits (below + 1)).is_numeral true
  | number value => exact value.shortest_is_numeral
  | truth value => cases number
  | other shown => cases number

end PrintParts
