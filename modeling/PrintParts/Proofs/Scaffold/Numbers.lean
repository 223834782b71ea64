import PrintParts.Proofs.Scaffold.Checked

/-!
What the check makes of a number that a scaffold names. It reads the text of the number up to the exponent
only, and nothing at all of an infinity or of what is no number; that is enough to tell whether the number is
finite, and whether it is above zero.
-/

namespace PrintParts

namespace Binary64

/-- Finite and above zero. -/
def IsPositive (value : Binary64) : Prop := value.isFinite = true ∧ 0 < value

theorem finite_is_positive (negative : Bool) (units : Nat) (fits : Representable units) :
    (finite negative units fits).IsPositive ↔ negative = false ∧ units ≠ 0 := by
  have above : 0 < finite negative units fits ↔ 0 < signedUnits negative units := by
    rw [zero_eq, lt_iff_places, place_of_zero]
    simp [place?]
  rw [IsPositive, above, and_iff_right (show (finite negative units fits).isFinite = true from rfl)]
  cases negative <;> simp [signedUnits, Nat.pos_iff_ne_zero]

end Binary64

namespace Scaffold

open Text

theorem read_unsigned_text (units : Nat) : ∃ opening value,
    readPlainNumber? (ofChars (Binary64.unsignedText units)).upper = some opening ∧
    readSignedNumber? (ofChars (Binary64.unsignedText units)).upper = some opening ∧
    Binary64.ofText? opening = some value ∧ (0 < value ↔ units ≠ 0) := by
  obtain ⟨opening, behind, value, whole, exponent, positional, reads, above⟩ :=
    Binary64.unsigned_text_opens units
  have text : (ofChars (Binary64.unsignedText units)).upper = ofChars opening ++ (ofChars behind).upper := by
    rw [whole, ofChars, List.map_append, upper_append, ← ofChars, upper_positional positional]
    rfl
  have ends : EndsNumber (ofChars behind).upper := by
    rcases exponent with rfl | ⟨place, rfl⟩
    · exact ends_number_nil
    · rintro _ ⟨⟩
      decide
  rw [text]
  exact ⟨ofChars opening, value, read_plain_positional positional ends, read_positional positional ends,
    reads, above⟩

/-- The check finds a number in the text of every finite number and in no other. -/
theorem signed_number_is_some (value : Binary64) :
    (readSignedNumber? value.toText.upper).isSome = value.isFinite := by
  cases value with
  | nan => decide
  | infinite negative => cases negative <;> decide
  | finite negative units fits =>
    obtain ⟨opening, -, unsigned, signed, -⟩ := read_unsigned_text units
    rw [Binary64.to_text_finite]
    cases negative with
    | false => exact congrArg Option.isSome signed
    | true =>
      change (readSignedNumber? (.char '-' :: (ofChars (Binary64.unsignedText units)).upper)).isSome = true
      simp only [readSignedNumber?, unsigned, Option.map_some, Option.isSome_some]

theorem plain_number_heats (value : Binary64) :
    ((readPlainNumber? value.toText.upper).any fun number => (0 : Binary64) < parameterValue number) = true ↔
      value.IsPositive := by
  cases value with
  | nan => exact iff_of_false (by decide) fun positive => nomatch positive.1
  | infinite negative =>
    exact iff_of_false (by cases negative <;> decide) fun positive => nomatch positive.1
  | finite negative units fits =>
    obtain ⟨opening, value, unsigned, -, reads, above⟩ := read_unsigned_text units
    rw [Binary64.to_text_finite, Binary64.finite_is_positive]
    cases negative with
    | false =>
      change ((readPlainNumber? (ofChars (Binary64.unsignedText units)).upper).any _) = true ↔ _
      simp [unsigned, parameterValue, reads, above]
    | true =>
      change ((readPlainNumber? (.char '-' :: (ofChars (Binary64.unsignedText units)).upper)).any _) = true ↔ _
      exact iff_of_false (by simp [readPlainNumber?, takeDigits, show Symbol.isDigit (.char '-') = false by decide])
        fun both => nomatch both.1

section

variable {mnemonic : Text} {letter : Char} {named : Symbol → Bool} {read : Text → Option Text}

theorem parameter_of_single (letterless : ∀ symbol ∈ mnemonic, named symbol = false)
    (blank : named (.char ' ') = false) (isNamed : named (.char letter) = true) {number : Text}
    (free : ∀ symbol ∈ number, named symbol = false) (solid : ∀ symbol ∈ number.head?, symbol.isSpace = false) :
    findParameter? named (fun rest => read (rest.dropWhile Symbol.isSpace)) false
      (mnemonic ++ .char ' ' :: .char letter :: number) = read number := by
  have isBlank : Symbol.isSpace (.char ' ') = true := by decide
  have passes := fun behindWord => @find_parameter_passes _ named
    (fun rest => read (rest.dropWhile Symbol.isSpace)) number [] free ends_word_nil
    (fun _ first => nomatch first) behindWord
  have whole : number.dropWhile Symbol.isSpace = number := by
    cases number with
    | nil => rfl
    | cons first others => exact List.dropWhile_cons_of_neg (by simp [solid first rfl])
  rw [find_parameter_passes letterless (ends_word_of_blank isBlank _) (by rintro _ ⟨⟩; exact blank),
    find_parameter_blank isBlank blank, findParameter?]
  simp only [List.append_nil] at passes
  rw [passes, whole]
  cases read number <;> simp [isNamed, findParameter?]

theorem checked_code_single (isMnemonic : IsMnemonic mnemonic) (capital : IsMnemonic [.char letter])
    (value : Binary64) (note : Option Text) :
    checkedCode (Line.code mnemonic [numberField letter value] note).toText =
      mnemonic ++ .char ' ' :: .char letter :: value.toText.upper := by
  have plain : ∀ field ∈ [numberField letter value], field.Plain :=
    List.forall_mem_singleton.mpr ((number_field_plain letter value).mpr capital)
  have word : (numberField letter value).word.upper = .char letter :: value.toText.upper := by
    rw [Field.word, upper_append]
    exact congrArg (· ++ value.toText.upper) capital.capital
  rw [checked_code_plain isMnemonic plain, List.map_singleton, word, spaced_cons]
  simp [spaced]

theorem z_of_single (isMnemonic : IsMnemonic mnemonic) (letterless : .char 'Z' ∉ mnemonic) (value : Binary64)
    (note : Option Text) :
    (zParameter? (checkedCode (Line.code mnemonic [numberField 'Z' value] note).toText)).isSome =
      value.isFinite := by
  have symbols := upper_number_symbols value.number_chars_significant
  rw [checked_code_single isMnemonic (by decide), zParameter?, parameter_of_single, signed_number_is_some]
  · exact fun symbol member => beq_eq_false_iff_ne.mpr fun same => letterless (same ▸ member)
  · decide
  · decide
  · exact fun symbol member => beq_eq_false_iff_ne.mpr (symbols symbol member).2.1
  · exact fun symbol first => (symbols symbol (List.mem_of_mem_head? first)).1

theorem heats_of_single (isMnemonic : IsMnemonic mnemonic) (letterless : .char 'S' ∉ mnemonic) (value : Binary64)
    (note : Option Text) :
    ((sParameter? (checkedCode (Line.code mnemonic [numberField 'S' value] note).toText)).any
      fun number => (0 : Binary64) < parameterValue number) = true ↔ value.IsPositive := by
  have symbols := upper_number_symbols value.number_chars_significant
  rw [checked_code_single isMnemonic (by decide), sParameter?, parameter_of_single, plain_number_heats]
  · exact fun symbol member => beq_eq_false_iff_ne.mpr fun same => letterless (same ▸ member)
  · decide
  · decide
  · exact fun symbol member => beq_eq_false_iff_ne.mpr (symbols symbol member).2.2
  · exact fun symbol first => (symbols symbol (List.mem_of_mem_head? first)).1

end

end Scaffold

end PrintParts
