import PrintParts.Proofs.Number.Rendered
import PrintParts.Proofs.Outcome
import PrintParts.Proofs.Scaffold.Reading
import PrintParts.Scaffold.Closing
import PrintParts.Scaffold.Opening

/-!
The fields of scaffold lines: the letter that each of them names, and that they are plain, as every
number is written in characters that are neither blank nor the beginning of a comment.
-/

namespace PrintParts

instance (word : Text) : Decidable word.IsWord :=
  decidable_of_iff ((∀ symbol ∈ word, symbol.isSpace = false) ∧ .char ';' ∉ word)
    ⟨fun both => ⟨both.1, both.2⟩, fun isWord => ⟨isWord.solid, isWord.uncommented⟩⟩

instance (mnemonic : Text) : Decidable (IsMnemonic mnemonic) :=
  decidable_of_iff (mnemonic ≠ [] ∧ mnemonic.IsWord ∧ mnemonic.upper = mnemonic)
    ⟨fun all => ⟨all.1, all.2.1, all.2.2⟩, fun named => ⟨named.nonempty, named.isWord, named.capital⟩⟩

theorem number_char_solid {char : Char} (written : isNumberChar char = true) :
    Symbol.isSpace (.char char) = false := by
  have range := number_char_range written
  simp only [Symbol.isSpace, if_pos range.2.1, Bool.or_eq_false_iff, Bool.and_eq_false_iff,
    decide_eq_false_iff_not]
  exact ⟨.inr (by omega), .inr (by omega)⟩

theorem InNumberChars.is_word {chars : List Char} (written : InNumberChars chars) :
    (Text.ofChars chars).IsWord where
  solid := by
    intro symbol member
    obtain ⟨char, inChars, rfl⟩ := List.mem_map.mp member
    exact number_char_solid (written char inChars)
  uncommented := by
    intro member
    obtain ⟨char, inChars, same⟩ := List.mem_map.mp member
    cases same
    exact absurd (written ';' inChars) (by decide)

theorem Binary64.to_text_is_word (value : Binary64) : value.toText.IsWord :=
  (number_chars_significant value).is_word

theorem AxisValue.to_text_is_word (value : AxisValue) : value.toText.IsWord := by
  cases value with
  | unknown => decide
  | relative => decide
  | absolute number => exact number.to_text_is_word

theorem Amount.to_text_is_word {amount : Amount} (number : ∀ shown, amount ≠ .other shown) :
    amount.toText.IsWord := by
  have digits : ∀ value : Nat, InNumberChars (Nat.toDigits 10 value) := fun value =>
    InNumberChars.of_digits fun char digit =>
      Nat.isDigit_of_mem_toDigits (by decide) (by decide) digit
  cases amount with
  | integer value =>
    cases value with
    | ofNat value => exact (digits value).is_word
    | negSucc below => exact ((digits (below + 1)).cons (by decide : isNumberChar '-' = true)).is_word
  | number value => exact value.number_chars_shortest.is_word
  | truth value => cases value <;> decide
  | other shown => exact absurd rfl (number shown)

namespace Scaffold

@[simp]
theorem field_plain (letter : Char) (text : Text) :
    (field letter text).Plain ↔ IsMnemonic [.char letter] ∧ text.IsWord :=
  ⟨fun plain => ⟨plain.letter, plain.text⟩, fun both => ⟨⟨_, rfl⟩, both.1, both.2⟩⟩

@[simp]
theorem fixed_field_plain (letter : Char) (text : String) :
    (fixedField letter text).Plain ↔ IsMnemonic [.char letter] ∧ (Text.of text).IsWord :=
  field_plain letter (Text.of text)

@[simp]
theorem number_field_plain (letter : Char) (value : Binary64) :
    (numberField letter value).Plain ↔ IsMnemonic [.char letter] := by
  simp [numberField, value.to_text_is_word]

theorem number_field_text (letter : Char) (value : Binary64) :
    (numberField letter value).text = value.toText := rfl

@[simp]
theorem negated_field_plain (letter : Char) (value : Binary64) :
    (negatedField letter value).Plain ↔ IsMnemonic [.char letter] := by
  have isWord : Text.IsWord (.char '-' :: value.toText) :=
    ((Binary64.number_chars_significant value).cons (by decide : isNumberChar '-' = true)).is_word
  simp [negatedField, isWord]

@[simp]
theorem bed_x_plain (x : Binary64) : (bedX x).Plain := by
  have isWord := (Binary64.number_chars_fixed 1 x).is_word
  have letter : IsMnemonic [.char 'X'] := by decide
  simp [bedX, isWord, letter]

@[simp]
theorem field_named (letter name : Char) (text : Text) :
    (field letter text).isNamed name = decide (letter = name) := by
  rw [Field.isNamed, field, Bool.eq_iff_iff]
  simp

@[simp]
theorem fixed_field_named (letter name : Char) (text : String) :
    (fixedField letter text).isNamed name = decide (letter = name) :=
  field_named letter name (Text.of text)

@[simp]
theorem number_field_named (letter name : Char) (value : Binary64) :
    (numberField letter value).isNamed name = decide (letter = name) :=
  field_named letter name value.toText

@[simp]
theorem negated_field_named (letter name : Char) (value : Binary64) :
    (negatedField letter value).isNamed name = decide (letter = name) :=
  field_named letter name (.char '-' :: value.toText)

@[simp]
theorem bed_x_named (name : Char) (x : Binary64) : (bedX x).isNamed name = decide ('X' = name) :=
  field_named 'X' name (Text.ofChars (x.fixed 1))

end Scaffold

end PrintParts
