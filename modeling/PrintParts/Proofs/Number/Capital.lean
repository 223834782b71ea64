import PrintParts.Proofs.Number.Reading
import PrintParts.Text.Upper

/-!
Numbers in capital letters. The letters of an exponent and of the words for infinity and NaN are read in
either case, so a number text in capital letters is the same number, or is no number either.
-/

namespace PrintParts

theorem to_upper_cases (char : Char) :
    char.toUpper = char ∨ ∃ point ∈ List.range' 97 26, char = Char.ofNat point := by
  unfold Char.toUpper
  split
  · rename_i small
    refine .inr ⟨char.toNat, ?_, (Char.ofNat_toNat char).symm⟩
    have low : 97 ≤ char.toNat := UInt32.le_iff_toNat_le.mp small.1
    have high : char.toNat ≤ 122 := UInt32.le_iff_toNat_le.mp small.2
    exact List.mem_range'_1.mpr ⟨low, by omega⟩
  · exact .inl rfl

/-- What holds of every character as its own capital form, and of the small letters and theirs, holds of
all characters and theirs. -/
theorem capital_cases {motive : Char → Char → Prop} (itself : ∀ char, motive char char)
    (small : ∀ point ∈ List.range' 97 26, motive (Char.ofNat point).toUpper (Char.ofNat point))
    (char : Char) : motive char.toUpper char := by
  rcases to_upper_cases char with same | ⟨point, member, rfl⟩
  · rw [same]
    exact itself char
  · exact small point member

theorem to_upper_is_digit : ∀ char : Char, char.toUpper.isDigit = char.isDigit :=
  @capital_cases (fun capital char => capital.isDigit = char.isDigit) (fun _ => rfl) (by decide)

theorem to_upper_is_number_blank : ∀ char : Char, isNumberBlank char.toUpper = isNumberBlank char :=
  @capital_cases (fun capital char => isNumberBlank capital = isNumberBlank char) (fun _ => rfl)
    (by decide)

theorem to_lower_to_upper : ∀ char : Char, char.toUpper.toLower = char.toLower :=
  @capital_cases (fun capital char => capital.toLower = char.toLower) (fun _ => rfl) (by decide)

theorem to_upper_is_exponent_mark :
    ∀ char : Char, char.toUpper = 'e' ∨ char.toUpper = 'E' ↔ char = 'e' ∨ char = 'E' :=
  @capital_cases (fun capital char => capital = 'e' ∨ capital = 'E' ↔ char = 'e' ∨ char = 'E')
    (fun _ => Iff.rfl) (by decide)

theorem to_upper_is_sign {sign : Char} (isSign : sign ∈ ['_', '-', '+', '.']) :
    ∀ char : Char, char.toUpper = sign ↔ char = sign := by
  refine @capital_cases (fun capital char => capital = sign ↔ char = sign) (fun _ => Iff.rfl) ?_
  simp only [List.mem_cons, List.not_mem_nil, or_false] at isSign
  rcases isSign with rfl | rfl | rfl | rfl <;> decide

theorem to_upper_digits {chars : List Char} (digits : ∀ char ∈ chars, char.isDigit = true) :
    chars.map Char.toUpper = chars := by
  have same : ∀ char ∈ chars, char.toUpper = id char := fun char member =>
    to_upper_of_digit (digits char member)
  rw [List.map_congr_left same, List.map_id]

theorem join_digits_capital (afterDigit : Bool) (chars : List Char) :
    joinDigits afterDigit (chars.map Char.toUpper) =
      (joinDigits afterDigit chars).map (List.map Char.toUpper) := by
  induction chars generalizing afterDigit with
  | nil => rfl
  | cons char chars induction =>
    by_cases score : char = '_'
    · subst score
      have next : (chars.map Char.toUpper).head?.any Char.isDigit = chars.head?.any Char.isDigit := by
        cases chars with
        | nil => rfl
        | cons first rest => exact to_upper_is_digit first
      rw [List.map_cons, show Char.toUpper '_' = '_' by decide, joinDigits, joinDigits, next, induction]
      split <;> rfl
    · have other : char.toUpper ≠ '_' := mt (to_upper_is_sign (by decide) char).mp score
      rw [List.map_cons, joinDigits, joinDigits, induction, to_upper_is_digit, Option.map_map,
        Option.map_map]
      · rfl
      · exact score
      · exact other

theorem take_sign_capital (chars : List Char) :
    takeSign (chars.map Char.toUpper) = ((takeSign chars).1, (takeSign chars).2.map Char.toUpper) := by
  cases chars with
  | nil => rfl
  | cons char chars =>
    by_cases minus : char = '-'
    · subst minus
      rfl
    · by_cases plus : char = '+'
      · subst plus
        rfl
      · have notMinus : char.toUpper ≠ '-' := mt (to_upper_is_sign (by decide) char).mp minus
        have notPlus : char.toUpper ≠ '+' := mt (to_upper_is_sign (by decide) char).mp plus
        rw [List.map_cons, take_sign_other notMinus notPlus, take_sign_other minus plus, List.map_cons]

theorem take_digits_capital (chars : List Char) :
    (chars.map Char.toUpper).takeWhile Char.isDigit = chars.takeWhile Char.isDigit := by
  have same : Char.isDigit ∘ Char.toUpper = Char.isDigit := funext to_upper_is_digit
  rw [List.takeWhile_map, same]
  exact to_upper_digits fun char member => List.mem_takeWhile_imp member

theorem drop_digits_capital (chars : List Char) :
    (chars.map Char.toUpper).dropWhile Char.isDigit =
      (chars.dropWhile Char.isDigit).map Char.toUpper := by
  have same : Char.isDigit ∘ Char.toUpper = Char.isDigit := funext to_upper_is_digit
  rw [List.dropWhile_map, same]

theorem read_digits_capital (chars : List Char) :
    readDigits? (chars.map Char.toUpper) = readDigits? chars := by
  by_cases digits : chars.all Char.isDigit = true
  · rw [to_upper_digits (List.all_eq_true.mp digits)]
  · have others : ¬ (chars.map Char.toUpper).all Char.isDigit = true := by
      rw [List.all_map, show Char.isDigit ∘ Char.toUpper = Char.isDigit from funext to_upper_is_digit]
      exact digits
    rw [readDigits?, readDigits?, if_neg (fun both => others both.2), if_neg (fun both => digits both.2)]

namespace Numeral

theorem read_exponent_capital (chars : List Char) :
    readExponent? (chars.map Char.toUpper) = readExponent? chars := by
  cases chars with
  | nil => rfl
  | cons mark rest =>
    simp only [List.map_cons, readExponent?, to_upper_is_exponent_mark, take_sign_capital,
      read_digits_capital]

theorem read_decimal_capital (chars : List Char) :
    readDecimal? (chars.map Char.toUpper) = readDecimal? chars := by
  have taken := take_digits_capital chars
  have dropped := drop_digits_capital chars
  cases behind : chars.dropWhile Char.isDigit with
  | nil =>
    rw [behind] at dropped
    simp only [readDecimal?, taken, dropped, behind, List.map_nil]
  | cons point rest =>
    rw [behind] at dropped
    by_cases isPoint : point = '.'
    · subst isPoint
      simp only [readDecimal?, taken, dropped, behind, List.map_cons,
        show Char.toUpper '.' = '.' by decide, take_digits_capital, drop_digits_capital,
        read_exponent_capital]
    · have other : point.toUpper ≠ '.' := mt (to_upper_is_sign (by decide) point).mp isPoint
      have same := read_exponent_capital (point :: rest)
      rw [List.map_cons] at dropped same
      rw [read_decimal_pointless dropped other, read_decimal_pointless behind isPoint, taken, same]

theorem read_capital (chars : List Char) : read? (chars.map Char.toUpper) = read? chars := by
  rw [read?, read?, join_digits_capital]
  cases joinDigits false chars with
  | none => rfl
  | some joined =>
    have lower : (takeSign joined).2.map (Char.toLower ∘ Char.toUpper) =
        (takeSign joined).2.map Char.toLower :=
      List.map_congr_left fun char _ => to_lower_to_upper char
    simp only [Option.map_some, Option.bind_eq_bind, Option.bind_some, take_sign_capital, List.map_map,
      lower, read_decimal_capital]

end Numeral

namespace Symbol

def capital : Symbol → Symbol
  | .char character => .char character.toUpper
  | other => other

theorem digit_lt_ten {symbol : Symbol} {value : Nat} (digit : symbol.digit? = some value) :
    value < 10 := by
  cases symbol with
  | raw byte => cases digit
  | half unit => cases digit
  | char character =>
    simp only [digit?] at digit
    split at digit
    · split at digit
      · rename_i isDigit
        cases digit
        have range := digit_range isDigit
        omega
      · cases digit
    · obtain ⟨start, found, rfl⟩ := Option.map_eq_some_iff.mp digit
      have inside := List.find?_some found
      simp only [Bool.and_eq_true, decide_eq_true_eq] at inside
      omega

theorem capital_beyond_ascii {character : Char} (beyond : ¬ character.toNat < 128) :
    character.toUpper = character := by
  rcases to_upper_cases character with same | ⟨point, letter, rfl⟩
  · exact same
  · have ascii : ∀ point ∈ List.range' 97 26, (Char.ofNat point).toNat < 128 := by decide
    exact absurd (ascii point letter) beyond

theorem ascii_form_capital (symbol : Symbol) :
    symbol.capital.asciiForm? = symbol.asciiForm?.map Char.toUpper := by
  cases symbol with
  | raw byte => rfl
  | half unit => rfl
  | char character =>
    by_cases ascii : character.toNat < 128
    · have capitalAscii : character.toUpper.toNat < 128 :=
        @capital_cases (fun capital char => char.toNat < 128 → capital.toNat < 128) (fun _ same => same)
          (by decide) character ascii
      rw [capital, asciiForm?, if_pos capitalAscii, asciiForm?, if_pos ascii]
      rfl
    · rw [capital, capital_beyond_ascii ascii, asciiForm?, if_neg ascii]
      split
      · rfl
      · cases digit : digit? (.char character) with
        | none => rfl
        | some value =>
          have digits : ∀ value < 10, (Char.ofNat (48 + value)).toUpper = Char.ofNat (48 + value) := by
            decide
          exact congrArg some (digits value (digit_lt_ten digit)).symm

end Symbol

namespace Text

def capitals (text : Text) : Text := text.map Symbol.capital

theorem ascii_form_capitals (text : Text) :
    text.capitals.asciiForm = text.asciiForm.map Char.toUpper := by
  induction text with
  | nil => rfl
  | cons symbol text induction =>
    have first := symbol.ascii_form_capital
    rw [capitals, List.map_cons, asciiForm, asciiForm, first]
    cases symbol.asciiForm? with
    | none => rfl
    | some char => exact congrArg (char.toUpper :: ·) induction

end Text

theorem Binary64.of_text_capitals (text : Text) : ofText? text.capitals = ofText? text := by
  have blank : isNumberBlank ∘ Char.toUpper = isNumberBlank := funext to_upper_is_number_blank
  simp only [ofText?, Text.ascii_form_capitals, List.dropWhile_map, ← List.map_reverse, blank,
    Numeral.read_capital]

end PrintParts
