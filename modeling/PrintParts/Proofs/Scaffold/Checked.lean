import PrintParts.Proofs.Number.Positional
import PrintParts.Proofs.Scaffold.Modes
import PrintParts.Proofs.Text.Words

/-!
What the check of a scaffold reads in a line. It finds the number of the command in the mnemonic, and
the number of a Z field where that is written without an exponent; so a scaffold that it accepts keeps
every such height below the limit wherever the moves are absolute.
-/

namespace PrintParts

namespace Text

theorem trim_end_blank (rest : Text) :
    trimEnd Symbol.isSpace (.char ' ' :: rest) = [] ∨
      trimEnd Symbol.isSpace (.char ' ' :: rest) = .char ' ' :: trimEnd Symbol.isSpace rest := by
  cases trimmed : trimEnd Symbol.isSpace rest with
  | nil => exact .inl (by simp [trimEnd, trimmed, show Symbol.isSpace (.char ' ') = true by decide])
  | cons first others => exact .inr (by simp [trimEnd, trimmed])

theorem trim_end_spaced {list : List Text} (words : ∀ word ∈ list, word ≠ [] ∧ word.IsWord) :
    trimEnd Symbol.isSpace (spaced list) = spaced list := by
  induction list with
  | nil => rfl
  | cons word list induction =>
    have later := induction fun other member => words other (List.mem_cons_of_mem _ member)
    obtain ⟨nonempty, isWord⟩ := words word List.mem_cons_self
    have first : trimEnd Symbol.isSpace (.char ' ' :: word) = .char ' ' :: word := by
      rcases trim_end_blank word with empty | kept
      · obtain ⟨symbol, rest, rfl⟩ := List.exists_cons_of_ne_nil nonempty
        rw [trimEnd, trim_end_solid isWord.solid] at empty
        cases empty
      · rw [kept, trim_end_solid isWord.solid]
    rw [spaced_cons, ← List.cons_append, trim_end_append first, later]

theorem ends_word_spaced (list : List Text) : EndsWord (spaced list) := by
  cases list with
  | nil => exact ends_word_nil
  | cons word list => exact ends_word_of_blank (by decide) _

theorem upper_spaced (list : List Text) : upper (spaced list) = spaced (list.map upper) := by
  induction list with
  | nil => rfl
  | cons word list induction =>
    rw [List.map_cons, spaced_cons, spaced_cons, ← induction, ← upper_append]
    rfl

end Text

namespace Scaffold

open Text

theorem trim_solid {word : Text} (nonempty : word ≠ []) (isWord : word.IsWord) (rest : Text) :
    Text.trim (word ++ rest) = word ++ trimEnd Symbol.isSpace rest := by
  obtain ⟨symbol, others, rfl⟩ := List.exists_cons_of_ne_nil nonempty
  have solid := isWord.solid symbol List.mem_cons_self
  rw [Text.trim, List.cons_append, List.dropWhile_cons_of_neg (by simp [solid]), ← List.cons_append,
    trim_end_append (trim_end_solid isWord.solid)]

theorem checked_code_opens {mnemonic : Text} (isMnemonic : IsMnemonic mnemonic)
    (fields : List Field) (note : Option Text) :
    ∃ rest, checkedCode (Line.code mnemonic fields note).toText = mnemonic ++ rest ∧
      EndsWord rest := by
  generalize behind : spaced (fields.map Field.word) ++ Line.noteText note = tail
  have blank : EndsWord (tail.before ';') := by
    rw [← behind]
    cases fields with
    | cons field fields => exact ends_word_of_blank (by decide) _
    | nil =>
      cases note with
      | none => exact ends_word_nil
      | some note => exact ends_word_of_blank (by decide) _
  refine ⟨upper (trimEnd Symbol.isSpace (tail.before ';')), ?_, ?_⟩
  · rw [checkedCode, Line.to_text_code, behind, before_append isMnemonic.isWord.uncommented,
      trim_solid isMnemonic.nonempty isMnemonic.isWord, upper_append, isMnemonic.capital]
  · exact ends_word_upper (ends_word_trim_end blank)

theorem checked_code_plain {mnemonic : Text} (isMnemonic : IsMnemonic mnemonic)
    {fields : List Field} (plain : ∀ field ∈ fields, field.Plain) (note : Option Text) :
    checkedCode (Line.code mnemonic fields note).toText =
      mnemonic ++ spaced (fields.map fun field => field.word.upper) := by
  have words : ∀ word ∈ fields.map Field.word, word ≠ [] ∧ word.IsWord := by
    intro word member
    obtain ⟨field, inFields, rfl⟩ := List.mem_map.mp member
    have read := Field.word_of_plain (plain field inFields)
    exact ⟨read.1, read.2.1⟩
  have uncommented := Line.spaced_uncommented fun word member => (words word member).2
  have noted : trimEnd Symbol.isSpace ((Line.noteText note).before ';') = [] := by
    cases note with
    | none => rfl
    | some note => simp [Line.noteText, Text.before, trimEnd, show Symbol.isSpace (.char ' ') = true by decide]
  rw [checkedCode, Line.to_text_code, before_append isMnemonic.isWord.uncommented,
    before_append uncommented, trim_solid isMnemonic.nonempty isMnemonic.isWord,
    trim_end_append (trim_end_spaced words), noted, List.append_nil, upper_append, upper_spaced,
    isMnemonic.capital, List.map_map]
  rfl

theorem take_digits_ends {word rest : Text} (ends : EndsWord rest) :
    takeDigits (word ++ rest) = takeDigits word ∧
      (word ++ rest).dropWhile Symbol.isDigit = word.dropWhile Symbol.isDigit ++ rest := by
  induction word with
  | nil =>
    cases rest with
    | nil => exact ⟨rfl, rfl⟩
    | cons symbol more => simp [takeDigits, (Symbol.of_blank (ends symbol rfl)).1]
  | cons symbol word induction =>
    cases digit : symbol.isDigit <;> simp_all [takeDigits]

theorem command_number_opens {mnemonic rest : Text} (nonempty : mnemonic ≠ []) (ends : EndsWord rest)
    (letter : Char) : commandNumber? letter (mnemonic ++ rest) = commandNumber? letter mnemonic := by
  obtain ⟨head, digits, rfl⟩ := List.exists_cons_of_ne_nil nonempty
  obtain ⟨taken, dropped⟩ := @take_digits_ends digits rest ends
  simp only [List.cons_append, commandNumber?, taken, dropped]
  congr 4
  cases digits.dropWhile Symbol.isDigit with
  | cons next others => rfl
  | nil =>
    cases rest with
    | nil => rfl
    | cons symbol more => simp [(Symbol.of_blank (ends symbol rfl)).2.1]

section

variable {α : Type} {named : Symbol → Bool} {read : Text → Option α}

theorem find_parameter_blank {blank : Symbol} (isBlank : blank.isSpace = true)
    (other : named blank = false) (behindWord : Bool) (rest : Text) :
    findParameter? named read behindWord (blank :: rest) = findParameter? named read false rest := by
  simp [findParameter?, other, (Symbol.of_blank isBlank).2.1]

theorem find_parameter_passes {word rest : Text} (free : ∀ symbol ∈ word, named symbol = false)
    (ends : EndsWord rest) (blank : ∀ symbol ∈ rest.head?, named symbol = false) (behindWord : Bool) :
    findParameter? named read behindWord (word ++ rest) = findParameter? named read false rest := by
  induction word generalizing behindWord with
  | nil =>
    cases rest with
    | nil => rfl
    | cons symbol more =>
      rw [List.nil_append, find_parameter_blank (ends symbol rfl) (blank symbol rfl),
        find_parameter_blank (ends symbol rfl) (blank symbol rfl)]
  | cons symbol word induction =>
    have other := free symbol List.mem_cons_self
    have later := induction (fun next member => free next (List.mem_cons_of_mem _ member)) symbol.isWord
    simp [findParameter?, other, later]

end

theorem is_digit_ascii {char : Char} (ascii : char.toNat < 128) :
    Symbol.isDigit (.char char) = char.isDigit := by
  cases digit : char.isDigit <;> simp [Symbol.isDigit, Symbol.digit?, ascii, digit]

theorem take_digits_text {digits : List Char} (plain : ∀ char ∈ digits, char.isDigit = true)
    {rest : Text} (ends : ∀ symbol ∈ rest.head?, symbol.isDigit = false) :
    takeDigits (ofChars digits ++ rest) = ofChars digits ∧
      (ofChars digits ++ rest).dropWhile Symbol.isDigit = rest := by
  have all : ∀ symbol ∈ ofChars digits, symbol.isDigit = true := by
    intro symbol member
    obtain ⟨char, inDigits, rfl⟩ := List.mem_map.mp member
    have digit := plain char inDigits
    have range := digit_range digit
    rw [is_digit_ascii (by omega), digit]
  rw [takeDigits, List.takeWhile_append_of_pos all, List.dropWhile_append_of_pos all]
  cases rest with
  | nil => simp
  | cons symbol rest => simp [ends symbol rfl]

theorem read_signed_digit {first : Char} (digit : first.isDigit = true) (rest : Text) :
    readSignedNumber? (.char first :: rest) = readPlainNumber? (.char first :: rest) := by
  unfold readSignedNumber?
  split
  · rename_i same
    cases same
    cases digit
  · rename_i same
    cases same
    cases digit
  · rfl

/-- What can stand behind a positional number: nothing, or what does not go on with it. -/
def EndsNumber (rest : Text) : Prop :=
  ∀ symbol ∈ rest.head?, symbol.isDigit = false ∧ symbol ≠ .char '.'

theorem ends_number_nil : EndsNumber [] := fun _ first => nomatch first

theorem ends_number_of_word {rest : Text} (ends : EndsWord rest) : EndsNumber rest := fun symbol first =>
  ⟨(Symbol.of_blank (ends symbol first)).1, Symbol.ne_of_blank (ends symbol first) (by decide)⟩

theorem read_plain_positional {chars : List Char} (positional : IsPositional chars) {rest : Text}
    (ends : EndsNumber rest) : readPlainNumber? (ofChars chars ++ rest) = some (ofChars chars) := by
  obtain ⟨whole, fraction, nonempty, digits, places, form⟩ := positional
  have blank : ∀ symbol ∈ rest.head?, symbol.isDigit = false := fun symbol first => (ends symbol first).1
  have solid : ofChars whole ≠ [] := by simpa [ofChars] using nonempty
  rcases form with rfl | rfl
  · obtain ⟨taken, dropped⟩ := take_digits_text digits blank
    rw [readPlainNumber?]
    simp only [taken, dropped, if_neg solid]
    cases rest with
    | nil => rfl
    | cons symbol more =>
      split
      · rename_i point
        exact absurd (List.cons.inj point).1 (ends symbol rfl).2
      · rfl
  · obtain ⟨taken, dropped⟩ := @take_digits_text whole digits (.char '.' :: (ofChars fraction ++ rest))
      (by simp [show Symbol.isDigit (.char '.') = false by decide])
    obtain ⟨takenFraction, -⟩ := take_digits_text places blank
    have split : ofChars (whole ++ '.' :: fraction) ++ rest =
        ofChars whole ++ .char '.' :: (ofChars fraction ++ rest) := by simp [ofChars]
    rw [readPlainNumber?, split]
    simp only [taken, dropped, if_neg solid, takenFraction]
    simp [ofChars]

theorem read_positional {chars : List Char} (positional : IsPositional chars) {rest : Text}
    (ends : EndsNumber rest) :
    readSignedNumber? (ofChars chars ++ rest) = some (ofChars chars) := by
  have unsigned := read_plain_positional positional ends
  obtain ⟨whole, fraction, nonempty, digits, -, form⟩ := positional
  obtain ⟨first, others, rfl⟩ := List.exists_cons_of_ne_nil nonempty
  have digit := digits first List.mem_cons_self
  rcases form with rfl | rfl
  · exact (read_signed_digit digit _).trans unsigned
  · exact (read_signed_digit digit _).trans unsigned

end Scaffold

/-- A field as the library writes it: a capital letter, and a text in number characters. -/
structure Field.Written (field : Field) : Prop where
  letter : ∃ letter, field.letter = [.char letter] ∧ IsMnemonic [.char letter]
  text : ∃ chars, field.text = Text.ofChars chars ∧ InNumberChars chars

namespace Field

variable {field : Field}

theorem plain_of_written (written : field.Written) : field.Plain := by
  obtain ⟨letter, single, capital⟩ := written.letter
  obtain ⟨chars, text, numeric⟩ := written.text
  refine ⟨⟨_, single⟩, single ▸ capital, ?_⟩
  rw [text]
  exact numeric.is_word

theorem upper_word_of_written (written : field.Written) :
    field.word.upper = field.letter ++ field.text.upper := by
  have capital := (plain_of_written written).letter.capital
  rw [word, Text.upper_append, capital]

end Field

theorem upper_number_chars {chars : List Char} (written : InNumberChars chars) :
    (Text.ofChars chars).upper = Text.ofChars (chars.map Char.toUpper) := by
  induction chars with
  | nil => rfl
  | cons char chars induction =>
    have ascii := (number_char_range (written char List.mem_cons_self)).2.1
    have later := induction fun other member => written other (List.mem_cons_of_mem _ member)
    simp only [Text.upper, Text.ofChars, List.map_cons, List.flatMap_cons, Symbol.upper, if_pos ascii]
      at later ⊢
    rw [later]
    rfl

/-- A number is one word in capital letters too, and no parameter of the check begins in it. -/
theorem upper_number_symbols {chars : List Char} (written : InNumberChars chars) :
    ∀ symbol ∈ (Text.ofChars chars).upper,
      symbol.isSpace = false ∧ symbol ≠ .char 'Z' ∧ symbol ≠ .char 'S' := by
  intro symbol member
  rw [upper_number_chars written] at member
  obtain ⟨_, capital, rfl⟩ := List.mem_map.mp member
  obtain ⟨char, inChars, rfl⟩ := List.mem_map.mp capital
  rcases number_char_cases (written char inChars) with digit | sign
  · rw [to_upper_of_digit digit]
    refine ⟨number_char_solid (written char inChars), ?_, ?_⟩ <;> rintro ⟨⟩ <;> cases digit
  · simp only [List.mem_cons, List.not_mem_nil, or_false] at sign
    rcases sign with rfl | rfl | rfl | rfl | rfl | rfl | rfl | rfl <;> decide

theorem positional_chars {chars : List Char} (positional : IsPositional chars) :
    (∀ char ∈ chars, char.isDigit = true ∨ char = '.') ∧
      ∃ first rest, chars = first :: rest ∧ first.isDigit = true := by
  obtain ⟨whole, fraction, nonempty, digits, places, form⟩ := positional
  obtain ⟨first, others, rfl⟩ := List.exists_cons_of_ne_nil nonempty
  have digit := digits first List.mem_cons_self
  rcases form with rfl | rfl
  · exact ⟨fun char member => .inl (digits char member), first, others, rfl, digit⟩
  · refine ⟨fun char member => ?_, first, _, rfl, digit⟩
    rcases List.mem_append.mp member with before | behind
    · exact .inl (digits char before)
    · rcases List.mem_cons.mp behind with point | after
      · exact .inr point
      · exact .inl (places char after)

theorem upper_positional {chars : List Char} (positional : IsPositional chars) :
    (Text.ofChars chars).upper = Text.ofChars chars := by
  have each := (positional_chars positional).1
  have written : InNumberChars chars := by
    intro char member
    rcases each char member with digit | rfl
    · rw [isNumberChar, digit, Bool.true_or]
    · rfl
  have same : ∀ char ∈ chars, char.toUpper = id char := by
    intro char member
    rcases each char member with digit | rfl
    · exact to_upper_of_digit digit
    · rfl
  rw [upper_number_chars written, List.map_congr_left same, List.map_id]

namespace Scaffold

open Text

theorem no_letter_in_field {field : Field} (written : field.Written)
    (other : field.isNamed 'Z' = false) : .char 'Z' ∉ field.word.upper := by
  rw [Field.upper_word_of_written written]
  obtain ⟨letter, single, -⟩ := written.letter
  obtain ⟨chars, text, numeric⟩ := written.text
  intro member
  rcases List.mem_append.mp member with first | later
  · rw [Field.isNamed, beq_eq_false_iff_ne] at other
    rw [single] at first other
    exact other (by rw [List.mem_singleton.mp first])
  · rw [text] at later
    exact (upper_number_symbols numeric _ later).2.1 rfl

/-- The Z parameter that the check finds is the first Z field, if its number is positional. -/
theorem z_parameter_of_field {fields : List Field} {field : Field}
    (written : ∀ other ∈ fields, other.Written)
    (first : fields.find? (·.isNamed 'Z') = some field) {chars : List Char}
    (text : field.text = ofChars chars) (positional : IsPositional chars) {word : Text}
    (free : .char 'Z' ∉ word) (behindWord : Bool) :
    findParameter? (· == .char 'Z') (fun rest => readSignedNumber? (rest.dropWhile Symbol.isSpace))
      behindWord (word ++ spaced (fields.map fun field => field.word.upper)) = some field.text := by
  induction fields generalizing word behindWord with
  | nil => cases first
  | cons other fields induction =>
    have passed : ∀ symbol ∈ word, (symbol == .char 'Z') = false := by
      intro symbol member
      rw [beq_eq_false_iff_ne]
      rintro rfl
      exact free member
    have blank : Symbol.isSpace (.char ' ') = true := by decide
    have wrote := written other List.mem_cons_self
    rw [List.map_cons, spaced_cons, find_parameter_passes passed (ends_word_of_blank blank _)
      (by rintro _ ⟨⟩; decide), find_parameter_blank blank (by decide)]
    cases named : other.isNamed 'Z' with
    | false =>
      rw [List.find?_cons_of_neg (by simp [named])] at first
      exact induction (fun next member => written next (List.mem_cons_of_mem _ member)) first
        (no_letter_in_field wrote named) false
    | true =>
      rw [List.find?_cons_of_pos (by simp [named])] at first
      cases first
      obtain ⟨-, opening, rest, opens, digit⟩ := positional_chars positional
      have solid : Symbol.isSpace (.char opening) = false :=
        number_char_solid (by rw [isNumberChar, digit, Bool.true_or])
      generalize tail : spaced (fields.map fun field => field.word.upper) = behind
      have ends : EndsNumber behind := tail ▸ ends_number_of_word (ends_word_spaced _)
      have number : readSignedNumber? ((ofChars chars ++ behind).dropWhile Symbol.isSpace) =
          some (ofChars chars) := by
        rw [← read_positional positional ends, opens]
        exact congrArg readSignedNumber? (List.dropWhile_cons_of_neg (by simp [solid]))
      rw [Field.upper_word_of_written wrote, eq_of_beq named, text, upper_positional positional]
      simp only [List.cons_append, List.nil_append, findParameter?, number]
      rfl

end Scaffold

end PrintParts
