import PrintParts.Proofs.Scaffold.Findings
import PrintParts.Proofs.Scaffold.Parameters

/-!
The check of a scaffold whose lines are plain. It looks for its parameters in the text of a line, and on a
plain line it finds them in the fields of the command, so that its report is made of the findings about the
commands.
-/

namespace PrintParts

/-- The number of a plain field: a positional one, with a minus sign in front or none. -/
def IsPlainNumber (text : Text) : Prop :=
  ∃ chars, IsPositional chars ∧ (text = Text.ofChars chars ∨ text = .char '-' :: Text.ofChars chars)

/-- The first word of a plain line. -/
def IsPlainMnemonic (word : Text) : Prop :=
  ∃ letter digits, word = .char letter :: Text.ofChars digits ∧ letter ∈ ['G', 'g', 'M', 'm'] ∧
    digits ≠ [] ∧ ∀ char ∈ digits, char.isDigit = true

/-- The other words of a plain line. -/
def IsPlainArgument (word : Text) : Prop :=
  ∃ letter text, word = .char letter :: text ∧ letter.isAlpha = true ∧ IsPlainNumber text

/-- A line with nothing in front of its comment, or with a mnemonic and arguments, no two of which have
the same letter. -/
def IsPlainLine (line : Text) : Prop :=
  (line.before ';').words = [] ∨ ∃ mnemonic arguments, (line.before ';').words = mnemonic :: arguments ∧
    IsPlainMnemonic mnemonic ∧ (∀ word ∈ arguments, IsPlainArgument word) ∧
    (arguments.map fun word => (Field.ofWord word).letter).Nodup

namespace Scaffold

section

open Text

variable {word line : Text} {arguments : List Text}

theorem plain_number_chars {text : Text} (plain : IsPlainNumber text) :
    ∃ chars, text = ofChars chars ∧ ∀ char ∈ chars, char.isDigit = true ∨ char = '.' ∨ char = '-' := by
  obtain ⟨chars, positional, rfl | rfl⟩ := plain
  · exact ⟨chars, rfl, fun char member => ((positional_chars positional).1 char member).imp_right .inl⟩
  · refine ⟨'-' :: chars, rfl, List.forall_mem_cons.mpr ⟨.inr (.inr rfl), fun char member => ?_⟩⟩
    exact ((positional_chars positional).1 char member).imp_right .inl

theorem plain_number_upper {text : Text} (plain : IsPlainNumber text) : text.upper = text := by
  obtain ⟨chars, positional, rfl | rfl⟩ := plain
  · exact upper_positional positional
  · exact congrArg (.char '-' :: ·) (upper_positional positional)

theorem plain_number_symbols {text : Text} (plain : IsPlainNumber text) :
    ∀ symbol ∈ text, symbol.isSpace = false ∧ symbol ∉ parameterLetters := by
  obtain ⟨chars, rfl, each⟩ := plain_number_chars plain
  intro symbol member
  obtain ⟨char, inChars, rfl⟩ := List.mem_map.mp member
  have written : isNumberChar char = true := by
    rcases each char inChars with digit | rfl | rfl
    · rw [isNumberChar, digit, Bool.true_or]
    · rfl
    · rfl
  refine ⟨number_char_solid written, fun letter => ?_⟩
  simp only [parameterLetters, List.mem_cons, Symbol.char.injEq, List.not_mem_nil, or_false] at letter
  rcases letter with rfl | rfl | rfl | rfl <;> exact absurd written (by decide)

theorem plain_number_signed {text : Text} (plain : IsPlainNumber text) :
    text ≠ [] ∧ readSignedNumber? text = some text := by
  obtain ⟨chars, positional, form⟩ := plain
  have unsigned := read_plain_positional positional ends_number_nil
  have signed := read_positional positional ends_number_nil
  rw [List.append_nil] at unsigned signed
  obtain ⟨-, first, rest, rfl, -⟩ := positional_chars positional
  rcases form with rfl | rfl
  · exact ⟨List.cons_ne_nil _ _, signed⟩
  · refine ⟨List.cons_ne_nil _ _, ?_⟩
    simp only [readSignedNumber?, unsigned, Option.map_some]

/-- A number with a minus sign is not read, and it is none that heats. -/
theorem plain_number_unsigned {text : Text} (plain : IsPlainNumber text) :
    readPlainNumber? text = some text ∨
      readPlainNumber? text = none ∧ ¬ (0 : Binary64) < parameterValue text := by
  obtain ⟨chars, positional, rfl | rfl⟩ := plain
  · have unsigned := read_plain_positional positional ends_number_nil
    rw [List.append_nil] at unsigned
    exact .inl unsigned
  · obtain ⟨number, decimal⟩ := positional.decimal
    obtain ⟨value, reads, -, below⟩ := Binary64.read_signed decimal true
    have reads : Binary64.ofText? (.char '-' :: ofChars chars) = some value := reads
    refine .inr ⟨rfl, ?_⟩
    rw [parameterValue, reads]
    exact Binary64.not_lt_of_le (below rfl)

theorem plain_argument_reads (plain : IsPlainArgument word) : ∃ letter text,
    word.upper = letter :: text ∧ Field.ofWord word = ⟨[letter], text⟩ ∧
    letter.isSpace = false ∧ IsPlainNumber text := by
  obtain ⟨letter, text, rfl, alpha, plain⟩ := plain
  have all : ∀ point < 128, (Char.ofNat point).isAlpha = true →
      Symbol.isSpace (.char (Char.ofNat point).toUpper) = false := by
    decide +kernel
  have ascii : letter.toNat < 128 := by
    rcases Bool.or_eq_true_iff.mp alpha with upper | lower
    · have high := (of_decide_eq_true upper).2
      have below : letter.toNat ≤ 90 := UInt32.le_iff_toNat_le.mp high
      omega
    · have high := of_decide_eq_true (Bool.and_eq_true_iff.mp lower).2
      have below : letter.toNat ≤ 122 := UInt32.le_iff_toNat_le.mp high
      omega
  have capital : Symbol.upper (.char letter) = [.char letter.toUpper] := if_pos ascii
  have solid := all letter.toNat ascii
  rw [Char.ofNat_toNat] at solid
  refine ⟨.char letter.toUpper, text, ?_, ?_, solid alpha, plain⟩
  · rw [Text.upper, List.flatMap_cons, capital, ← Text.upper, plain_number_upper plain]
    rfl
  · rw [Field.ofWord, capital]

theorem plain_mnemonic_reads (plain : IsPlainMnemonic word) : ∃ letter digits,
    word.upper = .char letter :: digits ∧ (letter = 'G' ∨ letter = 'M') ∧ IsPlainNumber digits ∧
    takeDigits digits = digits ∧ digits.dropWhile Symbol.isDigit = [] := by
  obtain ⟨letter, digits, rfl, named, some, each⟩ := plain
  have plain : IsPlainNumber (ofChars digits) :=
    ⟨digits, ⟨digits, [], some, each, List.forall_mem_nil _, .inl rfl⟩, .inl rfl⟩
  obtain ⟨taken, dropped⟩ := @take_digits_text digits each [] (fun _ first => nomatch first)
  rw [List.append_nil] at taken dropped
  obtain ⟨capital, either⟩ : Symbol.upper (.char letter) = [.char letter.toUpper] ∧
      (letter.toUpper = 'G' ∨ letter.toUpper = 'M') := by
    simp only [List.mem_cons, List.not_mem_nil, or_false] at named
    rcases named with rfl | rfl | rfl | rfl <;> decide
  refine ⟨letter.toUpper, ofChars digits, ?_, either, plain, taken, dropped⟩
  rw [Text.upper, List.flatMap_cons, capital, ← Text.upper, plain_number_upper plain]
  rfl

theorem signed_parameter_of_arguments {named : Symbol → Bool} {test : Field → Bool}
    (agree : ∀ letter text, test ⟨[letter], text⟩ = named letter)
    (each : ∀ word ∈ arguments, IsPlainArgument word) :
    (arguments.map Text.upper).findSome? (parameterOf? named readSignedNumber?) =
      ((arguments.map Field.ofWord).find? test).map (·.text) := by
  induction arguments with
  | nil => rfl
  | cons word arguments induction =>
    obtain ⟨here, later⟩ := List.forall_mem_cons.mp each
    obtain ⟨letter, text, upper, field, -, plain⟩ := plain_argument_reads here
    rw [List.map_cons, List.map_cons, List.findSome?_cons, upper, field, induction later, parameterOf?]
    cases isNamed : named letter with
    | false =>
      rw [List.find?_cons_of_neg (by simp [agree, isNamed])]
      rfl
    | true =>
      rw [List.find?_cons_of_pos (by simp [agree, isNamed])]
      simp [(plain_number_signed plain).2]

theorem either_field (fields : List Field) (first second : Char) :
    (fields.find? fun field => field.isNamed first || field.isNamed second).isSome =
      ((fields.find? (·.isNamed first)).isSome || (fields.find? (·.isNamed second)).isSome) := by
  rw [Bool.eq_iff_iff]
  simp only [Bool.or_eq_true, List.find?_isSome, and_or_left, exists_or]

theorem field_named_single (letter : Symbol) (text : Text) (name : Char) :
    (⟨[letter], text⟩ : Field).isNamed name = (letter == .char name) := by
  rw [Bool.eq_iff_iff]
  simp [Field.isNamed]

/-- A parameter without a sign is found in no other field either if the one of its letter has a sign. -/
theorem heats_of_arguments (each : ∀ word ∈ arguments, IsPlainArgument word)
    (apart : (arguments.map fun word => (Field.ofWord word).letter).Nodup) :
    (((arguments.map Text.upper).findSome? (parameterOf? (· == .char 'S') readPlainNumber?)).any
        fun number => (0 : Binary64) < parameterValue number) =
      ((arguments.map Field.ofWord).find? (·.isNamed 'S')).any
        fun field => (0 : Binary64) < parameterValue field.text := by
  induction arguments with
  | nil => rfl
  | cons word arguments induction =>
    obtain ⟨here, later⟩ := List.forall_mem_cons.mp each
    obtain ⟨first, apart⟩ := List.nodup_cons.mp apart
    obtain ⟨letter, text, upper, field, -, plain⟩ := plain_argument_reads here
    have isNamed := field_named_single letter text 'S'
    rw [List.map_cons, List.map_cons, List.findSome?_cons, upper, field, parameterOf?]
    by_cases named : (letter == .char 'S') = true
    · rw [List.find?_cons_of_pos (by rw [isNamed, named]), if_pos named]
      rcases plain_number_unsigned plain with reads | ⟨unread, cold⟩
      · simp [reads]
      · have others : (arguments.map Text.upper).findSome?
            (parameterOf? (· == .char 'S') readPlainNumber?) = none := by
          rw [List.findSome?_eq_none_iff, List.forall_mem_map]
          intro other member
          obtain ⟨otherLetter, otherText, otherUpper, otherField, -, -⟩ :=
            plain_argument_reads (later other member)
          have differs : otherLetter ≠ .char 'S' := by
            rintro rfl
            refine first (List.mem_map.mpr ⟨other, member, ?_⟩)
            simp [otherField, field, eq_of_beq named]
          rw [otherUpper, parameterOf?, if_neg (by simpa using differs)]
        simp [unread, others, cold]
    · rw [List.find?_cons_of_neg (by rw [isNamed]; exact named), if_neg named]
      exact induction later apart

theorem separates_plain {words : List Text} (separates : Separates (line.before ';') words)
    (form : ∀ word ∈ words, ∃ letter text, word.upper = letter :: text ∧ letter.isSpace = false ∧
      IsPlainNumber text) :
    Separates (checkedCode line) (words.map Text.upper) ∧
      ∀ word ∈ words.map Text.upper, IsLettered word := by
  constructor
  · refine separates.trim.upper fun word member => ?_
    obtain ⟨letter, text, upper, solid, plain⟩ := form word member
    rw [upper]
    exact ⟨List.cons_ne_nil _ _, List.forall_mem_cons.mpr
      ⟨solid, fun symbol inText => (plain_number_symbols plain symbol inText).1⟩⟩
  · refine List.forall_mem_map.mpr fun word member => ?_
    obtain ⟨letter, text, upper, -, plain⟩ := form word member
    exact ⟨letter, text, upper, (plain_number_signed plain).1,
      fun symbol inText => (plain_number_symbols plain symbol inText).2⟩

theorem parameters_of_plain {code digits : Text} {letter : Char} (either : letter = 'G' ∨ letter = 'M')
    (separates : Separates code ((.char letter :: digits) :: arguments.map Text.upper))
    (lettered : ∀ word ∈ (.char letter :: digits) :: arguments.map Text.upper, IsLettered word)
    (each : ∀ word ∈ arguments, IsPlainArgument word)
    (apart : (arguments.map fun word => (Field.ofWord word).letter).Nodup) {fields : List Field}
    (read : fields = arguments.map Field.ofWord) :
    zParameter? code = (fields.find? (·.isNamed 'Z')).map (·.text) ∧
    hasXYParameter code =
      ((fields.find? (·.isNamed 'X')).isSome || (fields.find? (·.isNamed 'Y')).isSome) ∧
    ((sParameter? code).any fun number => (0 : Binary64) < parameterValue number) =
      (fields.find? (·.isNamed 'S')).any fun field => (0 : Binary64) < parameterValue field.text := by
  subst read
  obtain ⟨z, xy, s⟩ := parameters_of_words separates lettered
  have other : ∀ named : Symbol → Bool, named (.char 'G') = false → named (.char 'M') = false →
      ∀ read : Text → Option Text, parameterOf? named read (.char letter :: digits) = none := by
    intro named notG notM read
    rcases either with rfl | rfl
    · simp [parameterOf?, notG]
    · simp [parameterOf?, notM]
  rw [z, xy, s, List.findSome?_cons, List.findSome?_cons, List.findSome?_cons,
    other _ (by decide) (by decide), other _ (by decide) (by decide), other _ (by decide) (by decide)]
  refine ⟨?_, ?_, heats_of_arguments each apart⟩
  · exact signed_parameter_of_arguments (fun letter text => field_named_single letter text 'Z') each
  · have parameter := @signed_parameter_of_arguments arguments
      (fun symbol => symbol == .char 'X' || symbol == .char 'Y')
      (fun field => field.isNamed 'X' || field.isNamed 'Y')
      (fun letter text => congrArg₂ (· || ·) (field_named_single letter text 'X')
        (field_named_single letter text 'Y')) each
    dsimp only
    rw [parameter, Option.isSome_map]
    exact either_field _ 'X' 'Y'

theorem of_plain_line {mnemonic : Text} (words : (line.before ';').words = mnemonic :: arguments)
    (opens : IsPlainMnemonic mnemonic) (each : ∀ word ∈ arguments, IsPlainArgument word)
    (apart : (arguments.map fun word => (Field.ofWord word).letter).Nodup) :
    checkedCode line ≠ [] ∧ CheckedLine.ofCode (checkedCode line) =
      match (Command.ofLine line).excess? with
      | some count => .error (.value (.tooManyDigits count))
      | none => .ok (Command.ofLine line).checked := by
  obtain ⟨letter, digits, upper, either, plain, taken, dropped⟩ := plain_mnemonic_reads opens
  have separates := separates_words (line.before ';')
  rw [words] at separates
  obtain ⟨rest, trimmed, ends⟩ := separates.trim_opens
  have code : checkedCode line = (.char letter :: digits) ++ Text.upper rest := by
    rw [checkedCode, trimmed, upper_append, upper]
  have command : Command.ofLine line =
      ⟨.char letter :: digits, arguments.map Field.ofWord, (line.after? ';').getD []⟩ := by
    rw [Command.ofLine, words, Command.ofWords, upper]
  obtain ⟨capital, lettered⟩ := separates_plain separates <| List.forall_mem_cons.mpr
    ⟨⟨.char letter, digits, upper, by rcases either with rfl | rfl <;> decide, plain⟩, fun word member => by
      obtain ⟨letter, text, upper, -, solid, plain⟩ := plain_argument_reads (each word member)
      exact ⟨letter, text, upper, solid, plain⟩⟩
  rw [List.map_cons, upper] at capital lettered
  obtain ⟨z, xy, s⟩ := parameters_of_plain either capital lettered each apart rfl
  have number : ∀ name, readCommandNumber? name (checkedCode line) =
      if letter = name then (readCommandNumber digits).map some else .ok none := by
    intro name
    rw [readCommandNumber?, code, command_number_opens (List.cons_ne_nil _ _) (ends_word_upper ends)]
    simp only [commandNumber?, taken, dropped]
    by_cases same : letter = name <;> simp [same, (plain_number_signed plain).1]
  refine ⟨by simp [code], ?_⟩
  unfold CheckedLine.ofCode
  rw [number, number, z, xy, s, command]
  by_cases long : integerDigitLimit < digits.length
  · have refused : readCommandNumber digits = .error (.value (.tooManyDigits digits.length)) := if_pos long
    rw [Command.excess?, List.tail_cons, if_pos long, refused]
    rcases either with rfl | rfl <;> rfl
  · have read : readCommandNumber digits = .ok (digitsValue digits) := if_neg long
    rw [Command.excess?, List.tail_cons, if_neg long, read]
    rcases either with rfl | rfl <;> rfl

theorem of_empty_line (words : (line.before ';').words = []) : checkedCode line = [] ∧
    (Command.ofLine line).excess? = none ∧
    (Command.ofLine line).checked = ⟨none, none, none, false, false⟩ := by
  have separates := separates_words (line.before ';')
  rw [words] at separates
  have command : Command.ofLine line = ⟨[], [], (line.after? ';').getD []⟩ := by
    rw [Command.ofLine, words, Command.ofWords]
  refine ⟨?_, by rw [command]; rfl, by rw [command]; rfl⟩
  rw [checkedCode, separates.trim_nil]
  rfl

end

section

variable {context : CheckContext} {lines : List Text}

theorem check_lines_plain (plain : ∀ line ∈ lines, IsPlainLine line) (earlier : List Command) :
    checkLines context (.behind context earlier) (earlier.length + 1) lines =
      match lines.findSome? fun line => (Command.ofLine line).excess? with
      | some count => .error (.value (.tooManyDigits count))
      | none => .ok (findingsFrom context earlier (lines.map Command.ofLine),
          .behind context (earlier ++ lines.map Command.ofLine)) := by
  induction lines generalizing earlier with
  | nil => simp [checkLines, findingsFrom]
  | cons line lines induction =>
    obtain ⟨here, later⟩ := List.forall_mem_cons.mp plain
    have induction := induction later (earlier ++ [Command.ofLine line])
    rw [List.length_append, List.length_singleton, ← next_eq_behind] at induction
    rw [checkLines, List.findSome?_cons, List.map_cons, findingsFrom, ← causes_eq_findings]
    rcases here with empty | ⟨mnemonic, arguments, words, opens, each, apart⟩
    · obtain ⟨code, excess, nothing⟩ := of_empty_line empty
      have same : (Command.ofLine line).checked.next (.behind context earlier) = .behind context earlier := by
        rw [nothing]
        simp [CheckedLine.next, CheckedLine.relativeAfter, CheckedLine.declaresZ, CheckedLine.movesXY]
      have none : (Command.ofLine line).checked.causes context (.behind context earlier) = [] := by
        rw [nothing]
        simp [CheckedLine.causes, CheckedLine.homesZ, CheckedLine.movesXY, CheckedLine.zTarget?]
      rw [same] at induction
      simp only [code, if_true, excess, none, induction]
      simp
    · obtain ⟨code, read⟩ := of_plain_line words opens each apart
      simp only [if_neg code, read]
      cases (Command.ofLine line).excess? with
      | some count => rfl
      | none =>
        simp only [ok_bind, induction]
        cases lines.findSome? fun line => (Command.ofLine line).excess? with
        | some count => rfl
        | none => simp [bind, Except.bind]

/-- The check reports of plain lines what is wrong with their commands, unless the number of one of them
has too many digits to be read. -/
theorem check_eq_findings (plain : ∀ line ∈ lines, IsPlainLine line) : check context lines =
    match lines.findSome? fun line => (Command.ofLine line).excess? with
    | some count => .error (.value (.tooManyDigits count))
    | none => .ok (findingsFrom context [] (lines.map Command.ofLine) ++
        findingsBehind context (lines.map Command.ofLine)) := by
  have checked := @check_lines_plain context lines plain []
  rw [← start_eq_behind] at checked
  unfold check
  rw [show 1 = ([] : List Command).length + 1 from rfl, checked]
  cases lines.findSome? fun line => (Command.ofLine line).excess? with
  | some count => rfl
  | none => simp only [ok_bind, missing_eq_findings_behind, List.nil_append]

end

def homingLines : List Text := [Text.of "g28", Text.of "G1 x5 Y-7.5 ; over the part", Text.of "G92 Z300."]

theorem homing_lines_plain : ∀ line ∈ homingLines, IsPlainLine line := by
  have x : IsPlainArgument (Text.of "x5") :=
    ⟨'x', Text.of "5", rfl, by decide, ['5'],
      ⟨['5'], [], List.cons_ne_nil _ _, by simp, by simp, .inl rfl⟩, .inl rfl⟩
  have y : IsPlainArgument (Text.of "Y-7.5") :=
    ⟨'Y', Text.of "-7.5", rfl, by decide, ['7', '.', '5'],
      ⟨['7'], ['5'], List.cons_ne_nil _ _, by simp, by simp, .inr rfl⟩, .inr rfl⟩
  have z : IsPlainArgument (Text.of "Z300.") :=
    ⟨'Z', Text.of "300.", rfl, by decide, ['3', '0', '0', '.'],
      ⟨['3', '0', '0'], [], List.cons_ne_nil _ _, by simp, by simp, .inr rfl⟩, .inl rfl⟩
  simp only [homingLines, List.forall_mem_cons]
  exact ⟨.inr ⟨Text.of "g28", [], by decide, ⟨'g', ['2', '8'], rfl, by decide, List.cons_ne_nil _ _, by simp⟩,
      List.forall_mem_nil _, by decide⟩,
    .inr ⟨Text.of "G1", [Text.of "x5", Text.of "Y-7.5"], by decide,
      ⟨'G', ['1'], rfl, by decide, List.cons_ne_nil _ _, by simp⟩, by simp [x, y], by decide⟩,
    .inr ⟨Text.of "G92", [Text.of "Z300."], by decide,
      ⟨'G', ['9', '2'], rfl, by decide, List.cons_ne_nil _ _, by simp⟩, by simp [z], by decide⟩,
    List.forall_mem_nil _⟩

theorem check_eq_findings_of_homing : (∀ line ∈ homingLines, IsPlainLine line) ∧
    check ⟨.opening, 2, 250⟩ homingLines =
      .ok [⟨1, .homesZ⟩, ⟨2, .movesBeforeZ⟩, ⟨3, .aboveLimit 300 250⟩, ⟨0, .noNozzleTemperature⟩] := by
  refine ⟨homing_lines_plain, ?_⟩
  rw [check_eq_findings homing_lines_plain]
  decide +kernel

def zerosLine (count : Nat) : Text := .char 'G' :: Text.ofChars (List.replicate count '0')

theorem zeros_line_words {count : Nat} (some : 0 < count) :
    ((zerosLine count).before ';').words = [zerosLine count] ∧ IsPlainMnemonic (zerosLine count) := by
  have digits : ∀ char ∈ List.replicate count '0', char.isDigit = true := fun char member => by
    rw [List.eq_of_mem_replicate member]
    rfl
  have each : ∀ symbol ∈ zerosLine count, symbol = .char 'G' ∨ symbol = .char '0' := by
    simp [zerosLine, Text.ofChars]
  refine ⟨?_, 'G', List.replicate count '0', rfl, by decide, by simp [Nat.ne_of_gt some], digits⟩
  have free : .char ';' ∉ zerosLine count := fun member => by
    rcases each _ member with same | same <;> cases same
  have solid : ∀ symbol ∈ zerosLine count, symbol.isSpace = false := by
    intro symbol member
    rcases each symbol member with rfl | rfl <;> decide
  rw [Text.before_eq_self free]
  exact Text.words_of_solid (List.cons_ne_nil _ _) solid

theorem zeros_line_plain {count : Nat} (some : 0 < count) : IsPlainLine (zerosLine count) :=
  .inr ⟨_, [], (zeros_line_words some).1, (zeros_line_words some).2, List.forall_mem_nil _,
    List.nodup_nil⟩

theorem check_of_zeros {count : Nat} (long : integerDigitLimit < count) (context : CheckContext) :
    check context [zerosLine count] = .error (.value (.tooManyDigits count)) := by
  have some : 0 < count := Nat.zero_lt_of_lt long
  obtain ⟨words, opens⟩ := zeros_line_words some
  obtain ⟨solid, read⟩ := of_plain_line words opens (List.forall_mem_nil _) List.nodup_nil
  have length : (zerosLine count).upper.tail.length = count := by
    have written : InNumberChars (List.replicate count '0') := fun char member => by
      rw [List.eq_of_mem_replicate member]
      rfl
    change (Text.ofChars (List.replicate count '0')).upper.length = count
    rw [upper_number_chars written]
    simp [Text.ofChars]
  have excess : (Command.ofLine (zerosLine count)).excess? = .some count := by
    rw [Command.excess?, Command.ofLine, words, Command.ofWords, length, if_pos long]
  rw [excess] at read
  simp [check, checkLines, solid, read, bind, Except.bind]

/-- The check looks at the moves of every opening but the first, also of parts that have a number below
zero, and it fails where a number has too many digits. -/
theorem check_beyond_first_opening :
    (∀ line ∈ [Text.of "G1 X5", zerosLine 4301], IsPlainLine line) ∧
    check ⟨.opening, -1, 250⟩ [Text.of "G1 X5"] = .ok [⟨1, .movesBeforeZ⟩, ⟨0, .noNozzleTemperature⟩] ∧
    check ⟨.closing, 0, 250⟩ [zerosLine 4301] = .error (.value (.tooManyDigits 4301)) := by
  have x : IsPlainArgument (Text.of "X5") :=
    ⟨'X', Text.of "5", rfl, by decide, ['5'],
      ⟨['5'], [], List.cons_ne_nil _ _, by simp, by simp, .inl rfl⟩, .inl rfl⟩
  have moving : IsPlainLine (Text.of "G1 X5") := .inr ⟨Text.of "G1", [Text.of "X5"], by decide,
    ⟨'G', ['1'], rfl, by decide, List.cons_ne_nil _ _, by simp⟩, by simp [x], by decide⟩
  exact ⟨by simp [moving, zeros_line_plain], by decide +kernel, check_of_zeros (by decide) _⟩

end Scaffold

end PrintParts
