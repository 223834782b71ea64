import PrintParts.Proofs.Scaffold.Checked
import PrintParts.Proofs.Scaffold.Report

/-!
When the check reports that a continuation homes Z. A line asks for that by a bare axis letter as well, but the
check sees a letter only with a number behind it: a Z without one is not seen, and neither is what an X or Y
without one leaves out.
-/

namespace PrintParts

namespace Scaffold

open Text

/-- A number stands at the beginning of a text: a digit of any script, or a sign and a digit. -/
inductive BeginsNumber : Text → Prop
  | plain {digit : Symbol} (isDigit : digit.isDigit = true) (behind : Text) :
    BeginsNumber (digit :: behind)
  | signed {sign digit : Symbol} (isSign : sign = .char '+' ∨ sign = .char '-')
    (isDigit : digit.isDigit = true) (behind : Text) : BeginsNumber (sign :: digit :: behind)

/-- One of some letters stands in a text, not behind a word symbol, and a number behind it; there may be blanks
between them. -/
def NumberFollows (letters code : Text) : Prop :=
  ∃ front letter blanks number, code = front ++ letter :: (blanks ++ number) ∧ letter ∈ letters ∧
    (∀ symbol ∈ front.getLast?, symbol.isWord = false) ∧ (∀ symbol ∈ blanks, symbol.isSpace = true) ∧
    BeginsNumber number

/-! What the check finds in a line. -/

theorem read_plain_some {text : Text} : (readPlainNumber? text).isSome ↔
    ∃ digit behind, text = digit :: behind ∧ digit.isDigit = true := by
  cases text with
  | nil => simp [readPlainNumber?, takeDigits]
  | cons symbol rest =>
    cases digit : symbol.isDigit with
    | false => simp [readPlainNumber?, takeDigits, digit]
    | true =>
      simp only [readPlainNumber?, takeDigits, List.takeWhile_cons_of_pos digit, List.cons_ne_nil, if_false]
      split <;> simp [digit]

theorem read_signed_some {text : Text} : (readSignedNumber? text).isSome ↔ BeginsNumber text := by
  have unsigned : ∀ sign : Char, Symbol.isDigit (.char sign) = false → ∀ rest : Text,
      (readPlainNumber? rest).isSome → sign = '+' ∨ sign = '-' → BeginsNumber (.char sign :: rest) := by
    intro sign _ rest found isSign
    obtain ⟨digit, behind, rfl, isDigit⟩ := read_plain_some.mp found
    exact .signed (isSign.imp (congrArg _) (congrArg _)) isDigit behind
  constructor
  · intro found
    unfold readSignedNumber? at found
    split at found
    · rw [Option.isSome_map] at found
      exact unsigned '+' (by decide) _ found (.inl rfl)
    · rw [Option.isSome_map] at found
      exact unsigned '-' (by decide) _ found (.inr rfl)
    · obtain ⟨digit, behind, rfl, isDigit⟩ := read_plain_some.mp found
      exact .plain isDigit behind
  · intro begins
    cases begins with
    | plain isDigit behind =>
      unfold readSignedNumber?
      split
      · rename_i same
        cases same
        exact absurd isDigit (by decide)
      · rename_i same
        cases same
        exact absurd isDigit (by decide)
      · exact read_plain_some.mpr ⟨_, _, rfl, isDigit⟩
    | signed isSign isDigit behind =>
      rcases isSign with rfl | rfl <;>
        exact Option.isSome_map.trans (read_plain_some.mpr ⟨_, _, rfl, isDigit⟩)

theorem solid_of_begins {text : Text} (begins : BeginsNumber text) :
    ∀ symbol ∈ text.head?, symbol.isSpace = false := by
  have digits : ∀ digit : Symbol, digit.isDigit = true → digit.isSpace = false := by
    intro digit isDigit
    by_contra blank
    rw [(Symbol.of_blank (Bool.eq_true_of_not_eq_false blank)).1] at isDigit
    cases isDigit
  cases begins with
  | plain isDigit behind =>
    rintro _ ⟨⟩
    exact digits _ isDigit
  | signed isSign isDigit behind =>
    rintro _ ⟨⟩
    rcases isSign with rfl | rfl <;> decide

theorem begins_behind_blanks {text : Text} : BeginsNumber (text.dropWhile Symbol.isSpace) ↔
    ∃ blanks number, text = blanks ++ number ∧ (∀ symbol ∈ blanks, symbol.isSpace = true) ∧
      BeginsNumber number := by
  constructor
  · intro begins
    exact ⟨text.takeWhile Symbol.isSpace, _, List.takeWhile_append_dropWhile.symm,
      fun symbol => List.mem_takeWhile_imp, begins⟩
  · rintro ⟨blanks, number, rfl, blank, begins⟩
    have solid := solid_of_begins begins
    rw [List.dropWhile_append_of_pos blank]
    cases number with
    | nil => exact begins
    | cons symbol rest => rwa [List.dropWhile_cons_of_neg (by simp [solid symbol rfl])]

section

variable {α : Type} {named : Symbol → Bool} {read : Text → Option α}

theorem find_parameter_cons (behindWord : Bool) (symbol : Symbol) (rest : Text) :
    (findParameter? named read behindWord (symbol :: rest)).isSome ↔
      (behindWord = false ∧ named symbol = true ∧ (read rest).isSome) ∨
        (findParameter? named read symbol.isWord rest).isSome := by
  rw [findParameter?]
  cases behindWord <;> cases named symbol <;> cases read rest <;> simp

/-- A parameter is found exactly where a letter stands that is not behind a word symbol, with something to be
read behind it. -/
theorem find_parameter_some {behindWord : Bool} {text : Text} :
    (findParameter? named read behindWord text).isSome ↔
      ∃ front symbol behind, text = front ++ symbol :: behind ∧ named symbol = true ∧
        (read behind).isSome ∧ (front.getLast?.map Symbol.isWord).getD behindWord = false := by
  induction text generalizing behindWord with
  | nil => simp [findParameter?]
  | cons first rest induction =>
    have further : ∀ front : Text, ((first :: front).getLast?.map Symbol.isWord).getD behindWord =
        (front.getLast?.map Symbol.isWord).getD first.isWord := by
      intro front
      rw [List.getLast?_cons]
      cases front.getLast? <;> rfl
    rw [find_parameter_cons, induction]
    constructor
    · rintro (⟨outside, isNamed, reads⟩ | ⟨front, symbol, behind, rfl, isNamed, reads, outside⟩)
      · exact ⟨[], first, rest, rfl, isNamed, reads, outside⟩
      · exact ⟨first :: front, symbol, behind, rfl, isNamed, reads, (further front).trans outside⟩
    · rintro ⟨_ | ⟨_, front⟩, symbol, behind, whole, isNamed, reads, outside⟩
      · cases whole
        exact .inl ⟨outside, isNamed, reads⟩
      · cases whole
        exact .inr ⟨front, symbol, behind, rfl, isNamed, reads, (further front).symm.trans outside⟩

/-- What it means for the check to find a parameter with a number. -/
theorem find_parameter_numbered {letters code : Text}
    (names : ∀ symbol, named symbol = true ↔ symbol ∈ letters) :
    (findParameter? named (fun rest => readSignedNumber? (rest.dropWhile Symbol.isSpace)) false code).isSome ↔
      NumberFollows letters code := by
  simp only [find_parameter_some, read_signed_some, begins_behind_blanks, names, NumberFollows]
  have opens : ∀ front : Text, (front.getLast?.map Symbol.isWord).getD false = false ↔
      ∀ symbol ∈ front.getLast?, symbol.isWord = false := by
    intro front
    cases front.getLast? <;> simp
  simp only [opens]
  constructor
  · rintro ⟨front, letter, _, rfl, listed, ⟨blanks, number, rfl, blank, begins⟩, outside⟩
    exact ⟨front, letter, blanks, number, rfl, listed, outside, blank, begins⟩
  · rintro ⟨front, letter, blanks, number, rfl, listed, outside, blank, begins⟩
    exact ⟨front, letter, _, rfl, listed, ⟨blanks, number, rfl, blank, begins⟩, outside⟩

end

theorem z_parameter_some {code : Text} : (zParameter? code).isSome ↔ NumberFollows [.char 'Z'] code :=
  find_parameter_numbered fun symbol => by simp

theorem has_xy_parameter_iff {code : Text} :
    hasXYParameter code = true ↔ NumberFollows [.char 'X', .char 'Y'] code :=
  find_parameter_numbered fun symbol => by simp

/-! Where the check reports what it finds. -/

section

variable {context : CheckContext} {state final : CheckState} {lines : List Text} {number : Nat}
  {issues : List Issue}

theorem legible_of_check_lines (checked : checkLines context state number lines = .ok (issues, final)) :
    ∀ line ∈ lines, Legible line := by
  induction lines generalizing state number issues with
  | nil => exact fun _ member => (nomatch member)
  | cons line lines induction =>
    rw [checkLines] at checked
    refine List.forall_mem_cons.mpr ?_
    by_cases empty : checkedCode line = []
    · simp only [empty, if_true] at checked
      exact ⟨.inl empty, induction checked⟩
    · simp only [if_neg empty] at checked
      obtain ⟨reading, read, checked⟩ := bind_eq_ok.mp checked
      obtain ⟨later, checkedLater, same⟩ := bind_eq_ok.mp checked
      cases same
      exact ⟨.inr ⟨reading, read⟩, induction checkedLater⟩

/-- An issue has the number of the line that gives it. -/
theorem mem_check_lines (checked : checkLines context state number lines = .ok (issues, final))
    {place : Nat} {cause : IssueCause} : ⟨place, cause⟩ ∈ issues ↔
      ∃ index line reading, lines[index]? = some line ∧ place = number + index ∧
        reading? line = some reading ∧
        reading.Gives context (stateBehind state ((lines.take index).filterMap reading?)) cause := by
  induction lines generalizing state number issues with
  | nil =>
    cases checked
    simp
  | cons line lines induction =>
    rw [checkLines] at checked
    by_cases empty : checkedCode line = []
    · simp only [empty, if_true] at checked
      have silent : reading? line = none := if_pos empty
      rw [induction checked]
      constructor
      · rintro ⟨index, other, reading, stands, rfl, read, gives⟩
        refine ⟨index + 1, other, reading, stands, by omega, read, ?_⟩
        rwa [List.take_succ_cons, List.filterMap_cons_none silent]
      · rintro ⟨_ | index, other, reading, stands, rfl, read, gives⟩
        · cases stands
          rw [silent] at read
          cases read
        · rw [List.take_succ_cons, List.filterMap_cons_none silent] at gives
          exact ⟨index, other, reading, stands, by omega, read, gives⟩
    · simp only [if_neg empty] at checked
      obtain ⟨here, read, checked⟩ := bind_eq_ok.mp checked
      obtain ⟨later, checkedLater, same⟩ := bind_eq_ok.mp checked
      cases same
      have spoken : reading? line = some here := by
        rw [reading?, if_neg empty, read]
        rfl
      rw [List.mem_append, induction checkedLater, List.mem_map]
      constructor
      · rintro (⟨_, gives, same⟩ | ⟨index, other, reading, stands, rfl, read, gives⟩)
        · cases same
          exact ⟨0, line, here, rfl, rfl, spoken, mem_causes.mp gives⟩
        · refine ⟨index + 1, other, reading, stands, by omega, read, ?_⟩
          rwa [List.take_succ_cons, List.filterMap_cons_some spoken]
      · rintro ⟨_ | index, other, reading, stands, rfl, read, gives⟩
        · cases stands
          obtain rfl := Option.some.inj (spoken.symm.trans read)
          exact .inl ⟨cause, mem_causes.mpr gives, rfl⟩
        · rw [List.take_succ_cons, List.filterMap_cons_some spoken] at gives
          exact .inr ⟨index, other, reading, stands, by omega, read, gives⟩

end

theorem reading_of_home {line : Text} {others : List Text}
    (homes : (line.before ';').words.map Text.upper = Text.of "G28" :: others) :
    ∃ heats, reading? line = some {
      g := some 28
      m := none
      z := zParameter? (checkedCode line)
      hasXY := hasXYParameter (checkedCode line)
      heats } := by
  obtain ⟨first, words, whole, isHome, -⟩ := List.map_eq_cons_iff.mp homes
  have separates := separates_words (line.before ';')
  rw [whole] at separates
  obtain ⟨rest, trimmed, ends⟩ := separates.trim_opens
  have code : checkedCode line = Text.of "G28" ++ rest.upper := by
    rw [checkedCode, trimmed, upper_append, isHome]
  have opens : ∀ letter, readCommandNumber? letter (checkedCode line) =
      readCommandNumber? letter (Text.of "G28") := by
    intro letter
    rw [readCommandNumber?, readCommandNumber?, code,
      command_number_opens (by decide) (ends_word_upper ends)]
  have g : readCommandNumber? 'G' (Text.of "G28") = .ok (some 28) := by decide +kernel
  have m : readCommandNumber? 'M' (Text.of "G28") = .ok none := by decide +kernel
  have nonempty : checkedCode line ≠ [] := by
    rw [code]
    exact List.cons_ne_nil _ _
  rw [reading?, if_neg nonempty]
  simp only [CheckedLine.ofCode, opens, g, m, ok_bind]
  exact ⟨_, rfl⟩

/-- When the check reports that a line of a continuation homes Z. Every line has to be read, which takes no
more than that the numbers of G and M commands are not too long; then G28 is reported at its line if a number
follows a Z in it, and also if no number follows an X or Y. A letter without a number counts for nothing. -/
theorem homed_height_reported_iff {context : CheckContext} {lines : List Text} {index : Nat} {line : Text}
    {others : List Text} (continues : 0 < context.part) (stands : lines[index]? = some line)
    (homes : (line.before ';').words.map Text.upper = Text.of "G28" :: others) :
    (∃ issues, check context lines = .ok issues ∧ ⟨index + 1, .homesZ⟩ ∈ issues ∧
        Issue.errors issues ≠ []) ↔
      (∀ other ∈ lines, Legible other) ∧
        (NumberFollows [.char 'Z'] (checkedCode line) ∨
          ¬ NumberFollows [.char 'X', .char 'Y'] (checkedCode line)) := by
  obtain ⟨heats, reading⟩ := reading_of_home homes
  have given : ∀ state, CheckedLine.Gives ⟨some 28, none, zParameter? (checkedCode line),
      hasXYParameter (checkedCode line), heats⟩ context state .homesZ ↔
      (NumberFollows [.char 'Z'] (checkedCode line) ∨
        ¬ NumberFollows [.char 'X', .char 'Y'] (checkedCode line)) := by
    intro state
    simp [CheckedLine.Gives, continues, CheckedLine.homesZ, z_parameter_some, ← has_xy_parameter_iff]
  have unplaced : ∀ state, ⟨index + 1, .homesZ⟩ ∉ missing context state := by
    intro state member
    have cause := mem_missing.mp (List.mem_map_of_mem member)
    simp at cause
  have placed : ∀ {issues final}, checkLines context (.start context) 1 lines = .ok (issues, final) →
      (⟨index + 1, .homesZ⟩ ∈ issues ↔
        (NumberFollows [.char 'Z'] (checkedCode line) ∨
          ¬ NumberFollows [.char 'X', .char 'Y'] (checkedCode line))) := by
    intro issues final checked
    rw [mem_check_lines checked]
    constructor
    · rintro ⟨other, otherLine, found, otherStands, same, read, gives⟩
      obtain rfl : other = index := by omega
      obtain rfl := Option.some.inj (stands.symm.trans otherStands)
      obtain rfl := Option.some.inj (reading.symm.trans read)
      exact (given _).mp gives
    · intro gives
      exact ⟨index, line, _, stands, Nat.add_comm index 1, reading, (given _).mpr gives⟩
  constructor
  · rintro ⟨issues, checks, member, -⟩
    obtain ⟨⟨found, final⟩, checked, same⟩ := bind_eq_ok.mp checks
    cases same
    have inLines := (List.mem_append.mp member).resolve_right (unplaced final)
    exact ⟨legible_of_check_lines checked, (placed checked).mp inLines⟩
  · rintro ⟨legible, gives⟩
    obtain ⟨found, checked, -⟩ := @check_lines_of_legible context lines legible (.start context) 1
    have inLines := (placed checked).mpr gives
    refine ⟨_, bind_eq_ok.mpr ⟨_, checked, rfl⟩, List.mem_append_left _ inLines, ?_⟩
    exact List.ne_nil_of_mem (List.mem_filter.mpr ⟨List.mem_append_left _ inLines, rfl⟩)

theorem homed_height_reported_with_number :
    0 < (1 : Int) ∧
    ∃ issues, check ⟨.opening, 1, 250⟩ [Text.of "M104 S200", Text.of " g28 X0\tz 0 ; home"] = .ok issues ∧
      ⟨2, .homesZ⟩ ∈ issues ∧ Issue.errors issues ≠ [] := by
  have numbered : NumberFollows [.char 'Z'] (checkedCode (Text.of " g28 X0\tz 0 ; home")) :=
    z_parameter_some.mp (by decide +kernel)
  refine ⟨by decide, (@homed_height_reported_iff ⟨.opening, 1, 250⟩ _ 1
    (Text.of " g28 X0\tz 0 ; home") [Text.of "X0", Text.of "Z", Text.of "0"]
    (by decide) rfl (by decide +kernel)).mpr ⟨?_, .inl numbered⟩⟩
  have legible : ∀ line ∈ [Text.of "M104 S200", Text.of " g28 X0\tz 0 ; home"],
      (CheckedLine.ofCode (checkedCode line)).toOption.isSome = true := by decide +kernel
  intro line member
  obtain ⟨checked, read⟩ := Option.isSome_iff_exists.mp (legible line member)
  exact .inr ⟨checked, to_option_eq_some.mp read⟩

theorem homed_bare_height_unreported :
    ((Text.of "G28 X0 Z").before ';').words.map Text.upper =
      [Text.of "G28", Text.of "X0", Text.of "Z"] ∧
    check ⟨.opening, 1, 250⟩ [Text.of "M104 S200", Text.of "G92 Z5", Text.of "G28 X0 Z"] = .ok [] := by
  decide +kernel

end Scaffold

end PrintParts
