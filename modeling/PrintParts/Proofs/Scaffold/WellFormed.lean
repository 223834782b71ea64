import PrintParts.Job
import PrintParts.Proofs.Number.Readable
import PrintParts.Proofs.Recording.Layers
import PrintParts.Proofs.Scaffold.Sections
import PrintParts.Proofs.Text.ByteLines

/-!
The form of scaffold lines. Each stays one line wherever it is read, is read as a command with a G or M
code or without any, and has numbers where numbers belong. There is one exception: the length of the
filament that is pulled back is written behind a minus sign, which only does for a length without a sign
of its own.
-/

namespace PrintParts

namespace Symbol

/-- Symbols that end a line for some reader. -/
def isLineBreak : Symbol → Bool
  | .char character =>
    [10, 11, 12, 13, 28, 29, 30, 0x85, 0x2028, 0x2029].contains character.toNat
  | _ => false

/-- ASCII from the blank on. -/
def isInline : Symbol → Bool
  | .char character => 32 ≤ character.toNat && character.toNat < 128
  | _ => false

theorem no_break_of_inline {symbol : Symbol} (inLine : symbol.isInline = true) :
    symbol.isLineBreak = false ∧ Text.isLineEnd symbol = false := by
  cases symbol with
  | char character =>
    simp only [isInline, Bool.and_eq_true, decide_eq_true_eq] at inLine
    constructor
    · simp only [isLineBreak, List.contains_eq_mem, List.mem_cons, List.not_mem_nil, or_false,
        decide_eq_false_iff_not]
      omega
    · refine decide_eq_false ?_
      rintro (same | same) <;> cases same <;> exact absurd inLine.1 (by decide)
  | raw byte => cases inLine
  | half unit => cases inLine

end Symbol

namespace Text

def Inline (text : Text) : Prop := ∀ symbol ∈ text, symbol.isInline = true

instance (text : Text) : Decidable text.Inline := inferInstanceAs (Decidable (∀ symbol ∈ text, _))

@[simp]
theorem inline_append (front back : Text) : Inline (front ++ back) ↔ front.Inline ∧ back.Inline :=
  List.forall_mem_append

@[simp]
theorem inline_cons (symbol : Symbol) (text : Text) :
    Inline (symbol :: text) ↔ symbol.isInline = true ∧ text.Inline :=
  List.forall_mem_cons

/-- A letter and digits. -/
def isCode : Text → Bool
  | .char letter :: digits =>
    (letter == 'G' || letter == 'M') && !digits.isEmpty && digits.all Symbol.isAsciiDigit
  | _ => false

/-- The text of a comment that cannot be taken for a marker. -/
def opensRemark : Text → Bool
  | .char ' ' :: .char first :: _ => first != ' ' && first != '-' && first != 'e'
  | _ => false

end Text

theorem InNumberChars.inLine {chars : List Char} (written : InNumberChars chars) :
    (Text.ofChars chars).Inline := by
  intro symbol member
  obtain ⟨char, inChars, rfl⟩ := List.mem_map.mp member
  have range := number_char_range (written char inChars)
  simp only [Symbol.isInline, Bool.and_eq_true, decide_eq_true_eq]
  omega

@[simp]
theorem Binary64.to_text_inline (value : Binary64) : value.toText.Inline :=
  (number_chars_significant value).inLine

theorem Text.of_nat_inline (value : Nat) : (Text.ofNat value).Inline :=
  (InNumberChars.of_digits fun _ digit =>
    Nat.isDigit_of_mem_toDigits (by decide) (by decide) digit).inLine

@[simp]
theorem Text.of_int_inline (value : Int) : (Text.ofInt value).Inline := by
  cases value with
  | ofNat value => exact of_nat_inline value
  | negSucc below => exact (inline_cons _ _).mpr ⟨by decide, of_nat_inline (below + 1)⟩

namespace Field

def isNumeric (field : Field) : Bool := ['X', 'Y', 'Z', 'E', 'F', 'S', 'P'].any field.isNamed

def HasNumber (field : Field) : Prop := field.isNumeric = true → field.text.numeral?.isSome = true

/-- A field that is read back and stays in its line. -/
def Tidy (field : Field) : Prop := field.Plain ∧ field.letter.Inline ∧ field.text.Inline

theorem value_of_has_number {field : Field} :
    field.HasNumber ↔ (field.isNumeric = true → ∃ number, field.value = .ok number) := by
  simp only [value_eq_ok_iff, ← Option.isSome_iff_exists, Binary64.of_text_is_some, HasNumber]

end Field

/-- A line that stays one line, is read as a command with a G or M code or without any, and has numbers where
numbers belong. -/
structure Text.WellFormed (line : Text) : Prop where
  unbroken : ∀ symbol ∈ line, symbol.isLineBreak = false
  read : ∃ command, Token.ofLine line = .ok (.command command) ∧
    (command.mnemonic = [] ∨ command.mnemonic.isCode = true) ∧
    ∀ field ∈ command.fields, field.isNumeric = true → ∃ number, field.value = .ok number

namespace Scaffold

namespace Line

def Tidy (holds : Field → Prop) : Line → Prop
  | .blank => True
  | .remark text => text.opensRemark = true ∧ text.Inline
  | .code mnemonic fields note => (IsMnemonic mnemonic ∧ mnemonic.isCode = true ∧ mnemonic.Inline) ∧
    (∀ field ∈ fields, field.Tidy ∧ holds field) ∧ (note.getD []).Inline

variable {line : Line} {holds : Field → Prop}

@[simp]
theorem blank_tidy : blank.Tidy holds := trivial

@[simp]
theorem remark_tidy (text : Text) :
    (remark text).Tidy holds ↔ text.opensRemark = true ∧ text.Inline := Iff.rfl

@[simp]
theorem code_tidy (mnemonic : Text) (fields : List Field) (note : Option Text) :
    (code mnemonic fields note).Tidy holds ↔
      (IsMnemonic mnemonic ∧ mnemonic.isCode = true ∧ mnemonic.Inline) ∧
      (∀ field ∈ fields, field.Tidy ∧ holds field) ∧ (note.getD []).Inline := Iff.rfl

theorem inline_of_tidy (tidy : line.Tidy holds) : line.toText.Inline := by
  cases line with
  | blank => exact fun _ member => nomatch member
  | remark text => exact (Text.inline_cons _ _).mpr ⟨by decide, tidy.2⟩
  | code mnemonic fields note =>
    obtain ⟨⟨-, -, named⟩, inFields, noted⟩ := tidy
    have spaced : Text.Inline (Text.spaced (fields.map Field.word)) := by
      intro symbol member
      obtain ⟨word, listed, inWord⟩ := List.mem_flatMap.mp member
      obtain ⟨field, inLine, rfl⟩ := List.mem_map.mp listed
      obtain ⟨⟨-, letter, text⟩, -⟩ := inFields field inLine
      rcases List.mem_cons.mp inWord with rfl | inside
      · rfl
      · exact (Text.inline_append _ _).mpr ⟨letter, text⟩ symbol inside
    have behind : Text.Inline (noteText note) := by
      cases note with
      | none => exact fun _ member => nomatch member
      | some note => simpa [noteText, show (Symbol.char ' ').isInline = true by decide,
          show (Symbol.char ';').isInline = true by decide] using noted
    rw [to_text_code]
    simp only [Text.inline_append]
    exact ⟨named, spaced, behind⟩

theorem plain_of_tidy (tidy : line.Tidy holds) : line.Plain := by
  cases line with
  | blank => trivial
  | remark text => trivial
  | code mnemonic fields note => exact ⟨tidy.1.1, fun field member => (tidy.2.1 field member).1.1⟩

theorem token_of_remark {text : Text} (opens : text.opensRemark = true) (inLine : text.Inline) :
    Token.ofLine (remark text).toText = .ok (.command (.ofLine (remark text).toText)) := by
  unfold Text.opensRemark at opens
  split at opens
  · rename_i first rest
    simp only [Bool.and_eq_true, bne_iff_ne, ne_eq] at opens
    obtain ⟨⟨noBlank, noDash⟩, noE⟩ := opens
    have chomped : Text.chomp (remark (.char ' ' :: .char first :: rest)).toText =
        .char ';' :: .char ' ' :: .char first :: rest := by
      refine Text.chomp_line_free fun symbol member => ?_
      rcases List.mem_cons.mp member with rfl | inside
      · decide
      · exact (Symbol.no_break_of_inline (inLine symbol inside)).2
    have noMarker : ∀ opening : String, Text.dropStart? (.char ';' :: .char ' ' :: .char first :: rest)
        (Text.of opening) = none → ∀ accepted, Text.soleArgument? opening accepted
          (.char ';' :: .char ' ' :: .char first :: rest) = none := by
      intro opening other accepted
      rw [Text.soleArgument?, other]
    have noEnd : Text.isEndMarker (.char ';' :: .char ' ' :: .char first :: rest) = false := by
      simp [Text.isEndMarker, noBlank, noDash, noE, Text.of, Text.ofChars, Text.dropStart?]
    simp only [Token.ofLine, chomped, noMarker ";LAYER:" rfl, noMarker ";LAYER_COUNT:" rfl,
      noMarker ";Layer height:" rfl, noEnd]
    rfl
  · cases opens

theorem token_of_tidy (tidy : line.Tidy holds) : Token.ofLine line.toText = .ok (.command line.command) := by
  rw [← of_line_to_text (plain_of_tidy tidy)]
  cases line with
  | blank => rfl
  | remark text => exact token_of_remark tidy.1 tidy.2
  | code mnemonic fields note =>
    have chomped := Text.chomp_line_free fun symbol member =>
      (Symbol.no_break_of_inline (inline_of_tidy tidy symbol member)).2
    have opens : (code mnemonic fields note).toText.head? ≠ some (.char ';') := by
      intro first
      rw [to_text_code] at first
      obtain ⟨letter, rest, rfl⟩ := List.exists_cons_of_ne_nil tidy.1.1.nonempty
      cases first
      exact tidy.1.1.isWord.uncommented List.mem_cons_self
    rw [Token.of_line_command opens, chomped]

theorem code_of_tidy (tidy : line.Tidy holds) :
    line.command.mnemonic = [] ∨ line.command.mnemonic.isCode = true := by
  cases line with
  | blank => exact .inl rfl
  | remark text => exact .inl rfl
  | code mnemonic fields note => exact .inr tidy.1.2.1

/-- A tidy line is well formed exactly if there are numbers in its fields where they belong. -/
theorem well_formed_iff (tidy : line.Tidy holds) :
    line.toText.WellFormed ↔ ∀ field ∈ line.command.fields, field.HasNumber := by
  have read := token_of_tidy tidy
  simp only [Field.value_of_has_number]
  constructor
  · rintro ⟨-, command, same, -, numbers⟩
    rw [read] at same
    cases same
    exact numbers
  · intro numbers
    exact ⟨fun symbol member => (Symbol.no_break_of_inline (inline_of_tidy tidy symbol member)).1,
      line.command, read, code_of_tidy tidy, numbers⟩

theorem well_formed_of_tidy (tidy : line.Tidy Field.HasNumber) : line.toText.WellFormed := by
  refine (well_formed_iff tidy).mpr ?_
  cases line with
  | blank => exact fun _ member => nomatch member
  | remark text => exact fun _ member => nomatch member
  | code mnemonic fields note => exact fun field member => (tidy.2.1 field member).2

end Line

@[simp]
theorem field_tidy (letter : Char) (text : Text) : (field letter text).Tidy ↔
    (IsMnemonic [.char letter] ∧ text.IsWord) ∧ Text.Inline [.char letter] ∧ text.Inline := by
  rw [Field.Tidy, field_plain]
  rfl

@[simp]
theorem fixed_field_tidy (letter : Char) (text : String) : (fixedField letter text).Tidy ↔
    (IsMnemonic [.char letter] ∧ (Text.of text).IsWord) ∧
      Text.Inline [.char letter] ∧ (Text.of text).Inline :=
  field_tidy letter (Text.of text)

@[simp]
theorem fixed_field_has_number (letter : Char) (text : String) : (fixedField letter text).HasNumber ↔
    ((fixedField letter text).isNumeric = true → (Text.of text).numeral?.isSome = true) := Iff.rfl

@[simp]
theorem number_field_tidy (letter : Char) (value : Binary64) :
    (numberField letter value).Tidy ↔ IsMnemonic [.char letter] ∧ Text.Inline [.char letter] := by
  simp [numberField, value.to_text_is_word]

@[simp]
theorem number_field_has_number (letter : Char) (value : Binary64) :
    (numberField letter value).HasNumber := fun _ => value.to_text_is_numeral

@[simp]
theorem negated_field_tidy (letter : Char) (value : Binary64) :
    (negatedField letter value).Tidy ↔ IsMnemonic [.char letter] ∧ Text.Inline [.char letter] := by
  have written : InNumberChars ('-' :: value.significant 15) :=
    (Binary64.number_chars_significant value).cons (by decide)
  have isWord : Text.IsWord (.char '-' :: value.toText) := written.is_word
  have inLine : Text.Inline (.char '-' :: value.toText) := written.inLine
  simp only [negatedField, field_tidy, isWord, inLine, and_true]

/-- A minus sign is put in front of the number, whatever its own sign. -/
theorem negated_field_has_number {letter : Char} {value : Binary64}
    (numeric : (negatedField letter value).isNumeric = true) :
    (negatedField letter value).HasNumber ↔ value.hasMinus = false := by
  have numeral := value.negated_is_numeral
  rw [Field.HasNumber, show (negatedField letter value).text = .char '-' :: value.toText from rfl, numeral]
  simp [numeric]

@[simp]
theorem bed_x_tidy (x : Binary64) : (bedX x).Tidy := by
  have written := Binary64.number_chars_fixed 1 x
  exact (field_tidy 'X' _).mpr ⟨⟨by decide, written.is_word⟩, by decide, written.inLine⟩

@[simp]
theorem bed_x_has_number (x : Binary64) : (bedX x).HasNumber := fun _ => x.fixed_is_numeral 1

theorem amount_field_tidy {amount : Amount} (number : amount.isNumber = true) :
    (field 'S' amount.toText).Tidy ∧ (field 'S' amount.toText).HasNumber := by
  have isWord : amount.toText.IsWord := by
    refine Amount.to_text_is_word ?_
    rintro shown rfl
    cases number
  have inLine : amount.toText.Inline := by
    cases amount with
    | integer value => exact Text.of_int_inline value
    | number value => exact value.number_chars_shortest.inLine
    | truth value => cases number
    | other shown => cases number
  exact ⟨(field_tidy 'S' _).mpr ⟨⟨by decide, isWord⟩, by decide, inLine⟩,
    fun _ => Amount.to_text_is_numeral number⟩

section

variable {settings : Settings}

theorem header_tidy (point : ResumePoint) (layer part : Int) :
    ∀ line ∈ point.headerLines layer part, line.Tidy Field.HasNumber := by
  simp only [ResumePoint.headerLines, List.forall_mem_cons, Line.remark_tidy, Text.inline_append,
    Binary64.to_text_inline, Text.of_int_inline, and_true]
  refine ⟨⟨rfl, ⟨⟨by decide, by decide⟩, by decide⟩, ?_⟩, ⟨rfl, ⟨⟨by decide, by decide⟩, by decide⟩, ?_⟩,
    ⟨rfl, by decide⟩, List.forall_mem_nil _⟩
  · cases point.homing with
    | full => decide
    | declared z => exact z.to_text_inline
  · cases point.fan with
    | none => decide
    | some fan =>
      cases fan with
      | off => decide
      | duty value => exact value.to_text_inline

theorem leading_tidy (point : ResumePoint) (layer part : Int) :
    ∀ line ∈ settings.leadingLines point layer part, line.Tidy Field.HasNumber := by
  have heated : ∀ line ∈ if part = 0 ∨ settings.reheatBed then point.heatBedLines else [],
      line.Tidy Field.HasNumber := by
    split
    · simp +decide [ResumePoint.heatBedLines, noted]
    · exact fun _ member => nomatch member
  have homed : ∀ line ∈ point.homing.lines, line.Tidy Field.HasNumber := by
    cases point.homing with
    | full => simp +decide [Homing.lines, noted]
    | declared z => simp +decide [Homing.lines, noted]
  simp only [Settings.leading_lines_eq, Settings.firstLines, List.forall_mem_append]
  refine ⟨⟨⟨⟨header_tidy point layer part, ?_⟩, heated⟩, homed⟩, ?_⟩
  · simp +decide [noted]
  · simp +decide [noted]

theorem ironing_tidy (nozzle : Binary64) {layer : Layer} (known : layer.TraceKnown) :
    ∀ line ∈ ironingAround nozzle layer.ironingPath.toList, line.Tidy Field.HasNumber := by
  have traced : ∀ line ∈ layer.ironingPath.toList.map ironingLine, line.Tidy Field.HasNumber := by
    intro line member
    obtain ⟨⟨x, y, z⟩, inTrace, rfl⟩ := List.mem_map.mp member
    have absolute := known _ inTrace
    simp only [Position.isAbsolute, Bool.and_eq_true] at absolute
    cases x with
    | unknown | relative => simp [AxisValue.isAbsolute] at absolute
    | absolute x =>
      cases y with
      | unknown | relative => simp [AxisValue.isAbsolute] at absolute
      | absolute y =>
        cases z with
        | unknown | relative => simp [AxisValue.isAbsolute] at absolute
        | absolute z =>
          change (noted "G0" [numberField 'X' x, numberField 'Y' y, numberField 'Z' z,
            fixedField 'F' "600"] " ironing").Tidy Field.HasNumber
          simp +decide [noted]
  simp only [ironingAround, List.forall_mem_append]
  refine ⟨⟨?_, traced⟩, ?_⟩
  · simp +decide [noted, remark]
  · simp +decide [remark]

theorem opening_tidy {policy : OverridePolicy} {program : List Text} {print : Print}
    (recorded : Print.ofLines policy program = .ok print) {layer : Layer} {part : Int}
    (retract : settings.retract.hasMinus = false) (primeRetract : settings.primeRetract.hasMinus = false)
    (flow : settings.continuationFlow.isNumber = true) (feed : settings.continuationFeed.isNumber = true)
    {opening : List Line} (opens : settings.opening print layer part = .ok opening) :
    ∀ line ∈ opening, line.Tidy Field.HasNumber := by
  have unsigned : ∀ {value : Binary64}, value.hasMinus = false → (negatedField 'E' value).HasNumber :=
    fun unsigned => (negated_field_has_number rfl).mpr unsigned
  obtain ⟨point, prime, ironing, -, primes, irons, rfl⟩ := Settings.opening_eq_ok opens
  have primed : ∀ line ∈ prime, line.Tidy Field.HasNumber := by
    rcases Settings.prime_eq_ok primes with ⟨x, rfl⟩ | rfl
    · simp +decide [Settings.bedPrimeLines, heatNozzle, remark, noted, unsigned primeRetract]
    · simp +decide [Settings.airPrimeLines, heatNozzle, remark, noted, unsigned primeRetract]
  have blown : ∀ line ∈ point.fanLines, line.Tidy Field.HasNumber := by
    unfold ResumePoint.fanLines
    split
    · exact fun _ member => nomatch member
    · rename_i fan _
      cases fan <;> simp +decide [fanLine]
  have rates : ∀ line ∈ settings.firstLayerRates, line.Tidy Field.HasNumber := by
    have flowField := amount_field_tidy flow
    have feedField := amount_field_tidy feed
    unfold Settings.firstLayerRates
    split <;> simp +decide [noted, flowField, feedField]
  have ironed := Settings.forall_ironing (Line.Tidy Field.HasNumber) irons fun below inPrint nozzle =>
    ironing_tidy nozzle (Print.traces_known recorded below inPrint)
  have behind : ∀ line ∈ settings.behindLines point part prime ironing, line.Tidy Field.HasNumber := by
    simp only [Settings.behindLines, List.forall_mem_append]
    refine ⟨⟨⟨⟨⟨⟨?_, primed⟩, ?_⟩, ironed⟩, ?_⟩, blown⟩, Settings.forall_rate_lines _ rates⟩
    · simp +decide [Settings.parkLines, noted, bare, unsigned retract]
    · simp +decide [ResumePoint.approachLines, remark, noted, bare]
    · simp +decide [ResumePoint.restoreLines, remark, noted, bare]
  rw [Settings.opening_at_eq]
  simp only [List.forall_mem_append]
  refine ⟨leading_tidy point layer.number part, ?_, behind⟩
  simp +decide [Settings.absoluteLines, noted]

theorem closing_tidy (retract : settings.retract.hasMinus = false) (lifted : Binary64) :
    ∀ line ∈ settings.closingAt lifted, line.Tidy Field.HasNumber := by
  have unsigned : (negatedField 'E' settings.retract).HasNumber :=
    (negated_field_has_number rfl).mpr retract
  simp +decide [Settings.closingAt, noted, bare, remark, unsigned]

theorem after_first_layer_tidy {layer : Layer} {lines : List Line}
    (behind : afterFirstLayer layer = .ok lines) : ∀ line ∈ lines, line.Tidy Field.HasNumber := by
  unfold afterFirstLayer at behind
  split at behind
  · cases behind
  · cases behind
    simp +decide [noted]

theorem negated_line_well_formed {mnemonic : Text} {value : Binary64} {others : List Field}
    {note : Option Text}
    (tidy : (Line.code mnemonic (negatedField 'E' value :: others) note).Tidy fun _ => True)
    (numbers : ∀ field ∈ others, field.HasNumber) :
    (Line.code mnemonic (negatedField 'E' value :: others) note).toText.WellFormed ↔
      value.hasMinus = false := by
  have negated : (negatedField 'E' value).HasNumber ↔ value.hasMinus = false := negated_field_has_number rfl
  rw [Line.well_formed_iff tidy, ← negated]
  exact ⟨fun all => all _ List.mem_cons_self, fun number => List.forall_mem_cons.mpr ⟨number, numbers⟩⟩

/-- The line of an opening that counts the filament as pulled back. -/
def resetRetracted (settings : Settings) : Line :=
  noted "G92" [negatedField 'E' settings.retract] " Reset Extruder pos"

/-- The line of a closing that pulls the filament back. -/
def pullBack (settings : Settings) : Line :=
  bare "G1" [negatedField 'E' settings.retract, fixedField 'F' "4500"]

theorem retract_lines_well_formed (settings : Settings) :
    ((resetRetracted settings).toText.WellFormed ↔ settings.retract.hasMinus = false) ∧
    ((pullBack settings).toText.WellFormed ↔ settings.retract.hasMinus = false) := by
  constructor
  · exact negated_line_well_formed (by simp +decide) (by simp)
  · exact negated_line_well_formed (by simp +decide) (by simp +decide)

theorem iron_tidy {policy : OverridePolicy} {program : List Text} {print : Print}
    (recorded : Print.ofLines policy program = .ok print) {layer : Layer}
    (inPrint : layer ∈ print.layers.toList) {lines : List Line}
    (irons : settings.ironingLines layer = .ok lines) : ∀ line ∈ lines, line.Tidy Field.HasNumber := by
  unfold Settings.ironingLines at irons
  split at irons
  · obtain ⟨nozzle, -, same⟩ := bind_eq_ok.mp irons
    cases same
    exact ironing_tidy nozzle (Print.traces_known recorded layer inPrint)
  · cases irons
    exact fun _ member => nomatch member

end

def AllWellFormed (lines : List Line) : Prop := ∀ line ∈ lines, line.toText.WellFormed

theorem all_well_formed {lines : List Line} (tidy : ∀ line ∈ lines, line.Tidy Field.HasNumber) :
    AllWellFormed lines := fun line member => Line.well_formed_of_tidy (tidy line member)

/-- The lines behind the first layer of a part and those that iron a layer are well formed, whatever the
printer and the request lay down. So are the lines of an opening and of a closing, exactly if the length that
the printer pulls back has no minus sign. -/
theorem well_formed_exactly_if_unsigned {policy : OverridePolicy} {program : List Text} {print : Print}
    (recorded : Print.ofLines policy program = .ok print) {layer : Layer}
    (inPrint : layer ∈ print.layers.toList) (profile : Profile) {request : Request}
    (flow : request.continuationFlow.isNumber = true) (part totalParts : Int) :
    (∀ lines, afterFirstLayer layer = .ok lines → AllWellFormed lines) ∧
    (∀ lines, (profile.settings request).ironingLines layer = .ok lines → AllWellFormed lines) ∧
    (∀ lines, (profile.settings request).opening print layer part = .ok lines →
      (AllWellFormed lines ↔ profile.retract.hasMinus = false)) ∧
    ∀ lines, (profile.settings request).closing layer part totalParts = .ok lines →
      (AllWellFormed lines ↔ profile.retract.hasMinus = false) := by
  have numbered : (profile.settings request).primeRetract.hasMinus = false := by
    change Binary64.hasMinus 1 = false
    decide +kernel
  refine ⟨fun lines behind => all_well_formed (after_first_layer_tidy behind),
    fun lines irons => all_well_formed (iron_tidy recorded inPrint irons),
    fun lines opens => ⟨fun all => ?_, fun unsigned => ?_⟩,
    fun lines closes => ⟨fun all => ?_, fun unsigned => ?_⟩⟩
  · obtain ⟨point, prime, ironing, -, -, -, rfl⟩ := Settings.opening_eq_ok opens
    have parks : resetRetracted (profile.settings request) ∈
        (profile.settings request).openingAt point layer.number part prime ironing := by
      rw [Settings.opening_at_eq]
      simp [Settings.behindLines, Settings.parkLines, resetRetracted]
    exact (retract_lines_well_formed _).1.mp (all _ parks)
  · exact all_well_formed (opening_tidy recorded unsigned numbered flow rfl opens)
  · obtain ⟨z, lifted, -, -, rfl⟩ := Settings.closing_eq_ok closes
    have retracts : pullBack (profile.settings request) ∈
        (profile.settings request).closingAt lifted := by
      simp [Settings.closingAt, pullBack]
    exact (retract_lines_well_formed _).2.mp (all _ retracts)
  · obtain ⟨z, lifted, -, -, rfl⟩ := Settings.closing_eq_ok closes
    exact all_well_formed (closing_tidy unsigned lifted)

def tracedProgram : List Text := [
  Text.of "M140 S60", Text.of "M104 S210", Text.of "G92 E0", Text.of ";LAYER_COUNT:2",
  Text.of ";LAYER:0", Text.of "G0 X40 Y40 Z0.2", Text.of "G1 X60 E1",
  Text.of ";LAYER:1", Text.of "G0 X40 Y40 Z0.4", Text.of "G1 X60 E2",
  Text.of ";-- end code begin --"]

def framesLast (settings : Settings) (print : Print) : Bool :=
  match print.layers.toList.getLast? with
  | some layer => succeedsWith (fun _ => true) (settings.opening print layer 1) &&
      succeedsWith (fun _ => true) (settings.closing layer 1 2)
  | none => false

theorem exists_of_frames_last {settings : Settings} {print : Print}
    (frames : framesLast settings print = true) :
    ∃ layer ∈ print.layers.toList, (∃ lines, settings.opening print layer 1 = .ok lines) ∧
      ∃ lines, settings.closing layer 1 2 = .ok lines := by
  unfold framesLast at frames
  split at frames
  · rename_i layer last
    rw [Bool.and_eq_true] at frames
    obtain ⟨opening, opens, -⟩ := exists_of_succeeds_with frames.1
    obtain ⟨closing, closes, -⟩ := exists_of_succeeds_with frames.2
    exact ⟨layer, List.mem_of_getLast? last, ⟨opening, opens⟩, closing, closes⟩
  · cases frames

theorem well_formed_around_ironed_part : ∃ print,
    Print.ofLines .reject tracedProgram = .ok print ∧
    ∃ layer ∈ print.layers.toList,
    ∃ opening, (Profile.settings {} { input := .nothing, iron := true }).opening print layer 1 =
      .ok opening ∧ AllWellFormed opening ∧
    ∃ closing, (Profile.settings {} { input := .nothing, iron := true }).closing layer 1 2 =
      .ok closing ∧ AllWellFormed closing := by
  have checked : succeedsWith (framesLast
      (Profile.settings {} { input := .nothing, iron := true }))
      (Print.ofLines .reject tracedProgram) = true := by decide +kernel
  obtain ⟨print, recorded, frames⟩ := exists_of_succeeds_with checked
  obtain ⟨layer, inPrint, ⟨opening, opens⟩, closing, closes⟩ := exists_of_frames_last frames
  have unsigned : ({} : Profile).retract.hasMinus = false := by decide +kernel
  obtain ⟨-, -, opened, closed⟩ := @well_formed_exactly_if_unsigned _ _ _ recorded _ inPrint {}
    { input := .nothing, iron := true } rfl 1 2
  exact ⟨print, recorded, layer, inPrint, opening, opens, (opened opening opens).mpr unsigned,
    closing, closes, (closed closing closes).mpr unsigned⟩

/-- Pulling back a length below zero is written with two minus signs. -/
theorem negative_retract_ill_formed : ∃ profile,
    Profile.ofJson (.object [(Text.of "retract_mm", .integer (-3))]) = .ok profile ∧
    ∃ print, Print.ofLines .reject tracedProgram = .ok print ∧
    ∃ layer ∈ print.layers.toList,
    ∃ closing, (profile.settings { input := .nothing }).closing layer 1 2 = .ok closing ∧
    ∃ line ∈ closing, line.toText = Text.of "G1 E--3 F4500" ∧ ¬line.toText.WellFormed := by
  have checked : succeedsWith (framesLast (Profile.settings { retract := -3 } { input := .nothing }))
      (Print.ofLines .reject tracedProgram) = true := by decide +kernel
  obtain ⟨print, recorded, frames⟩ := exists_of_succeeds_with checked
  obtain ⟨layer, inPrint, -, closing, closes⟩ := exists_of_frames_last frames
  refine ⟨{ retract := -3 }, by decide +kernel, print, recorded, layer, inPrint, closing, closes,
    pullBack (Profile.settings { retract := -3 } { input := .nothing }), ?_, by decide +kernel, ?_⟩
  · obtain ⟨z, lifted, -, -, rfl⟩ := Settings.closing_eq_ok closes
    simp [Settings.closingAt, pullBack]
  · rw [(retract_lines_well_formed _).2]
    decide +kernel

end Scaffold

end PrintParts
