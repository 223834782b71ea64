import PrintParts.Proofs.Scaffold.Execution
import PrintParts.Proofs.Scaffold.Limit

/-!
The lines of openings and closings are those whose heights the check finds: every field of a move is
written in number characters, and a move has one Z field at most.
-/

namespace PrintParts

theorem AxisValue.number_of_absolute {value : AxisValue} (absolute : value.isAbsolute = true) :
    ∃ number, value = .absolute number := by
  cases value with
  | absolute number => exact ⟨number, rfl⟩
  | unknown => cases absolute
  | relative => cases absolute

namespace Scaffold

@[simp]
theorem field_written (letter : Char) (text : Text) :
    (field letter text).Written ↔ IsMnemonic [.char letter] ∧
      ∃ chars, text = Text.ofChars chars ∧ InNumberChars chars := by
  constructor
  · rintro ⟨⟨other, same, capital⟩, written⟩
    cases same
    exact ⟨capital, written⟩
  · rintro ⟨capital, written⟩
    exact ⟨⟨letter, rfl, capital⟩, written⟩

@[simp]
theorem number_field_written (letter : Char) (value : Binary64) :
    (numberField letter value).Written ↔ IsMnemonic [.char letter] := by
  rw [numberField, field_written, and_iff_left]
  exact ⟨_, rfl, value.number_chars_significant⟩

@[simp]
theorem negated_field_written (letter : Char) (value : Binary64) :
    (negatedField letter value).Written ↔ IsMnemonic [.char letter] := by
  rw [negatedField, field_written, and_iff_left]
  exact ⟨'-' :: value.significant 15, rfl, value.number_chars_significant.cons (by decide)⟩

@[simp]
theorem bed_x_written (x : Binary64) : (bedX x).Written := by
  rw [bedX, field_written]
  exact ⟨by decide, _, rfl, Binary64.number_chars_fixed 1 x⟩

@[simp]
theorem fixed_field_written (letter : Char) (text : String)
    (numeric : text.toList.all isNumberChar = true) :
    (fixedField letter text).Written ↔ IsMnemonic [.char letter] := by
  rw [fixedField, field_written, and_iff_left]
  exact ⟨text.toList, rfl, List.all_eq_true.mp numeric⟩

@[simp]
theorem number_field_is_number (letter : Char) (value : Binary64) :
    (numberField letter value).IsNumber := ⟨value, rfl⟩

@[simp]
theorem prime_height_is_number : (fixedField 'Z' "0.28").IsNumber :=
  ⟨.ofDecimal false 28 (-2), by decide +kernel⟩

@[simp]
theorem gauged_of_other {fields : List Field} {field : Field} (other : field.isNamed 'Z' = false) :
    IsGauged fields field ↔ field.Written :=
  ⟨fun gauged => gauged.written, fun written => ⟨written, fun named => absurd named (by simp [other])⟩⟩

@[simp]
theorem gauged_of_height {fields : List Field} {field : Field} (named : field.isNamed 'Z' = true) :
    IsGauged fields field ↔ field.Written ∧ field.IsNumber ∧
      fields.find? (·.isNamed 'Z') = some field :=
  ⟨fun gauged => ⟨gauged.written, gauged.height named⟩, fun all => ⟨all.1, fun _ => all.2⟩⟩

namespace Line

@[simp]
theorem blank_gauged : blank.Gauged := trivial

@[simp]
theorem remark_gauged (text : Text) : (remark text).Gauged := trivial

@[simp]
theorem code_gauged (mnemonic : Text) (fields : List Field) (note : Option Text) :
    (code mnemonic fields note).Gauged ↔ IsNumbered mnemonic ∧
      ((Code.ofMnemonic? mnemonic).any Code.takesHeight = true →
        ∀ field ∈ fields, IsGauged fields field) := Iff.rfl

end Line

section

variable {settings : Settings}

theorem leading_gauged (point : ResumePoint) (layer part : Int) :
    ∀ line ∈ settings.leadingLines point layer part, line.Gauged := by
  apply Settings.forall_leading_lines Line.Gauged
  · simp
  · simp
  · simp +decide [noted]
  · simp +decide [ResumePoint.heatBedLines, noted]
  · cases point.homing with
    | full => simp +decide [Homing.lines, noted]
    | declared z => simp +decide [Homing.lines, noted]
  · simp +decide [noted]

theorem ironing_gauged (nozzle : Binary64) {layer : Layer} (known : layer.TraceKnown) :
    ∀ line ∈ ironingAround nozzle layer.ironingPath.toList, line.Gauged := by
  have traced : ∀ line ∈ layer.ironingPath.toList.map ironingLine, line.Gauged := by
    intro line member
    obtain ⟨point, inTrace, rfl⟩ := List.mem_map.mp member
    have absolute := known point inTrace
    obtain ⟨x, y, z⟩ := point
    simp only [Position.isAbsolute, Bool.and_eq_true] at absolute
    obtain ⟨x, rfl⟩ := AxisValue.number_of_absolute absolute.1.1
    obtain ⟨y, rfl⟩ := AxisValue.number_of_absolute absolute.1.2
    obtain ⟨z, rfl⟩ := AxisValue.number_of_absolute absolute.2
    have same : ironingLine ⟨.absolute x, .absolute y, .absolute z⟩ =
        noted "G0" [numberField 'X' x, numberField 'Y' y, numberField 'Z' z, fixedField 'F' "600"]
          " ironing" := rfl
    rw [same]
    simp +decide [noted]
  simp only [ironingAround, List.forall_mem_append]
  refine ⟨⟨?_, traced⟩, ?_⟩
  · simp +decide [noted, remark]
  · simp [remark]

theorem opening_gauged {policy : OverridePolicy} {program : List Text} {print : Print}
    (recorded : Print.ofLines policy program = .ok print) {layer : Layer} {part : Int}
    {opening : List Line} (opens : settings.opening print layer part = .ok opening) :
    ∀ line ∈ opening, line.Gauged := by
  obtain ⟨point, prime, ironing, -, primes, irons, rfl⟩ := Settings.opening_eq_ok opens
  have behind : ∀ line ∈ settings.behindLines point part prime ironing, line.Gauged := by
    apply Settings.forall_behind_lines Line.Gauged primes
    · simp +decide [Settings.parkLines, noted, bare]
    · simp +decide [Settings.bedPrimeLines, heatNozzle, remark, noted]
    · simp +decide [Settings.airPrimeLines, heatNozzle, remark, noted]
    · simp +decide [ResumePoint.approachLines, remark, noted, bare]
    · exact Settings.forall_ironing Line.Gauged irons fun below inPrint nozzle =>
        ironing_gauged nozzle (Print.traces_known recorded below inPrint)
    · simp +decide [ResumePoint.restoreLines, remark, noted, bare]
    · intro fan note
      cases fan <;> simp +decide [fanLine]
    · unfold Settings.firstLayerRates
      split <;> simp +decide [noted]
  rw [Settings.opening_at_eq]
  simp only [List.forall_mem_append]
  refine ⟨leading_gauged point layer.number part, ?_, behind⟩
  simp +decide [Settings.absoluteLines, noted]

theorem after_first_layer_gauged {layer : Layer} {lines : List Line}
    (follows : afterFirstLayer layer = .ok lines) : ∀ line ∈ lines, line.Gauged := by
  unfold afterFirstLayer at follows
  split at follows
  · cases follows
  · cases follows
    simp +decide [noted]

theorem closing_gauged (lifted : Binary64) : ∀ line ∈ settings.closingAt lifted, line.Gauged := by
  simp +decide [Settings.closingAt, remark, noted, bare]

end

end Scaffold

end PrintParts
