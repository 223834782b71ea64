import PrintParts.Proofs.Printer
import PrintParts.Proofs.Recording.Layers

/-!
Scaffold lines on the reference printer. A printer that reads the text of a line does what the line
stands for, so that sections can be executed as lists of lines; a section whose numbers are finite
can be executed in every state.
-/

namespace PrintParts

/-- A field whose number can be read, provided that it is finite. -/
def Field.Legible (field : Field) : Prop := field.text.Bounded → field.Readable

namespace Scaffold

namespace Line

/-- A line whose mnemonic is read back; where a printer looks at its fields they are read back too,
and have a property. -/
def Reads (holds : Field → Prop) : Line → Prop
  | .code mnemonic fields _ => IsMnemonic mnemonic ∧
      ((Code.ofMnemonic? mnemonic).any Code.readsFields = true →
        ∀ field ∈ fields, field.Plain ∧ holds field)
  | _ => True

variable {line : Line} {holds : Field → Prop}

@[simp]
theorem blank_reads : blank.Reads holds := trivial

@[simp]
theorem remark_reads (text : Text) : (remark text).Reads holds := trivial

@[simp]
theorem code_reads (mnemonic : Text) (fields : List Field) (note : Option Text) :
    (code mnemonic fields note).Reads holds ↔ IsMnemonic mnemonic ∧
      ((Code.ofMnemonic? mnemonic).any Code.readsFields = true →
        ∀ field ∈ fields, field.Plain ∧ holds field) := Iff.rfl

theorem named_of_reads (reads : line.Reads holds) : line.Named := by
  cases line with
  | blank => trivial
  | remark text => trivial
  | code mnemonic fields note => exact reads.1

theorem command_reads (reads : line.Reads holds) : line.command.Reads holds := by
  cases line with
  | blank => exact fun _ _ member => nomatch member
  | remark text => exact fun _ _ member => nomatch member
  | code mnemonic fields note => exact fun looked field member => (reads.2 looked field member).2

theorem command_of_line (reads : line.Reads holds) (looked : line.command.readsFields = true) :
    Command.ofLine line.toText = line.command := by
  apply of_line_to_text
  cases line with
  | blank => trivial
  | remark text => trivial
  | code mnemonic fields note =>
    exact ⟨reads.1, fun field member => (reads.2 looked field member).1⟩

theorem execute_of_line (reads : line.Reads holds) (printer : Printer) :
    printer.execute (Command.ofLine line.toText) = printer.execute line.command := by
  cases looked : line.command.readsFields with
  | false => exact Printer.execute_congr (mnemonic_of_line_to_text (named_of_reads reads)) looked
  | true => rw [command_of_line reads looked]

theorem reads_imp {also : Field → Prop} (reads : line.Reads holds)
    (implies : ∀ field ∈ line.command.fields, holds field → also field) : line.Reads also := by
  cases line with
  | blank => trivial
  | remark text => trivial
  | code mnemonic fields note =>
    refine ⟨reads.1, fun looked field member => ?_⟩
    obtain ⟨plain, here⟩ := reads.2 looked field member
    exact ⟨plain, implies field member here⟩

theorem readable_of_legible (legible : line.Reads Field.Legible)
    (bounded : ∀ field ∈ line.command.fields, field.text.Bounded) :
    line.Reads Field.Readable :=
  reads_imp legible fun field member reads => reads (bounded field member)

end Line

end Scaffold

namespace Printer

open Scaffold

variable {printer after : Printer} {lines : List Line} {holds : Field → Prop}

def perform (printer : Printer) (lines : List Line) : Option Printer :=
  lines.foldlM (fun printer line => printer.execute line.command) printer

theorem perform_cons (printer : Printer) (line : Line) (lines : List Line) :
    printer.perform (line :: lines) =
      (printer.execute line.command).bind fun next => next.perform lines := rfl

theorem perform_append (printer : Printer) (first second : List Line) :
    printer.perform (first ++ second) =
      (printer.perform first).bind fun middle => middle.perform second := by
  rw [perform, List.foldlM_append]
  rfl

theorem run_eq_perform (reads : ∀ line ∈ lines, line.Reads holds) (printer : Printer) :
    printer.run (lines.map Line.toText) = printer.perform lines := by
  induction lines generalizing printer with
  | nil => rfl
  | cons line lines induction =>
    have first := Line.execute_of_line (reads line List.mem_cons_self) printer
    have later := induction fun other member => reads other (List.mem_cons_of_mem _ member)
    rw [List.map_cons, run_cons, perform_cons, first]
    exact congrArg (Option.bind _) (funext later)

theorem perform_succeeds (readable : ∀ line ∈ lines, line.Reads Field.Readable)
    (printer : Printer) : ∃ after, printer.perform lines = some after := by
  induction lines generalizing printer with
  | nil => exact ⟨printer, rfl⟩
  | cons line lines induction =>
    obtain ⟨next, first⟩ := execute_succeeds
      (Line.command_reads (readable line List.mem_cons_self)) printer
    obtain ⟨after, rest⟩ := induction
      (fun other member => readable other (List.mem_cons_of_mem _ member)) next
    exact ⟨after, by rw [perform_cons, first]; exact rest⟩

theorem perform_spares (spares : ∀ line ∈ lines, line.Reads Field.SparesFilament)
    (performed : printer.perform lines = some after) : after.extruded = printer.extruded := by
  induction lines generalizing printer with
  | nil =>
    cases performed
    rfl
  | cons line lines induction =>
    rw [perform_cons] at performed
    obtain ⟨next, first, rest⟩ := Option.bind_eq_some_iff.mp performed
    have later := induction (fun other member => spares other (List.mem_cons_of_mem _ member)) rest
    exact later.trans (execute_spares (Line.command_reads (spares line List.mem_cons_self)) first)

theorem perform_steady (reads : ∀ line ∈ lines, line.Reads holds)
    (steady : ∀ line ∈ lines, line.Steady) (performed : printer.perform lines = some after) :
    after.modes = printer.modes := by
  rw [← run_eq_perform reads] at performed
  exact (run_modes performed).trans (steady_lines steady printer.modes)

end Printer

namespace Scaffold

structure FieldRule (settings : Settings) (holds : Field → Prop) : Prop where
  number : ∀ letter value, holds (numberField letter value)
  onBed : ∀ x, holds (bedX x)
  fixed : ∀ letter text, (Text.of text).rational?.isSome = true → holds (fixedField letter text)
  retract : holds (negatedField 'E' settings.retract)
  primeRetract : holds (negatedField 'E' settings.primeRetract)

theorem plain_rule (settings : Settings) : FieldRule settings fun _ => True :=
  ⟨fun _ _ => trivial, fun _ => trivial, fun _ _ _ => trivial, trivial, trivial⟩

theorem negated_field_legible (letter : Char) {value : Binary64}
    (unsigned : value.hasMinus = false) : (negatedField letter value).Legible := by
  intro bounded
  obtain ⟨number, -, reads⟩ := Binary64.negated_text_exact
    (Binary64.finite_of_negated_bounded bounded unsigned) unsigned
  exact ⟨-number, reads⟩

theorem legible_rule {settings : Settings} (retract : settings.retract.hasMinus = false)
    (primeRetract : settings.primeRetract.hasMinus = false) :
    FieldRule settings Field.Legible where
  number _ _ bounded := Binary64.to_text_exact (Binary64.finite_of_bounded bounded)
  onBed _ bounded := Binary64.fixed_exact (Binary64.finite_of_fixed_bounded bounded) 1
  fixed _ _ reads _ := Option.isSome_iff_exists.mp reads
  retract := negated_field_legible 'E' retract
  primeRetract := negated_field_legible 'E' primeRetract

section

variable {settings : Settings} {holds : Field → Prop}

theorem leading_reads (rule : FieldRule settings holds) (point : ResumePoint) (layer part : Int) :
    ∀ line ∈ settings.leadingLines point layer part, line.Reads holds := by
  apply Settings.forall_leading_lines (Line.Reads holds)
  · simp
  · simp
  · simp +decide [noted]
  · simp +decide [ResumePoint.heatBedLines, noted]
  · cases point.homing with
    | full => simp +decide [Homing.lines, noted]
    | declared z => simp +decide [Homing.lines, noted, rule.number, rule.fixed]
  · simp +decide [noted]

theorem ironing_reads (rule : FieldRule settings holds) (nozzle : Binary64) {layer : Layer}
    (known : layer.TraceKnown) :
    ∀ line ∈ ironingAround nozzle layer.ironingPath.toList, line.Reads holds := by
  have coordinate : ∀ letter (value : AxisValue), value.isAbsolute = true →
      holds (field letter value.toText) := by
    intro letter value absolute
    cases value with
    | absolute number => exact rule.number letter number
    | relative => cases absolute
    | unknown => cases absolute
  have traced : ∀ line ∈ layer.ironingPath.toList.map ironingLine, line.Reads holds := by
    intro line member
    obtain ⟨point, inTrace, rfl⟩ := List.mem_map.mp member
    have absolute := known point inTrace
    simp only [Position.isAbsolute, Bool.and_eq_true] at absolute
    obtain ⟨⟨x, y⟩, z⟩ := absolute
    simp +decide [ironingLine, noted, AxisValue.to_text_is_word, coordinate _ _ x,
      coordinate _ _ y, coordinate _ _ z, rule.fixed]
  simp only [ironingAround, List.forall_mem_append]
  refine ⟨⟨?_, traced⟩, ?_⟩
  · simp +decide [noted, remark]
  · simp [remark]

theorem opening_reads (rule : FieldRule settings holds) {policy : OverridePolicy}
    {program : List Text} {print : Print} (recorded : Print.ofLines policy program = .ok print)
    {layer : Layer} {part : Int} {opening : List Line}
    (opens : settings.opening print layer part = .ok opening) :
    ∀ line ∈ opening, line.Reads holds := by
  obtain ⟨point, prime, ironing, -, primes, irons, rfl⟩ := Settings.opening_eq_ok opens
  have behind : ∀ line ∈ settings.behindLines point part prime ironing, line.Reads holds := by
    apply Settings.forall_behind_lines (Line.Reads holds) primes
    · simp +decide [Settings.parkLines, noted, bare, rule.number, rule.fixed, rule.retract]
    · simp +decide [Settings.bedPrimeLines, heatNozzle, remark, noted, rule.number, rule.onBed,
        rule.fixed, rule.primeRetract]
    · simp +decide [Settings.airPrimeLines, heatNozzle, remark, noted, rule.fixed,
        rule.primeRetract]
    · simp +decide [ResumePoint.approachLines, remark, noted, bare, rule.number, rule.fixed]
    · exact Settings.forall_ironing (Line.Reads holds) irons fun below inPrint nozzle =>
        ironing_reads rule nozzle (Print.traces_known recorded below inPrint)
    · simp +decide [ResumePoint.restoreLines, remark, noted, bare, rule.number, rule.fixed]
    · intro fan note
      cases fan <;> simp +decide [fanLine, rule.number]
    · unfold Settings.firstLayerRates
      split <;> simp +decide [noted]
  rw [Settings.opening_at_eq]
  simp only [List.forall_mem_append]
  refine ⟨leading_reads rule point layer.number part, ?_, behind⟩
  simp +decide [Settings.absoluteLines, noted]

theorem closing_reads (rule : FieldRule settings holds) (lifted : Binary64) :
    ∀ line ∈ settings.closingAt lifted, line.Reads holds := by
  simp +decide [Settings.closingAt, noted, bare, remark, rule.number, rule.fixed, rule.retract]

end

end Scaffold

end PrintParts
