import PrintParts.Proofs.Scaffold.Numbers
import PrintParts.Proofs.Scaffold.Report

/-!
What the check reads in the lines that are made here. It finds the number of a command in the mnemonic,
whatever the fields hold, and knows all the commands that are used; from a line that heats it can tell whether
the target is above zero.
-/

namespace PrintParts

namespace Scaffold

def isNumbered (letter : Char) (numbers : List Nat) (mnemonic : Text) : Bool :=
  succeedsWith (fun number => number.any (· ∈ numbers)) (readCommandNumber? letter mnemonic)

/-- A mnemonic whose number the check can read and expects. -/
structure IsKnown (mnemonic : Text) : Prop where
  isMnemonic : IsMnemonic mnemonic
  letterless : .char 'S' ∉ mnemonic
  g : succeedsWith (fun number => number.all (· ∈ knownG)) (readCommandNumber? 'G' mnemonic) = true
  m : succeedsWith (fun number => number.all (· ∈ knownM)) (readCommandNumber? 'M' mnemonic) = true

instance (mnemonic : Text) : Decidable (IsKnown mnemonic) :=
  decidable_of_iff (IsMnemonic mnemonic ∧ .char 'S' ∉ mnemonic ∧
      succeedsWith (fun number => number.all (· ∈ knownG)) (readCommandNumber? 'G' mnemonic) = true ∧
      succeedsWith (fun number => number.all (· ∈ knownM)) (readCommandNumber? 'M' mnemonic) = true)
    ⟨fun all => ⟨all.1, all.2.1, all.2.2.1, all.2.2.2⟩,
      fun known => ⟨known.isMnemonic, known.letterless, known.g, known.m⟩⟩

/-- What the check reads in a line with a command. -/
structure ReadsCode (mnemonic line : Text) (checked : CheckedLine) : Prop where
  reading : reading? line = some checked
  g : readCommandNumber? 'G' mnemonic = .ok checked.g
  m : readCommandNumber? 'M' mnemonic = .ok checked.m
  z : checked.z = zParameter? (checkedCode line)
  heats : checked.heats = (sParameter? (checkedCode line)).any fun number => (0 : Binary64) < parameterValue number

section

variable {mnemonic line : Text} {checked : CheckedLine}

theorem legible_of_reading (reading : reading? line = some checked) : Legible line := by
  unfold reading? at reading
  split at reading
  · cases reading
  · exact .inr ⟨checked, to_option_eq_some.mp reading⟩

theorem is_numbered_eq {letter : Char} {number : Option Nat}
    (read : readCommandNumber? letter mnemonic = .ok number) (numbers : List Nat) :
    isNumbered letter numbers mnemonic = number.any (· ∈ numbers) := by
  rw [isNumbered, read]
  rfl

theorem reads_known (known : IsKnown mnemonic) (fields : List Field) (note : Option Text) :
    ∃ checked, ReadsCode mnemonic (Line.code mnemonic fields note).toText checked := by
  obtain ⟨rest, code, ends⟩ := checked_code_opens known.isMnemonic fields note
  have nonempty := known.isMnemonic.nonempty
  obtain ⟨g, readG, -⟩ := exists_of_succeeds_with known.g
  obtain ⟨m, readM, -⟩ := exists_of_succeeds_with known.m
  have number : ∀ letter, readCommandNumber? letter (checkedCode (Line.code mnemonic fields note).toText) =
      readCommandNumber? letter mnemonic := by
    intro letter
    rw [code, readCommandNumber?, command_number_opens nonempty ends, ← readCommandNumber?]
  refine ⟨⟨g, m, zParameter? (checkedCode (Line.code mnemonic fields note).toText),
    hasXYParameter (checkedCode (Line.code mnemonic fields note).toText), _⟩, ?_, readG, readM, rfl, rfl⟩
  rw [reading?, if_neg (by rw [code]; exact List.append_ne_nil_of_left_ne_nil nonempty rest),
    CheckedLine.ofCode, number, number, readG, readM]
  rfl

end

/-- What the check reads in lines in order. -/
def readingsOf (lines : List Line) : List CheckedLine := (lines.map Line.toText).filterMap reading?

namespace Line

/-- A line whose command, if it has one, is expected and as it should be. -/
def Commands (holds : Text → List Field → Prop) : Line → Prop
  | .code mnemonic fields _ => IsKnown mnemonic ∧ holds mnemonic fields
  | _ => True

/-- A line with none of these G commands. -/
def Avoids (numbers : List Nat) : Line → Prop :=
  Commands fun mnemonic _ => isNumbered 'G' numbers mnemonic = false

/-- A line that heats with one of these M commands to this temperature only. -/
def HeatsTo (numbers : List Nat) (target : Binary64) : Line → Prop :=
  Commands fun mnemonic fields => isNumbered 'M' numbers mnemonic = true → fields = [numberField 'S' target]

/-- A line of an opening that leads to a point: only X and Y are homed above a print, and what is heated is
heated as the point says. -/
def LeadsTo (point : ResumePoint) (part : Int) : Line → Prop :=
  Commands fun mnemonic fields =>
    (isNumbered 'G' [28] mnemonic = true → 0 < part →
      mnemonic = Text.of "G28" ∧ fields = [fixedField 'X' "0", fixedField 'Y' "0"]) ∧
    (isNumbered 'M' [140, 190] mnemonic = true → fields = [numberField 'S' point.bed]) ∧
    (isNumbered 'M' [104, 109] mnemonic = true → fields = [numberField 'S' point.nozzle])

section

variable {holds weaker : Text → List Field → Prop}

@[simp]
theorem blank_commands : blank.Commands holds := trivial

@[simp]
theorem remark_commands (text : Text) : (remark text).Commands holds := trivial

@[simp]
theorem code_commands (mnemonic : Text) (fields : List Field) (note : Option Text) :
    (code mnemonic fields note).Commands holds ↔ IsKnown mnemonic ∧ holds mnemonic fields := Iff.rfl

theorem Commands.imp {line : Line} (commands : line.Commands holds)
    (implies : ∀ mnemonic fields, holds mnemonic fields → weaker mnemonic fields) : line.Commands weaker := by
  cases line with
  | code mnemonic fields note => exact commands.imp_right (implies mnemonic fields)
  | _ => trivial

end

end Line

section

variable {line : Line} {lines : List Line} {checked : CheckedLine} {numbers : List Nat}
  {holds : Text → List Field → Prop}

theorem reading_of_commands (commands : line.Commands holds) : Legible line.toText ∧
    ∀ checked, reading? line.toText = some checked → ∃ mnemonic fields note,
      line = .code mnemonic fields note ∧ IsKnown mnemonic ∧ holds mnemonic fields ∧
        ReadsCode mnemonic line.toText checked := by
  cases line with
  | blank => exact ⟨.inl rfl, fun _ reading => nomatch reading⟩
  | remark text => exact ⟨.inl rfl, fun _ reading => nomatch reading⟩
  | code mnemonic fields note =>
    obtain ⟨known, here⟩ := commands
    obtain ⟨checked, reads⟩ := reads_known known fields note
    refine ⟨legible_of_reading reads.reading, fun other reading =>
      ⟨mnemonic, fields, note, rfl, known, here, ?_⟩⟩
    cases reads.reading.symm.trans reading
    exact reads

theorem numbers_of_commands (commands : line.Commands holds) (reading : reading? line.toText = some checked) :
    (∀ code, checked.g = some code → code ∈ knownG) ∧ ∀ code, checked.m = some code → code ∈ knownM := by
  obtain ⟨mnemonic, -, -, -, known, -, reads⟩ := (reading_of_commands commands).2 checked reading
  obtain ⟨g, readG, knowsG⟩ := exists_of_succeeds_with known.g
  obtain ⟨m, readM, knowsM⟩ := exists_of_succeeds_with known.m
  cases readG.symm.trans reads.g
  cases readM.symm.trans reads.m
  constructor
  · intro code same
    simpa [same] using knowsG
  · intro code same
    simpa [same] using knowsM

theorem not_numbered_of_avoids (avoids : line.Avoids numbers) (reading : reading? line.toText = some checked) :
    ∀ code, checked.g = some code → code ∉ numbers := by
  obtain ⟨mnemonic, fields, note, rfl, -, other, reads⟩ := (reading_of_commands avoids).2 checked reading
  intro code same
  rw [is_numbered_eq reads.g, same] at other
  simpa using other

theorem mem_readings_of : checked ∈ readingsOf lines ↔ ∃ line ∈ lines, reading? line.toText = some checked := by
  simp [readingsOf]

theorem readings_of_append (first second : List Line) :
    readingsOf (first ++ second) = readingsOf first ++ readingsOf second := by
  simp [readingsOf]

theorem readings_of_single (reading : reading? line.toText = some checked) : readingsOf [line] = [checked] := by
  simp [readingsOf, reading]

/-- A line that heats is read as heating exactly if its target is above zero. -/
theorem heats_any_iff {mnemonic : Text} {target : Binary64} {note : Option Text} (known : IsKnown mnemonic)
    (numbered : isNumbered 'M' numbers mnemonic = true)
    (reads : ReadsCode mnemonic (Line.code mnemonic [numberField 'S' target] note).toText checked) :
    checked.heatsAny numbers = true ↔ target.IsPositive := by
  rw [is_numbered_eq reads.m] at numbered
  rw [CheckedLine.heatsAny, numbered, Bool.and_true, reads.heats]
  exact heats_of_single known.isMnemonic known.letterless target note

theorem cold_iff {target : Binary64} (heats : ∀ line ∈ lines, line.HeatsTo numbers target) {mnemonic : Text}
    {note : Option Text} (numbered : isNumbered 'M' numbers mnemonic = true)
    (member : .code mnemonic [numberField 'S' target] note ∈ lines) :
    (∀ checked ∈ readingsOf lines, checked.heatsAny numbers = false) ↔ ¬ target.IsPositive := by
  constructor
  · intro cold positive
    have known : IsKnown mnemonic := (heats _ member).1
    obtain ⟨checked, reads⟩ := reads_known known [numberField 'S' target] note
    have warm := (heats_any_iff known numbered reads).mpr positive
    rw [cold checked (mem_readings_of.mpr ⟨_, member, reads.reading⟩)] at warm
    cases warm
  · intro notPositive checked inReadings
    obtain ⟨line, inLines, reading⟩ := mem_readings_of.mp inReadings
    obtain ⟨other, fields, note, rfl, known, here, reads⟩ :=
      (reading_of_commands (heats line inLines)).2 checked reading
    refine Bool.eq_false_iff.mpr fun warm => notPositive ?_
    have numbered : isNumbered 'M' numbers other = true := by
      rw [is_numbered_eq reads.m]
      exact (Bool.and_eq_true_iff.mp warm).2
    obtain rfl := here numbered
    exact (heats_any_iff known numbered reads).mp warm

def placingNumbers : List Nat := [0, 1, 28, 92]

theorem find_settling_still (still : ∀ line ∈ lines, line.Avoids placingNumbers) :
    (readingsOf lines).find? (·.settlesZ) = none := by
  rw [List.find?_eq_none]
  intro checked member
  obtain ⟨line, inLines, reading⟩ := mem_readings_of.mp member
  have other := not_numbered_of_avoids (still line inLines) reading
  cases number : checked.g with
  | none => simp [CheckedLine.settlesZ, CheckedLine.declaresZ, CheckedLine.movesXY, number]
  | some code =>
    have different := other code number
    simp only [placingNumbers, List.mem_cons, List.not_mem_nil, or_false, not_or] at different
    simp [CheckedLine.settlesZ, CheckedLine.declaresZ, CheckedLine.movesXY, number, different]

/-- Homing X and Y is a move, and it neither homes Z nor declares it. -/
theorem homing_read (note : Option Text) : ∃ checked,
    reading? (Line.code (Text.of "G28") [fixedField 'X' "0", fixedField 'Y' "0"] note).toText = some checked ∧
      checked.movesXY = true ∧ checked.declaresZ = false ∧ checked.homesZ = false := by
  have plain : ∀ field ∈ [fixedField 'X' "0", fixedField 'Y' "0"], field.Plain := by
    simp +decide
  have code : checkedCode (Line.code (Text.of "G28") [fixedField 'X' "0", fixedField 'Y' "0"] note).toText =
      Text.of "G28 X0 Y0" :=
    (checked_code_plain (by decide) plain note).trans (by decide +kernel)
  have read : succeedsWith (fun checked => checked.movesXY && !checked.declaresZ && !checked.homesZ)
      (CheckedLine.ofCode (Text.of "G28 X0 Y0")) = true := by decide +kernel
  obtain ⟨checked, same, moves⟩ := exists_of_succeeds_with read
  simp only [Bool.and_eq_true, Bool.not_eq_true'] at moves
  refine ⟨checked, ?_, moves.1.1, moves.1.2, moves.2⟩
  rw [reading?, code, if_neg (by decide), same]
  rfl

end

end Scaffold

end PrintParts
