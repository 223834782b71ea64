import PrintParts.Proofs.Scaffold.Checked

/-!
The heights that an accepted scaffold commands. The check follows G90 and G91 as a printer does, so it
looks at every height that is meant absolutely; line by line it lets none pass that is above the limit
and that it can read.
-/

namespace PrintParts

/-- Whether a Z field of the command is a height: a target of a move, or a height that is declared. -/
def Code.takesHeight : Code → Bool
  | .rapidMove | .linearMove | .setPosition => true
  | _ => false

def Command.takesHeight (command : Command) : Bool :=
  (Code.ofMnemonic? command.mnemonic).any Code.takesHeight

def Command.heights (command : Command) : List Field :=
  if command.takesHeight then command.fields.filter (·.isNamed 'Z') else []

/-- The Z fields of lines that are executed while positions are absolute, from some modes on. -/
def absoluteHeights (modes : Modes) : List Text → List Field
  | [] => []
  | line :: lines =>
    (if modes.xyz = .absolute then (Command.ofLine line).heights else []) ++
      absoluteHeights (modes.afterLine line) lines

theorem absolute_heights_append (modes : Modes) (first second : List Text) :
    absoluteHeights modes (first ++ second) =
      absoluteHeights modes first ++ absoluteHeights (modes.afterLines first) second := by
  induction first generalizing modes with
  | nil => rfl
  | cons line first induction =>
    rw [List.cons_append, absoluteHeights, absoluteHeights, induction, List.append_assoc]
    rfl

def Field.IsNumber (field : Field) : Prop := ∃ value : Binary64, field.text = value.toText

/-- The text of a machine number that is not above the limit, if the check can read it. -/
structure Field.WithinLimit (maxZ : Binary64) (field : Field) : Prop where
  isNumber : field.IsNumber
  notAbove : ∀ chars, field.text = Text.ofChars chars → IsPositional chars →
    ¬ maxZ < parameterValue field.text

namespace Scaffold

/-- Whether the number of a G command is the one that a printer goes by. -/
def agrees (code : Option Code) (number : Option Nat) : Bool :=
  match code with
  | some .absolutePositioning => number == some 90
  | some .relativePositioning => number == some 91
  | some .rapidMove => number == some 0
  | some .linearMove => number == some 1
  | some .setPosition => number == some 92
  | _ => number != some 91

/-- A mnemonic in which the check finds the number of the command. -/
def IsNumbered (mnemonic : Text) : Prop :=
  IsMnemonic mnemonic ∧ .char 'Z' ∉ mnemonic ∧
    succeedsWith (agrees (Code.ofMnemonic? mnemonic)) (readCommandNumber? 'G' mnemonic) = true

instance (mnemonic : Text) : Decidable (IsNumbered mnemonic) := inferInstanceAs (Decidable (_ ∧ _))

/-- A field of a line with heights: written in number characters, and if it is a Z field, the only one
and the text of a machine number. -/
structure IsGauged (fields : List Field) (field : Field) : Prop where
  written : field.Written
  height : field.isNamed 'Z' = true →
    field.IsNumber ∧ fields.find? (·.isNamed 'Z') = some field

/-- A line whose heights the check finds, unless they are written with an exponent. -/
def Line.Gauged : Line → Prop
  | .code mnemonic fields _ => IsNumbered mnemonic ∧
      ((Code.ofMnemonic? mnemonic).any Code.takesHeight = true →
        ∀ field ∈ fields, IsGauged fields field)
  | _ => True

section

variable {mnemonic : Text} {fields : List Field} {note : Option Text} {checked : CheckedLine}

theorem number_agrees (numbered : IsNumbered mnemonic)
    (read : CheckedLine.ofCode (checkedCode (Line.code mnemonic fields note).toText) = .ok checked) :
    agrees (Code.ofMnemonic? mnemonic) checked.g = true := by
  obtain ⟨isMnemonic, -, agreed⟩ := numbered
  obtain ⟨rest, opens, ends⟩ := checked_code_opens isMnemonic fields note
  obtain ⟨number, found, read⟩ := bind_eq_ok.mp read
  obtain ⟨_, -, read⟩ := bind_eq_ok.mp read
  cases read
  rw [opens, readCommandNumber?, command_number_opens isMnemonic.nonempty ends] at found
  obtain ⟨other, same, agreed⟩ := exists_of_succeeds_with agreed
  rw [readCommandNumber?, found] at same
  cases same
  exact agreed

theorem z_of_height (gauged : (Line.code mnemonic fields note).Gauged)
    (takes : (Code.ofMnemonic? mnemonic).any Code.takesHeight = true)
    (read : CheckedLine.ofCode (checkedCode (Line.code mnemonic fields note).toText) = .ok checked)
    {field : Field} (member : field ∈ fields) (named : field.isNamed 'Z' = true)
    {chars : List Char} (text : field.text = Text.ofChars chars) (positional : IsPositional chars) :
    checked.z = some field.text := by
  obtain ⟨⟨isMnemonic, free, -⟩, each⟩ := gauged
  have written : ∀ other ∈ fields, other.Written := fun other inFields =>
    (each takes other inFields).written
  obtain ⟨_, -, read⟩ := bind_eq_ok.mp read
  obtain ⟨_, -, read⟩ := bind_eq_ok.mp read
  cases read
  rw [checked_code_plain isMnemonic fun other inFields => Field.plain_of_written (written other inFields)]
  exact z_parameter_of_field written ((each takes field member).height named).2 text positional free false

theorem heights_of_code (gauged : (Line.code mnemonic fields note).Gauged) :
    (Command.ofLine (Line.code mnemonic fields note).toText).heights =
      if (Code.ofMnemonic? mnemonic).any Code.takesHeight then fields.filter (·.isNamed 'Z') else [] := by
  have isMnemonic := gauged.1.1
  by_cases takes : (Code.ofMnemonic? mnemonic).any Code.takesHeight = true
  · have plain : ∀ field ∈ fields, field.Plain := fun field member =>
      Field.plain_of_written (gauged.2 takes field member).written
    rw [Line.of_line_to_text (show (Line.code mnemonic fields note).Plain from ⟨isMnemonic, plain⟩)]
    rfl
  · have read := Line.mnemonic_of_line_to_text
      (show (Line.code mnemonic fields note).Named from isMnemonic)
    rw [Command.heights, Command.takesHeight, read, Line.command, if_neg takes, if_neg takes]

theorem after_line_of_code (isMnemonic : IsMnemonic mnemonic) (modes : Modes) :
    modes.afterLine (Line.code mnemonic fields note).toText =
      ((Code.ofMnemonic? mnemonic).elim modes modes.follow) := by
  have read := Line.mnemonic_of_line_to_text
    (show (Line.code mnemonic fields note).Named from isMnemonic)
  rw [Modes.afterLine, read, Line.command]
  cases Code.ofMnemonic? mnemonic <;> rfl

theorem code_of_ninety_one {code : Option Code} (agreed : agrees code (some 91) = true) :
    code = some .relativePositioning := by
  cases code with
  | none => cases agreed
  | some code => cases code <;> first | rfl | cases agreed

theorem xyz_before {code : Code} {modes : Modes} (other : code ≠ .absolutePositioning)
    (absolute : (modes.follow code).xyz = .absolute) : modes.xyz = .absolute := by
  cases code <;> first | exact absolute | exact absurd rfl other | cases absolute

theorem relative_after_agrees {code : Option Code} (agreed : agrees code checked.g = true)
    {modes : Modes} {relative : Bool} (agree : modes.xyz = .absolute → relative = false)
    (absolute : (code.elim modes modes.follow).xyz = .absolute) :
    checked.relativeAfter relative = false := by
  unfold CheckedLine.relativeAfter
  split
  · rfl
  · rename_i notNinety
    split
    · rename_i ninetyOne
      rw [ninetyOne] at agreed
      rw [code_of_ninety_one agreed] at absolute
      cases absolute
    · apply agree
      cases code with
      | none => exact absolute
      | some code =>
        apply xyz_before _ absolute
        rintro rfl
        exact notNinety (eq_of_beq agreed)

theorem steady_of_height {code : Option Code} (takes : code.any Code.takesHeight = true)
    (modes : Modes) : code.elim modes modes.follow = modes := by
  cases code with
  | none => rfl
  | some code =>
    apply Modes.follow_eq_self
    cases code <;> first | rfl | cases takes

theorem target_of_height {code : Option Code} (takes : code.any Code.takesHeight = true)
    (agreed : agrees code checked.g = true) {number : Text} (found : checked.z = some number) :
    checked.zTarget? = some (parameterValue number) := by
  have looked : checked.g = some 0 ∨ checked.g = some 1 ∨ checked.g = some 92 := by
    cases code with
    | none => cases takes
    | some code =>
      cases code with
      | rapidMove => exact .inl (eq_of_beq agreed)
      | linearMove => exact .inr (.inl (eq_of_beq agreed))
      | setPosition => exact .inr (.inr (eq_of_beq agreed))
      | _ => cases takes
  rw [CheckedLine.zTarget?, if_pos looked, found]
  rfl

end

theorem errors_append {first second : List Issue} (clean : Issue.errors (first ++ second) = []) :
    Issue.errors first = [] ∧ Issue.errors second = [] := by
  rw [Issue.errors, List.filter_append] at clean
  exact List.append_eq_nil_iff.mp clean

theorem not_above_of_clean {context : CheckContext} {state : CheckState} {checked : CheckedLine}
    {number : Nat}
    (clean : Issue.errors ((checked.causes context state).map (⟨number, ·⟩)) = [])
    (absolute : checked.relativeAfter state.relative = false) {z : Binary64}
    (target : checked.zTarget? = some z) : ¬ context.maxZ < z := by
  intro above
  have reported : .aboveLimit z context.maxZ ∈ checked.causes context state := by
    simp [CheckedLine.causes, target, absolute, above]
  have found := List.filter_eq_nil_iff.mp clean _ (List.mem_map_of_mem reported)
  simp [IssueCause.severity] at found

theorem code_heights_within {context : CheckContext} {state : CheckState} {modes : Modes}
    {mnemonic : Text} {fields : List Field} {note : Option Text} {checked : CheckedLine}
    {number : Nat} (gauged : (Line.code mnemonic fields note).Gauged)
    (agree : modes.xyz = .absolute → state.relative = false)
    (read : CheckedLine.ofCode (checkedCode (Line.code mnemonic fields note).toText) = .ok checked)
    (clean : Issue.errors ((checked.causes context state).map (⟨number, ·⟩)) = [])
    (absolute : modes.xyz = .absolute) :
    ∀ field ∈ (Command.ofLine (Line.code mnemonic fields note).toText).heights,
      field.WithinLimit context.maxZ := by
  intro field member
  have agreed := number_agrees gauged.1 read
  rw [heights_of_code gauged] at member
  split at member
  · rename_i takes
    obtain ⟨inFields, named⟩ := List.mem_filter.mp member
    have isNumber := ((gauged.2 takes field inFields).height named).1
    have still : checked.relativeAfter state.relative = false :=
      relative_after_agrees agreed agree (by rw [steady_of_height takes]; exact absolute)
    refine ⟨isNumber, fun chars same positional => ?_⟩
    have found := z_of_height gauged takes read inFields named same positional
    exact not_above_of_clean clean still (target_of_height takes agreed found)
  · cases member

/-- An accepted scaffold commands no height above the limit in absolute mode, apart from those that
the check cannot read. -/
theorem heights_within {context : CheckContext} {lines : List Line}
    (gauged : ∀ line ∈ lines, line.Gauged) {state : CheckState} {modes : Modes} {number : Nat}
    {issues : List Issue} {final : CheckState} (agree : modes.xyz = .absolute → state.relative = false)
    (checked : checkLines context state number (lines.map Line.toText) = .ok (issues, final))
    (clean : Issue.errors issues = []) :
    ∀ field ∈ absoluteHeights modes (lines.map Line.toText), field.WithinLimit context.maxZ := by
  -- The check's state is never relative where the printer's modes are absolute; the converse fails
  -- at the beginning, where the check assumes absolute modes and the printer may be in others.
  induction lines generalizing state modes number issues with
  | nil => exact fun _ member => nomatch member
  | cons line lines induction =>
    have here := gauged line List.mem_cons_self
    have later := fun other member => gauged other (List.mem_cons_of_mem _ member)
    have silent : ∀ text, (Command.ofLine text).heights = [] → modes.afterLine text = modes →
        absoluteHeights modes (text :: lines.map Line.toText) =
          absoluteHeights modes (lines.map Line.toText) := by
      intro text none steady
      rw [absoluteHeights, none, ite_self, List.nil_append, steady]
    cases line with
    | blank =>
      rw [List.map_cons, silent Line.blank.toText rfl rfl]
      exact induction later agree checked clean
    | remark text =>
      rw [List.map_cons, silent (Line.remark text).toText rfl rfl]
      exact induction later agree checked clean
    | code mnemonic fields note =>
      obtain ⟨rest, opens, -⟩ := checked_code_opens here.1.1 fields note
      have solid : checkedCode (Line.code mnemonic fields note).toText ≠ [] := by
        rw [opens]
        exact List.append_ne_nil_of_left_ne_nil here.1.1.nonempty rest
      rw [List.map_cons, checkLines] at checked
      simp only [if_neg solid] at checked
      obtain ⟨line, read, checked⟩ := bind_eq_ok.mp checked
      obtain ⟨⟨others, state'⟩, further, checked⟩ := bind_eq_ok.mp checked
      cases checked
      obtain ⟨cleanHere, cleanLater⟩ := errors_append clean
      intro field member
      rw [List.map_cons, absoluteHeights] at member
      rcases List.mem_append.mp member with now | behind
      · split at now
        · rename_i absolute
          exact code_heights_within here agree read cleanHere absolute field now
        · cases now
      · refine induction later ?_ further cleanLater field behind
        intro absolute
        rw [after_line_of_code here.1.1] at absolute
        exact relative_after_agrees (number_agrees here.1 read) agree absolute

end Scaffold

end PrintParts
