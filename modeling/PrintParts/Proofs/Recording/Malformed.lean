import PrintParts.Proofs.Machine.Frame
import PrintParts.Proofs.Recording.Overrides

/-!
Coordinates of moves that are no numbers. The number of a coordinate is read only where it is meant
absolutely, so a move is refused for the first coordinate that is meant absolutely and is no number, and
passes if there is none. A move does not change what its coordinates mean, so the place of a field among the
others does not matter.
-/

namespace PrintParts

/-- A field of a move that gives a place: that of an axis or of the filament. -/
def Field.isCoordinate (field : Field) : Bool :=
  field.isNamed 'E' || (Axis.ofLetter? field.letter).isSome

def Field.isMalformedCoordinate (field : Field) : Bool :=
  field.isCoordinate && (Binary64.ofText? field.text).isNone

def Field.malformed (field : Field) : Fault := .malformedField field.letter field.text

theorem failure_of_value (field : Field) :
    failureOf? field.value =
      if (Binary64.ofText? field.text).isNone then some field.malformed else none := by
  unfold Field.value
  cases Binary64.ofText? field.text <;> rfl

theorem failure_of_map {Error Value Other : Type} (result : Except Error Value) (change : Value → Other) :
    failureOf? (result.map change) = failureOf? result := by
  cases result <;> rfl

theorem numerals_accepted_of_command {line : Text} {command : Command}
    (read : Token.ofLine line = .ok (.command command)) : NumeralsAccepted line := by
  have number : ∀ (digits : Text) (make : Nat → Token), (∀ count, (make count).command? = none) →
      (readMarkerNumber digits).map make ≠ .ok (.command command) := by
    intro digits make other made
    obtain ⟨count, -, same⟩ := map_eq_ok.mp made
    have none := other count
    rw [same] at none
    cases none
  intro opening listed digits found
  simp only [Token.ofLine] at read
  rcases List.mem_cons.mp listed with rfl | later
  · rw [found] at read
    exact absurd read (number _ _ fun _ => rfl)
  · obtain rfl := List.mem_singleton.mp later
    split at read
    · exact absurd read (number _ _ fun _ => rfl)
    · rw [found] at read
      exact absurd read (number _ _ fun _ => rfl)

namespace MachineState

variable {state after : MachineState} {inLayer : Bool} {policy : OverridePolicy} {command : Command}

/-- How the number of a coordinate is meant. -/
def modeOf (state : MachineState) (field : Field) : Mode :=
  if field.isNamed 'E' then state.extruderMode else state.xyzMode

/-- The field is a coordinate that a move is refused for. -/
def refuses (state : MachineState) (field : Field) : Bool :=
  field.isMalformedCoordinate && decide (state.modeOf field = .absolute)

theorem refuses_iff {field : Field} : state.refuses field = true ↔
    field.isMalformedCoordinate = true ∧ state.modeOf field = .absolute := by
  rw [refuses, Bool.and_eq_true, decide_eq_true_eq]

theorem mode_of_standing_field (same : after.standing = state.standing) : after.modeOf = state.modeOf := by
  have extruder : after.standing.extruderMode = state.standing.extruderMode := by rw [same]
  have axes : after.standing.xyzMode = state.standing.xyzMode := by rw [same]
  funext field
  exact congrArg₂ (fun filament axis => if field.isNamed 'E' then filament else axis) extruder axes

theorem refuses_of_standing (same : after.standing = state.standing) : after.refuses = state.refuses := by
  unfold refuses
  rw [mode_of_standing_field same]

theorem failure_of_move_field (state : MachineState) (field : Field) :
    failureOf? (state.moveField field) = if state.refuses field then some field.malformed else none := by
  unfold moveField
  by_cases filament : field.isNamed 'E' = true
  · rw [if_pos filament]
    cases mode : state.extruderMode with
    | relative => simp [refuses, modeOf, filament, mode, failureOf?]
    | absolute =>
      rw [failure_of_map, failure_of_value]
      simp [refuses, modeOf, Field.isMalformedCoordinate, Field.isCoordinate, filament, mode]
  · rw [if_neg filament]
    cases axis : Axis.ofLetter? field.letter with
    | none => simp [refuses, Field.isMalformedCoordinate, Field.isCoordinate, filament, axis, failureOf?]
    | some named =>
      cases mode : state.xyzMode with
      | relative => simp [refuses, modeOf, filament, mode, failureOf?]
      | absolute =>
        simp only []
        rw [failure_of_map, failure_of_value]
        simp [refuses, modeOf, Field.isMalformedCoordinate, Field.isCoordinate, filament, axis, mode]

theorem failure_of_move (state : MachineState) (fields : List Field) :
    failureOf? (state.move fields) = (fields.find? state.refuses).map Field.malformed := by
  induction fields generalizing state with
  | nil => rfl
  | cons field fields induction =>
    have first := failure_of_move_field state field
    rw [move, List.foldlM_cons, List.find?_cons]
    cases refused : state.refuses field with
    | true =>
      rw [refused, if_pos rfl, failure_of_eq_some] at first
      rw [first]
      rfl
    | false =>
      rw [refused, if_neg Bool.false_ne_true] at first
      cases moved : state.moveField field with
      | error fault =>
        rw [moved] at first
        cases first
      | ok next =>
        rw [← refuses_of_standing (move_field_standing moved)]
        exact induction next

theorem failure_of_step_move (state : MachineState) (inLayer : Bool) (policy : OverridePolicy)
    (moves : command.isMove = true) :
    failureOf? (state.step command inLayer policy) =
      (command.fields.find? state.refuses).map Field.malformed := by
  rw [← failure_of_move, step]
  cases known : command.code with
  | error fault =>
    rw [Command.isMove, known] at moves
    cases moves
  | ok code =>
    rw [Command.is_move_eq known] at moves
    cases code with
    | rapidMove | linearMove => rfl
    | _ => cases moves

end MachineState

variable {policy : OverridePolicy} {before behind : List Text} {line : Text} {command : Command}

theorem refusal_of_move {state : MachineState} (moves : command.isMove = true)
    (read : Token.ofLine line = .ok (.command command))
    (followed : MachineState.fresh.follow false policy before = .ok state) :
    refusal? policy before line = (command.fields.find? state.refuses).map Field.malformed := by
  simp only [refusal?, read, followed]
  exact state.failure_of_step_move _ _ moves

theorem Print.malformed_relative_of_recorded {print : Print} (moves : command.isMove = true)
    (read : Token.ofLine line = .ok (.command command))
    (recorded : ofLines policy (before ++ line :: behind) = .ok print) :
    ∃ state, MachineState.fresh.follow false policy before = .ok state ∧
      ∀ field ∈ command.fields, field.isMalformedCoordinate = true → state.modeOf field = .relative := by
  obtain ⟨recorder, next, stands, took⟩ := taken_of_recorded recorded
  have passes := Recorder.failure_of_take_line stands (numerals_accepted_of_command read)
  rw [took, refusal_of_move moves read stands.machine] at passes
  have unrefused : command.fields.find? recorder.machine.refuses = none := by
    simpa [failureOf?] using passes.symm
  refine ⟨recorder.machine, stands.machine, fun field member malformed => ?_⟩
  have lets := List.find?_eq_none.mp unrefused field member
  cases mode : recorder.machine.modeOf field with
  | relative => rfl
  | absolute => exact absurd (MachineState.refuses_iff.mpr ⟨malformed, mode⟩) lets

/-- A program fails for the first refused coordinate of a move, if no line in front of it is refused. -/
theorem Print.fails_of_malformed {state : MachineState} {field : Field} (moves : command.isMove = true)
    (read : Token.ofLine line = .ok (.command command))
    (accepted : ∀ other ∈ before, NumeralsAccepted other) (clean : NoneRefused policy before)
    (followed : MachineState.fresh.follow false policy before = .ok state)
    (first : command.fields.find? state.refuses = some field) :
    ofLines policy (before ++ line :: behind) = .error (field.malformed.ofLine before line) := by
  obtain ⟨recorder, taken, stands⟩ := Recorder.exists_of_none_refused accepted clean
  have failure := Recorder.failure_of_take_line stands (numerals_accepted_of_command read)
  rw [refusal_of_move moves read followed, first, Option.map_some, Option.map_some,
    failure_of_eq_some] at failure
  rw [of_lines_eq_behind, Recorder.behind_append, taken, ok_bind, List.map_cons, List.foldlM_cons, failure]
  rfl

/-- Which coordinates that are no numbers a move is refused for: those that are meant absolutely. A move with
such a coordinate fails with the first one, whatever the state, the layer and the policy; a move without one
passes. So a program with such a move is not recorded, and behind lines that pass it fails at this move; where
all coordinates of the move that are no numbers are meant relatively the move is not refused. -/
theorem Print.malformed_coordinate_refused_iff (policy : OverridePolicy) (moves : command.isMove = true) :
    (∀ (state : MachineState) (inLayer : Bool),
      failureOf? (state.step command inLayer policy) =
        (command.fields.find? state.refuses).map Field.malformed ∧
      ((∃ fault, state.step command inLayer policy = .error fault ∧ fault.faultClass = .parse) ↔
        ∃ field ∈ command.fields, field.isMalformedCoordinate = true ∧ state.modeOf field = .absolute)) ∧
    ∀ before line behind, Token.ofLine line = .ok (.command command) →
      (∀ print, ofLines policy (before ++ line :: behind) = .ok print →
        ∃ state, MachineState.fresh.follow false policy before = .ok state ∧
          ∀ field ∈ command.fields, field.isMalformedCoordinate = true → state.modeOf field = .relative) ∧
      ∀ state, MachineState.fresh.follow false policy before = .ok state →
        (refusal? policy before line = none ↔
          ∀ field ∈ command.fields, field.isMalformedCoordinate = true → state.modeOf field = .relative) ∧
        ∀ field, command.fields.find? state.refuses = some field →
          (∀ other ∈ before, NumeralsAccepted other) → NoneRefused policy before →
          ofLines policy (before ++ line :: behind) = .error (field.malformed.ofLine before line) := by
  refine ⟨fun state inLayer => ?_, fun before line behind read => ?_⟩
  · have failure := state.failure_of_step_move inLayer policy moves
    refine ⟨failure, ?_⟩
    constructor
    · rintro ⟨fault, failed, -⟩
      rw [failed] at failure
      obtain ⟨field, found, -⟩ := Option.map_eq_some_iff.mp failure.symm
      exact ⟨field, List.mem_of_find?_eq_some found,
        MachineState.refuses_iff.mp (List.find?_some found)⟩
    · rintro ⟨field, member, refused⟩
      have some := List.find?_isSome.mpr ⟨field, member, MachineState.refuses_iff.mpr refused⟩
      obtain ⟨first, found⟩ := Option.isSome_iff_exists.mp some
      rw [found, Option.map_some, failure_of_eq_some] at failure
      exact ⟨first.malformed, failure, rfl⟩
  · refine ⟨fun print recorded => malformed_relative_of_recorded moves read recorded,
      fun state followed => ⟨?_, fun field first accepted clean =>
        fails_of_malformed moves read accepted clean followed first⟩⟩
    have relative : ∀ field, (field.isMalformedCoordinate = true → state.modeOf field = .relative) ↔
        ¬ state.refuses field = true := by
      intro field
      rw [MachineState.refuses_iff, not_and]
      cases state.modeOf field <;> simp
    rw [refusal_of_move moves read followed, Option.map_eq_none_iff, List.find?_eq_none]
    exact forall₂_congr fun field _ => (relative field).symm

theorem Print.malformed_coordinate_refused_behind_good_one :
    let move : Command := .ofLine (Text.of "G1 X5 Y1.2.3 Ff")
    move.isMove = true ∧
    ofLines .reject [Text.of "M104 S210", Text.of "G1 X5 Y1.2.3 Ff", Text.of "T9"] =
      .error (Fault.ofLine (.malformedField (Text.of "Y") (Text.of "1.2.3"))
        [Text.of "M104 S210"] (Text.of "G1 X5 Y1.2.3 Ff")) := by
  intro move
  have moves : move.isMove = true := by decide +kernel
  have whole := (malformed_coordinate_refused_iff .reject moves).2 [Text.of "M104 S210"]
    (Text.of "G1 X5 Y1.2.3 Ff") [Text.of "T9"] (by decide +kernel)
  have refuses : succeedsWith (fun state : MachineState => decide (move.fields.find? state.refuses =
      some ⟨Text.of "Y", Text.of "1.2.3"⟩))
      (MachineState.fresh.follow false .reject [Text.of "M104 S210"]) = true := by decide +kernel
  obtain ⟨state, followed, refused⟩ := exists_of_succeeds_with refuses
  exact ⟨moves, (whole.2 state followed).2 _ (of_decide_eq_true refused)
    (by decide +kernel) (by decide +kernel)⟩

def unreadRelativeProgram : List Text := [
  Text.of ";LAYER_COUNT:1", Text.of "M140 S60", Text.of "M104 S210", Text.of "G92 E0",
  Text.of "G0 X40 Y40 Z0.2", Text.of ";LAYER:0", Text.of "G1 X60 E1", Text.of "G91", Text.of "G0 Xabc",
  Text.of "G90", Text.of ";-- end code begin --"]

theorem Print.malformed_relative_coordinate_recorded :
    Text.of "G0 Xabc" ∈ unreadRelativeProgram ∧
    Token.ofLine (Text.of "G0 Xabc") = .ok (.command (.ofLine (Text.of "G0 Xabc"))) ∧
    (Command.ofLine (Text.of "G0 Xabc")).isMove = true ∧
    (Command.ofLine (Text.of "G0 Xabc")).fields.any Field.isMalformedCoordinate = true ∧
    ∃ print, ofLines .reject unreadRelativeProgram = .ok print := by
  refine ⟨by decide, by decide +kernel, by decide +kernel, by decide +kernel, ?_⟩
  have records : succeedsWith (fun _ => true) (ofLines .reject unreadRelativeProgram) = true := by
    decide +kernel
  obtain ⟨print, recorded, -⟩ := exists_of_succeeds_with records
  exact ⟨print, recorded⟩

end PrintParts
