import PrintParts.Proofs.Recording.Refusal

/-!
What it changes to ignore the commands that override a speed inside a layer. They leave no trace: a
recording that ignores them is, line by line, the one that refuses them, up to the first of them. There the
one fails and the other goes on.
-/

namespace PrintParts

/-- The speed that a command overrides. -/
def Code.rate? : Code → Option Rate
  | .feedRate => some .feed
  | .flowRate => some .flow
  | _ => none

def Command.rate? (command : Command) : Option Rate := command.code.toOption.bind Code.rate?

/-- The fault of a line that overrides a speed, if a layer is open behind the lines in front of it. -/
def override? (before : List Text) (line : Text) : Option Fault :=
  if (openBehind? before).isSome then
    ((tokenOf? line).bind Token.command?).bind fun command =>
      command.rate?.map fun rate => .rateOverride rate command.mnemonic
  else none

/-- The failure with a fault of the line behind some others: it names the number of the line, its text without
the line end, and the open layer. -/
def Fault.ofLine (fault : Fault) (before : List Text) (line : Text) : Failure :=
  .fault fault {
    lineNumber := some (before.length + 1)
    line := some line.chomp
    layer := (openBehind? before).map Int.ofNat }

/-- The first of some lines that overrides a speed inside a layer. -/
structure FirstOverride (lines before : List Text) (line : Text) (behind : List Text)
    (fault : Fault) : Prop where
  whole : lines = before ++ line :: behind
  first : NoneFails override? before
  overrides : override? before line = some fault

namespace MachineState

variable {state : MachineState} {code : Code} {command : Command} {inLayer : Bool}

theorem apply_of_other (other : inLayer = true → code.rate? = none) :
    state.apply code command inLayer .reject = state.apply code command inLayer .ignore := by
  have outside : ∀ rate, code.rate? = some rate → inLayer = false := by
    intro rate overrides
    by_contra inside
    exact nomatch overrides.symm.trans (other (Bool.eq_true_of_not_eq_false inside))
  cases code with
  | feedRate => rw [outside .feed rfl]; rfl
  | flowRate => rw [outside .flow rfl]; rfl
  | _ => rfl

theorem apply_of_override {rate : Rate} (overrides : code.rate? = some rate) :
    state.apply code command true .reject = .error (.rateOverride rate command.mnemonic) ∧
      state.apply code command true .ignore = .ok state := by
  cases code with
  | feedRate | flowRate =>
    cases overrides
    exact ⟨rfl, rfl⟩
  | _ => cases overrides

end MachineState

namespace Recorder

variable {policy : OverridePolicy} {before : List Text} {recorder : Recorder} {line : Text}
  {fault : Fault}

theorem override_of_command {command : Command} (stands : recorder.Stands policy before)
    (read : Token.ofLine line = .ok (.command command)) : override? before line =
      if recorder.current.isSome then
        command.rate?.map fun rate => .rateOverride rate command.mnemonic
      else none := by
  rw [override?, is_open_eq stands, token_of_eq_some.mpr read]
  rfl

theorem take_line_of_other (stands : recorder.Stands policy before)
    (other : override? before line = none) :
    recorder.takeLine .reject line.chomp = recorder.takeLine .ignore line.chomp := by
  simp only [takeLine, Token.of_line_chomp]
  cases read : Token.ofLine line with
  | error failure => rfl
  | ok token =>
    cases token with
    | command command =>
      rw [override_of_command stands read] at other
      simp only [ok_bind, takeToken, takeCommand]
      cases known : command.code with
      | error fault => rfl
      | ok code =>
        have same := @MachineState.apply_of_other recorder.machine code command recorder.current.isSome
          fun inside => by
            rw [inside, if_pos rfl, Option.map_eq_none_iff, Command.rate?, known] at other
            exact other
        simp only [ok_bind, same]
    | _ => rfl

theorem exists_of_override (overrides : override? before line = some fault) :
    (openBehind? before).isSome = true ∧ ∃ command code rate,
      Token.ofLine line = .ok (.command command) ∧ command.code = .ok code ∧ code.rate? = some rate ∧
        fault = .rateOverride rate command.mnemonic := by
  rw [override?, Option.ite_none_right_eq_some] at overrides
  obtain ⟨isOpen, overrides⟩ := overrides
  obtain ⟨command, isCommand, overrides⟩ := Option.bind_eq_some_iff.mp overrides
  obtain ⟨rate, isRate, same⟩ := Option.map_eq_some_iff.mp overrides
  obtain ⟨code, known, ofCode⟩ := Option.bind_eq_some_iff.mp isRate
  obtain ⟨token, found, ofToken⟩ := Option.bind_eq_some_iff.mp isCommand
  cases token with
  | command command =>
    cases ofToken
    exact ⟨isOpen, command, code, rate, token_of_eq_some.mp found, to_option_eq_some.mp known, ofCode,
      same.symm⟩
  | _ => cases ofToken

theorem take_line_of_override (stands : recorder.Stands policy before)
    (overrides : override? before line = some fault) :
    recorder.takeLine .reject line.chomp = .error (fault.ofLine before line) ∧
    ∃ next, recorder.takeLine .ignore line.chomp = .ok next := by
  obtain ⟨isOpen, command, code, rate, read, known, isRate, rfl⟩ := exists_of_override overrides
  rw [← is_open_eq stands] at isOpen
  obtain ⟨refused, ignored⟩ := @MachineState.apply_of_override recorder.machine code command rate isRate
  simp only [takeLine, Token.of_line_chomp, read, ok_bind, takeToken, takeCommand, known, isOpen, refused,
    ignored]
  constructor
  · exact congrArg Except.error (place_of_stands stands _)
  · obtain ⟨layer, current⟩ := Option.isSome_iff_exists.mp isOpen
    simp only [current]
    exact ⟨_, rfl⟩

theorem behind_of_none {lines : List Text} (none : NoneFails override? lines) :
    behind .reject lines = behind .ignore lines := by
  induction lines using List.reverseRecOn with
  | nil => rfl
  | append_singleton before line induction =>
    obtain ⟨earlier, last⟩ := none_fails_append.mp none
    rw [behind_concat, behind_concat, induction earlier]
    cases taken : behind .ignore before with
    | error failure => rfl
    | ok recorder => exact take_line_of_other (stands_of_behind taken) last

end Recorder

namespace Print

variable {lines before behind : List Text} {line : Text} {fault : Fault}

theorem of_lines_of_none (none : NoneFails override? lines) :
    ofLines .reject lines = ofLines .ignore lines := by
  rw [of_lines_eq_behind, of_lines_eq_behind, Recorder.behind_of_none none]

/-- The first override either comes too late, since both recordings fail in front of it, or it decides: it
is refused, and a recording that ignores it goes past it. -/
theorem of_lines_of_first_override (isFirst : FirstOverride lines before line behind fault) :
    (∃ failure, ofLines .reject lines = .error failure ∧ ofLines .ignore lines = .error failure) ∨
    ofLines .reject lines = .error (fault.ofLine before line) ∧
    ∃ recorder, Recorder.behind .ignore (before ++ [line]) = .ok recorder := by
  obtain ⟨rfl, none, overrides⟩ := isFirst
  rw [of_lines_eq_behind, of_lines_eq_behind, Recorder.behind_append, Recorder.behind_append,
    Recorder.behind_concat, Recorder.behind_of_none none]
  cases taken : Recorder.behind .ignore before with
  | error failure => exact .inl ⟨failure, rfl, rfl⟩
  | ok recorder =>
    obtain ⟨refused, next, goesOn⟩ :=
      Recorder.take_line_of_override (Recorder.stands_of_behind taken) overrides
    refine .inr ⟨?_, next, goesOn⟩
    simp only [ok_bind, List.map_cons, List.foldlM_cons, refused]
    rfl

theorem none_or_first_override (lines : List Text) : NoneFails override? lines ∨
    ∃ before line behind fault, FirstOverride lines before line behind fault := by
  rcases none_fails_or_first override? lines with none | ⟨before, line, behind, fault, whole, none, first⟩
  · exact .inl none
  · exact .inr ⟨before, line, behind, fault, whole, none, first⟩

/-- To ignore overrides inside layers extends what can be recorded, and changes nothing else. What is
recorded while they are refused is recorded alike while they are ignored. Where ignoring them fails,
refusing them fails with the same, or at an override in front of that place. Where only refusing them fails,
it fails at the first override inside a layer. -/
theorem ignoring_extends_rejecting (lines : List Text) :
    (∀ print, ofLines .reject lines = .ok print → ofLines .ignore lines = .ok print) ∧
    (∀ failure, ofLines .ignore lines = .error failure → ofLines .reject lines = .error failure ∨
      ∃ before line behind fault, FirstOverride lines before line behind fault ∧
        ofLines .reject lines = .error (fault.ofLine before line) ∧
        ∃ recorder, Recorder.behind .ignore (before ++ [line]) = .ok recorder) ∧
    ∀ print failure, ofLines .ignore lines = .ok print → ofLines .reject lines = .error failure →
      ∃ before line behind fault, FirstOverride lines before line behind fault ∧
        failure = fault.ofLine before line := by
  rcases none_or_first_override lines with none | ⟨before, line, behind, fault, first⟩
  · have same := of_lines_of_none none
    rw [same]
    refine ⟨fun _ recorded => recorded, fun _ failed => .inl failed, fun _ _ recorded failed => ?_⟩
    cases recorded.symm.trans failed
  · rcases of_lines_of_first_override first with ⟨failure, rejected, ignored⟩ | ⟨rejected, goesOn⟩
    · rw [rejected, ignored]
      exact ⟨fun _ recorded => recorded, fun _ failed => .inl failed, fun _ _ recorded => nomatch recorded⟩
    · rw [rejected]
      refine ⟨(fun _ recorded => nomatch recorded), fun _ _ => .inr ?_, fun _ _ _ failed => ?_⟩
      · exact ⟨before, line, behind, fault, first, rfl, goesOn⟩
      · exact ⟨before, line, behind, fault, first, (Except.error.inj failed).symm⟩

end Print

def overridingProgram : List Text := [
  Text.of ";LAYER_COUNT:1", Text.of "M220 S100", Text.of ";LAYER:0", Text.of "G1 X60 E1",
  Text.of "M221 S95", Text.of "M220 S50", Text.of ";-- end code begin --", Text.of "M221 S100"]

theorem Print.ignoring_extends_rejecting_of_overrides :
    (∃ print before line behind fault, ofLines .ignore overridingProgram = .ok print ∧
      FirstOverride overridingProgram before line behind fault ∧
      ofLines .reject overridingProgram = .error (fault.ofLine before line)) ∧
    ofLines .ignore (overridingProgram.take 6) = .error Fault.endCodeMissing.raise ∧
    ∃ before line behind fault, FirstOverride (overridingProgram.take 6) before line behind fault ∧
      ofLines .reject (overridingProgram.take 6) = .error (fault.ofLine before line) := by
  have ignored : succeedsWith (fun _ => true) (ofLines .ignore overridingProgram) = true := by
    decide +kernel
  have rejected : (failureOf? (ofLines .reject overridingProgram)).isSome = true := by decide +kernel
  have unended : failureOf? (ofLines .ignore (overridingProgram.take 6)) =
      some Fault.endCodeMissing.raise := by
    decide +kernel
  have earlier : failureOf? (ofLines .reject (overridingProgram.take 6)) ≠
      some Fault.endCodeMissing.raise := by
    decide +kernel
  obtain ⟨print, recorded, -⟩ := exists_of_succeeds_with ignored
  obtain ⟨failure, failed⟩ := Option.isSome_iff_exists.mp rejected
  rw [failure_of_eq_some] at failed unended
  obtain ⟨before, line, behind, fault, first, rfl⟩ :=
    (ignoring_extends_rejecting overridingProgram).2.2 print failure recorded failed
  refine ⟨⟨print, before, line, behind, fault, recorded, first, failed⟩, unended, ?_⟩
  rcases (ignoring_extends_rejecting (overridingProgram.take 6)).2.1 _ unended with same | decided
  · exact absurd (failure_of_eq_some.mpr same) earlier
  · obtain ⟨before, line, behind, fault, first, refused, -⟩ := decided
    exact ⟨before, line, behind, fault, first, refused⟩

end PrintParts
