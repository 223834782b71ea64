import PrintParts.Proofs.Recording.Reach
import PrintParts.Proofs.Recording.Restart
import PrintParts.Proofs.Scaffold.Gauged

/-!
What a layer tells of its moves, as it follows from all of its commands at once. The recorder keeps it up
to date command by command, and never takes back that a layer cannot be traced; looked at as a whole, the
first move decides how a layer begins, and the trace goes up to the first command that spoils it.
-/

namespace PrintParts

/-- A command of a run, with the states in front of it and behind it. -/
structure Executed where
  before : MachineState
  command : Command
  after : MachineState

namespace Executed

def isMove (step : Executed) : Bool := step.command.isMove

/-- A layer cannot be traced further than to a command that makes coordinates relative, a move while they
are, or a move behind which one of them is not known. -/
def spoilsTrace (step : Executed) : Bool :=
  step.command.code.toOption == some .relativePositioning ||
    step.isMove && (step.before.xyzMode == .relative || !step.after.position.isAbsolute)

/-- The endpoint of the first move, if that is a travel. -/
def travelOf? (steps : List Executed) : Option Position :=
  (steps.find? isMove).bind fun step =>
    if step.command.hasField 'E' then none else some step.after.position

/-- Where the moves in front of the first command that spoils the trace have led to. -/
def traceOf (steps : List Executed) : List Position :=
  ((steps.takeWhile fun step => !step.spoilsTrace).filter isMove).map (·.after.position)

/-- One more step leads the trace on if it is a move and nothing has spoilt the trace. -/
theorem trace_of_append (steps : List Executed) (step : Executed) :
    traceOf (steps ++ [step]) = traceOf steps ++
      if (steps.all fun step => !step.spoilsTrace) && !step.spoilsTrace && step.isMove then
        [step.after.position] else [] := by
  unfold traceOf
  cases unspoilt : steps.all fun step => !step.spoilsTrace with
  | true =>
    have all : ∀ step ∈ steps, (!step.spoilsTrace) = true := List.all_eq_true.mp unspoilt
    rw [List.takeWhile_append_of_pos all, List.takeWhile_eq_self_iff.mpr all, List.takeWhile_cons]
    cases step.spoilsTrace <;> cases moves : step.isMove <;> simp [moves]
  | false =>
    have shorter : (steps.takeWhile fun step => !step.spoilsTrace).length ≠ steps.length := by
      intro same
      have whole := (List.takeWhile_prefix fun step : Executed => !step.spoilsTrace).eq_of_length same
      rw [List.all_eq_true.mpr (List.takeWhile_eq_self_iff.mp whole)] at unspoilt
      cases unspoilt
    rw [List.takeWhile_append, if_neg shorter]
    simp

end Executed

namespace MachineState

def steps (policy : OverridePolicy) : MachineState → List Command → List Executed
  | _, [] => []
  | state, command :: rest =>
    match state.step command true policy with
    | .ok after => ⟨state, command, after⟩ :: after.steps policy rest
    | .error _ => []

variable {state middle after : MachineState} {policy : OverridePolicy} {command : Command}

theorem steps_of_command (stepped : state.step command true policy = .ok after) (rest : List Command) :
    state.steps policy (command :: rest) = ⟨state, command, after⟩ :: after.steps policy rest := by
  rw [steps, stepped]

theorem steps_append {first : List Command}
    (followed : first.foldlM (fun state command => state.step command true policy) state = .ok middle)
    (second : List Command) :
    state.steps policy (first ++ second) = state.steps policy first ++ middle.steps policy second := by
  induction first generalizing state with
  | nil =>
    cases followed
    rfl
  | cons command rest induction =>
    obtain ⟨next, stepped, followed⟩ := bind_eq_ok.mp followed
    have stepped : state.step command true policy = .ok next := stepped
    rw [List.cons_append, steps_of_command stepped, steps_of_command stepped, induction followed,
      List.cons_append]

theorem steps_of_lines {lines : List Text}
    (commands : ∀ line ∈ lines, ∃ command, Token.ofLine line = .ok (.command command))
    (followed : state.follow true policy lines = .ok after) :
    (state.steps policy (commandsOf lines)).length = lines.length ∧
      ∀ front line behind, lines = front ++ line :: behind →
        ∃ step, (state.steps policy (commandsOf lines))[front.length]? = some step ∧
          Token.ofLine line = .ok (.command step.command) ∧
          state.follow true policy front = .ok step.before ∧
          step.before.step step.command true policy = .ok step.after := by
  induction lines generalizing state with
  | nil => exact ⟨rfl, fun front line behind whole => absurd whole (by simp)⟩
  | cons first lines induction =>
    obtain ⟨⟨command, read⟩, commands⟩ := List.forall_mem_cons.mp commands
    rw [follow_of_command read] at followed
    obtain ⟨next, stepped, followed⟩ := bind_eq_ok.mp followed
    obtain ⟨length, each⟩ := induction commands followed
    rw [commands_of_command read, steps_of_command stepped]
    refine ⟨congrArg Nat.succ length, ?_⟩
    intro front line behind whole
    cases front with
    | nil =>
      obtain ⟨rfl, rfl⟩ := List.cons.inj whole
      exact ⟨⟨state, command, next⟩, rfl, read, rfl, stepped⟩
    | cons other front =>
      obtain ⟨same, tail⟩ := List.cons.inj whole
      subst same
      obtain ⟨step, found, isStep, reached, steps⟩ := each front line behind tail
      refine ⟨step, found, isStep, ?_, steps⟩
      rw [follow_of_command read, stepped]
      exact reached

end MachineState

namespace Layer

variable {policy : OverridePolicy} {layer : Layer} {state after : MachineState} {code : Code}
  {command : Command} {line : Text}

def steps (policy : OverridePolicy) (layer : Layer) : List Executed :=
  layer.entry.steps policy (commandsOf layer.lines.toList)

theorem steps_add_line (layer : Layer)
    (followed : layer.entry.follow true policy layer.lines.toList = .ok state)
    (read : Token.ofLine line = .ok (.command command))
    (stepped : state.step command true policy = .ok after) :
    (layer.addLine code command after line).steps policy =
      layer.steps policy ++ [⟨state, command, after⟩] := by
  rw [steps, add_line_entry, add_line_lines, commands_of_append, commands_of_command read,
    MachineState.steps_append followed, MachineState.steps_of_command stepped]
  rfl

/-- What a layer tells of its moves is what its steps tell. -/
structure TellsOf (steps : List Executed) (layer : Layer) : Prop where
  firstMove : layer.firstMove = match steps.find? Executed.isMove with
    | none => .unmade
    | some step => if step.command.hasField 'E' then .extruding else .travel step.after.position
  canIron : layer.canIron = steps.all fun step => !step.spoilsTrace
  trace : layer.ironingPath.toList = Executed.traceOf steps

theorem tells_opened (number : Int) (entry : MachineState) : (opened number entry).TellsOf [] :=
  ⟨rfl, rfl, rfl⟩

theorem tells_close (state : MachineState) :
    (layer.close state).TellsOf ((layer.close state).steps policy) ↔
      layer.TellsOf (layer.steps policy) :=
  ⟨fun tells => ⟨tells.firstMove, tells.canIron, tells.trace⟩,
    fun tells => ⟨tells.firstMove, tells.canIron, tells.trace⟩⟩

theorem note_first_move_trace (layer : Layer) (extrudes : Bool) (endpoint : Position) :
    (layer.noteFirstMove extrudes endpoint).canIron = layer.canIron ∧
      (layer.noteFirstMove extrudes endpoint).ironingPath = layer.ironingPath := by
  unfold noteFirstMove
  split <;> exact ⟨rfl, rfl⟩

theorem note_ironing_trace (layer : Layer) (after : MachineState) :
    (layer.noteIroning after).canIron =
      (layer.canIron && !(after.xyzMode == .relative || !after.position.isAbsolute)) ∧
    (layer.noteIroning after).ironingPath.toList = layer.ironingPath.toList ++
      if (layer.noteIroning after).canIron then [after.position] else [] := by
  unfold noteIroning
  cases after.xyzMode <;> cases canIron : layer.canIron <;> cases after.position.isAbsolute <;>
    simp [canIron]

theorem note_trace (layer : Layer) (step : Executed)
    (known : step.command.code = .ok code)
    (mode : code.isMove = true → step.after.xyzMode = step.before.xyzMode) :
    (layer.note code step.command step.after).canIron = (layer.canIron && !step.spoilsTrace) ∧
    (layer.note code step.command step.after).ironingPath.toList = layer.ironingPath.toList ++
      if layer.canIron && !step.spoilsTrace && step.isMove then [step.after.position] else [] := by
  have isMove : step.isMove = code.isMove := Command.is_move_eq known
  have spoils : step.spoilsTrace = (decide (code = .relativePositioning) ||
      code.isMove && (step.before.xyzMode == .relative || !step.after.position.isAbsolute)) := by
    rw [Executed.spoilsTrace, isMove, known]
    rfl
  rw [isMove, spoils]
  by_cases turns : code = .relativePositioning
  · subst turns
    simp [note]
  · by_cases moves : code.isMove = true
    · obtain ⟨can, path⟩ := layer.note_first_move_trace (step.command.hasField 'E') step.after.position
      obtain ⟨canThen, pathThen⟩ := note_ironing_trace
        (layer.noteFirstMove (step.command.hasField 'E') step.after.position) step.after
      rw [note, if_neg turns, if_pos moves, pathThen, canThen, can, path, mode moves]
      simp [turns, moves]
    · simp [note, turns, moves]

theorem TellsOf.add_line {steps : List Executed} (tells : layer.TellsOf steps)
    (known : command.code = .ok code)
    (mode : code.isMove = true → after.xyzMode = state.xyzMode) (line : Text) :
    (layer.addLine code command after line).TellsOf (steps ++ [⟨state, command, after⟩]) := by
  obtain ⟨canIron, path⟩ := layer.note_trace ⟨state, command, after⟩ known mode
  have isMove : command.isMove = code.isMove := Command.is_move_eq known
  constructor
  · rw [add_line_first_move, List.find?_append, List.find?_singleton, Executed.isMove, isMove]
    cases found : steps.find? Executed.isMove with
    | none =>
      have unmade := tells.firstMove
      rw [found] at unmade
      cases code.isMove
      · simpa using unmade
      · simp [noteFirstMove, unmade]
    | some step =>
      have made := tells.firstMove
      rw [found] at made
      rw [Option.some_or]
      cases extrudes : step.command.hasField 'E' <;> simp only [extrudes, Bool.false_eq_true, if_true,
        if_false] at made ⊢ <;> simp [noteFirstMove, made]
  · rw [List.all_append, ← tells.canIron, List.all_cons, List.all_nil, Bool.and_true]
    exact canIron
  · rw [Executed.trace_of_append, ← tells.canIron, ← tells.trace]
    exact path

theorem TellsOf.travel_endpoint {steps : List Executed} (tells : layer.TellsOf steps) :
    layer.travelEndpoint? = Executed.travelOf? steps := by
  rw [travelEndpoint?, tells.firstMove, Executed.travelOf?]
  cases steps.find? Executed.isMove with
  | none => rfl
  | some step => cases extrudes : step.command.hasField 'E' <;> simp [extrudes]

end Layer

namespace Recorder

variable {policy : OverridePolicy} {recorder next : Recorder} {line : Text}

/-- Every layer tells of its own steps, and the lines of the open one lead to where the printer is. -/
structure TellsOfSteps (policy : OverridePolicy) (recorder : Recorder) : Prop where
  followed : Followed policy recorder
  tells : ∀ layer ∈ recorder.layers, layer.TellsOf (layer.steps policy)

theorem tells_of_steps_of_takes (before : TellsOfSteps policy recorder)
    (takes : Takes policy recorder line next) : TellsOfSteps policy next := by
  refine ⟨followed_of_takes before.followed takes, ?_⟩
  have unchanged : ∀ other : Recorder, other.layers = recorder.layers →
      ∀ layer ∈ other.layers, layer.TellsOf (layer.steps policy) := fun _ same => same ▸ before.tells
  cases takes with
  | layerHeight value read => exact unchanged _ (layers_congr rfl rfl rfl)
  | layerCount count read => exact unchanged _ (layers_congr rfl rfl rfl)
  | marker index read inOrder =>
    rw [layers_of_open rfl]
    exact List.forall_mem_append.mpr ⟨before.tells, List.forall_mem_singleton.mpr
      ((Layer.tells_close _).mpr (Layer.tells_opened index recorder.machine))⟩
  | endMarker read => exact unchanged _ (layers_of_closed (close_current_current recorder))
  | outside command code after read known applied closed =>
    exact unchanged _ (by rw [layers_of_closed rfl, layers_of_closed closed])
  | inside command code after layer read known applied isOpen =>
    have tells := before.tells
    rw [layers_of_open isOpen] at tells
    obtain ⟨lower, last⟩ := List.forall_mem_append.mp tells
    have tellsOpen : layer.TellsOf (layer.steps policy) :=
      (Layer.tells_close recorder.machine).mp (last _ (List.mem_singleton_self _))
    have grown := tellsOpen.add_line known (fun moves => MachineState.mode_of_move moves applied) line
    rw [← layer.steps_add_line (before.followed layer isOpen) read
      (bind_eq_ok.mpr ⟨code, known, applied⟩)] at grown
    rw [layers_of_open rfl]
    exact List.forall_mem_append.mpr
      ⟨lower, List.forall_mem_singleton.mpr ((Layer.tells_close after).mpr grown)⟩

end Recorder

namespace Scaffold

def Line.Numeric : Line → Prop
  | .code mnemonic fields _ => IsMnemonic mnemonic ∧ ∀ field ∈ fields, field.Written
  | _ => True

theorem ironing_numeric (nozzle : Binary64) {layer : Layer} (known : layer.TraceKnown) :
    ∀ line ∈ ironingAround nozzle layer.ironingPath.toList, line.Numeric := by
  have coordinate : ∀ letter (value : AxisValue), IsMnemonic [.char letter] →
      value.isAbsolute = true → (field letter value.toText).Written := by
    intro letter value capital absolute
    obtain ⟨number, rfl⟩ := AxisValue.number_of_absolute absolute
    exact (number_field_written letter number).mpr capital
  have traced : ∀ line ∈ layer.ironingPath.toList.map ironingLine, line.Numeric := by
    intro line member
    obtain ⟨point, inTrace, rfl⟩ := List.mem_map.mp member
    have absolute := known point inTrace
    simp only [Position.isAbsolute, Bool.and_eq_true] at absolute
    obtain ⟨⟨x, y⟩, z⟩ := absolute
    refine ⟨by decide, ?_⟩
    simp only [List.forall_mem_cons]
    exact ⟨coordinate 'X' _ (by decide) x, coordinate 'Y' _ (by decide) y,
      coordinate 'Z' _ (by decide) z, by simp +decide, List.forall_mem_nil _⟩
  simp only [ironingAround, List.forall_mem_append]
  refine ⟨⟨?_, traced⟩, ?_⟩
  · simp +decide [Line.Numeric, noted, remark]
  · simp [Line.Numeric, remark]

/-- Number characters do not spell what is written where a coordinate is not known. -/
theorem coordinate_of_numeric {line : Line} (numeric : line.Numeric) :
    ∀ field ∈ (Command.ofLine line.toText).fields,
      field.text ≠ AxisValue.unknown.toText ∧ field.text ≠ AxisValue.relative.toText := by
  have written : line.Plain ∧ ∀ field ∈ line.command.fields, field.Written := by
    cases line with
    | blank | remark => exact ⟨trivial, List.forall_mem_nil _⟩
    | code mnemonic fields note =>
      exact ⟨⟨numeric.1, fun field member => Field.plain_of_written (numeric.2 field member)⟩,
        numeric.2⟩
  rw [Line.of_line_to_text written.1]
  intro field member
  obtain ⟨chars, text, inNumbers⟩ := (written.2 field member).text
  have other : ∀ word : String, word.toList.all isNumberChar = false → field.text ≠ Text.of word := by
    intro word spelled same
    have chars : chars = word.toList :=
      List.map_injective_iff.mpr (fun _ _ => Symbol.char.inj) (text.symm.trans same)
    rw [← chars, List.all_eq_true.mpr inNumbers] at spelled
    cases spelled
  exact ⟨other "unknown" (by decide), other "relative" (by decide)⟩

end Scaffold

namespace Print

variable {policy : OverridePolicy} {lines : List Text} {print : Print}

theorem tell_of_steps (recorded : ofLines policy lines = .ok print) :
    ∀ layer ∈ print.layers.toList, layer.TellsOf (layer.steps policy) := by
  obtain ⟨recorder, taken, same, -⟩ := of_lines_eq_ok recorded
  have start : Recorder.TellsOfSteps policy Recorder.start :=
    ⟨fun _ isOpen => (nomatch isOpen), List.forall_mem_nil _⟩
  rw [same]
  exact (Recorder.recording_preserves (fun recorder _ => Recorder.TellsOfSteps policy recorder)
    (fun _ _ _ _ before takes => Recorder.tells_of_steps_of_takes before takes) start taken).tells

/-- Each line of a layer is one of its steps, and what the layer tells of its moves is what all of its
steps together tell. A trace goes through known places only, so no line of it is written with a coordinate
that is not known. -/
theorem layers_tell_of_steps (recorded : ofLines policy lines = .ok print) {layer : Layer}
    (member : layer ∈ print.layers.toList) :
    (layer.steps policy).length = layer.lines.toList.length ∧
    (∀ front line behind, layer.lines.toList = front ++ line :: behind →
      ∃ step, (layer.steps policy)[front.length]? = some step ∧
        Token.ofLine line = .ok (.command step.command) ∧
        layer.entry.follow true policy front = .ok step.before ∧
        step.before.step step.command true policy = .ok step.after) ∧
    layer.travelEndpoint? = Executed.travelOf? (layer.steps policy) ∧
    (layer.canIron = true ↔ ∀ step ∈ layer.steps policy, step.spoilsTrace = false) ∧
    layer.ironingPath.toList = Executed.traceOf (layer.steps policy) ∧
    layer.TraceKnown ∧
    ∀ settings block, Scaffold.Settings.ironingLines settings layer = .ok block →
      ∀ line ∈ block, ∀ field ∈ (Command.ofLine line.toText).fields,
        field.text ≠ AxisValue.unknown.toText ∧ field.text ≠ AxisValue.relative.toText := by
  obtain ⟨_, _, recordedFrom⟩ := recorded_from_of_mem recorded member
  obtain ⟨exit, -, follows⟩ := recordedFrom.exit
  obtain ⟨length, each⟩ := MachineState.steps_of_lines recordedFrom.commands (follows true)
  have tells := tell_of_steps recorded layer member
  have known := traces_known recorded layer member
  refine ⟨length, each, ?_, ?_, tells.trace, known, ?_⟩
  · exact tells.travel_endpoint
  · rw [tells.canIron, List.all_eq_true]
    simp
  · intro settings block irons
    unfold Scaffold.Settings.ironingLines at irons
    split at irons
    · obtain ⟨nozzle, -, irons⟩ := bind_eq_ok.mp irons
      cases irons
      exact fun line member =>
        Scaffold.coordinate_of_numeric (Scaffold.ironing_numeric nozzle known line member)
    · cases irons
      exact List.forall_mem_nil _

end Print

def turningProgram : List Text := [
  Text.of ";LAYER_COUNT:2", Text.of "G1 X10 Y20 Z0.3", Text.of "G92 E0",
  Text.of ";LAYER:0", Text.of "M104 S210", Text.of "G0 X50", Text.of "G1 X60 E1", Text.of "G91",
  Text.of "G0 X1", Text.of "G90", Text.of "G1 X70 E2",
  Text.of ";LAYER:1", Text.of "G1 X80 E3", Text.of "G0 Y30",
  Text.of ";-- end code begin --"]

/-- Whether only the upper one of two layers can be traced, and only the lower one begins with a travel. -/
def Print.turnsBelow (print : Print) : Bool :=
  match print.layers.toList with
  | [lower, upper] => lower.travelEndpoint?.isSome && !lower.canIron && lower.ironingPath.size == 2 &&
      upper.travelEndpoint?.isNone && upper.canIron && upper.ironingPath.size == 2
  | _ => false

theorem Print.layers_tell_of_steps_across_modes : ∃ print lower upper,
    ofLines .reject turningProgram = .ok print ∧ print.layers.toList = [lower, upper] ∧
    lower.travelEndpoint?.isSome = true ∧
    lower.travelEndpoint? = Executed.travelOf? (lower.steps .reject) ∧
    lower.canIron = false ∧ lower.ironingPath.size = 2 ∧
    lower.ironingPath.toList = Executed.traceOf (lower.steps .reject) ∧
    upper.travelEndpoint? = none ∧ (∀ step ∈ upper.steps .reject, step.spoilsTrace = false) ∧
    upper.ironingPath.size = 2 ∧ upper.ironingPath.toList = Executed.traceOf (upper.steps .reject) := by
  have checked : succeedsWith turnsBelow (ofLines .reject turningProgram) = true := by
    decide +kernel
  obtain ⟨print, recorded, both⟩ := exists_of_succeeds_with checked
  unfold turnsBelow at both
  split at both
  · rename_i lower upper layers
    simp only [Bool.and_eq_true, Bool.not_eq_true', beq_iff_eq] at both
    obtain ⟨⟨⟨⟨⟨travels, untraceable⟩, lowerSize⟩, extrudes⟩, traceable⟩, upperSize⟩ := both
    have isLower : lower ∈ print.layers.toList := layers ▸ List.mem_cons_self
    have isUpper : upper ∈ print.layers.toList := layers ▸ List.mem_cons_of_mem _ List.mem_cons_self
    obtain ⟨-, -, endpoint, -, lowerTrace, -⟩ := layers_tell_of_steps recorded isLower
    obtain ⟨-, -, -, unspoilt, upperTrace, -⟩ := layers_tell_of_steps recorded isUpper
    exact ⟨print, lower, upper, recorded, layers, travels, endpoint, untraceable, lowerSize, lowerTrace,
      Option.isNone_iff_eq_none.mp extrudes, unspoilt.mp traceable, upperSize, upperTrace⟩
  · cases both

end PrintParts
