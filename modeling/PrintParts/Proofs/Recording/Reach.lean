import PrintParts.Proofs.Machine.Frame
import PrintParts.Proofs.Number.Order
import PrintParts.Proofs.Recording.Whole

/-!
How far the moves of a print reach along X. Each move that names X while coordinates are absolute sets an X,
and the recording keeps the least of all that are set inside layers: it is one of them, and none is below
it. Below a NaN there is nothing, so a NaN that comes first is kept whatever is set behind it.
-/

namespace PrintParts

/-- The number of the last X of a command. -/
def Command.lastX? (command : Command) : Option Binary64 :=
  (command.fields.filter (·.isNamed 'X')).getLast?.bind fun field => Binary64.ofText? field.text

theorem Axis.letter_of_x {letter : Text} (named : ofLetter? letter = some .x) :
    letter = [.char 'X'] := by
  unfold ofLetter? at named
  split at named
  · assumption
  · split at named
    · cases named
    · split at named <;> cases named

namespace MachineState

/-- The X that a command sets: that of a move that names X while coordinates are absolute. -/
def moveX? (state : MachineState) (command : Command) (after : MachineState) : Option Binary64 :=
  match command.code with
  | .ok code =>
    if code.isMove ∧ state.xyzMode = .absolute ∧ command.hasField 'X' then after.position.x.number?
    else none
  | .error _ => none

def moveXs (policy : OverridePolicy) : MachineState → List Command → List Binary64
  | _, [] => []
  | state, command :: rest =>
    match state.step command true policy with
    | .ok after => (state.moveX? command after).toList ++ after.moveXs policy rest
    | .error _ => []

variable {state middle after : MachineState} {policy : OverridePolicy} {inLayer : Bool}
  {command : Command}

theorem move_xs_of_command (stepped : state.step command true policy = .ok after)
    (rest : List Command) : state.moveXs policy (command :: rest) =
      (state.moveX? command after).toList ++ after.moveXs policy rest := by
  rw [moveXs, stepped]

theorem move_xs_append {first : List Command}
    (followed : first.foldlM (fun state command => state.step command true policy) state = .ok middle)
    (second : List Command) :
    state.moveXs policy (first ++ second) = state.moveXs policy first ++ middle.moveXs policy second := by
  induction first generalizing state with
  | nil =>
    cases followed
    rfl
  | cons command rest induction =>
    rw [List.foldlM_cons] at followed
    obtain ⟨next, stepped, followed⟩ := bind_eq_ok.mp followed
    rw [List.cons_append, move_xs_of_command stepped, move_xs_of_command stepped, induction followed,
      List.append_assoc]

theorem mode_of_standing (same : after.standing = state.standing) : after.xyzMode = state.xyzMode := by
  have mode : after.standing.xyzMode = state.standing.xyzMode := by rw [same]
  exact mode

theorem mode_of_move {code : Code} (moves : code.isMove = true)
    (applied : state.apply code command inLayer policy = .ok after) :
    after.xyzMode = state.xyzMode :=
  mode_of_standing (move_standing (move_of_apply moves applied))

theorem move_field_x {field : Field} (absolute : state.xyzMode = .absolute)
    (moved : state.moveField field = .ok after) :
    if field.isNamed 'X' then
      ∃ x, Binary64.ofText? field.text = some x ∧ after.position.x = .absolute x
    else after.position.x = state.position.x := by
  by_cases named : field.isNamed 'X' = true
  · have letter : field.letter = [.char 'X'] := eq_of_beq named
    have other : field.isNamed 'E' = false := by
      rw [Field.isNamed, letter]
      decide
    simp only [moveField, other, Bool.false_eq_true, if_false, letter, Axis.ofLetter?, if_true,
      absolute] at moved
    obtain ⟨x, read, rfl⟩ := map_eq_ok.mp moved
    rw [if_pos named]
    exact ⟨x, Field.value_eq_ok_iff.mp read, rfl⟩
  · rw [if_neg named]
    unfold moveField at moved
    split at moved
    · split at moved
      · cases moved
        rfl
      · obtain ⟨e, -, rfl⟩ := map_eq_ok.mp moved
        rfl
    · split at moved
      · cases moved
        rfl
      · rename_i relative
        rw [absolute] at relative
        cases relative
      · rename_i axis isAxis _
        obtain ⟨number, -, rfl⟩ := map_eq_ok.mp moved
        have different : axis ≠ .x := by
          rintro rfl
          exact named (beq_of_eq (Axis.letter_of_x isAxis))
        exact Position.get_set_other state.position (.absolute number) different

theorem move_x {fields : List Field} (absolute : state.xyzMode = .absolute)
    (moved : state.move fields = .ok after) :
    match (fields.filter (·.isNamed 'X')).getLast? with
    | some field => ∃ x, Binary64.ofText? field.text = some x ∧ after.position.x = .absolute x
    | none => after.position.x = state.position.x := by
  induction fields using List.reverseRecOn generalizing after with
  | nil =>
    cases moved
    rfl
  | append_singleton fields field induction =>
    rw [move, List.foldlM_append] at moved
    obtain ⟨middle, first, last⟩ := bind_eq_ok.mp moved
    simp only [List.foldlM_cons, List.foldlM_nil, bind_pure] at last
    have mode : middle.xyzMode = .absolute := (mode_of_standing (move_standing first)).trans absolute
    have set := move_field_x mode last
    by_cases named : field.isNamed 'X' = true
    · rw [if_pos named] at set
      simpa [List.filter_append, named] using set
    · rw [if_neg named] at set
      simpa [List.filter_append, named, set] using induction first

theorem x_of_move (absolute : state.xyzMode = .absolute) (named : command.hasField 'X' = true)
    (moved : state.move command.fields = .ok after) :
    ∃ x, command.lastX? = some x ∧ after.position.x = .absolute x := by
  have set := move_x absolute moved
  obtain ⟨field, member, isX⟩ := List.find?_isSome.mp named
  have nonempty : command.fields.filter (·.isNamed 'X') ≠ [] :=
    List.ne_nil_of_mem (List.mem_filter.mpr ⟨member, isX⟩)
  rw [List.getLast?_eq_some_getLast nonempty] at set
  obtain ⟨x, read, isSet⟩ := set
  exact ⟨x, by rw [Command.lastX?, List.getLast?_eq_some_getLast nonempty, Option.bind_some, read], isSet⟩

end MachineState

def Layer.moveXs (policy : OverridePolicy) (layer : Layer) : List Binary64 :=
  layer.entry.moveXs policy (commandsOf layer.lines.toList)

def Print.moveXs (policy : OverridePolicy) (print : Print) : List Binary64 :=
  print.layers.toList.flatMap (·.moveXs policy)

/-- What a record tells of the X that were set: it is one of them and none of them is below it, and if there
is no record, no X was set. -/
structure LeastX.Tells (least : Option LeastX) (xs : List Binary64) : Prop where
  none : least = none → xs = []
  isSet : ∀ record, least = some record → record.x ∈ xs
  isLeast : ∀ record, least = some record → ∀ x ∈ xs, ¬ x < record.x

namespace LeastX

variable {least : Option LeastX} {xs : List Binary64} {number : Int} {code : Code} {command : Command}
  {state after : MachineState} {line : Text}

theorem tells_of_none : Tells none [] :=
  ⟨fun _ => rfl, fun _ found => (nomatch found), fun _ found => (nomatch found)⟩

theorem tells_of_first {x : Binary64} (tells : Tells none xs) :
    Tells (some ⟨x, number, line⟩) (xs ++ [x]) := by
  refine ⟨nofun, ?_, ?_⟩
  · rintro record ⟨⟩
    exact List.mem_append_right _ (List.mem_singleton_self x)
  · rintro record ⟨⟩ other member
    rw [tells.none rfl, List.nil_append, List.mem_singleton] at member
    rw [member]
    exact Binary64.lt_irrefl x

theorem tells_of_lower {x : Binary64} {known : LeastX} (tells : Tells (some known) xs)
    (below : x < known.x) : Tells (some ⟨x, number, line⟩) (xs ++ [x]) := by
  refine ⟨nofun, ?_, ?_⟩
  · rintro record ⟨⟩
    exact List.mem_append_right _ (List.mem_singleton_self x)
  · rintro record ⟨⟩ other member further
    rcases List.mem_append.mp member with earlier | here
    · exact tells.isLeast known rfl other earlier (Binary64.lt_trans further below)
    · rw [List.mem_singleton.mp here] at further
      exact Binary64.lt_irrefl x further

theorem tells_of_other {x : Binary64} {known : LeastX} (tells : Tells (some known) xs)
    (notBelow : ¬ x < known.x) : Tells (some known) (xs ++ [x]) := by
  refine ⟨nofun, ?_, ?_⟩
  · rintro record ⟨⟩
    exact List.mem_append_left _ (tells.isSet known rfl)
  · rintro record ⟨⟩ other member further
    rcases List.mem_append.mp member with earlier | here
    · exact tells.isLeast known rfl other earlier further
    · rw [List.mem_singleton.mp here] at further
      exact notBelow further

theorem tells_of_update (tells : Tells least xs) (known : command.code = .ok code)
    (mode : code.isMove = true → after.xyzMode = state.xyzMode) :
    Tells (update least number code command after line)
      (xs ++ (state.moveX? command after).toList) := by
  simp only [update, MachineState.moveX?, known]
  by_cases moves : code.isMove = true ∧ state.xyzMode = .absolute ∧ command.hasField 'X' = true
  · rw [if_pos moves, if_pos ⟨moves.1, (mode moves.1).trans moves.2.1, moves.2.2⟩]
    cases after.position.x with
    | absolute x =>
      cases least with
      | none => exact tells_of_first tells
      | some known =>
        by_cases below : x < known.x
        · simp only [if_pos below]
          exact tells_of_lower tells below
        · simp only [if_neg below]
          exact tells_of_other tells below
    | unknown | relative =>
      simp only [AxisValue.number?, Option.toList_none, List.append_nil]
      exact tells
  · have still : ¬ (code.isMove = true ∧ after.xyzMode = .absolute ∧ command.hasField 'X' = true) :=
      fun other => moves ⟨other.1, (mode other.1).symm.trans other.2.1, other.2.2⟩
    rw [if_neg moves, if_neg still, Option.toList_none, List.append_nil]
    exact tells

end LeastX

namespace Layer

variable {policy : OverridePolicy} {layer : Layer} {state after : MachineState} {code : Code}
  {command : Command} {line : Text}

theorem move_xs_opened (number : Int) (entry : MachineState) : (opened number entry).moveXs policy = [] :=
  rfl

theorem move_xs_close (state : MachineState) : (layer.close state).moveXs policy = layer.moveXs policy :=
  rfl

theorem move_xs_add_line (followed : layer.entry.follow true policy layer.lines.toList = .ok state)
    (read : Token.ofLine line = .ok (.command command))
    (stepped : state.step command true policy = .ok after) :
    (layer.addLine code command after line).moveXs policy =
      layer.moveXs policy ++ (state.moveX? command after).toList := by
  rw [moveXs, add_line_entry, add_line_lines, commands_of_append, commands_of_command read,
    MachineState.move_xs_append followed, MachineState.move_xs_of_command stepped]
  exact congrArg _ (List.append_nil _)

end Layer

namespace Recorder

variable {policy : OverridePolicy} {recorder next : Recorder} {line : Text}

/-- The commands of the open layer lead to where the printer is, and the record of the least X tells of the
moves of all layers. -/
structure Measured (policy : OverridePolicy) (recorder : Recorder) : Prop where
  followed : ∀ layer, recorder.current = some layer →
    layer.entry.follow true policy layer.lines.toList = .ok recorder.machine
  tells : LeastX.Tells recorder.leastX (recorder.layers.flatMap (·.moveXs policy))

theorem measured_of_takes (measured : Measured policy recorder)
    (takes : Takes policy recorder line next) : Measured policy next := by
  have unchanged : ∀ other : Recorder, other.layers = recorder.layers →
      other.leastX = recorder.leastX → LeastX.Tells other.leastX (other.layers.flatMap (·.moveXs policy)) := by
    intro other layers least
    rw [layers, least]
    exact measured.tells
  refine ⟨followed_of_takes measured.followed takes, ?_⟩
  cases takes with
  | layerHeight value read => exact unchanged _ (layers_congr rfl rfl rfl) rfl
  | layerCount count read => exact unchanged _ (layers_congr rfl rfl rfl) rfl
  | marker index read inOrder =>
    rw [layers_of_open rfl, List.flatMap_append, List.flatMap_singleton, Layer.move_xs_close,
      Layer.move_xs_opened, List.append_nil, close_current_least_x]
    exact measured.tells
  | endMarker read =>
    exact unchanged _ (layers_of_closed (close_current_current recorder)) (close_current_least_x recorder)
  | outside command code after read known applied closed =>
    exact unchanged _ (by rw [layers_of_closed rfl, layers_of_closed closed]) rfl
  | inside command code after layer read known applied isOpen =>
    have stepped : recorder.machine.step command true policy = .ok after :=
      bind_eq_ok.mpr ⟨code, known, applied⟩
    have tells := measured.tells
    rw [layers_of_open isOpen, List.flatMap_append, List.flatMap_singleton, Layer.move_xs_close] at tells
    rw [layers_of_open rfl, List.flatMap_append, List.flatMap_singleton, Layer.move_xs_close,
      layer.move_xs_add_line (measured.followed layer isOpen) read stepped, ← List.append_assoc]
    exact LeastX.tells_of_update tells known fun moves => MachineState.mode_of_move moves applied

theorem finish_least_x {print : Print} (done : recorder.finish = .ok print) :
    print.leastX = recorder.leastX := by
  simp only [finish] at done
  split at done
  · cases done
  · split at done
    · cases done
    · split at done
      · cases done
        exact close_current_least_x recorder
      · cases done

end Recorder

/-- The record that a print keeps tells of all moves inside its layers. -/
theorem Print.least_x_tells {policy : OverridePolicy} {lines : List Text} {print : Print}
    (recorded : ofLines policy lines = .ok print) :
    LeastX.Tells print.leastX (print.moveXs policy) := by
  obtain ⟨recorder, taken, finished⟩ := bind_eq_ok.mp recorded
  have done := map_error_eq_ok.mp finished
  have start : Recorder.Measured policy Recorder.start :=
    ⟨fun _ isOpen => (nomatch isOpen), LeastX.tells_of_none⟩
  have measured := Recorder.recording_preserves (fun recorder _ => Recorder.Measured policy recorder)
    (fun _ _ _ _ measured takes => Recorder.measured_of_takes measured takes) start taken
  rw [moveXs, (Recorder.finish_eq_ok done).1, Recorder.finish_least_x done]
  exact measured.tells

/-- No move is missing: each one in a layer that names X while coordinates are absolute has set an X. -/
theorem Print.move_xs_complete {policy : OverridePolicy} {lines : List Text} {print : Print}
    (recorded : ofLines policy lines = .ok print) {layer : Layer} (member : layer ∈ print.layers.toList)
    {before behind : List Text} {line : Text} (whole : layer.lines.toList = before ++ line :: behind)
    {command : Command} {code : Code} (read : Token.ofLine line = .ok (.command command))
    (known : command.code = .ok code) (moves : code.isMove = true)
    (named : command.hasField 'X' = true) {state : MachineState}
    (reached : layer.entry.follow true policy before = .ok state) (absolute : state.xyzMode = .absolute) :
    ∃ after x, state.step command true policy = .ok after ∧ after.position.x = .absolute x ∧
      x ∈ print.moveXs policy := by
  obtain ⟨_, _, wholly⟩ := recorded_from_of_mem recorded member
  obtain ⟨exit, -, follows⟩ := wholly.exit
  have followed := follows true
  rw [whole, MachineState.follow_append, reached, ok_bind, MachineState.follow_of_command read] at followed
  obtain ⟨after, stepped, -⟩ := bind_eq_ok.mp followed
  obtain ⟨_, same, applied⟩ := bind_eq_ok.mp stepped
  obtain rfl := Except.ok.inj (known.symm.trans same)
  obtain ⟨x, -, isSet⟩ := MachineState.x_of_move absolute named (MachineState.move_of_apply moves applied)
  refine ⟨after, x, stepped, isSet, List.mem_flatMap.mpr ⟨layer, member, ?_⟩⟩
  have reads : state.moveX? command after = some x := by
    rw [MachineState.moveX?, known]
    simp only [moves, absolute, named, isSet, and_self, if_true, AxisValue.number?]
  rw [Layer.moveXs, whole, commands_of_append, MachineState.move_xs_append reached,
    commands_of_command read, MachineState.move_xs_of_command stepped, reads]
  exact List.mem_append_right _ (List.mem_append_left _ (List.mem_singleton_self x))

end PrintParts
