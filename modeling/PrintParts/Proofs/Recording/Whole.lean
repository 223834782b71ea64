import PrintParts.Proofs.Recording.Bodies

/-!
A recording is whole: every layer holds the lines of its body in their order, and nothing else, and the
states at its two ends are those that the program leads to. The number of layers is the one that the
program declared last.
-/

namespace PrintParts

/-- A layer as it is when the recording, which has come to a state inside the layer, goes on. -/
structure Layer.Completes (policy : OverridePolicy) (state : MachineState) (rest : List Text)
    (layer final : Layer) : Prop where
  number : final.number = layer.number
  entry : final.entry = layer.entry
  lines : final.lines.toList = layer.lines.toList ++ layerBody id rest
  exit : ∃ exit, final.exit = some exit ∧ state.follow true policy (layerBody id rest) = .ok exit

theorem Layer.follow_add_line {policy : OverridePolicy} {layer : Layer} {state after : MachineState}
    {code : Code} {command : Command} {line : Text}
    (followed : layer.entry.follow true policy layer.lines.toList = .ok state)
    (read : Token.ofLine line = .ok (.command command))
    (stepped : state.step command true policy = .ok after) :
    (layer.addLine code command after line).entry.follow true policy
      (layer.addLine code command after line).lines.toList = .ok after := by
  rw [add_line_entry, add_line_lines, MachineState.follow_append]
  refine bind_eq_ok.mpr ⟨state, followed, ?_⟩
  rw [MachineState.follow_of_command read]
  exact bind_eq_ok.mpr ⟨after, stepped, rfl⟩

namespace Recorder

variable {policy : OverridePolicy}

theorem layers_eq_append (recorder : Recorder) :
    recorder.layers =
      recorder.closed.toList ++ recorder.current.toList.map (·.close recorder.machine) := by
  cases isOpen : recorder.current with
  | none => simp [layers_of_closed isOpen]
  | some layer => simp [layers_of_open isOpen]

/-- The layers behind some more lines: those that were closed, the open one completed, and one for
each marker among the lines. -/
structure GoesOn (policy : OverridePolicy) (recorder : Recorder) (rest : List Text)
    (opened upper : List Layer) : Prop where
  completes : List.Forall₂ (Layer.Completes policy recorder.machine rest) recorder.current.toList
    opened
  bodies : upper.map (fun layer => layer.lines.toList) = layerBodies id rest

theorem closes_of_end {recorder : Recorder} {line : Text} {token : Token} {rest : List Text}
    (read : Token.ofLine line = .ok token) (ends : token.endsLayer = true) :
    List.Forall₂ (Layer.Completes policy recorder.machine (line :: rest)) recorder.current.toList
      (recorder.current.toList.map (·.close recorder.machine)) := by
  rw [List.forall₂_map_right_iff, List.forall₂_same]
  intro layer _
  have empty := layer_body_of_end id read ends rest
  refine ⟨rfl, rfl, ?_, recorder.machine, rfl, ?_⟩
  · rw [empty, List.append_nil]
    rfl
  · rw [empty]
    rfl

theorem goes_on_of_takes {recorder next : Recorder} {line : Text} {rest : List Text}
    {opened upper : List Layer} (takes : Takes policy recorder line next)
    (goesOn : GoesOn policy next rest opened upper) :
    ∃ openedHere upperHere,
      next.closed.toList ++ (opened ++ upper) =
        recorder.closed.toList ++ (openedHere ++ upperHere) ∧
      GoesOn policy recorder (line :: rest) openedHere upperHere := by
  have declared : ∀ token, Token.ofLine line = .ok token → token.isDeclaration = true →
      next.machine = recorder.machine → next.current = recorder.current →
      GoesOn policy recorder (line :: rest) opened upper := by
    intro token read declares machine current
    have body := layer_body_of_declaration id read declares rest
    have bodies : layerBodies id (line :: rest) = layerBodies id rest :=
      layer_bodies_of_other id read (by cases token <;> first | rfl | cases declares) rest
    refine ⟨?_, goesOn.bodies.trans bodies.symm⟩
    rw [← machine, ← current]
    refine goesOn.completes.imp fun layer final completes => ⟨completes.number, completes.entry, ?_, ?_⟩
    · rw [body]
      exact completes.lines
    · rw [body]
      exact completes.exit
  cases takes with
  | layerHeight value read => exact ⟨opened, upper, rfl, declared _ read rfl rfl rfl⟩
  | layerCount count read => exact ⟨opened, upper, rfl, declared _ read rfl rfl rfl⟩
  | marker index read inOrder =>
    refine ⟨_, opened ++ upper, ?_, closes_of_end read rfl, ?_⟩
    · rw [← List.append_assoc recorder.closed.toList, ← layers_eq_append]
      rfl
    · obtain ⟨final, _, completes, none, rfl⟩ := List.forall₂_cons_left_iff.mp goesOn.completes
      rw [List.forall₂_nil_left_iff.mp none, List.cons_append, List.nil_append, List.map_cons,
        completes.lines, goesOn.bodies, layer_bodies_of_marker id read]
      rfl
  | endMarker read =>
    have none : opened = [] := by
      have closed := goesOn.completes
      simp only [close_current_current, Option.toList_none] at closed
      exact List.forall₂_nil_left_iff.mp closed
    refine ⟨_, upper, ?_, closes_of_end read rfl, ?_⟩
    · rw [none, List.nil_append, ← List.append_assoc recorder.closed.toList, ← layers_eq_append]
      rfl
    · exact goesOn.bodies.trans (layer_bodies_of_other id read rfl rest).symm
  | outside command code after read known applied closed =>
    refine ⟨opened, upper, rfl, ?_, ?_⟩
    · rw [closed]
      exact List.forall₂_nil_left_iff.mpr (List.forall₂_nil_left_iff.mp goesOn.completes)
    · exact goesOn.bodies.trans (layer_bodies_of_other id read rfl rest).symm
  | inside command code after layer read known applied isOpen =>
    have body := layer_body_of_command id read rest
    refine ⟨opened, upper, rfl, ?_, ?_⟩
    · obtain ⟨final, _, completes, none, rfl⟩ := List.forall₂_cons_left_iff.mp goesOn.completes
      rw [isOpen, List.forall₂_nil_left_iff.mp none]
      refine .cons ⟨?_, ?_, ?_, ?_⟩ .nil
      · exact completes.number.trans (layer.add_line_number code command after line)
      · exact completes.entry.trans (layer.add_line_entry code command after line)
      · rw [completes.lines, body, layer.add_line_lines, List.append_assoc]
        rfl
      · obtain ⟨exit, exits, followed⟩ := completes.exit
        refine ⟨exit, exits, ?_⟩
        rw [body, MachineState.follow_of_command read]
        exact bind_eq_ok.mpr ⟨after, bind_eq_ok.mpr ⟨code, known, applied⟩, followed⟩
    · exact goesOn.bodies.trans (layer_bodies_of_other id read rfl rest).symm

theorem layers_of_fold {recorder final : Recorder} {rest : List Text}
    (taken : rest.foldlM (takeLine policy) recorder = .ok final) :
    ∃ opened upper, final.layers = recorder.closed.toList ++ (opened ++ upper) ∧
      GoesOn policy recorder rest opened upper := by
  induction rest generalizing recorder with
  | nil =>
    cases taken
    refine ⟨final.current.toList.map (·.close final.machine), [], ?_, ?_, rfl⟩
    · rw [List.append_nil, layers_eq_append]
    · rw [List.forall₂_map_right_iff, List.forall₂_same]
      intro layer _
      exact ⟨rfl, rfl, (List.append_nil _).symm, final.machine, rfl, rfl⟩
  | cons line rest induction =>
    rw [List.foldlM_cons] at taken
    obtain ⟨next, first, remaining⟩ := bind_eq_ok.mp taken
    obtain ⟨opened, upper, layers, goesOn⟩ := induction remaining
    obtain ⟨openedHere, upperHere, same, goesOnHere⟩ :=
      goes_on_of_takes (takes_of_take_line first) goesOn
    exact ⟨openedHere, upperHere, layers.trans same, goesOnHere⟩

/-- The lines of the open layer lead from its entry to where the printer is. -/
def Followed (policy : OverridePolicy) (recorder : Recorder) : Prop :=
  ∀ layer, recorder.current = some layer →
    layer.entry.follow true policy layer.lines.toList = .ok recorder.machine

theorem followed_of_takes {recorder next : Recorder} {line : Text} (followed : Followed policy recorder)
    (takes : Takes policy recorder line next) : Followed policy next := by
  cases takes with
  | layerHeight value read => exact followed
  | layerCount count read => exact followed
  | marker index read inOrder =>
    rintro layer ⟨⟩
    rw [close_current_machine]
    rfl
  | endMarker read =>
    intro layer isOpen
    rw [close_current_current] at isOpen
    cases isOpen
  | outside command code after read known applied closed => exact fun _ isOpen => nomatch isOpen
  | inside command code after layer read known applied isOpen =>
    rintro _ ⟨⟩
    exact layer.follow_add_line (followed layer isOpen) read (bind_eq_ok.mpr ⟨code, known, applied⟩)

/-- The printer goes through every command, whether a layer is open or not. -/
theorem machine_of_fold {recorder final : Recorder} {lines : List Text}
    (taken : lines.foldlM (takeLine policy) recorder = .ok final) :
    recorder.machine.follow false policy lines = .ok final.machine := by
  induction lines generalizing recorder with
  | nil =>
    cases taken
    rfl
  | cons line rest induction =>
    rw [List.foldlM_cons] at taken
    obtain ⟨next, first, remaining⟩ := bind_eq_ok.mp taken
    have later := induction remaining
    cases takes_of_take_line first with
    | layerHeight value read => rwa [MachineState.follow_of_other read rfl]
    | layerCount count read => rwa [MachineState.follow_of_other read rfl]
    | marker index read inOrder =>
      rw [MachineState.follow_of_other read rfl]
      rwa [close_current_machine] at later
    | endMarker read =>
      rw [MachineState.follow_of_other read rfl]
      rwa [close_current_machine] at later
    | outside command code after read known applied closed =>
      rw [MachineState.follow_of_command read]
      exact bind_eq_ok.mpr ⟨after, bind_eq_ok.mpr ⟨code, known, applied⟩, later⟩
    | inside command code after layer read known applied isOpen =>
      have stepped : recorder.machine.step command true policy = .ok after :=
        bind_eq_ok.mpr ⟨code, known, applied⟩
      rw [MachineState.follow_of_command read]
      exact bind_eq_ok.mpr ⟨after, MachineState.step_outside stepped false nofun, later⟩

theorem declared_of_fold {recorder final : Recorder} {lines : List Text}
    (taken : lines.foldlM (takeLine policy) recorder = .ok final) :
    (∀ line ∈ lines, ∃ token, Token.ofLine line = .ok token) ∧
      final.declaredCount = (declaredCounts lines).getLast?.or recorder.declaredCount := by
  induction lines generalizing recorder with
  | nil =>
    cases taken
    exact ⟨(fun _ member => nomatch member), rfl⟩
  | cons line rest induction =>
    rw [List.foldlM_cons] at taken
    obtain ⟨next, first, remaining⟩ := bind_eq_ok.mp taken
    obtain ⟨readable, later⟩ := induction remaining
    have counts : ∀ token, Token.ofLine line = .ok token →
        next.declaredCount = token.layerCount?.or recorder.declaredCount →
        (∀ other ∈ line :: rest, ∃ token, Token.ofLine other = .ok token) ∧
          final.declaredCount = (declaredCounts (line :: rest)).getLast?.or recorder.declaredCount := by
      intro token read declared
      refine ⟨List.forall_mem_cons.mpr ⟨⟨token, read⟩, readable⟩, ?_⟩
      have here : (tokenOf? line).bind Token.layerCount? = token.layerCount? := by
        rw [tokenOf?, read]
        rfl
      rw [later, declared]
      cases found : token.layerCount? with
      | none =>
        rw [found] at here
        simp only [declaredCounts, List.filterMap_cons, here, Option.none_or]
      | some count =>
        rw [found] at here
        simp only [declaredCounts, List.filterMap_cons, here, List.getLast?_cons, Option.some_or]
        generalize List.filterMap (fun line => (tokenOf? line).bind Token.layerCount?) rest = others
        cases others.getLast? <;> rfl
    have close := close_current_declared recorder
    cases takes_of_take_line first with
    | layerHeight value read => exact counts _ read rfl
    | layerCount count read => exact counts _ read rfl
    | marker index read inOrder => exact counts _ read close
    | endMarker read => exact counts _ read close
    | outside command code after read known applied closed => exact counts _ read rfl
    | inside command code after layer read known applied isOpen => exact counts _ read rfl

theorem opened_of_fold {final : Recorder} {lines : List Text}
    (taken : lines.foldlM (takeLine policy) start = .ok final) :
    final.layers.map (fun layer => layer.lines.toList) = layerBodies id lines := by
  obtain ⟨opened, upper, layers, goesOn⟩ := layers_of_fold taken
  have none : opened = [] := List.forall₂_nil_left_iff.mp goesOn.completes
  rw [layers, none, ← goesOn.bodies]
  rfl

theorem layer_of_marker {final : Recorder} {before behind : List Text} {marker : Text} {index : Nat}
    (taken : (before ++ marker :: behind).foldlM (takeLine policy) start = .ok final)
    (read : Token.ofLine marker = .ok (.layerMarker index)) :
    index = (layerBodies id before).length ∧ ∃ state layer,
      MachineState.fresh.follow false policy before = .ok state ∧ final.layers[index]? = some layer ∧
      (Layer.opened index state).Completes policy state behind layer := by
  rw [List.foldlM_append] at taken
  obtain ⟨middle, first, taken⟩ := bind_eq_ok.mp taken
  rw [List.foldlM_cons] at taken
  obtain ⟨next, opens, taken⟩ := bind_eq_ok.mp taken
  have count : middle.layers.length = (layerBodies id before).length := by
    rw [← opened_of_fold first, List.length_map]
  obtain ⟨inOrder, rfl⟩ := marker_taken opens read
  rw [opened_count_eq_length] at inOrder
  obtain ⟨opened, upper, layers, goesOn⟩ := layers_of_fold taken
  obtain ⟨layer, _, completes, none, rfl⟩ := List.forall₂_cons_left_iff.mp goesOn.completes
  refine ⟨inOrder.trans count, middle.machine, layer, machine_of_fold first, ?_, ?_⟩
  · have lower : middle.closeCurrent.closed.toList.length = index := inOrder.symm
    rw [layers, ← lower, List.getElem?_append_right (Nat.le_refl _), Nat.sub_self]
    rfl
  · rw [close_current_machine] at completes
    exact completes

theorem entry_of_fold {final : Recorder} {lines : List Text}
    (taken : lines.foldlM (takeLine policy) start = .ok final) :
    ∀ layer ∈ final.layers, ∃ count,
      MachineState.fresh.follow false policy (lines.take count) = .ok layer.entry := by
  intro layer member
  obtain ⟨index, found⟩ := List.getElem?_of_mem member
  have inside := (List.getElem?_eq_some_iff.mp found).1
  have count : final.layers.length = (layerBodies id lines).length := by
    rw [← opened_of_fold taken, List.length_map]
  obtain ⟨before, marker, behind, whole, marks, below⟩ := exists_marker id (count ▸ inside)
  obtain ⟨token, read⟩ := (declared_of_fold taken).1 marker
    (whole ▸ List.mem_append_right before List.mem_cons_self)
  rw [line_is_eq id read] at marks
  cases token with
  | layerMarker number =>
    rw [whole] at taken
    obtain ⟨same, state, other, entered, isOther, completes⟩ := layer_of_marker taken read
    rw [same, below, found] at isOther
    cases isOther
    refine ⟨before.length, ?_⟩
    rw [whole, List.take_left, completes.entry]
    exact entered
  | _ => cases marks

theorem finish_counts {recorder : Recorder} {print : Print} (done : recorder.finish = .ok print) :
    recorder.declaredCount = some print.layers.size ∧ print.layerCount = print.layers.size := by
  simp only [finish, close_current_declared] at done
  split at done
  · cases done
  · rename_i count declared
    split at done
    · cases done
    · rename_i same
      split at done
      · cases done
        have size := not_not.mp same
        exact ⟨by rw [declared, size], size.symm⟩
      · cases done

end Recorder

/-- What a layer tells of the lines in front of its marker and of those behind it. -/
structure Layer.RecordedFrom (policy : OverridePolicy) (before behind : List Text)
    (layer : Layer) : Prop where
  lines : layer.lines.toList = (layerBody id behind).map Text.chomp
  commands : ∀ line ∈ layer.lines.toList, ∃ command, Token.ofLine line = .ok (.command command)
  entry : MachineState.fresh.follow false policy before = .ok layer.entry
  /-- Inside a layer nothing is let pass that would be refused outside. -/
  exit : ∃ exit, layer.exit = some exit ∧
    ∀ inLayer, layer.entry.follow inLayer policy layer.lines.toList = .ok exit

theorem command_of_layer_body {lines : List Text}
    (readable : ∀ line ∈ lines, ∃ token, Token.ofLine line = .ok token) :
    ∀ line ∈ layerBody id lines, ∃ command, Token.ofLine line = .ok (.command command) := by
  induction lines with
  | nil => exact fun _ member => nomatch member
  | cons line rest induction =>
    obtain ⟨token, read⟩ := readable line List.mem_cons_self
    have later := induction fun other member => readable other (List.mem_cons_of_mem _ member)
    cases token with
    | layerHeight value => rwa [layer_body_of_declaration id read rfl]
    | layerCount count => rwa [layer_body_of_declaration id read rfl]
    | layerMarker index =>
      rw [layer_body_of_end id read rfl]
      exact fun _ member => nomatch member
    | endMarker =>
      rw [layer_body_of_end id read rfl]
      exact fun _ member => nomatch member
    | command command =>
      rw [layer_body_of_command id read]
      exact List.forall_mem_cons.mpr ⟨⟨command, read⟩, later⟩

namespace Print

variable {policy : OverridePolicy} {lines : List Text} {print : Print}

/-- The bodies of all layers, in order. -/
theorem bodies_of_layers (recorded : ofLines policy lines = .ok print) :
    print.layers.toList.map (fun layer => layer.lines.toList) =
      (layerBodies id lines).map (List.map Text.chomp) := by
  obtain ⟨recorder, taken, same, -⟩ := of_lines_eq_ok recorded
  rw [same, Recorder.opened_of_fold taken]
  exact layer_bodies_map id Text.chomp token_of_chomp lines

theorem entry_of_layer (recorded : ofLines policy lines = .ok print) :
    ∀ layer ∈ print.layers.toList, ∃ count,
      MachineState.fresh.follow false policy (lines.take count) = .ok layer.entry := by
  obtain ⟨recorder, taken, same, -⟩ := of_lines_eq_ok recorded
  intro layer member
  obtain ⟨count, entered⟩ := Recorder.entry_of_fold taken layer (same ▸ member)
  rw [← List.map_take, follow_chomp] at entered
  exact ⟨count, entered⟩

/-- Each marker opens the layer of its number, which is recorded from the lines around the marker. -/
theorem recorded_at_marker (recorded : ofLines policy lines = .ok print)
    {before behind : List Text} {marker : Text} {index : Nat}
    (whole : lines = before ++ marker :: behind)
    (read : Token.ofLine marker = .ok (.layerMarker index)) :
    index = (layerBodies id before).length ∧
      ∃ layer, print.layers[index]? = some layer ∧ layer.RecordedFrom policy before behind := by
  obtain ⟨recorder, taken, same, -⟩ := of_lines_eq_ok recorded
  have readable := (Recorder.declared_of_fold taken).1
  subst whole
  rw [List.map_append, List.map_cons] at taken readable
  obtain ⟨number, state, layer, entered, found, completes⟩ :=
    Recorder.layer_of_marker taken ((Token.of_line_chomp marker).trans read)
  have body : layer.lines.toList = layerBody id (behind.map Text.chomp) := completes.lines
  refine ⟨?_, layer, by rw [← Array.getElem?_toList, same, found], ?_⟩
  · rw [number, layer_bodies_map id Text.chomp token_of_chomp, List.length_map]
  · obtain ⟨exit, exits, followed⟩ := completes.exit
    refine ⟨?_, ?_, ?_, exit, exits, ?_⟩
    · rw [body]
      exact layer_body_map id Text.chomp token_of_chomp behind
    · rw [body]
      exact command_of_layer_body fun line member =>
        readable line (List.mem_append_right _ (List.mem_cons_of_mem _ member))
    · rw [completes.entry, ← follow_chomp]
      exact entered
    · intro inLayer
      rw [completes.entry, body]
      exact MachineState.follow_outside followed inLayer fun _ => rfl

/-- Each layer has its marker. -/
theorem exists_marker_of_layer (recorded : ofLines policy lines = .ok print) {index : Nat}
    (inside : index < print.layers.size) :
    ∃ before marker behind, lines = before ++ marker :: behind ∧
      Token.ofLine marker = .ok (.layerMarker index) := by
  obtain ⟨recorder, taken, -, -⟩ := of_lines_eq_ok recorded
  have bodies := congrArg List.length (bodies_of_layers recorded)
  rw [List.length_map, List.length_map, Array.length_toList] at bodies
  obtain ⟨before, marker, behind, whole, marks, count⟩ :=
    exists_marker id (bodies ▸ inside : index < (layerBodies id lines).length)
  refine ⟨before, marker, behind, whole, ?_⟩
  obtain ⟨token, read⟩ := (Recorder.declared_of_fold taken).1 marker.chomp
    (List.mem_map_of_mem (whole ▸ List.mem_append_right before List.mem_cons_self))
  rw [Token.of_line_chomp] at read
  rw [line_is_eq id read] at marks
  cases token with
  | layerMarker number => rw [read, (recorded_at_marker recorded whole read).1, count]
  | _ => cases marks

theorem recorded_from_of_mem (recorded : ofLines policy lines = .ok print) {layer : Layer}
    (member : layer ∈ print.layers.toList) :
    ∃ before behind, layer.RecordedFrom policy before behind := by
  obtain ⟨index, found⟩ := List.getElem?_of_mem member
  have inside := (List.getElem?_eq_some_iff.mp found).1
  rw [Array.length_toList] at inside
  obtain ⟨before, marker, behind, whole, read⟩ := exists_marker_of_layer recorded inside
  obtain ⟨-, other, here, whole⟩ := recorded_at_marker recorded whole read
  rw [← Array.getElem?_toList, found] at here
  cases here
  exact ⟨before, behind, whole⟩

/-- The layers of a recorded print are those of its program: as many as it declared last, each with its
number, its marker, and everything that stands between its marker and its end. -/
theorem recording_is_whole (recorded : ofLines policy lines = .ok print) :
    (declaredCounts lines).getLast? = some print.layers.size ∧
    print.layerCount = print.layers.size ∧ Numbered print.layers.toList ∧
    (∀ index < print.layers.size, ∃ before marker behind, lines = before ++ marker :: behind ∧
      Token.ofLine marker = .ok (.layerMarker index)) ∧
    ∀ before marker behind index, lines = before ++ marker :: behind →
      Token.ofLine marker = .ok (.layerMarker index) →
      ∃ layer, print.layers[index]? = some layer ∧ layer.RecordedFrom policy before behind := by
  obtain ⟨recorder, taken, finished⟩ := bind_eq_ok.mp recorded
  obtain ⟨declared, total⟩ := Recorder.finish_counts (map_error_eq_ok.mp finished)
  have counted := (Recorder.declared_of_fold taken).2
  refine ⟨?_, total, layers_numbered recorded,
    fun index inside => exists_marker_of_layer recorded inside,
    fun before marker behind index whole read => (recorded_at_marker recorded whole read).2⟩
  rw [declared_counts_chomp, Recorder.start, Option.or_none] at counted
  rw [← counted, declared]

end Print

def redeclaredProgram : List Text := [
  Text.of ";LAYER_COUNT:9", Text.of "M104 S210", Text.of "G92 E0",
  Text.of ";LAYER:0", Text.of "G1 X60 E1\r", Text.of ";LAYER_COUNT:2", Text.of "G1 X70 E2",
  Text.of ";-- end code begin --", Text.of "M107",
  Text.of ";LAYER:1", Text.of "G1 X80 E3"]

theorem Print.recording_is_whole_behind_end_marker : ∃ print lower upper,
    ofLines .reject redeclaredProgram = .ok print ∧ print.layers.size = 2 ∧
    print.layers[0]? = some lower ∧ print.layers[1]? = some upper ∧
    lower.RecordedFrom .reject (redeclaredProgram.take 3) (redeclaredProgram.drop 4) ∧
    upper.RecordedFrom .reject (redeclaredProgram.take 9) (redeclaredProgram.drop 10) := by
  have checked : succeedsWith (fun _ => true) (ofLines .reject redeclaredProgram) = true := by
    decide +kernel
  obtain ⟨print, recorded, -⟩ := exists_of_succeeds_with checked
  obtain ⟨declared, -, -, -, layerAt⟩ := recording_is_whole recorded
  have twice : (declaredCounts redeclaredProgram).getLast? = some 2 := by decide +kernel
  obtain ⟨lower, lowerFound, lowerWhole⟩ := layerAt (redeclaredProgram.take 3) (Text.of ";LAYER:0")
    (redeclaredProgram.drop 4) 0 rfl (by decide +kernel)
  obtain ⟨upper, upperFound, upperWhole⟩ := layerAt (redeclaredProgram.take 9) (Text.of ";LAYER:1")
    (redeclaredProgram.drop 10) 1 rfl (by decide +kernel)
  exact ⟨print, lower, upper, recorded, Option.some.inj (declared.symm.trans twice), lowerFound,
    upperFound, lowerWhole, upperWhole⟩

end PrintParts
