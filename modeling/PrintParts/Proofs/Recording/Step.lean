import PrintParts.Print.Recorder
import PrintParts.Proofs.Outcome

/-!
What one line can do to a recording, and the induction over the lines of a program. A property of the
recording may depend on the lines that are still to come: whether a layer may follow the end marker is
known only from them.
-/

namespace PrintParts

theorem Text.trim_end_idempotent (drop : Symbol → Bool) (text : Text) :
    trimEnd drop (trimEnd drop text) = trimEnd drop text := by
  induction text with
  | nil => rfl
  | cons symbol rest induction =>
    cases kept : trimEnd drop rest with
    | nil => by_cases dropped : drop symbol <;> simp [trimEnd, kept, dropped]
    | cons head tail =>
      rw [kept] at induction
      simp only [trimEnd, kept] at induction ⊢
      rw [induction]

theorem Token.of_line_chomp (line : Text) : Token.ofLine line.chomp = Token.ofLine line := by
  have same : Text.chomp (Text.chomp line) = Text.chomp line :=
    Text.trim_end_idempotent Text.isLineEnd line
  unfold Token.ofLine
  rw [same]

namespace Token

theorem not_sole_argument {line : Text} (opens : line.head? ≠ some (.char ';')) {opening : String}
    (comments : (Text.of opening).head? = some (.char ';')) (accepted : Symbol → Bool) :
    line.soleArgument? opening accepted = none := by
  have other : line.dropStart? (Text.of opening) = none := by
    obtain ⟨rest, whole⟩ := List.head?_eq_some_iff.mp comments
    rw [whole]
    cases line with
    | nil => rfl
    | cons first line => exact if_neg fun same => opens (congrArg some same)
  rw [Text.soleArgument?, other]

theorem of_line_command {line : Text} (opens : line.head? ≠ some (.char ';')) :
    ofLine line = .ok (.command (.ofLine line.chomp)) := by
  have chomped : line.chomp.head? ≠ some (.char ';') := by
    cases line with
    | nil => exact opens
    | cons first line =>
      rw [Text.chomp, Text.trimEnd]
      split
      · split
        · decide
        · exact opens
      · exact opens
  have noEnd : line.chomp.isEndMarker = false := by
    unfold Text.isEndMarker
    split
    · rename_i same
      rw [same] at chomped
      exact absurd rfl chomped
    · rfl
  simp only [ofLine, not_sole_argument chomped (show (Text.of ";LAYER:").head? = _ by decide),
    not_sole_argument chomped (show (Text.of ";LAYER_COUNT:").head? = _ by decide),
    not_sole_argument chomped (show (Text.of ";Layer height:").head? = _ by decide), noEnd]
  rfl

end Token

namespace Recorder

/-- The layers of a recording as they would be if the program ended here. -/
def layers (recorder : Recorder) : List Layer := recorder.closeCurrent.closed.toList

theorem layers_of_closed {recorder : Recorder} (closed : recorder.current = none) :
    recorder.layers = recorder.closed.toList := by
  simp [layers, closeCurrent, closed]

theorem layers_of_open {recorder : Recorder} {layer : Layer}
    (isOpen : recorder.current = some layer) :
    recorder.layers = recorder.closed.toList ++ [layer.close recorder.machine] := by
  simp [layers, closeCurrent, isOpen]

theorem close_current_machine (recorder : Recorder) :
    recorder.closeCurrent.machine = recorder.machine := by
  cases isOpen : recorder.current <;> simp [closeCurrent, isOpen]

theorem close_current_current (recorder : Recorder) : recorder.closeCurrent.current = none := by
  cases isOpen : recorder.current <;> simp [closeCurrent, isOpen]

theorem close_current_end_seen (recorder : Recorder) :
    recorder.closeCurrent.endSeen = recorder.endSeen := by
  cases isOpen : recorder.current <;> simp [closeCurrent, isOpen]

theorem close_current_declared (recorder : Recorder) :
    recorder.closeCurrent.declaredCount = recorder.declaredCount := by
  cases isOpen : recorder.current <;> simp [closeCurrent, isOpen]

theorem close_current_least_x (recorder : Recorder) :
    recorder.closeCurrent.leastX = recorder.leastX := by
  cases isOpen : recorder.current <;> simp [closeCurrent, isOpen]

theorem opened_count_eq_length (recorder : Recorder) :
    recorder.openedCount = recorder.layers.length := by
  cases isOpen : recorder.current with
  | none => simp [openedCount, layers_of_closed isOpen, isOpen]
  | some layer => simp [openedCount, layers_of_open isOpen, isOpen]

/-- The recording behind a line that could be taken. -/
inductive Takes (policy : OverridePolicy) (recorder : Recorder) (line : Text) : Recorder → Prop
  | layerHeight (value : Binary64) (read : Token.ofLine line = .ok (.layerHeight value)) :
    Takes policy recorder line
      { recorder with layerHeight := some value, lineCount := recorder.lineCount + 1 }
  | layerCount (count : Nat) (read : Token.ofLine line = .ok (.layerCount count)) :
    Takes policy recorder line
      { recorder with declaredCount := some count, lineCount := recorder.lineCount + 1 }
  | marker (index : Nat) (read : Token.ofLine line = .ok (.layerMarker index))
    (inOrder : index = recorder.openedCount) :
    Takes policy recorder line
      { recorder.closeCurrent with
        current := some (.opened index recorder.machine)
        lineCount := recorder.lineCount + 1 }
  | endMarker (read : Token.ofLine line = .ok .endMarker) :
    Takes policy recorder line
      { recorder.closeCurrent with endSeen := true, lineCount := recorder.lineCount + 1 }
  /-- A command while no layer is open. -/
  | outside (command : Command) (code : Code) (after : MachineState)
    (read : Token.ofLine line = .ok (.command command)) (known : command.code = .ok code)
    (applied : recorder.machine.apply code command false policy = .ok after)
    (closed : recorder.current = none) :
    Takes policy recorder line
      { recorder with
        machine := after, current := none, lineCount := recorder.lineCount + 1 }
  /-- A command that belongs to the open layer. -/
  | inside (command : Command) (code : Code) (after : MachineState) (layer : Layer)
    (read : Token.ofLine line = .ok (.command command)) (known : command.code = .ok code)
    (applied : recorder.machine.apply code command true policy = .ok after)
    (isOpen : recorder.current = some layer) :
    Takes policy recorder line
      { recorder with
        machine := after
        current := some (layer.addLine code command after line)
        leastX := LeastX.update recorder.leastX layer.number code command after line
        lineCount := recorder.lineCount + 1 }

theorem take_line_eq_ok {policy : OverridePolicy} {recorder next : Recorder} {line : Text}
    (taken : recorder.takeLine policy line = .ok next) :
    ∃ token changed, Token.ofLine line = .ok token ∧
      recorder.takeToken policy line token = .ok changed ∧
      next = { changed with lineCount := recorder.lineCount + 1 } := by
  simp only [takeLine] at taken
  split at taken
  · rename_i changed step
    obtain ⟨token, read, step⟩ := bind_eq_ok.mp step
    cases taken
    exact ⟨token, changed, read, map_error_eq_ok.mp step, rfl⟩
  · cases taken

theorem takes_of_take_line {policy : OverridePolicy} {recorder next : Recorder} {line : Text}
    (taken : recorder.takeLine policy line = .ok next) : Takes policy recorder line next := by
  obtain ⟨token, changed, read, step, rfl⟩ := take_line_eq_ok taken
  cases token with
  | layerHeight value =>
    cases step
    exact .layerHeight value read
  | layerCount count =>
    cases step
    exact .layerCount count read
  | layerMarker index =>
    simp only [takeToken, openLayer, ne_eq, ite_not] at step
    split at step
    · rename_i inOrder
      cases step
      exact .marker index read inOrder
    · cases step
  | endMarker =>
    cases step
    exact .endMarker read
  | command command =>
    simp only [takeToken, takeCommand] at step
    obtain ⟨code, known, step⟩ := bind_eq_ok.mp step
    obtain ⟨after, applied, step⟩ := bind_eq_ok.mp step
    cases isOpen : recorder.current with
    | none =>
      simp only [isOpen] at step applied
      cases step
      exact .outside command code after read known applied isOpen
    | some layer =>
      simp only [isOpen] at step applied
      cases step
      exact .inside command code after layer read known applied isOpen

theorem marker_taken {policy : OverridePolicy} {recorder next : Recorder} {line : Text} {index : Nat}
    (taken : recorder.takeLine policy line = .ok next)
    (read : Token.ofLine line = .ok (.layerMarker index)) :
    index = recorder.openedCount ∧ next = { recorder.closeCurrent with
      current := some (.opened index recorder.machine), lineCount := recorder.lineCount + 1 } := by
  obtain ⟨token, changed, here, step, rfl⟩ := take_line_eq_ok taken
  rw [read] at here
  cases here
  simp only [takeToken, openLayer, ne_eq, ite_not] at step
  split at step
  · rename_i inOrder
    cases step
    exact ⟨inOrder, rfl⟩
  · cases step

theorem end_marker_taken {policy : OverridePolicy} {recorder next : Recorder} {line : Text}
    (taken : recorder.takeLine policy line = .ok next) (read : Token.ofLine line = .ok .endMarker) :
    next = { recorder.closeCurrent with endSeen := true, lineCount := recorder.lineCount + 1 } := by
  obtain ⟨token, changed, here, step, rfl⟩ := take_line_eq_ok taken
  rw [read] at here
  cases here
  cases step
  rfl

/-- A property that every line hands on, together with the lines behind it, holds at the end. -/
theorem recording_preserves {policy : OverridePolicy} (invariant : Recorder → List Text → Prop)
    (step : ∀ recorder line rest next, invariant recorder (line :: rest) →
      Takes policy recorder line next → invariant next rest)
    {lines : List Text} {recorder final : Recorder} (start : invariant recorder lines)
    (taken : lines.foldlM (takeLine policy) recorder = .ok final) : invariant final [] :=
  fold_m_preserves invariant (fun recorder line rest next before took =>
    step recorder line rest next before (takes_of_take_line took)) start taken

theorem finish_eq_ok {recorder : Recorder} {print : Print} (done : recorder.finish = .ok print) :
    print.layers.toList = recorder.layers ∧ recorder.endSeen = true := by
  simp only [finish] at done
  split at done
  · cases done
  · split at done
    · cases done
    · split at done
      · rename_i ended
        cases done
        exact ⟨rfl, by simpa [close_current_end_seen] using ended⟩
      · cases done

end Recorder

/-- A recorded print comes from a recording in which every line could be taken. -/
theorem Print.of_lines_eq_ok {policy : OverridePolicy} {lines : List Text} {print : Print}
    (recorded : Print.ofLines policy lines = .ok print) :
    ∃ recorder, (lines.map Text.chomp).foldlM (Recorder.takeLine policy) Recorder.start =
        .ok recorder ∧ print.layers.toList = recorder.layers ∧ recorder.endSeen = true := by
  obtain ⟨recorder, taken, finished⟩ := bind_eq_ok.mp recorded
  exact ⟨recorder, taken, Recorder.finish_eq_ok (map_error_eq_ok.mp finished)⟩

end PrintParts
