import Mathlib.Data.List.Chain
import PrintParts.Proofs.Recording.Step

/-!
The layers of a recorded print. They are numbered from zero in the order of the program, every point
of a trace is known, and each layer begins in the state in which the one below it ended, provided that
no layer is opened behind the end marker.
-/

namespace PrintParts

namespace Layer

theorem note_number (layer : Layer) (code : Code) (command : Command) (after : MachineState) :
    (layer.note code command after).number = layer.number := by
  unfold note noteIroning noteFirstMove
  split_ifs <;> (try split) <;> rfl

theorem note_entry (layer : Layer) (code : Code) (command : Command) (after : MachineState) :
    (layer.note code command after).entry = layer.entry := by
  unfold note noteIroning noteFirstMove
  split_ifs <;> (try split) <;> rfl

theorem add_line_number (layer : Layer) (code : Code) (command : Command) (after : MachineState)
    (line : Text) : (layer.addLine code command after line).number = layer.number :=
  note_number layer code command after

theorem add_line_entry (layer : Layer) (code : Code) (command : Command) (after : MachineState)
    (line : Text) : (layer.addLine code command after line).entry = layer.entry :=
  note_entry layer code command after

theorem note_lines (layer : Layer) (code : Code) (command : Command) (after : MachineState) :
    (layer.note code command after).lines = layer.lines := by
  unfold note noteIroning noteFirstMove
  split_ifs <;> (try split) <;> rfl

theorem add_line_lines (layer : Layer) (code : Code) (command : Command) (after : MachineState)
    (line : Text) :
    (layer.addLine code command after line).lines.toList = layer.lines.toList ++ [line] := by
  rw [← layer.note_lines code command after]
  exact Array.toList_push

def TraceKnown (layer : Layer) : Prop := ∀ point ∈ layer.ironingPath.toList, point.isAbsolute = true

theorem note_first_move_path (layer : Layer) (extrudes : Bool) (endpoint : Position) :
    (layer.noteFirstMove extrudes endpoint).ironingPath = layer.ironingPath := by
  unfold noteFirstMove
  split <;> rfl

theorem note_ironing_trace_known {layer : Layer} (known : layer.TraceKnown) (after : MachineState) :
    (layer.noteIroning after).TraceKnown := by
  unfold noteIroning
  split
  · exact known
  · split
    · split
      · rename_i absolute
        intro point member
        simp only [Array.toList_push, List.mem_append, List.mem_singleton] at member
        rcases member with earlier | rfl
        · exact known point earlier
        · exact absolute
      · exact known
    · exact known

theorem add_line_trace_known {layer : Layer} (known : layer.TraceKnown) (code : Code)
    (command : Command) (after : MachineState) (line : Text) :
    (layer.addLine code command after line).TraceKnown := by
  have noted : (layer.note code command after).TraceKnown := by
    unfold note
    split
    · exact known
    · split
      · apply note_ironing_trace_known
        unfold TraceKnown
        rw [note_first_move_path]
        exact known
      · exact known
  exact noted

/-- Whether one layer begins where the other one ended. -/
def Continues (below above : Layer) : Prop := below.exit = some above.entry

end Layer

namespace Recorder

theorem layers_congr {left right : Recorder} (closed : left.closed = right.closed)
    (current : left.current = right.current) (machine : left.machine = right.machine) :
    left.layers = right.layers := by
  cases isOpen : right.current with
  | none => rw [layers_of_closed isOpen, layers_of_closed (current.trans isOpen), closed]
  | some layer =>
    rw [layers_of_open isOpen, layers_of_open (current.trans isOpen), closed, machine]

/-- What a line does to the layers: nothing, or it opens one more, or it adds to the last one. -/
theorem layers_of_takes {policy : OverridePolicy} {recorder next : Recorder} {line : Text}
    (takes : Takes policy recorder line next) :
    next.layers = recorder.layers ∨
    next.layers = recorder.layers ++
      [(Layer.opened recorder.layers.length recorder.machine).close recorder.machine] ∨
    ∃ (below : List Layer) (layer : Layer) (code : Code) (command : Command) (after : MachineState),
      recorder.layers = below ++ [layer.close recorder.machine] ∧
      next.layers = below ++ [(layer.addLine code command after line).close after] := by
  cases takes with
  | layerHeight value read => exact .inl (layers_congr rfl rfl rfl)
  | layerCount count read => exact .inl (layers_congr rfl rfl rfl)
  | marker index read inOrder =>
    refine .inr (.inl ?_)
    rw [layers_of_open rfl, inOrder, opened_count_eq_length, close_current_machine]
    rfl
  | endMarker read => exact .inl (layers_of_closed (close_current_current recorder))
  | outside command code after read known applied closed =>
    exact .inl (by rw [layers_of_closed rfl, layers_of_closed closed])
  | inside command code after layer read known applied isOpen =>
    exact .inr (.inr ⟨recorder.closed.toList, layer, code, command, after,
      layers_of_open isOpen, layers_of_open rfl⟩)

end Recorder

def Numbered (layers : List Layer) : Prop :=
  ∀ (index : Nat) (layer : Layer), layers[index]? = some layer → layer.number = index

theorem numbered_append_one {layers : List Layer} {layer : Layer} (numbered : Numbered layers)
    (next : layer.number = layers.length) : Numbered (layers ++ [layer]) := by
  intro index other found
  rcases Nat.lt_trichotomy index layers.length with inside | rfl | outside
  · rw [List.getElem?_append_left inside] at found
    exact numbered index other found
  · simp only [List.getElem?_concat_length, Option.some.injEq] at found
    rw [← found]
    exact next
  · rw [List.getElem?_append_right (by omega)] at found
    simp [show index - layers.length ≠ 0 by omega] at found

theorem numbered_of_append {layers : List Layer} {layer : Layer}
    (numbered : Numbered (layers ++ [layer])) :
    Numbered layers ∧ layer.number = layers.length := by
  constructor
  · intro index other found
    have inside := (List.getElem?_eq_some_iff.mp found).1
    exact numbered index other (by rw [List.getElem?_append_left inside, found])
  · exact numbered layers.length layer (by simp)

/-- A program that opens no layer behind its end marker. -/
def NoLayerBehindEnd (lines : List Text) : Prop :=
  lines.Pairwise fun earlier later => Token.ofLine earlier = .ok .endMarker →
    ∀ index, Token.ofLine later ≠ .ok (.layerMarker index)

instance (line : Text) : Decidable (∀ index, Token.ofLine line ≠ .ok (.layerMarker index)) :=
  match Token.ofLine line with
  | .ok (.layerMarker index) => isFalse fun all => all index rfl
  | .ok (.layerHeight _) | .ok (.layerCount _) | .ok .endMarker | .ok (.command _) | .error _ =>
    isTrue fun _ same => nomatch same

instance (lines : List Text) : Decidable (NoLayerBehindEnd lines) :=
  inferInstanceAs (Decidable (lines.Pairwise _))

namespace Recorder

theorem numbered_of_takes {policy : OverridePolicy} {recorder next : Recorder} {line : Text}
    (numbered : Numbered recorder.layers) (takes : Takes policy recorder line next) :
    Numbered next.layers := by
  rcases layers_of_takes takes with same | opened | ⟨below, layer, code, command, after, old, new⟩
  · rw [same]
    exact numbered
  · rw [opened]
    exact numbered_append_one numbered rfl
  · rw [old] at numbered
    obtain ⟨lower, number⟩ := numbered_of_append numbered
    rw [new]
    exact numbered_append_one lower ((layer.add_line_number code command after line).trans number)

theorem traces_known_of_takes {policy : OverridePolicy} {recorder next : Recorder} {line : Text}
    (known : ∀ layer ∈ recorder.layers, layer.TraceKnown)
    (takes : Takes policy recorder line next) : ∀ layer ∈ next.layers, layer.TraceKnown := by
  rcases layers_of_takes takes with same | opened | ⟨below, layer, code, command, after, old, new⟩
  · rw [same]
    exact known
  · rw [opened]
    intro layer member
    rcases List.mem_append.mp member with earlier | last
    · exact known layer earlier
    · rw [List.mem_singleton.mp last]
      intro point inTrace
      simp [Layer.opened, Layer.close] at inTrace
  · rw [old] at known
    rw [new]
    intro other member
    rcases List.mem_append.mp member with earlier | last
    · exact known other (List.mem_append_left _ earlier)
    · rw [List.mem_singleton.mp last]
      have closed := known (layer.close recorder.machine) (by simp)
      have before : layer.TraceKnown := closed
      exact Layer.add_line_trace_known before code command after line

/-- Each layer begins where the one below ended, and unless the end has been seen there is an open
layer as soon as there is any. The lines to come hold no layer that would break this. -/
structure Unbroken (recorder : Recorder) (rest : List Text) : Prop where
  continues : recorder.layers.IsChain Layer.Continues
  isOpen : recorder.endSeen = false → recorder.current = none → recorder.layers = []
  ended : recorder.endSeen = true →
    ∀ line ∈ rest, ∀ index, Token.ofLine line ≠ .ok (.layerMarker index)
  orderly : NoLayerBehindEnd rest

theorem exit_of_last {recorder : Recorder} {rest : List Text} (unbroken : Unbroken recorder rest)
    (running : recorder.endSeen = false) {last : Layer} (isLast : last ∈ recorder.layers.getLast?) :
    last.exit = some recorder.machine := by
  cases isOpen : recorder.current with
  | none =>
    rw [unbroken.isOpen running isOpen] at isLast
    simp at isLast
  | some layer =>
    rw [layers_of_open isOpen, List.getLast?_concat] at isLast
    cases isLast
    rfl

theorem unbroken_of_takes {policy : OverridePolicy} {recorder next : Recorder} {line : Text}
    {rest : List Text} (unbroken : Unbroken recorder (line :: rest))
    (takes : Takes policy recorder line next) : Unbroken next rest := by
  have orderly := (List.pairwise_cons.mp unbroken.orderly).2
  have ended : recorder.endSeen = true →
      ∀ other ∈ rest, ∀ index, Token.ofLine other ≠ .ok (.layerMarker index) :=
    fun seen other member => unbroken.ended seen other (List.mem_cons_of_mem _ member)
  have unchanged : ∀ other : Recorder, other.layers = recorder.layers →
      other.current = recorder.current → other.endSeen = recorder.endSeen →
      Unbroken other rest := by
    intro other layers current seen
    refine ⟨layers ▸ unbroken.continues, ?_, fun later => ended (seen ▸ later), orderly⟩
    intro running closed
    rw [layers]
    exact unbroken.isOpen (seen ▸ running) (current ▸ closed)
  cases takes with
  | layerHeight value read => exact unchanged _ (layers_congr rfl rfl rfl) rfl rfl
  | layerCount count read => exact unchanged _ (layers_congr rfl rfl rfl) rfl rfl
  | marker index read inOrder =>
    -- No marker comes behind the end, so the layer below is still open and ends here.
    have running : recorder.endSeen = false := by
      by_contra seen
      exact unbroken.ended (by simpa using seen) line List.mem_cons_self index read
    refine ⟨?_, fun _ closed => by simp at closed, ?_, orderly⟩
    · rw [layers_of_open rfl, close_current_machine]
      apply List.IsChain.append unbroken.continues (List.IsChain.singleton _)
      intro last isLast first isFirst
      cases isFirst
      exact exit_of_last unbroken running isLast
    · intro seen
      simp only [close_current_end_seen, running, Bool.false_eq_true] at seen
  | endMarker read =>
    refine ⟨?_, fun running => by simp at running, ?_, orderly⟩
    · have same : Recorder.layers { recorder.closeCurrent with
          endSeen := true, lineCount := recorder.lineCount + 1 } = recorder.layers :=
        layers_of_closed (close_current_current recorder)
      rw [same]
      exact unbroken.continues
    · intro _ other member
      exact (List.pairwise_cons.mp unbroken.orderly).1 other member read
  | outside command code after read known applied closed =>
    refine unchanged _ ?_ closed.symm rfl
    rw [layers_of_closed rfl, layers_of_closed closed]
  | inside command code after layer read known applied isOpen =>
    refine ⟨?_, fun _ closed => by simp at closed, ended, orderly⟩
    have continues := unbroken.continues
    rw [layers_of_open isOpen] at continues
    rw [layers_of_open rfl]
    obtain ⟨lower, -, joined⟩ := List.isChain_append.mp continues
    apply List.IsChain.append lower (List.IsChain.singleton _)
    intro last isLast first isFirst
    cases isFirst
    have before : last.exit = some layer.entry :=
      joined last isLast (layer.close recorder.machine) (by simp)
    exact before.trans (congrArg some (layer.add_line_entry code command after line).symm)

end Recorder

namespace Print

variable {policy : OverridePolicy} {lines : List Text} {print : Print}

theorem layers_numbered (recorded : ofLines policy lines = .ok print) :
    Numbered print.layers.toList := by
  obtain ⟨recorder, taken, same, -⟩ := of_lines_eq_ok recorded
  have start : Numbered Recorder.start.layers := by
    intro index layer found
    simp [Recorder.layers, Recorder.start, Recorder.closeCurrent] at found
  rw [same]
  exact Recorder.recording_preserves (fun recorder _ => Numbered recorder.layers)
    (fun _ _ _ _ numbered takes => Recorder.numbered_of_takes numbered takes) start taken

theorem traces_known (recorded : ofLines policy lines = .ok print) :
    ∀ layer ∈ print.layers.toList, layer.TraceKnown := by
  obtain ⟨recorder, taken, same, -⟩ := of_lines_eq_ok recorded
  have start : ∀ layer ∈ Recorder.start.layers, layer.TraceKnown := by
    intro layer member
    simp [Recorder.layers, Recorder.start, Recorder.closeCurrent] at member
  rw [same]
  exact Recorder.recording_preserves
    (fun recorder _ => ∀ layer ∈ recorder.layers, layer.TraceKnown)
    (fun _ _ _ _ known takes => Recorder.traces_known_of_takes known takes) start taken

/-- Each layer begins in the state in which the one below it ended. -/
theorem layers_continue (recorded : ofLines policy lines = .ok print)
    (orderly : NoLayerBehindEnd lines) : print.layers.toList.IsChain Layer.Continues := by
  obtain ⟨recorder, taken, same, -⟩ := of_lines_eq_ok recorded
  have chomped : NoLayerBehindEnd (lines.map Text.chomp) := by
    simp only [NoLayerBehindEnd, List.pairwise_map, Token.of_line_chomp]
    exact orderly
  have start : Recorder.Unbroken Recorder.start (lines.map Text.chomp) :=
    ⟨List.IsChain.nil, fun _ _ => rfl, fun seen => (nomatch seen), chomped⟩
  rw [same]
  exact (Recorder.recording_preserves Recorder.Unbroken
    (fun _ _ _ _ unbroken takes => Recorder.unbroken_of_takes unbroken takes) start taken).continues

end Print

end PrintParts
