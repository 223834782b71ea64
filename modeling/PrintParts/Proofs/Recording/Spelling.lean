import PrintParts.Proofs.Number.Capital
import PrintParts.Proofs.Recording.Step
import PrintParts.Proofs.Text.ByteLines
import PrintParts.Proofs.Text.Words

/-!
How command lines are spelled. Comments behind commands, the case of ASCII letters, and which blanks stand
between words say nothing: with every command line in its normal spelling, a program is recorded in the same
way but for the wording of the lines that are kept, or is refused for the same reason at the same place.
-/

namespace PrintParts

namespace Text

section

variable {text line : Text}

theorem not_mem_before (separator : Char) (text : Text) : .char separator ∉ text.before separator := by
  induction text with
  | nil => exact List.not_mem_nil
  | cons symbol text induction =>
    by_cases here : symbol = .char separator
    · rw [before, if_pos here]
      exact List.not_mem_nil
    · rw [before, if_neg here]
      exact List.not_mem_cons_of_ne_of_not_mem (Ne.symm here) induction

theorem Separates.word_of_mem {words : List Text} (separates : Separates text words) :
    ∀ word ∈ words, word ≠ [] ∧ (∀ symbol ∈ word, symbol.isSpace = false) ∧
      ∀ symbol ∈ word, symbol ∈ text := by
  induction separates with
  | nil => exact fun _ member => nomatch member
  | blank blank _ induction =>
    intro word member
    obtain ⟨nonempty, solid, inside⟩ := induction word member
    exact ⟨nonempty, solid, fun symbol inWord => List.mem_cons_of_mem _ (inside symbol inWord)⟩
  | word nonempty solid ends _ induction =>
    intro other member
    rcases List.mem_cons.mp member with rfl | later
    · exact ⟨nonempty, solid, fun symbol inWord => List.mem_append_left _ inWord⟩
    · obtain ⟨some, solid, inside⟩ := induction other later
      exact ⟨some, solid, fun symbol inWord => List.mem_append_right _ (inside symbol inWord)⟩

theorem words_before_chomp (line : Text) :
    ((chomp line).before ';').words = (line.before ';').words := by
  have whole : splitWords ((chomp line).before ';') = splitWords (line.before ';') := by
    induction line with
    | nil => rfl
    | cons symbol line induction =>
      by_cases comment : symbol = .char ';'
      · subst comment
        rw [chomp, trim_end_cons (by decide), before, if_pos rfl, before, if_pos rfl]
      · have step : ∀ rest : Text, before ';' (symbol :: rest) = symbol :: before ';' rest :=
          fun rest => if_neg comment
        rw [chomp] at induction ⊢
        cases trimmed : trimEnd isLineEnd line with
        | nil =>
          rw [trimmed] at induction
          rw [trimEnd, trimmed, step, splitWords, ← induction]
          by_cases ends : isLineEnd symbol = true
          · have blank : symbol.isSpace = true := by
              rcases of_decide_eq_true ends with rfl | rfl <;> decide
            simp [ends, blank, before, splitWords]
          · simp [ends, before, comment, splitWords]
        | cons first rest =>
          rw [trimmed] at induction
          simp only [trimEnd, trimmed]
          rw [step, step, splitWords, splitWords, induction]
  rw [words, words, whole]

/-- A line in its normal spelling. Lines that begin as comments are left alone; of others the words in front
of a comment are kept, in capital letters and with single blanks in between. -/
def normalLine (line : Text) : Text :=
  if line.head? = some (.char ';') then line
  else join [.char ' '] ((line.before ';').words.map capitals)

/-- A text whose lines are in their normal spelling, and all ended. -/
def normal (text : Text) : Text := unlines (text.lines.map normalLine)

theorem join_blank (word : Text) (words : List Text) :
    join [.char ' '] (word :: words) = word ++ spaced words := by
  induction words generalizing word with
  | nil => exact (List.append_nil word).symm
  | cons next words induction =>
    rw [join, induction, spaced_cons, List.append_assoc]
    · rfl
    · exact fun same => nomatch same

theorem capital_is_space (symbol : Symbol) : symbol.capital.isSpace = symbol.isSpace := by
  cases symbol with
  | char character =>
    exact @capital_cases (fun capital char => Symbol.isSpace (.char capital) = Symbol.isSpace (.char char))
      (fun _ => rfl) (by decide) character
  | raw byte => rfl
  | half unit => rfl

theorem capital_upper (symbol : Symbol) : symbol.capital.upper = symbol.upper := by
  cases symbol with
  | char character =>
    exact @capital_cases (fun capital char => Symbol.upper (.char capital) = Symbol.upper (.char char))
      (fun _ => rfl) (by decide) character
  | raw byte => rfl
  | half unit => rfl

theorem capital_comments (symbol : Symbol) : symbol.capital = .char ';' ↔ symbol = .char ';' := by
  cases symbol with
  | char character =>
    exact @capital_cases (fun capital char => Symbol.char capital = .char ';' ↔ Symbol.char char = .char ';')
      (fun _ => Iff.rfl) (by decide) character
  | raw byte => exact Iff.rfl
  | half unit => exact Iff.rfl

theorem upper_capitals (text : Text) : text.capitals.upper = text.upper := by
  rw [upper, capitals, List.flatMap_map, upper]
  exact congrArg (List.flatMap · text) (funext capital_upper)

theorem is_word_capitals {word : Text} (isWord : word.IsWord) : word.capitals.IsWord := by
  constructor
  · intro symbol member
    obtain ⟨origin, inWord, rfl⟩ := List.mem_map.mp member
    rw [capital_is_space]
    exact isWord.solid origin inWord
  · intro member
    obtain ⟨origin, inWord, same⟩ := List.mem_map.mp member
    rw [capital_comments] at same
    exact isWord.uncommented (same ▸ inWord)

theorem words_of_command (line : Text) :
    ∀ word ∈ (line.before ';').words.map capitals, word ≠ [] ∧ word.IsWord := by
  intro word member
  obtain ⟨origin, inLine, rfl⟩ := List.mem_map.mp member
  obtain ⟨nonempty, solid, inside⟩ := (separates_words (line.before ';')).word_of_mem origin inLine
  exact ⟨mt List.map_eq_nil_iff.mp nonempty,
    is_word_capitals ⟨solid, fun comment => not_mem_before ';' line (inside _ comment)⟩⟩

theorem words_of_join {list : List Text} (isWord : ∀ word ∈ list, word ≠ [] ∧ word.IsWord) :
    (join [.char ' '] list).words = list := by
  cases list with
  | nil => rfl
  | cons word words =>
    obtain ⟨⟨nonempty, first⟩, others⟩ := List.forall_mem_cons.mp isWord
    have split := @words_of_spaced word [] words nonempty first rfl others
    rwa [List.append_nil, ← join_blank] at split

theorem mem_join {list : List Text} {symbol : Symbol} (member : symbol ∈ join [.char ' '] list) :
    symbol = .char ' ' ∨ ∃ word ∈ list, symbol ∈ word := by
  cases list with
  | nil => cases member
  | cons word words =>
    rw [join_blank] at member
    rcases List.mem_append.mp member with first | later
    · exact .inr ⟨word, List.mem_cons_self, first⟩
    · obtain ⟨other, listed, inOther⟩ := List.mem_flatMap.mp later
      rcases List.mem_cons.mp inOther with blank | inside
      · exact .inl blank
      · exact .inr ⟨other, List.mem_cons_of_mem _ listed, inside⟩

theorem join_free {list : List Text} (isWord : ∀ word ∈ list, word ≠ [] ∧ word.IsWord) :
    ∀ symbol ∈ join [.char ' '] list, symbol ≠ .char ';' ∧ isLineEnd symbol = false := by
  intro symbol member
  rcases mem_join member with rfl | ⟨word, listed, inside⟩
  · decide
  · obtain ⟨-, solid, uncommented⟩ := isWord word listed
    refine ⟨fun comment => uncommented (comment ▸ inside), Bool.eq_false_iff.mpr fun ends => ?_⟩
    have solid := solid symbol inside
    rcases of_decide_eq_true ends with rfl | rfl <;> cases solid

theorem newline_free_of_normal_line (free : .char '\n' ∉ line) : .char '\n' ∉ line.normalLine := by
  unfold normalLine
  split
  · exact free
  · exact fun member => nomatch (join_free (words_of_command line) _ member).2

end

end Text

namespace Field

def capital (field : Field) : Field := { field with text := field.text.capitals }

theorem capital_of_word (word : Text) : ofWord word.capitals = (ofWord word).capital := by
  cases word with
  | nil => rfl
  | cons letter text => exact congrArg (Field.mk · (Text.capitals text)) (Text.capital_upper letter)

end Field

namespace Command

def normal (command : Command) : Command :=
  { command with fields := command.fields.map Field.capital, comment := [] }

theorem of_words_capitals (comment : Text) (words : List Text) :
    ofWords [] (words.map Text.capitals) = (ofWords comment words).normal := by
  cases words with
  | nil => rfl
  | cons mnemonic fields =>
    simp only [List.map_cons, ofWords, normal, List.map_map, Text.upper_capitals, Function.comp_def,
      Field.capital_of_word]

theorem of_normal_line {line : Text} (opens : line.head? ≠ some (.char ';')) :
    ofLine line.normalLine = (ofLine line).normal := by
  have isWord := Text.words_of_command line
  have free : .char ';' ∉ Text.join [.char ' '] ((line.before ';').words.map Text.capitals) :=
    fun member => (Text.join_free isWord _ member).1 rfl
  have uncommented := Text.after_append free []
  rw [List.append_nil] at uncommented
  rw [Text.normalLine, if_neg opens, ofLine, uncommented, Text.before_eq_self free,
    Text.words_of_join isWord]
  exact of_words_capitals _ _

theorem normal_of_chomp (line : Text) : (ofLine line.chomp).normal = (ofLine line).normal := by
  rw [ofLine, ← of_words_capitals, Text.words_before_chomp, ofLine, ← of_words_capitals]

end Command

namespace Token

theorem of_normal_line (line : Text) : line.normalLine = line ∨
    ∃ command, ofLine line = .ok (.command command) ∧
      ofLine line.normalLine = .ok (.command command.normal) := by
  by_cases opens : line.head? = some (.char ';')
  · exact .inl (if_pos opens)
  · have free := Text.join_free (Text.words_of_command line)
    have spelled : line.normalLine = Text.join [.char ' '] ((line.before ';').words.map Text.capitals) :=
      if_neg opens
    rw [← spelled] at free
    have other : line.normalLine.head? ≠ some (.char ';') := fun same =>
      (free _ (List.mem_of_mem_head? same)).1 rfl
    refine .inr ⟨_, of_line_command opens, ?_⟩
    rw [of_line_command other, Text.chomp_line_free fun symbol member => (free symbol member).2,
      Command.of_normal_line opens, Command.normal_of_chomp]

end Token

/-- Faults of one class. -/
def Fault.SameClass (first second : Fault) : Prop := first.faultClass = second.faultClass

theorem Fault.same_class_refl (fault : Fault) : fault.SameClass fault := rfl

/-- Failures that are told in the same way but for their wording: faults of one class at one line number
and in one layer, or the same failure of another kind. -/
def Failure.Alike : Failure → Failure → Prop
  | .fault cause place, .fault other elsewhere =>
    cause.SameClass other ∧ place.lineNumber = elsewhere.lineNumber ∧ place.layer = elsewhere.layer
  | first, second => first = second

theorem Failure.alike_refl (failure : Failure) : failure.Alike failure := by
  cases failure with
  | fault cause place => exact ⟨rfl, rfl, rfl⟩
  | _ => rfl

theorem Failure.Alike.locate {first second : Failure} (alike : first.Alike second) (lineNumber : Int)
    (line other : Text) (layer : Option Int) :
    (first.locate lineNumber line layer).Alike (second.locate lineNumber other layer) := by
  cases first with
  | fault cause place =>
    cases second with
    | fault other elsewhere =>
      obtain ⟨sameClass, number, layers⟩ := alike
      exact ⟨sameClass, by simp [Place.add, number], by simp [Place.add, layers]⟩
    | _ => cases alike
  | _ =>
    cases second with
    | fault other elsewhere => cases alike
    | _ => exact alike

section

variable {inLayer : Bool} {policy : OverridePolicy}

theorem Field.value_capital (field : Field) :
    Agree Fault.SameClass Eq field.capital.value field.value := by
  rw [value, capital, Binary64.of_text_capitals, value]
  cases Binary64.ofText? field.text with
  | none => exact .error rfl
  | some number => exact .ok rfl

theorem Command.target_normal (command : Command) :
    Agree Fault.SameClass Eq command.normal.target command.target := by
  have named : command.normal.field? 'S' = (command.field? 'S').map Field.capital := by
    rw [field?, normal, List.find?_map]
    rfl
  rw [target, named, target]
  cases command.field? 'S' with
  | none => exact .error rfl
  | some field => exact field.value_capital

theorem Command.has_field_normal (command : Command) (letter : Char) :
    command.normal.hasField letter = command.hasField letter := by
  rw [hasField, field?, normal, List.find?_map, Option.isSome_map]
  rfl

namespace MachineState

theorem move_field_capital (state : MachineState) (field : Field) :
    Agree Fault.SameClass Eq (state.moveField field.capital) (state.moveField field) := by
  unfold moveField
  rw [show field.capital.isNamed 'E' = field.isNamed 'E' from rfl,
    show field.capital.letter = field.letter from rfl]
  split
  · split
    · exact .ok rfl
    · exact field.value_capital.map_eq _
  · split
    · exact .ok rfl
    · exact .ok rfl
    · exact field.value_capital.map_eq _

theorem set_position_field_capital (retraction : Binary64) (state : MachineState) (field : Field) :
    Agree Fault.SameClass Eq (setPositionField retraction state field.capital)
      (setPositionField retraction state field) := by
  unfold setPositionField
  rw [show field.capital.isNamed 'E' = field.isNamed 'E' from rfl,
    show field.capital.letter = field.letter from rfl]
  split
  · exact .error rfl
  · split
    · exact field.value_capital.map_eq _
    · exact .ok rfl

theorem apply_normal (state : MachineState) (code : Code) (command : Command) :
    Agree Fault.SameClass Eq (state.apply code command.normal inLayer policy)
      (state.apply code command inLayer policy) := by
  cases code with
  | rapidMove | linearMove =>
    simp only [apply, move, Command.normal, List.foldlM_map]
    refine Agree.fold_m ?_ rfl command.fields
    rintro left _ field rfl
    exact left.move_field_capital field
  | setPosition =>
    simp only [apply, setPosition, Command.normal, List.map_eq_nil_iff, List.foldlM_map]
    split
    · exact .error rfl
    · refine Agree.fold_m ?_ rfl command.fields
      rintro left _ field rfl
      exact set_position_field_capital _ left field
  | setBed | waitBed | setNozzle | waitNozzle | fanOn =>
    exact command.target_normal.map_eq _
  | feedRate | flowRate => exact .refl Fault.same_class_refl Eq.refl _
  | _ => exact .ok rfl

end MachineState

end

namespace Layer

def outline (layer : Layer) : Layer := { layer with lines := layer.lines.map fun _ => [] }

theorem opened_outline (number : Int) (entry : MachineState) :
    (opened number entry).outline = opened number entry := by
  simp [outline, opened]

theorem note_first_move_outline (layer : Layer) (extrudes : Bool) (endpoint : Position) :
    (layer.noteFirstMove extrudes endpoint).outline = layer.outline.noteFirstMove extrudes endpoint := by
  obtain ⟨_, _, _, _, firstMove, _, _⟩ := layer
  cases firstMove <;> rfl

theorem note_ironing_outline (layer : Layer) (after : MachineState) :
    (layer.noteIroning after).outline = layer.outline.noteIroning after := by
  unfold noteIroning
  rw [show layer.outline.canIron = layer.canIron from rfl]
  split_ifs <;> rfl

theorem note_outline (layer : Layer) (code : Code) (command : Command) (after : MachineState) :
    (layer.note code command after).outline = layer.outline.note code command after := by
  unfold note
  split
  · rfl
  · split
    · rw [note_ironing_outline, note_first_move_outline]
    · rfl

theorem note_normal (layer : Layer) (code : Code) (command : Command) (after : MachineState) :
    layer.note code command.normal after = layer.note code command after := by
  rw [note, command.has_field_normal, note]

theorem add_line_outline (layer : Layer) (code : Code) (command : Command) (after : MachineState)
    (line : Text) :
    (layer.addLine code command after line).outline = layer.outline.addLine code command after [] := by
  rw [addLine, addLine, ← note_outline]
  simp [outline]

end Layer

namespace LeastX

def outline (least : LeastX) : LeastX := { least with line := [] }

theorem update_outline (least : Option LeastX) (layer : Int) (code : Code) (command : Command)
    (after : MachineState) (line : Text) :
    (update least layer code command after line).map outline =
      update (least.map outline) layer code command after [] := by
  unfold update
  split
  · cases after.position.x with
    | absolute x =>
      cases least with
      | none => rfl
      | some known =>
        simp only [Option.map_some]
        split <;> simp_all [outline]
    | unknown | relative => rfl
  · rfl

end LeastX

namespace Recorder

variable {policy : OverridePolicy}

def outline (recorder : Recorder) : Recorder :=
  { recorder with
    closed := recorder.closed.map Layer.outline
    current := recorder.current.map Layer.outline
    leastX := recorder.leastX.map LeastX.outline }

theorem close_current_outline (recorder : Recorder) :
    recorder.closeCurrent.outline = recorder.outline.closeCurrent := by
  cases isOpen : recorder.current with
  | none => simp [closeCurrent, outline, isOpen]
  | some layer =>
    simp only [closeCurrent, outline, isOpen, Option.map_some, Option.map_none, Array.map_push]
    rfl

theorem opened_count_outline (recorder : Recorder) :
    recorder.outline.openedCount = recorder.openedCount := by
  simp [openedCount, outline]

theorem open_layer_outline (recorder : Recorder) (index : Nat) :
    (recorder.openLayer index).map outline = recorder.outline.openLayer index := by
  rw [openLayer, openLayer, opened_count_outline, ← close_current_outline]
  split
  · rfl
  · simp [Except.map, outline, Layer.opened_outline]

theorem take_command_outline (recorder : Recorder) (command : Command) (line : Text) :
    (recorder.takeCommand policy command line).map outline =
      recorder.outline.takeCommand policy command [] := by
  unfold takeCommand
  rw [show recorder.outline.current = recorder.current.map Layer.outline from rfl,
    show recorder.outline.machine = recorder.machine from rfl, Option.isSome_map]
  cases command.code with
  | error fault => rfl
  | ok code =>
    simp only [ok_bind]
    cases recorder.machine.apply code command recorder.current.isSome policy with
    | error fault => rfl
    | ok after =>
      simp only [ok_bind]
      cases isOpen : recorder.current with
      | none => simp [Except.map, outline, isOpen]
      | some layer =>
        simp only [Except.map, outline, Option.map_some, Layer.add_line_outline, LeastX.update_outline]
        rfl

theorem take_token_outline (recorder : Recorder) (line : Text) (token : Token) :
    (recorder.takeToken policy line token).map outline = recorder.outline.takeToken policy [] token := by
  cases token with
  | layerHeight value => rfl
  | layerCount count => rfl
  | layerMarker index => exact recorder.open_layer_outline index
  | endMarker =>
    simp only [takeToken, ← close_current_outline]
    rfl
  | command command => exact recorder.take_command_outline command line

theorem take_command_normal (recorder : Recorder) (command : Command) :
    Agree Fault.SameClass Eq (recorder.takeCommand policy command.normal [])
      (recorder.takeCommand policy command []) := by
  have named : command.normal.code = command.code := rfl
  unfold takeCommand
  rw [named]
  refine (Agree.refl Fault.same_class_refl Eq.refl command.code).bind ?_
  rintro code _ rfl
  refine (recorder.machine.apply_normal code command).bind ?_
  rintro after _ rfl
  cases recorder.current with
  | none => exact .ok rfl
  | some layer =>
    refine .ok ?_
    simp only [Layer.addLine, Layer.note_normal, LeastX.update, Command.has_field_normal]

theorem take_token_agree {first second : Recorder} (alike : first.outline = second.outline)
    {token other : Token} (same : other = token ∨
      ∃ command, token = .command command ∧ other = .command command.normal) (line spelled : Text) :
    Agree Fault.SameClass (fun first second => outline first = outline second)
      (first.takeToken policy spelled other) (second.takeToken policy line token) := by
  refine Agree.of_map ?_
  rw [take_token_outline, take_token_outline, alike]
  rcases same with rfl | ⟨command, rfl, rfl⟩
  · exact .refl Fault.same_class_refl Eq.refl _
  · exact second.outline.take_command_normal command

/-- What becomes of a line before a failure is told its place. -/
theorem read_line_agree {first second : Recorder} (alike : first.outline = second.outline) (line : Text) :
    Agree Failure.Alike (fun first second => outline first = outline second)
      (Token.ofLine line.normalLine.chomp >>= fun token =>
        (first.takeToken policy line.normalLine.chomp token).mapError Fault.raise)
      (Token.ofLine line.chomp >>= fun token =>
        (second.takeToken policy line.chomp token).mapError Fault.raise) := by
  have raised : ∀ {token other : Token}, (other = token ∨
      ∃ command, token = .command command ∧ other = .command command.normal) →
      Agree Failure.Alike (fun first second => outline first = outline second)
        ((first.takeToken policy line.normalLine.chomp other).mapError Fault.raise)
        ((second.takeToken policy line.chomp token).mapError Fault.raise) := fun same =>
    (take_token_agree alike same _ _).map_error fun _ _ related => ⟨related, rfl, rfl⟩
  rw [Token.of_line_chomp, Token.of_line_chomp]
  rcases Token.of_normal_line line with same | ⟨command, read, readNormal⟩
  · have tokens : Agree Failure.Alike Eq (Token.ofLine line.normalLine) (Token.ofLine line) := by
      rw [same]
      exact .refl Failure.alike_refl Eq.refl _
    refine tokens.bind ?_
    rintro token _ rfl
    exact raised (.inl rfl)
  · rw [read, readNormal]
    exact raised (.inr ⟨command, rfl, rfl⟩)

theorem layer_number_outline (recorder : Recorder) :
    recorder.outline.current.map (·.number) = recorder.current.map (·.number) := by
  rw [outline, Option.map_map]
  rfl

theorem take_line_agree {first second : Recorder} (alike : first.outline = second.outline) (line : Text) :
    Agree Failure.Alike (fun first second => outline first = outline second)
      (first.takeLine policy line.normalLine.chomp) (second.takeLine policy line.chomp) := by
  have taken := @read_line_agree policy first second alike line
  have counted : first.lineCount = second.lineCount := by
    change first.outline.lineCount = second.outline.lineCount
    rw [alike]
  have layer : first.current.map (·.number) = second.current.map (·.number) := by
    rw [← layer_number_outline, alike, layer_number_outline]
  unfold takeLine
  generalize (Token.ofLine line.normalLine.chomp >>= _) = here at taken
  generalize (Token.ofLine line.chomp >>= _) = there at taken
  cases taken with
  | @ok next other related =>
    refine .ok ?_
    have whole := congrArg (fun recorder : Recorder => { recorder with lineCount := first.lineCount + 1 })
      related
    rw [← counted]
    exact whole
  | error related => exact .error (counted ▸ layer ▸ related.locate _ _ _ _)

end Recorder

namespace Print

/-- A print without the wording of its lines: how many there are in each layer is kept. -/
def outline (print : Print) : Print :=
  { print with
    layers := print.layers.map Layer.outline
    leastX := print.leastX.map LeastX.outline }

theorem finish_outline (recorder : Recorder) :
    recorder.finish.map outline = recorder.outline.finish := by
  simp only [Recorder.finish]
  rw [← recorder.close_current_outline]
  generalize recorder.closeCurrent = closed
  rw [show closed.outline.declaredCount = closed.declaredCount from rfl]
  cases closed.declaredCount with
  | none => rfl
  | some count =>
    have size : closed.outline.closed.size = closed.closed.size := Array.size_map
    simp only [size]
    split
    · rfl
    · rw [show closed.outline.endSeen = closed.endSeen from rfl]
      split <;> rfl

/-- Comments, letter case and blanks of command lines mean nothing. A text and the same text in its normal
spelling are both refused, with faults of one class at the same line number and in the same layer, or both
recorded, with prints that differ in the wording of lines only. -/
theorem recorded_in_any_spelling (policy : OverridePolicy) (text : Text) :
    Agree Failure.Alike (fun print other => print.outline = other.outline)
      (ofText policy text.normal) (ofText policy text) := by
  have spelled : text.normal.lines = text.lines.map Text.normalLine := by
    refine Text.lines_unlines fun line member => ?_
    obtain ⟨origin, listed, rfl⟩ := List.mem_map.mp member
    exact Text.newline_free_of_normal_line (text.newline_free_of_mem_lines origin listed)
  simp only [ofText, ofLines, spelled, List.map_map, List.foldlM_map]
  have recorded := Agree.fold_m (fun left right line (alike : left.outline = right.outline) =>
    @Recorder.take_line_agree policy left right alike line) (Eq.refl Recorder.start.outline) text.lines
  refine recorded.bind fun left right alike => ?_
  have finished : Agree Fault.SameClass (fun print other => outline print = outline other)
      left.finish right.finish := by
    refine Agree.of_map ?_
    rw [finish_outline, finish_outline, alike]
    exact .refl Fault.same_class_refl Eq.refl _
  exact finished.map_error fun _ _ related => ⟨related, rfl, rfl⟩

example : (Text.of "\t g1  x-1e1\u2003yNan;go").normalLine = Text.of "G1 X-1E1 YNAN" := by decide +kernel

end Print

end PrintParts
