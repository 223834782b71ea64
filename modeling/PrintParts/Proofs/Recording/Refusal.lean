import Mathlib.Data.List.Induction
import PrintParts.Proofs.Number.Reading
import PrintParts.Proofs.Recording.Bodies

/-!
Which programs are recorded, and what the others fail with. Whether a line is refused depends on the lines
in front of it only: they tell the state of the printer, the number of layers opened so far and the layer
that is open. The first refused line is the failure of the whole program, whatever follows it. A program
without such a line fails at its end, or not at all.
-/

namespace PrintParts

namespace Token

def markerIndex? : Token → Option Nat
  | .layerMarker index => some index
  | _ => none

def isEndMarker : Token → Bool
  | .endMarker => true
  | _ => false

end Token

/-- How many layers the markers among some lines open. -/
def openedBy (lines : List Text) : Nat := lines.countP (lineIs id Token.isMarker)

/-- The number of the layer that is open behind some lines: that of the last marker, unless an end
marker stands behind it. -/
def openBehind? (lines : List Text) : Option Nat :=
  ((lines.filterMap tokenOf?).filter Token.endsLayer).getLast?.bind Token.markerIndex?

/-- Why a line is refused behind lines that could be taken, if it is. The state of the printer is the
one that all commands in front of the line lead to; a command that passes inside a layer has the same
effect outside. -/
def refusal? (policy : OverridePolicy) (before : List Text) (line : Text) : Option Fault :=
  match Token.ofLine line with
  | .error (.fault (.malformedLayerHeight number) _) => some (.malformedLayerHeight number)
  | .ok (.layerMarker index) =>
    if index = openedBy before then none else some (.layerOutOfOrder (openedBy before) index)
  | .ok (.command command) =>
    match MachineState.fresh.follow false policy before with
    | .ok state => failureOf? (state.step command (openBehind? before).isSome policy)
    | .error _ => none
  | _ => none

/-- None of the lines fails a check behind the lines in front of it. -/
def NoneFails (check? : List Text → Text → Option Fault) (lines : List Text) : Prop :=
  ∀ index (inside : index < lines.length), check? (lines.take index) lines[index] = none

instance (check? : List Text → Text → Option Fault) (lines : List Text) :
    Decidable (NoneFails check? lines) :=
  Nat.decidableBallLT lines.length fun index inside => check? (lines.take index) lines[index] = none

def NoneRefused (policy : OverridePolicy) : List Text → Prop := NoneFails (refusal? policy)

instance (policy : OverridePolicy) (lines : List Text) : Decidable (NoneRefused policy lines) :=
  inferInstanceAs (Decidable (NoneFails (refusal? policy) lines))

/-- What a program whose lines could all be taken is still refused for. -/
def incompleteness? (lines : List Text) : Option Fault :=
  match (declaredCounts lines).getLast? with
  | none => some .layerCountMissing
  | some count =>
    if openedBy lines ≠ count then some (.layerCountMismatch count (openedBy lines))
    else if lines.any (lineIs id Token.isEndMarker) then none
    else some .endCodeMissing

/-- The numbers of the markers and declarations in a line have no more digits than an integer text may
have. -/
def NumeralsAccepted (line : Text) : Prop :=
  ∀ opening ∈ [";LAYER:", ";LAYER_COUNT:"],
    ∀ digits ∈ line.chomp.soleArgument? opening Symbol.isAsciiDigit,
      digits.length ≤ integerDigitLimit

instance (line : Text) : Decidable (NumeralsAccepted line) :=
  inferInstanceAs (Decidable (∀ opening ∈ [";LAYER:", ";LAYER_COUNT:"], _))

/-! Reading a line. -/

theorem sole_argument_eq_some {opening : String} {accepted : Symbol → Bool} {line run : Text}
    (found : line.soleArgument? opening accepted = some run) :
    run ≠ [] ∧ ∀ symbol ∈ run, accepted symbol = true := by
  unfold Text.soleArgument? at found
  split at found
  · cases found
  · simp only [Option.ite_none_right_eq_some, Option.some.injEq] at found
    obtain ⟨⟨nonempty, -⟩, rfl⟩ := found
    exact ⟨nonempty, fun symbol => List.mem_takeWhile_imp⟩

theorem chars_of_digits {digits : Text}
    (ascii : ∀ symbol ∈ digits, symbol.isAsciiDigit = true) :
    ∃ chars, digits = Text.ofChars chars ∧ ∀ char ∈ chars, char.isDigit = true := by
  induction digits with
  | nil => exact ⟨[], rfl, fun _ member => nomatch member⟩
  | cons symbol rest induction =>
    obtain ⟨chars, rfl, later⟩ :=
      induction fun other member => ascii other (List.mem_cons_of_mem _ member)
    have first := ascii symbol List.mem_cons_self
    cases symbol with
    | char digit => exact ⟨digit :: chars, rfl, List.forall_mem_cons.mpr ⟨first, later⟩⟩
    | raw byte => cases first
    | half unit => cases first

theorem read_marker_number_of_digits {opening : String} {line digits : Text}
    (found : line.soleArgument? opening Symbol.isAsciiDigit = some digits)
    (short : digits.length ≤ integerDigitLimit) :
    ∃ number, readMarkerNumber digits = .ok number := by
  obtain ⟨nonempty, ascii⟩ := sole_argument_eq_some found
  obtain ⟨chars, rfl, run⟩ := chars_of_digits ascii
  rw [Text.ofChars, List.length_map] at short
  have value := read_integer_of_digits run (fun empty => nonempty (congrArg Text.ofChars empty)) short
  exact ⟨_, by rw [readMarkerNumber, value]⟩

/-- A line with numerals of an accepted length can always be read, unless it declares a height of the
layers that is no number. -/
theorem Token.of_line_error {line : Text} {failure : Failure} (accepted : NumeralsAccepted line)
    (failed : Token.ofLine line = .error failure) :
    ∃ number, failure = (Fault.malformedLayerHeight number).raise := by
  have marker : ∀ opening ∈ [";LAYER:", ";LAYER_COUNT:"], ∀ digits make,
      line.chomp.soleArgument? opening Symbol.isAsciiDigit = some digits →
      (readMarkerNumber digits).map make ≠ (.error failure : Except Failure Token) := by
    intro opening listed digits make found
    obtain ⟨number, read⟩ := read_marker_number_of_digits found (accepted opening listed digits found)
    rw [read]
    exact nofun
  simp only [Token.ofLine] at failed
  split at failed
  · rename_i digits found
    exact absurd failed (marker _ (by simp) digits _ found)
  · split at failed
    · rename_i digits found
      exact absurd failed (marker _ (by simp) digits _ found)
    · split at failed
      · split at failed
        · cases failed
        · cases failed
          exact ⟨_, rfl⟩
      · split at failed <;> cases failed

/-! What one more line adds to what the lines in front of it tell. -/

section

variable {before : List Text} {line : Text} {token : Token}

theorem opened_by_append (read : Token.ofLine line = .ok token) :
    openedBy (before ++ [line]) = openedBy before + if token.isMarker then 1 else 0 := by
  rw [openedBy, List.countP_append, List.countP_singleton, line_is_eq id read]
  rfl

theorem open_behind_append (read : Token.ofLine line = .ok token) :
    openBehind? (before ++ [line]) =
      if token.endsLayer then token.markerIndex? else openBehind? before := by
  have last : [line].filterMap tokenOf? = [token] := by
    rw [List.filterMap_cons, token_of_eq_some.mpr read]
    rfl
  rw [openBehind?, List.filterMap_append, last, List.filter_append]
  by_cases ends : token.endsLayer
  · rw [if_pos ends, List.filter_cons_of_pos ends, List.filter_nil, List.getLast?_concat]
    rfl
  · rw [if_neg ends, List.filter_cons_of_neg ends, List.filter_nil, List.append_nil]
    rfl

theorem declared_counts_append (read : Token.ofLine line = .ok token) :
    (declaredCounts (before ++ [line])).getLast? =
      token.layerCount?.or (declaredCounts before).getLast? := by
  have last : declaredCounts [line] = token.layerCount?.toList := by
    rw [declaredCounts, List.filterMap_cons, token_of_eq_some.mpr read, Option.bind_some]
    cases token.layerCount? <;> rfl
  rw [declaredCounts, List.filterMap_append]
  change (declaredCounts before ++ declaredCounts [line]).getLast? = _
  rw [last]
  cases token.layerCount? with
  | none => simp
  | some count => simp

theorem end_marker_append (read : Token.ofLine line = .ok token) :
    (before ++ [line]).any (lineIs id Token.isEndMarker) =
      (before.any (lineIs id Token.isEndMarker) || token.isEndMarker) := by
  rw [List.any_append, List.any_cons, List.any_nil, Bool.or_false, line_is_eq id read]

theorem none_fails_append {check? : List Text → Text → Option Fault} :
    NoneFails check? (before ++ [line]) ↔ NoneFails check? before ∧ check? before line = none := by
  constructor
  · intro clean
    constructor
    · intro index inside
      have taken := clean index (by rw [List.length_append]; omega)
      rwa [List.take_append_of_le_length inside.le, List.getElem_append_left inside] at taken
    · have taken := clean before.length (by simp)
      rwa [List.take_left, List.getElem_concat_length rfl] at taken
  · rintro ⟨earlier, last⟩ index inside
    rw [List.length_append, List.length_singleton] at inside
    rcases Nat.lt_succ_iff_lt_or_eq.mp inside with inBefore | rfl
    · rw [List.take_append_of_le_length inBefore.le, List.getElem_append_left inBefore]
      exact earlier index inBefore
    · rw [List.take_left, List.getElem_concat_length rfl]
      exact last

theorem none_fails_or_first (check? : List Text → Text → Option Fault) (lines : List Text) :
    NoneFails check? lines ∨ ∃ before line behind fault, lines = before ++ line :: behind ∧
      NoneFails check? before ∧ check? before line = some fault := by
  induction lines using List.reverseRecOn with
  | nil => exact .inl fun _ inside => nomatch inside
  | append_singleton earlier last induction =>
    rcases induction with clean | ⟨before, line, behind, fault, rfl, clean, fails⟩
    · cases fails : check? earlier last with
      | none => exact .inl (none_fails_append.mpr ⟨clean, fails⟩)
      | some fault => exact .inr ⟨earlier, last, [], fault, rfl, clean, fails⟩
    · refine .inr ⟨before, line, behind ++ [last], fault, ?_, clean, fails⟩
      rw [List.append_assoc, List.cons_append]

end

namespace Recorder

variable {policy : OverridePolicy} {before : List Text} {recorder next : Recorder} {line : Text}

/-- A recording that has come to the end of some lines holds what they tell. -/
structure Stands (policy : OverridePolicy) (before : List Text) (recorder : Recorder) : Prop where
  machine : MachineState.fresh.follow false policy before = .ok recorder.machine
  opened : recorder.openedCount = openedBy before
  layer : recorder.current.map (·.number) = (openBehind? before).map Int.ofNat
  declared : recorder.declaredCount = (declaredCounts before).getLast?
  ended : recorder.endSeen = before.any (lineIs id Token.isEndMarker)
  count : recorder.lineCount = before.length

theorem start_stands (policy : OverridePolicy) : start.Stands policy [] :=
  ⟨rfl, rfl, rfl, rfl, rfl, rfl⟩

theorem is_open_eq (stands : recorder.Stands policy before) :
    recorder.current.isSome = (openBehind? before).isSome := by
  have same := congrArg Option.isSome stands.layer
  rwa [Option.isSome_map, Option.isSome_map] at same

theorem opened_count_close_current (recorder : Recorder) :
    recorder.closeCurrent.closed.size = recorder.openedCount := by
  rw [opened_count_eq_length, layers, Array.length_toList]

theorem stands_of_token {token : Token} (stands : recorder.Stands policy before)
    (read : Token.ofLine line = .ok token)
    (followed : MachineState.fresh.follow false policy (before ++ [line]) = .ok next.machine)
    (opened : next.openedCount = recorder.openedCount + if token.isMarker then 1 else 0)
    (layer : next.current.map (·.number) =
      if token.endsLayer then token.markerIndex?.map Int.ofNat else recorder.current.map (·.number))
    (declared : next.declaredCount = token.layerCount?.or recorder.declaredCount)
    (ended : next.endSeen = (recorder.endSeen || token.isEndMarker))
    (count : next.lineCount = recorder.lineCount + 1) : next.Stands policy (before ++ [line]) := by
  refine ⟨followed, ?_, ?_, ?_, ?_, ?_⟩
  · rw [opened, stands.opened, opened_by_append read]
  · rw [layer, stands.layer, open_behind_append read, apply_ite (Option.map Int.ofNat)]
  · rw [declared, stands.declared, declared_counts_append read]
  · rw [ended, stands.ended, end_marker_append read]
  · rw [count, stands.count, List.length_append, List.length_singleton]

theorem stands_of_takes (stands : recorder.Stands policy before)
    (takes : Takes policy recorder line.chomp next) : next.Stands policy (before ++ [line]) := by
  have unmoved : ∀ token, Token.ofLine line = .ok token → token.command? = none →
      MachineState.fresh.follow false policy (before ++ [line]) = .ok recorder.machine := by
    intro token read other
    rw [MachineState.follow_append, stands.machine, ok_bind, MachineState.follow_of_other read other]
    rfl
  have moved : ∀ command after, Token.ofLine line = .ok (.command command) →
      recorder.machine.step command false policy = .ok after →
      MachineState.fresh.follow false policy (before ++ [line]) = .ok after := by
    intro command after read stepped
    rw [MachineState.follow_append, stands.machine, ok_bind, MachineState.follow_of_command read,
      stepped, ok_bind]
    rfl
  have sameEnd : recorder.endSeen = (recorder.endSeen || false) := (Bool.or_false _).symm
  cases takes with
  | layerHeight value read =>
    rw [Token.of_line_chomp] at read
    exact stands_of_token stands read (unmoved _ read rfl) rfl rfl rfl sameEnd rfl
  | layerCount count read =>
    rw [Token.of_line_chomp] at read
    exact stands_of_token stands read (unmoved _ read rfl) rfl rfl rfl sameEnd rfl
  | marker index read inOrder =>
    rw [Token.of_line_chomp] at read
    refine stands_of_token stands read ?_ ?_ rfl ?_ ?_ rfl
    · rw [unmoved _ read rfl, ← close_current_machine]
    · exact congrArg (· + 1) (opened_count_close_current recorder)
    · exact close_current_declared recorder
    · exact (close_current_end_seen recorder).trans sameEnd
  | endMarker read =>
    rw [Token.of_line_chomp] at read
    refine stands_of_token stands read ?_ ?_ ?_ ?_ (Bool.or_true _).symm rfl
    · rw [unmoved _ read rfl, ← close_current_machine]
    · simp only [openedCount, close_current_current]
      exact congrArg (· + 0) (opened_count_close_current recorder)
    · simp only [close_current_current]
      rfl
    · exact close_current_declared recorder
  | outside command code after read known applied closed =>
    rw [Token.of_line_chomp] at read
    refine stands_of_token stands read ?_ ?_ ?_ rfl sameEnd rfl
    · exact moved _ _ read (bind_eq_ok.mpr ⟨code, known, applied⟩)
    · simp only [openedCount, closed]
      rfl
    · rw [closed]
      rfl
  | inside command code after layer read known applied isOpen =>
    rw [Token.of_line_chomp] at read
    have stepped : recorder.machine.step command true policy = .ok after :=
      bind_eq_ok.mpr ⟨code, known, applied⟩
    refine stands_of_token stands read ?_ ?_ ?_ rfl sameEnd rfl
    · exact moved _ _ read (MachineState.step_outside stepped false
        fun inside => absurd inside Bool.false_ne_true)
    · simp only [openedCount, isOpen]
      rfl
    · rw [isOpen]
      exact congrArg some (layer.add_line_number code command after line)

theorem failure_of_take_token {token : Token} (stands : recorder.Stands policy before)
    (read : Token.ofLine line = .ok token) (written : Text) :
    failureOf? (recorder.takeToken policy written token) = refusal? policy before line := by
  cases token with
  | layerHeight value => simp only [refusal?, read, takeToken, failureOf?]
  | layerCount count => simp only [refusal?, read, takeToken, failureOf?]
  | layerMarker index =>
    simp only [refusal?, read, takeToken, openLayer, ne_eq, ite_not, ← stands.opened]
    split <;> rfl
  | endMarker => simp only [refusal?, read, takeToken, failureOf?]
  | command command =>
    simp only [refusal?, read, takeToken, stands.machine, takeCommand, ← is_open_eq stands,
      MachineState.step]
    cases command.code with
    | error fault => rfl
    | ok code =>
      simp only [ok_bind]
      cases recorder.machine.apply code command recorder.current.isSome policy with
      | error fault => rfl
      | ok after => cases recorder.current <;> rfl

theorem place_of_stands (stands : recorder.Stands policy before) (fault : Fault) :
    fault.raise.locate (recorder.lineCount + 1) line.chomp (recorder.current.map (·.number)) =
      .fault fault {
        lineNumber := some (before.length + 1)
        line := some line.chomp
        layer := (openBehind? before).map Int.ofNat } := by
  rw [stands.layer, stands.count]
  rfl

theorem failure_of_take_line (stands : recorder.Stands policy before)
    (accepted : NumeralsAccepted line) :
    failureOf? (recorder.takeLine policy line.chomp) =
      (refusal? policy before line).map fun fault => .fault fault {
        lineNumber := some (before.length + 1)
        line := some line.chomp
        layer := (openBehind? before).map Int.ofNat } := by
  simp only [takeLine, Token.of_line_chomp]
  cases read : Token.ofLine line with
  | error failure =>
    obtain ⟨number, rfl⟩ := Token.of_line_error accepted read
    have refused : refusal? policy before line = some (.malformedLayerHeight number) := by
      simp only [refusal?, read, Fault.raise]
    rw [refused]
    exact congrArg some (place_of_stands stands _)
  | ok token =>
    rw [← failure_of_take_token stands read line.chomp]
    simp only [ok_bind]
    cases recorder.takeToken policy line.chomp token with
    | error fault => exact congrArg some (place_of_stands stands fault)
    | ok taken => rfl

theorem failure_of_finish (stands : recorder.Stands policy before) :
    failureOf? recorder.finish = incompleteness? before := by
  simp only [finish, incompleteness?, close_current_declared, ← stands.declared,
    opened_count_close_current, ← stands.opened, close_current_end_seen, ← stands.ended]
  cases recorder.declaredCount with
  | none => rfl
  | some count =>
    simp only []
    split
    · rfl
    · split <;> rfl

/-- The recording behind some lines. -/
def behind (policy : OverridePolicy) (lines : List Text) : Except Failure Recorder :=
  (lines.map Text.chomp).foldlM (takeLine policy) start

theorem behind_append (first second : List Text) : behind policy (first ++ second) =
    behind policy first >>= fun recorder => (second.map Text.chomp).foldlM (takeLine policy) recorder := by
  rw [behind, List.map_append, List.foldlM_append]
  rfl

theorem behind_concat (before : List Text) (line : Text) : behind policy (before ++ [line]) =
    behind policy before >>= fun recorder => recorder.takeLine policy line.chomp := by
  rw [behind_append]
  simp only [List.map_cons, List.map_nil, List.foldlM_cons, List.foldlM_nil, bind_pure]

theorem stands_of_behind {lines : List Text} (taken : behind policy lines = .ok recorder) :
    recorder.Stands policy lines := by
  induction lines using List.reverseRecOn generalizing recorder with
  | nil =>
    cases taken
    exact start_stands policy
  | append_singleton before line induction =>
    rw [behind_concat] at taken
    obtain ⟨earlier, first, took⟩ := bind_eq_ok.mp taken
    exact stands_of_takes (induction first) (takes_of_take_line took)

theorem exists_of_none_refused {lines : List Text} (accepted : ∀ line ∈ lines, NumeralsAccepted line)
    (clean : NoneRefused policy lines) :
    ∃ recorder, behind policy lines = .ok recorder ∧ recorder.Stands policy lines := by
  induction lines using List.reverseRecOn with
  | nil => exact ⟨start, rfl, start_stands policy⟩
  | append_singleton before line induction =>
    obtain ⟨earlier, last⟩ := none_fails_append.mp clean
    obtain ⟨recorder, taken, stands⟩ :=
      induction (fun other member => accepted other (List.mem_append_left _ member)) earlier
    have passes := failure_of_take_line stands (accepted line (by simp))
    rw [last, Option.map_none] at passes
    cases took : recorder.takeLine policy line.chomp with
    | error failure =>
      rw [took] at passes
      cases passes
    | ok next =>
      refine ⟨next, ?_, stands_of_takes stands (takes_of_take_line took)⟩
      rw [behind_concat, taken, ok_bind, took]

end Recorder

namespace Print

variable {policy : OverridePolicy} {lines : List Text}

theorem of_lines_eq_behind (policy : OverridePolicy) (lines : List Text) : ofLines policy lines =
    Recorder.behind policy lines >>= fun recorder => recorder.finish.mapError Fault.raise := rfl

theorem taken_of_recorded {print : Print} {before behind : List Text} {line : Text}
    (recorded : ofLines policy (before ++ line :: behind) = .ok print) :
    ∃ recorder next, Recorder.Stands policy before recorder ∧
      recorder.takeLine policy line.chomp = .ok next := by
  rw [of_lines_eq_behind] at recorded
  obtain ⟨last, taken, -⟩ := bind_eq_ok.mp recorded
  rw [Recorder.behind_append] at taken
  obtain ⟨recorder, front, rest⟩ := bind_eq_ok.mp taken
  rw [List.map_cons, List.foldlM_cons] at rest
  obtain ⟨next, took, -⟩ := bind_eq_ok.mp rest
  exact ⟨recorder, next, Recorder.stands_of_behind front, took⟩

/-- The outcome of a recording. Lines are refused for what stands in front of them, and the first one
that is decides, whatever follows it: the failure names its number, its text without the line end, and
the layer that was open. Without such a line a program fails for what it never declared, or is
recorded. -/
theorem recording_outcome (accepted : ∀ line ∈ lines, NumeralsAccepted line) :
    (NoneRefused policy lines ∨ ∃ before line behind fault, lines = before ++ line :: behind ∧
      NoneRefused policy before ∧ refusal? policy before line = some fault) ∧
    (∀ before line behind fault, lines = before ++ line :: behind → NoneRefused policy before →
      refusal? policy before line = some fault →
      ofLines policy lines = .error (.fault fault {
        lineNumber := some (before.length + 1)
        line := some line.chomp
        layer := (openBehind? before).map Int.ofNat })) ∧
    (NoneRefused policy lines →
      (∀ fault, incompleteness? lines = some fault → ofLines policy lines = .error fault.raise) ∧
      (incompleteness? lines = none → ∃ print, ofLines policy lines = .ok print)) := by
  refine ⟨none_fails_or_first (refusal? policy) lines, ?_, ?_⟩
  · rintro before line behind fault rfl clean refused
    obtain ⟨recorder, taken, stands⟩ := Recorder.exists_of_none_refused
      (fun other member => accepted other (List.mem_append_left _ member)) clean
    have failure := Recorder.failure_of_take_line stands (accepted line (by simp))
    rw [refused, Option.map_some, failure_of_eq_some] at failure
    rw [of_lines_eq_behind, Recorder.behind_append, taken, ok_bind, List.map_cons, List.foldlM_cons,
      failure]
    rfl
  · intro clean
    obtain ⟨recorder, taken, stands⟩ := Recorder.exists_of_none_refused accepted clean
    have lacks := Recorder.failure_of_finish stands
    rw [of_lines_eq_behind, taken, ok_bind]
    constructor
    · intro fault lacking
      rw [lacking, failure_of_eq_some] at lacks
      rw [lacks]
      rfl
    · intro complete
      rw [complete] at lacks
      cases finished : recorder.finish with
      | error fault =>
        rw [finished] at lacks
        cases lacks
      | ok print => exact ⟨print, rfl⟩

end Print

def redefiningProgram : List Text := [
  Text.of ";LAYER_COUNT:1", Text.of "M104 S210", Text.of "G92 E0", Text.of ";LAYER:0",
  Text.of "G1 X60 E1\r", Text.of "G92 X0\r", Text.of ";LAYER:5", Text.of "T9"]

theorem Print.recording_outcome_of_redefined_axis :
    (∀ line ∈ redefiningProgram, NumeralsAccepted line) ∧
    ofLines .reject redefiningProgram = .error (.fault (.setPositionOf (Text.of "X")) {
      lineNumber := some 6
      line := some (Text.of "G92 X0")
      layer := some 0 }) ∧
    ofLines .reject (redefiningProgram.take 5) = .error Fault.endCodeMissing.raise := by
  have accepted : ∀ line ∈ redefiningProgram, NumeralsAccepted line := by decide +kernel
  obtain ⟨-, first, -⟩ := @recording_outcome .reject _ accepted
  obtain ⟨-, -, unrefused⟩ := @recording_outcome .reject (redefiningProgram.take 5)
    fun line member => accepted line (List.mem_of_mem_take member)
  refine ⟨accepted, ?_, (unrefused (by decide +kernel)).1 _ (by decide +kernel)⟩
  exact first (redefiningProgram.take 5) (Text.of "G92 X0\r") (redefiningProgram.drop 6) _ rfl
    (by decide +kernel) (by decide +kernel)

end PrintParts
