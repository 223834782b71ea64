import PrintParts.Proofs.Machine.Frame
import PrintParts.Proofs.Recording.Whole

/-!
A layer started somewhere else. The first travel of a layer goes to where the layer begins, and what stands
in front of it moves nothing, so a printer that is there already goes through the same commands and is, from
the first move on, in the same states.
-/

namespace PrintParts

theorem Position.ext_get {first second : Position} (same : ∀ axis, first.get axis = second.get axis) :
    first = second := by
  cases first
  cases second
  exact Position.mk.injEq .. ▸ ⟨same .x, same .y, same .z⟩

/-- Where two printers are before and behind the same commands: the commands leave a coordinate alone for
both of them, or it is the same behind them. -/
def Position.GoAlike (first firstAfter second secondAfter : Position) : Prop :=
  ∀ axis, firstAfter.get axis = first.get axis ∧ secondAfter.get axis = second.get axis ∨
    firstAfter.get axis = secondAfter.get axis

namespace Position.GoAlike

variable {first firstMiddle firstAfter second secondMiddle secondAfter : Position}

theorem stay (first second : Position) : GoAlike first first second second := fun _ => .inl ⟨rfl, rfl⟩

theorem trans (start : GoAlike first firstMiddle second secondMiddle)
    (rest : GoAlike firstMiddle firstAfter secondMiddle secondAfter) :
    GoAlike first firstAfter second secondAfter := by
  intro axis
  rcases rest axis with ⟨firstStays, secondStays⟩ | same
  · rw [firstStays, secondStays]
    exact start axis
  · exact .inr same

theorem set (first second : Position) (axis : Axis) (value : AxisValue) :
    GoAlike first (first.set axis value) second (second.set axis value) := by
  intro other
  by_cases same : axis = other
  · subst same
    exact .inr (by rw [get_set_self, get_set_self])
  · exact .inl ⟨get_set_other _ _ same, get_set_other _ _ same⟩

theorem meet (alike : GoAlike first firstAfter firstAfter secondAfter) : secondAfter = firstAfter := by
  refine Position.ext_get fun axis => ?_
  rcases alike axis with ⟨-, stays⟩ | same
  · exact stays
  · exact same.symm

end Position.GoAlike

namespace MachineState

variable {state after : MachineState} {inLayer : Bool} {policy : OverridePolicy}

def placed (state : MachineState) (place : Position) : MachineState := { state with position := place }

/-- What leads a printer from one state to another leads it, in another place, to that state in some place. -/
def LeadsAlike (run : MachineState → Except Fault MachineState) (state after : MachineState) : Prop :=
  ∀ place, ∃ placeAfter, run (state.placed place) = .ok (after.placed placeAfter) ∧
    Position.GoAlike state.position after.position place placeAfter

theorem LeadsAlike.of_still {run : MachineState → Except Fault MachineState}
    (still : after.position = state.position)
    (ran : ∀ place, run (state.placed place) = .ok (after.placed place)) : LeadsAlike run state after :=
  fun place => ⟨place, ran place, still ▸ Position.GoAlike.stay _ _⟩

theorem LeadsAlike.bind {first second : MachineState → Except Fault MachineState}
    {middle : MachineState} (start : LeadsAlike first state middle)
    (rest : LeadsAlike second middle after) :
    LeadsAlike (fun state => first state >>= second) state after := by
  intro place
  obtain ⟨placeMiddle, ran, alike⟩ := start place
  obtain ⟨placeAfter, ranOn, alikeOn⟩ := rest placeMiddle
  exact ⟨placeAfter, bind_eq_ok.mpr ⟨_, ran, ranOn⟩, alike.trans alikeOn⟩

theorem leads_alike_of_fold {Input : Type} (step : MachineState → Input → Except Fault MachineState)
    (alike : ∀ state input after, step state input = .ok after → LeadsAlike (step · input) state after)
    {inputs : List Input} (folded : inputs.foldlM step state = .ok after) :
    LeadsAlike (fun state => inputs.foldlM step state) state after := by
  induction inputs generalizing state with
  | nil =>
    cases folded
    exact .of_still rfl fun _ => rfl
  | cons input rest induction =>
    simp only [List.foldlM_cons] at folded ⊢
    obtain ⟨middle, stepped, folded⟩ := bind_eq_ok.mp folded
    exact (alike state input middle stepped).bind (induction folded)

theorem move_field_leads_alike {field : Field} (moved : state.moveField field = .ok after) :
    LeadsAlike (·.moveField field) state after := by
  unfold moveField at moved
  split at moved
  · rename_i named
    split at moved
    · rename_i relative
      cases moved
      refine .of_still rfl fun place => ?_
      simp only [moveField, named, if_true, placed, relative]
    · rename_i absolute
      obtain ⟨e, read, rfl⟩ := map_eq_ok.mp moved
      refine .of_still rfl fun place => ?_
      simp only [moveField, named, if_true, placed, absolute, read, Except.map, extrudeTo]
  · rename_i other
    split at moved
    · rename_i noAxis
      cases moved
      refine .of_still rfl fun place => ?_
      simp only [moveField, other, Bool.false_eq_true, if_false, noAxis]
    · rename_i axis isAxis relative
      cases moved
      refine fun place => ⟨place.set axis .relative, ?_, Position.GoAlike.set _ _ axis _⟩
      simp only [moveField, other, Bool.false_eq_true, if_false, isAxis, placed, relative]
    · rename_i axis isAxis absolute
      obtain ⟨number, read, rfl⟩ := map_eq_ok.mp moved
      refine fun place => ⟨place.set axis (.absolute number), ?_, Position.GoAlike.set _ _ axis _⟩
      simp only [moveField, other, Bool.false_eq_true, if_false, isAxis, placed, absolute, read, Except.map]

theorem set_position_field_leads_alike {retraction : Binary64} {field : Field}
    (set : setPositionField retraction state field = .ok after) :
    LeadsAlike (setPositionField retraction · field) state after := by
  unfold setPositionField at set
  split at set
  · cases set
  · rename_i noAxis
    split at set
    · rename_i named
      obtain ⟨e, read, rfl⟩ := map_eq_ok.mp set
      refine .of_still rfl fun place => ?_
      simp only [setPositionField, noAxis, named, Bool.false_eq_true, if_false, if_true, read, Except.map, placed]
    · rename_i other
      cases set
      refine .of_still rfl fun place => ?_
      simp only [setPositionField, noAxis, other, Bool.false_eq_true, if_false]

theorem override_rate_leads_alike {rate : Rate} {mnemonic : Text}
    (passed : state.overrideRate rate mnemonic inLayer policy = .ok after) :
    LeadsAlike (·.overrideRate rate mnemonic inLayer policy) state after := by
  unfold overrideRate at passed
  split at passed
  · cases passed
  · rename_i lets
    cases passed
    exact .of_still rfl fun place => if_neg lets

theorem step_leads_alike {command : Command} (stepped : state.step command inLayer policy = .ok after) :
    LeadsAlike (·.step command inLayer policy) state after := by
  obtain ⟨code, known, applied⟩ := bind_eq_ok.mp stepped
  have whole : LeadsAlike (·.apply code command inLayer policy) state after →
      LeadsAlike (·.step command inLayer policy) state after := by
    intro alike place
    obtain ⟨placeAfter, ran, together⟩ := alike place
    exact ⟨placeAfter, bind_eq_ok.mpr ⟨code, known, ran⟩, together⟩
  apply whole
  cases code with
  | rapidMove | linearMove => exact leads_alike_of_fold moveField (fun _ _ _ => move_field_leads_alike) applied
  | setPosition =>
    simp only [apply, setPosition] at applied ⊢
    split at applied
    · cases applied
    · rename_i named
      simp only [named, if_false]
      intro place
      exact leads_alike_of_fold (setPositionField state.retractionDepth)
        (fun _ _ _ => set_position_field_leads_alike) applied place
  | setBed | waitBed | setNozzle | waitNozzle | fanOn =>
    obtain ⟨target, asked, rfl⟩ := map_eq_ok.mp applied
    exact .of_still rfl fun place => map_eq_ok.mpr ⟨target, asked, rfl⟩
  | feedRate | flowRate => exact override_rate_leads_alike applied
  | _ =>
    cases applied
    exact .of_still rfl fun _ => rfl

theorem follow_leads_alike {lines : List Text} (followed : state.follow inLayer policy lines = .ok after) :
    LeadsAlike (·.follow inLayer policy lines) state after :=
  leads_alike_of_fold (fun state command => state.step command inLayer policy)
    (fun _ _ _ => step_leads_alike) followed

end MachineState

def Token.isMove : Token → Bool
  | .command given => given.isMove
  | _ => false

theorem exists_of_first_move {before behind front rest : List Text} {line : Text}
    (same : before ++ line :: behind = front ++ rest)
    (still : ∀ other ∈ before, lineIs id Token.isMove other = false)
    (moved : ∃ other ∈ front, lineIs id Token.isMove other = true) :
    ∃ between, front = before ++ [line] ++ between := by
  obtain ⟨move, member, moves⟩ := moved
  have notBefore : ∀ more, before ≠ front ++ more := by
    rintro more rfl
    exact Bool.false_ne_true ((still move (List.mem_append_left more member)).symm.trans moves)
  rcases List.append_eq_append_iff.mp same with ⟨further, isFront, tail⟩ | ⟨more, isBefore, -⟩
  · cases further with
    | nil => exact absurd (isFront.trans (List.append_nil _)).symm (List.append_nil front ▸ notBefore [])
    | cons first between =>
      obtain rfl := (List.cons.inj tail).1
      exact ⟨between, by rw [isFront, List.append_assoc, List.singleton_append]⟩
  · exact absurd isBefore (notBefore more)

namespace Layer

variable {policy : OverridePolicy} {layer other : Layer} {state after : MachineState} {code : Code}
  {command : Command} {line : Text}

/-- The layer begun where its first travel leads to. -/
def restart (layer : Layer) : MachineState := layer.entry.placed layer.startPosition

/-- The first move that a layer tells of is the first of its lines. If it is a travel, its endpoint is where
the lines up to it lead to. -/
structure KnowsFirstMove (policy : OverridePolicy) (layer : Layer) : Prop where
  unmade : layer.firstMove = .unmade →
    ∀ line ∈ layer.lines.toList, lineIs id Token.isMove line = false
  travel : ∀ endpoint, layer.firstMove = .travel endpoint → ∃ before line behind state,
    layer.lines.toList = before ++ line :: behind ∧
    (∀ other ∈ before, lineIs id Token.isMove other = false) ∧ lineIs id Token.isMove line = true ∧
    layer.entry.follow true policy (before ++ [line]) = .ok state ∧ state.position = endpoint

theorem knows_close (state : MachineState) :
    (layer.close state).KnowsFirstMove policy ↔ layer.KnowsFirstMove policy :=
  ⟨fun knows => ⟨knows.unmade, knows.travel⟩, fun knows => ⟨knows.unmade, knows.travel⟩⟩

/-- As long as the first move stays the same, one more line changes nothing about it. -/
theorem KnowsFirstMove.of_more (knows : layer.KnowsFirstMove policy)
    (entry : other.entry = layer.entry) (first : other.firstMove = layer.firstMove)
    (lines : other.lines.toList = layer.lines.toList ++ [line])
    (unmade : layer.firstMove = .unmade → lineIs id Token.isMove line = false) :
    other.KnowsFirstMove policy := by
  constructor
  · intro none
    rw [first] at none
    rw [lines]
    exact List.forall_mem_append.mpr ⟨knows.unmade none, List.forall_mem_singleton.mpr (unmade none)⟩
  · intro endpoint travels
    obtain ⟨before, move, behind, state, whole, still, moves, followed, there⟩ :=
      knows.travel endpoint (first.symm.trans travels)
    refine ⟨before, move, behind ++ [line], state, ?_, still, moves, entry ▸ followed, there⟩
    rw [lines, whole, List.append_assoc, List.cons_append]

theorem note_ironing_first_move (layer : Layer) (after : MachineState) :
    (layer.noteIroning after).firstMove = layer.firstMove := by
  unfold noteIroning
  split_ifs <;> rfl

theorem add_line_first_move (layer : Layer) (code : Code) (command : Command) (after : MachineState)
    (line : Text) : (layer.addLine code command after line).firstMove =
      if code.isMove then (layer.noteFirstMove (command.hasField 'E') after.position).firstMove
      else layer.firstMove := by
  simp only [addLine, note]
  by_cases relative : code = .relativePositioning
  · subst relative
    rfl
  · rw [if_neg relative]
    split
    · exact note_ironing_first_move _ _
    · rfl

theorem knows_of_add_line (knows : layer.KnowsFirstMove policy)
    (followed : layer.entry.follow true policy layer.lines.toList = .ok state)
    (read : Token.ofLine line = .ok (.command command)) (known : command.code = .ok code)
    (stepped : state.step command true policy = .ok after) :
    (layer.addLine code command after line).KnowsFirstMove policy := by
  have entry := layer.add_line_entry code command after line
  have lines := layer.add_line_lines code command after line
  have first := layer.add_line_first_move code command after line
  have isMove : lineIs id Token.isMove line = code.isMove := by
    rw [line_is_eq id read, Token.isMove, Command.is_move_eq known]
  by_cases moves : code.isMove = true
  · rw [if_pos moves] at first
    cases made : layer.firstMove with
    | unmade =>
      simp only [noteFirstMove, made] at first
      split at first
      · constructor
        · exact fun none => nomatch first.symm.trans none
        · exact fun endpoint travels => nomatch first.symm.trans travels
      · constructor
        · exact fun none => nomatch first.symm.trans none
        · intro endpoint travels
          cases first.symm.trans travels
          refine ⟨layer.lines.toList, line, [], after, lines, knows.unmade made, isMove.trans moves, ?_, rfl⟩
          rw [← lines]
          exact layer.follow_add_line followed read stepped
    | extruding | travel =>
      simp only [noteFirstMove, made] at first
      exact knows.of_more entry (first.trans made.symm) lines fun none => nomatch made.symm.trans none
  · rw [if_neg moves] at first
    exact knows.of_more entry first lines fun _ => isMove.trans (Bool.eq_false_iff.mpr moves)

theorem travel_endpoint_eq_some {endpoint : Position} :
    layer.travelEndpoint? = some endpoint ↔ layer.firstMove = .travel endpoint := by
  unfold travelEndpoint?
  cases layer.firstMove <;> simp

theorem restart_follows {inLayer : Bool} {front rest : List Text} (knows : layer.KnowsFirstMove policy)
    (whole : layer.lines.toList = front ++ rest)
    (followed : layer.entry.follow inLayer policy front = .ok state)
    (moved : layer.travelEndpoint?.isSome = true →
      ∃ line ∈ front, lineIs id Token.isMove line = true) :
    layer.restart.follow inLayer policy front = .ok state := by
  cases travels : layer.travelEndpoint? with
  | none =>
    have same : layer.restart = layer.entry := by
      rw [restart, startPosition, travels]
      rfl
    rw [same, followed]
  | some endpoint =>
    obtain ⟨before, line, behind, there, parts, still, -, led, isThere⟩ :=
      knows.travel endpoint (travel_endpoint_eq_some.mp travels)
    obtain ⟨between, rfl⟩ :=
      exists_of_first_move (parts.symm.trans whole) still (moved (by rw [travels]; rfl))
    have ledHere := MachineState.follow_outside led inLayer fun _ => rfl
    obtain ⟨place, ran, alike⟩ := MachineState.follow_leads_alike ledHere endpoint
    rw [← isThere] at ran alike
    obtain rfl := alike.meet
    rw [MachineState.follow_append, ledHere] at followed
    rw [restart, startPosition, travels, Option.getD_some, ← isThere, MachineState.follow_append]
    exact bind_eq_ok.mpr ⟨there, ran, followed⟩

end Layer

namespace Recorder

variable {policy : OverridePolicy} {recorder next : Recorder} {line : Text}

structure KnowsFirstMoves (policy : OverridePolicy) (recorder : Recorder) : Prop where
  followed : Followed policy recorder
  knows : ∀ layer ∈ recorder.layers, layer.KnowsFirstMove policy

theorem knows_first_moves_of_takes (before : KnowsFirstMoves policy recorder)
    (takes : Takes policy recorder line next) : KnowsFirstMoves policy next := by
  refine ⟨followed_of_takes before.followed takes, ?_⟩
  have unchanged : ∀ other : Recorder, other.layers = recorder.layers →
      ∀ layer ∈ other.layers, layer.KnowsFirstMove policy := fun _ same => same ▸ before.knows
  cases takes with
  | layerHeight value read => exact unchanged _ (layers_congr rfl rfl rfl)
  | layerCount count read => exact unchanged _ (layers_congr rfl rfl rfl)
  | marker index read inOrder =>
    rw [layers_of_open rfl]
    refine List.forall_mem_append.mpr ⟨before.knows, List.forall_mem_singleton.mpr ⟨?_, ?_⟩⟩
    · exact fun _ _ member => nomatch member
    · exact fun endpoint travels => nomatch travels
  | endMarker read => exact unchanged _ (layers_of_closed (close_current_current recorder))
  | outside command code after read known applied closed =>
    exact unchanged _ (by rw [layers_of_closed rfl, layers_of_closed closed])
  | inside command code after layer read known applied isOpen =>
    have knows := before.knows
    rw [layers_of_open isOpen] at knows
    obtain ⟨lower, last⟩ := List.forall_mem_append.mp knows
    have knowsOpen := (Layer.knows_close _).mp (List.forall_mem_singleton.mp last)
    have grown := Layer.knows_of_add_line knowsOpen (before.followed layer isOpen) read known
      (bind_eq_ok.mpr ⟨code, known, applied⟩)
    rw [layers_of_open rfl]
    exact List.forall_mem_append.mpr
      ⟨lower, List.forall_mem_singleton.mpr ((Layer.knows_close _).mpr grown)⟩

end Recorder

namespace Print

variable {policy : OverridePolicy} {lines : List Text} {print : Print}

theorem knows_first_moves (recorded : ofLines policy lines = .ok print) :
    ∀ layer ∈ print.layers.toList, layer.KnowsFirstMove policy := by
  obtain ⟨recorder, taken, same, -⟩ := of_lines_eq_ok recorded
  have start : Recorder.KnowsFirstMoves policy Recorder.start :=
    ⟨fun _ isOpen => (nomatch isOpen), fun _ member => (nomatch member)⟩
  rw [same]
  exact (Recorder.recording_preserves (fun recorder _ => Recorder.KnowsFirstMoves policy recorder)
    (fun _ _ _ _ before takes => Recorder.knows_first_moves_of_takes before takes) start taken).knows

/-- A layer that is begun where its first travel leads to ends as it was recorded, and from its first move
on it is in no other state than the recorded layer. -/
theorem restart_rejoins (recorded : ofLines policy lines = .ok print) {layer : Layer}
    (member : layer ∈ print.layers.toList) (inLayer : Bool) :
    (∃ exit, layer.exit = some exit ∧
      layer.restart.follow inLayer policy layer.lines.toList = .ok exit) ∧
    ∀ front rest, layer.lines.toList = front ++ rest →
      (∃ line ∈ front, lineIs id Token.isMove line = true) →
      ∃ state, layer.entry.follow inLayer policy front = .ok state ∧
        layer.restart.follow inLayer policy front = .ok state := by
  obtain ⟨_, _, recordedFrom⟩ := recorded_from_of_mem recorded member
  obtain ⟨exit, exits, follows⟩ := recordedFrom.exit
  have knows := knows_first_moves recorded layer member
  constructor
  · refine ⟨exit, exits, layer.restart_follows knows (List.append_nil _).symm (follows inLayer) ?_⟩
    intro travels
    obtain ⟨endpoint, isTravel⟩ := Option.isSome_iff_exists.mp travels
    obtain ⟨before, line, behind, -, whole, -, moves, -, -⟩ :=
      knows.travel endpoint (Layer.travel_endpoint_eq_some.mp isTravel)
    exact ⟨line, whole ▸ List.mem_append_right before List.mem_cons_self, moves⟩
  · intro front rest whole moved
    have followed := follows inLayer
    rw [whole, MachineState.follow_append] at followed
    obtain ⟨state, first, -⟩ := bind_eq_ok.mp followed
    exact ⟨state, first, layer.restart_follows knows whole first fun _ => moved⟩

end Print

def partialTravelProgram : List Text := [
  Text.of ";LAYER_COUNT:2", Text.of "G1 X10 Y20 Z0.3", Text.of "G92 E0",
  Text.of ";LAYER:0", Text.of "M106 S64", Text.of "G0 X50", Text.of "G1 X60 E1",
  Text.of ";LAYER:1", Text.of "G91", Text.of "G0 Z0.2", Text.of "G90", Text.of "G1 X70 Y30 E2",
  Text.of ";-- end code begin --"]

theorem Print.restart_rejoins_behind_partial_travels : ∃ print lower upper lowerExit upperExit,
    ofLines .reject partialTravelProgram = .ok print ∧ print.layers.toList = [lower, upper] ∧
    lower.restart ≠ lower.entry ∧ upper.restart ≠ upper.entry ∧
    lower.exit = some lowerExit ∧ upper.exit = some upperExit ∧
    lower.restart.follow true .reject lower.lines.toList = .ok lowerExit ∧
    upper.restart.follow true .reject upper.lines.toList = .ok upperExit := by
  have checked : succeedsWith (fun print => print.layers.toList.length == 2 &&
      print.layers.toList.all fun layer => layer.restart ≠ layer.entry)
      (ofLines .reject partialTravelProgram) = true := by
    decide +kernel
  obtain ⟨print, recorded, both⟩ := exists_of_succeeds_with checked
  obtain ⟨size, apart⟩ := Bool.and_eq_true_iff.mp both
  obtain ⟨lower, upper, layers⟩ := List.length_eq_two.mp (eq_of_beq size)
  have apart : ∀ layer ∈ print.layers.toList, layer.restart ≠ layer.entry := fun layer member =>
    of_decide_eq_true (List.all_eq_true.mp apart layer member)
  have isLower : lower ∈ print.layers.toList := layers ▸ List.mem_cons_self
  have isUpper : upper ∈ print.layers.toList := layers ▸ List.mem_cons_of_mem _ List.mem_cons_self
  obtain ⟨lowerExit, lowerEnds, lowerRuns⟩ := (restart_rejoins recorded isLower true).1
  obtain ⟨upperExit, upperEnds, upperRuns⟩ := (restart_rejoins recorded isUpper true).1
  exact ⟨print, lower, upper, lowerExit, upperExit, recorded, layers, apart lower isLower,
    apart upper isUpper, lowerEnds, upperEnds, lowerRuns, upperRuns⟩

end PrintParts
