import PrintParts.Proofs.Recording.Reach
import PrintParts.Proofs.Recording.Refusal

/-!
The least X of a print as the text of its program tells it. Whether a line sets X inside a layer, in which
layer and to which number, is told by the lines in front of it. The record of a print is the first of the least
of all X that are set so.
-/

namespace PrintParts

/-- A line of a program sets X inside a layer: it is a move that names X, and the lines in front of it tell
that the layer is open and that coordinates are absolute. -/
structure SetsX (policy : OverridePolicy) (lines : List Text) (index : Nat) (line : Text)
    (command : Command) (layer : Nat) : Prop where
  stands : lines[index]? = some line
  read : Token.ofLine line = .ok (.command command)
  moves : command.isMove = true
  named : command.hasField 'X' = true
  inside : openBehind? (lines.take index) = some layer
  absolute : ∃ state, MachineState.fresh.follow false policy (lines.take index) = .ok state ∧
    state.xyzMode = .absolute

/-- What a line sets X to behind some others, with the layer and the line as a record has them. -/
def reach? (policy : OverridePolicy) (before : List Text) (line : Text) : Option LeastX :=
  match Token.ofLine line, openBehind? before, MachineState.fresh.follow false policy before with
  | .ok (.command command), some layer, .ok state =>
    if command.isMove ∧ state.xyzMode = .absolute then
      command.lastX?.map fun x => ⟨x, layer, line.chomp⟩
    else none
  | _, _, _ => none

def reachAt? (policy : OverridePolicy) (lines : List Text) (index : Nat) : Option LeastX :=
  lines[index]?.bind (reach? policy (lines.take index))

theorem Command.last_x_of_unnamed {command : Command} (unnamed : ¬ command.hasField 'X' = true) :
    command.lastX? = none := by
  have empty : command.fields.filter (·.isNamed 'X') = [] := by
    rw [List.filter_eq_nil_iff]
    exact fun field member named => unnamed (List.find?_isSome.mpr ⟨field, member, named⟩)
  rw [lastX?, empty]
  rfl

namespace LeastX

/-- The record behind one more X: an X that is not below the record leaves it alone. -/
def lower (least reached : Option LeastX) : Option LeastX :=
  match reached, least with
  | none, _ => least
  | some reached, none => some reached
  | some reached, some known => if reached.x < known.x then some reached else some known

/-- The record is the first of the least among the first of some X. -/
structure FirstLeast (reached : Nat → Option LeastX) (count : Nat) (least : Option LeastX) : Prop where
  none : least = none → ∀ index < count, reached index = none
  attained : ∀ record, least = some record → ∃ index < count, reached index = some record ∧
    ∀ other < count, ∀ set, reached other = some set →
      record.x ≤ set.x ∧ (other < index → record.x < set.x)

variable {reached other : Nat → Option LeastX} {count : Nat} {least : Option LeastX}

theorem first_least_congr (same : ∀ index < count, other index = reached index)
    (first : FirstLeast reached count least) : FirstLeast other count least := by
  refine ⟨fun none index below => (same index below).trans (first.none none index below), ?_⟩
  intro record found
  obtain ⟨index, below, attains, least⟩ := first.attained record found
  refine ⟨index, below, (same index below).trans attains, fun later inside set reaches => ?_⟩
  exact least later inside set ((same later inside).symm.trans reaches)

theorem first_least_of_lowest {set : LeastX} (here : reached count = some set)
    (number : set.x ≠ .nan)
    (lowest : ∀ index < count, ∀ earlier, reached index = some earlier → set.x < earlier.x) :
    FirstLeast reached (count + 1) (some set) := by
  refine ⟨nofun, ?_⟩
  rintro record ⟨⟩
  refine ⟨count, Nat.lt_succ_self count, here, fun index below earlier reaches => ?_⟩
  rcases Nat.lt_succ_iff_lt_or_eq.mp below with before | rfl
  · have under := lowest index before earlier reaches
    exact ⟨Binary64.le_of_lt under, fun _ => under⟩
  · obtain rfl := Option.some.inj (here.symm.trans reaches)
    exact ⟨Binary64.le_refl_of_number number, fun later => absurd later (Nat.lt_irrefl _)⟩

theorem first_least_of_higher {record : LeastX} (first : FirstLeast reached count (some record))
    (higher : ∀ set, reached count = some set → record.x ≤ set.x) :
    FirstLeast reached (count + 1) (some record) := by
  refine ⟨nofun, ?_⟩
  rintro _ ⟨⟩
  obtain ⟨index, below, attains, least⟩ := first.attained record rfl
  refine ⟨index, Nat.lt_succ_of_lt below, attains, fun other inside set reaches => ?_⟩
  rcases Nat.lt_succ_iff_lt_or_eq.mp inside with before | rfl
  · exact least other before set reaches
  · exact ⟨higher set reaches, fun earlier => absurd (Nat.lt_trans below earlier) (Nat.lt_irrefl _)⟩

theorem first_least_lower (first : FirstLeast reached count least)
    (numbers : ∀ index ≤ count, ∀ set, reached index = some set → set.x ≠ .nan) :
    FirstLeast reached (count + 1) (lower least (reached count)) := by
  cases here : reached count with
  | none =>
    cases least with
    | none =>
      rw [lower]
      refine ⟨fun _ index below => ?_, fun _ found => nomatch found⟩
      rcases Nat.lt_succ_iff_lt_or_eq.mp below with before | rfl
      · exact first.none rfl index before
      · exact here
    | some record =>
      refine first_least_of_higher first fun set reaches => ?_
      rw [here] at reaches
      cases reaches
  | some set =>
    have number := numbers count (Nat.le_refl _) set here
    cases least with
    | none =>
      refine first_least_of_lowest here number fun index before earlier reaches => ?_
      rw [first.none rfl index before] at reaches
      cases reaches
    | some record =>
      obtain ⟨place, below, attains, least⟩ := first.attained record rfl
      by_cases under : set.x < record.x
      · rw [lower, if_pos under]
        refine first_least_of_lowest here number fun index before earlier reaches => ?_
        exact Binary64.lt_of_lt_of_le under (least index before earlier reaches).1
      · rw [lower, if_neg under]
        refine first_least_of_higher first fun other reaches => ?_
        obtain rfl := Option.some.inj (here.symm.trans reaches)
        exact Binary64.le_of_not_lt (numbers place (Nat.le_of_lt below) record attains) number under

end LeastX

section

variable {policy : OverridePolicy} {before : List Text} {line : Text}

theorem reach_at_append {index : Nat} (inside : index < before.length) (behind : List Text) :
    reachAt? policy (before ++ behind) index = reachAt? policy before index := by
  rw [reachAt?, reachAt?, List.getElem?_append_left inside,
    List.take_append_of_le_length (Nat.le_of_lt inside)]

theorem reach_at_length (behind : List Text) :
    reachAt? policy (before ++ line :: behind) before.length = reach? policy before line := by
  rw [reachAt?, List.getElem?_append_right (Nat.le_refl _), Nat.sub_self, List.take_left]
  rfl

theorem reach_at_outside {lines : List Text} {index : Nat} (outside : lines.length ≤ index) :
    reachAt? policy lines index = none := by
  rw [reachAt?, List.getElem?_eq_none outside]
  rfl

end

namespace Recorder

variable {policy : OverridePolicy} {before : List Text} {recorder next : Recorder} {line : Text}

theorem lower_of_takes (stands : recorder.Stands policy before)
    (takes : Takes policy recorder line.chomp next) :
    next.leastX = LeastX.lower recorder.leastX (reach? policy before line) := by
  cases takes with
  | layerHeight value read | layerCount count read =>
    rw [Token.of_line_chomp] at read
    simp only [reach?, read, LeastX.lower]
  | marker index read inOrder =>
    rw [Token.of_line_chomp] at read
    simp only [reach?, read, LeastX.lower, close_current_least_x]
  | endMarker read =>
    rw [Token.of_line_chomp] at read
    simp only [reach?, read, LeastX.lower, close_current_least_x]
  | outside command code after read known applied closed =>
    rw [Token.of_line_chomp] at read
    have none : openBehind? before = none := by
      have same := is_open_eq stands
      rw [closed, Option.isSome_none, eq_comm, Option.isSome_eq_false_iff] at same
      exact Option.isNone_iff_eq_none.mp same
    simp only [reach?, read, none, LeastX.lower]
  | inside command code after layer read known applied isOpen =>
    rw [Token.of_line_chomp] at read
    have numbered := stands.layer
    rw [isOpen] at numbered
    obtain ⟨number, opened, same⟩ := Option.map_eq_some_iff.mp numbered.symm
    simp only [LeastX.update, reach?, read, opened, stands.machine, Command.is_move_eq known]
    by_cases moves : code.isMove = true
    · rw [MachineState.mode_of_move moves applied]
      by_cases absolute : recorder.machine.xyzMode = .absolute
      · by_cases named : command.hasField 'X' = true
        · obtain ⟨x, last, isSet⟩ :=
            MachineState.x_of_move absolute named (MachineState.move_of_apply moves applied)
          simp only [moves, absolute, named, last, isSet, and_self, if_true, Option.map_some, ← same]
          cases recorder.leastX <;> rfl
        · simp [named, Command.last_x_of_unnamed named, LeastX.lower]
      · simp [absolute, LeastX.lower]
    · simp [moves, LeastX.lower]

theorem first_least_of_behind {lines : List Text} (taken : behind policy lines = .ok recorder)
    (numbers : ∀ index set, reachAt? policy lines index = some set → set.x ≠ .nan) :
    LeastX.FirstLeast (reachAt? policy lines) lines.length recorder.leastX := by
  induction lines using List.reverseRecOn generalizing recorder with
  | nil =>
    cases taken
    exact ⟨fun _ _ below => absurd below (Nat.not_lt_zero _), fun _ found => nomatch found⟩
  | append_singleton before line induction =>
    rw [behind_concat] at taken
    obtain ⟨earlier, first, took⟩ := bind_eq_ok.mp taken
    have front : ∀ index set, reachAt? policy before index = some set → set.x ≠ .nan := by
      intro index set reaches
      rcases Nat.lt_or_ge index before.length with inside | outside
      · exact numbers index set ((reach_at_append inside [line]).trans reaches)
      · rw [reach_at_outside outside] at reaches
        cases reaches
    have known : LeastX.FirstLeast (reachAt? policy (before ++ [line])) before.length earlier.leastX :=
      LeastX.first_least_congr (fun index inside => reach_at_append inside [line])
        (induction first front)
    rw [lower_of_takes (stands_of_behind first) (takes_of_take_line took), List.length_append,
      ← reach_at_length []]
    exact LeastX.first_least_lower known fun index _ => numbers index

end Recorder

section

variable {policy : OverridePolicy} {lines : List Text} {index : Nat} {line : Text} {command : Command}
  {layer : Nat} {print : Print}

theorem SetsX.reach {x : Binary64} (sets : SetsX policy lines index line command layer)
    (last : command.lastX? = some x) : reachAt? policy lines index = some ⟨x, layer, line.chomp⟩ := by
  obtain ⟨state, followed, absolute⟩ := sets.absolute
  rw [reachAt?, sets.stands, Option.bind_some]
  simp only [reach?, sets.read, sets.inside, followed, sets.moves, absolute, last, and_self, if_true,
    Option.map_some]

theorem sets_x_of_reach {set : LeastX} (reaches : reachAt? policy lines index = some set) :
    ∃ line command layer, SetsX policy lines index line command layer ∧
      command.lastX? = some set.x ∧ set.layer = layer ∧ set.line = line.chomp := by
  obtain ⟨line, stands, reaches⟩ := Option.bind_eq_some_iff.mp reaches
  unfold reach? at reaches
  split at reaches
  · rename_i command layer state read inside followed
    rw [Option.ite_none_right_eq_some, Option.map_eq_some_iff] at reaches
    obtain ⟨⟨moves, absolute⟩, x, last, rfl⟩ := reaches
    have named : command.hasField 'X' = true := by
      by_contra unnamed
      rw [Command.last_x_of_unnamed unnamed] at last
      cases last
    exact ⟨line, command, layer, ⟨stands, read, moves, named, inside, state, followed, absolute⟩,
      last, rfl, rfl⟩
  · cases reaches

theorem SetsX.last_x (sets : SetsX policy lines index line command layer)
    (recorded : Print.ofLines policy lines = .ok print) : ∃ x, command.lastX? = some x := by
  obtain ⟨state, followed, absolute⟩ := sets.absolute
  obtain ⟨inside, same⟩ := List.getElem?_eq_some_iff.mp sets.stands
  rw [← List.take_append_drop index lines, List.drop_eq_getElem_cons inside, same] at recorded
  obtain ⟨recorder, next, stands, took⟩ := Print.taken_of_recorded recorded
  have further := (Recorder.stands_of_takes stands (Recorder.takes_of_take_line took)).machine
  rw [MachineState.follow_append, followed, ok_bind, MachineState.follow_of_command sets.read] at further
  obtain ⟨after, stepped, -⟩ := bind_eq_ok.mp further
  obtain ⟨code, known, applied⟩ := bind_eq_ok.mp stepped
  have moves := sets.moves
  rw [Command.is_move_eq known] at moves
  obtain ⟨x, last, -⟩ := MachineState.x_of_move absolute sets.named (MachineState.move_of_apply moves applied)
  exact ⟨x, last⟩

/-- The record of a print is the first of the least X that lines set inside layers. There is none exactly
if no line sets X; otherwise the record is the X, the layer and the text of such a line, no such line sets
X below it, and those in front of it set X above it. No X may be NaN: one that comes first is kept. -/
theorem Print.least_x_is_first_least (recorded : ofLines policy lines = .ok print)
    (numbers : ∀ index line command layer, SetsX policy lines index line command layer →
      command.lastX? ≠ some .nan) :
    (print.leastX = none ↔
      ∀ index line command layer, ¬ SetsX policy lines index line command layer) ∧
    ∀ record, print.leastX = some record →
      ∃ index line command layer, SetsX policy lines index line command layer ∧
        command.lastX? = some record.x ∧ record.layer = layer ∧ record.line = line.chomp ∧
        ∀ other line command layer, SetsX policy lines other line command layer →
          ∃ x, command.lastX? = some x ∧ record.x ≤ x ∧ (other < index → record.x < x) := by
  obtain ⟨recorder, taken, finished⟩ := bind_eq_ok.mp recorded
  have kept := Recorder.finish_least_x (map_error_eq_ok.mp finished)
  have first := Recorder.first_least_of_behind taken fun index set reaches isNan => by
    obtain ⟨line, command, layer, sets, last, -⟩ := sets_x_of_reach reaches
    exact numbers index line command layer sets (isNan ▸ last)
  have within : ∀ {other line command layer}, SetsX policy lines other line command layer →
      other < lines.length := fun sets => (List.getElem?_eq_some_iff.mp sets.stands).1
  rw [kept]
  refine ⟨⟨fun none other line command layer sets => ?_, fun never => ?_⟩, fun record found => ?_⟩
  · obtain ⟨x, last⟩ := sets.last_x recorded
    have reaches := sets.reach last
    rw [first.none none other (within sets)] at reaches
    cases reaches
  · cases found : recorder.leastX with
    | none => rfl
    | some record =>
      obtain ⟨index, -, reaches, -⟩ := first.attained record found
      obtain ⟨line, command, layer, sets, -⟩ := sets_x_of_reach reaches
      exact absurd sets (never index line command layer)
  · obtain ⟨index, -, reaches, least⟩ := first.attained record found
    obtain ⟨line, command, layer, sets, last, inLayer, onLine⟩ := sets_x_of_reach reaches
    refine ⟨index, line, command, layer, sets, last, inLayer, onLine, ?_⟩
    intro other otherLine otherCommand otherLayer otherSets
    obtain ⟨x, otherLast⟩ := otherSets.last_x recorded
    have compared := least other (within otherSets) _ (otherSets.reach otherLast)
    exact ⟨x, otherLast, compared.1, compared.2⟩

end

def leftmostProgram : List Text := [
  Text.of ";LAYER_COUNT:2", Text.of "M140 S60", Text.of "M104 S210", Text.of "G92 E0", Text.of "G0 X5 Y5 Z5",
  Text.of ";LAYER:0", Text.of "G0 X60 Y40 Z0.2", Text.of "G1 X3 X40.0 E1
", Text.of ";LAYER:1",
  Text.of "G91", Text.of "G0 X-30", Text.of "G90", Text.of "G1 X40 E2", Text.of "G0 X41",
  Text.of ";-- end code begin --", Text.of "G0 X0"]

theorem Print.least_x_is_first_least_in_layers :
    ∃ print, ofLines .reject leftmostProgram = .ok print ∧
      print.leastX = some ⟨40, 0, Text.of "G1 X3 X40.0 E1"⟩ ∧
      (∀ index line command layer, SetsX .reject leftmostProgram index line command layer →
        command.lastX? ≠ some .nan) ∧
      ∀ other line command layer, SetsX .reject leftmostProgram other line command layer →
        ∃ x, command.lastX? = some x ∧ 40 ≤ x := by
  have leftmost : succeedsWith (fun print => print.leastX == some ⟨40, 0, Text.of "G1 X3 X40.0 E1"⟩)
      (ofLines .reject leftmostProgram) = true := by decide +kernel
  obtain ⟨print, recorded, checked⟩ := exists_of_succeeds_with leftmost
  have reaches : ∀ index < leftmostProgram.length, ∀ set ∈ reachAt? .reject leftmostProgram index,
      set.x ≠ .nan := by decide +kernel
  have numbers : ∀ index line command layer, SetsX .reject leftmostProgram index line command layer →
      command.lastX? ≠ some .nan := fun index line command layer sets last =>
    reaches index (List.getElem?_eq_some_iff.mp sets.stands).1 _ (sets.reach last) rfl
  obtain ⟨_, _, _, _, _, _, _, _, least⟩ :=
    (least_x_is_first_least recorded numbers).2 _ (eq_of_beq checked)
  refine ⟨print, recorded, eq_of_beq checked, numbers, fun other line command layer sets => ?_⟩
  obtain ⟨x, last, le, -⟩ := least other line command layer sets
  exact ⟨x, last, le⟩

end PrintParts
