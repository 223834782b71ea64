import PrintParts.Proofs.Document.Rangewise
import PrintParts.Proofs.Scaffold.Execution

/-!
The height is handed on from part to part. A closing lifts the nozzle off the last layer of its part,
and the opening of the next part declares the height at which the nozzle was left: both come from the
state between two layers, so they are written with the same text.
-/

namespace PrintParts

/-- The Z text of a command, if it has this mnemonic. -/
def Command.heightText? (mnemonic : String) (command : Command) : Option Text :=
  if command.mnemonic = Text.of mnemonic then (command.field? 'Z').map (·.text) else none

def heightTexts (mnemonic : String) (lines : List Text) : List Text :=
  lines.filterMap fun line => (Command.ofLine line).heightText? mnemonic

namespace Scaffold

namespace Line

variable {line : Line} {holds : Field → Prop}

theorem height_of_line {mnemonic : String}
    (looked : (Code.ofMnemonic? (Text.of mnemonic)).any Code.readsFields = true)
    (reads : line.Reads holds) :
    (Command.ofLine line.toText).heightText? mnemonic = line.command.heightText? mnemonic := by
  -- The fields are read back only where a printer looks at them; other lines differ in the mnemonic.
  by_cases named : line.command.mnemonic = Text.of mnemonic
  · have plain : line.Plain := by
      cases line with
      | blank => trivial
      | remark text => trivial
      | code word fields note =>
        have same : word = Text.of mnemonic := named
        exact ⟨reads.1, fun field member => (reads.2 (same ▸ looked) field member).1⟩
    rw [of_line_to_text plain]
  · have other := mnemonic_of_line_to_text (named_of_reads reads)
    rw [Command.heightText?, Command.heightText?, if_neg named, if_neg (other ▸ named)]

end Line

/-- The Z texts of lines in the form in which they were made. -/
def lineHeights (mnemonic : String) (lines : List Line) : List Text :=
  lines.filterMap fun line => line.command.heightText? mnemonic

theorem heights_of_lines {mnemonic : String} {lines : List Line} {holds : Field → Prop}
    (looked : (Code.ofMnemonic? (Text.of mnemonic)).any Code.readsFields = true)
    (reads : ∀ line ∈ lines, line.Reads holds) :
    heightTexts mnemonic (lines.map Line.toText) = lineHeights mnemonic lines := by
  rw [heightTexts, lineHeights, List.filterMap_map]
  apply List.filterMap_congr
  intro line member
  exact Line.height_of_line looked (reads line member)

def Line.SparesHeight (line : Line) : Prop := line.command.heightText? "G92" = none

@[simp]
theorem code_spares_height (mnemonic : Text) (fields : List Field) (note : Option Text) :
    (Line.code mnemonic fields note).SparesHeight ↔ (mnemonic = Text.of "G92" →
      ∀ field ∈ fields, field.isNamed 'Z' = false) := by
  by_cases declares : mnemonic = Text.of "G92"
  · simp [Line.SparesHeight, Command.heightText?, Command.field?, Line.command, declares]
  · simp [Line.SparesHeight, Command.heightText?, Line.command, declares]

@[simp]
theorem blank_spares_height : Line.blank.SparesHeight := rfl

@[simp]
theorem remark_spares_height (text : Text) : (Line.remark text).SparesHeight := rfl

theorem line_heights_append (mnemonic : String) (first second : List Line) :
    lineHeights mnemonic (first ++ second) =
      lineHeights mnemonic first ++ lineHeights mnemonic second :=
  List.filterMap_append

theorem no_heights {lines : List Line} (spare : ∀ line ∈ lines, line.SparesHeight) :
    lineHeights "G92" lines = [] :=
  List.filterMap_eq_nil_iff.mpr spare

def liftLine (height : Binary64) : Line :=
  bare "G0" [numberField 'Z' height, fixedField 'F' "4500"]

def heightLine (height : Binary64) : Line :=
  noted "G92" [numberField 'Z' height] " set Z without homing"

theorem closing_heights (settings : Settings) (lifted : Binary64) :
    lineHeights "G0" (settings.closingAt lifted) = [lifted.toText] := by
  simp +decide [lineHeights, Settings.closingAt, noted, bare, remark, Line.command,
    Command.heightText?, Command.field?]
  rfl

theorem homing_heights (z : Binary64) :
    lineHeights "G92" (Homing.declared z).lines = [z.toText] := by
  simp +decide [lineHeights, Homing.lines, noted, Line.command, Command.heightText?,
    Command.field?]
  rfl

section

variable {settings : Settings} {print : Print} {layer : Layer} {part : Int}

theorem behind_spares_height {point : ResumePoint} {prime ironing : List Line}
    (primes : settings.primeLines part point.nozzle = .ok prime)
    (irons : IsIroning print ironing) :
    ∀ line ∈ settings.behindLines point part prime ironing, line.SparesHeight := by
  apply Settings.forall_behind_lines Line.SparesHeight primes
  · simp +decide [Settings.parkLines, noted, bare]
  · simp +decide [Settings.bedPrimeLines, heatNozzle, remark, noted]
  · simp +decide [Settings.airPrimeLines, heatNozzle, remark, noted]
  · simp +decide [ResumePoint.approachLines, remark, noted, bare]
  · apply Settings.forall_ironing Line.SparesHeight irons
    simp +decide [ironingAround, ironingLine, remark, noted, or_imp, forall_and]
  · simp +decide [ResumePoint.restoreLines, remark, noted, bare]
  · intro fan note
    cases fan <;> simp +decide [fanLine]
  · unfold Settings.firstLayerRates
    split <;> simp +decide [noted]

theorem leading_heights (settings : Settings) (point : ResumePoint) (layer part : Int) :
    lineHeights "G92" (settings.leadingLines point layer part) =
      lineHeights "G92" point.homing.lines := by
  have first : lineHeights "G92" (settings.firstLines point layer part) = [] := by
    apply no_heights
    apply Settings.forall_first_lines Line.SparesHeight
    · simp
    · simp
    · simp +decide [noted]
    · simp +decide [ResumePoint.heatBedLines, noted]
  have leveling : lineHeights "G92" [.blank,
      noted "M420" [fixedField 'S' "1"] " Enable mesh leveling", .blank] = [] := by
    apply no_heights
    simp +decide [noted]
  rw [Settings.leading_lines_eq, line_heights_append, line_heights_append, first, leveling,
    List.nil_append, List.append_nil]

theorem opening_heights {opening : List Line}
    (opens : settings.opening print layer part = .ok opening) (continued : 0 < part) :
    ∃ height, settings.inheritedZ print layer part = .ok height ∧
      lineHeights "G92" opening = [height.toText] ∧ heightLine height ∈ opening := by
  obtain ⟨point, prime, ironing, resumes, primes, irons, rfl⟩ := Settings.opening_eq_ok opens
  obtain ⟨height, inherits, declared⟩ := (Settings.resume_point_eq_ok resumes).continued continued
  have absolute : ∀ line ∈ Settings.absoluteLines, line.SparesHeight := by
    simp +decide [Settings.absoluteLines, noted]
  refine ⟨height, inherits, ?_, ?_⟩
  · rw [Settings.opening_at_eq, line_heights_append, line_heights_append, leading_heights,
      no_heights absolute, no_heights (behind_spares_height primes irons), declared, homing_heights]
    rfl
  · simp [Settings.openingAt, declared, Homing.lines, heightLine]

end

end Scaffold

namespace Document

open Scaffold

/-- Two documents part at two heights: the first one ends with a lift to `lift`, and the second one
declares that the nozzle stands at `height`. Neither lifts to or declares another one. -/
structure PartAt (lift height : Binary64) (lower upper : Document) : Prop where
  lifts : (liftLine lift).toText ∈ lower.closing
  onlyLift : heightTexts "G0" lower.closing = [lift.toText]
  declares : (heightLine height).toText ∈ upper.opening
  onlyDeclared : heightTexts "G92" upper.opening = [height.toText]

def MeetAt (height : Binary64) : Document → Document → Prop := PartAt height height

section

variable {settings : Settings} {print : Print} {layer : Layer} {part : Int} {lines : List Text}

theorem closing_lifts {totalParts : Int}
    (closes : (Generator.ofSettings settings).closing layer part totalParts = .ok lines)
    (continued : part ≠ totalParts - 1) :
    ∃ z, layer.exitState.position.z = .absolute z ∧ ¬ settings.maxZ < z + settings.hop ∧
      (liftLine (z + settings.hop)).toText ∈ lines ∧
      heightTexts "G0" lines = [(z + settings.hop).toText] := by
  obtain ⟨closing, made, rfl⟩ := map_eq_ok.mp (map_error_eq_ok.mp closes)
  obtain ⟨z, lifted, ended, lifts, rfl⟩ := Settings.closing_eq_ok made
  obtain ⟨rfl, room⟩ := Settings.lifted_of_continued continued lifts
  refine ⟨z, ended, room, ?_, ?_⟩
  · apply List.mem_map_of_mem
    simp [Settings.closingAt, liftLine]
  · rw [heights_of_lines (by decide) (closing_reads (plain_rule settings) _), closing_heights]

theorem opening_declares {policy : OverridePolicy} {program : List Text}
    (recorded : Print.ofLines policy program = .ok print)
    (opens : (Generator.ofSettings settings).opening print layer part = .ok lines)
    (continued : 0 < part) :
    ∃ height, settings.inheritedZ print layer part = .ok height ∧ (heightLine height).toText ∈ lines ∧
      heightTexts "G92" lines = [height.toText] := by
  obtain ⟨opening, made, rfl⟩ := map_eq_ok.mp opens
  obtain ⟨height, inherits, declared, stands⟩ := opening_heights made continued
  refine ⟨height, inherits, List.mem_map_of_mem stands, ?_⟩
  rw [heights_of_lines (by decide) (opening_reads (plain_rule settings) recorded made), declared]

/-- A part that is continued ends in the state in which the next one begins. -/
theorem state_between_parts {policy : OverridePolicy} {program : List Text}
    (recorded : Print.ofLines policy program = .ok print) (orderly : NoLayerBehindEnd program)
    {plan : Plan} (complete : plan.layerCount = print.layers.size) {index : Nat}
    (next : index + 1 < plan.totalParts) :
    print.layers[(plan.part index).last]!.exitState =
      print.layers[(plan.part (index + 1)).first]!.entry := by
  have inside : (plan.part index).last + 1 < print.layers.size := by
    rw [← plan.next_part_first next, ← complete]
    exact (plan.index_lt_total_parts_iff (index + 1)).mp next
  have continues := (Print.layers_continue recorded orderly).getElem (plan.part index).last inside
  have below := getElem!_pos print.layers (plan.part index).last (Nat.lt_of_succ_lt inside)
  have above := getElem!_pos print.layers ((plan.part index).last + 1) inside
  simp only [Array.getElem_toList] at continues
  rw [plan.next_part_first next, below, above, Layer.exitState, continues]
  rfl

/-- The documents of neighbouring parts: the first one lifts a hop above the place where it ends, which the
limit never lowers, and the second one declares the height that it inherits at this place. -/
theorem neighbours_part {policy : OverridePolicy} {program : List Text}
    (recorded : Print.ofLines policy program = .ok print) (orderly : NoLayerBehindEnd program)
    {plan : Plan} (complete : plan.layerCount = print.layers.size) {check : Checker}
    {documents : List Document}
    (rendered : render (.ofSettings settings) check print plan = .ok documents) {index : Nat}
    (next : index + 1 < plan.totalParts) :
    ∃ lower upper z height, documents[index]? = some lower ∧ documents[index + 1]? = some upper ∧
      print.layers[(plan.part index).last]!.exitState.position.z = .absolute z ∧
      print.layers[(plan.part (index + 1)).first]!.entry.position.z = .absolute z ∧
      ¬ settings.maxZ < z + settings.hop ∧
      settings.inheritedZ print print.layers[(plan.part (index + 1)).first]! (index + 1 : Nat) =
        .ok height ∧
      PartAt (z + settings.hop) height lower upper := by
  have numbered := Print.layers_numbered recorded
  obtain ⟨lower, foundLower, ofLower⟩ :=
    document_of_part numbered complete rendered (Nat.lt_of_succ_lt next)
  obtain ⟨upper, foundUpper, ofUpper⟩ := document_of_part numbered complete rendered next
  have continued : ((plan.part index).index : Int) ≠ ((plan.part index).totalParts : Int) - 1 := by
    simp only [Plan.part]
    omega
  have behind : (0 : Int) < (plan.part (index + 1)).index := by
    simp only [Plan.part]
    omega
  obtain ⟨z, ended, room, lift, onlyLift⟩ := closing_lifts ofLower.closing continued
  obtain ⟨height, inherits, declares, onlyDeclared⟩ := opening_declares recorded ofUpper.opening behind
  -- The end of the lower part and the beginning of the upper one are the same state.
  have same := state_between_parts recorded orderly complete next
  exact ⟨lower, upper, z, height, foundLower, foundUpper, ended, same ▸ ended, room, inherits, lift,
    onlyLift, declares, onlyDeclared⟩

/-- Without compression the documents of neighbouring parts meet at the hop above the place where the
first one ends. The limit never lowers the lift of a part that is continued. -/
theorem neighbours_meet {policy : OverridePolicy} {program : List Text}
    (recorded : Print.ofLines policy program = .ok print) (orderly : NoLayerBehindEnd program)
    {plan : Plan} (complete : plan.layerCount = print.layers.size)
    (uncompressed : settings.zCompression.isZero = true) {check : Checker}
    {documents : List Document}
    (rendered : render (.ofSettings settings) check print plan = .ok documents) {index : Nat}
    (next : index + 1 < plan.totalParts) :
    ∃ lower upper z, documents[index]? = some lower ∧ documents[index + 1]? = some upper ∧
      print.layers[(plan.part index).last]!.exitState.position.z = .absolute z ∧
      ¬ settings.maxZ < z + settings.hop ∧ MeetAt (z + settings.hop) lower upper := by
  obtain ⟨lower, upper, z, height, foundLower, foundUpper, ended, entered, room, inherits, parted⟩ :=
    neighbours_part recorded orderly complete rendered next
  obtain ⟨start, enters, rfl⟩ := Settings.inherited_eq_ok uncompressed inherits
  obtain rfl : start = z := AxisValue.absolute.inj (enters.symm.trans entered)
  exact ⟨lower, upper, start, foundLower, foundUpper, ended, room, parted⟩

theorem neighbours_meet_at_fourth_layer : ∃ print documents,
    Print.ofLines .reject fourLayerProgram = .ok print ∧
    render (.ofSettings {}) Scaffold.check print threeLayerPlan = .ok documents ∧
    ∃ lower upper z, documents[0]? = some lower ∧ documents[1]? = some upper ∧
      MeetAt (z + Settings.hop {}) lower upper := by
  have checked : succeedsWith (fun print => print.layers.size == 4 && succeedsWith (fun _ => true)
        (render (.ofSettings {}) Scaffold.check print threeLayerPlan))
      (Print.ofLines .reject fourLayerProgram) = true := by decide +kernel
  obtain ⟨print, recorded, both⟩ := exists_of_succeeds_with checked
  obtain ⟨size, made⟩ := (Bool.and_eq_true _ _).mp both
  obtain ⟨documents, rendered, -⟩ := exists_of_succeeds_with made
  have next : 0 + 1 < threeLayerPlan.totalParts := by decide
  obtain ⟨lower, upper, z, foundLower, foundUpper, -, -, meet⟩ :=
    neighbours_meet recorded (by decide +kernel) (eq_of_beq size).symm (by decide +kernel) rendered
      next
  exact ⟨print, documents, recorded, rendered, lower, upper, z, foundLower, foundUpper, meet⟩

end

end Document

end PrintParts
