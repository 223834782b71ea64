import PrintParts.Proofs.Document.Rangewise
import PrintParts.Proofs.Scaffold.Gauged

/-!
The height limit of the documents. A height that a scaffold commands in absolute mode is at most the
limit wherever it is less than a one with fifteen zeros. From there on numbers are written with an
exponent, which the check cuts off: a program that goes that high is traced by the ironing of the next
part, and the part is written.
-/

namespace PrintParts

namespace Binary64

variable {maxZ : Binary64}

theorem lowest_le (isFinite : maxZ.isFinite = true) : infinite true ≤ maxZ := by
  cases maxZ with
  | nan => cases isFinite
  | infinite negative => cases isFinite
  | finite negative units fits =>
    refine le_iff_places.mpr ⟨_, _, rfl, rfl, ?_⟩
    have bounded := fits.2
    cases negative <;> simp only [signedUnits, if_true, Bool.false_eq_true, if_false] <;> omega

theorem highest_not_below : ¬ infinite false < exponentFrom := by decide +kernel

end Binary64

/-- A height that the check lets pass is at most the limit, unless it is written with an exponent. -/
theorem Field.height_of_within {field : Field} {maxZ : Binary64} (within : field.WithinLimit maxZ)
    (isFinite : maxZ.isFinite = true) (room : 10 ≤ maxZ) :
    ∃ height, field.value = .ok height ∧ (height < Binary64.exponentFrom → height ≤ maxZ) := by
  obtain ⟨⟨value, text⟩, notAbove⟩ := within
  cases value with
  | nan =>
    have read : Binary64.ofText? field.text = some .nan := by
      rw [text]
      decide
    exact ⟨_, Field.value_eq_ok_iff.mpr read, fun below => absurd below (Binary64.not_nan_lt _)⟩
  | infinite negative =>
    have read : Binary64.ofText? field.text = some (.infinite negative) := by
      rw [text]
      cases negative <;> decide
    refine ⟨_, Field.value_eq_ok_iff.mpr read, fun below => ?_⟩
    cases negative with
    | true => exact Binary64.lowest_le isFinite
    | false => exact absurd below Binary64.highest_not_below
  | finite negative units fits =>
    obtain ⟨height, read, number, belowZero, unsigned⟩ := Binary64.read_to_text negative units fits
    rw [← text] at read
    refine ⟨height, Field.value_eq_ok_iff.mpr read, fun below => ?_⟩
    cases negative with
    | true =>
      have low : height ≤ 10 := Binary64.le_trans (belowZero rfl) (by decide +kernel)
      exact Binary64.le_trans low room
    | false =>
      rcases unsigned rfl with positional | small | large
      · have passed := notAbove _ (text.trans (Binary64.to_text_finite false units fits)) positional
        rw [parameterValue, read] at passed
        exact Binary64.le_of_not_lt number (Binary64.number_of_finite isFinite) passed
      · have low : height ≤ 10 := Binary64.le_trans small (by decide +kernel)
        exact Binary64.le_trans low room
      · exact absurd below (Binary64.not_lt_of_le large)

namespace Scaffold

section

variable {settings : Settings} {print : Print} {layer : Layer} {part : Int}

theorem inherited_not_above {height : Binary64}
    (inherits : settings.inheritedZ print layer part = .ok height) : ¬ settings.maxZ < height := by
  obtain ⟨z, -, inherits⟩ := bind_eq_ok.mp inherits
  have bounded : ∀ other, (if settings.maxZ < other then
      Except.error (Fault.inheritedTooHigh other settings.maxZ).raise else Except.ok other) =
        Except.ok height → ¬ settings.maxZ < height := by
    intro other chosen
    split at chosen
    · cases chosen
    · rename_i room
      cases chosen
      exact room
  dsimp only at inherits
  split at inherits
  · exact bounded _ inherits
  · obtain ⟨other, -, chosen⟩ := bind_eq_ok.mp inherits
    exact bounded other chosen

theorem scaffold_within {context : CheckContext} {lines : List Line}
    (gauged : ∀ line ∈ lines, line.Gauged) {issues : List Issue}
    (passes : Passes check context (lines.map Line.toText) issues) (modes : Modes) :
    ∀ field ∈ absoluteHeights modes (lines.map Line.toText), field.WithinLimit context.maxZ := by
  have clean := passes.errors
  obtain ⟨⟨found, state⟩, walked, examined⟩ := bind_eq_ok.mp passes.1
  cases examined
  exact heights_within gauged (fun _ => rfl) walked (errors_append clean).1

theorem heights_of_steady {lines : List Line} (steady : ∀ line ∈ lines, line.Steady) {modes : Modes}
    (absolute : modes.xyz = .absolute) {line : Line} (member : line ∈ lines) {field : Field}
    (commanded : field ∈ (Command.ofLine line.toText).heights) :
    field ∈ absoluteHeights modes (lines.map Line.toText) := by
  induction lines with
  | nil => cases member
  | cons other lines induction =>
    have later := fun next inLines => steady next (List.mem_cons_of_mem _ inLines)
    rw [List.map_cons, absoluteHeights, if_pos absolute, steady other List.mem_cons_self]
    rcases List.mem_cons.mp member with rfl | behind
    · exact List.mem_append_left _ commanded
    · exact List.mem_append_right _ (induction later behind)

theorem park_height {point : ResumePoint} {prime ironing : List Line}
    (primes : settings.primeLines part point.nozzle = .ok prime)
    (irons : IsIroning print ironing) (modes : Modes) :
    numberField 'Z' point.homing.clearZ ∈ absoluteHeights modes
      ((settings.openingAt point layer.number part prime ironing).map Line.toText) := by
  have steady := behind_absolute_steady primes irons
  have park : bare "G0" [numberField 'Z' point.homing.clearZ] ∈
      settings.behindLines point part prime ironing := by
    simp [Settings.behindLines, Settings.parkLines]
  have commanded : numberField 'Z' point.homing.clearZ ∈
      (Command.ofLine (bare "G0" [numberField 'Z' point.homing.clearZ]).toText).heights := by
    have gauged : (bare "G0" [numberField 'Z' point.homing.clearZ]).Gauged := by
      simp +decide [bare]
    rw [bare, heights_of_code gauged, if_pos (by decide)]
    simp
  rw [Settings.opening_at_eq, List.map_append, List.map_append, absolute_heights_append,
    absolute_heights_append, absolute_lines_modes]
  apply List.mem_append_right
  apply List.mem_append_right
  exact heights_of_steady steady rfl park commanded

theorem park_below (isFinite : settings.maxZ.isFinite = true)
    (within : (numberField 'Z' parkZ).WithinLimit settings.maxZ) : 10 ≤ settings.maxZ := by
  have text : (numberField 'Z' parkZ).text = Text.ofChars ['1', '0'] := by decide +kernel
  have positional : IsPositional ['1', '0'] :=
    ⟨['1', '0'], [], List.cons_ne_nil _ _,
      List.all_eq_true.mp (rfl : ['1', '0'].all Char.isDigit = true),
      (fun _ member => nomatch member), .inl rfl⟩
  have value : parameterValue (Text.ofChars ['1', '0']) = 10 := by decide +kernel
  have passed := within.notAbove _ text positional
  rw [text, value] at passed
  exact Binary64.le_of_not_lt (by decide +kernel) (Binary64.number_of_finite isFinite) passed

theorem room_of_opening {part : Nat} {opening : List Line} (isFinite : settings.maxZ.isFinite = true)
    (opens : settings.opening print layer part = .ok opening)
    (within : ∀ field ∈ absoluteHeights ⟨.absolute, .absolute⟩ (opening.map Line.toText),
      field.WithinLimit settings.maxZ) : 10 ≤ settings.maxZ := by
  obtain ⟨point, prime, ironing, resumes, primes, irons, rfl⟩ := Settings.opening_eq_ok opens
  have resumed := Settings.resume_point_eq_ok resumes
  have parked := within _ (park_height primes irons _)
  cases homing : point.homing with
  | full =>
    rw [homing] at parked
    exact park_below isFinite parked
  | declared z =>
    rw [homing, Homing.clearZ, Binary64.greater] at parked
    -- A height above the parking height can be beyond what the check reads, but it was compared with
    -- the limit when it was inherited.
    split at parked
    · rename_i higher
      have continued : (0 : Int) < part := by
        rcases Nat.eq_zero_or_pos part with rfl | positive
        · rw [resumed.whole rfl] at homing
          cases homing
        · exact Int.natCast_pos.mpr positive
      obtain ⟨height, inherits, declared⟩ := resumed.continued continued
      rw [homing] at declared
      cases declared
      have number : z ≠ .nan := by
        rintro rfl
        exact Binary64.not_lt_nan _ higher
      have low : z ≤ settings.maxZ := Binary64.le_of_not_lt number
        (Binary64.number_of_finite isFinite) (inherited_not_above inherits)
      exact Binary64.le_trans (Binary64.le_of_lt higher) low
    · exact park_below isFinite parked

end

end Scaffold

namespace Document

open Scaffold

/-- The texts of a document that do not come from the program. -/
def scaffolds (document : Document) : List (List Text) :=
  [document.opening, document.afterFirstLayer, document.closing]

section

variable {policy : OverridePolicy} {program : List Text} {print : Print} {settings : Settings}

theorem scaffolds_within (recorded : Print.ofLines policy program = .ok print) {range : PartRange}
    {document : Document}
    (made : ofRange (.ofSettings settings) Scaffold.check print range = .ok document) :
    (∀ scaffold ∈ document.scaffolds, ∀ modes, ∀ field ∈ absoluteHeights modes scaffold,
      field.WithinLimit settings.maxZ) ∧
    (settings.maxZ.isFinite = true → 10 ≤ settings.maxZ) := by
  obtain ⟨described, _, _, _, openingPasses, afterPasses, closingPasses, -⟩ := is_of_range made
  obtain ⟨openingLines, opens, openingText⟩ := map_eq_ok.mp described.opening
  obtain ⟨afterLines, follows, afterText⟩ := map_eq_ok.mp (map_error_eq_ok.mp described.afterFirstLayer)
  obtain ⟨closingLines, closes, closingText⟩ := map_eq_ok.mp (map_error_eq_ok.mp described.closing)
  obtain ⟨z, lifted, -, -, rfl⟩ := Settings.closing_eq_ok closes
  rw [← openingText] at openingPasses
  rw [← afterText] at afterPasses
  rw [← closingText] at closingPasses
  have openingWithin := scaffold_within (opening_gauged recorded opens) openingPasses
  have afterWithin := scaffold_within (after_first_layer_gauged follows) afterPasses
  have closingWithin := scaffold_within (closing_gauged lifted) closingPasses
  refine ⟨?_, fun isFinite => room_of_opening isFinite opens ?_⟩
  · intro scaffold member modes
    simp only [scaffolds, List.mem_cons, List.not_mem_nil, or_false] at member
    rcases member with rfl | rfl | rfl
    · exact openingText ▸ openingWithin modes
    · exact afterText ▸ afterWithin modes
    · exact closingText ▸ closingWithin modes
  · exact openingWithin _

/-- Every height that a scaffold of a document commands in absolute mode is a number, and it is at
most the limit if it is less than the numbers that are written with an exponent. With a limit below
these it is at most the limit exactly then. -/
theorem heights_below_limit (recorded : Print.ofLines policy program = .ok print) {plan : Plan}
    (complete : plan.layerCount = print.layers.size) (isFinite : settings.maxZ.isFinite = true)
    {documents : List Document}
    (rendered : render (.ofSettings settings) Scaffold.check print plan = .ok documents) :
    ∀ document ∈ documents, ∀ scaffold ∈ document.scaffolds, ∀ modes,
      ∀ field ∈ absoluteHeights modes scaffold, ∃ height, field.value = .ok height ∧
        (height < Binary64.exponentFrom → height ≤ settings.maxZ) ∧
        (settings.maxZ < Binary64.exponentFrom →
          (height ≤ settings.maxZ ↔ height < Binary64.exponentFrom)) := by
  intro document member scaffold inDocument modes field commanded
  rw [render_eq_of_ranges (Print.layers_numbered recorded) complete] at rendered
  obtain ⟨range, -, made⟩ := exists_of_map_m rendered member
  obtain ⟨within, room⟩ := scaffolds_within recorded made
  obtain ⟨height, read, bounded⟩ := Field.height_of_within
    (within scaffold inDocument modes field commanded) isFinite (room isFinite)
  refine ⟨height, read, bounded, fun limited => ⟨fun low => ?_, bounded⟩⟩
  exact Binary64.lt_of_le_of_lt low limited

end

def climbingProgram (height : String) : List Text := [
  Text.of "M140 S60", Text.of "M104 S210", Text.of "G92 E0", Text.of ";LAYER_COUNT:2",
  Text.of ";LAYER:0", Text.of "G0 X40 Y40 Z0.2", Text.of "G1 X60 E1",
  Text.of "G0 Z" ++ Text.of height, Text.of "G0 Z0.4",
  Text.of ";LAYER:1", Text.of "G0 X40 Y40 Z0.4", Text.of "G1 X60 E2",
  Text.of ";-- end code begin --"]

def twoLayerPlan : Plan := .singleLayers 2 Nat.two_pos

def tracingSettings : Settings := { iron := true }

def tracesWith (test : List Document → Bool) (print : Print) : Bool :=
  print.layers.size == twoLayerPlan.layerCount &&
    succeedsWith test (render (.ofSettings tracingSettings) Scaffold.check print twoLayerPlan)

theorem exists_of_traces_with {test : List Document → Bool} {program : List Text}
    (checked : succeedsWith (tracesWith test) (Print.ofLines .reject program) = true) :
    ∃ print documents, Print.ofLines .reject program = .ok print ∧
      twoLayerPlan.layerCount = print.layers.size ∧
      render (.ofSettings tracingSettings) Scaffold.check print twoLayerPlan = .ok documents ∧
      test documents = true := by
  obtain ⟨print, recorded, both⟩ := exists_of_succeeds_with checked
  obtain ⟨size, made⟩ := (Bool.and_eq_true _ _).mp both
  obtain ⟨documents, rendered, passed⟩ := exists_of_succeeds_with made
  exact ⟨print, documents, recorded, (eq_of_beq size).symm, rendered, passed⟩

/-- A document that commands the height with this text while positions are absolute. -/
def commands (text : String) (document : Document) : Bool :=
  document.scaffolds.any fun scaffold =>
    (absoluteHeights ⟨.absolute, .absolute⟩ scaffold).any fun field =>
      decide (field.text = Text.of text)

theorem exists_of_commands {text : String} {documents : List Document}
    (commanded : documents.any (commands text) = true) :
    ∃ document ∈ documents, ∃ scaffold ∈ document.scaffolds,
      ∃ field ∈ absoluteHeights ⟨.absolute, .absolute⟩ scaffold, field.text = Text.of text := by
  obtain ⟨document, member, commanded⟩ := List.any_eq_true.mp commanded
  obtain ⟨scaffold, inDocument, commanded⟩ := List.any_eq_true.mp commanded
  obtain ⟨field, inScaffold, same⟩ := List.any_eq_true.mp commanded
  exact ⟨document, member, scaffold, inDocument, field, inScaffold, of_decide_eq_true same⟩

theorem heights_below_limit_of_low_climb : ∃ print documents,
    Print.ofLines .reject (climbingProgram "200") = .ok print ∧
    render (.ofSettings tracingSettings) Scaffold.check print twoLayerPlan = .ok documents ∧
    ∃ document ∈ documents, ∃ scaffold ∈ document.scaffolds,
      ∃ field ∈ absoluteHeights ⟨.absolute, .absolute⟩ scaffold, field.text = Text.of "200" ∧
        ∃ height, field.value = .ok height ∧ height ≤ tracingSettings.maxZ := by
  have checked : succeedsWith (tracesWith fun documents => documents.any (commands "200"))
      (Print.ofLines .reject (climbingProgram "200")) = true := by decide +kernel
  obtain ⟨print, documents, recorded, complete, rendered, commanded⟩ := exists_of_traces_with checked
  obtain ⟨document, member, scaffold, inDocument, field, inScaffold, text⟩ :=
    exists_of_commands commanded
  obtain ⟨height, read, low, -⟩ := heights_below_limit recorded complete (by decide +kernel) rendered
    document member scaffold inDocument _ field inScaffold
  have value : Binary64.ofText? field.text = some 200 := by
    rw [text]
    decide +kernel
  have known : height = 200 :=
    Option.some.inj ((Field.value_eq_ok_iff.mp read).symm.trans value)
  have below : height < Binary64.exponentFrom := by
    rw [known]
    decide +kernel
  exact ⟨print, documents, recorded, rendered, document, member, scaffold, inDocument, field,
    inScaffold, text, height, read, low below⟩

/-- A layer that goes up to a one with fifteen zeros is traced there by the next part, which is
accepted. -/
theorem climbs_above_limit : ∃ print documents,
    Print.ofLines .reject (climbingProgram "1000000000000000") = .ok print ∧
    twoLayerPlan.layerCount = print.layers.size ∧
    render (.ofSettings tracingSettings) Scaffold.check print twoLayerPlan = .ok documents ∧
    ∃ document ∈ documents, ∃ scaffold ∈ document.scaffolds,
      ∃ field ∈ absoluteHeights ⟨.absolute, .absolute⟩ scaffold, ∃ height,
        field.value = .ok height ∧ ¬ height ≤ tracingSettings.maxZ := by
  have checked : succeedsWith (tracesWith fun documents => documents.any (commands "1e+15"))
      (Print.ofLines .reject (climbingProgram "1000000000000000")) = true := by decide +kernel
  obtain ⟨print, documents, recorded, complete, rendered, commanded⟩ := exists_of_traces_with checked
  obtain ⟨document, member, scaffold, inDocument, field, inScaffold, text⟩ :=
    exists_of_commands commanded
  have read : Binary64.ofText? field.text = some 1000000000000000 := by
    rw [text]
    decide +kernel
  exact ⟨print, documents, recorded, complete, rendered, document, member, scaffold, inDocument,
    field, inScaffold, _, Field.value_eq_ok_iff.mpr read, by decide +kernel⟩

end Document

end PrintParts
