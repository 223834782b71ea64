import PrintParts.Document
import PrintParts.Proofs.Machine.Frame
import PrintParts.Proofs.Recording.Whole
import PrintParts.Proofs.Scaffold.Sections

/-!
The temperature at which an opening leaves the nozzle. Priming heats it to that of the layer to come,
ironing to that of the layer below, and nothing behind ironing heats it again. So it is the temperature
of the layer exactly if the ironed layer began with the same one.
-/

namespace PrintParts

def Code.setsNozzle : Code → Bool
  | .setNozzle | .waitNozzle => true
  | _ => false

def Command.setsNozzle (command : Command) : Bool :=
  (Code.ofMnemonic? command.mnemonic).any Code.setsNozzle

/-- What the commands among some lines that set the nozzle name as its temperature, in their order. -/
def nozzleTexts (lines : List Text) : List (Option Text) :=
  ((lines.map Command.ofLine).filter Command.setsNozzle).map fun command =>
    (command.field? 'S').map Field.text

/-- The temperature in force behind some lines, which is that of the last command that sets it. -/
def nozzleBehind (lines : List Text) : Option Text := (nozzleTexts lines).getLast?.join

theorem nozzle_texts_append (first second : List Text) :
    nozzleTexts (first ++ second) = nozzleTexts first ++ nozzleTexts second := by
  rw [nozzleTexts, List.map_append, List.filter_append, List.map_append]
  rfl

namespace MachineState

variable {state after : MachineState} {inLayer : Bool} {policy : OverridePolicy}
  {target : Binary64}

theorem follow_keeps_first_nozzle {lines : List Text} (first : state.nozzle.initial = some target)
    (followed : state.follow inLayer policy lines = .ok after) :
    after.nozzle.initial = some target :=
  fold_m_preserves (fun state _ => state.nozzle.initial = some target)
    (fun _ _ _ _ first stepped => step_keeps_first_nozzle first stepped) first followed

end MachineState

namespace Print

variable {policy : OverridePolicy} {lines : List Text} {print : Print}

theorem first_nozzle_stays {start : MachineState} {earlier later : Nat} (ordered : earlier ≤ later)
    {before after : MachineState} {target : Binary64}
    (reached : start.follow false policy (lines.take earlier) = .ok before)
    (goesOn : start.follow false policy (lines.take later) = .ok after)
    (first : before.nozzle.initial = some target) : after.nozzle.initial = some target := by
  have split : lines.take later = lines.take earlier ++ (lines.take later).drop earlier := by
    conv_lhs => rw [← List.take_append_drop earlier (lines.take later)]
    rw [List.take_take, Nat.min_eq_left ordered]
  rw [split, MachineState.follow_append, reached, ok_bind] at goesOn
  exact MachineState.follow_keeps_first_nozzle first goesOn

theorem first_nozzle_shared (recorded : ofLines policy lines = .ok print) {left right : Layer}
    (leftInPrint : left ∈ print.layers.toList) (rightInPrint : right ∈ print.layers.toList)
    {target other : Binary64} (leftFirst : left.entry.nozzle.initial = some target)
    (rightFirst : right.entry.nozzle.initial = some other) : target = other := by
  obtain ⟨before, leftEntered⟩ := entry_of_layer recorded left leftInPrint
  obtain ⟨behind, rightEntered⟩ := entry_of_layer recorded right rightInPrint
  rcases Nat.le_total before behind with ordered | ordered
  · have stays := first_nozzle_stays ordered leftEntered rightEntered leftFirst
    exact Option.some.inj (stays.symm.trans rightFirst)
  · have stays := first_nozzle_stays ordered rightEntered leftEntered rightFirst
    exact Option.some.inj (leftFirst.symm.trans stays)

end Print

namespace Scaffold

def SparesNozzle (mnemonic : Text) : Prop :=
  IsMnemonic mnemonic ∧ (Code.ofMnemonic? mnemonic).any Code.setsNozzle = false

def HeatsNozzle (mnemonic : Text) : Prop :=
  IsMnemonic mnemonic ∧ (Code.ofMnemonic? mnemonic).any Code.setsNozzle = true

instance (mnemonic : Text) : Decidable (SparesNozzle mnemonic) :=
  inferInstanceAs (Decidable (_ ∧ _))

instance (mnemonic : Text) : Decidable (HeatsNozzle mnemonic) :=
  inferInstanceAs (Decidable (_ ∧ _))

namespace Line

/-- A line that does not set the nozzle. -/
def Cool (line : Line) : Prop := (Command.ofLine line.toText).setsNozzle = false

@[simp]
theorem blank_cool : blank.Cool := rfl

@[simp]
theorem remark_cool (text : Text) : (remark text).Cool := rfl

@[simp]
theorem code_cool {mnemonic : Text} (spares : SparesNozzle mnemonic) (fields : List Field)
    (note : Option Text) : (code mnemonic fields note).Cool := by
  rw [Cool, Command.setsNozzle,
    mnemonic_of_line_to_text (show (code mnemonic fields note).Named from spares.1)]
  exact spares.2

end Line

theorem nozzle_texts_cool {lines : List Line} (cool : ∀ line ∈ lines, line.Cool) :
    nozzleTexts (lines.map Line.toText) = [] := by
  rw [nozzleTexts, List.map_map, List.map_eq_nil_iff, List.filter_eq_nil_iff, List.forall_mem_map]
  intro line member
  rw [Function.comp_apply, cool line member]
  exact Bool.false_ne_true

theorem nozzle_texts_heat (mnemonic : String) (heats : HeatsNozzle (Text.of mnemonic))
    (nozzle : Binary64) (note : String) :
    nozzleTexts [(noted mnemonic [numberField 'S' nozzle] note).toText] =
      [some nozzle.toText] := by
  have plain : (noted mnemonic [numberField 'S' nozzle] note).Plain := by
    refine ⟨heats.1, List.forall_mem_singleton.mpr ?_⟩
    rw [number_field_plain]
    decide
  have sets : (noted mnemonic [numberField 'S' nozzle] note).command.setsNozzle = true := heats.2
  have named : (noted mnemonic [numberField 'S' nozzle] note).command.field? 'S' =
      some (numberField 'S' nozzle) := by
    simp [noted, Line.command, Command.field?]
  rw [nozzleTexts, List.map_singleton, Line.of_line_to_text plain, List.filter_singleton, sets]
  simp only [cond_true, List.map_singleton, named, Option.map_some]
  rfl

/-- Both ways of priming set the nozzle and then wait for it. -/
theorem nozzle_texts_prime {settings : Settings} {part : Int} {nozzle : Binary64}
    {prime : List Line} (primes : settings.primeLines part nozzle = .ok prime) :
    nozzleTexts (prime.map Line.toText) = [some nozzle.toText, some nozzle.toText] := by
  have heated : nozzleTexts ((heatNozzle nozzle).map Line.toText) =
      [some nozzle.toText, some nozzle.toText] := by
    have reports : nozzleTexts ([noted "M105" [] " report temp"].map Line.toText) = [] :=
      nozzle_texts_cool (by simp +decide [noted])
    have sets := nozzle_texts_heat "M104" (by decide) nozzle " nozzle temp"
    have waits := nozzle_texts_heat "M109" (by decide) nozzle " wait nozzle temp"
    calc nozzleTexts ((heatNozzle nozzle).map Line.toText)
        _ = nozzleTexts [(noted "M104" [numberField 'S' nozzle] " nozzle temp").toText] ++
            (nozzleTexts ([noted "M105" [] " report temp"].map Line.toText) ++
              nozzleTexts [(noted "M109" [numberField 'S' nozzle] " wait nozzle temp").toText]) := by
          rw [← nozzle_texts_append, ← nozzle_texts_append]
          rfl
        _ = [some nozzle.toText, some nozzle.toText] := by
          rw [sets, reports, waits]
          rfl
  rcases Settings.prime_eq_ok primes with ⟨x, rfl⟩ | rfl
  · simp only [Settings.bedPrimeLines, List.map_append, nozzle_texts_append, heated]
    rw [nozzle_texts_cool, nozzle_texts_cool, List.nil_append, List.append_nil]
    · simp +decide [noted]
    · simp +decide [noted, remark]
  · simp only [Settings.airPrimeLines, List.map_append, nozzle_texts_append, heated]
    rw [nozzle_texts_cool, nozzle_texts_cool, List.nil_append, List.append_nil]
    · simp +decide [noted]
    · simp +decide [noted, remark]

theorem nozzle_texts_ironing (nozzle : Binary64) (points : List Position) :
    nozzleTexts ((ironingAround nozzle points).map Line.toText) = [some nozzle.toText] := by
  have waits := nozzle_texts_heat "M109" (by decide) nozzle " wait nozzle temp"
  have split : ironingAround nozzle points =
      [remark " Ironing starts", noted "M107" [] " fan off"] ++
        ([noted "M109" [numberField 'S' nozzle] " wait nozzle temp"] ++
          ([remark " Ironing layer starts"] ++ points.map ironingLine ++
            [remark " Ironing ends"])) := rfl
  rw [split, List.map_append, nozzle_texts_append, List.map_append, nozzle_texts_append,
    List.map_singleton, waits, nozzle_texts_cool, nozzle_texts_cool]
  · rfl
  · simp +decide [ironingLine, noted, remark, or_imp, forall_and]
  · simp +decide [noted, remark]

section

variable {settings : Settings} {print : Print} {layer : Layer} {part : Int}

theorem leading_cool (point : ResumePoint) (layer part : Int) :
    ∀ line ∈ settings.leadingLines point layer part, line.Cool := by
  apply Settings.forall_leading_lines Line.Cool
  · simp
  · simp
  · simp +decide [noted]
  · simp +decide [ResumePoint.heatBedLines, noted]
  · cases point.homing <;> simp +decide [Homing.lines, noted]
  · simp +decide [noted]

/-- An opening sets the nozzle where it primes and where it irons, and nowhere else. -/
theorem nozzle_texts_opening {point : ResumePoint} {prime ironing : List Line}
    (primes : settings.primeLines part point.nozzle = .ok prime) (number : Int) :
    nozzleTexts ((settings.openingAt point number part prime ironing).map Line.toText) =
      [some point.nozzle.toText, some point.nozzle.toText] ++
        nozzleTexts (ironing.map Line.toText) := by
  have absolute : ∀ line ∈ Settings.absoluteLines, line.Cool := by
    simp +decide [Settings.absoluteLines, noted]
  have park : ∀ line ∈ settings.parkLines point.homing, line.Cool := by
    simp +decide [Settings.parkLines, noted, bare]
  have approach : ∀ line ∈ point.approachLines, line.Cool := by
    simp +decide [ResumePoint.approachLines, remark, noted, bare]
  have restore : ∀ line ∈ point.restoreLines, line.Cool := by
    simp +decide [ResumePoint.restoreLines, remark, noted, bare]
  have fan : ∀ line ∈ point.fanLines, line.Cool := by
    apply Settings.forall_fan_lines
    intro fan note
    cases fan <;> simp +decide [fanLine]
  have rates : ∀ line ∈ if 0 < part then settings.firstLayerRates else [], line.Cool := by
    apply Settings.forall_rate_lines
    unfold Settings.firstLayerRates
    split <;> simp +decide [noted]
  rw [Settings.opening_at_eq, Settings.behindLines]
  simp only [List.map_append, nozzle_texts_append, nozzle_texts_prime primes,
    nozzle_texts_cool (leading_cool point number part), nozzle_texts_cool absolute,
    nozzle_texts_cool park, nozzle_texts_cool approach, nozzle_texts_cool restore,
    nozzle_texts_cool fan, nozzle_texts_cool rates, List.nil_append, List.append_nil]

theorem nozzle_target_eq_ok {state : MachineState} {number : Int} {target : Binary64} :
    settings.nozzleTarget state number = .ok target ↔
      (if settings.useInitialNozzle then state.nozzle.initial else state.nozzle.current) =
        some target := by
  unfold Settings.nozzleTarget
  dsimp only
  split <;> simp_all

/-- Behind an opening the nozzle has the temperature that is chosen for the layer exactly if it has not
been ironed at another one. What was asked for first is the same for all layers, so that can only be
where the current temperature is chosen. -/
theorem opening_heats {policy : OverridePolicy} {program : List Text}
    (recorded : Print.ofLines policy program = .ok print) (inPrint : layer ∈ print.layers.toList)
    {lines : List Text}
    (opens : (Generator.ofSettings settings).opening print layer part = .ok lines) :
    ∃ target, (if settings.useInitialNozzle then layer.entry.nozzle.initial
        else layer.entry.nozzle.current) = some target ∧
      (nozzleBehind lines = some target.toText ↔ ∀ below, settings.Irons print layer part below →
        settings.useInitialNozzle = false → ∀ other, below.entry.nozzle.current = some other →
        other.toText = target.toText) := by
  obtain ⟨opening, made, rfl⟩ := map_eq_ok.mp opens
  obtain ⟨point, prime, ironing, resumes, primes, ironed, rfl⟩ := Settings.ironed_of_opening made
  have chosen := nozzle_target_eq_ok.mp (Settings.resume_point_eq_ok resumes).nozzle
  refine ⟨point.nozzle, chosen, ?_⟩
  rw [nozzleBehind, nozzle_texts_opening primes]
  cases ironed with
  | nothing none => exact ⟨fun _ below irons => absurd irons (none below), fun _ => rfl⟩
  | trace below nozzle irons heated =>
    have ironedAt := nozzle_target_eq_ok.mp heated
    have last : ([some point.nozzle.toText, some point.nozzle.toText] ++
        [some nozzle.toText]).getLast?.join = some nozzle.toText := rfl
    rw [nozzle_texts_ironing, last, Option.some.injEq]
    constructor
    · intro same other ironsOther current temperature known
      have equal : below = other := Except.ok.inj (irons.found.symm.trans ironsOther.found)
      rw [current, if_neg Bool.false_ne_true, equal, known] at ironedAt
      rw [Option.some.inj ironedAt]
      exact same
    · intro kept
      by_cases useInitial : settings.useInitialNozzle = true
      · rw [if_pos useInitial] at chosen ironedAt
        rw [Print.first_nozzle_shared recorded (Settings.layer_below_mem irons.found) inPrint
          ironedAt chosen]
      · rw [if_neg useInitial] at ironedAt
        exact kept below irons (Bool.not_eq_true _ ▸ useInitial) nozzle ironedAt

end

def coolingProgram : List Text := [
  Text.of "M140 S60", Text.of "M104 S210", Text.of "G92 E0", Text.of ";LAYER_COUNT:2",
  Text.of ";LAYER:0", Text.of "G0 X40 Y40 Z0.2", Text.of "G1 X60 E1", Text.of "M104 S200",
  Text.of ";LAYER:1", Text.of "G0 X40 Y40 Z0.4", Text.of "G1 X60 E2",
  Text.of ";-- end code begin --"]

def opensUpper (settings : Settings) (test : List Text → Bool) (print : Print) : Bool :=
  match print.layers.toList with
  | [_, upper] => decide (upper.entry.nozzle.current = some 200) &&
      succeedsWith test ((Generator.ofSettings settings).opening print upper 1)
  | _ => false

theorem exists_of_opens_upper {settings : Settings} {test : List Text → Bool} {print : Print}
    (opens : opensUpper settings test print = true) :
    ∃ layer ∈ print.layers.toList, layer.entry.nozzle.current = some 200 ∧
      ∃ lines, (Generator.ofSettings settings).opening print layer 1 = .ok lines ∧
        test lines = true := by
  unfold opensUpper at opens
  split at opens
  · rename_i lower upper layers
    rw [Bool.and_eq_true] at opens
    exact ⟨upper, layers ▸ List.mem_cons_of_mem _ List.mem_cons_self, of_decide_eq_true opens.1,
      exists_of_succeeds_with opens.2⟩
  · cases opens

theorem opening_heats_to_first_temperature : ∃ print,
    Print.ofLines .reject coolingProgram = .ok print ∧
    ∃ layer ∈ print.layers.toList, ∃ lines target,
      (Generator.ofSettings { iron := true, useInitialNozzle := true }).opening print layer 1 =
        .ok lines ∧
      layer.entry.nozzle.initial = some target ∧ nozzleBehind lines = some target.toText := by
  have checked : succeedsWith
      (opensUpper { iron := true, useInitialNozzle := true } fun _ => true)
      (Print.ofLines .reject coolingProgram) = true := by decide +kernel
  obtain ⟨print, recorded, opens⟩ := exists_of_succeeds_with checked
  obtain ⟨layer, inPrint, -, lines, opened, -⟩ := exists_of_opens_upper opens
  obtain ⟨target, chosen, heats⟩ := opening_heats recorded inPrint opened
  have behind := heats.mpr fun _ _ current => Bool.noConfusion current
  exact ⟨print, recorded, layer, inPrint, lines, target, opened, chosen, behind⟩

/-- A layer that was recorded at 200 degrees is entered at the 210 degrees of the layer below. -/
theorem ironing_leaves_other_temperature : ∃ print,
    Print.ofLines .reject coolingProgram = .ok print ∧
    ∃ layer ∈ print.layers.toList, layer.entry.nozzle.current = some 200 ∧
      ∃ lines, (Generator.ofSettings { iron := true }).opening print layer 1 = .ok lines ∧
        nozzleBehind lines = some (Text.of "210") ∧
        nozzleBehind lines ≠ some (Binary64.toText 200) := by
  have checked : succeedsWith (opensUpper { iron := true } fun lines =>
      decide (nozzleBehind lines = some (Text.of "210")))
      (Print.ofLines .reject coolingProgram) = true := by decide +kernel
  obtain ⟨print, recorded, opens⟩ := exists_of_succeeds_with checked
  obtain ⟨layer, inPrint, current, lines, opened, reached⟩ := exists_of_opens_upper opens
  have behind := of_decide_eq_true reached
  refine ⟨print, recorded, layer, inPrint, current, lines, opened, behind, ?_⟩
  rw [behind]
  decide +kernel

end Scaffold

end PrintParts
