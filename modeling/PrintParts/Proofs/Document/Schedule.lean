import PrintParts.Proofs.Document.Rangewise
import PrintParts.Proofs.Machine.Frame
import PrintParts.Proofs.Recording.Whole
import PrintParts.Proofs.Scaffold.Dials

/-!
How a whole part is printed: its speed, its flow and the temperature of its nozzle. The bodies of a print
that was recorded under rejection leave speed and flow to the scaffolds. The nozzle is set behind the first
layer of a part to what that layer ends at, and from there on to what the bodies themselves ask for, which
is what the recording knows of the layers.
-/

namespace PrintParts

theorem Token.command_of_line {line : Text} {command : Command}
    (read : Token.ofLine line = .ok (.command command)) : command = Command.ofLine line.chomp := by
  simp only [Token.ofLine] at read
  split at read
  · obtain ⟨number, -, same⟩ := map_eq_ok.mp read
    cases same
  · split at read
    · obtain ⟨number, -, same⟩ := map_eq_ok.mp read
      cases same
    · split at read
      · split at read <;> cases read
      · split at read
        · cases read
        · cases read
          rfl

theorem Layer.RecordedFrom.commands_of_lines {policy : OverridePolicy} {before behind : List Text}
    {layer : Layer} (recordedFrom : layer.RecordedFrom policy before behind) :
    commandsOf layer.lines.toList = layer.lines.toList.map Command.ofLine := by
  rw [commandsOf, ← List.filterMap_eq_map]
  apply List.filterMap_congr
  intro line member
  obtain ⟨command, read⟩ := recordedFrom.commands line member
  have chomped : line.chomp = line := by
    rw [recordedFrom.lines] at member
    obtain ⟨whole, -, rfl⟩ := List.mem_map.mp member
    exact Text.trim_end_idempotent Text.isLineEnd whole
  rw [token_of_eq_some.mpr read, Option.bind_some, Token.command?, Token.command_of_line read,
    chomped]
  rfl

theorem dial_of_code {command : Command} {code : Code} (known : command.code = .ok code) :
    command.dial? = Dial.ofCode? code := by
  unfold Command.code at known
  split at known
  · rename_i other found
    cases known
    rw [Command.dial?, Dial.ofMnemonic?, found, Option.bind_some]
  · cases known

/-- Whether a text stands for a number: it is how the number is written, or what the number was read from. -/
def Text.Denotes (text : Text) (number : Binary64) : Prop :=
  text = number.toText ∨ Binary64.ofText? text = some number

/-- The dial of the nozzle says what is known of its temperature. -/
def Dials.Heats (dials : Dials) (state : MachineState) : Prop :=
  ∃ text temperature, dials .nozzle = some text ∧ state.nozzle.current = some temperature ∧
    text.Denotes temperature

-- Commands of recorded bodies, executed on the dials and on the recorded state side by side.
namespace MachineState

variable {state after : MachineState} {command : Command}

/-- Under rejection a command inside a layer sets neither speed nor flow. -/
theorem step_spares_rates (stepped : state.step command true .reject = .ok after) {dial : Dial}
    (rate : dial ≠ .nozzle) : command.dial? ≠ some dial := by
  obtain ⟨code, known, applied⟩ := bind_eq_ok.mp stepped
  have refused : ∀ rate mnemonic, state.overrideRate rate mnemonic true .reject ≠ .ok after := by
    intro rate mnemonic
    rw [overrideRate, if_pos ⟨rfl, rfl⟩]
    exact nofun
  rw [dial_of_code known]
  cases code with
  | feedRate => exact absurd applied (refused _ _)
  | flowRate => exact absurd applied (refused _ _)
  | setNozzle => exact fun same => rate (Option.some.inj same).symm
  | waitNozzle => exact fun same => rate (Option.some.inj same).symm
  | _ => exact nofun

/-- What a command does to the dial of the nozzle, it does to what is known of the nozzle. -/
theorem step_heats {inLayer : Bool} {policy : OverridePolicy}
    (stepped : state.step command inLayer policy = .ok after) {dials : Dials}
    (heats : dials.Heats state) : (dials.execute command).Heats after := by
  obtain ⟨code, known, applied⟩ := bind_eq_ok.mp stepped
  have dial := dial_of_code known
  rcases apply_nozzle applied with ⟨sets, target, asked, heated⟩ | ⟨spares, same⟩
  · have isNozzle : command.dial? = some .nozzle := by
      rw [dial]
      rcases List.mem_pair.mp sets with rfl | rfl <;> rfl
    unfold Command.target at asked
    split at asked
    · rename_i field found
      exact ⟨field.text, target, Dials.execute_set isNozzle found, congrArg Heater.current heated,
        .inr (Field.value_eq_ok_iff.mp asked)⟩
    · cases asked
  · have other : command.dial? ≠ some .nozzle := by
      rw [dial]
      cases code with
      | setNozzle | waitNozzle => exact absurd (by decide) spares
      | _ => exact nofun
    obtain ⟨text, temperature, dialed, current, denotes⟩ := heats
    exact ⟨text, temperature, (Dials.execute_spared other).trans dialed,
      (congrArg Heater.current same).trans current, denotes⟩

theorem fold_spares_rates {commands : List Command}
    (followed : commands.foldlM (fun state command => state.step command true .reject) state =
      .ok after) {dial : Dial} (rate : dial ≠ .nozzle) :
    ∀ command ∈ commands, command.dial? ≠ some dial := by
  induction commands generalizing state with
  | nil => exact fun _ member => nomatch member
  | cons command rest induction =>
    rw [List.foldlM_cons] at followed
    obtain ⟨next, stepped, later⟩ := bind_eq_ok.mp followed
    exact List.forall_mem_cons.mpr ⟨step_spares_rates stepped rate, induction later⟩

theorem fold_heats {inLayer : Bool} {policy : OverridePolicy} {commands : List Command}
    (followed : commands.foldlM (fun state command => state.step command inLayer policy) state =
      .ok after) {dials : Dials} (heats : dials.Heats state) :
    (dials.perform commands).Heats after := by
  induction commands generalizing state dials with
  | nil =>
    cases followed
    exact heats
  | cons command rest induction =>
    rw [List.foldlM_cons] at followed
    obtain ⟨next, stepped, later⟩ := bind_eq_ok.mp followed
    exact induction later (step_heats stepped heats)

end MachineState

namespace Print

variable {policy : OverridePolicy} {program : List Text} {print : Print} {layer : Layer}

theorem layer_leads (recorded : ofLines policy program = .ok print)
    (member : layer ∈ print.layers.toList) :
    (layer.lines.toList.map Command.ofLine).foldlM
        (fun state command => state.step command true policy) layer.entry = .ok layer.exitState := by
  obtain ⟨before, behind, recordedFrom⟩ := recorded_from_of_mem recorded member
  obtain ⟨exit, exits, followed⟩ := recordedFrom.exit
  have leads := followed true
  rw [MachineState.follow, recordedFrom.commands_of_lines] at leads
  rw [leads, Layer.exitState, exits]
  rfl

theorem body_spares_rates (recorded : ofLines .reject program = .ok print)
    (member : layer ∈ print.layers.toList) {dial : Dial} (rate : dial ≠ .nozzle) :
    ∀ line ∈ layer.lines.toList, (Command.ofLine line).dial? ≠ some dial := fun _ inBody =>
  MachineState.fold_spares_rates (layer_leads recorded member) rate _ (List.mem_map_of_mem inBody)

theorem bodies_spare_rates (recorded : ofLines .reject program = .ok print) {layers : List Layer}
    (members : ∀ layer ∈ layers, layer ∈ print.layers.toList) {dial : Dial} (rate : dial ≠ .nozzle) :
    ∀ line ∈ layers.flatMap fun layer => layer.lines.toList,
      (Command.ofLine line).dial? ≠ some dial := by
  intro line inBodies
  obtain ⟨layer, inLayers, inBody⟩ := List.mem_flatMap.mp inBodies
  exact body_spares_rates recorded (members layer inLayers) rate line inBody

theorem body_heats (recorded : ofLines policy program = .ok print)
    (member : layer ∈ print.layers.toList) {dials : Dials} (heats : dials.Heats layer.entry) :
    (dials.run layer.lines.toList).Heats layer.exitState :=
  MachineState.fold_heats (layer_leads recorded member) heats

theorem bodies_heat (recorded : ofLines policy program = .ok print) {layers : List Layer}
    (members : ∀ layer ∈ layers, layer ∈ print.layers.toList)
    (continues : (layer :: layers).IsChain Layer.Continues) {dials : Dials}
    (heats : dials.Heats layer.exitState) :
    (dials.run (layers.flatMap fun layer => layer.lines.toList)).Heats
      (layers.getLastD layer).exitState := by
  induction layers generalizing layer dials with
  | nil => exact heats
  | cons next rest induction =>
    obtain ⟨first, later⟩ := List.isChain_cons_cons.mp continues
    have meets : layer.exitState = next.entry := by
      rw [Layer.exitState, show layer.exit = some next.entry from first]
      rfl
    rw [List.flatMap_cons, Dials.run_append, List.getLastD_cons]
    refine induction (fun other member => members other (List.mem_cons_of_mem _ member)) later ?_
    exact body_heats recorded (members next List.mem_cons_self) (meets ▸ heats)

end Print

namespace Document

/-- The lines of some layers of a part, from its first one on, with what follows the first one. -/
def linesThrough (document : Document) : List Layer → List Text
  | [] => []
  | first :: rest =>
    first.lines.toList ++ document.afterFirstLayer ++ rest.flatMap fun layer => layer.lines.toList

theorem layers_of_mem {print : Print} {range : PartRange} {layer : Layer}
    (member : layer ∈ print.layersOf range) : layer ∈ print.layers.toList :=
  List.mem_of_mem_drop (List.mem_of_mem_take member)

section

variable {program : List Text} {print : Print} {document : Document} {first : Layer}
  {rest : List Layer}

theorem heats_behind_layers (recorded : Print.ofLines .reject program = .ok print)
    (members : ∀ layer ∈ rest, layer ∈ print.layers.toList)
    (continues : (first :: rest).IsChain Layer.Continues) {nozzle : Binary64}
    (known : first.exitState.nozzle.current = some nozzle)
    (sets : ∀ dials : Dials, dials.run document.afterFirstLayer .nozzle = some nozzle.toText)
    {below above : List Layer} {layer : Layer} (split : first :: rest = below ++ layer :: above)
    (dials : Dials) : (dials.run (document.linesThrough (below ++ [layer]))).Heats layer.exitState := by
  obtain ⟨done, through, begins, last⟩ : ∃ done, below ++ [layer] = first :: done ∧
      (∃ more, rest = done ++ more) ∧ done.getLastD first = layer := by
    cases below with
    | nil =>
      cases split
      exact ⟨[], rfl, ⟨rest, rfl⟩, rfl⟩
    | cons head middle =>
      cases split
      exact ⟨middle ++ [layer], rfl, ⟨above, by simp⟩, by simp⟩
  obtain ⟨more, rfl⟩ := begins
  rw [through, linesThrough, Dials.run_append, Dials.run_append, ← last]
  apply Print.bodies_heat recorded fun layer member => members layer (List.mem_append_left _ member)
  · exact (List.isChain_append.mp continues).1
  · exact ⟨_, nozzle, sets _, known, .inl rfl⟩

end

/-- The speed, the flow and the temperature of a part, wherever the dials stood before. The body of its
first layer is printed at the usual speed and flow, or at those for continuations; behind the scaffold
that follows it both are the usual ones, up to the end of the document; and behind each layer the nozzle
has the temperature at which the layer was recorded to end. The speeds for continuations are to be written
as one word, as every number is. -/
theorem parts_keep_schedule {program : List Text} {print : Print}
    (recorded : Print.ofLines .reject program = .ok print) (orderly : NoLayerBehindEnd program)
    {plan : Plan} (complete : plan.layerCount = print.layers.size) {settings : Scaffold.Settings}
    (feedWritten : settings.continuationFeed.toText.IsWord)
    (flowWritten : settings.continuationFlow.toText.IsWord) {check : Checker}
    {documents : List Document}
    (rendered : render (.ofSettings settings) check print plan = .ok documents) {index : Nat}
    (inside : index < plan.totalParts) :
    ∃ document first rest, documents[index]? = some document ∧ document.layers = first :: rest ∧
      ∀ start : Dials,
        (∀ before behind, first.lines.toList = before ++ behind →
          start.run (document.opening ++ before) .feed =
              some (if 0 < index then settings.continuationFeed.toText else Text.of "100") ∧
            start.run (document.opening ++ before) .flow =
              some (if 0 < index then settings.flowText else Text.of "100")) ∧
        (∀ before behind, (rest.flatMap fun layer => layer.lines.toList) ++ document.closing =
            before ++ behind →
          ∀ rate ≠ .nozzle,
            start.run (document.opening ++ document.linesThrough [first] ++ before) rate =
              some (Text.of "100")) ∧
        ∀ below layer above, document.layers = below ++ layer :: above →
          (start.run (document.opening ++ document.linesThrough (below ++ [layer]))).Heats
            layer.exitState := by
  obtain ⟨document, found, ofPart⟩ :=
    document_of_part (Print.layers_numbered recorded) complete rendered inside
  obtain ⟨rest, layers, -⟩ := Print.layers_of_part complete inside
  have members : ∀ layer ∈ print.layersOf (plan.part index), layer ∈ print.layers.toList :=
    fun layer => layers_of_mem
  have continues : (print.layersOf (plan.part index)).IsChain Layer.Continues :=
    ((Print.layers_continue recorded orderly).drop _).take _
  rw [layers, List.forall_mem_cons] at members
  rw [layers] at continues
  obtain ⟨nozzle, known, follows⟩ := Scaffold.after_first_layer_dials ofPart.afterFirstLayer
  refine ⟨document, _, rest, found, ofPart.layers.trans layers, fun start => ⟨?_, ?_, ?_⟩⟩
  · intro before behind split
    have stays : ∀ dial ≠ .nozzle, ∀ dials : Dials, dials.run before dial = dials dial := by
      intro dial rate dials
      exact Dials.run_spared fun line member => Print.body_spares_rates recorded members.1 rate line
        (split ▸ List.mem_append_left behind member)
    have rates := Scaffold.opening_rates feedWritten flowWritten ofPart.opening start
    simp only [Plan.part, Nat.cast_pos] at rates
    simp only [Dials.run_append, stays _ (by decide : Dial.feed ≠ .nozzle),
      stays _ (by decide : Dial.flow ≠ .nozzle)]
    exact rates
  · intro before behind split
    have stays : ∀ dial ≠ .nozzle, ∀ dials : Dials, dials.run before dial = dials dial := by
      intro dial rate dials
      apply Dials.run_spared
      intro line member
      have closes := Scaffold.closing_spares_rates ofPart.closing rate
      have spared := List.forall_mem_append.mpr
        ⟨Print.bodies_spare_rates recorded members.2 rate, closes⟩
      exact spared line (split ▸ List.mem_append_left behind member)
    intro dial rate
    rw [linesThrough, List.flatMap_nil, List.append_nil, Dials.run_append, stays dial rate,
      Dials.run_append, Dials.run_append]
    cases dial with
    | nozzle => exact absurd rfl rate
    | feed => exact (follows _).1
    | flow => exact (follows _).2.1
  · intro below layer above split
    rw [ofPart.layers, layers] at split
    rw [Dials.run_append]
    exact heats_behind_layers recorded members.2 continues known
      (fun dials => (follows dials).2.2) split _

def coolerProgram : List Text := [
  Text.of "M140 S60", Text.of "M104 S210", Text.of "G92 E0", Text.of ";LAYER_COUNT:4",
  Text.of ";LAYER:0", Text.of "G0 X40 Y40 Z0.2", Text.of "G1 X60 E1",
  Text.of ";LAYER:1", Text.of "G0 X40 Y40 Z0.4", Text.of "G1 X60 E2",
  Text.of ";LAYER:2", Text.of "G0 X40 Y40 Z0.6", Text.of "M104 S205.0", Text.of "G1 X60 E3",
  Text.of ";LAYER:3", Text.of "G0 X40 Y40 Z0.8", Text.of "G1 X60 E4",
  Text.of ";-- end code begin --"]

theorem parts_keep_schedule_of_slow_continuation : ∃ print documents document layer,
    Print.ofLines .reject coolerProgram = .ok print ∧
    render (.ofSettings { continuationFlow := .integer 90 }) Scaffold.check print threeLayerPlan =
      .ok documents ∧
    documents[1]? = some document ∧ document.layers = [layer] ∧ ∀ start : Dials,
      start.run document.opening .feed = some (Text.of "35") ∧
      start.run document.opening .flow = some (Text.of "90") ∧
      (start.run (document.opening ++ document.linesThrough [layer])).Heats layer.exitState := by
  have checked : succeedsWith (fun print => print.layers.size == 4 &&
        succeedsWith (fun documents => documents[1]?.any fun document => document.layers.length == 1)
          (render (.ofSettings { continuationFlow := .integer 90 }) Scaffold.check print threeLayerPlan))
      (Print.ofLines .reject coolerProgram) = true := by decide +kernel
  obtain ⟨print, recorded, both⟩ := exists_of_succeeds_with checked
  obtain ⟨size, made⟩ := (Bool.and_eq_true _ _).mp both
  obtain ⟨documents, rendered, alone⟩ := exists_of_succeeds_with made
  have written (rate : Int) : (Amount.integer rate).toText.IsWord :=
    Amount.to_text_is_word fun _ => nofun
  obtain ⟨document, layer, rest, found, layers, scheduled⟩ := parts_keep_schedule recorded
    (by decide +kernel) (eq_of_beq size).symm (written 35) (written 90) rendered
    (by decide : 1 < threeLayerPlan.totalParts)
  rw [found, Option.any_some, layers] at alone
  cases rest with
  | cons _ _ => cases alone
  | nil =>
    refine ⟨print, documents, document, layer, recorded, rendered, found, layers, fun start => ?_⟩
    obtain ⟨first, -, heated⟩ := scheduled start
    have opened := first [] layer.lines.toList rfl
    rw [List.append_nil] at opened
    exact ⟨opened.1, opened.2, heated [] layer [] layers⟩

end Document

end PrintParts
