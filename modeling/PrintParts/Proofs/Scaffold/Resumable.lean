import PrintParts.Proofs.Machine.Bookkeeping
import PrintParts.Proofs.Plan.Partition
import PrintParts.Proofs.Recording.Whole
import PrintParts.Proofs.Scaffold.Sections

/-!
Two failures that no opening meets. An entry whose E is known has a retraction, as E is only ever known
together with the furthest E; and the layer to be ironed is the one below, as the layers of a print stand in
the order of their numbers and a part that is continued has a layer below its first one.
-/

namespace PrintParts

/-- An entry without a retraction, or another layer in the place of the one to be ironed. -/
def Failure.IsUnfounded : Failure → Prop
  | .fault (.retractionUnknown _) _ => True
  | .fault .ironingMismatch _ => True
  | _ => False

theorem Failure.not_of_founded {failure : Failure} (founded : ¬ failure.IsUnfounded) (place : Place) :
    (∀ number, failure ≠ .fault (.retractionUnknown number) place) ∧
      failure ≠ .fault .ironingMismatch place := by
  constructor
  · rintro number rfl
    exact founded trivial
  · rintro rfl
    exact founded trivial

theorem AxisValue.require_founded (value : AxisValue) (what : Text) :
    Avoids Failure.IsUnfounded ((value.require what).mapError Fault.raise) := by
  cases value with
  | absolute number => exact avoids_ok number
  | unknown => exact avoids_error id
  | relative => exact avoids_error id

theorem round_integer_founded (value : Int) : Avoids Failure.IsUnfounded (roundInteger value) := by
  intro failure failed
  rw [round_integer_eq_error failed]
  exact id

theorem Amount.to_binary_founded (amount : Amount) :
    Avoids Failure.IsUnfounded amount.toBinary64 := by
  unfold Amount.toBinary64
  split
  · exact round_integer_founded _
  · exact avoids_ok _
  · exact round_integer_founded _
  · exact avoids_error id

namespace Scaffold.Settings

variable (settings : Settings) (print : Print) {layer : Layer} (part : Int)

theorem nozzle_target_founded (state : MachineState) (number : Int) :
    Avoids Failure.IsUnfounded ((settings.nozzleTarget state number).mapError Fault.raise) := by
  unfold nozzleTarget
  dsimp only
  split
  · exact avoids_ok _
  · exact avoids_error id

theorem inherited_founded : Avoids Failure.IsUnfounded (settings.inheritedZ print layer part) := by
  have compressed : Avoids Failure.IsUnfounded (settings.compression print part) := by
    unfold compression
    split
    · exact avoids_error id
    · refine avoids_bind settings.zCompression.to_binary_founded fun ratio _ => ?_
      exact avoids_bind (round_integer_founded part) fun parts _ => avoids_ok _
  unfold inheritedZ
  refine avoids_bind (AxisValue.require_founded _ _) fun entry _ =>
    avoids_either (fun _ => avoids_ok _) (fun _ => avoids_map compressed) fun z => ?_
  dsimp only
  split
  · exact avoids_error id
  · exact avoids_ok z

/-- The only way to lack a retraction is to know E without it. -/
theorem resume_point_founded
    (retracts : ∀ e, layer.entry.e = .absolute e → ∃ depth, layer.entry.retraction? = some depth) :
    Avoids Failure.IsUnfounded (settings.resumePoint print layer part) := by
  unfold resumePoint
  dsimp only
  split
  · refine avoids_bind (avoids_ok _) fun bed _ =>
      avoids_bind (nozzle_target_founded _ _ _) fun nozzle _ =>
      avoids_bind (AxisValue.require_founded _ _) fun e extruded => ?_
    obtain ⟨depth, known⟩ := retracts e (AxisValue.require_eq_ok_iff.mp (map_error_eq_ok.mp extruded))
    rw [known]
    refine avoids_bind (avoids_ok _) fun retraction _ =>
      avoids_bind (AxisValue.require_founded _ _) fun x _ =>
      avoids_bind (AxisValue.require_founded _ _) fun y _ =>
      avoids_bind (AxisValue.require_founded _ _) fun z _ => ?_
    refine avoids_either (fun _ => avoids_map (settings.inherited_founded print part))
      (fun _ => avoids_ok none) fun inherited => ?_
    split
    · exact avoids_error id
    · split
      · exact avoids_bind (avoids_ok _) fun homing _ => avoids_ok _
      · exact avoids_either (fun _ => avoids_ok _) (fun _ => avoids_error id) fun homing => avoids_ok _
  · exact avoids_bind (avoids_error id) fun bed heated => nomatch heated

theorem prime_founded (nozzle : Binary64) :
    Avoids Failure.IsUnfounded (settings.primeLines part nozzle) := by
  unfold primeLines
  split
  · refine avoids_map ?_
    unfold bedPrimeX
    split
    · exact avoids_map (round_integer_founded part)
    · exact avoids_ok _
  · exact avoids_ok _

theorem layer_below_founded (numbered : Numbered print.layers.toList) {below : Nat}
    (above : layer.number = below + 1) (inside : below < print.layers.size) :
    Avoids Failure.IsUnfounded (print.layerBelow layer) := by
  have place : layer.number - 1 = below := by omega
  have found : print.layerAt? (layer.number - 1) = some print.layers[below] := by
    rw [Print.layerAt?, place, if_pos (Int.natCast_nonneg below), Int.toNat_natCast,
      Array.getElem?_eq_getElem inside]
  have number : print.layers[below].number = layer.number - 1 := by
    rw [place]
    apply numbered below
    rw [Array.getElem?_toList, Array.getElem?_eq_getElem inside]
  rw [Print.layerBelow, found]
  simp only [number, if_true]
  exact avoids_ok _

theorem opening_founded
    (retracts : ∀ e, layer.entry.e = .absolute e → ∃ depth, layer.entry.retraction? = some depth)
    (below : 0 < part → Avoids Failure.IsUnfounded (print.layerBelow layer)) :
    Avoids Failure.IsUnfounded (settings.opening print layer part) := by
  unfold opening
  refine avoids_bind (settings.resume_point_founded print part retracts) fun point _ =>
    avoids_bind (settings.prime_founded part point.nozzle) fun prime _ =>
    avoids_either (fun wanted => avoids_bind (below wanted.1) fun other _ => ?_)
      (fun _ => avoids_ok []) fun ironing => avoids_ok _
  unfold ironingLines
  split
  · refine avoids_map_error (avoids_bind ?_ fun nozzle _ => avoids_ok _)
    exact fun cause failed => settings.nozzle_target_founded other.entry other.number _
      (by rw [failed]; rfl)
  · exact avoids_ok []

end Scaffold.Settings

namespace Print

variable {policy : OverridePolicy} {lines : List Text} {print : Print}

theorem entry_reached (recorded : ofLines policy lines = .ok print) {layer : Layer}
    (member : layer ∈ print.layers.toList) : ∃ reads, MachineState.Reached layer.entry reads := by
  obtain ⟨count, followed⟩ := entry_of_layer recorded layer member
  exact ⟨_, MachineState.reached_of_run .fresh followed⟩

/-- In a part of a plan, a layer has one below it unless the part is the first. -/
theorem layer_below_of_part (recorded : ofLines policy lines = .ok print) {plan : Plan}
    {layer : Layer} (member : layer ∈ print.layers.toList) {index : Nat}
    (placed : plan.partForLayer layer.number = .ok (some index)) (continued : 0 < index) :
    Avoids Failure.IsUnfounded (print.layerBelow layer) := by
  have numbered := layers_numbered recorded
  obtain ⟨place, found⟩ := List.getElem?_of_mem member
  have number := numbered place layer found
  have inside := (List.getElem?_eq_some_iff.mp found).1
  rw [Array.length_toList] at inside
  obtain ⟨range, listed, first, -⟩ := (plan.part_for_layer_eq_some _ _).mp placed
  obtain ⟨-, rfl⟩ := Plan.parts_get_eq_some.mp listed
  have behind : 0 < (plan.part index).first := by
    have chunk := Nat.mul_pos continued plan.chunk_pos
    simp only [Plan.part]
    omega
  have above : layer.number = (place - 1 : Nat) + 1 := by omega
  exact Scaffold.Settings.layer_below_founded print numbered above (by omega)

/-- In every state that commands can lead to, E is known as the furthest E is, and each temperature as the
first one is; and as long as all E that were read are finite, E is not beyond the furthest E, so the
retraction is never negative. Therefore no opening of a part lacks a retraction, or misses the layer that
it irons. -/
theorem openings_are_founded :
    (∀ (state : MachineState) (reads : List Binary64), state.Reached reads → state.Booked ∧
      ((∀ e ∈ reads, e.isFinite = true) → MachineState.PulledBack state.e state.eMax ∧
        ∀ depth, state.retraction? = some depth → depth ≠ .nan ∧ 0 ≤ depth)) ∧
    ∀ (policy : OverridePolicy) (lines : List Text) (print : Print) (plan : Plan),
      ofLines policy lines = .ok print →
      ∀ layer ∈ print.layers.toList, ∀ index, plan.partForLayer layer.number = .ok (some index) →
      ∀ (settings : Scaffold.Settings) (failure : Failure),
        settings.opening print layer index = .error failure → ∀ place,
        (∀ number, failure ≠ .fault (.retractionUnknown number) place) ∧
          failure ≠ .fault .ironingMismatch place := by
  constructor
  · intro state reads reached
    refine ⟨MachineState.booked_of_reached reached, fun finite => ?_⟩
    have pulled := MachineState.pulled_back_kept.reached reached finite
    refine ⟨pulled, fun depth known => ?_⟩
    have upward := pulled.retraction known
    exact ⟨(Binary64.numbers_of_le upward).2, upward⟩
  · intro policy lines print plan recorded layer member index placed settings failure failed
    obtain ⟨reads, reached⟩ := entry_reached recorded member
    have booked := MachineState.booked_of_reached reached
    refine Failure.not_of_founded (settings.opening_founded print index (fun e => booked.retraction) ?_
      failure failed)
    intro continued
    exact layer_below_of_part recorded member placed (Int.natCast_pos.mp continued)

def farRetractingProgram : List Text := [
  Text.of "M140 S60", Text.of "M104 S210", Text.of "G92 E1e308", Text.of "G1 E-1e308",
  Text.of "G92 E0.1", Text.of "G0 X40 Y40 Z0.2", Text.of ";LAYER_COUNT:2",
  Text.of ";LAYER:0", Text.of "G1 X60 E1", Text.of ";LAYER:1", Text.of "G1 X50 E2",
  Text.of ";-- end code begin --"]

def lowPrinter : Scaffold.Settings := { maxZ := 5, iron := true }

theorem openings_are_founded_beyond_range :
    ∃ state reads print layer failure, MachineState.Reached state reads ∧
      (∀ e ∈ reads, e.isFinite = true) ∧ state.retraction? = some (.infinite false) ∧ state.Booked ∧
      MachineState.PulledBack state.e state.eMax ∧
      ofLines .reject farRetractingProgram = .ok print ∧ layer ∈ print.layers.toList ∧
      (Plan.singleLayers 2 Nat.two_pos).partForLayer layer.number = .ok (some 1) ∧
      lowPrinter.opening print layer 1 = .error failure ∧ ∀ place,
        (∀ number, failure ≠ .fault (.retractionUnknown number) place) ∧
          failure ≠ .fault .ironingMismatch place := by
  have ran : succeedsWith (fun state => state.retraction? = some (.infinite false))
      ((commandsOf farRetractingProgram).foldlM
        (fun state command => state.step command false .reject) MachineState.fresh) = true := by
    decide +kernel
  have finite : ∀ e ∈ MachineState.fresh.readsAlong false .reject (commandsOf farRetractingProgram),
      e.isFinite = true := by
    decide +kernel
  have checked : succeedsWith (fun print => print.layers[1]?.any fun layer =>
      (Plan.singleLayers 2 Nat.two_pos).partForLayer layer.number = .ok (some 1) &&
        (failureOf? (lowPrinter.opening print layer 1)).isSome)
      (ofLines .reject farRetractingProgram) = true := by
    decide +kernel
  obtain ⟨state, run, infinite⟩ := exists_of_succeeds_with ran
  obtain ⟨print, recorded, isUpper⟩ := exists_of_succeeds_with checked
  obtain ⟨layer, found, both⟩ := (Option.any_eq_true _ _).mp isUpper
  obtain ⟨placed, fails⟩ := Bool.and_eq_true_iff.mp both
  obtain ⟨failure, failed⟩ := Option.isSome_iff_exists.mp fails
  have member := Array.mem_toList_iff.mpr (Array.mem_of_getElem? found)
  have reached := MachineState.reached_of_run .fresh run
  have placed := of_decide_eq_true placed
  have failed := failure_of_eq_some.mp failed
  obtain ⟨booked, pulled⟩ := openings_are_founded.1 state _ reached
  exact ⟨state, _, print, layer, failure, reached, finite, of_decide_eq_true infinite, booked,
    (pulled finite).1, recorded, member, placed, failed,
    openings_are_founded.2 .reject _ print (Plan.singleLayers 2 Nat.two_pos) recorded layer member 1 placed lowPrinter failure
      failed⟩

end Print

end PrintParts
