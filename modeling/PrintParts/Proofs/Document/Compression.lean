import Mathlib.Algebra.BigOperators.Intervals
import Mathlib.Tactic.Ring
import PrintParts.Proofs.Document.Height
import PrintParts.Proofs.Number.Exact

/-!
The height that compression takes from a print. The opening of a continuation declares its height as the
one at which the part below left the nozzle, plus a share of a layer height for every part below. Where the
part below was lowered already, its share is counted once more: the offset from one part to the next grows
with each part, and the offsets of all parts together grow with the square of their number.
-/

namespace PrintParts

theorem round_integer_zero : roundInteger 0 = .ok (.zero false) := by decide +kernel

theorem Amount.exact_of_zero {amount : Amount} {value : Binary64} (none : amount.isZero = true)
    (counted : amount.toBinary64 = .ok value) : value.rational? = some 0 := by
  have whole : ∀ nearest, roundInteger 0 = .ok nearest → nearest.rational? = some 0 := by
    intro nearest rounded
    rw [← Except.ok.inj (round_integer_zero.symm.trans rounded)]
    exact Binary64.exact_of_zero_units false _
  cases amount with
  | integer given =>
    obtain rfl : given = 0 := eq_of_beq none
    exact whole value counted
  | number given =>
    obtain rfl : given = value := Except.ok.inj counted
    exact Binary64.rational_of_is_zero none
  | truth given =>
    cases given with
    | false => exact whole value counted
    | true => cases none
  | other shown => cases none

namespace Scaffold

section

variable {settings : Settings} {print : Print} {layer : Layer} {part : Int}
  {ratio layerHeight height : Binary64}

theorem compression_eq_ok {share : Binary64} (shared : settings.compression print part = .ok share)
    (compresses : settings.zCompression.toBinary64 = .ok ratio)
    (declared : print.layerHeight = some layerHeight) :
    ∃ parts, roundInteger part = .ok parts ∧ share = ratio * layerHeight * parts := by
  unfold Settings.compression at shared
  rw [declared] at shared
  obtain ⟨factor, counted, shared⟩ := bind_eq_ok.mp shared
  obtain ⟨parts, rounded, same⟩ := bind_eq_ok.mp shared
  obtain rfl := Except.ok.inj (counted.symm.trans compresses)
  exact ⟨parts, rounded, (Except.ok.inj same).symm⟩

theorem inherited_eq_lowered (inherits : settings.inheritedZ print layer part = .ok height)
    (compresses : settings.zCompression.toBinary64 = .ok ratio)
    (declared : print.layerHeight = some layerHeight) :
    ∃ z, layer.entry.position.z = .absolute z ∧
      (settings.zCompression.isZero = true ∧ height = z + settings.hop ∨
        ∃ parts, roundInteger part = .ok parts ∧
          height = z + settings.hop + ratio * layerHeight * parts) := by
  by_cases uncompressed : settings.zCompression.isZero = true
  · obtain ⟨z, entered, same⟩ := Settings.inherited_eq_ok uncompressed inherits
    exact ⟨z, entered, .inl ⟨uncompressed, same⟩⟩
  · unfold Settings.inheritedZ at inherits
    obtain ⟨z, entered, inherits⟩ := bind_eq_ok.mp inherits
    dsimp only at inherits
    rw [if_neg uncompressed] at inherits
    obtain ⟨lowered, lowers, inherits⟩ := bind_eq_ok.mp inherits
    obtain ⟨share, shared, same⟩ := map_eq_ok.mp lowers
    obtain ⟨parts, rounded, isShare⟩ := compression_eq_ok shared compresses declared
    have known := AxisValue.require_eq_ok_iff.mp (map_error_eq_ok.mp entered)
    split at inherits
    · cases inherits
    · refine ⟨z, known, .inr ⟨parts, rounded, ?_⟩⟩
      rw [← Except.ok.inj inherits, ← same, isShare]

/-- The operations by which a part finds its height, above the one at which the nozzle was left, need no
rounding. -/
structure ExactLowering (ratio layerHeight lifted : Binary64) (part : Nat) : Prop where
  share : ratio.MulExact layerHeight
  shares : ∃ parts, roundInteger part = .ok parts ∧ parts.rational? = some (part : ℚ) ∧
    (ratio * layerHeight).MulExact parts ∧ lifted.AddExact (ratio * layerHeight * parts)

theorem exact_of_inherited {number : Nat}
    (inherits : settings.inheritedZ print layer number = .ok height)
    (compresses : settings.zCompression.toBinary64 = .ok ratio)
    (declared : print.layerHeight = some layerHeight) {c h : ℚ} (isRatio : ratio.rational? = some c)
    (isHeight : layerHeight.rational? = some h) {z : Binary64}
    (entered : layer.entry.position.z = .absolute z)
    (exact : ExactLowering ratio layerHeight (z + settings.hop) number) :
    ∃ lifted, (z + settings.hop).rational? = some lifted ∧
      height.rational? = some (lifted + c * h * number) := by
  obtain ⟨parts, counted, isNumber, product, sum⟩ := exact.shares
  obtain ⟨lifted, -, isLifted, -⟩ := id sum
  refine ⟨lifted, isLifted, ?_⟩
  obtain ⟨start, enters, lowered⟩ := inherited_eq_lowered inherits compresses declared
  obtain rfl : start = z := AxisValue.absolute.inj (enters.symm.trans entered)
  rcases lowered with ⟨uncompressed, rfl⟩ | ⟨others, rounded, rfl⟩
  · have none := Option.some.inj (isRatio.symm.trans (Amount.exact_of_zero uncompressed compresses))
    rw [isLifted, none, zero_mul, zero_mul, add_zero]
  · cases counted.symm.trans rounded
    exact sum.of_terms isLifted (product.of_factors (exact.share.of_factors isRatio isHeight) isNumber)

end

end Scaffold

theorem sum_of_shares (share : ℚ) (count : Nat) :
    ∑ index ∈ Finset.range count, share * (index + 1 : Nat) = share * (count * (count + 1) / 2) := by
  induction count with
  | zero => simp
  | succ count induction =>
    rw [Finset.sum_range_succ, induction]
    push_cast
    ring

namespace Document

open Scaffold

/-- How far the heights of neighbouring parts are apart, where all operations are exact: the height that a
continuation declares is not the one at which the nozzle was left, but further up by one share of a layer
height for each part below. That is one share for the second part only; for all parts together it is not
one share for each, but their triangle. -/
theorem continuations_sink {settings : Settings} {program : List Text} {policy : OverridePolicy}
    {print : Print} {plan : Plan} {check : Checker} {documents : List Document}
    (recorded : Print.ofLines policy program = .ok print)
    (orderly : NoLayerBehindEnd program) (complete : plan.layerCount = print.layers.size)
    (rendered : render (.ofSettings settings) check print plan = .ok documents)
    {ratio layerHeight : Binary64} (compresses : settings.zCompression.toBinary64 = .ok ratio)
    (declared : print.layerHeight = some layerHeight) {c h : ℚ} (isRatio : ratio.rational? = some c)
    (isHeight : layerHeight.rational? = some h)
    (exact : ∀ index z, index + 1 < plan.totalParts →
      print.layers[(plan.part index).last]!.exitState.position.z = .absolute z →
      ExactLowering ratio layerHeight (z + settings.hop) (index + 1)) :
    ∃ lift height : Nat → ℚ,
      (∀ index, index + 1 < plan.totalParts → ∃ lower upper lifted inherited,
        documents[index]? = some lower ∧ documents[index + 1]? = some upper ∧
        PartAt lifted inherited lower upper ∧
        lifted.rational? = some (lift index) ∧ inherited.rational? = some (height index) ∧
        height index - lift index = c * h * (index + 1 : Nat) ∧
        (height index - lift index = c * h ↔ index = 0 ∨ c * h = 0)) ∧
      ∀ count < plan.totalParts, ∑ index ∈ Finset.range count, (height index - lift index) =
        c * h * (count * (count + 1) / 2) := by
  have parted : ∀ index, ∃ lift, index + 1 < plan.totalParts → ∃ lower upper lifted inherited,
      documents[index]? = some lower ∧ documents[index + 1]? = some upper ∧
      PartAt lifted inherited lower upper ∧ lifted.rational? = some lift ∧
      inherited.rational? = some (lift + c * h * (index + 1 : Nat)) := by
    intro index
    by_cases next : index + 1 < plan.totalParts
    · obtain ⟨lower, upper, z, height, foundLower, foundUpper, ended, entered, -, inherits, parted⟩ :=
        neighbours_part recorded orderly complete rendered next
      obtain ⟨lift, isLift, isInherited⟩ := exact_of_inherited inherits compresses declared isRatio
        isHeight entered (exact index z next ended)
      exact ⟨lift, fun _ => ⟨lower, upper, _, height, foundLower, foundUpper, parted, isLift,
        isInherited⟩⟩
    · exact ⟨0, fun inside => absurd inside next⟩
  choose lift parted using parted
  refine ⟨lift, fun index => lift index + c * h * (index + 1 : Nat), ?_, ?_⟩
  · intro index next
    obtain ⟨lower, upper, lifted, inherited, foundLower, foundUpper, parted, isLift, isInherited⟩ :=
      parted index next
    refine ⟨lower, upper, lifted, inherited, foundLower, foundUpper, parted, isLift, isInherited,
      add_sub_cancel_left _ _, ?_⟩
    rw [add_sub_cancel_left]
    constructor
    · intro same
      by_cases none : c * h = 0
      · exact .inr none
      · have one := (mul_eq_left₀ none).mp same
        exact .inl (Nat.succ.inj (Nat.cast_eq_one.mp one))
    · rintro (rfl | none)
      · rw [Nat.zero_add, Nat.cast_one, mul_one]
      · rw [none, zero_mul]
  · intro count _
    rw [← sum_of_shares]
    exact Finset.sum_congr rfl fun index _ => add_sub_cancel_left _ _

def quarterProgram : List Text := [
  Text.of "M140 S60", Text.of "M104 S210", Text.of "G92 E0", Text.of ";Layer height: 0.25",
  Text.of ";LAYER_COUNT:3",
  Text.of ";LAYER:0", Text.of "G0 X40 Y40 Z0.25", Text.of "G1 X60 E1",
  Text.of ";LAYER:1", Text.of "G0 X40 Y40 Z0.5", Text.of "G1 X60 E2",
  Text.of ";LAYER:2", Text.of "G0 X40 Y40 Z0.75", Text.of "G1 X60 E3",
  Text.of ";-- end code begin --"]

def quarterPlan : Plan := .singleLayers 3 (by decide)

def halfSettings : Settings := { zCompression := .number (.ofDecimal false 5 (-1)) }

def endsAtQuarters (print : Print) : Bool :=
  print.layers.size == 3 && decide (print.layerHeight = some (.ofDecimal false 25 (-2))) &&
    decide (print.layers[0]!.exitState.position.z = .absolute (.ofDecimal false 25 (-2))) &&
    decide (print.layers[1]!.exitState.position.z = .absolute (.ofDecimal false 5 (-1)))

theorem half_of_quarter_exact : (Binary64.ofDecimal false 5 (-1)).MulExact (.ofDecimal false 25 (-2)) :=
  ⟨1 / 2, 1 / 4, by decide +kernel, by decide +kernel, by decide +kernel⟩

theorem second_part_exact : ExactLowering (.ofDecimal false 5 (-1)) (.ofDecimal false 25 (-2))
    (.ofDecimal false 25 (-2) + halfSettings.hop) 1 where
  share := half_of_quarter_exact
  shares := ⟨.ofIntRounded 1, by decide +kernel, by decide +kernel,
    ⟨1 / 8, 1, by decide +kernel, by decide +kernel, by decide +kernel⟩,
    ⟨41 / 4, 1 / 8, by decide +kernel, by decide +kernel, by decide +kernel⟩⟩

theorem third_part_exact : ExactLowering (.ofDecimal false 5 (-1)) (.ofDecimal false 25 (-2))
    (.ofDecimal false 5 (-1) + halfSettings.hop) 2 where
  share := half_of_quarter_exact
  shares := ⟨.ofIntRounded 2, by decide +kernel, by decide +kernel,
    ⟨1 / 8, 2, by decide +kernel, by decide +kernel, by decide +kernel⟩,
    ⟨21 / 2, 1 / 4, by decide +kernel, by decide +kernel, by decide +kernel⟩⟩

theorem continuations_sink_by_eighths : ∃ print documents,
    Print.ofLines .reject quarterProgram = .ok print ∧
    render (.ofSettings halfSettings) Scaffold.check print quarterPlan = .ok documents ∧
    ∃ lower upper lifted inherited lift height, documents[1]? = some lower ∧
      documents[2]? = some upper ∧ PartAt lifted inherited lower upper ∧
      lifted.rational? = some lift ∧ inherited.rational? = some height ∧ height - lift = 1 / 4 := by
  have checked : succeedsWith (fun print => endsAtQuarters print && succeedsWith (fun _ => true)
        (render (.ofSettings halfSettings) Scaffold.check print quarterPlan))
      (Print.ofLines .reject quarterProgram) = true := by decide +kernel
  obtain ⟨print, recorded, both⟩ := exists_of_succeeds_with checked
  simp only [endsAtQuarters, Bool.and_eq_true, decide_eq_true_eq] at both
  obtain ⟨⟨⟨⟨size, declared⟩, firstEnds⟩, secondEnds⟩, made⟩ := both
  obtain ⟨documents, rendered, -⟩ := exists_of_succeeds_with made
  have exact : ∀ index z, index + 1 < quarterPlan.totalParts →
      print.layers[(quarterPlan.part index).last]!.exitState.position.z = .absolute z →
      ExactLowering (.ofDecimal false 5 (-1)) (.ofDecimal false 25 (-2)) (z + halfSettings.hop)
        (index + 1) := by
    intro index z next ended
    match index with
    | 0 =>
      rw [AxisValue.absolute.inj (ended.symm.trans firstEnds)]
      exact second_part_exact
    | 1 =>
      rw [AxisValue.absolute.inj (ended.symm.trans secondEnds)]
      exact third_part_exact
    | index + 2 => exact absurd next (by simp [quarterPlan, Plan.singleLayers, Plan.totalParts, Plan.span])
  obtain ⟨lift, height, apart, -⟩ := continuations_sink recorded (by decide +kernel)
    (eq_of_beq size).symm rendered rfl declared
    (by decide +kernel : (Binary64.ofDecimal false 5 (-1)).rational? = some (1 / 2))
    (by decide +kernel : (Binary64.ofDecimal false 25 (-2)).rational? = some (1 / 4)) exact
  obtain ⟨lower, upper, lifted, inherited, foundLower, foundUpper, parted, isLift, isHeight, far, -⟩ :=
    apart 1 (by decide)
  refine ⟨print, documents, recorded, rendered, lower, upper, lifted, inherited, lift 1, height 1,
    foundLower, foundUpper, parted, isLift, isHeight, ?_⟩
  rw [far]
  norm_num

def partsThirdAt (lift height : String) : List Document → Bool
  | [_, lower, upper] => decide (heightTexts "G0" lower.closing = [Text.of lift]) &&
      decide (heightTexts "G92" upper.opening = [Text.of height])
  | _ => false

/-- The nozzle is left at 10.5 by the second part, and the third one declares 10.75: that is a quarter,
and not the eighth that half a layer is. -/
theorem third_part_sinks_twice : ∃ print documents lower upper,
    Print.ofLines .reject quarterProgram = .ok print ∧
    quarterPlan.layerCount = print.layers.size ∧
    print.layerHeight.bind Binary64.rational? = some (1 / 4) ∧
    render (.ofSettings halfSettings) Scaffold.check print quarterPlan = .ok documents ∧
    documents[1]? = some lower ∧ documents[2]? = some upper ∧
    heightTexts "G0" lower.closing = [Text.of "10.5"] ∧
    heightTexts "G92" upper.opening = [Text.of "10.75"] ∧
    (Text.of "10.5").rational? = some (21 / 2) ∧ (Text.of "10.75").rational? = some (43 / 4) ∧
    (43 / 4 - 21 / 2 : ℚ) ≠ 1 / 2 * (1 / 4) := by
  have checked : succeedsWith (fun print => endsAtQuarters print &&
        succeedsWith (partsThirdAt "10.5" "10.75")
          (render (.ofSettings halfSettings) Scaffold.check print quarterPlan))
      (Print.ofLines .reject quarterProgram) = true := by decide +kernel
  obtain ⟨print, recorded, both⟩ := exists_of_succeeds_with checked
  simp only [endsAtQuarters, Bool.and_eq_true, decide_eq_true_eq] at both
  obtain ⟨⟨⟨⟨size, declared⟩, -⟩, -⟩, made⟩ := both
  obtain ⟨documents, rendered, parted⟩ := exists_of_succeeds_with made
  unfold partsThirdAt at parted
  split at parted
  · rename_i first lower upper
    simp only [Bool.and_eq_true, decide_eq_true_eq] at parted
    refine ⟨print, _, lower, upper, recorded, (eq_of_beq size).symm, ?_, rendered, rfl, rfl, parted.1,
      parted.2, by decide +kernel, by decide +kernel, by norm_num⟩
    rw [declared]
    decide +kernel
  · cases parted

end Document

end PrintParts
