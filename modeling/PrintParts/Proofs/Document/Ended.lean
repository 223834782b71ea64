import Mathlib.Data.List.Flatten
import Mathlib.Data.List.TakeWhile
import PrintParts.Proofs.Document.Origins
import PrintParts.Proofs.Recording.Whole

/-!
What a recording keeps of the lines behind the end marker. They open a layer for each layer marker among
them and add to no layer in front of the end, so a print is over at its end marker exactly if no layer
marker follows.
-/

namespace PrintParts

section

variable (lines : List Text)

def linesBeforeEnd : List Text := lines.takeWhile fun line => tokenOf? line ≠ some .endMarker

/-- The lines behind the first end marker. -/
def linesBehindEnd : List Text :=
  (lines.dropWhile fun line => tokenOf? line ≠ some .endMarker).tail

end

/-- Whether a print is over behind some lines: nothing that follows them is part of a layer, leads to
the state in which a layer begins, or comes into the file of a part. -/
structure Print.EndsBehind (policy : OverridePolicy) (before : List Text) (print : Print) :
    Prop where
  /-- The layers are those that these lines leave. -/
  layers : ∃ recorder, (before.map Text.chomp).foldlM (Recorder.takeLine policy) Recorder.start =
    .ok recorder ∧ print.layers.toList = recorder.layers
  continues : print.layers.toList.IsChain Layer.Continues
  entries : ∀ layer ∈ print.layers.toList, ∃ count,
    MachineState.fresh.follow false policy (before.take count) = .ok layer.entry
  files : ∀ (generator : Generator) (check : Checker) (plan : Plan) (documents : List Document)
    (sourceName : Text), plan.layerCount = print.layers.size →
    Document.render generator check print plan = .ok documents →
    (documents.flatMap fun document => Origin.programLines (document.origins sourceName)).Sublist
      (before.map Text.chomp)

theorem not_end_of_mem_before {lines : List Text} {line : Text}
    (member : line ∈ linesBeforeEnd lines) : Token.ofLine line ≠ .ok .endMarker := by
  unfold linesBeforeEnd at member
  have other := List.mem_takeWhile_imp member
  exact fun ends => of_decide_eq_true other (token_of_eq_some.mpr ends)

theorem split_at_end {lines : List Text}
    (ends : ∃ line ∈ lines, Token.ofLine line = .ok .endMarker) :
    ∃ ender, lines = linesBeforeEnd lines ++ ender :: linesBehindEnd lines ∧
      Token.ofLine ender = .ok .endMarker := by
  obtain ⟨line, member, read⟩ := ends
  have some : lines.dropWhile (fun line => tokenOf? line ≠ some .endMarker) ≠ [] := by
    intro none
    have other := List.dropWhile_eq_nil_iff.mp none line member
    exact of_decide_eq_true other (token_of_eq_some.mpr read)
  have isEnd := of_decide_eq_false (List.head_dropWhile_not _ some)
  refine ⟨_, ?_, token_of_eq_some.mp (not_not.mp isEnd)⟩
  rw [linesBehindEnd, List.cons_head_tail]
  exact List.takeWhile_append_dropWhile.symm

theorem layer_bodies_eq_nil_of_readable {lines : List Text}
    (readable : ∀ line ∈ lines, ∃ token, Token.ofLine line = .ok token) :
    layerBodies id lines = [] ↔
      ∀ line ∈ lines, ∀ index, Token.ofLine line ≠ .ok (.layerMarker index) := by
  rw [layer_bodies_eq_nil]
  refine forall₂_congr fun line member => ?_
  obtain ⟨token, read⟩ := readable line member
  rw [line_is_eq id read, read]
  cases token with
  | layerMarker index => exact ⟨nofun, fun none => absurd rfl (none index)⟩
  | _ => exact ⟨fun _ => nofun, fun _ => rfl⟩

namespace Recorder

variable {policy : OverridePolicy} {lines : List Text} {final : Recorder}

theorem exists_end_marker (taken : lines.foldlM (takeLine policy) start = .ok final)
    (ended : final.endSeen = true) : ∃ line ∈ lines, Token.ofLine line = .ok .endMarker := by
  by_contra! none
  have running := (recording_preserves (fun recorder rest => recorder.endSeen = false ∧
      ∀ line ∈ rest, Token.ofLine line ≠ .ok .endMarker) ?_ ⟨rfl, none⟩ taken).1
  · rw [ended] at running
    cases running
  · rintro recorder line rest next ⟨running, none⟩ takes
    obtain ⟨here, later⟩ := List.forall_mem_cons.mp none
    refine ⟨?_, later⟩
    cases takes with
    | endMarker read => exact absurd read here
    | marker index read inOrder => exact (close_current_end_seen recorder).trans running
    | _ => exact running

theorem layers_of_end {before behind : List Text} {ender : Text}
    (taken : (before ++ ender :: behind).foldlM (takeLine policy) start = .ok final)
    (ends : Token.ofLine ender = .ok .endMarker) :
    ∃ middle upper, before.foldlM (takeLine policy) start = .ok middle ∧
      final.layers = middle.layers ++ upper ∧
      upper.map (fun layer => layer.lines.toList) = layerBodies id behind := by
  rw [List.foldlM_append] at taken
  obtain ⟨middle, first, taken⟩ := bind_eq_ok.mp taken
  rw [List.foldlM_cons] at taken
  obtain ⟨next, closes, taken⟩ := bind_eq_ok.mp taken
  cases end_marker_taken closes ends
  obtain ⟨opened, upper, layers, goesOn⟩ := layers_of_fold taken
  have completes := goesOn.completes
  simp only [close_current_current, Option.toList_none] at completes
  refine ⟨middle, upper, first, ?_, goesOn.bodies⟩
  rw [layers, List.forall₂_nil_left_iff.mp completes]
  rfl

end Recorder

namespace Print

variable {policy : OverridePolicy} {lines : List Text} {print : Print}

/-- The layers of a print are those that the lines in front of the end leave, and one for each layer
marker behind it. -/
theorem layers_at_end (recorded : ofLines policy lines = .ok print) :
    ∃ ender middle upper, lines = linesBeforeEnd lines ++ ender :: linesBehindEnd lines ∧
      Token.ofLine ender = .ok .endMarker ∧
      ((linesBeforeEnd lines).map Text.chomp).foldlM (Recorder.takeLine policy) Recorder.start =
        .ok middle ∧
      print.layers.toList = middle.layers ++ upper ∧
      (upper = [] ↔
        ∀ line ∈ linesBehindEnd lines, ∀ index, Token.ofLine line ≠ .ok (.layerMarker index)) := by
  obtain ⟨recorder, taken, same, ended⟩ := of_lines_eq_ok recorded
  obtain ⟨line, member, read⟩ := Recorder.exists_end_marker taken ended
  obtain ⟨original, inLines, rfl⟩ := List.mem_map.mp member
  rw [Token.of_line_chomp] at read
  obtain ⟨ender, split, ends⟩ := split_at_end ⟨original, inLines, read⟩
  have chomped := congrArg (List.map Text.chomp) split
  rw [List.map_append, List.map_cons] at chomped
  have readable : ∀ line ∈ (linesBehindEnd lines).map Text.chomp,
      ∃ token, Token.ofLine line = .ok token := by
    intro line member
    refine (Recorder.declared_of_fold taken).1 line ?_
    rw [chomped]
    exact List.mem_append_right _ (List.mem_cons_of_mem _ member)
  rw [chomped] at taken
  obtain ⟨middle, upper, first, layers, bodies⟩ :=
    Recorder.layers_of_end taken ((Token.of_line_chomp ender).trans ends)
  refine ⟨ender, middle, upper, split, ends, first, same.trans layers, ?_⟩
  rw [← List.map_eq_nil_iff (f := fun layer : Layer => layer.lines.toList), bodies,
    layer_bodies_eq_nil_of_readable readable, List.forall_mem_map]
  simp only [Token.of_line_chomp]

theorem no_layer_behind_end {ender : Text}
    (split : lines = linesBeforeEnd lines ++ ender :: linesBehindEnd lines)
    (none : ∀ line ∈ linesBehindEnd lines, ∀ index, Token.ofLine line ≠ .ok (.layerMarker index)) :
    NoLayerBehindEnd lines := by
  rw [split]
  refine List.pairwise_append.mpr ⟨?_, List.pairwise_cons.mpr ⟨?_, ?_⟩, ?_⟩
  · exact List.pairwise_of_forall_mem_list fun earlier inFront _ _ ends =>
      absurd ends (not_end_of_mem_before inFront)
  · exact fun later member _ => none later member
  · exact List.pairwise_of_forall_mem_list fun _ _ later member _ => none later member
  · exact fun earlier inFront _ _ ends => absurd ends (not_end_of_mem_before inFront)

/-- A program that has been recorded has an end marker, and the print is over there exactly if no
layer marker stands behind it. -/
theorem ends_behind_iff (recorded : ofLines policy lines = .ok print) :
    (∃ ender, lines = linesBeforeEnd lines ++ ender :: linesBehindEnd lines ∧
      Token.ofLine ender = .ok .endMarker) ∧
    (print.EndsBehind policy (linesBeforeEnd lines) ↔
      ∀ line ∈ linesBehindEnd lines, ∀ index, Token.ofLine line ≠ .ok (.layerMarker index)) := by
  obtain ⟨ender, middle, upper, split, ends, first, layers, upperNil⟩ := layers_at_end recorded
  refine ⟨⟨ender, split, ends⟩, ?_⟩
  rw [← upperNil]
  constructor
  · intro ended
    obtain ⟨recorder, taken, same⟩ := ended.layers
    rw [first] at taken
    cases taken
    rw [layers] at same
    exact List.append_right_eq_self.mp same
  · rintro rfl
    rw [List.append_nil] at layers
    have bodies : print.layers.toList.map (fun layer => layer.lines.toList) =
        layerBodies id ((linesBeforeEnd lines).map Text.chomp) := by
      rw [layers, Recorder.opened_of_fold first]
    refine ⟨⟨middle, first, layers⟩,
      layers_continue recorded (no_layer_behind_end split (upperNil.mp rfl)), ?_, ?_⟩
    · intro layer member
      obtain ⟨count, entered⟩ := Recorder.entry_of_fold first layer (layers ▸ member)
      rw [← List.map_take, follow_chomp] at entered
      exact ⟨count, entered⟩
    · intro generator check plan documents sourceName complete rendered
      rw [Document.program_lines_of_documents complete
        (Document.documents_of_ranges (layers_numbered recorded) complete rendered)]
      have behindStart : ((print.layers.toList.drop plan.startLayer).flatMap fun layer =>
          layer.lines.toList).Sublist (print.layers.toList.flatMap fun layer => layer.lines.toList) :=
        (List.drop_sublist _ _).flatMap _
      rw [List.flatMap_def (l := print.layers.toList), bodies] at behindStart
      exact behindStart.trans ((List.sublist_append_right _ _).trans (layer_bodies_sublist id _))

theorem ends_behind_of_four_layers : ∃ print, ofLines .reject fourLayerProgram = .ok print ∧
    print.EndsBehind .reject (linesBeforeEnd fourLayerProgram) := by
  have checked : succeedsWith (fun _ => true) (ofLines .reject fourLayerProgram) = true := by
    decide +kernel
  obtain ⟨print, recorded, -⟩ := exists_of_succeeds_with checked
  have none : ∀ line ∈ linesBehindEnd fourLayerProgram, ∀ index,
      Token.ofLine line ≠ .ok (.layerMarker index) := by decide +kernel
  exact ⟨print, recorded, (ends_behind_iff recorded).2.mpr none⟩

end Print

/-- Two layers, of which the upper one stands behind the end marker and the commands that switch the
nozzle off and park it. -/
def reopenedProgram : List Text := [
  Text.of "M140 S60", Text.of "M104 S210", Text.of "G92 E0", Text.of ";LAYER_COUNT:2",
  Text.of ";LAYER:0", Text.of "G0 X40 Y40 Z0.2", Text.of "G1 X60 E1",
  Text.of ";-- end code begin --", Text.of "M104 S0", Text.of "G0 X0 Y200",
  Text.of ";LAYER:1", Text.of "G0 X40 Y40 Z0.4", Text.of "G1 X60 E2",
  Text.of ";-- end code begin --"]

def reopens (print : Print) : Bool :=
  match print.layers.toList with
  | [lower, upper] => decide (lower.exit ≠ some upper.entry) &&
      decide (upper.entry.nozzle.current = some (.zero false)) &&
      decide (upper.lines.toList = [Text.of "G0 X40 Y40 Z0.4", Text.of "G1 X60 E2"])
  | _ => false

theorem Print.reopened_behind_end : ∃ print lower upper,
    ofLines .reject reopenedProgram = .ok print ∧ print.layers.toList = [lower, upper] ∧
    linesBeforeEnd reopenedProgram = reopenedProgram.take 7 ∧
    lower.exit ≠ some upper.entry ∧ upper.entry.nozzle.current = some (.zero false) ∧
    upper.lines.toList = [Text.of "G0 X40 Y40 Z0.4", Text.of "G1 X60 E2"] ∧
    ¬ print.EndsBehind .reject (linesBeforeEnd reopenedProgram) := by
  have checked : succeedsWith reopens (ofLines .reject reopenedProgram) = true := by decide +kernel
  obtain ⟨print, recorded, reopened⟩ := exists_of_succeeds_with checked
  unfold reopens at reopened
  split at reopened
  · rename_i lower upper layers
    simp only [Bool.and_eq_true, decide_eq_true_eq] at reopened
    obtain ⟨⟨apart, off⟩, recordedLines⟩ := reopened
    refine ⟨print, lower, upper, recorded, layers, by decide +kernel, apart, off, recordedLines, ?_⟩
    intro ended
    have continues := ended.continues
    rw [layers, List.isChain_pair] at continues
    exact apart continues
  · cases reopened

end PrintParts
