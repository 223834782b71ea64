import PrintParts.Document
import PrintParts.Proofs.Machine.Modes
import PrintParts.Proofs.Scaffold.Sections

/-!
The modes in which an opening leaves the printer. Both are absolute behind it, whatever they were
before and whatever they are when the layer begins, so a layer that was recorded in another mode is
not read as it was in the program.
-/

namespace PrintParts

namespace Modes

/-- The modes behind a line; a mnemonic without a meaning leaves them alone. -/
def afterLine (modes : Modes) (line : Text) : Modes :=
  match Code.ofMnemonic? (Command.ofLine line).mnemonic with
  | some code => modes.follow code
  | none => modes

def afterLines (modes : Modes) (lines : List Text) : Modes := lines.foldl afterLine modes

end Modes

def Code.setsModes : Code → Bool
  | .absolutePositioning | .relativePositioning | .absoluteExtrusion | .relativeExtrusion => true
  | _ => false

theorem Modes.follow_eq_self {code : Code} (other : code.setsModes = false) (modes : Modes) :
    modes.follow code = modes := by
  cases code <;> first | rfl | cases other

namespace Scaffold

def IsSteady (mnemonic : Text) : Prop :=
  IsMnemonic mnemonic ∧ (Code.ofMnemonic? mnemonic).all (!·.setsModes) = true

instance (mnemonic : Text) : Decidable (IsSteady mnemonic) := inferInstanceAs (Decidable (_ ∧ _))

namespace Line

/-- A line that leaves the modes alone. -/
def Steady (line : Line) : Prop := ∀ modes : Modes, modes.afterLine line.toText = modes

@[simp]
theorem blank_steady : blank.Steady := fun _ => rfl

@[simp]
theorem remark_steady (text : Text) : (remark text).Steady := fun _ => rfl

@[simp]
theorem code_steady {mnemonic : Text} (steady : IsSteady mnemonic) (fields : List Field)
    (note : Option Text) : (code mnemonic fields note).Steady := by
  intro modes
  have read := mnemonic_of_line_to_text (show (code mnemonic fields note).Named from steady.1)
  have quiet := steady.2
  rw [Modes.afterLine, read, command]
  cases meant : Code.ofMnemonic? mnemonic with
  | none => rfl
  | some code =>
    rw [meant] at quiet
    exact Modes.follow_eq_self (by simpa using quiet) modes

end Line

theorem steady_lines {lines : List Line} (steady : ∀ line ∈ lines, line.Steady) (modes : Modes) :
    modes.afterLines (lines.map Line.toText) = modes := by
  induction lines with
  | nil => rfl
  | cons line lines induction =>
    have first := steady line List.mem_cons_self
    have later := induction fun other member => steady other (List.mem_cons_of_mem _ member)
    rw [List.map_cons, Modes.afterLines, List.foldl_cons, first modes]
    exact later

theorem behind_absolute_steady {settings : Settings} {print : Print} {part : Int}
    {point : ResumePoint} {prime ironing : List Line}
    (primes : settings.primeLines part point.nozzle = .ok prime)
    (irons : IsIroning print ironing) :
    ∀ line ∈ settings.behindLines point part prime ironing, line.Steady := by
  apply Settings.forall_behind_lines Line.Steady primes
  · simp +decide [Settings.parkLines, noted, bare]
  · simp +decide [Settings.bedPrimeLines, heatNozzle, remark, noted]
  · simp +decide [Settings.airPrimeLines, heatNozzle, remark, noted]
  · simp +decide [ResumePoint.approachLines, remark, noted, bare]
  · apply Settings.forall_ironing Line.Steady irons
    simp +decide [ironingAround, ironingLine, remark, noted, or_imp, forall_and]
  · simp +decide [ResumePoint.restoreLines, remark, noted, bare]
  · intro fan note
    cases fan <;> simp +decide [fanLine]
  · unfold Settings.firstLayerRates
    split <;> simp +decide [noted]

theorem absolute_lines_modes (modes : Modes) :
    modes.afterLines (Settings.absoluteLines.map Line.toText) = ⟨.absolute, .absolute⟩ := by
  have xyz : Code.ofMnemonic? (Command.ofLine (noted "G90" [] " absolute pos").toText).mnemonic =
      some .absolutePositioning := by decide +kernel
  have extruder : Code.ofMnemonic? (Command.ofLine (noted "M82" [] " absolute E").toText).mnemonic =
      some .absoluteExtrusion := by decide +kernel
  simp only [Settings.absoluteLines, List.map_cons, List.map_nil, Modes.afterLines, List.foldl_cons,
    List.foldl_nil, Modes.afterLine, xyz, extruder, Modes.follow]

theorem absolute_behind {rest : List Line} (steady : ∀ line ∈ rest, line.Steady)
    (first : List Line) (modes : Modes) :
    modes.afterLines ((first ++ (Settings.absoluteLines ++ rest)).map Line.toText) =
      ⟨.absolute, .absolute⟩ := by
  rw [List.map_append, List.map_append, Modes.afterLines, List.foldl_append, List.foldl_append]
  have absolute := absolute_lines_modes (modes.afterLines (first.map Line.toText))
  exact (steady_lines steady _).trans absolute

section

variable {settings : Settings} {print : Print} {layer : Layer} {part : Int} {lines : List Text}

theorem opening_ends_absolute
    (opens : (Generator.ofSettings settings).opening print layer part = .ok lines) (modes : Modes) :
    modes.afterLines lines = ⟨.absolute, .absolute⟩ := by
  obtain ⟨opening, made, rfl⟩ := map_eq_ok.mp opens
  obtain ⟨point, prime, ironing, -, primes, irons, rfl⟩ := Settings.opening_eq_ok made
  rw [Settings.opening_at_eq]
  exact absolute_behind (behind_absolute_steady primes irons) _ modes

/-- Behind an opening both modes are absolute, whatever they were. So they are those in which the
layer was recorded exactly if the layer begins with both modes absolute. -/
theorem opening_modes
    (opens : (Generator.ofSettings settings).opening print layer part = .ok lines) (modes : Modes) :
    modes.afterLines lines = ⟨.absolute, .absolute⟩ ∧
      (modes.afterLines lines = layer.entry.modes ↔
        layer.entry.extruderMode = .absolute ∧ layer.entry.xyzMode = .absolute) := by
  have ends := opening_ends_absolute opens modes
  refine ⟨ends, ?_⟩
  rw [ends, MachineState.modes, Modes.mk.injEq]
  exact ⟨fun same => ⟨same.1.symm, same.2.symm⟩, fun same => ⟨same.1.symm, same.2.symm⟩⟩

end

def oneLayerProgram (mode : String) : List Text := [
  Text.of "M140 S60", Text.of "M104 S210", Text.of mode, Text.of "G92 E0", Text.of "G0 X40 Y40 Z0.2",
  Text.of ";LAYER_COUNT:1", Text.of ";LAYER:0", Text.of "G1 X60 E1",
  Text.of ";-- end code begin --"]

/-- Whether the opening of the first layer can be made, and the mode in which that layer begins. -/
def opensInMode (mode : Mode) (print : Print) : Bool :=
  print.layers.toList.any fun layer => decide (layer.entry.extruderMode = mode) &&
    decide (layer.entry.xyzMode = .absolute) &&
    succeedsWith (fun _ => true) ((Generator.ofSettings {}).opening print layer 0)

theorem exists_of_opens_in_mode {mode : Mode} {print : Print}
    (opens : opensInMode mode print = true) :
    ∃ layer ∈ print.layers.toList, layer.entry.modes = ⟨mode, .absolute⟩ ∧
      ∃ lines, (Generator.ofSettings {}).opening print layer 0 = .ok lines := by
  obtain ⟨layer, member, checked⟩ := List.any_eq_true.mp opens
  simp only [Bool.and_eq_true, decide_eq_true_eq] at checked
  obtain ⟨⟨extruder, xyz⟩, made⟩ := checked
  obtain ⟨lines, opened, -⟩ := exists_of_succeeds_with made
  exact ⟨layer, member, by rw [MachineState.modes, extruder, xyz], lines, opened⟩

theorem opening_modes_of_absolute_extrusion : ∃ print,
    Print.ofLines .reject (oneLayerProgram "M82") = .ok print ∧
    ∃ layer ∈ print.layers.toList, ∃ lines,
      (Generator.ofSettings {}).opening print layer 0 = .ok lines ∧
      ∀ modes : Modes, modes.afterLines lines = layer.entry.modes := by
  have checked : succeedsWith (opensInMode .absolute)
      (Print.ofLines .reject (oneLayerProgram "M82")) = true := by decide +kernel
  obtain ⟨print, recorded, opens⟩ := exists_of_succeeds_with checked
  obtain ⟨layer, member, entry, lines, opened⟩ := exists_of_opens_in_mode opens
  obtain ⟨extruder, xyz⟩ := Modes.mk.inj entry
  exact ⟨print, recorded, layer, member, lines, opened, fun modes =>
    (opening_modes opened modes).2.mpr ⟨extruder, xyz⟩⟩

theorem relative_extrusion_not_restored : ∃ print,
    Print.ofLines .reject (oneLayerProgram "M83") = .ok print ∧
    ∃ layer ∈ print.layers.toList, ∃ lines,
      (Generator.ofSettings {}).opening print layer 0 = .ok lines ∧
      ∀ modes : Modes, modes.afterLines lines ≠ layer.entry.modes := by
  have checked : succeedsWith (opensInMode .relative)
      (Print.ofLines .reject (oneLayerProgram "M83")) = true := by decide +kernel
  obtain ⟨print, recorded, opens⟩ := exists_of_succeeds_with checked
  obtain ⟨layer, member, entry, lines, opened⟩ := exists_of_opens_in_mode opens
  refine ⟨print, recorded, layer, member, lines, opened, fun modes same => ?_⟩
  rw [opening_ends_absolute opened, entry] at same
  exact absurd same (by decide)

end Scaffold

end PrintParts
