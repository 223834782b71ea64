import PrintParts.Proofs.Scaffold.Execution

/-!
An opening, executed on the reference printer, restores what was recorded where its layer begins: the
place, the coordinate of the filament and how far it is pulled back, and the fan. The depth of the
retraction is counted from the fresh zero of the priming. The recorded coordinate is declared later,
without moving the filament, and if it is zero itself there is nothing to be seen of the retraction behind
it.
-/

namespace PrintParts

namespace Scaffold

/-- The fresh zero behind the priming. -/
def resetLine : Line := noted "G92" [fixedField 'E' "0"] " Reset Extruder pos"

def declareLine (e : Binary64) : Line := bare "G92" [numberField 'E' e]

/-- A line that makes the coordinate of the filament zero. -/
def Line.Resets (line : Line) : Prop :=
  line.command.mnemonic = Text.of "G92" ∧
    ∃ field ∈ line.command.fields, field.isNamed 'E' = true ∧ field.text.rational? = some 0

instance : DecidablePred Line.Resets := fun line =>
  inferInstanceAs (Decidable (_ ∧ ∃ field ∈ line.command.fields, _))

def Settings.retractLine (settings : Settings) : Line :=
  noted "G1" [negatedField 'E' settings.primeRetract, fixedField 'F' "600"] " Retract a bit"

section

/-- A line that may come behind the fresh zero: it names no filament and declares no place. -/
def Line.Travels (line : Line) : Prop :=
  line.Reads Field.SparesFilament ∧ line.command.mnemonic ≠ Text.of "G92"

variable {settings : Settings} {print : Print} {layer : Layer} {part : Int}

theorem prime_split {nozzle : Binary64} {prime : List Line}
    (primes : settings.primeLines part nozzle = .ok prime) :
    ∃ before wipes, prime = before ++ resetLine :: settings.retractLine :: wipes ∧
      ∀ line ∈ wipes, line.Travels := by
  rcases Settings.prime_eq_ok primes with ⟨x, rfl⟩ | rfl
  -- On the bed the nozzle wipes behind the retraction; in the air nothing follows it.
  · refine ⟨(settings.bedPrimeLines x nozzle).take 12, (settings.bedPrimeLines x nozzle).drop 14,
      rfl, ?_⟩
    simp +decide [Settings.bedPrimeLines, heatNozzle, noted, remark, Line.Travels, Line.command,
      Field.SparesFilament]
  · refine ⟨(settings.airPrimeLines nozzle).take 13, [], rfl, ?_⟩
    simp

theorem approach_travels (point : ResumePoint) : ∀ line ∈ point.approachLines, line.Travels := by
  simp +decide [ResumePoint.approachLines, noted, bare, remark, Line.Travels, Line.command,
    Field.SparesFilament]

theorem ironing_travels (nozzle : Binary64) (points : List Position) :
    ∀ line ∈ ironingAround nozzle points, line.Travels := by
  simp +decide [ironingAround, ironingLine, remark, noted, Line.Travels, Line.command, or_imp,
    forall_and, AxisValue.to_text_is_word, Field.SparesFilament]

end

end Scaffold

namespace Printer

open Scaffold

variable {printer : Printer}

theorem move_filament {text : Text} {number : ℚ} (reads : text.rational? = some number)
    (absolute : printer.modes.extruder = .absolute) :
    printer.moveField (field 'E' text) = some (printer.pushTo number) := by
  have named : (field 'E' text).isNamed 'E' = true := beq_self_eq_true _
  rw [moveField, if_pos named, absolute]
  show text.rational?.map _ = _
  rw [reads]
  rfl

theorem move_axis {letter : Char} {axis : Axis} (named : Axis.ofLetter? [.char letter] = some axis)
    {text : Text} {number : ℚ} (reads : text.rational? = some number)
    (absolute : printer.modes.xyz = .absolute) :
    printer.moveField (field letter text) = some (printer.put axis number) := by
  have other : (field letter text).isNamed 'E' = false := by
    rw [field_named, decide_eq_false_iff_not]
    rintro rfl
    cases named
  have placed : Axis.ofLetter? (field letter text).letter = some axis := named
  have written : (field letter text).text.rational? = some number := reads
  simp only [moveField, other, placed, written, absolute]
  rfl

theorem move_speed (text : Text) : printer.moveField (field 'F' text) = some printer := rfl

theorem execute_rapid (fields : List Field) (note : Option Text) :
    printer.execute (Line.code (Text.of "G0") fields note).command =
      fields.foldlM moveField printer := rfl

theorem execute_linear (fields : List Field) (note : Option Text) :
    printer.execute (Line.code (Text.of "G1") fields note).command =
      fields.foldlM moveField printer := rfl

theorem fold_field {step : Printer → Field → Option Printer} {field : Field} {next : Printer}
    (stepped : step printer field = some next) (fields : List Field) :
    (field :: fields).foldlM step printer = fields.foldlM step next := by
  rw [List.foldlM_cons, stepped]
  rfl

theorem perform_line {line : Line} {next : Printer}
    (executed : printer.execute line.command = some next) (lines : List Line) :
    printer.perform (line :: lines) = next.perform lines := by
  rw [perform_cons, executed]
  rfl

theorem execute_push {text : Text} {number : ℚ} (reads : text.rational? = some number)
    (absolute : printer.modes.extruder = .absolute) (speed : Text) (note : Option Text) :
    printer.execute (Line.code (Text.of "G1") [field 'E' text, field 'F' speed] note).command =
      some (printer.pushTo number) := by
  rw [execute_linear, fold_field (move_filament reads absolute), fold_field (move_speed speed)]
  rfl

theorem execute_travel {textX textY textZ : Text} {x y z : ℚ} (readX : textX.rational? = some x)
    (readY : textY.rational? = some y) (readZ : textZ.rational? = some z)
    (absolute : printer.modes.xyz = .absolute) (speed : Text) (note : Option Text) :
    printer.execute (Line.code (Text.of "G0")
        [field 'X' textX, field 'Y' textY, field 'Z' textZ, field 'F' speed] note).command =
      some (((printer.put .x x).put .y y).put .z z) := by
  have second : (printer.put .x x).modes.xyz = .absolute := absolute
  have third : ((printer.put .x x).put .y y).modes.xyz = .absolute := absolute
  rw [execute_rapid, fold_field (move_axis rfl readX absolute),
    fold_field (move_axis rfl readY second), fold_field (move_axis rfl readZ third),
    fold_field (move_speed speed)]
  rfl

theorem execute_declare {text : Text} {number : ℚ} (reads : text.rational? = some number)
    (note : Option Text) :
    printer.execute (Line.code (Text.of "G92") [field 'E' text] note).command =
      some { printer with e := number } := by
  have declared : printer.declareField (field 'E' text) = some { printer with e := number } := by
    have named : (field 'E' text).isNamed 'E' = true := beq_self_eq_true _
    rw [declareField, if_pos named]
    show text.rational?.map _ = _
    rw [reads]
    rfl
  show [field 'E' text].foldlM declareField printer = _
  rw [fold_field declared]
  rfl

/-- The printer behind the lines that restore place and filament. -/
def restored (printer : Printer) (x y z back e : ℚ) : Printer :=
  { ((((printer.put .x x).put .y y).put .z z).pushTo back) with e := e }

theorem perform_restore {point : ResumePoint} {x y z back e : ℚ}
    (absolute : printer.modes = ⟨.absolute, .absolute⟩) (readX : point.x.toText.rational? = some x)
    (readY : point.y.toText.rational? = some y) (readZ : point.z.toText.rational? = some z)
    (readBack : point.retracted.toText.rational? = some back)
    (readE : point.e.toText.rational? = some e) :
    printer.perform point.restoreLines = some ((printer.restored x y z back e).pushTo e) := by
  have xyz : printer.modes.xyz = .absolute := congrArg Modes.xyz absolute
  have before : (((printer.put .x x).put .y y).put .z z).modes.extruder = .absolute :=
    congrArg Modes.extruder absolute
  have behind : (printer.restored x y z back e).modes.extruder = .absolute := before
  have idle : ∀ (next : Printer) (lines : List Line), next.perform
      (noted "M220" [fixedField 'S' "100"] " Reset Feedrate" :: .blank ::
        remark " Restore E and retraction" :: lines) = next.perform lines := fun _ _ => rfl
  refine (perform_line (execute_travel readX readY readZ xyz (Text.of "5000") none) _).trans ?_
  refine (idle _ _).trans ?_
  refine (perform_line (execute_push readBack before (Text.of "1500") none) _).trans ?_
  refine (perform_line (execute_declare readE none) _).trans ?_
  refine (perform_line (execute_push readE behind (Text.of "1800") none) _).trans ?_
  rfl

end Printer

/-- Whether a fan does what is known of it. -/
def Fan.ShownBy : Fan → Blower → Prop
  | .off, .off => True
  | .duty value, .duty number => value.toText.rational? = some number
  | _, _ => False

namespace Printer

open Scaffold

variable {printer : Printer}

theorem perform_fan {point : ResumePoint}
    (readable : ∀ line ∈ point.fanLines, line.Reads Field.Readable) :
    ∃ blower, printer.perform point.fanLines = some { printer with fan := blower } ∧
      ∀ fan, point.fan = some fan → fan.ShownBy blower := by
  unfold ResumePoint.fanLines at readable ⊢
  cases known : point.fan with
  | none => exact ⟨printer.fan, rfl, fun _ same => nomatch same⟩
  | some fan =>
    cases fan with
    | off =>
      refine ⟨.off, rfl, fun fan same => ?_⟩
      cases same
      trivial
    | duty value =>
      rw [known] at readable
      obtain ⟨number, reads⟩ := ((readable _ List.mem_cons_self).2 rfl _ List.mem_cons_self).2
      refine ⟨.duty number, ?_, fun fan same => ?_⟩
      · show printer.perform [fanLine (.duty value) (some (Text.of " restore fan"))] = _
        refine (perform_line ?_ _).trans (rfl : perform _ [] = _)
        show (value.toText.rational?.map fun number => { printer with fan := .duty number }) = _
        rw [show value.toText.rational? = some number from reads]
        rfl
      · cases same
        exact reads

theorem perform_rates (settings : Settings) (part : Int) :
    printer.perform (if 0 < part then settings.firstLayerRates else []) = some printer := by
  unfold Settings.firstLayerRates
  split
  · split <;> rfl
  · rfl

theorem perform_reset : printer.perform [resetLine] = some { printer with e := 0 } := by
  have zero : (Text.of "0").rational? = some 0 := by
    have read : (Text.of "0").numeral? = some (.decimal false 0 0) := by decide
    rw [Text.rational?, read, Option.bind_some, Numeral.rational?]
    norm_num
  exact perform_line (execute_declare zero _) []

end Printer

namespace Scaffold

/-- Whether a printer stands as it was recorded where a layer begins, `primed` being the printer at
the fresh zero. -/
structure Restores (layer : Layer) (primed final : Printer) : Prop where
  place : ∀ axis, ∃ number, layer.startPosition.get axis = .absolute number ∧
    number.toText.rational? = some (final.position axis)
  e : ∃ number, layer.entry.e = .absolute number ∧ number.toText.rational? = some final.e
  retraction : ∃ depth, layer.entry.retraction? = some depth ∧
    depth.toText.rational? = some (-(final.filament - primed.filament))
  fan : ∀ fan, layer.entry.fan = some fan → fan.ShownBy final.fan

section

variable {settings : Settings} {print : Print} {layer : Layer} {part : Int} {point : ResumePoint}

/-- What comes behind the fresh zero, with the moves up to the place of the layer in one section. -/
def Settings.afterReset (settings : Settings) (point : ResumePoint) (part : Int)
    (travels : List Line) : List Line :=
  settings.retractLine :: travels ++ point.restoreLines ++ point.fanLines ++
    (if 0 < part then settings.firstLayerRates else [])

theorem restore_numbers (resumes : settings.Resumes print layer part point)
    (bounded : ∀ line ∈ point.restoreLines, ∀ field ∈ line.command.fields, field.text.Bounded) :
    ∃ x y z e number depth, point.x.toText.rational? = some x ∧ point.y.toText.rational? = some y ∧
      point.z.toText.rational? = some z ∧ point.e.toText.rational? = some e ∧
      layer.entry.retraction? = some depth ∧ depth.toText.rational? = some number ∧
      point.retracted.toText.rational? = some (-number) := by
  have finite : ∀ letter value, (∃ line ∈ point.restoreLines,
      numberField letter value ∈ line.command.fields) → value.isFinite = true := by
    rintro letter value ⟨line, inLines, inLine⟩
    exact Binary64.finite_of_bounded (bounded line inLines _ inLine)
  obtain ⟨x, readX⟩ := Binary64.to_text_exact (finite 'X' point.x
    ⟨_, List.mem_cons_self, List.mem_cons_self⟩)
  obtain ⟨y, readY⟩ := Binary64.to_text_exact (finite 'Y' point.y
    ⟨_, List.mem_cons_self, by simp [bare, Line.command]⟩)
  obtain ⟨z, readZ⟩ := Binary64.to_text_exact (finite 'Z' point.z
    ⟨_, List.mem_cons_self, by simp [bare, Line.command]⟩)
  obtain ⟨e, readE⟩ := Binary64.to_text_exact (finite 'E' point.e
    ⟨declareLine point.e, by simp [ResumePoint.restoreLines, declareLine], List.mem_cons_self⟩)
  obtain ⟨depth, known, same⟩ := resumes.retraction
  have pulled := finite 'E' point.retracted
    ⟨bare "G1" [numberField 'E' point.retracted, fixedField 'F' "1500"],
      by simp [ResumePoint.restoreLines], List.mem_cons_self⟩
  rw [same] at pulled ⊢
  obtain ⟨number, readDepth, readBack⟩ := Binary64.zero_sub_exact pulled
  exact ⟨x, y, z, e, number, depth, readX, readY, readZ, readE, known, readDepth, readBack⟩

theorem after_reset_restores (resumes : settings.Resumes print layer part point)
    {travels : List Line} (travel : ∀ line ∈ travels, line.Travels)
    (steady : ∀ line ∈ travels, line.Steady)
    (readable : ∀ line ∈ settings.afterReset point part travels, line.Reads Field.Readable)
    (bounded : ∀ line ∈ point.restoreLines, ∀ field ∈ line.command.fields, field.text.Bounded)
    {primed : Printer} (absolute : primed.modes = ⟨.absolute, .absolute⟩) (zero : primed.e = 0) :
    ∃ final, primed.perform (settings.afterReset point part travels) = some final ∧
      Restores layer primed final := by
  simp only [Settings.afterReset, List.forall_mem_append, List.forall_mem_cons] at readable
  obtain ⟨⟨⟨⟨readRetract, readTravels⟩, readRestore⟩, readFan⟩, -⟩ := readable
  obtain ⟨x, y, z, e, number, depth, readX, readY, readZ, readE, known, readDepth, readBack⟩ :=
    restore_numbers resumes bounded
  obtain ⟨pulled, reads⟩ := (readRetract.2 rfl _ List.mem_cons_self).2
  have extruder : primed.modes.extruder = .absolute := congrArg Modes.extruder absolute
  have retract : primed.execute settings.retractLine.command = some (primed.pushTo pulled) :=
    Printer.execute_push reads extruder (Text.of "600") _
  obtain ⟨above, moved⟩ := Printer.perform_succeeds readTravels (primed.pushTo pulled)
  -- The travels spare the filament, so what the retraction left is what the restoring lines find.
  have spared := Printer.perform_spares (fun line member => (travel line member).1) moved
  have modes : above.modes = ⟨.absolute, .absolute⟩ :=
    (Printer.perform_steady readTravels steady moved).trans absolute
  have restored := Printer.perform_restore modes readX readY readZ readBack readE
  obtain ⟨blower, blown, shown⟩ :=
    @Printer.perform_fan ((above.restored x y z (-number) e).pushTo e) point readFan
  have atE : above.e = pulled := congrArg Prod.fst spared
  have pushed : above.filament = primed.filament + (pulled - primed.e) := congrArg Prod.snd spared
  refine ⟨{ (above.restored x y z (-number) e).pushTo e with fan := blower }, ?_, ?_⟩
  · simp only [Settings.afterReset, List.cons_append, Printer.perform_line retract,
      Printer.perform_append, moved, restored, blown, Option.bind_some]
    exact Printer.perform_rates settings part
  · refine ⟨?_, ⟨point.e, resumes.e, readE⟩, ⟨depth, known, ?_⟩, fun fan same => ?_⟩
    · intro axis
      rw [resumes.start]
      cases axis with
      | x => exact ⟨point.x, rfl, readX⟩
      | y => exact ⟨point.y, rfl, readY⟩
      | z => exact ⟨point.z, rfl, readZ⟩
    · rw [readDepth]
      congr 1
      show number = -(above.filament + (-number - above.e) + (e - e) - primed.filament)
      rw [pushed, atE, zero]
      ring
    · exact shown fan (resumes.fan.trans same)

theorem declared_behind_reset {travels : List Line} (travel : ∀ line ∈ travels, line.Travels) :
    ∀ line ∈ settings.afterReset point part travels,
      line.command.mnemonic = Text.of "G92" → line = declareLine point.e := by
  have restore : ∀ line ∈ point.restoreLines,
      line.command.mnemonic = Text.of "G92" → line = declareLine point.e := by
    simp +decide [ResumePoint.restoreLines, declareLine, noted, bare, remark, Line.command]
  have fan : ∀ line ∈ point.fanLines,
      line.command.mnemonic = Text.of "G92" → line = declareLine point.e := by
    unfold ResumePoint.fanLines
    split
    · simp
    · rename_i fan _
      cases fan <;> simp +decide [fanLine, Line.command]
  have rates : ∀ line ∈ if 0 < part then settings.firstLayerRates else [],
      line.command.mnemonic = Text.of "G92" → line = declareLine point.e := by
    unfold Settings.firstLayerRates
    split
    · split <;> simp +decide [noted, Line.command]
    · simp
  simp only [Settings.afterReset, List.forall_mem_append, List.forall_mem_cons]
  refine ⟨⟨⟨⟨?_, fun line member same => absurd same (travel line member).2⟩, restore⟩, fan⟩, rates⟩
  simp +decide [Settings.retractLine, noted, Line.command]

theorem opening_parts {opening : List Line}
    (opens : settings.opening print layer part = .ok opening) :
    ∃ point leading rest travels, settings.Resumes print layer part point ∧
      opening = (leading ++ (Settings.absoluteLines ++ rest)) ++
        resetLine :: settings.afterReset point part travels ∧
      (∀ line ∈ rest ++ [resetLine], line.Steady) ∧
      (∀ line ∈ travels, line.Travels) ∧ ∀ line ∈ travels, line.Steady := by
  obtain ⟨point, prime, ironing, resumes, primes, irons, rfl⟩ := Settings.opening_eq_ok opens
  have quiet := @behind_absolute_steady settings print part point prime ironing primes irons
  obtain ⟨before, wipes, rfl, wiped⟩ := prime_split primes
  have behind : settings.behindLines point part
      (before ++ resetLine :: settings.retractLine :: wipes) ironing =
      (settings.parkLines point.homing ++ before ++ [resetLine]) ++
        settings.afterReset point part (wipes ++ point.approachLines ++ ironing) := by
    simp [Settings.behindLines, Settings.afterReset]
  rw [behind, List.forall_mem_append] at quiet
  refine ⟨point, settings.leadingLines point layer.number part,
    settings.parkLines point.homing ++ before, wipes ++ point.approachLines ++ ironing,
    Settings.resume_point_eq_ok resumes, ?_, quiet.1, ?_, fun line member => ?_⟩
  · rw [Settings.opening_at_eq, behind]
    simp
  · simp only [List.forall_mem_append]
    refine ⟨⟨wiped, approach_travels point⟩, ?_⟩
    rcases irons with rfl | ⟨below, -, nozzle, rfl⟩
    · simp
    · exact ironing_travels nozzle _
  · apply quiet.2
    exact List.mem_append_left _ (List.mem_append_left _ (List.mem_append_left _
      (List.mem_cons_of_mem _ member)))

theorem reset_reached {leading rest : List Line}
    (readable : ∀ line ∈ leading ++ (Settings.absoluteLines ++ rest) ++ [resetLine],
      line.Reads Field.Readable)
    (steady : ∀ line ∈ rest ++ [resetLine], line.Steady) (printer : Printer) :
    ∃ primed, printer.run ((leading ++ (Settings.absoluteLines ++ rest) ++ [resetLine]).map
        Line.toText) = some primed ∧
      primed.modes = ⟨.absolute, .absolute⟩ ∧ primed.e = 0 := by
  obtain ⟨parked, reached⟩ := Printer.perform_succeeds
    (List.forall_mem_append.mp readable).1 printer
  have primed : printer.run ((leading ++ (Settings.absoluteLines ++ rest) ++ [resetLine]).map
      Line.toText) = some { parked with e := 0 } := by
    rw [Printer.run_eq_perform readable, Printer.perform_append, reached]
    exact Printer.perform_reset
  refine ⟨_, primed, ?_, rfl⟩
  have modes := Printer.run_modes primed
  rw [List.append_assoc, List.append_assoc] at modes
  exact modes.trans (absolute_behind steady leading printer.modes)

theorem rational_of_declared_reset {e : Binary64} (resets : (declareLine e).Resets) :
    e.toText.rational? = some 0 := by
  obtain ⟨-, field, member, -, reads⟩ := resets
  rw [List.mem_singleton.mp member] at reads
  exact reads

/-- Executed from any state of the printer, an opening restores what was recorded where its layer
begins. The filament is counted from the fresh zero of the priming, behind which nothing is declared
but the recorded coordinate, and no line makes the coordinate zero unless it is recorded as zero. -/
theorem opening_restores {policy : OverridePolicy} {program : List Text}
    (recorded : Print.ofLines policy program = .ok print)
    (retract : settings.retract.hasMinus = false)
    (primeRetract : settings.primeRetract.hasMinus = false) {opening : List Line}
    (opens : settings.opening print layer part = .ok opening)
    (bounded : ∀ line ∈ opening, ∀ field ∈ line.command.fields, field.text.Bounded)
    (printer : Printer) :
    ∃ front back e primed final, opening = front ++ resetLine :: back ∧
      layer.entry.e = .absolute e ∧
      (∀ line ∈ back, line.command.mnemonic = Text.of "G92" → line = declareLine e) ∧
      (∀ line ∈ back, line.Resets → final.e = 0) ∧
      printer.run ((front ++ [resetLine]).map Line.toText) = some primed ∧
      primed.run (back.map Line.toText) = some final ∧
      printer.run (opening.map Line.toText) = some final ∧
      Restores layer primed final := by
  have legible := opening_reads (legible_rule retract primeRetract) recorded opens
  obtain ⟨point, leading, rest, travels, resumes, rfl, quiet, travel, steady⟩ := opening_parts opens
  have readable := fun line member =>
    Line.readable_of_legible (legible line member) (bounded line member)
  rw [List.append_cons, List.forall_mem_append] at readable
  obtain ⟨readFront, readBack⟩ := readable
  have restoring : ∀ line ∈ point.restoreLines, ∀ field ∈ line.command.fields,
      field.text.Bounded := fun line member => bounded line (by simp [Settings.afterReset, member])
  obtain ⟨primed, reached, absolute, zero⟩ := reset_reached readFront quiet printer
  obtain ⟨final, performed, restores⟩ :=
    after_reset_restores resumes travel steady readBack restoring absolute zero
  have rest := (Printer.run_eq_perform readBack primed).trans performed
  have declared := @declared_behind_reset settings part point travels travel
  refine ⟨_, _, point.e, primed, final, rfl, resumes.e, declared, fun line member resets => ?_, reached,
    rest, ?_, restores⟩
  · obtain ⟨e, recordedE, readE⟩ := restores.e
    cases resumes.e.symm.trans recordedE
    have zero := rational_of_declared_reset (declared line member resets.1 ▸ resets)
    exact Option.some.inj (readE.symm.trans zero)
  · rw [List.append_cons, List.map_append, Printer.run_append, reached]
    exact rest

end

def retractedProgram : List Text := [
  Text.of "M140 S60", Text.of "M104 S210", Text.of "G92 E0", Text.of ";LAYER_COUNT:2",
  Text.of ";LAYER:0", Text.of "G0 X40 Y40 Z0.2", Text.of "G1 X60 E1", Text.of "M106 S128",
  Text.of "G1 E0.25", Text.of ";LAYER:1", Text.of "G0 X40 Y40 Z0.4", Text.of "G1 X60 E2",
  Text.of ";-- end code begin --"]

def opensFinitely (settings : Settings) (print : Print) : Bool :=
  print.layers.toList.any fun layer => decide (layer.number = 1) &&
    succeedsWith (fun opening => decide (∀ line ∈ opening, ∀ field ∈ (Line.command line).fields,
      field.text.Bounded)) (settings.opening print layer 1)

def usedPrinter : Printer where
  position := fun _ => 7
  e := 5
  filament := 100
  modes := ⟨.relative, .relative⟩
  fan := .full

theorem opening_restores_retracted_layer : ∃ print,
    Print.ofLines .reject retractedProgram = .ok print ∧
    ∃ layer ∈ print.layers.toList, layer.number = 1 ∧ ∃ opening front back primed final,
      Settings.opening { iron := true } print layer 1 = .ok opening ∧
      opening = front ++ resetLine :: back ∧
      usedPrinter.run ((front ++ [resetLine]).map Line.toText) = some primed ∧
      usedPrinter.run (opening.map Line.toText) = some final ∧ Restores layer primed final := by
  have checked : succeedsWith (opensFinitely { iron := true })
      (Print.ofLines .reject retractedProgram) = true := by decide +kernel
  obtain ⟨print, recorded, opens⟩ := exists_of_succeeds_with checked
  obtain ⟨layer, member, second⟩ := List.any_eq_true.mp opens
  obtain ⟨number, made⟩ := (Bool.and_eq_true _ _).mp second
  obtain ⟨opening, opened, bounded⟩ := exists_of_succeeds_with made
  obtain ⟨front, back, _, primed, final, parts, -, -, -, reached, -, ran, restores⟩ :=
    opening_restores recorded (by decide +kernel) (by decide +kernel) opened
      (of_decide_eq_true bounded) usedPrinter
  exact ⟨print, recorded, layer, member, of_decide_eq_true number, opening, front, back, primed,
    final, opened, parts, reached, ran, restores⟩

/-- The filament is pulled back by three in front of the second layer, and its coordinate is made zero. -/
def zeroedProgram : List Text := [
  Text.of "M140 S60", Text.of "M104 S210", Text.of "G92 E0", Text.of ";LAYER_COUNT:2",
  Text.of ";LAYER:0", Text.of "G0 X40 Y40 Z0.2", Text.of "G1 X60 E5", Text.of "G1 E2",
  Text.of "G92 E0", Text.of ";LAYER:1", Text.of "G0 X40 Y40 Z0.4", Text.of "G1 E3",
  Text.of "G1 X60 E4", Text.of ";-- end code begin --"]

/-- Whether a printer pushes no filament behind the last line that makes its coordinate zero. -/
def restsBehindReset (printer : Printer) (opening : List Line) : Bool :=
  match opening.reverse.dropWhile fun line => !decide line.Resets with
  | [] => false
  | reset :: front =>
    match printer.run ((front.reverse ++ [reset]).map Line.toText),
      printer.run (opening.map Line.toText) with
    | some counted, some final => decide reset.Resets && decide (final.filament = counted.filament)
    | _, _ => false

theorem exists_of_rests_behind_reset {printer : Printer} {opening : List Line}
    (rests : restsBehindReset printer opening = true) : ∃ front reset back counted final,
      opening = front ++ reset :: back ∧ reset.Resets ∧ (∀ line ∈ back, ¬ line.Resets) ∧
      printer.run ((front ++ [reset]).map Line.toText) = some counted ∧
      printer.run (opening.map Line.toText) = some final ∧ final.filament = counted.filament := by
  have whole := List.takeWhile_append_dropWhile
    (p := fun line : Line => !decide line.Resets) (l := opening.reverse)
  have behind := fun line => @List.mem_takeWhile_imp _ (fun line : Line => !decide line.Resets)
    opening.reverse line
  unfold restsBehindReset at rests
  generalize opening.reverse.takeWhile (fun line => !decide line.Resets) = back at whole behind
  split at rests
  · cases rests
  · rename_i reset front found
    rw [found] at whole
    split at rests
    · rename_i counted final reached ran
      obtain ⟨resets, same⟩ := (Bool.and_eq_true _ _).mp rests
      refine ⟨front.reverse, reset, back.reverse, counted, final, ?_, of_decide_eq_true resets,
        fun line member => ?_, reached, ran, of_decide_eq_true same⟩
      · rw [← List.reverse_reverse opening, ← whole]
        simp
      · simpa using behind line (List.mem_reverse.mp member)
    · cases rests

/-- The filament is pulled back by three, of which nothing is to be seen if it is counted from the last
line that makes its coordinate zero. -/
theorem retraction_hidden_behind_zero : ∃ print,
    Print.ofLines .reject zeroedProgram = .ok print ∧
    ∃ layer ∈ print.layers.toList, layer.number = 1 ∧ ∃ opening front reset back counted final,
      Settings.opening {} print layer 1 = .ok opening ∧
      (∀ line ∈ opening, ∀ field ∈ line.command.fields, field.text.Bounded) ∧
      opening = front ++ reset :: back ∧ reset.Resets ∧ (∀ line ∈ back, ¬ line.Resets) ∧
      usedPrinter.run ((front ++ [reset]).map Line.toText) = some counted ∧
      usedPrinter.run (opening.map Line.toText) = some final ∧
      final.filament - counted.filament = 0 ∧
      ∃ depth, layer.entry.retraction? = some depth ∧ depth.toText.rational? = some 3 := by
  have checked : succeedsWith (fun print => print.layers.toList.any fun layer =>
      decide (layer.number = 1) &&
      (layer.entry.retraction?.any fun depth => decide (depth.toText.rational? = some 3)) &&
      succeedsWith (fun opening => restsBehindReset usedPrinter opening &&
        decide (∀ line ∈ opening, ∀ field ∈ (Line.command line).fields, field.text.Bounded))
        (Settings.opening {} print layer 1)) (Print.ofLines .reject zeroedProgram) = true := by
    decide +kernel
  obtain ⟨print, recorded, opens⟩ := exists_of_succeeds_with checked
  obtain ⟨layer, member, passed⟩ := List.any_eq_true.mp opens
  simp only [Bool.and_eq_true, decide_eq_true_eq] at passed
  obtain ⟨⟨number, deep⟩, made⟩ := passed
  obtain ⟨opening, opened, both⟩ := exists_of_succeeds_with made
  obtain ⟨rests, bounded⟩ := (Bool.and_eq_true _ _).mp both
  obtain ⟨front, reset, back, counted, final, parts, resets, later, reached, ran, same⟩ :=
    exists_of_rests_behind_reset rests
  obtain ⟨depth, known, three⟩ := (Option.any_eq_true _ _).mp deep
  exact ⟨print, recorded, layer, member, number, opening, front, reset, back, counted, final, opened,
    of_decide_eq_true bounded, parts, resets, later, reached, ran, sub_eq_zero.mpr same, depth, known,
    of_decide_eq_true three⟩

end Scaffold

end PrintParts
