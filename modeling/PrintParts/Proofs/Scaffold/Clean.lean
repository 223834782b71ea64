import PrintParts.Proofs.Scaffold.Commanded
import PrintParts.Proofs.Scaffold.Sections

/-!
What the check reports of the scaffolds that are made here. Nothing but the numbers that are filled in can
displease it: a height that is not finite declares nothing, and a temperature that is not finite or not above
zero heats nothing.
-/

namespace PrintParts

namespace Scaffold

theorem find_settling_homing (z : Binary64) : ∃ checked,
    (readingsOf (Homing.declared z).lines).find? (·.settlesZ) = some checked ∧
      checked.declaresZ = z.isFinite := by
  have known : IsKnown (Text.of "G92") := by decide
  obtain ⟨first, reads⟩ := reads_known known [numberField 'Z' z] (some (Text.of " set Z without homing"))
  obtain ⟨last, homes, moves, undeclared, -⟩ := homing_read (some (Text.of " homing"))
  have still := @find_settling_still [noted "M211" [fixedField 'S' "0"] " Deactivate software endstops",
    noted "G90" [] " absolute pos"] (by simp +decide [Line.Avoids, noted])
  have parts : (Homing.declared z).lines = [noted "G92" [numberField 'Z' z] " set Z without homing"] ++
      ([noted "M211" [fixedField 'S' "0"] " Deactivate software endstops", noted "G90" [] " absolute pos"] ++
        [noted "G28" [fixedField 'X' "0", fixedField 'Y' "0"] " homing"]) := rfl
  have opens : readingsOf [noted "G92" [numberField 'Z' z] " set Z without homing"] = [first] :=
    readings_of_single reads.reading
  have closes : readingsOf [noted "G28" [fixedField 'X' "0", fixedField 'Y' "0"] " homing"] = [last] :=
    readings_of_single homes
  have number : first.g = some 92 := Except.ok.inj (reads.g.symm.trans rfl)
  have declares : first.declaresZ = z.isFinite := by
    rw [CheckedLine.declaresZ, number, reads.z]
    exact z_of_single known.isMnemonic (by decide) z _
  have settles : first.settlesZ = z.isFinite := by
    simp [CheckedLine.settlesZ, CheckedLine.movesXY, declares, number]
  rw [parts, readings_of_append, readings_of_append, opens, closes, List.singleton_append]
  cases readable : z.isFinite with
  | true => exact ⟨first, List.find?_cons_of_pos (settles.trans readable), declares.trans readable⟩
  | false =>
    refine ⟨last, ?_, undeclared⟩
    rw [List.find?_cons_of_neg (by simp [settles, readable]), List.find?_append, still]
    simp [CheckedLine.settlesZ, moves]

variable {settings : Settings} {print : Print} {layer : Layer} {part : Int} {point : ResumePoint}

theorem part_of_resume_point (resumes : settings.resumePoint print layer part = .ok point) : 0 ≤ part := by
  by_contra below
  have notLater : ¬ 0 < part := by omega
  have notFirst : part ≠ 0 := by omega
  unfold Settings.resumePoint at resumes
  simp only [if_neg notLater, if_neg notFirst, pure_bind] at resumes
  split at resumes
  · obtain ⟨_, -, resumes⟩ := bind_eq_ok.mp resumes
    obtain ⟨_, -, resumes⟩ := bind_eq_ok.mp resumes
    split at resumes
    · obtain ⟨_, -, resumes⟩ := bind_eq_ok.mp resumes
      obtain ⟨_, -, resumes⟩ := bind_eq_ok.mp resumes
      obtain ⟨_, -, resumes⟩ := bind_eq_ok.mp resumes
      split at resumes
      · cases resumes
      · cases resumes
    · cases resumes
  · cases resumes

theorem leading_leads (settings : Settings) (layer : Int) (whole : part ≤ 0 ∨ ∃ z, point.homing = .declared z) :
    ∀ line ∈ settings.leadingLines point layer part, line.LeadsTo point part := by
  apply Settings.forall_leading_lines (Line.LeadsTo point part)
  · simp [Line.LeadsTo]
  · simp [Line.LeadsTo]
  · simp +decide [Line.LeadsTo, noted]
  · simp +decide [Line.LeadsTo, ResumePoint.heatBedLines, noted]
  · cases homing : point.homing with
    | full =>
      have first : ¬ 0 < part := Int.not_lt.mpr (whole.resolve_right (by simp [homing]))
      simp +decide [Line.LeadsTo, Homing.lines, noted, first]
    | declared z => simp +decide [Line.LeadsTo, Homing.lines, noted]
  · simp +decide [Line.LeadsTo, noted]

theorem behind_leads {prime : List Line} (primes : settings.primeLines part point.nozzle = .ok prime) :
    ∀ line ∈ settings.behindLines point part prime [], line.LeadsTo point part := by
  apply Settings.forall_behind_lines (Line.LeadsTo point part) primes
  · simp +decide [Line.LeadsTo, Settings.parkLines, noted, bare]
  · simp +decide [Line.LeadsTo, Settings.bedPrimeLines, heatNozzle, remark, noted]
  · simp +decide [Line.LeadsTo, Settings.airPrimeLines, heatNozzle, remark, noted]
  · simp +decide [Line.LeadsTo, ResumePoint.approachLines, remark, noted, bare]
  · exact List.forall_mem_nil _
  · simp +decide [Line.LeadsTo, ResumePoint.restoreLines, remark, noted, bare]
  · intro fan note
    cases fan <;> simp +decide [Line.LeadsTo, fanLine]
  · unfold Settings.firstLayerRates
    split <;> simp +decide [Line.LeadsTo, noted]

theorem opening_leads (resumes : settings.resumePoint print layer part = .ok point) {prime : List Line}
    (primes : settings.primeLines part point.nozzle = .ok prime) :
    ∀ line ∈ settings.openingAt point layer.number part prime [], line.LeadsTo point part := by
  have resumed := Settings.resume_point_eq_ok resumes
  rw [Settings.opening_at_eq]
  simp only [List.forall_mem_append]
  refine ⟨leading_leads settings layer.number ?_, ?_, behind_leads primes⟩
  · rcases Int.lt_or_le 0 part with later | first
    · obtain ⟨z, -, homing⟩ := resumed.continued later
      exact .inr ⟨z, homing⟩
    · exact .inl first
  · simp +decide [Line.LeadsTo, Settings.absoluteLines, noted]

theorem first_lines_still (settings : Settings) (point : ResumePoint) (layer part : Int) :
    ∀ line ∈ settings.firstLines point layer part, line.Avoids placingNumbers := by
  apply Settings.forall_first_lines (Line.Avoids placingNumbers)
  · simp [Line.Avoids]
  · simp [Line.Avoids]
  · simp +decide [Line.Avoids, noted]
  · simp +decide [Line.Avoids, ResumePoint.heatBedLines, noted]

theorem find_settling_opening {z : Binary64} (homing : point.homing = .declared z) (layer part : Int)
    (prime ironing : List Line) : ∃ checked,
    (readingsOf (settings.openingAt point layer part prime ironing)).find? (·.settlesZ) = some checked ∧
      checked.declaresZ = z.isFinite := by
  obtain ⟨back, split⟩ : ∃ back, settings.openingAt point layer part prime ironing =
      settings.firstLines point layer part ++ ((Homing.declared z).lines ++ back) := by
    simp only [← homing, Settings.openingAt, Settings.firstLines, List.append_assoc]
    exact ⟨_, rfl⟩
  obtain ⟨checked, found, declares⟩ := find_settling_homing z
  refine ⟨checked, ?_, declares⟩
  rw [split, readings_of_append, readings_of_append, List.find?_append, List.find?_append,
    find_settling_still (first_lines_still settings point layer part), found]
  rfl

theorem bed_heated (first : part = 0) (layer : Int) (prime ironing : List Line) :
    noted "M140" [numberField 'S' point.bed] " bed temp" ∈
      settings.openingAt point layer part prime ironing := by
  simp [Settings.openingAt, ResumePoint.heatBedLines, first]

theorem nozzle_heated {prime : List Line} (primes : settings.primeLines part point.nozzle = .ok prime)
    (layer : Int) (ironing : List Line) :
    noted "M104" [numberField 'S' point.nozzle] " nozzle temp" ∈
      settings.openingAt point layer part prime ironing := by
  have primed : noted "M104" [numberField 'S' point.nozzle] " nozzle temp" ∈ prime := by
    rcases Settings.prime_eq_ok primes with ⟨x, rfl⟩ | rfl
    · simp [Settings.bedPrimeLines, heatNozzle]
    · simp [Settings.airPrimeLines, heatNozzle]
  simp [Settings.openingAt, primed]

/-- What the check reports of an opening, as far as it does not depend on the limit. -/
structure OpeningReport (settings : Settings) (print : Print) (layer : Layer) (part : Int)
    (causes : List IssueCause) : Prop where
  usual : ∀ code, .unusualG code ∉ causes ∧ .unusualM code ∉ causes
  unhomed : .homesZ ∉ causes
  undeclared : .movesBeforeZ ∈ causes ↔
    0 < part ∧ ∃ z, settings.inheritedZ print layer part = .ok z ∧ z.isFinite = false
  coldBed : .noBedTemperature ∈ causes ↔
    part = 0 ∧ ¬ ∃ bed, layer.entry.bed.current = some bed ∧ bed.IsPositive
  coldNozzle : .noNozzleTemperature ∈ causes ↔
    ¬ ∃ nozzle, settings.nozzleTarget layer.entry layer.number = .ok nozzle ∧ nozzle.IsPositive

theorem heats_to_of_leads_to {line : Line} (leads : line.LeadsTo point part) :
    line.HeatsTo [140, 190] point.bed ∧ line.HeatsTo [104, 109] point.nozzle :=
  ⟨leads.imp fun _ _ all => all.2.1, leads.imp fun _ _ all => all.2.2⟩

theorem unusual_not_reported {holds : Text → List Field → Prop} {lines : List Line}
    (commands : ∀ line ∈ lines, line.Commands holds) (context : CheckContext) (code : Nat) :
    ¬ Reported context (readingsOf lines) (.unusualG code) ∧
      ¬ Reported context (readingsOf lines) (.unusualM code) := by
  constructor
  · rintro ⟨checked, member, same, unknown⟩
    obtain ⟨line, inLines, reading⟩ := mem_readings_of.mp member
    exact unknown ((numbers_of_commands (commands line inLines) reading).1 code same)
  · rintro ⟨checked, member, same, unknown⟩
    obtain ⟨line, inLines, reading⟩ := mem_readings_of.mp member
    exact unknown ((numbers_of_commands (commands line inLines) reading).2 code same)

theorem not_homing_of_leads_to {line : Line} (leads : line.LeadsTo point part) (later : 0 < part)
    {checked : CheckedLine} (reading : reading? line.toText = some checked) : checked.homesZ = false := by
  obtain ⟨mnemonic, fields, note, rfl, -, ⟨homing, -⟩, reads⟩ := (reading_of_commands leads).2 checked reading
  refine Bool.eq_false_iff.mpr fun homes => ?_
  have number : checked.g = some 28 := eq_of_beq (Bool.and_eq_true_iff.mp homes).1
  have numbered : isNumbered 'G' [28] mnemonic = true := by
    rw [is_numbered_eq reads.g, number]
    rfl
  obtain ⟨rfl, rfl⟩ := homing numbered later
  obtain ⟨same, read, -, -, flat⟩ := homing_read note
  cases read.symm.trans reading
  rw [flat] at homes
  cases homes

theorem check_of_opening (unironed : settings.iron = false) {lines : List Line}
    (opens : settings.opening print layer part = .ok lines) : ∃ issues,
    check ⟨.opening, part, settings.maxZ⟩ (lines.map Line.toText) = .ok issues ∧
      OpeningReport settings print layer part (issues.map (·.cause)) := by
  obtain ⟨point, prime, ironing, resumes, primes, ironed, rfl⟩ := Settings.ironed_of_opening opens
  have none : ironing = [] := by
    cases ironed with
    | nothing _ => rfl
    | trace below nozzle irons _ => cases unironed.symm.trans irons.asked
  subst none
  have resumed := Settings.resume_point_eq_ok resumes
  have leads := opening_leads resumes primes
  obtain ⟨issues, checks, reported⟩ := report_of_legible
    (List.forall_mem_map.mpr fun line member => (reading_of_commands (leads line member)).1)
    ⟨.opening, part, settings.maxZ⟩
  rw [← readingsOf] at reported
  refine ⟨issues, checks, ?_⟩
  exact {
    usual := fun code => by
      rw [reported, reported]
      exact unusual_not_reported leads _ code
    unhomed := by
      rw [reported]
      rintro ⟨later, checked, member, homes⟩
      obtain ⟨line, inLines, reading⟩ := mem_readings_of.mp member
      rw [not_homing_of_leads_to (leads line inLines) later reading] at homes
      cases homes
    undeclared := by
      rw [reported]
      constructor
      · rintro ⟨-, notFirst, checked, found, undeclared⟩
        have later : 0 < part := by
          have started := part_of_resume_point resumes
          simp only [ne_eq] at notFirst
          omega
        obtain ⟨z, inherits, homing⟩ := resumed.continued later
        obtain ⟨_, same, declares⟩ := find_settling_opening homing layer.number part prime []
        cases found.symm.trans same
        exact ⟨later, z, inherits, declares.symm.trans undeclared⟩
      · rintro ⟨later, z, inherits, infinite⟩
        obtain ⟨_, same, homing⟩ := resumed.continued later
        cases inherits.symm.trans same
        obtain ⟨checked, found, declares⟩ := find_settling_opening homing layer.number part prime []
        exact ⟨rfl, Int.ne_of_gt later, checked, found, declares.trans infinite⟩
    coldBed := by
      have target : (∃ bed, layer.entry.bed.current = some bed ∧ bed.IsPositive) ↔ point.bed.IsPositive := by
        simp [resumed.bed]
      rw [reported, target]
      refine Iff.trans (and_iff_right rfl) (and_congr_right fun first => ?_)
      exact cold_iff (fun line member => (heats_to_of_leads_to (leads line member)).1) (by decide)
        (bed_heated first layer.number prime [])
    coldNozzle := by
      have target : (∃ nozzle, settings.nozzleTarget layer.entry layer.number = .ok nozzle ∧
          nozzle.IsPositive) ↔ point.nozzle.IsPositive := by
        simp [resumed.nozzle]
      rw [reported, target]
      refine Iff.trans (and_iff_right rfl) ?_
      exact cold_iff (fun line member => (heats_to_of_leads_to (leads line member)).2) (by decide)
        (nozzle_heated primes layer.number []) }

section

variable {lines : List Line} {numbers : List Nat}

theorem not_homing_of_avoids {line : Line} (avoids : line.Avoids numbers) (homing : 28 ∈ numbers)
    {checked : CheckedLine} (reading : reading? line.toText = some checked) : checked.homesZ = false := by
  refine Bool.eq_false_iff.mpr fun homes => ?_
  exact not_numbered_of_avoids avoids reading 28 (eq_of_beq (Bool.and_eq_true_iff.mp homes).1) homing

theorem check_of_unhomed (unhomed : ∀ line ∈ lines, line.Avoids numbers) (homing : 28 ∈ numbers)
    {context : CheckContext} (behind : context.kind ≠ .opening) : ∃ issues,
    check context (lines.map Line.toText) = .ok issues ∧
      (∀ cause ∈ issues.map (·.cause), ∃ z, cause = .aboveLimit z context.maxZ) ∧
      ∀ z, .aboveLimit z context.maxZ ∈ issues.map (·.cause) →
        ∃ checked ∈ readingsOf lines, checked.zTarget? = some z := by
  obtain ⟨issues, checks, reported⟩ := report_of_legible
    (List.forall_mem_map.mpr fun line member => (reading_of_commands (unhomed line member)).1) context
  rw [← readingsOf] at reported
  refine ⟨issues, checks, fun cause member => ?_, fun z member => ?_⟩
  · have found := (reported cause).mp member
    cases cause with
    | unusualG code => exact absurd found (unusual_not_reported unhomed context code).1
    | unusualM code => exact absurd found (unusual_not_reported unhomed context code).2
    | homesZ =>
      obtain ⟨-, checked, inReadings, homes⟩ := found
      obtain ⟨line, inLines, reading⟩ := mem_readings_of.mp inReadings
      rw [not_homing_of_avoids (unhomed line inLines) homing reading] at homes
      cases homes
    | movesBeforeZ => exact absurd found.1 behind
    | aboveLimit z limit =>
      obtain ⟨_, _, _, _, rfl, _⟩ := found
      exact ⟨z, rfl⟩
    | noBedTemperature => exact absurd found.1 behind
    | noNozzleTemperature => exact absurd found.1 behind
  · obtain ⟨before, checked, after, split, -, target, -⟩ := (reported _).mp member
    exact ⟨checked, by simp [split], target⟩

theorem check_of_after_first_layer (follows : afterFirstLayer layer = .ok lines) (part : Int) (maxZ : Binary64) :
    check ⟨.afterFirstLayer, part, maxZ⟩ (lines.map Line.toText) = .ok [] := by
  have still : ∀ line ∈ lines, line.Avoids placingNumbers := by
    unfold afterFirstLayer at follows
    split at follows
    · cases follows
    · cases follows
      simp +decide [Line.Avoids, noted]
  obtain ⟨issues, checks, limit, targets⟩ :=
    @check_of_unhomed lines placingNumbers still (by decide) ⟨.afterFirstLayer, part, maxZ⟩
      (show Kind.afterFirstLayer ≠ .opening by decide)
  have none : issues.map (·.cause) = [] := by
    refine List.eq_nil_iff_forall_not_mem.mpr fun cause member => ?_
    obtain ⟨z, rfl⟩ := limit cause member
    obtain ⟨checked, inReadings, target⟩ := targets z member
    obtain ⟨line, inLines, reading⟩ := mem_readings_of.mp inReadings
    have other := not_numbered_of_avoids (still line inLines) reading
    unfold CheckedLine.zTarget? at target
    split at target
    · rename_i looked
      rcases looked with number | number | number <;> exact other _ number (by decide)
    · cases target
  rw [checks, List.map_eq_nil_iff.mp none]

theorem check_of_closing {totalParts : Int} (closes : settings.closing layer part totalParts = .ok lines) :
    ∃ issues, check ⟨.closing, part, settings.maxZ⟩ (lines.map Line.toText) = .ok issues ∧
      ∀ cause ∈ issues.map (·.cause), ∃ z, cause = .aboveLimit z settings.maxZ := by
  obtain ⟨-, lifted, -, -, rfl⟩ := Settings.closing_eq_ok closes
  have unhomed : ∀ line ∈ settings.closingAt lifted, line.Avoids [28] := by
    simp +decide [Line.Avoids, Settings.closingAt, remark, noted, bare]
  obtain ⟨issues, checks, limit, -⟩ :=
    @check_of_unhomed _ _ unhomed (by decide) ⟨.closing, part, settings.maxZ⟩
      (show Kind.closing ≠ .opening by decide)
  exact ⟨issues, checks, limit⟩

end

end Scaffold

end PrintParts
