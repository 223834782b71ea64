import PrintParts.Document
import PrintParts.Proofs.Scaffold.Clean

/-!
Documents without warnings. What the settings make and what the check expects agree: of a scaffold that could
be made the check only ever reports errors, and which of them depends on a few numbers alone, so a document
that comes out has nothing to warn of.
-/

namespace PrintParts

theorem Issue.warnings_eq_nil {issues : List Issue}
    (usual : ∀ code, .unusualG code ∉ issues.map (·.cause) ∧ .unusualM code ∉ issues.map (·.cause)) :
    Issue.warnings issues = [] := by
  refine List.filter_eq_nil_iff.mpr fun issue member => ?_
  have inCauses : issue.cause ∈ issues.map (·.cause) := List.mem_map_of_mem member
  cases cause : issue.cause with
  | unusualG code => exact absurd (cause ▸ inCauses) (usual code).1
  | unusualM code => exact absurd (cause ▸ inCauses) (usual code).2
  | _ => simp [IssueCause.severity]

/-- A source of scaffolds about which a check has errors to report at most. -/
structure Generator.Unwarned (generator : Generator) (check : Checker) : Prop where
  opening : ∀ {print layer part lines}, generator.opening print layer part = .ok lines →
    ∃ issues, check ⟨.opening, part, generator.maxZ⟩ lines = .ok issues ∧ Issue.warnings issues = []
  afterFirstLayer : ∀ {layer lines} (part : Int), generator.afterFirstLayer layer = .ok lines →
    ∃ issues, check ⟨.afterFirstLayer, part, generator.maxZ⟩ lines = .ok issues ∧ Issue.warnings issues = []
  closing : ∀ {layer part totalParts lines}, generator.closing layer part totalParts = .ok lines →
    ∃ issues, check ⟨.closing, part, generator.maxZ⟩ lines = .ok issues ∧ Issue.warnings issues = []

section

variable {generator : Generator} {check : Checker} {print : Print} {plan : Plan}

theorem checked_scaffold_unwarned {maxZ : Binary64} {part : Nat} {kind : Scaffold.Kind} {lines : List Text}
    {checked : List Text × List Text}
    (unwarned : ∃ issues, check ⟨kind, part, maxZ⟩ lines = .ok issues ∧ Issue.warnings issues = [])
    (accepted : checkedScaffold check maxZ part kind lines = .ok checked) : checked.2 = [] := by
  obtain ⟨issues, checks, none⟩ := unwarned
  unfold checkedScaffold at accepted
  rw [checks, ok_bind] at accepted
  dsimp only at accepted
  split at accepted
  · cases accepted
    exact congrArg (List.map _) none
  · cases accepted

namespace OpenPart

theorem start_unwarned (unwarned : generator.Unwarned check) {part : PartRange} {layer : Layer}
    {current : OpenPart} (started : start generator check print part layer = .ok current) :
    current.warnings = [] := by
  obtain ⟨made, opens, started⟩ := bind_eq_ok.mp started
  obtain ⟨opening, accepted, started⟩ := bind_eq_ok.mp started
  obtain ⟨madeAfter, follows, started⟩ := bind_eq_ok.mp started
  obtain ⟨after, acceptedAfter, started⟩ := bind_eq_ok.mp started
  cases started
  show opening.2 ++ after.2 = []
  rw [checked_scaffold_unwarned (unwarned.opening opens) accepted,
    checked_scaffold_unwarned (unwarned.afterFirstLayer part.index follows) acceptedAfter, List.append_nil]

theorem close_unwarned (unwarned : generator.Unwarned check) {current : OpenPart}
    (clean : current.warnings = []) {document : Document}
    (closed : current.close generator check = .ok document) : document.warnings = [] := by
  obtain ⟨made, closes, closed⟩ := bind_eq_ok.mp closed
  obtain ⟨closing, accepted, closed⟩ := bind_eq_ok.mp closed
  cases closed
  show current.warnings ++ closing.2 = []
  rw [clean, checked_scaffold_unwarned (unwarned.closing closes) accepted, List.append_nil]

end OpenPart

namespace Document

theorem walk_unwarned (unwarned : generator.Unwarned check) {layers : List Layer} {current : Option OpenPart}
    (clean : ∀ part ∈ current, part.warnings = []) {documents : List Document}
    (walked : walk generator check print plan current layers = .ok documents) :
    ∀ document ∈ documents, document.warnings = [] := by
  induction layers generalizing current documents with
  | nil =>
    cases current with
    | none =>
      cases walked
      exact List.forall_mem_nil _
    | some part =>
      obtain ⟨document, closed, rfl⟩ := map_eq_ok.mp walked
      exact List.forall_mem_singleton.mpr (OpenPart.close_unwarned unwarned (clean part rfl) closed)
  | cons layer layers induction =>
    rw [walk] at walked
    obtain ⟨index, -, walked⟩ := bind_eq_ok.mp walked
    cases index with
    | none => exact induction clean walked
    | some index =>
      cases current with
      | none =>
        obtain ⟨part, started, walked⟩ := bind_eq_ok.mp walked
        exact induction (by rintro _ ⟨⟩; exact OpenPart.start_unwarned unwarned started) walked
      | some part =>
        have here := clean part rfl
        dsimp only at walked
        split at walked
        · exact induction (by rintro _ ⟨⟩; exact here) walked
        · obtain ⟨document, closed, walked⟩ := bind_eq_ok.mp walked
          obtain ⟨next, started, walked⟩ := bind_eq_ok.mp walked
          obtain ⟨others, later, walked⟩ := bind_eq_ok.mp walked
          cases walked
          refine List.forall_mem_cons.mpr ⟨OpenPart.close_unwarned unwarned here closed, ?_⟩
          exact induction (by rintro _ ⟨⟩; exact OpenPart.start_unwarned unwarned started) later

end Document

end

namespace Generator

variable {settings : Scaffold.Settings} {print : Print} {layer : Layer} {part totalParts : Int}
  {lines : List Text}

theorem opening_checked (unironed : settings.iron = false)
    (opens : (ofSettings settings).opening print layer part = .ok lines) :
    ∃ issues, Scaffold.check ⟨.opening, part, settings.maxZ⟩ lines = .ok issues ∧
      Scaffold.OpeningReport settings print layer part (issues.map (·.cause)) := by
  obtain ⟨made, opened, rfl⟩ := map_eq_ok.mp opens
  exact Scaffold.check_of_opening unironed opened

theorem after_first_layer_checked (follows : (ofSettings settings).afterFirstLayer layer = .ok lines)
    (part : Int) : Scaffold.check ⟨.afterFirstLayer, part, settings.maxZ⟩ lines = .ok [] := by
  obtain ⟨made, followed, rfl⟩ := map_eq_ok.mp (map_error_eq_ok.mp follows)
  exact Scaffold.check_of_after_first_layer followed part settings.maxZ

theorem closing_checked (closes : (ofSettings settings).closing layer part totalParts = .ok lines) :
    ∃ issues, Scaffold.check ⟨.closing, part, settings.maxZ⟩ lines = .ok issues ∧
      ∀ cause ∈ issues.map (·.cause), ∃ z, cause = .aboveLimit z settings.maxZ := by
  obtain ⟨made, closed, rfl⟩ := map_eq_ok.mp (map_error_eq_ok.mp closes)
  exact Scaffold.check_of_closing closed

theorem of_settings_unwarned (unironed : settings.iron = false) :
    (ofSettings settings).Unwarned Scaffold.check where
  opening opens := by
    obtain ⟨issues, checks, report⟩ := opening_checked unironed opens
    exact ⟨issues, checks, Issue.warnings_eq_nil report.usual⟩
  afterFirstLayer part follows := ⟨[], after_first_layer_checked follows part, rfl⟩
  closing closes := by
    obtain ⟨issues, checks, limit⟩ := closing_checked closes
    refine ⟨issues, checks, Issue.warnings_eq_nil fun code => ⟨fun member => ?_, fun member => ?_⟩⟩
    · obtain ⟨z, same⟩ := limit _ member
      cases same
    · obtain ⟨z, same⟩ := limit _ member
      cases same

/-- Without ironing, the check takes no offence at the commands of any scaffold that the settings make. It
reports a move in front of the height only for a continuation whose height is not finite, and a missing
temperature only for an opening whose temperature is not finite or not above zero; behind a first layer it
reports nothing, and at the end of a part only heights. So no document has warnings. -/
theorem of_settings_agrees_with_check {settings : Scaffold.Settings} (unironed : settings.iron = false) :
    (∀ print layer part lines, (ofSettings settings).opening print layer part = .ok lines →
      ∃ issues, Scaffold.check ⟨.opening, part, settings.maxZ⟩ lines = .ok issues ∧
        Scaffold.OpeningReport settings print layer part (issues.map (·.cause))) ∧
    (∀ layer part lines, (ofSettings settings).afterFirstLayer layer = .ok lines →
      Scaffold.check ⟨.afterFirstLayer, part, settings.maxZ⟩ lines = .ok []) ∧
    (∀ layer part totalParts lines, (ofSettings settings).closing layer part totalParts = .ok lines →
      ∃ issues, Scaffold.check ⟨.closing, part, settings.maxZ⟩ lines = .ok issues ∧
        ∀ cause ∈ issues.map (·.cause), ∃ z, cause = .aboveLimit z settings.maxZ) ∧
    ∀ print plan documents, Document.render (ofSettings settings) Scaffold.check print plan = .ok documents →
      ∀ document ∈ documents, document.warnings = [] := by
  exact ⟨fun _ _ _ _ opens => opening_checked unironed opens,
    fun _ part _ follows => after_first_layer_checked follows part,
    fun _ _ _ _ closes => closing_checked closes,
    fun _ _ _ rendered => Document.walk_unwarned (of_settings_unwarned unironed)
      (by simp) rendered⟩

end Generator

def bottomlessProgram : List Text := [
  Text.of "M140 S60", Text.of "M104 S210", Text.of "G92 E0", Text.of ";LAYER_COUNT:2",
  Text.of ";LAYER:0", Text.of "G0 X40 Y40 Z0.2", Text.of "G1 X60 E1", Text.of "G1 E0.5",
  Text.of "G0 Z-inf", Text.of ";LAYER:1", Text.of "G0 X40 Y40 Z0.4", Text.of "G1 X60 E2",
  Text.of ";-- end code begin --"]

def bothLayers : Plan where
  layerCount := 2
  startLayer := 0
  layersPerPart := 2
  chunk := 2
  startLayer_lt := Nat.two_pos
  chunk_pos := Nat.two_pos

/-- A part that was to go on from there is refused for its move in front of the height; as one part the
layers come out without warnings. -/
theorem Generator.of_settings_agrees_with_check_bottomless : ∃ print layer lines documents,
    Print.ofLines .reject bottomlessProgram = .ok print ∧
    (ofSettings {}).opening print layer 1 = .ok lines ∧
    (∃ issues, Scaffold.check ⟨.opening, 1, 250⟩ lines = .ok issues ∧
      .movesBeforeZ ∈ issues.map (·.cause) ∧ .noNozzleTemperature ∉ issues.map (·.cause)) ∧
    Document.render (ofSettings {}) Scaffold.check print bothLayers = .ok documents ∧
    documents.length = 1 ∧ ∀ document ∈ documents, document.warnings = [] := by
  have checked : succeedsWith (fun print => print.layers[1]?.any fun layer =>
      succeedsWith (fun _ => true) ((ofSettings {}).opening print layer 1) &&
      (succeedsWith (fun z => !z.isFinite) (Scaffold.Settings.inheritedZ {} print layer 1) &&
      (succeedsWith (fun nozzle => nozzle.isFinite && decide (0 < nozzle))
        (Scaffold.Settings.nozzleTarget {} layer.entry layer.number) &&
      succeedsWith (fun documents => documents.length == 1)
        (Document.render (ofSettings {}) Scaffold.check print bothLayers))))
      (Print.ofLines .reject bottomlessProgram) = true := by
    decide +kernel
  obtain ⟨print, recorded, isUpper⟩ := exists_of_succeeds_with checked
  obtain ⟨layer, -, all⟩ := (Option.any_eq_true _ _).mp isUpper
  simp only [Bool.and_eq_true] at all
  obtain ⟨opened, inherited, heated, rendered⟩ := all
  obtain ⟨lines, opens, -⟩ := exists_of_succeeds_with opened
  obtain ⟨z, inherits, infinite⟩ := exists_of_succeeds_with inherited
  obtain ⟨nozzle, target, warm⟩ := exists_of_succeeds_with heated
  obtain ⟨documents, renders, single⟩ := exists_of_succeeds_with rendered
  have agrees := @of_settings_agrees_with_check {} rfl
  obtain ⟨issues, checks, report⟩ := agrees.1 print layer 1 lines opens
  refine ⟨print, layer, lines, documents, recorded, opens, ⟨issues, checks, ?_, ?_⟩, renders,
    eq_of_beq single, agrees.2.2.2 print bothLayers documents renders⟩
  · exact report.undeclared.mpr ⟨by decide, z, inherits, by simpa using infinite⟩
  · intro cold
    obtain ⟨isFinite, above⟩ := Bool.and_eq_true_iff.mp warm
    exact report.coldNozzle.mp cold ⟨nozzle, target, isFinite, of_decide_eq_true above⟩

end PrintParts
