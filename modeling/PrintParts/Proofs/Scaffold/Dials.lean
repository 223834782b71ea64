import PrintParts.Document
import PrintParts.Proofs.Scaffold.Sections

/-!
The dials of a printer: its speed and its flow in percent, and the temperature asked of the nozzle. Each
stands where the last command that sets it has left it. An opening sets speed and flow for the first layer
of its part, what follows that layer sets all three for the other layers, and a closing leaves speed and
flow alone.
-/

namespace PrintParts

inductive Dial where
  | feed
  | flow
  | nozzle
  deriving DecidableEq

def Dial.ofCode? : Code → Option Dial
  | .feedRate => some .feed
  | .flowRate => some .flow
  | .setNozzle | .waitNozzle => some .nozzle
  | _ => none

def Dial.ofMnemonic? (mnemonic : Text) : Option Dial :=
  (Code.ofMnemonic? mnemonic).bind Dial.ofCode?

/-- The dial that a command sets, if it is the command of one. -/
def Command.dial? (command : Command) : Option Dial := Dial.ofMnemonic? command.mnemonic

/-- What the dials were set to last, as it was written. -/
abbrev Dials := Dial → Option Text

namespace Dials

/-- A command without a setting leaves its dial alone. -/
def execute (dials : Dials) (command : Command) : Dials := fun dial =>
  if command.dial? = some dial then ((command.field? 'S').map Field.text).or (dials dial)
  else dials dial

def perform (dials : Dials) (commands : List Command) : Dials := commands.foldl execute dials

def run (dials : Dials) (lines : List Text) : Dials := dials.perform (lines.map Command.ofLine)

variable {dials : Dials} {dial : Dial}

theorem run_nil (dials : Dials) : dials.run [] = dials := rfl

theorem run_append (dials : Dials) (first second : List Text) :
    dials.run (first ++ second) = (dials.run first).run second := by
  rw [run, perform, List.map_append, List.foldl_append]
  rfl

theorem execute_spared {command : Command} (spares : command.dial? ≠ some dial) :
    dials.execute command dial = dials dial :=
  if_neg spares

theorem execute_set {command : Command} {setting : Field} (sets : command.dial? = some dial)
    (given : command.field? 'S' = some setting) :
    dials.execute command dial = some setting.text := by
  rw [execute, if_pos sets, given, Option.map_some, Option.some_or]

theorem perform_spared {commands : List Command}
    (spared : ∀ command ∈ commands, command.dial? ≠ some dial) :
    dials.perform commands dial = dials dial := by
  induction commands generalizing dials with
  | nil => rfl
  | cons command rest induction =>
    rw [perform, List.foldl_cons, ← perform, induction, execute_spared]
    · exact spared command List.mem_cons_self
    · exact fun other member => spared other (List.mem_cons_of_mem _ member)

theorem run_spared {lines : List Text}
    (spared : ∀ line ∈ lines, (Command.ofLine line).dial? ≠ some dial) :
    dials.run lines dial = dials dial :=
  perform_spared (List.forall_mem_map.mpr spared)

end Dials

namespace Scaffold

/-- A mnemonic that is read back as the command of another dial, or of none. -/
def SparesDial (dial : Dial) (mnemonic : Text) : Prop :=
  IsMnemonic mnemonic ∧ Dial.ofMnemonic? mnemonic ≠ some dial

def SetsDial (dial : Dial) (mnemonic : Text) : Prop :=
  IsMnemonic mnemonic ∧ Dial.ofMnemonic? mnemonic = some dial

instance (dial : Dial) (mnemonic : Text) : Decidable (SparesDial dial mnemonic) :=
  inferInstanceAs (Decidable (_ ∧ _))

instance (dial : Dial) (mnemonic : Text) : Decidable (SetsDial dial mnemonic) :=
  inferInstanceAs (Decidable (_ ∧ _))

namespace Line

def Spares (dial : Dial) (line : Line) : Prop := (Command.ofLine line.toText).dial? ≠ some dial

@[simp]
theorem blank_spares (dial : Dial) : blank.Spares dial := nofun

@[simp]
theorem remark_spares (dial : Dial) (text : Text) : (remark text).Spares dial := nofun

@[simp]
theorem code_spares {dial : Dial} {mnemonic : Text} (spares : SparesDial dial mnemonic)
    (fields : List Field) (note : Option Text) : (code mnemonic fields note).Spares dial := by
  rw [Spares, Command.dial?,
    mnemonic_of_line_to_text (show (code mnemonic fields note).Named from spares.1)]
  exact spares.2

end Line

variable {dials : Dials} {dial : Dial}

theorem run_last {mnemonic : Text} (sets : SetsDial dial mnemonic) {setting : Text}
    (word : setting.IsWord) (note : Option Text) (front : List Line) {back : List Line}
    (spared : ∀ line ∈ back, line.Spares dial) :
    dials.run ((front ++ .code mnemonic [field 'S' setting] note :: back).map Line.toText) dial =
      some setting := by
  have plain : (Line.code mnemonic [field 'S' setting] note).Plain := by
    refine ⟨sets.1, List.forall_mem_singleton.mpr ?_⟩
    rw [field_plain]
    exact ⟨by decide, word⟩
  have given : (Line.code mnemonic [field 'S' setting] note).command.field? 'S' =
      some (field 'S' setting) := by
    simp [Line.command, Command.field?]
  have here := @Dials.execute_set (dials.run (front.map Line.toText)) dial
    (Line.code mnemonic [field 'S' setting] note).command _ sets.2 given
  rw [List.map_append, Dials.run_append, List.map_cons, ← List.singleton_append, Dials.run_append,
    Dials.run_spared (List.forall_mem_map.mpr spared)]
  rw [← Line.of_line_to_text plain] at here
  exact here

section

variable {settings : Settings} {print : Print} {part : Int} {point : ResumePoint}
  {prime ironing : List Line}

theorem fan_spares (dial : Dial) : ∀ line ∈ point.fanLines, line.Spares dial := by
  apply Settings.forall_fan_lines
  intro fan note
  cases fan <;> cases dial <;> simp +decide [fanLine]

theorem rates_feed (written : settings.continuationFeed.toText.IsWord) :
    dials.run (settings.firstLayerRates.map Line.toText) .feed =
      some settings.continuationFeed.toText :=
  run_last (by decide) written _ _ (List.forall_mem_nil _)

theorem restore_feed : dials.run (point.restoreLines.map Line.toText) .feed = some (Text.of "100") := by
  have spared : ∀ line ∈ point.restoreLines.drop 2, line.Spares .feed := by
    simp +decide [ResumePoint.restoreLines, remark, noted, bare]
  exact run_last (by decide) (by decide) (some (Text.of " Reset Feedrate"))
    (point.restoreLines.take 1) spared

theorem opening_feed (written : settings.continuationFeed.toText.IsWord) (number : Int) :
    dials.run ((settings.openingAt point number part prime ironing).map Line.toText) .feed =
      some (if 0 < part then settings.continuationFeed.toText else Text.of "100") := by
  rw [Settings.opening_at_eq, Settings.behindLines]
  simp only [List.map_append, Dials.run_append]
  split
  · exact rates_feed written
  · rw [List.map_nil, Dials.run_nil, Dials.run_spared (List.forall_mem_map.mpr (fan_spares .feed)),
      restore_feed]

theorem between_spares_flow (primes : settings.primeLines part point.nozzle = .ok prime)
    (irons : IsIroning print ironing) :
    ∀ line ∈ settings.parkLines point.homing ++ prime ++ point.approachLines ++ ironing ++
      point.restoreLines ++ point.fanLines, line.Spares .flow := by
  have park : ∀ line ∈ settings.parkLines point.homing, line.Spares .flow := by
    simp +decide [Settings.parkLines, noted, bare]
  have primed : ∀ line ∈ prime, line.Spares .flow := by
    rcases Settings.prime_eq_ok primes with ⟨x, rfl⟩ | rfl
    · simp +decide [Settings.bedPrimeLines, heatNozzle, remark, noted]
    · simp +decide [Settings.airPrimeLines, heatNozzle, remark, noted]
  have approach : ∀ line ∈ point.approachLines, line.Spares .flow := by
    simp +decide [ResumePoint.approachLines, remark, noted, bare]
  have ironed : ∀ line ∈ ironing, line.Spares .flow := by
    rcases irons with rfl | ⟨below, -, nozzle, rfl⟩
    · exact List.forall_mem_nil _
    · simp +decide [ironingAround, ironingLine, remark, noted, or_imp, forall_and]
  have restore : ∀ line ∈ point.restoreLines, line.Spares .flow := by
    simp +decide [ResumePoint.restoreLines, remark, noted, bare]
  simp only [List.forall_mem_append]
  exact ⟨⟨⟨⟨⟨park, primed⟩, approach⟩, ironed⟩, restore⟩, fan_spares .flow⟩

/-- How the flow of a continuation is set: not at all if it is exactly the usual one. -/
def Settings.flowText (settings : Settings) : Text :=
  if settings.continuationFlow.isInteger 100 then Text.of "100"
  else settings.continuationFlow.toText

theorem rates_flow (written : settings.continuationFlow.toText.IsWord) :
    dials.run (settings.firstLayerRates.map Line.toText) .flow =
      if settings.continuationFlow.isInteger 100 then dials .flow
      else some settings.continuationFlow.toText := by
  have slows : ∀ line ∈ [noted "M220" [field 'S' settings.continuationFeed.toText]
      " Slow Feedrate for first layer"], line.Spares .flow := by
    simp +decide [noted]
  unfold Settings.firstLayerRates
  split
  · exact Dials.run_spared (List.forall_mem_map.mpr slows)
  · exact run_last (by decide) written (some (Text.of " continuation flow rate")) [] slows

theorem leading_flow (number : Int) :
    dials.run ((settings.leadingLines point number part).map Line.toText) .flow =
      some (Text.of "100") := by
  have heat : ∀ line ∈ if part = 0 ∨ settings.reheatBed then point.heatBedLines else [],
      line.Spares .flow := by
    split
    · simp +decide [ResumePoint.heatBedLines, noted]
    · exact List.forall_mem_nil _
  have homed : ∀ line ∈ point.homing.lines, line.Spares .flow := by
    cases point.homing <;> simp +decide [Homing.lines, noted]
  have level : ∀ line ∈ [.blank, noted "M420" [fixedField 'S' "1"] " Enable mesh leveling", .blank],
      line.Spares .flow := by
    simp +decide [noted]
  have last : settings.leadingLines point number part =
      (point.headerLines number part ++
        [.blank, noted "M413" [fixedField 'S' "0"] " Power loss off",
          noted "M220" [fixedField 'S' "100"] " Reset Feedrate"]) ++
        noted "M221" [fixedField 'S' "100"] " Reset Flowrate" ::
          ([.blank] ++ (if part = 0 ∨ settings.reheatBed then point.heatBedLines else []) ++
            point.homing.lines ++
            [.blank, noted "M420" [fixedField 'S' "1"] " Enable mesh leveling", .blank]) := by
    simp [Settings.leadingLines]
  rw [last]
  apply run_last (by decide) (by decide)
  simp only [List.forall_mem_append]
  exact ⟨⟨⟨by simp, heat⟩, homed⟩, level⟩

theorem opening_flow (written : settings.continuationFlow.toText.IsWord)
    (primes : settings.primeLines part point.nozzle = .ok prime)
    (irons : IsIroning print ironing) (number : Int) :
    dials.run ((settings.openingAt point number part prime ironing).map Line.toText) .flow =
      some (if 0 < part then settings.flowText else Text.of "100") := by
  have absolute : ∀ line ∈ Settings.absoluteLines, line.Spares .flow := by
    simp +decide [Settings.absoluteLines, noted]
  have between := List.forall_mem_append.mpr ⟨absolute, between_spares_flow primes irons⟩
  have opens : settings.openingAt point number part prime ironing =
      settings.leadingLines point number part ++ (Settings.absoluteLines ++
        (settings.parkLines point.homing ++ prime ++ point.approachLines ++ ironing ++
          point.restoreLines ++ point.fanLines)) ++
      if 0 < part then settings.firstLayerRates else [] := by
    rw [Settings.opening_at_eq, Settings.behindLines]
    simp only [List.append_assoc]
  rw [opens, List.map_append, Dials.run_append, List.map_append, Dials.run_append]
  have reset := (Dials.run_spared (List.forall_mem_map.mpr between)).trans
    (@leading_flow dials settings part point number)
  generalize Dials.run _ _ = behind at reset ⊢
  split
  · rw [rates_flow written, reset, Settings.flowText, apply_ite some]
  · exact reset

theorem opening_rates {layer : Layer} {lines : List Text}
    (feedWritten : settings.continuationFeed.toText.IsWord)
    (flowWritten : settings.continuationFlow.toText.IsWord)
    (opens : (Generator.ofSettings settings).opening print layer part = .ok lines) (dials : Dials) :
    dials.run lines .feed =
        some (if 0 < part then settings.continuationFeed.toText else Text.of "100") ∧
      dials.run lines .flow = some (if 0 < part then settings.flowText else Text.of "100") := by
  obtain ⟨opening, made, rfl⟩ := map_eq_ok.mp opens
  obtain ⟨point, prime, ironing, -, primes, irons, rfl⟩ := Settings.opening_eq_ok made
  exact ⟨opening_feed feedWritten layer.number, opening_flow flowWritten primes irons layer.number⟩

theorem after_first_layer_dials {layer : Layer} {lines : List Text}
    (follows : (Generator.ofSettings settings).afterFirstLayer layer = .ok lines) :
    ∃ nozzle, layer.exitState.nozzle.current = some nozzle ∧ ∀ dials : Dials,
      dials.run lines .feed = some (Text.of "100") ∧ dials.run lines .flow = some (Text.of "100") ∧
      dials.run lines .nozzle = some nozzle.toText := by
  obtain ⟨after, made, rfl⟩ := map_eq_ok.mp (map_error_eq_ok.mp follows)
  unfold afterFirstLayer at made
  split at made
  · cases made
  · rename_i nozzle known
    cases made
    refine ⟨nozzle, known, fun dials => ⟨?_, ?_, ?_⟩⟩
    · exact run_last (by decide) (by decide) (some (Text.of " Reset Feedrate")) []
        (by simp +decide [noted])
    · exact run_last (by decide) (by decide) (some (Text.of " Reset Flowrate"))
        [noted "M220" [fixedField 'S' "100"] " Reset Feedrate"] (by simp +decide [noted])
    · exact run_last (by decide) nozzle.to_text_is_word (some (Text.of " nozzle temp"))
        [noted "M220" [fixedField 'S' "100"] " Reset Feedrate",
          noted "M221" [fixedField 'S' "100"] " Reset Flowrate"] (List.forall_mem_nil _)

theorem closing_spares_rates {layer : Layer} {totalParts : Int} {lines : List Text}
    (closes : (Generator.ofSettings settings).closing layer part totalParts = .ok lines) {dial : Dial}
    (rate : dial ≠ .nozzle) : ∀ line ∈ lines, (Command.ofLine line).dial? ≠ some dial := by
  obtain ⟨closing, made, rfl⟩ := map_eq_ok.mp (map_error_eq_ok.mp closes)
  obtain ⟨z, lifted, -, -, rfl⟩ := Settings.closing_eq_ok made
  have spared : ∀ line ∈ settings.closingAt lifted, line.Spares dial := by
    cases dial with
    | nozzle => exact absurd rfl rate
    | feed => simp +decide [Settings.closingAt, remark, noted, bare]
    | flow => simp +decide [Settings.closingAt, remark, noted, bare]
  exact List.forall_mem_map.mpr spared

end

end Scaffold

end PrintParts
