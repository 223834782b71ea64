import PrintParts.Proofs.Scaffold.Plain

/-!
The sections of an opening, and what follows when an opening or a closing could be made. In front of
the lines that make both modes absolute the printer is heated and homed; behind them it parks, primes,
approaches the place from above, irons and restores what the layer needs.
-/

namespace PrintParts

namespace Scaffold

def ironingAround (nozzle : Binary64) (points : List Position) : List Line :=
  [remark " Ironing starts",
    noted "M107" [] " fan off",
    noted "M109" [numberField 'S' nozzle] " wait nozzle temp",
    remark " Ironing layer starts"] ++
  points.map ironingLine ++
  [remark " Ironing ends"]

/-- What irons the part below: nothing, or the trace of a layer of the print. -/
def IsIroning (print : Print) (ironing : List Line) : Prop :=
  ironing = [] ∨ ∃ below ∈ print.layers.toList, ∃ nozzle,
    ironing = ironingAround nozzle below.ironingPath.toList

namespace Settings

variable {settings : Settings} {print : Print} {layer : Layer} {part : Int}

/-- What comes in front of homing. -/
def firstLines (settings : Settings) (point : ResumePoint) (layer part : Int) : List Line :=
  point.headerLines layer part ++
  [.blank,
    noted "M413" [fixedField 'S' "0"] " Power loss off",
    noted "M220" [fixedField 'S' "100"] " Reset Feedrate",
    noted "M221" [fixedField 'S' "100"] " Reset Flowrate",
    .blank] ++
  if part = 0 ∨ settings.reheatBed then point.heatBedLines else []

/-- What comes in front of the lines that make the modes absolute. -/
def leadingLines (settings : Settings) (point : ResumePoint) (layer part : Int) : List Line :=
  point.headerLines layer part ++
  [.blank,
    noted "M413" [fixedField 'S' "0"] " Power loss off",
    noted "M220" [fixedField 'S' "100"] " Reset Feedrate",
    noted "M221" [fixedField 'S' "100"] " Reset Flowrate",
    .blank] ++
  (if part = 0 ∨ settings.reheatBed then point.heatBedLines else []) ++
  point.homing.lines ++
  [.blank, noted "M420" [fixedField 'S' "1"] " Enable mesh leveling", .blank]

def absoluteLines : List Line := [noted "G90" [] " absolute pos", noted "M82" [] " absolute E"]

def parkLines (settings : Settings) (homing : Homing) : List Line := [
  noted "G92" [negatedField 'E' settings.retract] " Reset Extruder pos",
  .blank,
  noted "G0" [fixedField 'X' "0", fixedField 'Y' "0"]
    " avoid bumping into the model (if homing didn't move us back)",
  bare "G0" [numberField 'Z' homing.clearZ],
  .blank]

/-- What follows the lines that make the modes absolute. -/
def behindLines (settings : Settings) (point : ResumePoint) (part : Int)
    (prime ironing : List Line) : List Line :=
  settings.parkLines point.homing ++ prime ++ point.approachLines ++ ironing ++
    point.restoreLines ++ point.fanLines ++ (if 0 < part then settings.firstLayerRates else [])

theorem opening_at_eq (settings : Settings) (point : ResumePoint) (layer part : Int)
    (prime ironing : List Line) :
    settings.openingAt point layer part prime ironing =
      settings.leadingLines point layer part ++
        (absoluteLines ++ settings.behindLines point part prime ironing) := by
  simp [openingAt, leadingLines, absoluteLines, parkLines, behindLines]

theorem leading_lines_eq (settings : Settings) (point : ResumePoint) (layer part : Int) :
    settings.leadingLines point layer part =
      settings.firstLines point layer part ++ point.homing.lines ++
        [.blank, noted "M420" [fixedField 'S' "1"] " Enable mesh leveling", .blank] := rfl

/-- What a resume point tells of its layer. -/
structure Resumes (settings : Settings) (print : Print) (layer : Layer) (part : Int)
    (point : ResumePoint) : Prop where
  bed : layer.entry.bed.current = some point.bed
  nozzle : settings.nozzleTarget layer.entry layer.number = .ok point.nozzle
  e : layer.entry.e = .absolute point.e
  retraction : ∃ depth, layer.entry.retraction? = some depth ∧ point.retracted = 0 - depth
  start : layer.startPosition = ⟨.absolute point.x, .absolute point.y, .absolute point.z⟩
  approach : point.approachZ = point.z + settings.hop
  room : ¬ settings.maxZ ≤ point.approachZ
  whole : part = 0 → point.homing = .full
  continued : 0 < part → ∃ z, settings.inheritedZ print layer part = .ok z ∧
    point.homing = .declared z
  fan : point.fan = layer.entry.fan

theorem resume_point_eq_ok {point : ResumePoint}
    (resumes : settings.resumePoint print layer part = .ok point) :
    settings.Resumes print layer part point := by
  unfold resumePoint at resumes
  dsimp only at resumes
  split at resumes
  · rename_i bed heated
    rw [pure_bind] at resumes
    obtain ⟨nozzle, target, resumes⟩ := bind_eq_ok.mp resumes
    obtain ⟨e, extruded, resumes⟩ := bind_eq_ok.mp resumes
    split at resumes
    · rename_i depth retracted
      rw [pure_bind] at resumes
      obtain ⟨x, alongX, resumes⟩ := bind_eq_ok.mp resumes
      obtain ⟨y, alongY, resumes⟩ := bind_eq_ok.mp resumes
      obtain ⟨z, alongZ, resumes⟩ := bind_eq_ok.mp resumes
      have start : layer.startPosition = ⟨.absolute x, .absolute y, .absolute z⟩ := by
        rw [← AxisValue.require_eq_ok_iff.mp (map_error_eq_ok.mp alongX),
          ← AxisValue.require_eq_ok_iff.mp (map_error_eq_ok.mp alongY),
          ← AxisValue.require_eq_ok_iff.mp (map_error_eq_ok.mp alongZ)]
      have e := AxisValue.require_eq_ok_iff.mp (map_error_eq_ok.mp extruded)
      have nozzle := map_error_eq_ok.mp target
      split at resumes
      · rename_i continued
        obtain ⟨inherited, declared, resumes⟩ := bind_eq_ok.mp resumes
        obtain ⟨height, inherits, rfl⟩ := map_eq_ok.mp declared
        split at resumes
        · cases resumes
        · rename_i room
          cases resumes
          exact {
            bed := heated, nozzle := nozzle, e := e, retraction := ⟨depth, retracted, rfl⟩
            start := start, approach := rfl, room := room
            whole := fun first => absurd (first ▸ continued) (by decide)
            continued := fun _ => ⟨height, inherits, rfl⟩, fan := rfl }
      · rename_i first
        rw [pure_bind] at resumes
        split at resumes
        · cases resumes
        · rename_i room
          dsimp only at resumes
          split at resumes
          · cases resumes
            exact {
              bed := heated, nozzle := nozzle, e := e, retraction := ⟨depth, retracted, rfl⟩
              start := start, approach := rfl, room := room, whole := fun _ => rfl
              continued := fun continued => absurd continued first, fan := rfl }
          · cases resumes
    · cases resumes
  · cases resumes

theorem prime_eq_ok {nozzle : Binary64} {prime : List Line}
    (primes : settings.primeLines part nozzle = .ok prime) :
    (∃ x, prime = settings.bedPrimeLines x nozzle) ∨ prime = settings.airPrimeLines nozzle := by
  unfold primeLines at primes
  split at primes
  · obtain ⟨x, -, same⟩ := map_eq_ok.mp primes
    exact .inl ⟨x, same.symm⟩
  · cases primes
    exact .inr rfl

/-- Whether the opening of a part irons a layer. -/
structure Irons (settings : Settings) (print : Print) (layer : Layer) (part : Int)
    (below : Layer) : Prop where
  continued : 0 < part
  asked : settings.iron = true
  found : print.layerBelow layer = .ok below
  traceable : below.canIron = true

/-- What an opening irons: nothing, unless there is a layer to iron, and that one as it was heated. -/
inductive Ironed (settings : Settings) (print : Print) (layer : Layer) (part : Int) :
    List Line → Prop
  | nothing (none : ∀ below, ¬ settings.Irons print layer part below) :
    Ironed settings print layer part []
  | trace (below : Layer) (nozzle : Binary64) (irons : settings.Irons print layer part below)
    (heated : settings.nozzleTarget below.entry below.number = .ok nozzle) :
    Ironed settings print layer part (ironingAround nozzle below.ironingPath.toList)

theorem layer_below_mem {below : Layer} (found : print.layerBelow layer = .ok below) :
    below ∈ print.layers.toList := by
  unfold Print.layerBelow at found
  split at found
  · cases found
  · rename_i other stands
    split at found
    · cases found
      unfold Print.layerAt? at stands
      split at stands
      · exact Array.mem_toList_iff.mpr (Array.mem_of_getElem? stands)
      · split at stands
        · exact Array.mem_toList_iff.mpr (Array.mem_of_getElem? stands)
        · cases stands
    · cases found

theorem ironed_of_below {ironing : List Line} (continued : 0 < part) (asked : settings.iron = true)
    (irons : settings.ironingBelow print layer = .ok ironing) :
    settings.Ironed print layer part ironing := by
  obtain ⟨below, found, traced⟩ := bind_eq_ok.mp irons
  have traced := map_error_eq_ok.mp traced
  unfold ironingLines at traced
  split at traced
  · rename_i traceable
    obtain ⟨nozzle, heated, same⟩ := bind_eq_ok.mp traced
    cases same
    exact .trace below nozzle ⟨continued, asked, found, traceable⟩ heated
  · rename_i untraceable
    cases traced
    refine .nothing fun other irons => untraceable ?_
    rw [Except.ok.inj (found.symm.trans irons.found)]
    exact irons.traceable

theorem ironed_of_opening {lines : List Line}
    (opens : settings.opening print layer part = .ok lines) :
    ∃ point prime ironing, settings.resumePoint print layer part = .ok point ∧
      settings.primeLines part point.nozzle = .ok prime ∧
      settings.Ironed print layer part ironing ∧
      lines = settings.openingAt point layer.number part prime ironing := by
  obtain ⟨point, resumes, opens⟩ := bind_eq_ok.mp opens
  obtain ⟨prime, primes, opens⟩ := bind_eq_ok.mp opens
  split at opens
  · rename_i wanted
    obtain ⟨ironing, irons, opens⟩ := bind_eq_ok.mp opens
    cases opens
    exact ⟨point, prime, ironing, resumes, primes, ironed_of_below wanted.1 wanted.2 irons, rfl⟩
  · rename_i unwanted
    cases opens
    exact ⟨point, prime, [], resumes, primes,
      .nothing fun below irons => unwanted ⟨irons.continued, irons.asked⟩, rfl⟩

theorem opening_eq_ok {lines : List Line} (opens : settings.opening print layer part = .ok lines) :
    ∃ point prime ironing, settings.resumePoint print layer part = .ok point ∧
      settings.primeLines part point.nozzle = .ok prime ∧
      IsIroning print ironing ∧
      lines = settings.openingAt point layer.number part prime ironing := by
  obtain ⟨point, prime, ironing, resumes, primes, ironed, rfl⟩ := ironed_of_opening opens
  refine ⟨point, prime, ironing, resumes, primes, ?_, rfl⟩
  cases ironed with
  | nothing none => exact .inl rfl
  | trace below nozzle irons heated => exact .inr ⟨below, layer_below_mem irons.found, nozzle, rfl⟩

theorem forall_first_lines (holds : Line → Prop) {point : ResumePoint} {layer part : Int}
    (blank : holds .blank) (remarked : ∀ text, holds (.remark text))
    (reset : ∀ line ∈ [noted "M413" [fixedField 'S' "0"] " Power loss off",
      noted "M220" [fixedField 'S' "100"] " Reset Feedrate",
      noted "M221" [fixedField 'S' "100"] " Reset Flowrate"], holds line)
    (heated : ∀ line ∈ point.heatBedLines, holds line) :
    ∀ line ∈ settings.firstLines point layer part, holds line := by
  have heat : ∀ line ∈ if part = 0 ∨ settings.reheatBed then point.heatBedLines else [],
      holds line := by
    split
    · exact heated
    · exact fun _ member => nomatch member
  simp only [List.forall_mem_cons] at reset
  simp only [firstLines, List.forall_mem_append, ResumePoint.headerLines, List.forall_mem_cons]
  exact ⟨⟨⟨remarked _, remarked _, remarked _, nofun⟩, blank, reset.1, reset.2.1, reset.2.2.1,
    blank, nofun⟩, heat⟩

theorem forall_leading_lines (holds : Line → Prop) {point : ResumePoint} {layer part : Int}
    (blank : holds .blank) (remarked : ∀ text, holds (.remark text))
    (reset : ∀ line ∈ [noted "M413" [fixedField 'S' "0"] " Power loss off",
      noted "M220" [fixedField 'S' "100"] " Reset Feedrate",
      noted "M221" [fixedField 'S' "100"] " Reset Flowrate"], holds line)
    (heated : ∀ line ∈ point.heatBedLines, holds line)
    (homed : ∀ line ∈ point.homing.lines, holds line)
    (leveled : holds (noted "M420" [fixedField 'S' "1"] " Enable mesh leveling")) :
    ∀ line ∈ settings.leadingLines point layer part, holds line := by
  simp only [leading_lines_eq, List.forall_mem_append, List.forall_mem_cons]
  exact ⟨⟨forall_first_lines holds blank remarked reset heated, homed⟩, blank, leveled, blank, nofun⟩

theorem forall_fan_lines (holds : Line → Prop) {point : ResumePoint}
    (blown : ∀ fan note, holds (fanLine fan note)) : ∀ line ∈ point.fanLines, holds line := by
  unfold ResumePoint.fanLines
  split
  · exact fun _ member => nomatch member
  · exact List.forall_mem_singleton.mpr (blown _ _)

theorem forall_rate_lines (holds : Line → Prop)
    (rates : ∀ line ∈ settings.firstLayerRates, holds line) :
    ∀ line ∈ if 0 < part then settings.firstLayerRates else [], holds line := by
  split
  · exact rates
  · exact fun _ member => nomatch member

theorem forall_ironing (holds : Line → Prop) {ironing : List Line} (irons : IsIroning print ironing)
    (traced : ∀ below ∈ print.layers.toList, ∀ nozzle,
      ∀ line ∈ ironingAround nozzle below.ironingPath.toList, holds line) :
    ∀ line ∈ ironing, holds line := by
  rcases irons with rfl | ⟨below, inPrint, nozzle, rfl⟩
  · exact fun _ member => nomatch member
  · exact traced below inPrint nozzle

/-- What is true of the lines of each section behind the lines that make the modes absolute, in every
form that the section can have, is true of all that follows them. -/
theorem forall_behind_lines (holds : Line → Prop) {point : ResumePoint} {prime ironing : List Line}
    (primes : settings.primeLines part point.nozzle = .ok prime)
    (park : ∀ line ∈ settings.parkLines point.homing, holds line)
    (primedOnBed : ∀ x, ∀ line ∈ settings.bedPrimeLines x point.nozzle, holds line)
    (primedInAir : ∀ line ∈ settings.airPrimeLines point.nozzle, holds line)
    (approach : ∀ line ∈ point.approachLines, holds line)
    (ironed : ∀ line ∈ ironing, holds line)
    (restore : ∀ line ∈ point.restoreLines, holds line)
    (blown : ∀ fan note, holds (fanLine fan note))
    (rates : ∀ line ∈ settings.firstLayerRates, holds line) :
    ∀ line ∈ settings.behindLines point part prime ironing, holds line := by
  have primed : ∀ line ∈ prime, holds line := by
    rcases prime_eq_ok primes with ⟨x, rfl⟩ | rfl
    · exact primedOnBed x
    · exact primedInAir
  simp only [behindLines, List.forall_mem_append]
  exact ⟨⟨⟨⟨⟨⟨park, primed⟩, approach⟩, ironed⟩, restore⟩, forall_fan_lines holds blown⟩,
    forall_rate_lines holds rates⟩

theorem inherited_eq_ok (uncompressed : settings.zCompression.isZero = true) {height : Binary64}
    (inherits : settings.inheritedZ print layer part = .ok height) :
    ∃ z, layer.entry.position.z = .absolute z ∧ height = z + settings.hop := by
  unfold inheritedZ at inherits
  obtain ⟨z, entered, inherits⟩ := bind_eq_ok.mp inherits
  dsimp only at inherits
  rw [if_pos uncompressed, pure_bind] at inherits
  split at inherits
  · cases inherits
  · cases inherits
    exact ⟨z, AxisValue.require_eq_ok_iff.mp (map_error_eq_ok.mp entered), rfl⟩

theorem closing_eq_ok {totalParts : Int} {lines : List Line}
    (closes : settings.closing layer part totalParts = .ok lines) :
    ∃ z lifted, layer.exitState.position.z = .absolute z ∧
      settings.liftedZ z part totalParts = .ok lifted ∧ lines = settings.closingAt lifted := by
  obtain ⟨z, ended, closes⟩ := bind_eq_ok.mp closes
  obtain ⟨lifted, lifts, closes⟩ := bind_eq_ok.mp closes
  cases closes
  exact ⟨z, lifted, AxisValue.require_eq_ok_iff.mp ended, lifts, rfl⟩

/-- The nozzle leaves a part that is continued by the whole hop, and the limit has room for it. -/
theorem lifted_of_continued {z lifted : Binary64} {totalParts : Int}
    (continued : part ≠ totalParts - 1) (lifts : settings.liftedZ z part totalParts = .ok lifted) :
    lifted = z + settings.hop ∧ ¬ settings.maxZ < z + settings.hop := by
  unfold liftedZ at lifts
  split at lifts
  · cases lifts
  · split at lifts
    · cases lifts
    · rename_i room
      cases lifts
      exact ⟨rfl, room⟩

end Settings

end Scaffold

end PrintParts
