import PrintParts.Proofs.Legs
import PrintParts.Proofs.Number.Positional
import PrintParts.Proofs.Scaffold.Restoration

/-!
How the opening of a continuation brings the nozzle to its layer. Nothing moves before the height is declared.
From there on the nozzle stays above that height, except on the bed at the prime line of its part; it goes to
its layer along Z first, then across, and down along Z last.
-/

namespace PrintParts

namespace Scaffold

def declareHeight (z : Binary64) : Line := noted "G92" [numberField 'Z' z] " set Z without homing"

def approachRemark : Line := remark " move to desired place from above"

def primeSpots (x : Binary64) : List Binary64 :=
  [x, x + .ofDecimal false 2 (-1), x + .ofDecimal false 4 (-1), x + .ofDecimal false 5 (-1)]

/-- A place along X is one of the prime line of a part. -/
def Settings.PrimesAt (settings : Settings) (part : Int) (place : ℚ) : Prop :=
  ∃ x, settings.bedPrimeX part = .ok x ∧
    ∃ spot ∈ primeSpots x, (Text.ofChars (spot.fixed 1)).rational? = some place

/-- Legs that keep clear of what stands below a height: primed in the air the nozzle stays above it, and primed
on the bed it goes below only at the prime line of its part. -/
structure Settings.KeepsClear (settings : Settings) (part : Int) (height : ℚ) (legs : List Leg) : Prop where
  inAir : settings.primeMode = .air → ∀ leg ∈ legs, height ≤ leg.target .z
  onBed : settings.primeMode = .bed →
    ∀ leg ∈ legs, leg.target .z < height → settings.PrimesAt part (leg.target .x)

namespace Settings

variable {settings : Settings} {part : Int} {height : ℚ} {legs more : List Leg}

theorem keeps_clear_of_above (above : ∀ leg ∈ legs, height ≤ leg.target .z) :
    settings.KeepsClear part height legs :=
  ⟨fun _ => above, fun _ leg member low => absurd low (not_lt.mpr (above leg member))⟩

theorem keeps_clear_append (first : settings.KeepsClear part height legs)
    (second : settings.KeepsClear part height more) : settings.KeepsClear part height (legs ++ more) where
  inAir air := List.forall_mem_append.mpr ⟨first.inAir air, second.inAir air⟩
  onBed bed := List.forall_mem_append.mpr ⟨first.onBed bed, second.onBed bed⟩

end Settings

namespace Line

structure StaysAbove (height : ℚ) (line : Line) : Prop where
  direct : line.command.isDirect = true
  heights : ∀ field ∈ line.command.fields, Axis.ofLetter? field.letter = some .z →
    ∀ number, field.text.rational? = some number → height ≤ number

/-- A line that lowers the nozzle at some places along X only, and moves it to no others. -/
structure StaysAside (spots : ℚ → Prop) (line : Line) : Prop where
  direct : line.command.isDirect = true
  spots : ∀ field ∈ line.command.fields, Axis.ofLetter? field.letter = some .x →
    ∀ number, field.text.rational? = some number → spots number
  lowers : line.command.NamesAxis .z → line.command.places = true ∧ line.command.NamesAxis .x

/-- A line that names none of some axes, and does not home. -/
def spares (line : Line) (axes : List Axis) : Bool :=
  line.command.isDirect && line.command.fields.all fun field => axes.all fun axis =>
    Axis.ofLetter? field.letter != some axis

theorem spares_iff {line : Line} {axes : List Axis} : line.spares axes = true ↔
    line.command.isDirect = true ∧ ∀ axis ∈ axes, ¬ line.command.NamesAxis axis := by
  simp only [spares, Bool.and_eq_true, List.all_eq_true, bne_iff_ne, Command.NamesAxis]
  exact and_congr_right fun _ =>
    ⟨fun spared axis listed ⟨field, member, named⟩ => spared field member axis listed named,
      fun spared field member axis listed named => spared axis listed ⟨field, member, named⟩⟩

def StaysPut (line : Line) : Prop := line.spares [.x, .y, .z] = true

end Line

section

variable {printer next : Printer} {line : Line} {height : ℚ} {spots : ℚ → Prop}

theorem above_of_line (stays : line.StaysAbove height) (absolute : printer.modes.xyz = .absolute)
    (above : height ≤ printer.position .z)
    (executed : printer.execute line.command.withoutFilament = some next) :
    next.modes.xyz = .absolute ∧ height ≤ next.position .z := by
  obtain ⟨mode, puts⟩ := Printer.execute_puts stays.direct absolute executed
  refine ⟨mode, ?_⟩
  rcases puts .z with ⟨field, member, named, reads⟩ | ⟨-, same⟩
  · exact stays.heights field member named _ reads
  · rw [same]
    exact above

theorem aside_of_line (stays : line.StaysAside spots) (absolute : printer.modes.xyz = .absolute)
    (aside : printer.position .z < height → spots (printer.position .x))
    (executed : printer.execute line.command.withoutFilament = some next) :
    next.modes.xyz = .absolute ∧ (next.position .z < height → spots (next.position .x)) := by
  obtain ⟨mode, puts⟩ := Printer.execute_puts stays.direct absolute executed
  refine ⟨mode, fun low => ?_⟩
  rcases puts .x with ⟨field, member, named, reads⟩ | ⟨unmoved, sameX⟩
  · exact stays.spots field member named _ reads
  · rcases puts .z with ⟨field, member, named, reads⟩ | ⟨-, sameZ⟩
    · obtain ⟨places, namesX⟩ := stays.lowers ⟨field, member, named⟩
      exact absurd namesX (unmoved places)
    · rw [sameX]
      exact aside (sameZ ▸ low)

theorem put_of_line (stays : line.StaysPut) (absolute : printer.modes.xyz = .absolute)
    (executed : printer.execute line.command.withoutFilament = some next) :
    next.modes.xyz = .absolute ∧ next.position = printer.position := by
  obtain ⟨direct, unnamed⟩ := Line.spares_iff.mp stays
  obtain ⟨mode, puts⟩ := Printer.execute_puts direct absolute executed
  refine ⟨mode, funext fun axis => ?_⟩
  rcases puts axis with ⟨field, member, named, -⟩ | ⟨-, same⟩
  · exact absurd ⟨field, member, named⟩ (unnamed axis (by cases axis <;> decide))
  · exact same

end

/-! Runs of such lines. -/

section

variable {printer : Printer} {lines : List Line} {height : ℚ} {spots : ℚ → Prop}

theorem command_clear (clear : ∀ line ∈ lines, line.Reads Field.Clear) :
    ∀ command ∈ lines.map Line.command, command.Reads Field.Clear :=
  List.forall_mem_map.mpr fun line member => Line.command_reads (clear line member)

theorem travel_keeps (invariant : Printer → Prop) (clear : ∀ line ∈ lines, line.Reads Field.Clear)
    (keeps : ∀ line ∈ lines, ∀ printer next, invariant printer →
      printer.execute line.command.withoutFilament = some next → invariant next)
    (start : invariant printer) :
    ∃ legs last, printer.travel (lines.map Line.command) = some (legs, last) ∧ invariant last ∧
      ∀ leg ∈ legs, ∃ before behind, invariant before ∧ invariant behind ∧
        leg = ⟨before.position, behind.position⟩ := by
  obtain ⟨legs, last, travels⟩ := Printer.travel_succeeds (command_clear clear) printer
  obtain ⟨ends, between⟩ :=
    Printer.travel_preserves invariant (List.forall_mem_map.mpr keeps) start travels
  exact ⟨legs, last, travels, ends, between⟩

theorem travel_above (clear : ∀ line ∈ lines, line.Reads Field.Clear)
    (stays : ∀ line ∈ lines, line.StaysAbove height) (absolute : printer.modes.xyz = .absolute)
    (above : height ≤ printer.position .z) :
    ∃ legs last, printer.travel (lines.map Line.command) = some (legs, last) ∧
      last.modes.xyz = .absolute ∧ height ≤ last.position .z ∧
      ∀ leg ∈ legs, height ≤ leg.target .z := by
  obtain ⟨legs, last, travels, ends, between⟩ := travel_keeps
    (fun printer => printer.modes.xyz = .absolute ∧ height ≤ printer.position .z) clear
    (fun line member _ _ before => above_of_line (stays line member) before.1 before.2) ⟨absolute, above⟩
  refine ⟨legs, last, travels, ends.1, ends.2, fun leg member => ?_⟩
  obtain ⟨before, behind, -, after, rfl⟩ := between leg member
  exact after.2

theorem travel_aside (clear : ∀ line ∈ lines, line.Reads Field.Clear)
    (stays : ∀ line ∈ lines, line.StaysAside spots) (absolute : printer.modes.xyz = .absolute)
    (above : height ≤ printer.position .z) :
    ∃ legs last, printer.travel (lines.map Line.command) = some (legs, last) ∧
      last.modes.xyz = .absolute ∧ ∀ leg ∈ legs, leg.target .z < height → spots (leg.target .x) := by
  obtain ⟨legs, last, travels, ends, between⟩ := travel_keeps
    (fun printer => printer.modes.xyz = .absolute ∧
      (printer.position .z < height → spots (printer.position .x))) clear
    (fun line member _ _ before => aside_of_line (stays line member) before.1 before.2)
    ⟨absolute, fun low => absurd low (not_lt.mpr above)⟩
  refine ⟨legs, last, travels, ends.1, fun leg member => ?_⟩
  obtain ⟨before, behind, -, after, rfl⟩ := between leg member
  exact after.2

theorem travel_put (clear : ∀ line ∈ lines, line.Reads Field.Clear)
    (stays : ∀ line ∈ lines, line.StaysPut) (absolute : printer.modes.xyz = .absolute) :
    ∃ legs last, printer.travel (lines.map Line.command) = some (legs, last) ∧
      ∀ leg ∈ legs, leg.target = leg.start := by
  have keeps : ∀ line ∈ lines, ∀ other next : Printer,
      other.modes.xyz = .absolute ∧ other.position = printer.position →
      other.execute line.command.withoutFilament = some next →
      next.modes.xyz = .absolute ∧ next.position = printer.position := by
    intro line member other next before executed
    obtain ⟨mode, same⟩ := put_of_line (stays line member) before.1 executed
    exact ⟨mode, same.trans before.2⟩
  obtain ⟨legs, last, travels, -, between⟩ := travel_keeps _ clear keeps ⟨absolute, rfl⟩
  refine ⟨legs, last, travels, fun leg member => ?_⟩
  obtain ⟨before, behind, here, after, rfl⟩ := between leg member
  exact after.2.trans here.2.symm

end

/-! The lines of an opening. -/

/-- A line that moves nothing and leaves a printer as it is. -/
structure Line.IsIdle (line : Line) : Prop where
  still : line.command.isMotion = false
  same : ∀ printer : Printer, printer.execute line.command.withoutFilament = some printer

/-- Behind the declared height: homes along X and Y only. -/
def homeAside : List Line := [
  noted "M211" [fixedField 'S' "0"] " Deactivate software endstops",
  noted "G90" [] " absolute pos",
  noted "G28" [fixedField 'X' "0", fixedField 'Y' "0"] " homing"]

def Settings.parkedLines (settings : Settings) (z : Binary64) : List Line :=
  [.blank, noted "M420" [fixedField 'S' "1"] " Enable mesh leveling", .blank] ++ absoluteLines ++
    settings.parkLines (.declared z)

namespace ResumePoint

def arrivalLines (point : ResumePoint) : List Line := [
  noted "M220" [fixedField 'S' "100"] " Reset Feedrate",
  bare "G0" [numberField 'Z' point.approachZ, fixedField 'F' "5000"],
  bare "G0" [numberField 'X' point.x, numberField 'Y' point.y, numberField 'Z' point.approachZ,
    fixedField 'F' "5000"],
  .blank]

def lowerLine (point : ResumePoint) : Line :=
  bare "G0" [numberField 'X' point.x, numberField 'Y' point.y, numberField 'Z' point.z,
    fixedField 'F' "5000"]

def settleLines (point : ResumePoint) (settings : Settings) (part : Int) : List Line :=
  point.restoreLines.tail ++ point.fanLines ++ if 0 < part then settings.firstLayerRates else []

end ResumePoint

section

variable {settings : Settings} {point : ResumePoint} {layer part : Int} {z x nozzle : Binary64}
  {height : ℚ} {prime ironing lines : List Line} {printer : Printer}

theorem continued_opening_eq (declared : point.homing = .declared z) :
    settings.openingAt point layer part prime ironing =
      settings.firstLines point layer part ++ declareHeight z ::
        (homeAside ++ settings.parkedLines z ++ prime ++ [.blank] ++ approachRemark ::
          (point.arrivalLines ++ (ironing ++ point.lowerLine :: point.settleLines settings part))) := by
  simp [Settings.opening_at_eq, Settings.leading_lines_eq, Settings.behindLines, declared, Homing.lines,
    declareHeight, homeAside, Settings.parkedLines, ResumePoint.approachLines, approachRemark,
    ResumePoint.arrivalLines, ResumePoint.restoreLines, ResumePoint.lowerLine, ResumePoint.settleLines]

theorem above_of_level {line : Line} (level : line.spares [.z] = true) : line.StaysAbove height := by
  obtain ⟨direct, unnamed⟩ := Line.spares_iff.mp level
  exact ⟨direct, fun field member named => absurd ⟨field, member, named⟩ (unnamed .z List.mem_cons_self)⟩

theorem air_prime_stays_above : ∀ line ∈ settings.airPrimeLines nozzle, line.StaysAbove height := by
  have level : (settings.airPrimeLines nozzle).all (·.spares [.z]) = true := rfl
  exact fun line member => above_of_level (List.all_eq_true.mp level line member)

theorem aside_of_still {line : Line} {spots : ℚ → Prop} (still : line.spares [.x, .z] = true) :
    line.StaysAside spots := by
  obtain ⟨direct, unnamed⟩ := Line.spares_iff.mp still
  refine ⟨direct, fun field member named => ?_, fun named => ?_⟩
  · exact absurd ⟨field, member, named⟩ (unnamed .x List.mem_cons_self)
  · exact absurd named (unnamed .z (List.mem_cons_of_mem _ List.mem_cons_self))

theorem aside_of_spot {mnemonic note : String} {fields : List Field} {spot : Binary64}
    (primes : settings.bedPrimeX part = .ok x) (near : spot ∈ primeSpots x)
    (spared : (noted mnemonic fields note).spares [.x] = true)
    (places : (noted mnemonic fields note).command.places = true) :
    (noted mnemonic (bedX spot :: fields) note).StaysAside (settings.PrimesAt part) := by
  obtain ⟨direct, unnamed⟩ := Line.spares_iff.mp spared
  refine ⟨direct, List.forall_mem_cons.mpr ⟨fun _ number reads => ?_, fun field member named => ?_⟩,
    fun _ => ⟨places, bedX spot, List.mem_cons_self, rfl⟩⟩
  · exact ⟨x, primes, spot, near, reads⟩
  · exact absurd ⟨field, member, named⟩ (unnamed .x List.mem_cons_self)

theorem bed_prime_stays_aside (primes : settings.bedPrimeX part = .ok x) :
    ∀ line ∈ settings.bedPrimeLines x nozzle, line.StaysAside (settings.PrimesAt part) := by
  have line : x ∈ primeSpots x := by simp [primeSpots]
  have first : x + .ofDecimal false 2 (-1) ∈ primeSpots x := by simp [primeSpots]
  have second : x + .ofDecimal false 4 (-1) ∈ primeSpots x := by simp [primeSpots]
  have wipe : x + .ofDecimal false 5 (-1) ∈ primeSpots x := by simp [primeSpots]
  simp only [Settings.bedPrimeLines, heatNozzle, List.forall_mem_append, List.forall_mem_cons]
  -- Above the bed, while the nozzle is heated, down for the two lines, and wiping behind the retraction.
  refine ⟨⟨⟨aside_of_still rfl, aside_of_spot primes first rfl rfl, aside_of_still rfl,
      List.forall_mem_nil _⟩,
    aside_of_still rfl, aside_of_still rfl, aside_of_still rfl, List.forall_mem_nil _⟩,
    aside_of_still rfl, aside_of_spot primes first rfl rfl, aside_of_spot primes first rfl rfl,
    aside_of_spot primes second rfl rfl, aside_of_spot primes second rfl rfl,
    aside_of_still rfl, aside_of_still rfl, aside_of_still rfl, ?_, ?_, ?_, List.forall_mem_nil _⟩
  · exact aside_of_spot primes line rfl rfl
  · exact aside_of_spot primes wipe rfl rfl
  · exact aside_of_spot primes line rfl rfl

theorem clear_above {number : ℚ} (declared : z.toText.rational? = some height)
    (reads : (Homing.declared z).clearZ.toText.rational? = some number) : height ≤ number := by
  rw [Homing.clearZ, Binary64.greater] at reads
  split at reads
  · exact (Option.some.inj (declared.symm.trans reads)).le
  · rename_i low
    have ten : parkZ.toText.rational? = some 10 := by
      have text : parkZ.toText = Text.of "10" := by decide +kernel
      have read : (Text.of "10").numeral? = some (.decimal false 10 0) := by decide
      rw [text, Text.rational?, read, Option.bind_some, Numeral.rational?]
      norm_num
    rw [ten] at reads
    cases reads
    exact Binary64.text_le_ten low declared

theorem park_stays_above (declared : z.toText.rational? = some height) :
    ∀ line ∈ settings.parkedLines z, line.StaysAbove height := by
  have clear : (bare "G0" [numberField 'Z' (Homing.declared z).clearZ]).StaysAbove height := by
    refine ⟨rfl, fun other member _ number reads => ?_⟩
    rw [List.mem_singleton.mp member, number_field_text] at reads
    exact clear_above declared reads
  simp only [Settings.parkedLines, Settings.absoluteLines, Settings.parkLines, List.forall_mem_append,
    List.forall_mem_cons]
  exact ⟨⟨⟨above_of_level rfl, above_of_level rfl, above_of_level rfl, List.forall_mem_nil _⟩,
    above_of_level rfl, above_of_level rfl, List.forall_mem_nil _⟩,
    above_of_level rfl, above_of_level rfl, above_of_level rfl, clear, above_of_level rfl, List.forall_mem_nil _⟩

theorem travel_idle (idle : ∀ line ∈ lines, line.IsIdle) :
    printer.travel (lines.map Line.command) = some ([], printer) := by
  induction lines with
  | nil => rfl
  | cons line lines induction =>
    have here := idle line List.mem_cons_self
    exact Printer.travel_other here.still (here.same printer)
      (induction fun other member => idle other (List.mem_cons_of_mem _ member))

theorem first_idle : ∀ line ∈ settings.firstLines point layer part, line.IsIdle := by
  apply Settings.forall_first_lines Line.IsIdle
  · exact ⟨rfl, fun _ => rfl⟩
  · exact fun _ => ⟨rfl, fun _ => rfl⟩
  · simp only [List.forall_mem_cons]
    exact ⟨⟨rfl, fun _ => rfl⟩, ⟨rfl, fun _ => rfl⟩, ⟨rfl, fun _ => rfl⟩, List.forall_mem_nil _⟩
  · simp only [ResumePoint.heatBedLines, List.forall_mem_cons]
    exact ⟨⟨rfl, fun _ => rfl⟩, ⟨rfl, fun _ => rfl⟩, ⟨rfl, fun _ => rfl⟩, ⟨rfl, fun _ => rfl⟩,
      List.forall_mem_nil _⟩

theorem settle_stays_put : ∀ line ∈ point.settleLines settings part, line.StaysPut := by
  have restored : ∀ line ∈ point.restoreLines.tail, line.StaysPut := by
    have spared : point.restoreLines.tail.all (·.spares [.x, .y, .z]) = true := rfl
    exact List.all_eq_true.mp spared
  have rates : ∀ line ∈ settings.firstLayerRates, line.StaysPut := by
    simp only [Settings.firstLayerRates, List.forall_mem_append]
    refine ⟨?_, List.forall_mem_singleton.mpr rfl⟩
    split
    · exact nofun
    · exact List.forall_mem_singleton.mpr rfl
  simp only [ResumePoint.settleLines, List.forall_mem_append]
  refine ⟨⟨restored, Settings.forall_fan_lines _ fun fan note => ?_⟩,
    Settings.forall_rate_lines _ rates⟩
  cases fan <;> rfl

/-! The legs of the sections. -/

theorem execute_declare_height (reads : z.toText.rational? = some height) :
    printer.execute (declareHeight z).command.withoutFilament = some (printer.put .z height) := by
  show [numberField 'Z' z].foldlM Printer.declareField printer = _
  have declared : printer.declareField (numberField 'Z' z) = some (printer.put .z height) := by
    have other : (numberField 'Z' z).isNamed 'E' = false := rfl
    have named : Axis.ofLetter? (numberField 'Z' z).letter = some .z := rfl
    have written : (numberField 'Z' z).text.rational? = some height := by
      rw [number_field_text, reads]
    simp only [Printer.declareField, other, named, written, Bool.false_eq_true, if_false, Option.map_some]
  rw [Printer.fold_field declared]
  rfl

theorem travel_home : ∃ leg last, printer.travel (homeAside.map Line.command) = some ([leg], last) ∧
    last.modes.xyz = .absolute ∧ last.position .z = printer.position .z ∧
    leg.target .z = printer.position .z := by
  have aside : ∀ other : Printer, (other.home [fixedField 'X' "0", fixedField 'Y' "0"]).position .z =
      other.position .z := by
    intro other
    simp only [Printer.home]
    rw [if_neg]
    decide
  exact ⟨_, _, rfl, rfl, aside _, aside _⟩

theorem travel_park (reads : z.toText.rational? = some height)
    (clear : ∀ line ∈ settings.parkedLines z, line.Reads Field.Clear) :
    ∃ legs last, printer.travel ((declareHeight z :: (homeAside ++ settings.parkedLines z)).map
        Line.command) = some (legs, last) ∧
      last.modes.xyz = .absolute ∧ height ≤ last.position .z ∧ ∀ leg ∈ legs, height ≤ leg.target .z := by
  have declared : (printer.put .z height).position .z = height := Printer.put_same
  obtain ⟨leg, homed, homes, absolute, atHeight, level⟩ := @travel_home (printer.put .z height)
  rw [declared] at atHeight level
  obtain ⟨legs, last, parks, mode, above, high⟩ :=
    travel_above clear (park_stays_above reads) absolute atHeight.ge
  refine ⟨leg :: legs, last, ?_, mode, above, List.forall_mem_cons.mpr ⟨level.ge, high⟩⟩
  rw [List.map_cons, List.map_append]
  exact Printer.travel_other rfl (execute_declare_height reads) (Printer.travel_append homes parks)

theorem travel_prime (continued : 0 < part) (primes : settings.primeLines part nozzle = .ok prime)
    (clear : ∀ line ∈ prime, line.Reads Field.Clear) (absolute : printer.modes.xyz = .absolute)
    (above : height ≤ printer.position .z) :
    ∃ legs last, printer.travel (prime.map Line.command) = some (legs, last) ∧
      last.modes.xyz = .absolute ∧ settings.KeepsClear part height legs := by
  unfold Settings.primeLines at primes
  split at primes
  · rename_i onBed
    have bed := onBed.resolve_left continued.ne'
    obtain ⟨x, spot, rfl⟩ := map_eq_ok.mp primes
    obtain ⟨legs, last, travels, mode, aside⟩ :=
      travel_aside clear (bed_prime_stays_aside spot) absolute above
    refine ⟨legs, last, travels, mode, { inAir := fun air => ?_, onBed := fun _ => aside }⟩
    rw [air] at bed
    cases bed
  · cases primes
    obtain ⟨legs, last, travels, mode, -, high⟩ :=
      travel_above clear air_prime_stays_above absolute above
    exact ⟨legs, last, travels, mode, Settings.keeps_clear_of_above high⟩

theorem travel_along (continued : 0 < part) (primes : settings.primeLines part nozzle = .ok prime)
    (clear : ∀ line ∈ declareHeight z :: (homeAside ++ settings.parkedLines z ++ prime ++ [.blank]),
      line.Reads Field.Clear) :
    ∃ declared along aloft, z.toText.rational? = some declared ∧
      printer.travel ((declareHeight z :: (homeAside ++ settings.parkedLines z ++ prime ++ [.blank])).map
        Line.command) = some (along, aloft) ∧
      aloft.modes.xyz = .absolute ∧ settings.KeepsClear part declared along := by
  simp only [List.forall_mem_cons, List.forall_mem_append] at clear
  obtain ⟨clearDeclared, ⟨⟨-, clearParked⟩, clearPrime⟩, -⟩ := clear
  obtain ⟨declared, reads⟩ := (clearDeclared.2 rfl _ List.mem_cons_self).2 rfl
  rw [number_field_text] at reads
  obtain ⟨parking, parked, parks, mode, above, high⟩ := @travel_park _ _ _ printer reads clearParked
  obtain ⟨priming, primed, primes, absolute, beside⟩ :=
    travel_prime continued primes clearPrime mode above
  refine ⟨declared, parking ++ priming, primed, reads, ?_, absolute,
    Settings.keeps_clear_append (Settings.keeps_clear_of_above high) beside⟩
  rw [List.append_assoc, ← List.cons_append, List.map_append, List.map_append]
  have blank : primed.travel ([.blank].map Line.command) = some ([], primed) := rfl
  refine Printer.travel_append parks ?_
  simpa only [List.append_nil] using Printer.travel_append primes blank

end

/-- Legs that lead straight down to a height, and no further. -/
def Lowers (z : Binary64) (place : Axis → ℚ) (legs : List Leg) : Prop :=
  ∃ lower still, legs = lower :: still ∧ lower.start = place ∧ lower.IsVertical ∧
    z.toText.rational? = some (lower.target .z) ∧ ∀ leg ∈ still, leg.target = leg.start

/-- How the nozzle comes to a place: straight up, then across at that height, and if nothing is ironed
straight down. -/
structure Settings.Descends (settings : Settings) (x y z : Binary64) (lift across : Leg)
    (rest : List Leg) : Prop where
  lifts : lift.IsVertical
  high : (z + settings.hop).toText.rational? = some (lift.target .z)
  joined : across.start = lift.target
  level : across.target .z = lift.target .z
  alongX : x.toText.rational? = some (across.target .x)
  alongY : y.toText.rational? = some (across.target .y)
  lowers : settings.iron = false → Lowers z across.target rest

section

variable {settings : Settings} {point : ResumePoint} {part : Int} {ironing : List Line} {printer : Printer}

theorem travel_arrival {x y high : ℚ} (absolute : printer.modes.xyz = .absolute)
    (readX : point.x.toText.rational? = some x) (readY : point.y.toText.rational? = some y)
    (readHigh : point.approachZ.toText.rational? = some high) :
    ∃ lift across arrived, printer.travel (point.arrivalLines.map Line.command) =
        some ([lift, across], arrived) ∧
      lift.IsVertical ∧ lift.target .z = high ∧ across.start = lift.target ∧
      across.target = arrived.position ∧ arrived.modes.xyz = .absolute ∧
      arrived.position .x = x ∧ arrived.position .y = y ∧ arrived.position .z = high := by
  have lifted : printer.execute (bare "G0" [numberField 'Z' point.approachZ,
      fixedField 'F' "5000"]).command.withoutFilament = some (printer.put .z high) := by
    show [field 'Z' point.approachZ.toText, field 'F' (Text.of "5000")].foldlM Printer.moveField printer = _
    rw [Printer.fold_field (Printer.move_axis rfl readHigh absolute),
      Printer.fold_field (Printer.move_speed _)]
    rfl
  have crossed := @Printer.execute_travel (printer.put .z high) _ _ _ _ _ _ readX readY readHigh absolute
    (Text.of "5000") none
  have straight : Leg.IsVertical ⟨printer.position, (printer.put .z high).position⟩ := by
    constructor
    · show (printer.put .z high).position .x = printer.position .x
      exact Printer.put_other (by decide)
    · show (printer.put .z high).position .y = printer.position .y
      exact Printer.put_other (by decide)
  have reached : (printer.put .z high).position .z = high := Printer.put_same
  have travels : printer.travel (point.arrivalLines.map Line.command) =
      some ([⟨printer.position, (printer.put .z high).position⟩, ⟨(printer.put .z high).position, _⟩], _) :=
    Printer.travel_other rfl rfl (Printer.travel_motion rfl lifted
      (Printer.travel_motion rfl crossed (Printer.travel_other rfl rfl rfl)))
  refine ⟨_, _, _, travels, straight, reached, rfl, rfl, absolute, ?_, ?_, Printer.put_same⟩
  · rw [Printer.put_other (by decide), Printer.put_other (by decide), Printer.put_same]
  · rw [Printer.put_other (by decide), Printer.put_same]

theorem arrival_numbers (clear : ∀ line ∈ point.arrivalLines, line.Reads Field.Clear) :
    ∃ x y high, point.x.toText.rational? = some x ∧ point.y.toText.rational? = some y ∧
      point.approachZ.toText.rational? = some high := by
  have across := (clear (bare "G0" [numberField 'X' point.x, numberField 'Y' point.y,
    numberField 'Z' point.approachZ, fixedField 'F' "5000"]) (by simp [ResumePoint.arrivalLines])).2 rfl
  simp only [List.forall_mem_cons] at across
  obtain ⟨⟨-, clearX⟩, ⟨-, clearY⟩, ⟨-, clearHigh⟩, -⟩ := across
  obtain ⟨x, readX⟩ := clearX rfl
  obtain ⟨y, readY⟩ := clearY rfl
  obtain ⟨high, readHigh⟩ := clearHigh rfl
  exact ⟨x, y, high, readX, readY, readHigh⟩

theorem travel_lower {x y : ℚ} (absolute : printer.modes.xyz = .absolute)
    (readX : point.x.toText.rational? = some x) (readY : point.y.toText.rational? = some y)
    (atX : printer.position .x = x) (atY : printer.position .y = y)
    (clear : ∀ line ∈ point.lowerLine :: point.settleLines settings part, line.Reads Field.Clear) :
    ∃ legs last, printer.travel ((point.lowerLine :: point.settleLines settings part).map
      Line.command) = some (legs, last) ∧ Lowers point.z printer.position legs := by
  obtain ⟨here, behind⟩ := List.forall_mem_cons.mp clear
  obtain ⟨z, readZ⟩ := (here.2 rfl (numberField 'Z' point.z) (by simp)).2 rfl
  have lowered := Printer.execute_travel readX readY readZ absolute (Text.of "5000") none
  obtain ⟨still, last, settles, stays⟩ := travel_put behind settle_stays_put
    (show (((printer.put .x x).put .y y).put .z z).modes.xyz = .absolute from absolute)
  refine ⟨_, last, Printer.travel_motion rfl lowered settles, _, still, rfl, rfl, ⟨?_, ?_⟩, ?_, stays⟩
  · show (((printer.put .x x).put .y y).put .z z).position .x = printer.position .x
    rw [Printer.put_other (by decide), Printer.put_other (by decide), Printer.put_same, atX]
  · show (((printer.put .x x).put .y y).put .z z).position .y = printer.position .y
    rw [Printer.put_other (by decide), Printer.put_same, atY]
  · show point.z.toText.rational? = some ((((printer.put .x x).put .y y).put .z z).position .z)
    rw [Printer.put_same]
    exact readZ

theorem travel_descent (absolute : printer.modes.xyz = .absolute)
    (approach : point.approachZ = point.z + settings.hop) (unironed : settings.iron = false → ironing = [])
    (clear : ∀ line ∈ point.arrivalLines ++ (ironing ++ point.lowerLine ::
      point.settleLines settings part), line.Reads Field.Clear) :
    ∃ lift across rest last, printer.travel ((point.arrivalLines ++ (ironing ++ point.lowerLine ::
        point.settleLines settings part)).map Line.command) = some (lift :: across :: rest, last) ∧
      settings.Descends point.x point.y point.z lift across rest := by
  obtain ⟨clearArrival, clearBehind⟩ := List.forall_mem_append.mp clear
  obtain ⟨x, y, high, readX, readY, readHigh⟩ := arrival_numbers clearArrival
  obtain ⟨lift, across, arrived, arrives, straight, lifted, joined, reached, mode, atX, atY, atZ⟩ :=
    travel_arrival absolute readX readY readHigh
  have settles : ∃ rest last, arrived.travel ((ironing ++ point.lowerLine ::
      point.settleLines settings part).map Line.command) = some (rest, last) ∧
      (settings.iron = false → Lowers point.z arrived.position rest) := by
    cases ironed : settings.iron with
    | true =>
      obtain ⟨rest, last, travels⟩ := Printer.travel_succeeds (command_clear clearBehind) arrived
      exact ⟨rest, last, travels, nofun⟩
    | false =>
      rw [unironed ironed] at clearBehind ⊢
      obtain ⟨rest, last, travels, lowers⟩ := travel_lower mode readX readY atX atY clearBehind
      exact ⟨rest, last, travels, fun _ => lowers⟩
  obtain ⟨rest, last, travels, lowers⟩ := settles
  refine ⟨lift, across, rest, last, ?_, {
    lifts := straight
    high := by rw [← approach, lifted, readHigh]
    joined := joined
    level := by rw [reached, atZ, lifted]
    alongX := by rw [reached, atX, readX]
    alongY := by rw [reached, atY, readY]
    lowers := by rw [reached]; exact lowers }⟩
  rw [List.map_append]
  exact Printer.travel_append arrives travels

end

theorem clear_rule (settings : Settings) :
    FieldRule settings fun field => field.isNamed 'E' = false → field.Legible where
  number _ _ _ bounded := Binary64.to_text_exact (Binary64.finite_of_bounded bounded)
  onBed _ _ bounded := Binary64.fixed_exact (Binary64.finite_of_fixed_bounded bounded) 1
  fixed _ _ reads _ _ := Option.isSome_iff_exists.mp reads
  retract := nofun
  primeRetract := nofun

/-- How the opening of a continuation moves the nozzle: along its way to the layer and down to it. -/
structure Settings.Approaches (settings : Settings) (layer : Layer) (part : Int) (declared : ℚ)
    (along down : List Leg) : Prop where
  clears : settings.KeepsClear part declared along
  descends : ∃ x y z lift across rest,
    layer.startPosition = ⟨.absolute x, .absolute y, .absolute z⟩ ∧
    down = lift :: across :: rest ∧ settings.Descends x y z lift across rest

section

variable {settings : Settings} {print : Print} {layer : Layer} {part : Int}

theorem approach_remarked_last {z nozzle : Binary64} {prime : List Line}
    (primes : settings.primeLines part nozzle = .ok prime) :
    approachRemark ∉ homeAside ++ settings.parkedLines z ++ prime ++ [.blank] := by
  have other : ∀ {lines : List Line}, lines.all (· != approachRemark) = true → approachRemark ∉ lines := by
    intro lines differ member
    exact bne_iff_ne.mp (List.all_eq_true.mp differ approachRemark member) rfl
  have primed : approachRemark ∉ prime := by
    rcases Settings.prime_eq_ok primes with ⟨x, rfl⟩ | rfl
    · exact other rfl
    · exact other rfl
  simp only [List.mem_append, not_or]
  exact ⟨⟨⟨other rfl, other rfl⟩, primed⟩, other rfl⟩

/-- The opening of a continuation never sweeps through the print below, whatever the printer did before. With
finite numbers in its lines it moves nothing until the height is declared, keeps clear of what stands below that
height until it approaches its layer, and approaches it from above. -/
theorem continuation_approaches {policy : OverridePolicy} {program : List Text}
    (recorded : Print.ofLines policy program = .ok print) (continued : 0 < part) {opening : List Line}
    (opens : settings.opening print layer part = .ok opening)
    (bounded : ∀ line ∈ opening, ∀ field ∈ line.command.fields, field.text.Bounded)
    (printer : Printer) :
    ∃ front height between behind declared aloft last along down,
      opening = front ++ declareHeight height :: (between ++ approachRemark :: behind) ∧
      approachRemark ∉ between ∧
      settings.inheritedZ print layer part = .ok height ∧
      height.toText.rational? = some declared ∧
      printer.follow (front.map Line.toText) = some ([], printer) ∧
      printer.follow ((declareHeight height :: between).map Line.toText) = some (along, aloft) ∧
      aloft.follow ((approachRemark :: behind).map Line.toText) = some (down, last) ∧
      settings.Approaches layer part declared along down := by
  have clear : ∀ line ∈ opening, line.Reads Field.Clear := fun line member =>
    Line.reads_imp (opening_reads (clear_rule settings) recorded opens line member)
      fun field inLine reads spares => reads spares (bounded line member field inLine)
  obtain ⟨point, prime, ironing, resumes, primes, ironed, rfl⟩ := Settings.ironed_of_opening opens
  have resumed := Settings.resume_point_eq_ok resumes
  obtain ⟨z, inherits, homing⟩ := resumed.continued continued
  have unironed : settings.iron = false → ironing = [] := by
    intro unasked
    cases ironed with
    | nothing none => rfl
    | trace below nozzle irons heated =>
      rw [irons.asked] at unasked
      cases unasked
  rw [continued_opening_eq homing] at clear ⊢
  obtain ⟨clearFirst, clearRest⟩ := List.forall_mem_append.mp clear
  rw [← List.cons_append, List.forall_mem_append] at clearRest
  obtain ⟨clearAlong, clearDown⟩ := clearRest
  obtain ⟨declared, along, aloft, reads, approaches, absolute, clears⟩ :=
    @travel_along _ _ _ _ _ printer continued primes clearAlong
  obtain ⟨lift, across, rest, last, arrives, descends⟩ :=
    travel_descent absolute resumed.approach unironed (List.forall_mem_cons.mp clearDown).2
  refine ⟨_, z, _, _, declared, aloft, last, along, lift :: across :: rest, rfl,
    approach_remarked_last primes, inherits, reads, ?_, ?_, ?_, clears,
    ⟨_, _, _, lift, across, rest, resumed.start, rfl, descends⟩⟩
  · rw [follow_lines clearFirst]
    exact travel_idle first_idle
  · rw [follow_lines clearAlong]
    exact approaches
  · rw [follow_lines clearDown]
    exact Printer.travel_other rfl rfl arrives

end

def bedPriming : Settings := { primeMode := .bed, shiftBedPrime := true }

theorem continuation_approaches_beside_its_line : ∃ print,
    Print.ofLines .reject retractedProgram = .ok print ∧
    ∃ layer ∈ print.layers.toList, layer.number = 1 ∧
    ∃ opening front height between behind declared aloft last along down,
      bedPriming.opening print layer 1 = .ok opening ∧
      opening = front ++ declareHeight height :: (between ++ approachRemark :: behind) ∧
      height.toText.rational? = some declared ∧
      usedPrinter.follow (front.map Line.toText) = some ([], usedPrinter) ∧
      usedPrinter.follow ((declareHeight height :: between).map Line.toText) = some (along, aloft) ∧
      aloft.follow ((approachRemark :: behind).map Line.toText) = some (down, last) ∧
      bedPriming.Approaches layer 1 declared along down := by
  have checked : succeedsWith (opensFinitely bedPriming) (Print.ofLines .reject retractedProgram) = true := by
    decide +kernel
  obtain ⟨print, recorded, opens⟩ := exists_of_succeeds_with checked
  obtain ⟨layer, member, second⟩ := List.any_eq_true.mp opens
  obtain ⟨number, made⟩ := (Bool.and_eq_true _ _).mp second
  obtain ⟨opening, opened, bounded⟩ := exists_of_succeeds_with made
  obtain ⟨front, height, between, behind, declared, aloft, last, along, down, parts, -, -, reads, still,
    approaches, arrives, descends⟩ := continuation_approaches recorded (by decide) opened
      (of_decide_eq_true bounded) usedPrinter
  exact ⟨print, recorded, layer, member, of_decide_eq_true number, opening, front, height, between, behind,
    declared, aloft, last, along, down, opened, parts, reads, still, approaches, arrives, descends⟩

end Scaffold

end PrintParts
