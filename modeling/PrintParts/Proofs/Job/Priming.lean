import PrintParts.Proofs.Job.Transaction
import PrintParts.Proofs.Number.Monotone
import PrintParts.Proofs.Recording.Reach

/-!
Room for priming. Where every part primes on the bed, a job is refused if the least X of the print is not
beyond the room of the last part. This keeps all parts clear of the print as long as the X of the print are
numbers and no earlier part needs more room than the last one, which is so unless parts are shifted downward.
-/

namespace PrintParts

namespace Scaffold.Settings

open Binary64

variable {settings : Settings} {part last : Nat} {x : Binary64}

/-- The room along X that a part needs when it primes on the bed; the print has to be beyond it. -/
def room (settings : Settings) (part : Nat) : Binary64 :=
  if settings.shiftBedPrime then settings.headClearance + settings.bedPrimeShift * ofIntRounded part
  else settings.headClearance

theorem clearance_eq_ok {clearance : Binary64}
    (cleared : settings.bedPrimeClearance (last + 1 : Nat) = .ok clearance) :
    clearance = settings.room last ∧
      (settings.shiftBedPrime = true → (ofIntRounded last).isFinite = true) := by
  have parts : ((last + 1 : Nat) : Int) - 1 = last := by omega
  rw [bedPrimeClearance, parts] at cleared
  rw [room]
  by_cases shifts : settings.shiftBedPrime = true
  · rw [if_pos shifts] at cleared ⊢
    obtain ⟨count, rounded, same⟩ := map_eq_ok.mp cleared
    obtain ⟨rfl, finite⟩ := round_integer_eq_ok rounded
    exact ⟨same.symm, fun _ => finite⟩
  · rw [if_neg shifts] at cleared ⊢
    exact ⟨(Except.ok.inj cleared).symm, fun shifted => absurd shifted shifts⟩

/-- The first part is scaled by zero, so its room is a number only if the shift is finite. -/
theorem shift_of_room (shifts : settings.shiftBedPrime = true) (number : settings.room 0 ≠ nan) :
    ∃ negative units fits, settings.bedPrimeShift = finite negative units fits := by
  have zero : ofIntRounded ((0 : Nat) : Int) = .zero false := by decide +kernel
  rw [room, if_pos shifts, zero] at number
  cases shift : settings.bedPrimeShift with
  | finite negative units fits => exact ⟨negative, units, fits, rfl⟩
  | nan =>
    rw [shift] at number
    exact absurd (add_nan _) number
  | infinite negative =>
    rw [shift, infinite_mul_zero] at number
    exact absurd (add_nan _) number

theorem room_lt_of_ends (within : part ≤ last)
    (counted : settings.shiftBedPrime = true → (ofIntRounded last).isFinite = true)
    (first : settings.room 0 < x) (final : settings.room last < x) : settings.room part < x := by
  have firstNumber := (numbers_of_le (le_of_lt first)).1
  have finalNumber := (numbers_of_le (le_of_lt final)).1
  by_cases shifts : settings.shiftBedPrime = true
  · obtain ⟨negative, units, fits, shift⟩ := shift_of_room shifts firstNumber
    have lower := Nat.zero_le part
    have finite := counted shifts
    simp only [room, if_pos shifts, shift] at first final firstNumber finalNumber ⊢
    rcases Int.le_total 0 (signedUnits negative units) with upward | downward
    · have between := add_between (scale_le fits finite upward lower within)
        (scale_le fits finite upward within (Nat.le_refl last)) firstNumber finalNumber
      exact lt_of_le_of_lt between.2 final
    · have between := add_between (scale_ge fits finite downward within (Nat.le_refl last))
        (scale_ge fits finite downward lower within) finalNumber firstNumber
      exact lt_of_le_of_lt between.2 first
  · rw [room, if_neg shifts] at first ⊢
    exact first

/-- The room does not become less from part to part: it is made up of finite numbers, and parts are not
shifted downward. -/
structure ShiftsUp (settings : Settings) : Prop where
  clearance : settings.headClearance.isFinite = true
  shift : settings.shiftBedPrime = true →
    settings.bedPrimeShift.isFinite = true ∧ ¬ settings.bedPrimeShift < 0

instance (settings : Settings) : Decidable settings.ShiftsUp :=
  decidable_of_iff (settings.headClearance.isFinite = true ∧ (settings.shiftBedPrime = true →
    settings.bedPrimeShift.isFinite = true ∧ ¬ settings.bedPrimeShift < 0))
    ⟨fun upward => ⟨upward.1, upward.2⟩, fun upward => ⟨upward.clearance, upward.shift⟩⟩

theorem signed_units_of_not_lt {negative : Bool} {units : Nat} {fits : Representable units}
    (upward : ¬ finite negative units fits < 0) : 0 ≤ signedUnits negative units := by
  by_contra below
  have zero : (0 : Binary64).place? = some 0 := by decide +kernel
  exact upward (lt_iff_places.mpr ⟨_, _, rfl, zero, Int.not_le.mp below⟩)

theorem room_le_of_shifts_up (upward : settings.ShiftsUp)
    (counted : settings.shiftBedPrime = true → (ofIntRounded last).isFinite = true) :
    settings.room 0 ≤ settings.room last := by
  have clearance := upward.clearance
  cases head : settings.headClearance with
  | nan | infinite _ =>
    rw [head] at clearance
    cases clearance
  | finite headNegative headUnits headFits =>
    by_cases shifts : settings.shiftBedPrime = true
    · obtain ⟨isFinite, notBelow⟩ := upward.shift shifts
      cases shift : settings.bedPrimeShift with
      | nan | infinite _ =>
        rw [shift] at isFinite
        cases isFinite
      | finite negative units fits =>
        rw [shift] at notBelow
        have scaled := scale_le fits (counted shifts) (signed_units_of_not_lt notBelow)
          (Nat.zero_le last) (Nat.le_refl last)
        simp only [room, if_pos shifts, head, shift]
        exact add_le_add scaled (finite_add_number headFits (numbers_of_le scaled).1)
          (finite_add_number headFits (numbers_of_le scaled).2)
    · simp only [room, if_neg shifts, head]
      exact le_refl_of_number (finite_number headFits)

variable {least : Option LeastX} {xs : List Binary64} (tells : LeastX.Tells least xs)
  (counted : settings.shiftBedPrime = true → (ofIntRounded last).isFinite = true)
  (checked : LeastX.checkClearance least (settings.room last) = .ok ())

include tells checked

theorem last_room_lt (numbers : ∀ x ∈ xs, x ≠ nan) (number : settings.room last ≠ nan) :
    ∀ x ∈ xs, settings.room last < x := by
  intro x member
  cases record : least with
  | none =>
    rw [tells.none record] at member
    cases member
  | some known =>
    have knownNumber := numbers known.x (tells.isSet known record)
    have beyond := LeastX.checkClearance_eq_ok_iff.mp checked known record
    exact lt_of_lt_of_le (lt_of_not_le number knownNumber beyond)
      (le_of_not_lt knownNumber (numbers x member) (tells.isLeast known record x member))

include counted

/-- What the check of the last part leaves open: X that are not numbers, and the first part. -/
theorem clear_iff : (∀ part ≤ last, ∀ x ∈ xs, settings.room part < x) ↔
    ∀ x ∈ xs, x ≠ nan ∧ settings.room 0 < x ∧ settings.room last ≠ nan := by
  constructor
  · intro clear x member
    have first := clear 0 (Nat.zero_le last) x member
    have final := numbers_of_le (le_of_lt (clear last (Nat.le_refl last) x member))
    exact ⟨final.2, first, final.1⟩
  · intro apart part within x member
    have final := last_room_lt tells checked (fun other isSet => (apart other isSet).1) (apart x member).2.2
    exact room_lt_of_ends within counted (apart x member).2.1 (final x member)

theorem clear_iff_of_shifts_up (upward : settings.ShiftsUp) :
    (∀ part ≤ last, ∀ x ∈ xs, settings.room part < x) ↔ ∀ x ∈ xs, x ≠ nan := by
  rw [clear_iff tells counted checked]
  have grows := room_le_of_shifts_up upward counted
  have number := (numbers_of_le grows).2
  constructor
  · exact fun apart x member => (apart x member).1
  · intro numbers x member
    have final := last_room_lt tells checked numbers number x member
    exact ⟨numbers x member, lt_of_le_of_lt grows final, number⟩

end Scaffold.Settings

namespace Job

open FileTree

variable {tree after : FileTree} {folder : ProfileFolder} {request : Request} {job : Job}
  {print : Print} {plan : Plan} {output : Path} {prepared : Prepared}

/-- Whether every X that a move inside a layer sets is beyond the room of every part. -/
def ClearsPrint (job : Job) (print : Print) (plan : Plan) : Prop :=
  ∀ part < plan.totalParts, ∀ x ∈ print.moveXs job.policy, job.settings.room part < x

theorem checked_of_prepare (ready : job.prepare = .ok prepared)
    (prepares : job.Prepares print plan output prepared) (bed : job.settings.primeMode = .bed) :
    ∃ clearance, job.settings.bedPrimeClearance plan.totalParts = .ok clearance ∧
      LeastX.checkClearance print.leastX clearance = .ok () := by
  unfold prepare at ready
  obtain ⟨other, recorded, ready⟩ := bind_eq_ok.mp ready
  obtain rfl := Except.ok.inj (recorded.symm.trans prepares.recorded)
  obtain ⟨division, divided, ready⟩ := bind_eq_ok.mp ready
  obtain rfl := Except.ok.inj (divided.symm.trans prepares.divided)
  obtain ⟨warnings, checked, -⟩ := bind_eq_ok.mp ready
  simp only [Scaffold.Settings.clearanceWarnings, bed] at checked
  obtain ⟨clearance, cleared, checked⟩ := bind_eq_ok.mp checked
  obtain ⟨_, clear, -⟩ := bind_eq_ok.mp checked
  exact ⟨clearance, cleared, clear⟩

/-- When a job that primes every part on the bed is done, its parts are clear of the print exactly if all X
of the print are numbers beyond the room of the first part, and that of the last part is a number. As long
as parts are not shifted downward, only the former can fail. -/
theorem bed_priming_clears {report : Report}
    (done : run storage folder request tree = (.ok report, after)) :
    ∃ job prepared print plan output, gather storage folder request tree = (.ok job, tree) ∧
      job.prepare = .ok prepared ∧ prepared.report = report ∧
      job.Prepares print plan output prepared ∧
      (job.settings.primeMode = .bed →
        (job.ClearsPrint print plan ↔ ∀ x ∈ print.moveXs job.policy, x ≠ .nan ∧
          job.settings.room 0 < x ∧ job.settings.room (plan.totalParts - 1) ≠ .nan) ∧
        (job.settings.ShiftsUp →
          (job.ClearsPrint print plan ↔ ∀ x ∈ print.moveXs job.policy, x ≠ .nan))) := by
  obtain ⟨job, prepared, read, ready, -, same⟩ := run_eq_ok.mp done
  obtain ⟨print, plan, output, prepares⟩ := prepares_of_prepare ready
  refine ⟨job, prepared, print, plan, output, by rw [gather_apply, read], ready, same, prepares, ?_⟩
  intro bed
  obtain ⟨clearance, cleared, checked⟩ := checked_of_prepare ready prepares bed
  obtain ⟨last, total⟩ := Nat.exists_eq_add_one_of_ne_zero (Nat.ne_of_gt plan.total_parts_pos)
  rw [total] at cleared
  obtain ⟨rfl, counted⟩ := Scaffold.Settings.clearance_eq_ok cleared
  have tells := Print.least_x_tells prepares.recorded
  simp only [ClearsPrint, total, Nat.lt_succ_iff, Nat.add_sub_cancel]
  exact ⟨Scaffold.Settings.clear_iff tells counted checked,
    Scaffold.Settings.clear_iff_of_shifts_up tells counted checked⟩

def testRecorded (test : Job → Print → Bool) (tree : FileTree) (folder : ProfileFolder)
    (request : Request) : Bool :=
  succeedsWith (fun job => succeedsWith (test job) (Print.ofBytes job.policy job.program))
    (gathered tree folder request)

theorem test_of_prepares {test : Job → Print → Bool}
    (checked : testRecorded test tree folder request = true)
    (read : gather storage folder request tree = (.ok job, tree))
    (prepares : job.Prepares print plan output prepared) : test job print = true := by
  rw [gather_apply] at read
  rw [testRecorded, (outcome_eq.mp read).1] at checked
  obtain ⟨other, same, checked⟩ := exists_of_succeeds_with checked
  rw [← Except.ok.inj same, prepares.recorded] at checked
  exact checked

def spanningProgram (high low : String) : List Text := [
  Text.of "M140 S60", Text.of "M104 S210", Text.of "G92 E0", Text.of ";LAYER_COUNT:2",
  Text.of ";LAYER:0", Text.of ("G0 X" ++ high ++ " Y40 Z0.2"), Text.of ("G1 X" ++ low ++ " E1"),
  Text.of ";LAYER:1", Text.of ("G0 X" ++ high ++ " Y40 Z0.4"), Text.of ("G1 X" ++ low ++ " E2"),
  Text.of ";-- end code begin --"]

def spanningTree (high low : String) : FileTree :=
  (FileTree.empty []).put [Text.of "in.gcode"] (.file (Text.unlines (spanningProgram high low)).encode)

def bedRequest : Request where
  input := .name (Text.of "in.gcode")
  parts := .integer 2
  primeMode := some .bed
  shiftBedPrime := true

theorem bed_priming_clears_beyond_shift : ∃ report after job print plan,
    run storage .bundled bedRequest (spanningTree "60" "35.5") = (.ok report, after) ∧
    gather storage .bundled bedRequest (spanningTree "60" "35.5") = (.ok job, spanningTree "60" "35.5") ∧
    job.settings.primeMode = .bed ∧ print.moveXs job.policy ≠ [] ∧ job.ClearsPrint print plan := by
  have runs : succeedsWith (fun _ => true) (run storage .bundled bedRequest (spanningTree "60" "35.5")).1 =
      true := by decide +kernel
  have tested : testRecorded (fun job print => decide (job.settings.primeMode = .bed) &&
      decide job.settings.ShiftsUp && decide (print.moveXs job.policy ≠ []) &&
      (print.moveXs job.policy).all fun x => decide (x ≠ .nan))
      (spanningTree "60" "35.5") .bundled bedRequest = true := by decide +kernel
  obtain ⟨report, after, done⟩ := exists_of_run runs
  obtain ⟨job, prepared, print, plan, output, read, -, -, prepares, clears⟩ := bed_priming_clears done
  have passed := test_of_prepares tested read prepares
  simp only [Bool.and_eq_true, decide_eq_true_eq, List.all_eq_true] at passed
  obtain ⟨⟨⟨bed, upward⟩, some⟩, numbers⟩ := passed
  exact ⟨report, after, job, print, plan, done, read, bed, some, ((clears bed).2 upward).mpr numbers⟩

/-- Whether a job is done although some part of it primes where the print is. -/
def PrimesIntoPrint (tree : FileTree) (folder : ProfileFolder) (request : Request) : Prop :=
  ∃ report after job prepared print plan output,
    run storage folder request tree = (.ok report, after) ∧
    gather storage folder request tree = (.ok job, tree) ∧ prepared.report = report ∧
    job.Prepares print plan output prepared ∧ job.settings.primeMode = .bed ∧
    ¬ job.ClearsPrint print plan

def firstPartMeets (job : Job) (print : Print) : Bool :=
  decide (job.settings.primeMode = .bed) &&
    (print.moveXs job.policy).any fun x => !decide (job.settings.room 0 < x)

theorem primes_into_print
    (runs : succeedsWith (fun _ => true) (run storage folder request tree).1 = true)
    (meets : testRecorded firstPartMeets tree folder request = true) :
    PrimesIntoPrint tree folder request := by
  obtain ⟨report, after, done⟩ := exists_of_run runs
  obtain ⟨job, prepared, read, ready, -, same⟩ := run_eq_ok.mp done
  obtain ⟨print, plan, output, prepares⟩ := prepares_of_prepare ready
  have gathers : gather storage folder request tree = (.ok job, tree) := by rw [gather_apply, read]
  have passed := test_of_prepares meets gathers prepares
  simp only [firstPartMeets, Bool.and_eq_true, decide_eq_true_eq, List.any_eq_true, Bool.not_eq_true',
    decide_eq_false_iff_not] at passed
  obtain ⟨bed, x, member, near⟩ := passed
  exact ⟨report, after, job, prepared, print, plan, output, done, gathers, same, prepares, bed,
    fun clears => near (clears 0 plan.total_parts_pos x member)⟩

def downwardTree : FileTree :=
  (spanningTree "40" "27").put [Text.of "down.json"]
    (.file (Text.of "\x7b\"bed_prime_shift_mm\": -5\x7d").encode)

/-- Two jobs are done although their first part primes where the print is: the room of a later part is less
in the one, and in the other a NaN hides the X below which there is nothing. -/
theorem bed_priming_meets_print :
    PrimesIntoPrint downwardTree (.folder (Path.ofText (Text.of ".")))
      { bedRequest with profileName := .name (Text.of "down") } ∧
    PrimesIntoPrint (spanningTree "nan" "5") .bundled { bedRequest with parts := .integer 1 } :=
  ⟨primes_into_print (by decide +kernel) (by decide +kernel),
    primes_into_print (by decide +kernel) (by decide +kernel)⟩

end Job

end PrintParts
