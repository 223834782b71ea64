import PrintParts.Proofs.Machine.Filament
import PrintParts.Proofs.Machine.Modes
import PrintParts.Proofs.Recording.Malformed

/-!
What is known of a printer falls into groups, and each group hears only some commands. The others can be left
out of a program, and fields that name another group can be left out of its moves, without any effect on the
group. There is one limit: whether the E of a move is read depends on commands that the places do not hear, so
a program that keeps only what the places hear can fail at an E that is no number.
-/

namespace PrintParts

/-- The groups of what is known of a printer. -/
inductive Concern where
  | places
  | filament
  | bed
  | nozzle
  | fan
  deriving DecidableEq

namespace Concern

/-- The commands that a group hears. -/
def codes : Concern → List Code
  | .places => [.absolutePositioning, .relativePositioning, .rapidMove, .linearMove]
  | .filament => [.absolutePositioning, .relativePositioning, .absoluteExtrusion, .relativeExtrusion,
      .rapidMove, .linearMove, .setPosition]
  | .bed => [.setBed, .waitBed]
  | .nozzle => [.setNozzle, .waitNozzle]
  | .fan => [.fanOn, .fanOff]

def hears (concern : Concern) (command : Command) : Bool :=
  command.code.toOption.any fun code => concern.codes.contains code

/-- Two printers that are alike in a group. The filament is moved together with the places, so both modes
belong to what is known of it. -/
def Alike : Concern → MachineState → MachineState → Prop
  | .places, first, second => first.xyzMode = second.xyzMode ∧ first.position = second.position
  | .filament, first, second =>
    first.modes = second.modes ∧ first.e = second.e ∧ first.eMax = second.eMax
  | .bed, first, second => first.bed = second.bed
  | .nozzle, first, second => first.nozzle = second.nozzle
  | .fan, first, second => first.fan = second.fan

theorem Alike.refl (concern : Concern) (state : MachineState) : concern.Alike state state := by
  cases concern <;> simp [Alike]

theorem Alike.trans {concern : Concern} {first second third : MachineState}
    (left : concern.Alike first second) (right : concern.Alike second third) :
    concern.Alike first third := by
  cases concern with
  | places => exact ⟨left.1.trans right.1, left.2.trans right.2⟩
  | filament =>
    exact ⟨left.1.trans right.1, left.2.1.trans right.2.1, left.2.2.trans right.2.2⟩
  | bed | nozzle | fan => exact Eq.trans left right

end Concern

namespace Field

def isPlace (field : Field) : Bool := (Axis.ofLetter? field.letter).isSome

def isFilament (field : Field) : Bool := field.isNamed 'E'

end Field

namespace Command

/-- Changes nothing that is known of a printer: a speed override, a remark, or a command that is known
and ignored. -/
def isIdle (command : Command) : Bool :=
  command.code.toOption.any fun code => [Code.feedRate, .flowRate, .remark, .reportTemperature,
    .powerLossRecovery, .bedLeveling, .home, .disableSteppers].contains code

/-- A command whose fields of some kind are left out, if it is a move. -/
def moveWithout (drop : Field → Bool) (command : Command) : Command :=
  if command.isMove then { command with fields := command.fields.filter (!drop ·) } else command

end Command

/-- The modes behind a command that need not be known. -/
def Modes.behind (modes : Modes) (command : Command) : Modes :=
  command.code.toOption.elim modes modes.follow

/-- Whether every E that a program reads in its moves is a number. -/
def Modes.ReadEveryE (modes : Modes) : List Command → Prop
  | [] => True
  | command :: rest =>
    (command.isMove = true → modes.extruder = .absolute →
      ∀ field ∈ command.fields, field.isFilament = true → (Binary64.ofText? field.text).isSome) ∧
    (modes.behind command).ReadEveryE rest

instance Modes.decidableReadEveryE : (modes : Modes) → (commands : List Command) →
    Decidable (modes.ReadEveryE commands)
  | _, [] => isTrue trivial
  | modes, command :: rest =>
    have := decidableReadEveryE (modes.behind command) rest
    inferInstanceAs (Decidable (_ ∧ _))

namespace MachineState

variable {first second after : MachineState} {concern : Concern} {code : Code} {command : Command}
  {field : Field} {fields : List Field} {inLayer : Bool}
  {policy : OverridePolicy}

/-- A command that moves nothing and declares nothing does the same to whatever is alike. -/
theorem apply_alike (still : code.isMove = false) (undeclared : code ≠ .setPosition)
    (alike : concern.Alike first second)
    (applied : first.apply code command inLayer policy = .ok after) :
    ∃ next, second.apply code command inLayer policy = .ok next ∧ concern.Alike after next := by
  cases code with
  | rapidMove | linearMove => cases still
  | setPosition => exact absurd rfl undeclared
  | setBed | waitBed | setNozzle | waitNozzle | fanOn =>
    obtain ⟨target, read, rfl⟩ := map_eq_ok.mp applied
    refine ⟨_, map_eq_ok.mpr ⟨target, read, rfl⟩, ?_⟩
    cases concern <;> simp_all [Concern.Alike, modes]
  | feedRate | flowRate =>
    simp only [apply, overrideRate] at applied ⊢
    split at applied
    · cases applied
    · rename_i passes
      cases applied
      exact ⟨second, if_neg passes, alike⟩
  | _ =>
    cases applied
    refine ⟨_, rfl, ?_⟩
    cases concern <;> simp_all [Concern.Alike, modes]

theorem move_field_filament (alike : Concern.filament.Alike first second)
    (moved : first.moveField field = .ok after) :
    ∃ next, second.moveField field = .ok next ∧ Concern.filament.Alike after next := by
  obtain ⟨sameModes, sameE, sameMax⟩ := alike
  obtain ⟨extruder, xyz⟩ := Modes.mk.inj sameModes
  unfold moveField at moved ⊢
  rw [← extruder, ← xyz]
  split at moved
  · rename_i named
    rw [if_pos named]
    split at moved
    · cases moved
      exact ⟨_, rfl, rfl, rfl, rfl⟩
    · obtain ⟨e, read, rfl⟩ := map_eq_ok.mp moved
      refine ⟨_, map_eq_ok.mpr ⟨e, read, rfl⟩, sameModes, rfl, ?_⟩
      simp only [extrudeTo, sameMax]
  · rename_i unnamed
    rw [if_neg unnamed]
    split at moved
    · cases moved
      exact ⟨_, rfl, sameModes, sameE, sameMax⟩
    · cases moved
      exact ⟨_, rfl, rfl, sameE, sameMax⟩
    · obtain ⟨number, read, rfl⟩ := map_eq_ok.mp moved
      exact ⟨_, map_eq_ok.mpr ⟨number, read, rfl⟩, rfl, sameE, sameMax⟩

theorem set_position_alike
    (declares : ∀ {left right : MachineState} (number : Binary64), concern.Alike left right →
      concern.Alike
        { left with e := .absolute number, eMax := .absolute (number + first.retractionDepth) }
        { right with e := .absolute number, eMax := .absolute (number + second.retractionDepth) })
    (alike : concern.Alike first second) (set : first.setPosition fields = .ok after) :
    ∃ next, second.setPosition fields = .ok next ∧ concern.Alike after next := by
  have follows : ∀ left right field next, concern.Alike left right →
      setPositionField first.retractionDepth left field = .ok next →
      ∃ other, setPositionField second.retractionDepth right field = .ok other ∧
        concern.Alike next other := by
    intro left right field next alike set
    unfold setPositionField at set ⊢
    split at set
    · cases set
    · rename_i unplaced
      rw [if_neg unplaced]
      split at set
      · rename_i named
        obtain ⟨e, read, rfl⟩ := map_eq_ok.mp set
        rw [if_pos named]
        exact ⟨_, map_eq_ok.mpr ⟨e, read, rfl⟩, declares e alike⟩
      · rename_i unnamed
        cases set
        exact ⟨right, if_neg unnamed, alike⟩
  unfold setPosition at set ⊢
  split at set
  · cases set
  · rename_i fielded
    rw [if_neg fielded]
    have followed := @fold_m_simulates _ _ _ (setPositionField first.retractionDepth)
      (setPositionField second.retractionDepth) concern.Alike some follows _ _ _ _ alike set
    rwa [List.filterMap_some] at followed

theorem retraction_depth_alike (alike : Concern.filament.Alike first second) :
    first.retractionDepth = second.retractionDepth := by
  simp only [retractionDepth, retraction?, alike.2.1, alike.2.2]

theorem step_filament (alike : Concern.filament.Alike first second)
    (stepped : first.step command inLayer policy = .ok after) :
    ∃ next, second.step command inLayer policy = .ok next ∧ Concern.filament.Alike after next := by
  obtain ⟨code, known, applied⟩ := bind_eq_ok.mp stepped
  have whole : ∀ {next}, second.apply code command inLayer policy = .ok next →
      second.step command inLayer policy = .ok next := fun same => bind_eq_ok.mpr ⟨code, known, same⟩
  have follow : ∃ next, second.apply code command inLayer policy = .ok next ∧
      Concern.filament.Alike after next := by
    cases code with
    | rapidMove | linearMove =>
      have moved := @fold_m_simulates _ _ _ moveField moveField Concern.filament.Alike some
        (fun _ _ _ _ together moved => move_field_filament together moved) _ _ _ _ alike applied
      rwa [List.filterMap_some] at moved
    | setPosition =>
      have sameDepth := retraction_depth_alike alike
      exact set_position_alike (fun _ together => ⟨together.1, rfl, by rw [sameDepth]⟩) alike applied
    | _ => exact apply_alike rfl (by decide) alike applied
  obtain ⟨next, same, together⟩ := follow
  exact ⟨next, whole same, together⟩

theorem filament_field_still (named : field.isFilament = true)
    (moved : first.moveField field = .ok after) : Concern.places.Alike after first := by
  rw [moveField, if_pos (show field.isNamed 'E' = true from named)] at moved
  split at moved
  · cases moved
    exact ⟨rfl, rfl⟩
  · obtain ⟨e, -, rfl⟩ := map_eq_ok.mp moved
    exact ⟨rfl, rfl⟩

theorem place_field_still (placed : field.isPlace = true)
    (moved : first.moveField field = .ok after) : Concern.filament.Alike after first := by
  have unnamed : field.isNamed 'E' = false := by
    refine Bool.eq_false_iff.mpr fun named => ?_
    rw [Field.isPlace, show field.letter = [.char 'E'] from eq_of_beq named] at placed
    cases placed
  have keeps := move_field_keeps unnamed moved
  have same : after.standing.modes = first.standing.modes := by rw [move_field_standing moved]
  exact ⟨same, keeps.e, keeps.eMax⟩

theorem move_field_places (alike : Concern.places.Alike first second)
    (reads : second.extruderMode = .absolute → field.isFilament = true →
      (Binary64.ofText? field.text).isSome)
    (moved : first.moveField field = .ok after) :
    ∃ next, second.moveField field = .ok next ∧ Concern.places.Alike after next ∧
      next.extruderMode = second.extruderMode := by
  obtain ⟨xyz, position⟩ := alike
  by_cases named : field.isNamed 'E' = true
  · have still := filament_field_still named moved
    rw [moveField, if_pos named]
    split
    · exact ⟨_, rfl, still.trans ⟨xyz, position⟩, rfl⟩
    · rename_i absolute
      obtain ⟨e, read⟩ := Option.isSome_iff_exists.mp (reads absolute named)
      exact ⟨_, map_eq_ok.mpr ⟨e, Field.value_eq_ok_iff.mpr read, rfl⟩, still.trans ⟨xyz, position⟩, rfl⟩
  · rw [moveField, if_neg named, ← xyz, ← position]
    rw [moveField, if_neg named] at moved
    split at moved
    · cases moved
      exact ⟨second, rfl, ⟨xyz, position⟩, rfl⟩
    · cases moved
      exact ⟨_, rfl, ⟨rfl, rfl⟩, rfl⟩
    · obtain ⟨number, read, rfl⟩ := map_eq_ok.mp moved
      exact ⟨_, map_eq_ok.mpr ⟨number, read, rfl⟩, ⟨rfl, rfl⟩, rfl⟩

theorem move_places (alike : Concern.places.Alike first second)
    (reads : second.extruderMode = .absolute → ∀ field ∈ fields, field.isFilament = true →
      (Binary64.ofText? field.text).isSome)
    (moved : first.move fields = .ok after) :
    ∃ next, second.move fields = .ok next ∧ Concern.places.Alike after next := by
  induction fields generalizing first second with
  | nil =>
    cases moved
    exact ⟨second, rfl, alike⟩
  | cons field fields induction =>
    rw [move, List.foldlM_cons] at moved
    obtain ⟨middle, here, moved⟩ := bind_eq_ok.mp moved
    obtain ⟨next, goes, together, mode⟩ :=
      move_field_places alike (fun absolute => reads absolute field List.mem_cons_self) here
    obtain ⟨last, later, ends⟩ := induction together
      (fun absolute other member => reads (mode ▸ absolute) other (List.mem_cons_of_mem _ member)) moved
    refine ⟨last, ?_, ends⟩
    rw [move, List.foldlM_cons, goes]
    exact later

theorem step_places (alike : Concern.places.Alike first second)
    (reads : command.isMove = true → second.extruderMode = .absolute →
      ∀ field ∈ command.fields, field.isFilament = true → (Binary64.ofText? field.text).isSome)
    (stepped : first.step command inLayer policy = .ok after) :
    ∃ next, second.step command inLayer policy = .ok next ∧ Concern.places.Alike after next := by
  obtain ⟨code, known, applied⟩ := bind_eq_ok.mp stepped
  have follow : ∃ next, second.apply code command inLayer policy = .ok next ∧
      Concern.places.Alike after next := by
    cases code with
    | rapidMove | linearMove => exact move_places alike (reads (Command.is_move_eq known)) applied
    | setPosition => exact set_position_alike (fun _ together => together) alike applied
    | _ => exact apply_alike rfl (by decide) alike applied
  obtain ⟨next, same, together⟩ := follow
  exact ⟨next, bind_eq_ok.mpr ⟨code, known, same⟩, together⟩

theorem set_position_places (set : first.setPosition fields = .ok after) :
    Concern.places.Alike after first := by
  unfold setPosition at set
  split at set
  · cases set
  · have keeps : ∀ current field (_ : List Field) next, Concern.places.Alike current first →
        setPositionField first.retractionDepth current field = .ok next →
        Concern.places.Alike next first := by
      intro current field _ next still set
      refine Concern.Alike.trans ?_ still
      unfold setPositionField at set
      split at set
      · cases set
      · split at set
        · obtain ⟨e, -, rfl⟩ := map_eq_ok.mp set
          exact .refl .places current
        · cases set
          exact .refl .places current
    exact fold_m_preserves (fun current _ => Concern.places.Alike current first) keeps
      (.refl .places first) set

theorem alike_of_standing (placeless : concern ≠ .places) (unfed : concern ≠ .filament)
    (same : after.standing = first.standing) : concern.Alike after first := by
  cases concern with
  | places => exact absurd rfl placeless
  | filament => exact absurd rfl unfed
  | bed =>
    have kept : after.standing.bed = first.standing.bed := by rw [same]
    exact kept
  | nozzle =>
    have kept : after.standing.nozzle = first.standing.nozzle := by rw [same]
    exact kept
  | fan =>
    have kept : after.standing.fan = first.standing.fan := by rw [same]
    exact kept

theorem alike_of_unheard (unheard : concern.hears command = false)
    (stepped : first.step command inLayer policy = .ok after) : concern.Alike after first := by
  obtain ⟨code, known, applied⟩ := bind_eq_ok.mp stepped
  have other : concern.codes.contains code = false := by
    rw [Concern.hears, known] at unheard
    exact unheard
  cases code with
  | rapidMove | linearMove =>
    refine alike_of_standing ?_ ?_ (move_standing applied)
    · rintro rfl
      cases other
    · rintro rfl
      cases other
  | setPosition =>
    by_cases placed : concern = .places
    · subst placed
      exact set_position_places applied
    · refine alike_of_standing placed ?_ (set_position_standing applied)
      rintro rfl
      cases other
  | setBed | waitBed | setNozzle | waitNozzle | fanOn =>
    obtain ⟨target, -, rfl⟩ := map_eq_ok.mp applied
    cases concern <;> first | exact absurd other (by decide) | simp [Concern.Alike, modes]
  | feedRate | flowRate =>
    rw [override_rate_eq_ok applied]
    exact .refl concern first
  | _ =>
    cases applied
    cases concern <;> first | exact absurd other (by decide) | simp [Concern.Alike, modes]

theorem step_of_heard (placeless : concern ≠ .places) (heard : concern.hears command = true)
    (alike : concern.Alike first second) (stepped : first.step command inLayer policy = .ok after) :
    ∃ next, second.step command inLayer policy = .ok next ∧ concern.Alike after next := by
  by_cases fed : concern = .filament
  · subst fed
    exact step_filament alike stepped
  · obtain ⟨code, known, applied⟩ := bind_eq_ok.mp stepped
    have listed : concern.codes.contains code = true := by
      rw [Concern.hears, known] at heard
      exact heard
    have still : code.isMove = false ∧ code ≠ .setPosition := by
      cases concern with
      | places => exact absurd rfl placeless
      | filament => exact absurd rfl fed
      | bed | nozzle | fan => cases code <;> first | exact absurd listed (by decide) | decide
    obtain ⟨next, same, together⟩ := apply_alike still.1 still.2 alike applied
    exact ⟨next, bind_eq_ok.mpr ⟨code, known, same⟩, together⟩

theorem step_of_idle (idle : command.isIdle = true)
    (stepped : first.step command inLayer policy = .ok after) : after = first := by
  obtain ⟨code, known, applied⟩ := bind_eq_ok.mp stepped
  have listed : [Code.feedRate, .flowRate, .remark, .reportTemperature, .powerLossRecovery,
      .bedLeveling, .home, .disableSteppers].contains code = true := by
    rw [Command.isIdle, known] at idle
    exact idle
  cases code with
  | feedRate | flowRate => exact override_rate_eq_ok applied
  | remark | reportTemperature | powerLossRecovery | bedLeveling | home | disableSteppers =>
    cases applied
    rfl
  | _ => exact absurd listed (by decide)

theorem modes_of_step (stepped : first.step command inLayer policy = .ok after) :
    after.modes = first.modes.behind command := by
  obtain ⟨code, known, applied⟩ := bind_eq_ok.mp stepped
  rw [Modes.behind, known]
  exact apply_modes applied

theorem step_of_fields (state : MachineState) (moves : command.isMove = true) (fields : List Field) :
    state.step { command with fields := fields } inLayer policy = state.move fields := by
  have same : Command.code { command with fields := fields } = command.code := rfl
  rw [step, same]
  cases known : command.code with
  | error fault =>
    rw [Command.isMove, known] at moves
    cases moves
  | ok code =>
    rw [Command.is_move_eq known] at moves
    cases code with
    | rapidMove | linearMove => rfl
    | _ => cases moves

theorem read_of_step (stepped : first.step command inLayer policy = .ok after)
    (moves : command.isMove = true) (absolute : first.extruderMode = .absolute) :
    ∀ field ∈ command.fields, field.isFilament = true → (Binary64.ofText? field.text).isSome := by
  intro field member named
  have failure := first.failure_of_step_move inLayer policy moves
  rw [stepped] at failure
  have none : command.fields.find? first.refuses = none := by simpa [failureOf?] using failure.symm
  have passes := List.find?_eq_none.mp none field member
  rw [Field.isFilament] at named
  simp only [refuses_iff, Field.isMalformedCoordinate, Field.isCoordinate, modeOf, named, absolute,
    Bool.true_or, Bool.true_and, if_true, and_true, Option.isNone_iff_eq_none] at passes
  exact Option.isSome_iff_ne_none.mpr passes

section

variable {state final : MachineState} {commands : List Command}

theorem read_of_execute (executed : state.execute inLayer policy commands = .ok final) :
    state.modes.ReadEveryE commands := by
  induction commands generalizing state with
  | nil => trivial
  | cons command rest induction =>
    obtain ⟨next, stepped, executed⟩ := step_of_execute executed
    refine ⟨read_of_step stepped, ?_⟩
    rw [← modes_of_step stepped]
    exact induction executed

theorem execute_heard (placeless : concern ≠ .places)
    (executed : state.execute inLayer policy commands = .ok final) :
    ∃ own, state.execute inLayer policy (commands.filter concern.hears) = .ok own ∧
      concern.Alike final own := by
  have follows : ∀ (first second : MachineState) command next, concern.Alike first second →
      first.step command inLayer policy = .ok next →
      ∃ other, (Option.guard concern.hears command).elim (.ok second)
        (fun command => second.step command inLayer policy) = .ok other ∧ concern.Alike next other := by
    intro first second command next alike stepped
    cases heard : concern.hears command with
    | true =>
      rw [Option.guard_pos heard]
      exact step_of_heard placeless heard alike stepped
    | false =>
      rw [Option.guard_eq_none_iff.mpr heard]
      exact ⟨second, rfl, (alike_of_unheard heard stepped).trans alike⟩
  have followed := fold_m_simulates concern.Alike (Option.guard concern.hears) follows
    (.refl concern state) executed
  rwa [List.filterMap_eq_filter] at followed

theorem execute_placed (alike : Concern.places.Alike state second)
    (reads : second.modes.ReadEveryE (commands.filter Concern.places.hears))
    (executed : state.execute inLayer policy commands = .ok final) :
    ∃ own, second.execute inLayer policy (commands.filter Concern.places.hears) = .ok own ∧
      Concern.places.Alike final own := by
  induction commands generalizing state second with
  | nil =>
    cases executed
    exact ⟨second, rfl, alike⟩
  | cons command rest induction =>
    obtain ⟨next, stepped, executed⟩ := step_of_execute executed
    cases heard : Concern.places.hears command with
    | false =>
      rw [List.filter_cons_of_neg (by simp [heard])] at reads ⊢
      exact induction ((alike_of_unheard heard stepped).trans alike) reads executed
    | true =>
      rw [List.filter_cons_of_pos heard] at reads ⊢
      obtain ⟨readsHere, readsLater⟩ := reads
      obtain ⟨middle, goes, together⟩ := step_places alike readsHere stepped
      rw [← modes_of_step goes] at readsLater
      obtain ⟨own, later, ends⟩ := induction together readsLater executed
      exact ⟨own, bind_eq_ok.mpr ⟨middle, goes, later⟩, ends⟩

/-- A group goes the same way without those fields of a move that leave it alone, if the other fields do
the same to whatever is alike in it. -/
theorem step_without {drop : Field → Bool}
    (dropped : ∀ {first after field}, drop field = true → first.moveField field = .ok after →
      concern.Alike after first)
    (kept : ∀ {first second after field}, drop field = false → concern.Alike first second →
      first.moveField field = .ok after →
      ∃ next, second.moveField field = .ok next ∧ concern.Alike after next)
    (others : command.isMove = false → ∃ next, second.step command inLayer policy = .ok next ∧
      concern.Alike after next)
    (alike : concern.Alike first second) (stepped : first.step command inLayer policy = .ok after) :
    ∃ next, second.step (command.moveWithout drop) inLayer policy = .ok next ∧
      concern.Alike after next := by
  cases moves : command.isMove with
  | false =>
    rw [Command.moveWithout, moves]
    exact others moves
  | true =>
    have follows : ∀ (first second : MachineState) field next, concern.Alike first second →
        first.moveField field = .ok next →
        ∃ other, (Option.guard (!drop ·) field).elim (.ok second) second.moveField = .ok other ∧
          concern.Alike next other := by
      intro first second field next alike moved
      cases leaves : drop field with
      | true =>
        rw [Option.guard_eq_none_iff.mpr (by simp [leaves])]
        exact ⟨second, rfl, (dropped leaves moved).trans alike⟩
      | false =>
        rw [Option.guard_pos (by simp [leaves])]
        exact kept leaves alike moved
    have moved : first.move command.fields = .ok after := (first.step_of_fields moves _).symm.trans stepped
    obtain ⟨next, goes, together⟩ := fold_m_simulates concern.Alike (Option.guard (!drop ·)) follows
      alike moved
    rw [List.filterMap_eq_filter] at goes
    rw [Command.moveWithout, moves, if_pos rfl, step_of_fields second moves]
    exact ⟨next, goes, together⟩

theorem execute_without {drop : Field → Bool}
    (follows : ∀ (first second : MachineState) command after, concern.Alike first second →
      first.step command inLayer policy = .ok after →
      ∃ next, second.step (command.moveWithout drop) inLayer policy = .ok next ∧
        concern.Alike after next)
    (executed : state.execute inLayer policy commands = .ok final) :
    ∃ own, state.execute inLayer policy (commands.map (Command.moveWithout drop)) = .ok own ∧
      concern.Alike final own := by
  have followed := @fold_m_simulates _ _ _ _
    (fun (state : MachineState) (command : Command) => state.step command inLayer policy) concern.Alike
    (some ∘ Command.moveWithout drop) follows _ _ _ _ (.refl concern state) executed
  rwa [List.filterMap_eq_map] at followed

theorem step_without_filament (first second : MachineState) (command : Command) (after : MachineState)
    (alike : Concern.places.Alike first second)
    (stepped : first.step command inLayer policy = .ok after) :
    ∃ next, second.step (command.moveWithout Field.isFilament) inLayer policy = .ok next ∧
      Concern.places.Alike after next := by
  refine step_without filament_field_still (fun other alike moved => ?_) (fun still => ?_) alike stepped
  · obtain ⟨next, goes, together, -⟩ := move_field_places alike
      (fun _ named => absurd named (by simp [other])) moved
    exact ⟨next, goes, together⟩
  · exact step_places alike (fun moves => absurd moves (by simp [still])) stepped

theorem step_without_places (first second : MachineState) (command : Command) (after : MachineState)
    (alike : Concern.filament.Alike first second)
    (stepped : first.step command inLayer policy = .ok after) :
    ∃ next, second.step (command.moveWithout Field.isPlace) inLayer policy = .ok next ∧
      Concern.filament.Alike after next :=
  step_without place_field_still (fun _ => move_field_filament) (fun _ => step_filament alike stepped)
    alike stepped

theorem execute_without_idle (executed : state.execute inLayer policy commands = .ok final) :
    state.execute inLayer policy (commands.filter (!·.isIdle)) = .ok final := by
  have follows : ∀ (first second : MachineState) command next, first = second →
      first.step command inLayer policy = .ok next →
      ∃ other, (Option.guard (!Command.isIdle ·) command).elim (.ok second)
        (fun command => second.step command inLayer policy) = .ok other ∧ next = other := by
    rintro first _ command next rfl stepped
    cases idle : command.isIdle with
    | true =>
      rw [Option.guard_eq_none_iff.mpr (by simp [idle])]
      exact ⟨first, rfl, step_of_idle idle stepped⟩
    | false =>
      rw [Option.guard_pos (by simp [idle])]
      exact ⟨next, stepped, rfl⟩
  obtain ⟨last, followed, rfl⟩ := fold_m_simulates Eq (Option.guard (!Command.isIdle ·)) follows
    (Eq.refl state) executed
  rwa [List.filterMap_eq_filter] at followed

/-- Groups go their own ways. Behind commands that pass, each of filament, bed, nozzle and fan is as it is
behind those commands alone that the group hears. So are the places, exactly if every E is a number that is
read in the moves once the commands for the extruder mode are left out. Moves bring the printer to the same
places without their E, and the filament to the same E without X, Y and Z; and idle commands can be left out
altogether. -/
theorem concerns_go_alone (executed : state.execute inLayer policy commands = .ok final) :
    (∀ concern : Concern, concern ≠ .places →
      ∃ own, state.execute inLayer policy (commands.filter concern.hears) = .ok own ∧
        concern.Alike final own) ∧
    ((∃ own, state.execute inLayer policy (commands.filter Concern.places.hears) = .ok own ∧
      Concern.places.Alike final own) ↔
      state.modes.ReadEveryE (commands.filter Concern.places.hears)) ∧
    (∃ own, state.execute inLayer policy (commands.map (Command.moveWithout Field.isFilament)) = .ok own ∧
      Concern.places.Alike final own) ∧
    (∃ own, state.execute inLayer policy (commands.map (Command.moveWithout Field.isPlace)) = .ok own ∧
      Concern.filament.Alike final own) ∧
    state.execute inLayer policy (commands.filter (!·.isIdle)) = .ok final := by
  refine ⟨fun concern placeless => execute_heard placeless executed, ⟨?_, fun reads => ?_⟩,
    execute_without step_without_filament executed, execute_without step_without_places executed,
    execute_without_idle executed⟩
  · rintro ⟨own, alone, -⟩
    exact read_of_execute alone
  · exact execute_placed (.refl .places state) reads executed

end

def interleavedProgram : List Command := [
  .ofLine (Text.of "M140 S60"), .ofLine (Text.of "G0 X40 Y40 Z0.2"), .ofLine (Text.of "M104 S200"),
  .ofLine (Text.of "G92 E5"), .ofLine (Text.of "G1 X60 E7.5"), .ofLine (Text.of "M83"),
  .ofLine (Text.of "M220 S90"), .ofLine (Text.of "G1 Y55 E2"), .ofLine (Text.of "M106 S128"),
  .ofLine (Text.of "G91"), .ofLine (Text.of "G0 Z1 X0"), .ofLine (Text.of "G90"),
  .ofLine (Text.of "G92 E0"), .ofLine (Text.of "M190 S55"), .ofLine (Text.of "G28"),
  .ofLine (Text.of "M82"), .ofLine (Text.of "G1 Z3 E-3"), .ofLine (Text.of "M104 S0"),
  .ofLine (Text.of "M107")]

theorem interleaved_concerns_go_alone :
    ∃ final, fresh.execute false .reject interleavedProgram = .ok final ∧
      (∀ concern, ∃ own,
        fresh.execute false .reject (interleavedProgram.filter (Concern.hears concern)) = .ok own ∧
          concern.Alike final own) ∧
      final.position = ⟨.relative, .absolute 55, .absolute 3⟩ := by
  have runs : succeedsWith (fun final : MachineState => decide (final.position =
      ⟨.relative, .absolute 55, .absolute 3⟩))
      (fresh.execute false .reject interleavedProgram) = true := by decide +kernel
  obtain ⟨final, executed, places⟩ := exists_of_succeeds_with runs
  have alone := concerns_go_alone executed
  refine ⟨final, executed, fun concern => ?_, of_decide_eq_true places⟩
  by_cases placed : concern = .places
  · subst placed
    exact alone.2.1.mpr (by decide +kernel)
  · exact alone.1 concern placed

theorem places_fail_alone_at_unread_e :
    let commands : List Command := [.ofLine (Text.of "M83"), .ofLine (Text.of "G1 X1 Efoo")]
    (∃ final, fresh.execute false .reject commands = .ok final ∧
      final.position = ⟨.absolute 1, .unknown, .unknown⟩) ∧
    fresh.execute false .reject (commands.filter Concern.places.hears) =
      .error (.malformedField (Text.of "E") (Text.of "foo")) := by
  intro commands
  have runs : succeedsWith (fun final : MachineState => decide (final.position =
      ⟨.absolute 1, .unknown, .unknown⟩)) (fresh.execute false .reject commands) = true := by
    decide +kernel
  obtain ⟨final, executed, place⟩ := exists_of_succeeds_with runs
  exact ⟨⟨final, executed, of_decide_eq_true place⟩, by decide +kernel⟩

end MachineState

end PrintParts
