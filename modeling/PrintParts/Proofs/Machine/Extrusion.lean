import PrintParts.Proofs.Machine.Frame

/-!
What a command does to E. Only moves and declarations of positions look at it, and of their fields only the
one that names it. A move in absolute mode brings E to a new number, and a declaration calls it by another
one; both tell the furthest E as well.
-/

namespace PrintParts

namespace Command

def movesE (command : Command) : Bool :=
  command.isMove && command.hasField 'E'

def declaresE (command : Command) : Bool :=
  command.code.toOption == some .setPosition && command.hasField 'E'

def namesE (command : Command) : Bool := command.movesE || command.declaresE

end Command

namespace MachineState

variable {state after : MachineState} {field : Field} {fields : List Field} {command : Command}
  {inLayer : Bool} {policy : OverridePolicy}

/-- What a step leaves alone of the filament. -/
structure KeepsE (state after : MachineState) : Prop where
  e : after.e = state.e
  eMax : after.eMax = state.eMax
  mode : after.extruderMode = state.extruderMode

theorem KeepsE.refl (state : MachineState) : KeepsE state state := ⟨rfl, rfl, rfl⟩

theorem KeepsE.trans {middle : MachineState} (first : KeepsE state middle)
    (second : KeepsE middle after) : KeepsE state after :=
  ⟨second.e.trans first.e, second.eMax.trans first.eMax, second.mode.trans first.mode⟩

theorem move_field_keeps (other : field.isNamed 'E' = false)
    (moved : state.moveField field = .ok after) : KeepsE state after := by
  simp only [moveField, other, Bool.false_eq_true, if_false] at moved
  split at moved
  · cases moved
    exact .refl state
  · cases moved
    exact ⟨rfl, rfl, rfl⟩
  · obtain ⟨number, -, rfl⟩ := map_eq_ok.mp moved
    exact ⟨rfl, rfl, rfl⟩

theorem set_position_field_keeps {retraction : Binary64} (other : field.isNamed 'E' = false)
    (set : setPositionField retraction state field = .ok after) : KeepsE state after := by
  simp only [setPositionField, other, Bool.false_eq_true, if_false] at set
  split at set
  · cases set
  · cases set
    exact .refl state

section

/-! Going through the fields of a command one by one, where a field of another name leaves E alone. -/

variable {step : MachineState → Field → Except Fault MachineState}
  (keeps : ∀ {state field after}, field.isNamed 'E' = false → step state field = .ok after →
    KeepsE state after)

include keeps

theorem fold_keeps (others : ∀ field ∈ fields, field.isNamed 'E' = false)
    (folded : fields.foldlM step state = .ok after) : KeepsE state after := by
  have step : ∀ current field rest next,
      KeepsE state current ∧ (∀ other ∈ field :: rest, other.isNamed 'E' = false) →
      step current field = .ok next →
      KeepsE state next ∧ ∀ other ∈ rest, other.isNamed 'E' = false := by
    rintro current field rest next ⟨kept, others⟩ stepped
    obtain ⟨other, others⟩ := List.forall_mem_cons.mp others
    exact ⟨kept.trans (keeps other stepped), others⟩
  exact (fold_m_preserves (fun current rest =>
    KeepsE state current ∧ ∀ other ∈ rest, other.isNamed 'E' = false) step
    ⟨.refl state, others⟩ folded).1

theorem fold_sole (found : fields.find? (·.isNamed 'E') = some field)
    (once : fields.countP (·.isNamed 'E') ≤ 1) (folded : fields.foldlM step state = .ok after) :
    field.isNamed 'E' = true ∧
      ∃ before next, KeepsE state before ∧ step before field = .ok next ∧ KeepsE next after := by
  obtain ⟨named, front, behind, rfl, others⟩ := List.find?_eq_some_iff_append.mp found
  have noneBehind : behind.countP (·.isNamed 'E') = 0 := by
    simp only [List.countP_append, List.countP_cons, named, if_true] at once
    omega
  rw [List.foldlM_append] at folded
  obtain ⟨before, first, folded⟩ := bind_eq_ok.mp folded
  rw [List.foldlM_cons] at folded
  obtain ⟨next, sole, folded⟩ := bind_eq_ok.mp folded
  refine ⟨named, before, next, fold_keeps keeps (fun other member => ?_) first, sole,
    fold_keeps keeps (fun other member => ?_) folded⟩
  · simpa using others other member
  · simpa using List.countP_eq_zero.mp noneBehind other member

end

theorem e_max_of_extrude (state : MachineState) (e : Binary64) :
    ∃ eMax, (state.extrudeTo e).eMax = .absolute eMax := by
  simp only [extrudeTo]
  split
  · split <;> exact ⟨_, rfl⟩
  · exact ⟨e, rfl⟩

theorem e_of_move (absolute : state.extruderMode = .absolute)
    (found : fields.find? (·.isNamed 'E') = some field) (once : fields.countP (·.isNamed 'E') ≤ 1)
    (moved : state.move fields = .ok after) : ∃ e, field.value = .ok e ∧
      after.e = .absolute e ∧ after.eMax = (state.extrudeTo e).eMax := by
  obtain ⟨named, before, next, upTo, sole, since⟩ := fold_sole move_field_keeps found once moved
  simp only [moveField, named, if_true, upTo.mode, absolute] at sole
  obtain ⟨e, read, rfl⟩ := map_eq_ok.mp sole
  refine ⟨e, read, since.e, since.eMax.trans ?_⟩
  simp only [extrudeTo, upTo.eMax]

theorem e_of_set_position (found : fields.find? (·.isNamed 'E') = some field)
    (once : fields.countP (·.isNamed 'E') ≤ 1) (set : state.setPosition fields = .ok after) :
    ∃ e, field.value = .ok e ∧
      after.e = .absolute e ∧ after.eMax = .absolute (e + state.retractionDepth) := by
  unfold setPosition at set
  split at set
  · cases set
  · obtain ⟨named, before, next, -, sole, since⟩ := fold_sole set_position_field_keeps found once set
    have place : Axis.ofLetter? field.letter = none := by
      rw [show field.letter = [.char 'E'] from eq_of_beq named]
      decide
    simp only [setPositionField, place, named, Option.isSome_none, Bool.false_eq_true, if_false,
      if_true] at sole
    obtain ⟨e, read, rfl⟩ := map_eq_ok.mp sole
    exact ⟨e, read, since.e, since.eMax⟩

theorem none_named (without : command.hasField 'E' = false) :
    ∀ field ∈ command.fields, field.isNamed 'E' = false := by
  intro field member
  have missing := Option.isSome_eq_false_iff.mp without
  simpa using List.find?_eq_none.mp (Option.isNone_iff_eq_none.mp missing) field member

theorem keeps_of_step (silent : command.namesE = false)
    (stepped : state.step command inLayer policy = .ok after) :
    after.e = state.e ∧ after.eMax = state.eMax := by
  obtain ⟨code, known, applied⟩ := bind_eq_ok.mp stepped
  simp only [Command.namesE, Command.movesE, Command.declaresE, Command.is_move_eq known, known,
    Except.toOption, Bool.or_eq_false_iff, Bool.and_eq_false_imp] at silent
  cases code with
  | rapidMove | linearMove =>
    have kept := fold_keeps move_field_keeps (none_named (silent.1 rfl)) applied
    exact ⟨kept.e, kept.eMax⟩
  | setPosition =>
    simp only [apply, setPosition] at applied
    split at applied
    · cases applied
    · have kept := fold_keeps set_position_field_keeps (none_named (silent.2 rfl)) applied
      exact ⟨kept.e, kept.eMax⟩
  | setBed | waitBed | setNozzle | waitNozzle | fanOn =>
    obtain ⟨target, -, rfl⟩ := map_eq_ok.mp applied
    exact ⟨rfl, rfl⟩
  | feedRate | flowRate =>
    rw [override_rate_eq_ok applied]
    exact ⟨rfl, rfl⟩
  | _ =>
    cases applied
    exact ⟨rfl, rfl⟩

end MachineState

end PrintParts
