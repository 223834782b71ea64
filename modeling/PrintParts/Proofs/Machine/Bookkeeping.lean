import PrintParts.Proofs.Machine.Extrusion
import PrintParts.Proofs.Number.Monotone

/-!
What holds of E and of the temperatures in every state that commands can lead to. E and the furthest E are
known, unknown or of no use together, and a temperature is known as soon as a first one is. As long as every
E that was read is finite, the furthest E is not behind E: sums and differences are rounded and may leave
the range of the numbers, but rounding keeps their order.
-/

namespace PrintParts

namespace MachineState

/-- The E that a command reads: each E field of a move in absolute mode, and of a declaration. -/
def readsE (state : MachineState) (command : Command) : List Binary64 :=
  if (command.isMove = true ∧ state.extruderMode = .absolute) ∨
      command.code.toOption = some .setPosition then
    (command.fields.filter (·.isNamed 'E')).filterMap (·.value.toOption)
  else []

/-- The states that commands lead to from power-on, each of them inside a layer or outside and under any
policy, with all E that were read on the way. -/
inductive Reached : MachineState → List Binary64 → Prop
  | fresh : Reached .fresh []
  | step {state after : MachineState} {reads : List Binary64} {command : Command} {inLayer : Bool}
    {policy : OverridePolicy} (reached : Reached state reads)
    (stepped : state.step command inLayer policy = .ok after) :
    Reached after (reads ++ state.readsE command)

/-- The E that are read along a run, up to a command that fails. -/
def readsAlong (inLayer : Bool) (policy : OverridePolicy) : MachineState → List Command → List Binary64
  | _, [] => []
  | state, command :: rest =>
    match state.step command inLayer policy with
    | .ok after => state.readsE command ++ after.readsAlong inLayer policy rest
    | .error _ => []

variable {state after : MachineState} {command : Command} {field : Field} {fields : List Field}
  {inLayer : Bool} {policy : OverridePolicy} {reads : List Binary64}

theorem reached_of_run {commands : List Command} (reached : Reached state reads)
    (run : commands.foldlM (fun state command => state.step command inLayer policy) state = .ok after) :
    Reached after (reads ++ state.readsAlong inLayer policy commands) := by
  induction commands generalizing state reads with
  | nil =>
    cases run
    rw [readsAlong, List.append_nil]
    exact reached
  | cons command rest induction =>
    obtain ⟨next, stepped, run⟩ := bind_eq_ok.mp run
    have stepped : state.step command inLayer policy = .ok next := stepped
    rw [readsAlong, stepped, ← List.append_assoc]
    exact induction (reached.step stepped) run

/-- A relation of E and the furthest E that commands keep, as long as each E that they read is good. -/
structure KeptWith (good : Binary64 → Prop) (holds : AxisValue → AxisValue → Prop) : Prop where
  unknown : holds .unknown .unknown
  relative : holds .relative .relative
  extruded : ∀ (state : MachineState) (e : Binary64), holds state.e state.eMax → good e →
    holds (.absolute e) (state.extrudeTo e).eMax
  declared : ∀ (state : MachineState) (e : Binary64), holds state.e state.eMax → good e →
    holds (.absolute e) (.absolute (e + state.retractionDepth))

namespace KeptWith

variable {good : Binary64 → Prop} {holds : AxisValue → AxisValue → Prop} (kept : KeptWith good holds)

include kept

theorem move_field (before : holds state.e state.eMax)
    (reads : state.extruderMode = .absolute → field.isNamed 'E' = true →
      ∀ e, field.value = .ok e → good e)
    (moved : state.moveField field = .ok after) : holds after.e after.eMax := by
  cases named : field.isNamed 'E' with
  | false =>
    have keeps := move_field_keeps named moved
    rwa [keeps.e, keeps.eMax]
  | true =>
    simp only [moveField, named, if_true] at moved
    split at moved
    · cases moved
      exact kept.relative
    · rename_i absolute
      obtain ⟨e, read, rfl⟩ := map_eq_ok.mp moved
      exact kept.extruded state e before (reads absolute named e read)

theorem move (before : holds state.e state.eMax)
    (reads : state.extruderMode = .absolute → ∀ field ∈ fields, field.isNamed 'E' = true →
      ∀ e, field.value = .ok e → good e)
    (moved : state.move fields = .ok after) : holds after.e after.eMax := by
  have step : ∀ (current : MachineState) field rest next,
      holds current.e current.eMax ∧ (current.extruderMode = .absolute →
        ∀ other ∈ field :: rest, other.isNamed 'E' = true → ∀ e, other.value = .ok e → good e) →
      current.moveField field = .ok next →
      holds next.e next.eMax ∧ (next.extruderMode = .absolute →
        ∀ other ∈ rest, other.isNamed 'E' = true → ∀ e, other.value = .ok e → good e) := by
    rintro current field rest next ⟨before, reads⟩ moved
    have same := move_field_standing moved
    have mode : next.standing.extruderMode = current.standing.extruderMode := by rw [same]
    have mode : next.extruderMode = current.extruderMode := mode
    refine ⟨kept.move_field before (fun absolute => reads absolute field List.mem_cons_self) moved, ?_⟩
    rw [mode]
    exact fun absolute other member => reads absolute other (List.mem_cons_of_mem _ member)
  exact (fold_m_preserves (fun (current : MachineState) rest =>
    holds current.e current.eMax ∧ (current.extruderMode = .absolute →
      ∀ other ∈ rest, other.isNamed 'E' = true → ∀ e, other.value = .ok e → good e))
    step ⟨before, reads⟩ moved).1

theorem set_position (before : holds state.e state.eMax)
    (reads : ∀ field ∈ fields, field.isNamed 'E' = true → ∀ e, field.value = .ok e → good e)
    (set : state.setPosition fields = .ok after) : holds after.e after.eMax := by
  have step : ∀ (current : MachineState) field rest next,
      holds current.e current.eMax ∧
        (∀ other ∈ field :: rest, other.isNamed 'E' = true → ∀ e, other.value = .ok e → good e) →
      setPositionField state.retractionDepth current field = .ok next →
      holds next.e next.eMax ∧
        ∀ other ∈ rest, other.isNamed 'E' = true → ∀ e, other.value = .ok e → good e := by
    rintro current field rest next ⟨here, reads⟩ set
    obtain ⟨reads, later⟩ := List.forall_mem_cons.mp reads
    refine ⟨?_, later⟩
    cases named : field.isNamed 'E' with
    | false =>
      have keeps := set_position_field_keeps named set
      rwa [keeps.e, keeps.eMax]
    | true =>
      simp only [setPositionField, named, if_true] at set
      split at set
      · cases set
      · obtain ⟨e, read, rfl⟩ := map_eq_ok.mp set
        exact kept.declared state e before (reads named e read)
  unfold setPosition at set
  split at set
  · cases set
  · exact (fold_m_preserves (fun (current : MachineState) rest => holds current.e current.eMax ∧
      ∀ other ∈ rest, other.isNamed 'E' = true → ∀ e, other.value = .ok e → good e)
      step ⟨before, reads⟩ set).1

theorem step (before : holds state.e state.eMax) (reads : ∀ e ∈ state.readsE command, good e)
    (stepped : state.step command inLayer policy = .ok after) : holds after.e after.eMax := by
  obtain ⟨code, known, applied⟩ := bind_eq_ok.mp stepped
  have read : ((command.isMove = true ∧ state.extruderMode = .absolute) ∨
      command.code.toOption = some .setPosition) → ∀ field ∈ command.fields,
      field.isNamed 'E' = true → ∀ e, field.value = .ok e → good e := by
    intro looks field member named e value
    apply reads
    rw [readsE, if_pos looks]
    exact List.mem_filterMap.mpr ⟨field, List.mem_filter.mpr ⟨member, named⟩, by rw [value]; rfl⟩
  have unmoved : after.e = state.e → after.eMax = state.eMax → holds after.e after.eMax := by
    intro e eMax
    rwa [e, eMax]
  cases code with
  | rapidMove | linearMove =>
    exact kept.move before (fun absolute => read (.inl ⟨Command.is_move_eq known, absolute⟩)) applied
  | setPosition => exact kept.set_position before (read (.inr (by rw [known]; rfl))) applied
  | setBed | waitBed | setNozzle | waitNozzle | fanOn =>
    obtain ⟨target, -, rfl⟩ := map_eq_ok.mp applied
    exact before
  | feedRate | flowRate =>
    rw [override_rate_eq_ok applied]
    exact before
  | _ =>
    cases applied
    exact before

theorem reached (reached : Reached state reads) (goods : ∀ e ∈ reads, good e) :
    holds state.e state.eMax := by
  induction reached with
  | fresh => exact kept.unknown
  | step _ stepped induction =>
    obtain ⟨earlier, now⟩ := List.forall_mem_append.mp goods
    exact kept.step (induction earlier) now stepped

end KeptWith

inductive KnownAlike : AxisValue → AxisValue → Prop
  | unknown : KnownAlike .unknown .unknown
  | relative : KnownAlike .relative .relative
  | absolute (e eMax : Binary64) : KnownAlike (.absolute e) (.absolute eMax)

theorem known_alike_kept : KeptWith (fun _ => True) KnownAlike where
  unknown := .unknown
  relative := .relative
  extruded state e _ _ := by
    obtain ⟨eMax, known⟩ := e_max_of_extrude state e
    rw [known]
    exact .absolute e eMax
  declared state e _ _ := .absolute e _

/-- E, if it is known, is finite and not beyond the furthest E. -/
inductive PulledBack : AxisValue → AxisValue → Prop
  | unknown : PulledBack .unknown .unknown
  | relative : PulledBack .relative .relative
  | absolute {e eMax : Binary64} (isFinite : e.isFinite = true) (behind : e ≤ eMax) :
    PulledBack (.absolute e) (.absolute eMax)

theorem PulledBack.retraction (pulled : PulledBack state.e state.eMax) {depth : Binary64}
    (known : state.retraction? = some depth) : 0 ≤ depth := by
  unfold retraction? at known
  split at known
  · rename_i e eMax isE isMax
    rw [isE, isMax] at pulled
    cases known
    cases pulled with
    | absolute isFinite behind => exact Binary64.sub_nonneg isFinite behind
  · cases known

theorem PulledBack.retraction_depth (pulled : PulledBack state.e state.eMax) :
    0 ≤ state.retractionDepth := by
  have nothing : (0 : Binary64) ≤ .zero false := by decide +kernel
  unfold retractionDepth
  split
  · rename_i depth known
    split
    · exact nothing
    · exact pulled.retraction known
  · exact nothing

theorem pulled_back_kept : KeptWith (fun e => e.isFinite = true) PulledBack where
  unknown := .unknown
  relative := .relative
  extruded state e pulled isFinite := by
    have same := Binary64.le_refl_of_number (Binary64.number_of_finite isFinite)
    simp only [extrudeTo]
    split
    · rename_i furthest isMax
      rw [isMax] at pulled
      split
      · exact .absolute isFinite same
      · rename_i notBeyond
        generalize before : state.e = earlier at pulled
        cases pulled with
        | absolute _ behind =>
          exact .absolute isFinite (Binary64.le_of_not_lt (Binary64.number_of_finite isFinite)
            (Binary64.numbers_of_le behind).2 notBeyond)
    · exact .absolute isFinite same
  declared state e pulled isFinite :=
    .absolute isFinite (Binary64.le_add_of_nonneg isFinite pulled.retraction_depth)

/-- What is known is known together: of E and the furthest E, and of the two temperatures of each heater. -/
structure Booked (state : MachineState) : Prop where
  e : KnownAlike state.e state.eMax
  bed : state.bed.current = none ↔ state.bed.initial = none
  nozzle : state.nozzle.current = none ↔ state.nozzle.initial = none

theorem heaters_of_step (bed : state.bed.current = none ↔ state.bed.initial = none)
    (nozzle : state.nozzle.current = none ↔ state.nozzle.initial = none)
    (stepped : state.step command inLayer policy = .ok after) :
    (after.bed.current = none ↔ after.bed.initial = none) ∧
      (after.nozzle.current = none ↔ after.nozzle.initial = none) := by
  obtain ⟨code, -, applied⟩ := bind_eq_ok.mp stepped
  have untouched : after.standing = state.standing →
      (after.bed.current = none ↔ after.bed.initial = none) ∧
        (after.nozzle.current = none ↔ after.nozzle.initial = none) := by
    intro same
    have known : (state.standing.bed.current = none ↔ state.standing.bed.initial = none) ∧
        (state.standing.nozzle.current = none ↔ state.standing.nozzle.initial = none) := ⟨bed, nozzle⟩
    rwa [← same] at known
  cases code with
  | setBed | waitBed =>
    obtain ⟨target, -, rfl⟩ := map_eq_ok.mp applied
    exact ⟨⟨nofun, nofun⟩, nozzle⟩
  | setNozzle | waitNozzle =>
    obtain ⟨target, -, rfl⟩ := map_eq_ok.mp applied
    exact ⟨bed, nofun, nofun⟩
  | fanOn =>
    obtain ⟨target, -, rfl⟩ := map_eq_ok.mp applied
    exact ⟨bed, nozzle⟩
  | rapidMove | linearMove => exact untouched (move_standing applied)
  | setPosition => exact untouched (set_position_standing applied)
  | feedRate | flowRate => exact untouched (congrArg standing (override_rate_eq_ok applied))
  | _ =>
    cases applied
    exact ⟨bed, nozzle⟩

theorem booked_of_reached (reached : Reached state reads) : state.Booked := by
  have heaters : (state.bed.current = none ↔ state.bed.initial = none) ∧
      (state.nozzle.current = none ↔ state.nozzle.initial = none) := by
    induction reached with
    | fresh => exact ⟨Iff.rfl, Iff.rfl⟩
    | step _ stepped induction => exact heaters_of_step induction.1 induction.2 stepped
  exact ⟨known_alike_kept.reached reached fun _ _ => trivial, heaters.1, heaters.2⟩

theorem Booked.retraction (booked : state.Booked) {e : Binary64} (known : state.e = .absolute e) :
    ∃ depth, state.retraction? = some depth := by
  have together := booked.e
  rw [known] at together
  generalize furthest : state.eMax = eMax at together
  cases together with
  | absolute e eMax => exact ⟨eMax - e, by rw [retraction?, known, furthest]⟩

end MachineState

end PrintParts
