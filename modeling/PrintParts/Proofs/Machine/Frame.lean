import PrintParts.Machine.Step
import PrintParts.Proofs.Outcome

/-!
What a command leaves alone. Moving and declaring positions concern nothing but the places of a printer,
and its nozzle is heated only by the commands for that, so the temperature that was asked for first
stays the first.
-/

namespace PrintParts

def AxisValue.number? : AxisValue → Option Binary64
  | .absolute number => some number
  | _ => none

def Command.isMove (command : Command) : Bool := command.code.toOption.any Code.isMove

theorem Command.is_move_eq {command : Command} {code : Code} (known : command.code = .ok code) :
    command.isMove = code.isMove := by
  rw [isMove, known]
  rfl

namespace MachineState

variable {state after : MachineState} {inLayer : Bool} {policy : OverridePolicy}

/-- All that is known of a printer besides its places. -/
def standing (state : MachineState) : MachineState :=
  { state with position := .unknown, e := .unknown, eMax := .unknown }

theorem move_field_standing {field : Field} (moved : state.moveField field = .ok after) :
    after.standing = state.standing := by
  unfold moveField at moved
  split at moved
  · split at moved
    · cases moved
      rfl
    · obtain ⟨number, -, rfl⟩ := map_eq_ok.mp moved
      rfl
  · split at moved
    · cases moved
      rfl
    · cases moved
      rfl
    · obtain ⟨number, -, rfl⟩ := map_eq_ok.mp moved
      rfl

theorem set_position_field_standing {retraction : Binary64} {field : Field}
    (set : setPositionField retraction state field = .ok after) :
    after.standing = state.standing := by
  unfold setPositionField at set
  split at set
  · cases set
  · split at set
    · obtain ⟨number, -, rfl⟩ := map_eq_ok.mp set
      rfl
    · cases set
      rfl

theorem fold_standing {step : MachineState → Field → Except Fault MachineState}
    (keeps : ∀ state field next, step state field = .ok next → next.standing = state.standing)
    {fields : List Field} (folded : fields.foldlM step state = .ok after) :
    after.standing = state.standing :=
  fold_m_preserves (fun next _ => next.standing = state.standing)
    (fun current field _ next same stepped => (keeps current field next stepped).trans same)
    rfl folded

theorem move_standing {fields : List Field} (moved : state.move fields = .ok after) :
    after.standing = state.standing :=
  fold_standing (fun _ _ _ => move_field_standing) moved

theorem set_position_standing {fields : List Field} (set : state.setPosition fields = .ok after) :
    after.standing = state.standing := by
  unfold setPosition at set
  split at set
  · cases set
  · exact fold_standing (fun _ _ _ => set_position_field_standing) set

theorem move_of_apply {code : Code} {command : Command} (moves : code.isMove = true)
    (applied : state.apply code command inLayer policy = .ok after) :
    state.move command.fields = .ok after := by
  cases code with
  | rapidMove | linearMove => exact applied
  | _ => cases moves

theorem override_rate_eq_ok {rate : Rate} {mnemonic : Text}
    (passed : state.overrideRate rate mnemonic inLayer policy = .ok after) : after = state := by
  unfold overrideRate at passed
  split at passed
  · cases passed
  · cases passed
    rfl

theorem apply_nozzle {code : Code} {command : Command}
    (applied : state.apply code command inLayer policy = .ok after) :
    (code ∈ [Code.setNozzle, .waitNozzle] ∧
      ∃ target, command.target = .ok target ∧ after.nozzle = state.nozzle.set target) ∨
    (code ∉ [Code.setNozzle, .waitNozzle] ∧ after.nozzle = state.nozzle) := by
  have placed : after.standing = state.standing → after.nozzle = state.nozzle := congrArg nozzle
  cases code with
  | absolutePositioning | relativePositioning | absoluteExtrusion | relativeExtrusion | fanOff |
    remark | reportTemperature | powerLossRecovery | bedLeveling | home | disableSteppers =>
    cases applied
    exact .inr ⟨by decide, rfl⟩
  | setBed | waitBed | fanOn =>
    obtain ⟨target, -, rfl⟩ := map_eq_ok.mp applied
    exact .inr ⟨by decide, rfl⟩
  | setNozzle | waitNozzle =>
    obtain ⟨target, asked, rfl⟩ := map_eq_ok.mp applied
    exact .inl ⟨by decide, target, asked, rfl⟩
  | rapidMove | linearMove => exact .inr ⟨by decide, placed (move_standing applied)⟩
  | setPosition => exact .inr ⟨by decide, placed (set_position_standing applied)⟩
  | feedRate => exact .inr ⟨by decide, congrArg nozzle (override_rate_eq_ok applied)⟩
  | flowRate => exact .inr ⟨by decide, congrArg nozzle (override_rate_eq_ok applied)⟩

theorem step_keeps_first_nozzle {command : Command} {target : Binary64}
    (first : state.nozzle.initial = some target)
    (stepped : state.step command inLayer policy = .ok after) :
    after.nozzle.initial = some target := by
  obtain ⟨code, -, applied⟩ := bind_eq_ok.mp stepped
  rcases apply_nozzle applied with ⟨-, other, -, heated⟩ | ⟨-, same⟩
  · rw [heated, Heater.set, first, Option.getD_some]
  · rw [same, first]

end MachineState

end PrintParts
