import PrintParts.Proofs.Machine.Frame

/-!
The two modes of a printer, and what commands do to them. Only four commands touch the modes, and whether a
command can be applied makes no difference to what it does to them.
-/

namespace PrintParts

/-- How a printer takes the numbers of its moves. -/
structure Modes where
  extruder : Mode
  xyz : Mode
  deriving DecidableEq

def MachineState.modes (state : MachineState) : Modes := ⟨state.extruderMode, state.xyzMode⟩

namespace Modes

/-- The modes behind a command. -/
def follow (modes : Modes) : Code → Modes
  | .absolutePositioning => ⟨.absolute, .absolute⟩
  | .relativePositioning => ⟨.relative, .relative⟩
  | .absoluteExtrusion => { modes with extruder := .absolute }
  | .relativeExtrusion => { modes with extruder := .relative }
  | _ => modes

end Modes

namespace MachineState

variable {state after : MachineState}

theorem apply_modes {code : Code} {command : Command} {inLayer : Bool} {policy : OverridePolicy}
    (applied : state.apply code command inLayer policy = .ok after) :
    after.modes = state.modes.follow code := by
  have placed : after.standing = state.standing → after.modes = state.modes := congrArg modes
  cases code with
  | absolutePositioning | relativePositioning | absoluteExtrusion | relativeExtrusion | fanOff |
    remark | reportTemperature | powerLossRecovery | bedLeveling | home | disableSteppers =>
    cases applied
    rfl
  | setBed | waitBed | setNozzle | waitNozzle | fanOn =>
    obtain ⟨target, -, rfl⟩ := map_eq_ok.mp applied
    rfl
  | rapidMove | linearMove => exact placed (move_standing applied)
  | setPosition => exact placed (set_position_standing applied)
  | feedRate => exact congrArg modes (override_rate_eq_ok applied)
  | flowRate => exact congrArg modes (override_rate_eq_ok applied)

end MachineState

end PrintParts
