import PrintParts.Gcode.Command
import PrintParts.Machine.Code
import PrintParts.Machine.State

/-!
What a command does to the state of a printer. A command either has its full effect or is a fault
that leaves the state alone.
-/

namespace PrintParts

inductive OverridePolicy where
  | reject
  | ignore
  deriving DecidableEq

def OverridePolicy.label : OverridePolicy → String
  | .reject => "reject"
  | .ignore => "ignore"

def Command.target (command : Command) : Except Fault Binary64 :=
  match command.field? 'S' with
  | some field => field.value
  | none => .error (.valueMissing command.mnemonic)

def Command.code (command : Command) : Except Fault Code :=
  match Code.ofMnemonic? command.mnemonic with
  | some code => .ok code
  | none => .error (.unknownCommand command.mnemonic)

namespace MachineState

/-- The filament goes to `e` in absolute mode. -/
def extrudeTo (state : MachineState) (e : Binary64) : MachineState :=
  let eMax := match state.eMax with
    | .absolute furthest => if furthest < e then .absolute e else .absolute furthest
    | _ => .absolute e
  { state with e := .absolute e, eMax := eMax }

/-- One field of a move. The number of a relative coordinate is of no use and is not read. -/
def moveField (state : MachineState) (field : Field) : Except Fault MachineState :=
  if field.isNamed 'E' then
    match state.extruderMode with
    | .relative => .ok { state with e := .relative, eMax := .relative }
    | .absolute => field.value.map state.extrudeTo
  else
    match Axis.ofLetter? field.letter, state.xyzMode with
    | none, _ => .ok state
    | some axis, .relative => .ok { state with position := state.position.set axis .relative }
    | some axis, .absolute =>
      field.value.map fun number =>
        { state with position := state.position.set axis (.absolute number) }

def move (state : MachineState) (fields : List Field) : Except Fault MachineState :=
  fields.foldlM moveField state

/-- One field of a command that redefines positions. The retraction is the one before the
command: the filament does not move, so its depth stays. -/
def setPositionField (retraction : Binary64) (state : MachineState) (field : Field) :
    Except Fault MachineState :=
  if (Axis.ofLetter? field.letter).isSome then .error (.setPositionOf field.letter)
  else if field.isNamed 'E' then
    field.value.map fun number =>
      { state with e := .absolute number, eMax := .absolute (number + retraction) }
  else .ok state

/-- Retraction depth with nothing known or nothing retracted counting as zero. -/
def retractionDepth (state : MachineState) : Binary64 :=
  match state.retraction? with
  | some depth => if depth.isZero then .zero false else depth
  | none => .zero false

def setPosition (state : MachineState) (fields : List Field) : Except Fault MachineState :=
  if fields = [] then .error .bareSetPosition
  else fields.foldlM (setPositionField state.retractionDepth) state

/-- A speed override changes nothing that is tracked, and is refused inside a layer unless the
policy lets it pass. -/
def overrideRate (state : MachineState) (rate : Rate) (mnemonic : Text) (inLayer : Bool)
    (policy : OverridePolicy) : Except Fault MachineState :=
  if inLayer ∧ policy = .reject then .error (.rateOverride rate mnemonic) else .ok state

def apply (state : MachineState) (code : Code) (command : Command) (inLayer : Bool)
    (policy : OverridePolicy) : Except Fault MachineState :=
  match code with
  | .absolutePositioning => .ok { state with extruderMode := .absolute, xyzMode := .absolute }
  | .relativePositioning => .ok { state with extruderMode := .relative, xyzMode := .relative }
  | .absoluteExtrusion => .ok { state with extruderMode := .absolute }
  | .relativeExtrusion => .ok { state with extruderMode := .relative }
  | .setBed | .waitBed => command.target.map fun target => { state with bed := state.bed.set target }
  | .setNozzle | .waitNozzle =>
    command.target.map fun target => { state with nozzle := state.nozzle.set target }
  | .fanOff => .ok { state with fan := some .off }
  | .fanOn => command.target.map fun duty => { state with fan := some (.duty duty) }
  | .rapidMove | .linearMove => state.move command.fields
  | .setPosition => state.setPosition command.fields
  | .feedRate => state.overrideRate .feed command.mnemonic inLayer policy
  | .flowRate => state.overrideRate .flow command.mnemonic inLayer policy
  | .remark | .reportTemperature | .powerLossRecovery | .bedLeveling | .home | .disableSteppers =>
    .ok state

def step (state : MachineState) (command : Command) (inLayer : Bool) (policy : OverridePolicy) :
    Except Fault MachineState := do
  let code ← command.code
  state.apply code command inLayer policy

end MachineState

end PrintParts
