import PrintParts.Failure

/-!
The logical state of a printer, as far as its program reveals it. A coordinate that was moved
relatively is as useless for resuming as one that was never set, but the two are told apart.
-/

namespace PrintParts

inductive Mode where
  | absolute
  | relative
  deriving DecidableEq

/-- A coordinate: never set, moved relatively, or known. -/
inductive AxisValue where
  | unknown
  | relative
  | absolute (number : Binary64)
  deriving DecidableEq

inductive Axis where
  | x
  | y
  | z
  deriving DecidableEq

structure Position where
  x : AxisValue
  y : AxisValue
  z : AxisValue
  deriving DecidableEq

/-- The fan of the print: off, or on with a duty. -/
inductive Fan where
  | off
  | duty (value : Binary64)
  deriving DecidableEq

/-- A heated element: the temperature asked for last and the one asked for first. -/
structure Heater where
  current : Option Binary64
  initial : Option Binary64
  deriving DecidableEq

/-- What is known of a printer between two commands. `eMax` is the furthest that the filament was
pushed in absolute mode, in the coordinates of `e`. -/
structure MachineState where
  extruderMode : Mode
  xyzMode : Mode
  position : Position
  e : AxisValue
  eMax : AxisValue
  bed : Heater
  nozzle : Heater
  fan : Option Fan
  deriving DecidableEq

namespace AxisValue

def isAbsolute : AxisValue → Bool
  | .absolute _ => true
  | _ => false

def require (value : AxisValue) (what : Text) : Except Fault Binary64 :=
  match value with
  | .absolute number => .ok number
  | .relative => .error (.positionRelative what)
  | .unknown => .error (.positionUnknown what)

theorem require_eq_ok_iff {value : AxisValue} {what : Text} {number : Binary64} :
    value.require what = .ok number ↔ value = .absolute number := by
  cases value <;> simp [require]

def toText : AxisValue → Text
  | .absolute number => number.toText
  | .relative => Text.of "relative"
  | .unknown => Text.of "unknown"

end AxisValue

def Axis.ofLetter? (letter : Text) : Option Axis :=
  if letter = [.char 'X'] then some .x
  else if letter = [.char 'Y'] then some .y
  else if letter = [.char 'Z'] then some .z
  else none

namespace Position

def unknown : Position := ⟨.unknown, .unknown, .unknown⟩

def get (position : Position) : Axis → AxisValue
  | .x => position.x
  | .y => position.y
  | .z => position.z

def set (position : Position) (axis : Axis) (value : AxisValue) : Position :=
  match axis with
  | .x => { position with x := value }
  | .y => { position with y := value }
  | .z => { position with z := value }

theorem get_set_self (position : Position) (axis : Axis) (value : AxisValue) :
    (position.set axis value).get axis = value := by
  cases axis <;> rfl

theorem get_set_other (position : Position) {axis other : Axis} (value : AxisValue)
    (different : axis ≠ other) : (position.set axis value).get other = position.get other := by
  cases axis <;> cases other <;> first | rfl | exact absurd rfl different

def isAbsolute (position : Position) : Bool :=
  position.x.isAbsolute && position.y.isAbsolute && position.z.isAbsolute

end Position

/-- A new target becomes the first one if there was none. -/
def Heater.set (heater : Heater) (target : Binary64) : Heater :=
  ⟨some target, some (heater.initial.getD target)⟩

namespace Fan

def toText : Fan → Text
  | .off => Text.of "off"
  | .duty value => value.toText

end Fan

namespace MachineState

def fresh : MachineState where
  extruderMode := .absolute
  xyzMode := .absolute
  position := .unknown
  e := .unknown
  eMax := .unknown
  bed := ⟨none, none⟩
  nozzle := ⟨none, none⟩
  fan := none

instance : Inhabited MachineState := ⟨fresh⟩

/-- How far the filament is pulled back from its furthest place. -/
def retraction? (state : MachineState) : Option Binary64 :=
  match state.e, state.eMax with
  | .absolute e, .absolute eMax => some (eMax - e)
  | _, _ => none

end MachineState

end PrintParts
