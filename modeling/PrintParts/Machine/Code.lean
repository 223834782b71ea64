import PrintParts.Text.Basic

/-!
The closed set of mnemonics that a program may use. Every other mnemonic is refused, as a command
that is not understood could change the printer in a way that resuming does not restore.
-/

namespace PrintParts

inductive Code where
  | absolutePositioning
  | relativePositioning
  | absoluteExtrusion
  | relativeExtrusion
  | setBed
  | waitBed
  | setNozzle
  | waitNozzle
  | fanOn
  | fanOff
  | rapidMove
  | linearMove
  | setPosition
  | feedRate
  | flowRate
  /-- A comment or a blank line. -/
  | remark
  | reportTemperature
  | powerLossRecovery
  | bedLeveling
  | home
  | disableSteppers
  deriving DecidableEq

namespace Code

def mnemonic : Code → String
  | .absolutePositioning => "G90"
  | .relativePositioning => "G91"
  | .absoluteExtrusion => "M82"
  | .relativeExtrusion => "M83"
  | .setBed => "M140"
  | .waitBed => "M190"
  | .setNozzle => "M104"
  | .waitNozzle => "M109"
  | .fanOn => "M106"
  | .fanOff => "M107"
  | .rapidMove => "G0"
  | .linearMove => "G1"
  | .setPosition => "G92"
  | .feedRate => "M220"
  | .flowRate => "M221"
  | .remark => ""
  | .reportTemperature => "M105"
  | .powerLossRecovery => "M413"
  | .bedLeveling => "M420"
  | .home => "G28"
  | .disableSteppers => "M84"

def all : List Code := [
  .absolutePositioning, .relativePositioning, .absoluteExtrusion, .relativeExtrusion, .setBed,
  .waitBed, .setNozzle, .waitNozzle, .fanOn, .fanOff, .rapidMove, .linearMove, .setPosition,
  .feedRate, .flowRate, .remark, .reportTemperature, .powerLossRecovery, .bedLeveling, .home,
  .disableSteppers]

def ofMnemonic? (mnemonic : Text) : Option Code :=
  all.find? fun code => Text.of code.mnemonic = mnemonic

def isMove : Code → Bool
  | .rapidMove => true
  | .linearMove => true
  | _ => false

end Code

end PrintParts
