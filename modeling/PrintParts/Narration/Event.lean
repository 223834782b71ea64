import PrintParts.Failure

/-!
Events: what a job tells while it is at work. Each has a level, so that a user can ask for all of them or
for the warnings alone, and a speaker, the part of the program that it comes from.
-/

namespace PrintParts

inductive Level where
  | debug
  | info
  | warning
  deriving DecidableEq

def Level.label : Level → String
  | .debug => "DEBUG"
  | .info => "INFO"
  | .warning => "WARNING"

inductive Speaker where
  | machine
  | recorder
  | scaffold
  | document
  deriving DecidableEq

def Speaker.label : Speaker → String
  | .machine => "gcodesplit.core.printer_state"
  | .recorder => "gcodesplit.core.gcode_parser"
  | .scaffold => "gcodesplit.core.resume_generator"
  | .document => "gcodesplit.core.assembler"

inductive Event where
  | absolutePositions
  | relativePositions
  | absoluteExtruder
  | relativeExtruder
  | bedTarget (target : Binary64)
  | firstBedTarget (target : Binary64)
  | nozzleTarget (target : Binary64)
  | firstNozzleTarget (target : Binary64)
  | fanOff
  | fanOn (duty : Binary64)
  | layerHeight (height : Binary64)
  | layerCount (count : Nat)
  | firstLayer (lineNumber : Nat)
  | partStarted (part totalParts : Nat)
  | partEnded (part layers : Nat)
  | openingMade (part : Nat) (layer : Int)
  | closingMade (part : Nat) (layer : Int) (z : Binary64)
  | liftCapped (limit : Binary64)
  /-- A layer that should be ironed cannot be traced. -/
  | notIroned (layer : Int)
  | scaffoldWarning (report : Text)
  deriving DecidableEq

namespace Event

def level : Event → Level
  | .absolutePositions | .relativePositions | .absoluteExtruder | .relativeExtruder
  | .bedTarget _ | .firstBedTarget _ | .nozzleTarget _ | .firstNozzleTarget _
  | .fanOff | .fanOn _ => .debug
  | .layerHeight _ | .layerCount _ | .firstLayer _ | .partStarted .. | .partEnded ..
  | .openingMade .. | .closingMade .. | .liftCapped _ => .info
  | .notIroned _ | .scaffoldWarning _ => .warning

def speaker : Event → Speaker
  | .absolutePositions | .relativePositions | .absoluteExtruder | .relativeExtruder
  | .bedTarget _ | .firstBedTarget _ | .nozzleTarget _ | .firstNozzleTarget _
  | .fanOff | .fanOn _ => .machine
  | .layerHeight _ | .layerCount _ | .firstLayer _ => .recorder
  | .partStarted .. | .partEnded .. | .scaffoldWarning _ => .document
  | .openingMade .. | .closingMade .. | .liftCapped _ | .notIroned _ => .scaffold

def bracketed (label : String) (value : Text) : Text :=
  Text.of label ++ Text.of " [" ++ value ++ Text.of "]"

def message : Event → Text
  | .absolutePositions => Text.of "* absolute pos"
  | .relativePositions => Text.of "* relative pos"
  | .absoluteExtruder => Text.of "* absolute extr"
  | .relativeExtruder => Text.of "* relative extr"
  | .bedTarget target => bracketed "* bed temp" target.toText
  | .firstBedTarget target => bracketed "* init bed temp" target.toText
  | .nozzleTarget target => bracketed "* nozzle temp" target.toText
  | .firstNozzleTarget target => bracketed "* init nozzle temp" target.toText
  | .fanOff => Text.of "* fan off"
  | .fanOn duty => bracketed "* fan" duty.toText
  | .layerHeight height => bracketed "Layer height" (Text.ofChars height.shortest)
  | .layerCount count => bracketed "Layer count" (Text.ofNat count)
  | .firstLayer lineNumber => Text.of "Layer 0 at line " ++ Text.ofNat lineNumber
  | .partStarted part totalParts =>
    Text.of "Starting part #" ++ Text.ofNat part ++ Text.of " (" ++ Text.ofNat totalParts ++
      Text.of " parts total)"
  | .partEnded part layers =>
    Text.of "Ending part #" ++ Text.ofNat part ++ Text.of " (" ++ Text.ofNat layers ++
      Text.of " layers)"
  | .openingMade part layer =>
    Text.of "Rendering begin script for part " ++ Text.ofNat part ++ Text.of " at layer " ++
      Text.ofInt layer
  | .closingMade part layer z =>
    Text.of "Rendering end script for part " ++ Text.ofNat part ++ Text.of ", layer " ++
      Text.ofInt layer ++ Text.of ", final Z " ++ z.toText
  | .liftCapped limit => Text.of "Capping final hop at maximum Z " ++ limit.toText
  | .notIroned layer =>
    Text.of "Cannot convert layer #" ++ Text.ofInt layer ++ Text.of " to ironing"
  | .scaffoldWarning report => report

def toLine (event : Event) : Text :=
  Text.of event.level.label ++ Text.of " " ++ Text.of event.speaker.label ++ Text.of ": " ++
    event.message

end Event

end PrintParts
