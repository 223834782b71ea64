import PrintParts.Narration.Event
import PrintParts.Print.Recorder

/-!
What is told while a print is recorded: declarations of the program, and every command that changes a
mode, a temperature or the fan. A line that cannot be taken ends the recording and tells nothing.
-/

namespace PrintParts

namespace Narration

/-- A temperature, told a second time if it is the first one. -/
def targetEvents (heater : Heater) (command : Command) (told first : Binary64 → Event) :
    List Event :=
  match command.target with
  | .error _ => []
  | .ok target => told target :: (if heater.initial.isNone then [first target] else [])

def commandEvents (machine : MachineState) (command : Command) : List Event :=
  match command.code with
  | .error _ => []
  | .ok code =>
    match code with
    | .absolutePositioning => [.absolutePositions]
    | .relativePositioning => [.relativePositions]
    | .absoluteExtrusion => [.absoluteExtruder]
    | .relativeExtrusion => [.relativeExtruder]
    | .setBed | .waitBed => targetEvents machine.bed command .bedTarget .firstBedTarget
    | .setNozzle | .waitNozzle => targetEvents machine.nozzle command .nozzleTarget .firstNozzleTarget
    | .fanOff => [.fanOff]
    | .fanOn =>
      match command.target with
      | .ok duty => [.fanOn duty]
      | .error _ => []
    | _ => []

def tokenEvents (recorder : Recorder) : Token → List Event
  | .layerHeight height => [.layerHeight height]
  | .layerCount count => [.layerCount count]
  | .layerMarker index => if index = 0 then [.firstLayer (recorder.lineCount + 1)] else []
  | .endMarker => []
  | .command command => commandEvents recorder.machine command

/-- What one line tells, and the recorder behind it; no recorder if the line cannot be taken. -/
def takeLine (policy : OverridePolicy) (recorder : Recorder) (line : Text) :
    List Event × Option Recorder :=
  match recorder.takeLine policy line, Token.ofLine line with
  | .ok next, .ok token => (tokenEvents recorder token, some next)
  | _, _ => ([], none)

def takeLines (policy : OverridePolicy) (recorder : Recorder) : List Text → List Event
  | [] => []
  | line :: lines =>
    match takeLine policy recorder line with
    | (events, none) => events
    | (events, some next) => events ++ takeLines policy next lines

def ofBytes (policy : OverridePolicy) (content : List UInt8) : List Event :=
  takeLines policy .start ((Text.decode content).unifyLineEnds.lines.map Text.chomp)

end Narration

end PrintParts
