import PrintParts.Print.Layer
import PrintParts.Text.Utf8

/-!
Recording a print from the lines of a program. The recorder goes through the lines once; it keeps the
state of the printer, the layers closed so far and the one that is open. A line that cannot be taken
ends the recording with its number, its text and the open layer.
-/

namespace PrintParts

/-- What has been recorded up to a line. -/
structure Recorder where
  machine : MachineState
  closed : Array Layer
  current : Option Layer
  layerHeight : Option Binary64
  declaredCount : Option Nat
  endSeen : Bool
  leastX : Option LeastX
  lineCount : Nat
  deriving DecidableEq

namespace Recorder

def start : Recorder where
  machine := .fresh
  closed := #[]
  current := none
  layerHeight := none
  declaredCount := none
  endSeen := false
  leastX := none
  lineCount := 0

def openedCount (recorder : Recorder) : Nat :=
  recorder.closed.size + (if recorder.current.isSome then 1 else 0)

def closeCurrent (recorder : Recorder) : Recorder :=
  match recorder.current with
  | none => recorder
  | some layer =>
    { recorder with closed := recorder.closed.push (layer.close recorder.machine), current := none }

/-- Opens the next layer. Its number has to be the count of those before. -/
def openLayer (recorder : Recorder) (index : Nat) : Except Fault Recorder :=
  if index ≠ recorder.openedCount then .error (.layerOutOfOrder recorder.openedCount index)
  else .ok { recorder.closeCurrent with current := some (.opened index recorder.machine) }

def takeCommand (policy : OverridePolicy) (recorder : Recorder) (command : Command)
    (line : Text) : Except Fault Recorder := do
  let code ← command.code
  let after ← recorder.machine.apply code command recorder.current.isSome policy
  match recorder.current with
  | none => .ok { recorder with machine := after }
  | some layer => .ok { recorder with
      machine := after
      current := some (layer.addLine code command after line)
      leastX := LeastX.update recorder.leastX layer.number code command after line }

def takeToken (policy : OverridePolicy) (recorder : Recorder) (line : Text) :
    Token → Except Fault Recorder
  | .layerHeight value => .ok { recorder with layerHeight := some value }
  | .layerCount count => .ok { recorder with declaredCount := some count }
  | .layerMarker index => recorder.openLayer index
  | .endMarker => .ok { recorder.closeCurrent with endSeen := true }
  | .command command => recorder.takeCommand policy command line

def takeLine (policy : OverridePolicy) (recorder : Recorder) (line : Text) :
    Except Failure Recorder :=
  let taken := do
    let token ← Token.ofLine line
    (recorder.takeToken policy line token).mapError Fault.raise
  match taken with
  | .ok next => .ok { next with lineCount := recorder.lineCount + 1 }
  | .error failure =>
    .error (failure.locate (recorder.lineCount + 1) line (recorder.current.map (·.number)))

/-- The print, if everything that a complete program declares has been seen. -/
def finish (recorder : Recorder) : Except Fault Print :=
  let recorder := recorder.closeCurrent
  match recorder.declaredCount with
  | none => .error .layerCountMissing
  | some count =>
    if recorder.closed.size ≠ count then .error (.layerCountMismatch count recorder.closed.size)
    else if recorder.endSeen then .ok {
      layers := recorder.closed
      layerHeight := recorder.layerHeight
      layerCount := count
      state := recorder.machine
      leastX := recorder.leastX
      lineCount := recorder.lineCount }
    else .error .endCodeMissing

end Recorder

namespace Print

def ofLines (policy : OverridePolicy) (lines : List Text) : Except Failure Print := do
  let recorder ← (lines.map Text.chomp).foldlM (Recorder.takeLine policy) Recorder.start
  recorder.finish.mapError Fault.raise

/-- Records a text, whose lines end at newlines only. -/
def ofText (policy : OverridePolicy) (text : Text) : Except Failure Print :=
  ofLines policy text.lines

/-- Records the content of a file, where a carriage return ends a line as well. -/
def ofBytes (policy : OverridePolicy) (bytes : List UInt8) : Except Failure Print :=
  ofLines policy (Text.decode bytes).unifyLineEnds.lines

end Print

end PrintParts
