import PrintParts.CommandLine.Arguments
import PrintParts.Narration.Job

/-!
The program as it is called from a command line. It tells what it does, reports the parts that it wrote,
and says what went wrong. Refused words end it with status 2, and a job that cannot be done with
status 1. A failure of the program itself, not of the print or the request, is passed on.
-/

namespace PrintParts

structure Outcome where
  status : Nat
  output : List Text
  errors : List Text
  deriving DecidableEq

namespace Failure

/-- What is said about a failure that a print, a request or the storage can be blamed for. -/
def report? : Failure → Option Text
  | .value .wrongKind | .value .notAName | .value .notARecord | .value .unknownOption
  | .value .infinityIsNoInteger | .value .tooDeep => none
  | .storage .tooManyFolders => none
  | .tooLarge | .divisionByZero | .noInheritedHeight | .noEarlierLayer => none
  | failure@(.unknownLayer ..) => some failure.message.quoted
  | failure => some failure.message

end Failure

namespace Report

def lines (report : Report) : List Text :=
  let part (range : PartRange) (path : Path) : Text :=
    Text.of "  Part " ++ Text.ofNat range.index ++ Text.of ": layers " ++ Text.ofNat range.first ++
      Text.of "–" ++ Text.ofNat range.last ++ Text.of " → " ++ path.toText
  (Text.of "✓ Split " ++ Text.ofNat report.layerCount ++ Text.of " layers into " ++
      Text.ofNat report.parts.length ++ Text.of " parts") ::
    (List.zipWith part report.parts report.paths ++
      (if report.warnings = [] then []
      else Text.of "  Warnings:" :: report.warnings.map fun warning =>
        Text.of "    ⚠ " ++ warning))

end Report

namespace Arguments

def inputText (arguments : Arguments) : Text := arguments.input.getD []

def request (arguments : Arguments) : Request where
  input := .name arguments.inputText
  parts := arguments.parts
  maxLayers := arguments.maxLayers
  startLayer := arguments.startLayer
  outputFolder := arguments.output
  profileName := arguments.profile
  primeMode := arguments.prime.map fun word => if word = Text.of "bed" then .bed else .air
  shiftBedPrime := arguments.shiftBedPrime
  useInitialNozzle := arguments.initialTemp
  reheatBed := arguments.reheatBed
  iron := arguments.iron
  zCompression := arguments.zCompression
  continuationFlow := arguments.flowRate
  policy := if arguments.allowOverrides then some .ignore else none

def log (arguments : Arguments) (events : List Event) : List Text :=
  (events.filter fun event => arguments.verbose || event.level == .warning).map Event.toLine

end Arguments

namespace CommandLine

def helpLines : List Text :=
  Text.of "usage: gcodesplit [switches] gcode_file" :: Switch.all.map fun switch =>
    Text.of "  " ++ switch.title ++ (match switch.operand with
      | .none => []
      | .text => Text.of " TEXT"
      | .integer => Text.of " INTEGER"
      | .number => Text.of " NUMBER"
      | .primeMode => Text.of " air|bed")

def failed (log : List Text) (failure : Failure) : Except Failure Outcome :=
  match failure.report? with
  | some report => .ok ⟨1, [], log ++ [Text.of "Error: " ++ report]⟩
  | none => .error failure

def refused : Refusal → Outcome
  | .usage fault => ⟨2, [], [Text.of "gcodesplit: error: " ++ fault.message]⟩
  | .help => ⟨0, helpLines, []⟩

section

variable {m : Type → Type} [Monad m]

def carryOut (disk : Storage m) (folder : ProfileFolder) (arguments : Arguments) :
    m (Except Failure Outcome) := do
  match ← Job.gather disk folder arguments.request with
  | .error failure => pure (failed [] failure)
  | .ok job =>
    let log := arguments.log job.events
    match ← job.finish disk with
    | .error failure => pure (failed log failure)
    | .ok report => pure (.ok ⟨0, report.lines, log⟩)

def run (disk : Storage m) (folder : ProfileFolder) (words : List Text) :
    m (Except Failure Outcome) := do
  match Arguments.ofTexts words with
  | .error refusal => pure (.ok (refused refusal))
  | .ok arguments =>
    let input := Path.ofText arguments.inputText
    match ← disk.isFile input with
    | .error fault => pure (.error (.storage fault))
    | .ok true => carryOut disk folder arguments
    | .ok false => pure (.ok ⟨1, [], [Text.of "Error: file not found: " ++ input.toText]⟩)

end

end CommandLine

end PrintParts
