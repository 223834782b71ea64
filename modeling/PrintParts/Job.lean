import PrintParts.Document
import PrintParts.Print.Clearance
import PrintParts.Profile.Folder

/-!
Jobs: one program file cut into the files of its parts. A job first gathers what it reads, the profile
and the program. From these it prepares every part without touching the storage, so whatever is wrong
with the print or the request is found before a file is written. Then it saves the parts in order.
-/

namespace PrintParts

/-- What is asked for. -/
structure Request where
  input : Naming
  parts : Amount := .integer 3
  /-- A cap on the layers of a part, which may raise the number of parts. -/
  maxLayers : Option Amount := none
  startLayer : Amount := .integer 0
  /-- Where the parts go, if not beside the input. -/
  outputFolder : Naming := .nothing
  profileName : Naming := .nothing
  /-- The way to prime, if not the one of the profile. -/
  primeMode : Option PrimeMode := none
  shiftBedPrime : Bool := false
  useInitialNozzle : Bool := false
  reheatBed : Bool := false
  iron : Bool := false
  zCompression : Amount := .number 0
  continuationFlow : Amount := .integer 100
  /-- What happens to speed overrides, if not what the profile says. -/
  policy : Option OverridePolicy := none
  deriving DecidableEq

/-- What is known when a job is done. -/
structure Report where
  paths : List Path
  parts : List PartRange
  layerCount : Nat
  layerHeight : Option Binary64
  /-- The first temperatures that the program asks for. -/
  bed : Option Binary64
  nozzle : Option Binary64
  warnings : List Text
  deriving DecidableEq

/-- A request together with everything that it reads. -/
structure Job where
  request : Request
  profile : Profile
  input : Path
  program : List UInt8
  deriving DecidableEq

/-- The documents of a job and what is to be reported once they are saved. -/
structure Prepared where
  documents : List Document
  report : Report

namespace Profile

def settings (profile : Profile) (request : Request) : Scaffold.Settings where
  retract := profile.retract
  hop := profile.hop
  presentY := profile.presentY
  maxZ := profile.maxZ
  headClearance := profile.headClearance
  primeMode := request.primeMode.getD profile.primeMode
  shiftBedPrime := request.shiftBedPrime
  bedPrimeShift := profile.bedPrimeShift
  useInitialNozzle := request.useInitialNozzle
  reheatBed := request.reheatBed
  iron := request.iron
  zCompression := request.zCompression
  continuationFlow := request.continuationFlow
  continuationFeed := .integer profile.continuationFeed

end Profile

def Plan.warnings (plan : Plan) (asked : Amount) : List Text :=
  if asked.isInteger plan.totalParts then []
  else [Text.of "Split into " ++ Text.ofNat plan.totalParts ++ Text.of " parts (" ++
    Text.ofNat plan.chunk ++ Text.of " layers each) instead of " ++ asked.toText ++ Text.of "."]

/-- Makes sure that priming on the bed does not meet the print. If only the first part primes there, a
print that would be in the way is worth a warning and no more. -/
def Scaffold.Settings.clearanceWarnings (settings : Scaffold.Settings) (print : Print)
    (totalParts : Int) : Except Failure (List Text) :=
  match settings.primeMode with
  | .bed => do
    let clearance ← settings.bedPrimeClearance totalParts
    LeastX.checkClearance print.leastX clearance
    .ok []
  | .air =>
    match print.leastX with
    | none => .ok []
    | some least =>
      if least.x ≤ settings.headClearance then
        .ok [Text.of "Print reaches X " ++ shortNumber least.x ++ Text.of " (layer " ++
          Text.ofInt least.layer ++ Text.of "); the first part still primes on the bed."]
      else .ok []

namespace Job

def policy (job : Job) : OverridePolicy := job.request.policy.getD job.profile.policy

def settings (job : Job) : Scaffold.Settings := job.profile.settings job.request

def division (job : Job) (print : Print) : Except Failure Division :=
  Division.make print.layers.size job.request.parts job.request.maxLayers job.request.startLayer

/-- The file of a part in a folder, named like the input with the number of the part in front of the
suffix. -/
def partPath (job : Job) (folder : Path) (part : Nat) : Path :=
  let suffix := if job.input.suffix = [] then Text.of ".gcode" else job.input.suffix
  folder.child (job.input.stem ++ Text.of "." ++ Text.ofNat part ++ suffix)

def outputFolder (job : Job) : Except Failure Path :=
  match job.request.outputFolder with
  | .nothing => .ok job.input.parent
  | .name text => .ok (Path.ofText text)
  | .unusable => .error (.value .wrongKind)

def prepare (job : Job) : Except Failure Prepared := do
  let print ← Print.ofBytes job.policy job.program
  let division ← job.division print
  let clearance ← job.settings.clearanceWarnings print division.totalParts
  let plan ← division.plan
  let documents ← Document.render (.ofSettings job.settings) Scaffold.check print plan
  let folder ← job.outputFolder
  .ok {
    documents := documents
    report := {
      paths := documents.map fun document => job.partPath folder document.part.index
      parts := documents.map (·.part)
      layerCount := print.layers.size
      layerHeight := print.layerHeight
      bed := print.state.bed.initial
      nozzle := print.state.nozzle.initial
      warnings := plan.warnings job.request.parts ++ clearance ++ documents.flatMap (·.warnings) } }

def files (job : Job) (prepared : Prepared) : List (Path × List Text) :=
  List.zip prepared.report.paths (prepared.documents.map fun document =>
    document.lines job.input.name)

section

variable {m : Type → Type} [Monad m]

def gather (disk : Storage m) (folder : ProfileFolder) (request : Request) :
    m (Except Failure Job) := do
  match ← folder.load disk request.profileName with
  | .error failure => pure (.error failure)
  | .ok profile =>
    match request.input with
    | .nothing | .unusable => pure (.error (.value .wrongKind))
    | .name text =>
      let input := Path.ofText text
      match ← disk.read input with
      | .error fault => pure (.error (.storage fault))
      | .ok program =>
        pure (.ok { request := request, profile := profile, input := input, program := program })

def writeLines (disk : Storage m) (path : Path) (lines : List Text) : m (Except Failure Unit) := do
  match ← disk.write path (Text.unlines (lines.takeWhile Text.isWritable)).encode with
  | .error fault => pure (.error (.storage fault))
  | .ok () =>
    match lines.findSome? Text.unwritable? with
    | some run => pure (.error (.storage (.unwritable run)))
    | none => pure (.ok ())

def writeAll (disk : Storage m) : List (Path × List Text) → m (Except Failure Unit)
  | [] => pure (.ok ())
  | (path, lines) :: files => do
    match ← writeLines disk path lines with
    | .error failure => pure (.error failure)
    | .ok () => writeAll disk files

def save (disk : Storage m) (files : List (Path × List Text)) : m (Except Failure Unit) := do
  match files with
  | [] => pure (.ok ())
  | (path, _) :: _ =>
    match ← disk.makeFolders path.parent with
    | .error fault => pure (.error (.storage fault))
    | .ok () => writeAll disk files

def finish (disk : Storage m) (job : Job) : m (Except Failure Report) := do
  match job.prepare with
  | .error failure => pure (.error failure)
  | .ok prepared =>
    match ← save disk (job.files prepared) with
    | .error failure => pure (.error failure)
    | .ok () => pure (.ok prepared.report)

def run (disk : Storage m) (folder : ProfileFolder) (request : Request) :
    m (Except Failure Report) := do
  match ← gather disk folder request with
  | .error failure => pure (.error failure)
  | .ok job => finish disk job

end

end Job

end PrintParts
