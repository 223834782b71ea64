import PrintParts.CommandLine

/-!
The executable: a disk as the storage of a job, and the words, lines and status of a process.
-/

namespace PrintParts

namespace Disk

/-- A text for the system. Only characters can be passed on. -/
def stringOf (text : Text) : String :=
  String.ofList (text.filterMap fun symbol => match symbol with
    | .char character => some character
    | .raw _ | .half _ => none)

def entryOf (path : Path) : IO.FS.DirEntry := { root := ".", fileName := stringOf path.toText }

def hasKind (kind : IO.FS.FileType) (path : Path) : IO Bool := do
  try
    let found ← (entryOf path).path.metadata
    pure (found.type == kind)
  catch _ => pure false

def isTooLong (path : Path) : Bool :=
  pathLimit ≤ path.toText.encode.length || path.steps.any (stepLimit ≤ ·.encode.length)

def faultOf (path : Path) : IO.Error → IO StorageFault
  | .noFileOrDirectory .. => pure (.missing path.toText)
  | .alreadyExists .. => pure (.alreadyExists path.toText)
  | .inappropriateType .. => do
    if ← hasKind .dir path then pure (.isADirectory path.toText)
    else pure (.notADirectory path.toText)
  | error =>
    if isTooLong path then pure (.nameTooLong path.toText)
    else pure (.other (Text.of (toString error)))

def attempt {α : Type} (path : Path) (action : IO α) : IO (Except StorageFault α) := do
  match path.defect? with
  | some fault => pure (.error fault)
  | none =>
    try
      let value ← action
      pure (.ok value)
    catch error =>
      let fault ← faultOf path error
      pure (.error fault)

/-- Whether an entry of a kind is at the end of a path. Only a name that is too long is a fault. -/
def has (kind : IO.FS.FileType) (path : Path) : IO (Except StorageFault Bool) := do
  match ← attempt path (entryOf path).path.metadata with
  | .ok found => pure (.ok (found.type == kind))
  | .error (.nameTooLong name) => pure (.error (.nameTooLong name))
  | .error _ => pure (.ok false)

def names (path : Path) : IO (List Text) := do
  try
    let entries ← (entryOf path).path.readDir
    pure (entries.toList.map fun entry => Text.of entry.fileName)
  catch _ => pure []

def makeFolder (path : Path) : IO (Except StorageFault Unit) := do
  if ← hasKind .dir path then pure (.ok ())
  else attempt path (IO.FS.createDir (entryOf path).path)

def storage : Storage IO where
  isFile := has .file
  isFolder := has .dir
  names := names
  read path := attempt path do
    let content ← IO.FS.readBinFile (entryOf path).path
    pure content.toList
  makeFolder := makeFolder
  write path content := attempt path
    (IO.FS.writeBinFile (entryOf path).path (ByteArray.mk content.toArray))

end Disk

/-- Writes lines, each closed by a newline, byte by byte as they are. -/
def writeLines (stream : IO.FS.Stream) (lines : List Text) : IO Unit := do
  stream.write (ByteArray.mk (Text.unlines lines).encode.toArray)
  stream.flush

end PrintParts

def main (words : List String) : IO UInt32 := do
  let output ← IO.getStdout
  let errors ← IO.getStderr
  match ← PrintParts.CommandLine.run PrintParts.Disk.storage .bundled
      (words.map PrintParts.Text.of) with
  | .ok outcome => do
    PrintParts.writeLines errors outcome.errors
    PrintParts.writeLines output outcome.output
    pure outcome.status.toUInt32
  | .error failure => do
    PrintParts.writeLines errors [failure.message]
    pure 1
