import PrintParts.Failure
import PrintParts.Path

/-!
Storage: what a job asks of the place where its files are. A job is written against these six
questions alone, so it runs on a disk as it runs on a tree of files that is held in memory.
-/

namespace PrintParts

/-- The bytes of a path that are too many, and of one of its steps. -/
def pathLimit : Nat := 4096

def stepLimit : Nat := 256

/-- How many missing folders are made around each other at once. -/
def folderLimit : Nat := 986

def Path.defect? (path : Path) : Option StorageFault :=
  match path.toText.unwritable? with
  | some run => some (.unwritable run)
  | none =>
    if .char '\x00' ∈ path.toText then some .nullInPath
    else if pathLimit ≤ path.toText.encode.length then some (.nameTooLong path.toText)
    else none

structure Storage (m : Type → Type) where
  /-- Whether there is a file at the end of a path. Only a name that is too long is a fault. -/
  isFile : Path → m (Except StorageFault Bool)
  /-- Whether there is a folder at the end of a path. Only a name that is too long is a fault. -/
  isFolder : Path → m (Except StorageFault Bool)
  /-- The names of the entries of a folder, in no certain order; none if it is no folder. -/
  names : Path → m (List Text)
  /-- The content of a file. -/
  read : Path → m (Except StorageFault (List UInt8))
  /-- Makes a folder in a folder that is there, unless it is there already. -/
  makeFolder : Path → m (Except StorageFault Unit)
  /-- Gives a file its content; a file that is there is replaced. -/
  write : Path → List UInt8 → m (Except StorageFault Unit)

namespace Storage

variable {m : Type → Type} [Monad m]

/-- Makes the folder at the end of some steps, which are given from the last one on. If it has no
place to stand, the folder around it is made first, but only so many of them. -/
def makeSteps (disk : Storage m) (anchor : Anchor) :
    Nat → List Text → m (Except StorageFault Unit)
  | _, [] => pure (.ok ())
  | 0, _ :: _ => pure (.error .tooManyFolders)
  | budget + 1, step :: above => do
    let path : Path := ⟨anchor, (step :: above).reverse⟩
    match ← disk.makeFolder path with
    | .error (.missing _) =>
      match ← makeSteps disk anchor budget above with
      | .error fault => pure (.error fault)
      | .ok () => disk.makeFolder path
    | made => pure made

/-- Makes a folder together with those around it, unless they are there. If too many of them are
missing, none is made. -/
def makeFolders (disk : Storage m) (path : Path) : m (Except StorageFault Unit) :=
  makeSteps disk path.anchor folderLimit path.steps.reverse

end Storage

end PrintParts
