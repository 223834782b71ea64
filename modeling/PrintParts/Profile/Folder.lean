import PrintParts.FileTree
import PrintParts.Profile
import PrintParts.Text.Order

/-!
Where profiles are found: in a folder of the user, or among the profiles that come with the program. A
profile is asked for by its file name, with or without the extension. Without a name it is the default
one, which exists even where its file does not. The profiles of the program lie in a folder among its
other folders, and names with steps in them are followed there too.
-/

namespace PrintParts

inductive ProfileFolder where
  /-- The profiles that come with the program. -/
  | bundled
  | folder (path : Path)
  deriving DecidableEq

namespace ProfileFolder

def bundledProfiles : List (Text × Profile) := [
  (Text.of "bed_prime.json", { name := Text.of "bed_prime", primeMode := .bed }),
  (Text.of "default_cura.json", {})]

def programFolder : Location := [Text.of "gcodesplit"]

def bundledFolder : Location := programFolder ++ [Text.of "profiles"]

/-- The folders of the program with its profiles in one of them. What the files hold is known without
reading them. -/
def bundle : FileTree :=
  let folders := (["app", "core", "ui"].map fun name => programFolder ++ [Text.of name]).foldl
    (fun tree folder => tree.put folder (.folder [])) (FileTree.empty bundledFolder)
  bundledProfiles.foldl (fun tree (name, _) => tree.put (bundledFolder ++ [name]) (.file [])) folders

def shown : ProfileFolder → Text
  | .bundled => Text.of "<PROFILES>"
  | .folder path => path.toText

def bundledPath (file : Path) : Text := shown .bundled ++ Text.of "/" ++ file.toText

def extension : Text := Text.of ".json"

def fileName (name : Text) : Text :=
  if extension.isSuffixOf name then name else name ++ extension

theorem fileName_of_extension {name : Text} (ends : extension.isSuffixOf name = true) :
    fileName name = name := by
  simp [fileName, ends]

def defaultName : Text := Text.of "default_cura.json"

def asked? : Naming → Except Failure (Option Text)
  | .nothing => .ok none
  | .name text => .ok (if text = [] then none else some text)
  | .unusable => .error (.value .notAName)

/-- The profile of a file name among those that come with the program. -/
def bundled? (file : Path) : Except Failure (Option Profile) :=
  match bundle.locate file with
  | .ok location =>
    .ok ((bundledProfiles.find? fun (name, _) => bundledFolder ++ [name] == location).map (·.2))
  | .error .longStep => .error (.storage (.nameTooLong (bundledPath file)))
  | .error (.defect (.nameTooLong _)) => .error (.storage (.nameTooLong (bundledPath file)))
  | .error _ => .ok none

section

variable {m : Type → Type} [Monad m]

def list (disk : Storage m) : ProfileFolder → m (Except Failure (List Text))
  | .bundled => pure (.ok (bundledProfiles.map (·.1)))
  | .folder path => do
    match ← disk.isFolder path with
    | .error fault => pure (.error (.storage fault))
    | .ok false => pure (.ok [])
    | .ok true => do
      let names ← disk.names path
      pure (.ok (Text.sorted (names.filter extension.isSuffixOf)))

def loadPath (disk : Storage m) (path : Path) : m (Except Failure Profile) := do
  match ← disk.read path with
  | .ok content => pure (Profile.ofBytes content)
  | .error fault => pure (.error (.storage fault))

def find? (disk : Storage m) (path : Path) : m (Except Failure (Option Profile)) := do
  match ← disk.isFile path with
  | .error fault => pure (.error (.storage fault))
  | .ok false => pure (.ok none)
  | .ok true => do
    let profile ← loadPath disk path
    pure (profile.map some)

/-- The profile of a file name in the folder. A name that starts at the root leads out of it. -/
def findIn? (disk : Storage m) (file : Path) : ProfileFolder → m (Except Failure (Option Profile))
  | .folder path => find? disk (path.append file)
  | .bundled => if file.anchor = .here then pure (bundled? file) else find? disk file

/-- Loads a profile by its name; no name and the empty one ask for the default. -/
def load (disk : Storage m) (folder : ProfileFolder) (name : Naming) :
    m (Except Failure Profile) := do
  match asked? name with
  | .error failure => pure (.error failure)
  | .ok asked =>
    let target := fileName (asked.getD defaultName)
    match ← findIn? disk (Path.ofText target) folder with
    | .error failure => pure (.error failure)
    | .ok (some profile) => pure (.ok profile)
    | .ok none =>
      pure (if asked = none then .ok {}
        else .error (.storage (.profileMissing target folder.shown)))

/-- The folder of profiles of an unpacked program: in it, or in its part of that name, or else the
profiles that come with the program. -/
def ofBundle (disk : Storage m) (bundle : Path) : m (Except Failure ProfileFolder) := do
  let near := bundle.child (Text.of "profiles")
  let deep := (bundle.child (Text.of "gcodesplit")).child (Text.of "profiles")
  match ← disk.isFolder near with
  | .error fault => pure (.error (.storage fault))
  | .ok true => pure (.ok (.folder near))
  | .ok false =>
    match ← disk.isFolder deep with
    | .error fault => pure (.error (.storage fault))
    | .ok true => pure (.ok (.folder deep))
    | .ok false => pure (.ok .bundled)

end

end ProfileFolder

end PrintParts
