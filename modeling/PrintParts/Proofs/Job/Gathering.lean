import PrintParts.Proofs.Storage.Saving

/-!
What a job reads of a tree of files. Reading leaves the tree alone, so a job that is not done changes
nothing before it saves. In a tree that has grown, a job reads the same as long as its input and the
file of its profile hold what they held.
-/

namespace PrintParts

namespace FileTree

variable {tree after : FileTree} {location : Location} {path : Path}

theorem read_eq_ok {content : List UInt8} : tree.read path = .ok content ↔
    ∃ location, tree.locate path = .ok location ∧ tree.content? location = some content := by
  rw [read]
  cases tree.locate path with
  | error obstacle => simp
  | ok location =>
    cases found : tree.at? location with
    | none => simp [content?, found]
    | some entry => cases entry <;> simp [content?, found]

theorem has_eq_true {kind : Entry → Bool} : tree.has kind path = .ok true ↔
    ∃ location entry, tree.locate path = .ok location ∧ tree.at? location = some entry ∧
      kind entry = true := by
  rw [has]
  cases tree.locate path with
  | error obstacle =>
    cases obstacle with
    | defect fault => cases fault <;> simp [Obstacle.fault]
    | _ => simp [Obstacle.fault]
  | ok location => cases found : tree.at? location <;> simp [found]

theorem has_file_eq_true : tree.has Entry.isFile path = .ok true ↔
    ∃ location content, tree.locate path = .ok location ∧ tree.content? location = some content := by
  rw [has_eq_true]
  constructor
  · rintro ⟨location, entry, located, found, isFile⟩
    cases entry with
    | file content => exact ⟨location, content, located, content_eq_some.mpr found⟩
    | folder inside => cases isFile
  · rintro ⟨location, content, located, found⟩
    exact ⟨location, .file content, located, content_eq_some.mp found, rfl⟩

theorem has_folder_eq_true : tree.has Entry.isFolder path = .ok true ↔
    ∃ location, tree.locate path = .ok location ∧ tree.IsFolderAt location := by
  rw [has_eq_true]
  constructor
  · rintro ⟨location, entry, located, found, isFolder⟩
    cases entry with
    | file content => cases isFolder
    | folder inside => exact ⟨location, located, inside, found⟩
  · rintro ⟨location, located, inside, found⟩
    exact ⟨location, .folder inside, located, found, rfl⟩

end FileTree

namespace ProfileFolder

open FileTree

variable {tree after : FileTree}

/-- Where a profile is looked for, unless it is among those of the program. -/
def sought? (file : Path) : ProfileFolder → Option Path
  | .folder path => some (path.append file)
  | .bundled => if file.anchor = .here then none else some file

def fileOf (asked : Option Text) : Path := Path.ofText (fileName (asked.getD defaultName))

def profileAt (tree : FileTree) (path : Path) : Except Failure (Option Profile) :=
  match tree.has Entry.isFile path with
  | .error fault => .error (.storage fault)
  | .ok false => .ok none
  | .ok true =>
    match tree.read path with
    | .error fault => .error (.storage fault)
    | .ok content => (Profile.ofBytes content).map some

def profileIn (tree : FileTree) (folder : ProfileFolder) (file : Path) :
    Except Failure (Option Profile) :=
  match folder.sought? file with
  | some path => profileAt tree path
  | none => bundled? file

def loaded (tree : FileTree) (folder : ProfileFolder) (name : Naming) : Except Failure Profile := do
  let asked ← asked? name
  match ← profileIn tree folder (fileOf asked) with
  | some profile => .ok profile
  | none =>
    if asked = none then .ok {}
    else .error (.storage (.profileMissing (fileName (asked.getD defaultName)) folder.shown))

theorem find_apply (path : Path) (tree : FileTree) :
    find? storage path tree = (profileAt tree path, tree) := by
  have asks : storage.isFile path tree = (tree.has Entry.isFile path, tree) := rfl
  have reads : storage.read path tree = (tree.read path, tree) := rfl
  rw [find?, bind_apply, asks, profileAt]
  cases tree.has Entry.isFile path with
  | error fault => rfl
  | ok found =>
    cases found with
    | false => rfl
    | true =>
      simp only [bind_apply, loadPath, reads]
      cases tree.read path <;> rfl

theorem find_in_apply (file : Path) (folder : ProfileFolder) (tree : FileTree) :
    findIn? storage file folder tree = (profileIn tree folder file, tree) := by
  cases folder with
  | folder path => exact find_apply (path.append file) tree
  | bundled =>
    rw [findIn?, profileIn, sought?]
    by_cases here : file.anchor = .here
    · rw [if_pos here, if_pos here]
      rfl
    · rw [if_neg here, if_neg here]
      exact find_apply file tree

theorem load_apply (folder : ProfileFolder) (name : Naming) (tree : FileTree) :
    folder.load storage name tree = (loaded tree folder name, tree) := by
  rw [load, loaded]
  cases asked? name with
  | error failure => rfl
  | ok asked =>
    simp only [bind_apply, find_in_apply, ok_bind, fileOf]
    cases profileIn tree folder (Path.ofText (fileName (asked.getD defaultName))) with
    | error failure => rfl
    | ok found => cases found <;> rfl

end ProfileFolder

namespace Job

open FileTree

variable {tree after : FileTree} {folder : ProfileFolder} {request : Request} {job : Job}

/-- What a job reads of a tree. -/
def gathered (tree : FileTree) (folder : ProfileFolder) (request : Request) : Except Failure Job := do
  let profile ← ProfileFolder.loaded tree folder request.profileName
  match request.input with
  | .nothing | .unusable => .error (.value .wrongKind)
  | .name text =>
    let input := Path.ofText text
    let program ← (tree.read input).mapError Failure.storage
    .ok { request := request, profile := profile, input := input, program := program }

theorem gather_apply (folder : ProfileFolder) (request : Request) (tree : FileTree) :
    gather storage folder request tree = (gathered tree folder request, tree) := by
  have reads : ∀ path, storage.read path tree = (tree.read path, tree) := fun _ => rfl
  rw [gather, bind_apply, ProfileFolder.load_apply, gathered]
  cases ProfileFolder.loaded tree folder request.profileName with
  | error failure => rfl
  | ok profile =>
    simp only [ok_bind]
    cases request.input with
    | nothing => rfl
    | unusable => rfl
    | name text =>
      simp only [bind_apply, reads]
      cases tree.read (Path.ofText text) <;> rfl

theorem gathered_eq_ok : gathered tree folder request = .ok job ↔
    job.request = request ∧ ProfileFolder.loaded tree folder request.profileName = .ok job.profile ∧
      ∃ text, request.input = .name text ∧ job.input = Path.ofText text ∧
        tree.read job.input = .ok job.program := by
  obtain ⟨asked, profile, input, program⟩ := job
  rw [gathered, bind_eq_ok]
  constructor
  · rintro ⟨found, loaded, done⟩
    cases given : request.input with
    | nothing =>
      rw [given] at done
      cases done
    | unusable =>
      rw [given] at done
      cases done
    | name text =>
      rw [given] at done
      obtain ⟨content, read, same⟩ := bind_eq_ok.mp done
      cases same
      exact ⟨rfl, loaded, text, rfl, rfl, map_error_eq_ok.mp read⟩
  · rintro ⟨rfl, loaded, text, given, rfl, read⟩
    refine ⟨profile, loaded, ?_⟩
    rw [given]
    exact bind_eq_ok.mpr ⟨program, map_error_eq_ok.mpr read, rfl⟩

theorem run_apply (folder : ProfileFolder) (request : Request) (tree : FileTree) :
    run storage folder request tree =
      match gathered tree folder request with
      | .error failure => (.error failure, tree)
      | .ok job =>
        match job.prepare with
        | .error failure => (.error failure, tree)
        | .ok prepared =>
          match save storage (job.files prepared) tree with
          | (.error failure, after) => (.error failure, after)
          | (.ok (), after) => (.ok prepared.report, after) := by
  rw [run, bind_apply, gather_apply]
  cases gathered tree folder request with
  | error failure => rfl
  | ok job =>
    simp only [finish]
    cases job.prepare with
    | error failure => rfl
    | ok prepared =>
      simp only [bind_apply]
      cases save storage (job.files prepared) tree with
      | mk outcome next => cases outcome <;> rfl

theorem run_eq_ok {report : Report} : run storage folder request tree = (.ok report, after) ↔
    ∃ job prepared, gathered tree folder request = .ok job ∧ job.prepare = .ok prepared ∧
      save storage (job.files prepared) tree = (.ok (), after) ∧ prepared.report = report := by
  rw [run_apply]
  cases gathered tree folder request with
  | error failure => simp [outcome_eq]
  | ok job =>
    cases ready : job.prepare with
    | error failure => simp [outcome_eq, ready]
    | ok prepared =>
      cases saved : save storage (job.files prepared) tree with
      | mk outcome next =>
        cases outcome <;> simp [outcome_eq, ready, saved, and_comm]

theorem run_eq_error {failure : Failure}
    (failed : run storage folder request tree = (.error failure, after)) :
    (after = tree ∧ ∀ job prepared, gathered tree folder request = .ok job →
      job.prepare ≠ .ok prepared) ∨
    ∃ job prepared, gathered tree folder request = .ok job ∧ job.prepare = .ok prepared ∧
      save storage (job.files prepared) tree = (.error failure, after) := by
  rw [run_apply] at failed
  cases read : gathered tree folder request with
  | error other =>
    rw [read] at failed
    cases failed
    exact .inl ⟨rfl, fun _ _ gathers => nomatch gathers⟩
  | ok job =>
    rw [read] at failed
    dsimp only at failed
    cases ready : job.prepare with
    | error other =>
      rw [ready] at failed
      cases failed
      refine .inl ⟨rfl, fun other prepared gathers prepares => ?_⟩
      cases gathers
      cases ready.symm.trans prepares
    | ok prepared =>
      rw [ready] at failed
      refine .inr ⟨job, prepared, rfl, ready, ?_⟩
      dsimp only at failed
      cases saved : save storage (job.files prepared) tree with
      | mk outcome next =>
        rw [saved] at failed
        cases outcome with
        | error other =>
          cases failed
          rfl
        | ok _ => cases failed

end Job

end PrintParts
