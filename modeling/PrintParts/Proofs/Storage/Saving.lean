import Mathlib.Data.List.TakeWhile
import Mathlib.Data.Prod.Basic
import PrintParts.Job
import PrintParts.Proofs.Storage.Places

/-!
Saving files into a tree. The tree gains the folders that were missing, each file holds its lines, and
no other file changes. What has been saved can be saved once more, and then the tree stays as it is.
-/

namespace PrintParts

theorem bind_apply {State Value Other : Type} (first : StateM State Value)
    (next : Value → StateM State Other) (state : State) :
    (first >>= next) state = next (first state).1 (first state).2 := rfl

theorem pure_apply {State Value : Type} (value : Value) (state : State) :
    (pure value : StateM State Value) state = (value, state) := rfl

theorem outcome_eq {State Value : Type} {result other : Value} {state after : State} :
    @Eq (Id (Value × State)) (result, state) (other, after) ↔ result = other ∧ state = after :=
  Prod.mk_inj

theorem exists_of_run {Error State Value : Type} {test : Value → Bool}
    {result : Id (Except Error Value × State)} (checked : succeedsWith test result.1 = true) :
    ∃ value state, result = (.ok value, state) := by
  obtain ⟨outcome, state⟩ := result
  obtain ⟨value, same, -⟩ := exists_of_succeeds_with checked
  exact ⟨value, state, outcome_eq.mpr ⟨same, rfl⟩⟩

namespace FileTree

variable {tree after : FileTree} {location : Location} {path : Path}

/-- The tree has grown by folders and nothing else. -/
structure GainsFolders (tree after : FileTree) : Prop extends Grows tree after where
  files : ∀ location, after.content? location = tree.content? location

theorem GainsFolders.refl (tree : FileTree) : GainsFolders tree tree := ⟨.refl tree, fun _ => rfl⟩

theorem GainsFolders.trans {middle : FileTree} (first : GainsFolders tree middle)
    (second : GainsFolders middle after) : GainsFolders tree after := by
  constructor
  · exact first.toGrows.trans second.toGrows
  · intro location
    rw [second.files, first.files]

theorem write_eq_ok {content : List UInt8} : tree.write path content = .ok after ↔
    ∃ location, tree.locate path = .ok location ∧ ¬ tree.IsFolderAt location ∧
      after = tree.put location (.file content) := by
  rw [write]
  cases tree.locate path with
  | error obstacle => simp
  | ok location =>
    cases found : tree.at? location with
    | none => simp [IsFolderAt, found, eq_comm]
    | some entry => cases entry <;> simp [IsFolderAt, found, eq_comm]

theorem holds_of_write {content : List UInt8} (written : tree.write path content = .ok after) :
    Grows tree after ∧
      (∃ location, after.locate path = .ok location ∧ after.content? location = some content) ∧
      ∀ location, after.locate path ≠ .ok location →
        after.content? location = tree.content? location := by
  obtain ⟨place, located, free, rfl⟩ := write_eq_ok.mp written
  have leaf : ∀ name names, (Entry.file content).at? (name :: names) = none := fun _ _ => rfl
  have inFolder := folder_of_locate located
  have grows := grows_put leaf free inFolder
  have there := grows.locate located
  refine ⟨grows, ⟨place, there, content_eq_some.mpr (tree.at?_put_self place _)⟩, ?_⟩
  intro location elsewhere
  apply content_put_other leaf free inFolder
  intro same
  exact elsewhere (same ▸ there)

theorem write_eq_error {content : List UInt8} {fault : StorageFault}
    (blocked : tree.write path content = .error fault) (other : List UInt8) :
    tree.write path other = .error fault := by
  rw [write] at blocked ⊢
  cases located : tree.locate path with
  | error obstacle =>
    rw [located] at blocked
    exact blocked
  | ok location =>
    simp only [located] at blocked ⊢
    cases found : tree.at? location with
    | none =>
      rw [found] at blocked
      cases blocked
    | some entry =>
      rw [found] at blocked
      cases entry with
      | file old => cases blocked
      | folder inside => exact blocked

theorem make_folder_eq_ok : tree.makeFolder path = .ok after ↔
    ∃ location, tree.locate path = .ok location ∧
      (tree.IsFolderAt location ∧ after = tree ∨
        tree.at? location = none ∧ after = tree.put location (.folder [])) := by
  rw [makeFolder]
  cases tree.locate path with
  | error obstacle => simp
  | ok location =>
    cases found : tree.at? location with
    | none => simp [IsFolderAt, found, eq_comm]
    | some entry => cases entry <;> simp [IsFolderAt, found, eq_comm]

theorem make_folder_gains (made : tree.makeFolder path = .ok after) :
    GainsFolders tree after ∧
      ∃ location, after.locate path = .ok location ∧ after.IsFolderAt location := by
  obtain ⟨location, located, ⟨folder, rfl⟩ | ⟨nothing, rfl⟩⟩ := make_folder_eq_ok.mp made
  · exact ⟨.refl _, location, located, folder⟩
  · have leaf : ∀ name names, (Entry.folder []).at? (name :: names) = none := fun _ _ => rfl
    have free : ¬ tree.IsFolderAt location := by
      rintro ⟨inside, found⟩
      rw [nothing] at found
      cases found
    have inFolder := folder_of_locate located
    have grows := grows_put leaf free inFolder
    have set := tree.at?_put_self location (.folder [])
    refine ⟨⟨grows, ?_⟩, location, grows.locate located, [], set⟩
    intro other
    by_cases same : other = location
    · rw [same, content?, content?, set, nothing]
    · exact content_put_other leaf free inFolder same

theorem make_folder_again (located : tree.locate path = .ok location)
    (folder : tree.IsFolderAt location) : tree.makeFolder path = .ok tree :=
  make_folder_eq_ok.mpr ⟨location, located, .inl ⟨folder, rfl⟩⟩

theorem storage_make_folder (path : Path) (tree : FileTree) :
    storage.makeFolder path tree = change (fun tree => tree.makeFolder path) tree := rfl

theorem change_eq_ok {step : FileTree → Except StorageFault FileTree} :
    change step tree = (.ok (), after) ↔ step tree = .ok after := by
  rw [change]
  cases step tree <;> simp [outcome_eq]

theorem gains_of_make_folder {outcome : Except StorageFault Unit}
    (ran : storage.makeFolder path tree = (outcome, after)) : GainsFolders tree after := by
  rw [storage_make_folder, change] at ran
  cases made : tree.makeFolder path with
  | ok next =>
    rw [made] at ran
    cases ran
    exact (make_folder_gains made).1
  | error fault =>
    rw [made] at ran
    cases ran
    exact .refl _

/-- Whether or not all folders can be made, nothing but folders is new. -/
theorem gains_of_make_steps {anchor : Anchor} {budget : Nat} {steps : List Text}
    {outcome : Except StorageFault Unit}
    (ran : storage.makeSteps anchor budget steps tree = (outcome, after)) : GainsFolders tree after := by
  induction steps generalizing budget tree after outcome with
  | nil =>
    rw [Storage.makeSteps] at ran
    cases ran
    exact .refl _
  | cons step above induction =>
    cases budget with
    | zero =>
      cases ran
      exact .refl _
    | succ budget =>
      rw [Storage.makeSteps, bind_apply] at ran
      cases first : storage.makeFolder ⟨anchor, (step :: above).reverse⟩ tree with
      | mk result middle =>
        have gains := gains_of_make_folder first
        rw [first] at ran
        cases result with
        | ok done =>
          cases ran
          exact gains
        | error fault =>
          cases fault with
          | missing around =>
            simp only [bind_apply] at ran
            cases upper : storage.makeSteps anchor budget above middle with
            | mk result next =>
              have higher := gains.trans (induction upper)
              rw [upper] at ran
              cases result with
              | error fault =>
                cases ran
                exact higher
              | ok done => exact higher.trans (gains_of_make_folder ran)
          | _ =>
            cases ran
            exact gains

theorem stands_of_make_steps {anchor : Anchor} {budget : Nat} {steps : List Text}
    (made : storage.makeSteps anchor budget steps tree = (.ok (), after)) (some : steps ≠ []) :
    ∃ location, after.locate ⟨anchor, steps.reverse⟩ = .ok location ∧ after.IsFolderAt location := by
  cases steps with
  | nil => exact absurd rfl some
  | cons step above =>
    cases budget with
    | zero => cases made
    | succ budget =>
      rw [Storage.makeSteps, bind_apply, storage_make_folder, change] at made
      cases first : tree.makeFolder ⟨anchor, (step :: above).reverse⟩ with
      | ok next =>
        rw [first] at made
        cases made
        exact (make_folder_gains first).2
      | error fault =>
        rw [first] at made
        -- Only where the folder around it is missing is that one made first.
        cases fault with
        | missing around =>
          simp only [bind_apply] at made
          cases upper : storage.makeSteps anchor budget above tree with
          | mk outcome middle =>
            rw [upper] at made
            cases outcome with
            | error fault => cases made
            | ok done =>
              simp only [storage_make_folder] at made
              exact (make_folder_gains (change_eq_ok.mp made)).2
        | _ => cases made

theorem gains_of_make_folders {outcome : Except StorageFault Unit}
    (ran : storage.makeFolders path tree = (outcome, after)) : GainsFolders tree after :=
  gains_of_make_steps ran

theorem make_folders_gains (made : storage.makeFolders path tree = (.ok (), after)) :
    GainsFolders tree after ∧ (path.steps ≠ [] →
      ∃ location, after.locate path = .ok location ∧ after.IsFolderAt location) := by
  refine ⟨gains_of_make_folders made, fun some => ?_⟩
  have stands := stands_of_make_steps made (List.reverse_ne_nil_iff.mpr some)
  rwa [List.reverse_reverse] at stands

theorem make_folders_again
    (stands : path.steps ≠ [] → ∃ location, tree.locate path = .ok location ∧ tree.IsFolderAt location) :
    storage.makeFolders path tree = (.ok (), tree) := by
  rw [Storage.makeFolders]
  cases reversed : path.steps.reverse with
  | nil => rfl
  | cons step above =>
    have whole : (step :: above).reverse = path.steps := by
      rw [← reversed, List.reverse_reverse]
    obtain ⟨location, located, folder⟩ := stands (by simp [← whole])
    have again := make_folder_again located folder
    rw [folderLimit, Storage.makeSteps, bind_apply, storage_make_folder, change, whole, again]
    rfl

end FileTree

namespace Job

open FileTree

variable {tree after : FileTree} {path : Path} {lines : List Text} {files : List (Path × List Text)}

theorem write_lines_apply (path : Path) (lines : List Text) (tree : FileTree) :
    writeLines storage path lines tree =
      match tree.write path (Text.unlines (lines.takeWhile Text.isWritable)).encode with
      | .error fault => (.error (.storage fault), tree)
      | .ok next =>
        match lines.findSome? Text.unwritable? with
        | some run => (.error (.storage (.unwritable run)), next)
        | none => (.ok (), next) := by
  have written : ∀ content, storage.write path content tree =
      change (fun tree => tree.write path content) tree := fun _ => rfl
  rw [writeLines, bind_apply, written, change]
  cases tree.write path (Text.unlines (lines.takeWhile Text.isWritable)).encode with
  | error fault => rfl
  | ok next => cases lines.findSome? Text.unwritable? <;> rfl

theorem write_lines_eq_ok : writeLines storage path lines tree = (.ok (), after) ↔
    (∀ line ∈ lines, line.unwritable? = none) ∧
      tree.write path (Text.unlines lines).encode = .ok after := by
  rw [write_lines_apply, ← List.findSome?_eq_none_iff]
  cases free : lines.findSome? Text.unwritable? with
  | some run =>
    cases tree.write path (Text.unlines (lines.takeWhile Text.isWritable)).encode <;>
      simp [outcome_eq]
  | none =>
    have whole : lines.takeWhile Text.isWritable = lines := by
      rw [List.takeWhile_eq_self_iff]
      intro line member
      rw [Text.isWritable, List.findSome?_eq_none_iff.mp free line member]
      rfl
    rw [whole]
    cases tree.write path (Text.unlines lines).encode <;> simp [outcome_eq]

/-- A file of a tree holds the lines, which all can be written. -/
def Holds (tree : FileTree) (file : Path × List Text) : Prop :=
  (∀ line ∈ file.2, line.unwritable? = none) ∧ ∃ location,
    tree.locate file.1 = .ok location ∧ tree.content? location = some (Text.unlines file.2).encode

theorem holds_of_write_lines (written : writeLines storage path lines tree = (.ok (), after)) :
    Grows tree after ∧ Holds after (path, lines) ∧
      ∀ location, after.locate path ≠ .ok location →
        after.content? location = tree.content? location := by
  obtain ⟨writable, put⟩ := write_lines_eq_ok.mp written
  obtain ⟨grows, holds, spares⟩ := holds_of_write put
  exact ⟨grows, ⟨writable, holds⟩, spares⟩

theorem write_all_cons_eq_ok {file : Path × List Text} :
    writeAll storage (file :: files) tree = (.ok (), after) ↔
      ∃ next, writeLines storage file.1 file.2 tree = (.ok (), next) ∧
        writeAll storage files next = (.ok (), after) := by
  rw [writeAll, bind_apply]
  cases writeLines storage file.1 file.2 tree with
  | mk outcome next =>
    cases outcome with
    | error failure =>
      dsimp only
      rw [pure_apply]
      simp [outcome_eq]
    | ok _ => simp [outcome_eq]

theorem write_lines_eq_error {failure : Failure}
    (failed : writeLines storage path lines tree = (.error failure, after)) :
    (∃ fault, failure = .storage fault ∧ after = tree ∧
      ∀ content, tree.write path content = .error fault) ∨
    ∃ run, failure = .storage (.unwritable run) ∧ lines.findSome? Text.unwritable? = some run ∧
      tree.write path (Text.unlines (lines.takeWhile Text.isWritable)).encode = .ok after := by
  rw [write_lines_apply] at failed
  cases wrote : tree.write path (Text.unlines (lines.takeWhile Text.isWritable)).encode with
  | error fault =>
    rw [wrote] at failed
    cases failed
    exact .inl ⟨fault, rfl, rfl, write_eq_error wrote⟩
  | ok next =>
    rw [wrote] at failed
    cases unwritable : lines.findSome? Text.unwritable? with
    | none =>
      rw [unwritable] at failed
      cases failed
    | some run =>
      rw [unwritable] at failed
      cases failed
      exact .inr ⟨run, rfl, rfl, rfl⟩

theorem write_all_eq_error {failure : Failure}
    (failed : writeAll storage files tree = (.error failure, after)) :
    ∃ before file behind middle, files = before ++ file :: behind ∧
      writeAll storage before tree = (.ok (), middle) ∧
      writeLines storage file.1 file.2 middle = (.error failure, after) := by
  induction files generalizing tree with
  | nil => cases failed
  | cons file files induction =>
    rw [writeAll, bind_apply] at failed
    cases first : writeLines storage file.1 file.2 tree with
    | mk outcome next =>
      rw [first] at failed
      cases outcome with
      | error other =>
        cases failed
        exact ⟨[], file, files, tree, rfl, rfl, first⟩
      | ok done =>
        obtain ⟨before, last, behind, middle, rfl, written, fails⟩ := induction failed
        exact ⟨file :: before, last, behind, middle, rfl, write_all_cons_eq_ok.mpr ⟨next, first, written⟩,
          fails⟩

theorem grows_of_write_all (written : writeAll storage files tree = (.ok (), after)) :
    Grows tree after ∧ ∀ location, (∀ file ∈ files, after.locate file.1 ≠ .ok location) →
      after.content? location = tree.content? location := by
  induction files generalizing tree with
  | nil =>
    cases written
    exact ⟨.refl _, fun _ _ => rfl⟩
  | cons file files induction =>
    obtain ⟨next, first, written⟩ := write_all_cons_eq_ok.mp written
    obtain ⟨growsFirst, -, sparesFirst⟩ := holds_of_write_lines first
    obtain ⟨grows, spares⟩ := induction written
    constructor
    · exact growsFirst.trans grows
    · intro location elsewhere
      obtain ⟨away, others⟩ := List.forall_mem_cons.mp elsewhere
      rw [spares location others]
      apply sparesFirst
      intro here
      exact away (grows.locate here)

/-- Files that lie at different places all hold their lines once the last one is written. -/
theorem holds_of_write_all (written : writeAll storage files tree = (.ok (), after))
    (apart : files.Pairwise fun file other => ∀ location,
      after.locate file.1 = .ok location → after.locate other.1 ≠ .ok location) :
    ∀ file ∈ files, Holds after file := by
  induction files generalizing tree with
  | nil => exact fun _ member => nomatch member
  | cons file files induction =>
    obtain ⟨next, first, written⟩ := write_all_cons_eq_ok.mp written
    obtain ⟨away, apart⟩ := List.pairwise_cons.mp apart
    obtain ⟨-, ⟨writable, location, located, content⟩, -⟩ := holds_of_write_lines first
    obtain ⟨grows, spares⟩ := grows_of_write_all written
    have there := grows.locate located
    refine List.forall_mem_cons.mpr ⟨⟨writable, location, there, ?_⟩, ?_⟩
    · rw [spares location fun other member => away other member location there]
      exact content
    · exact induction written apart

theorem write_all_again (held : ∀ file ∈ files, Holds tree file) :
    writeAll storage files tree = (.ok (), tree) := by
  induction files with
  | nil => rfl
  | cons file files induction =>
    obtain ⟨⟨writable, location, located, content⟩, others⟩ := List.forall_mem_cons.mp held
    have found := content_eq_some.mp content
    have free : ¬ tree.IsFolderAt location := by
      rintro ⟨inside, folder⟩
      rw [found] at folder
      cases folder
    have same : tree.put location (.file (Text.unlines file.2).encode) = tree := by
      rw [FileTree.put, Entry.put_of_at? found]
    have first : writeLines storage file.1 file.2 tree = (.ok (), tree) :=
      write_lines_eq_ok.mpr ⟨writable, write_eq_ok.mpr ⟨location, located, free, same.symm⟩⟩
    exact write_all_cons_eq_ok.mpr ⟨tree, first, induction others⟩

/-- What saving files into a folder makes of a tree. -/
structure Saved (files : List (Path × List Text)) (tree after : FileTree) : Prop
    extends Grows tree after where
  holds : ∀ file ∈ files, Holds after file
  spares : ∀ location, (∀ file ∈ files, after.locate file.1 ≠ .ok location) →
    after.content? location = tree.content? location
  again : save storage files after = (.ok (), after)

theorem save_cons_eq_ok {file : Path × List Text} :
    save storage (file :: files) tree = (.ok (), after) ↔
      ∃ middle, storage.makeFolders file.1.parent tree = (.ok (), middle) ∧
        writeAll storage (file :: files) middle = (.ok (), after) := by
  rw [save, bind_apply]
  cases storage.makeFolders file.1.parent tree with
  | mk outcome middle =>
    cases outcome with
    | error fault =>
      dsimp only
      rw [pure_apply]
      simp [outcome_eq]
    | ok _ => simp [outcome_eq]

theorem save_eq_error {failure : Failure}
    (failed : save storage files tree = (.error failure, after)) :
    ∃ file rest, files = file :: rest ∧
      ((∃ fault, failure = .storage fault ∧
        storage.makeFolders file.1.parent tree = (.error fault, after)) ∨
      ∃ middle, storage.makeFolders file.1.parent tree = (.ok (), middle) ∧
        writeAll storage (file :: rest) middle = (.error failure, after)) := by
  cases files with
  | nil => cases failed
  | cons file rest =>
    refine ⟨file, rest, rfl, ?_⟩
    rw [save, bind_apply] at failed
    cases made : storage.makeFolders file.1.parent tree with
    | mk outcome middle =>
      rw [made] at failed
      cases outcome with
      | error fault =>
        cases failed
        exact .inl ⟨fault, rfl, rfl⟩
      | ok done => exact .inr ⟨middle, rfl, failed⟩

theorem saved_of_save (saved : save storage files tree = (.ok (), after))
    (apart : files.Pairwise fun file other => ∀ location,
      after.locate file.1 = .ok location → after.locate other.1 ≠ .ok location) :
    Saved files tree after := by
  cases files with
  | nil =>
    cases saved
    exact ⟨.refl _, (fun _ member => nomatch member), fun _ _ => rfl, rfl⟩
  | cons file files =>
    obtain ⟨middle, made, written⟩ := save_cons_eq_ok.mp saved
    obtain ⟨gains, stands⟩ := make_folders_gains made
    obtain ⟨grows, spares⟩ := grows_of_write_all written
    have held := holds_of_write_all written apart
    have again : storage.makeFolders file.1.parent after = (.ok (), after) := by
      apply make_folders_again
      intro some
      obtain ⟨location, located, folder⟩ := stands some
      exact ⟨location, grows.locate located, grows.folders folder⟩
    constructor
    · exact gains.toGrows.trans grows
    · exact held
    · intro location elsewhere
      rw [spares location elsewhere, gains.files]
    · exact save_cons_eq_ok.mpr ⟨after, again, write_all_again held⟩

end Job

end PrintParts
