import PrintParts.Proofs.Job.Transaction

/-!
What a run leaves behind that fails while it saves. The parts are written one after the other, and nothing
takes back those that have been written when a later one cannot be. Only if there is none in front of it, or
if they were there already, all files are as before.
-/

namespace PrintParts

namespace Job

open FileTree

/-- What is left in a tree when saving stops: the parts below `whole` are complete, and no file has changed
but those of the parts below `opened`. -/
structure Leaves (job : Job) (output : Path) (documents : List Document) (whole opened : Nat)
    (tree after : FileTree) : Prop extends Grows tree after where
  complete : ∀ part < whole, ∀ document, documents[part]? = some document →
    after.read (job.partPath output part) =
      .ok (Text.unlines (document.lines job.input.name)).encode
  spares : ∀ location, (∀ part < opened, after.locate (job.partPath output part) ≠ .ok location) →
    after.content? location = tree.content? location

variable {tree middle after : FileTree} {job : Job} {output : Path} {documents : List Document}
  {part : Nat} {print : Print} {plan : Plan} {prepared : Prepared}

/-- The files are all as before exactly if the complete parts held what they hold now. -/
theorem Leaves.gains_folders_iff (leaves : job.Leaves output documents part part tree after)
    (known : part ≤ documents.length) :
    GainsFolders tree after ↔ ∀ earlier < part, ∀ document location,
      documents[earlier]? = some document →
      after.locate (job.partPath output earlier) = .ok location →
      tree.content? location = some (Text.unlines (document.lines job.input.name)).encode := by
  have holds : ∀ earlier < part, ∀ document location, documents[earlier]? = some document →
      after.locate (job.partPath output earlier) = .ok location →
      after.content? location = some (Text.unlines (document.lines job.input.name)).encode := by
    intro earlier below document location found located
    obtain ⟨place, there, content⟩ := read_eq_ok.mp (leaves.complete earlier below document found)
    cases located.symm.trans there
    exact content
  constructor
  · intro gains earlier below document location found located
    rw [← gains.files]
    exact holds earlier below document location found located
  · intro held
    refine ⟨leaves.toGrows, fun location => ?_⟩
    by_cases isPart : ∃ earlier < part, after.locate (job.partPath output earlier) = .ok location
    · obtain ⟨earlier, below, located⟩ := isPart
      have found := List.getElem?_eq_getElem (below.trans_le known)
      rw [held earlier below _ location found located, holds earlier below _ location found located]
    · exact leaves.spares location fun earlier below located => isPart ⟨earlier, below, located⟩

theorem Leaves.of_write {content : List UInt8} (leaves : job.Leaves output documents part part tree middle)
    (written : middle.write (job.partPath output part) content = .ok after) :
    job.Leaves output documents part (part + 1) tree after := by
  obtain ⟨grows, -, spares⟩ := holds_of_write written
  refine ⟨leaves.toGrows.trans grows, ?_, ?_⟩
  · intro earlier below document found
    obtain ⟨location, located, content⟩ := read_eq_ok.mp (leaves.complete earlier below document found)
    have there := grows.locate located
    refine read_eq_ok.mpr ⟨location, there, ?_⟩
    rw [spares location (part_locations_differ below.ne there), content]
  · intro location elsewhere
    rw [spares location (elsewhere part part.lt_succ_self)]
    apply leaves.spares
    intro earlier below located
    exact elsewhere earlier (below.trans part.lt_succ_self) (grows.locate located)

theorem leaves_of_write_all {before rest : List (Path × List Text)}
    (prepares : job.Prepares print plan output prepared)
    (whole : job.files prepared = before ++ rest) (gains : GainsFolders tree middle)
    (written : writeAll storage before middle = (.ok (), after)) :
    job.Leaves output prepared.documents before.length before.length tree after := by
  have fileAt : ∀ earlier < before.length, before[earlier]? =
      prepared.documents[earlier]?.map fun document =>
        (job.partPath output earlier, document.lines job.input.name) := by
    intro earlier below
    rw [← file_at prepares, whole, List.getElem?_append_left below]
  obtain ⟨grows, spares⟩ := grows_of_write_all written
  have apart := files_apart prepares after
  rw [whole, List.pairwise_append] at apart
  have held := holds_of_write_all written apart.1
  refine ⟨gains.toGrows.trans grows, ?_, ?_⟩
  · intro earlier below document found
    have file := fileAt earlier below
    rw [found, Option.map_some] at file
    obtain ⟨-, place, there, content⟩ := held _ (List.mem_of_getElem? file)
    exact read_eq_ok.mpr ⟨place, there, content⟩
  · intro location elsewhere
    rw [← gains.files]
    apply spares
    intro file member
    obtain ⟨earlier, found⟩ := List.getElem?_of_mem member
    have below := (List.getElem?_eq_some_iff.mp found).1
    rw [fileAt earlier below] at found
    obtain ⟨document, -, rfl⟩ := Option.map_eq_some_iff.mp found
    exact elsewhere earlier below

/-- Where a run stops that fails. Either nothing has been prepared, and the tree is as before. Or the folder
of the parts cannot be made. Or a part cannot be written: because one of its lines has no bytes, or because
its path cannot be opened. The parts in front of that one stay, so all files are as before exactly if each
of these held already what it holds now; in particular if it is the first part that cannot be opened. -/
theorem failed_run_leaves {folder : ProfileFolder} {request : Request} {failure : Failure}
    (failed : run storage folder request tree = (.error failure, after)) :
    (after = tree ∧ ∀ job prepared, gather storage folder request tree = (.ok job, tree) →
      job.prepare ≠ .ok prepared) ∨
    ∃ job prepared print plan output, gather storage folder request tree = (.ok job, tree) ∧
      job.prepare = .ok prepared ∧ job.Prepares print plan output prepared ∧
      ((∃ fault, failure = .storage fault ∧ storage.makeFolders output tree = (.error fault, after) ∧
        GainsFolders tree after) ∨
      ∃ part document, prepared.documents[part]? = some document ∧
        ((∃ run, failure = .storage (.unwritable run) ∧
          (document.lines job.input.name).findSome? Text.unwritable? = some run ∧
          job.Leaves output prepared.documents part (part + 1) tree after) ∨
        ∃ fault, failure = .storage fault ∧
          (∀ content, after.write (job.partPath output part) content = .error fault) ∧
          job.Leaves output prepared.documents part part tree after ∧
          (GainsFolders tree after ↔ ∀ earlier < part, ∀ document location,
            prepared.documents[earlier]? = some document →
            after.locate (job.partPath output earlier) = .ok location →
            tree.content? location = some (Text.unlines (document.lines job.input.name)).encode))) := by
  rcases run_eq_error failed with ⟨same, unprepared⟩ | ⟨job, prepared, read, ready, unsaved⟩
  · refine .inl ⟨same, fun job prepared gathers => unprepared job prepared ?_⟩
    rw [gather_apply] at gathers
    exact (outcome_eq.mp gathers).1
  right
  obtain ⟨print, plan, output, prepares⟩ := prepares_of_prepare ready
  refine ⟨job, prepared, print, plan, output, by rw [gather_apply, read], ready, prepares, ?_⟩
  obtain ⟨file, rest, first, stopped⟩ := save_eq_error unsaved
  have place : file.1.parent = output := by
    have found := file_at prepares 0
    rw [first, List.getElem?_cons_zero] at found
    obtain ⟨document, -, rfl⟩ := Option.map_eq_some_iff.mp found.symm
    rw [part_path_eq, Path.parent_child]
  rw [place] at stopped
  rcases stopped with ⟨fault, isFault, blocked⟩ | ⟨opened, made, unwritten⟩
  · exact .inl ⟨fault, isFault, blocked, gains_of_make_folders blocked⟩
  · right
    rw [← first] at unwritten
    obtain ⟨before, last, behind, middle, whole, written, stops⟩ := write_all_eq_error unwritten
    have found := file_at prepares before.length
    rw [whole, List.getElem?_append_right (Nat.le_refl _), Nat.sub_self, List.getElem?_cons_zero] at found
    obtain ⟨document, isDocument, same⟩ := Option.map_eq_some_iff.mp found.symm
    subst same
    have leaves := leaves_of_write_all prepares whole (gains_of_make_folders made) written
    refine ⟨before.length, document, isDocument, ?_⟩
    rcases write_lines_eq_error stops with ⟨fault, isFault, rfl, blocked⟩ | ⟨run, isRun, none, begun⟩
    · refine .inr ⟨fault, isFault, blocked, leaves, leaves.gains_folders_iff ?_⟩
      exact (List.getElem?_eq_some_iff.mp isDocument).1.le
    · exact .inl ⟨run, isRun, none, leaves.of_write begun⟩

def blockedBench : FileTree :=
  workbench.put [Text.of "work", Text.of "box.v2.1.gcode"] (.folder [])

def besideRequest : Request := { workbenchRequest with outputFolder := .nothing }

def firstPlace : Location := [Text.of "work", Text.of "box.v2.0.gcode"]

def secondPath : Path := Path.ofText (Text.of "box.v2.1.gcode")

theorem second_part_blocked : ∃ after,
    run storage .bundled besideRequest blockedBench =
      (.error (.storage (.isADirectory secondPath.toText)), after) ∧
    failureOf? (after.write secondPath []) = some (.isADirectory secondPath.toText) ∧
    blockedBench.content? firstPlace = none ∧ after.content? firstPlace ≠ none := by
  have checked : failureOf? (run storage .bundled besideRequest blockedBench).1 =
        some (.storage (.isADirectory secondPath.toText)) ∧
      failureOf? ((run storage .bundled besideRequest blockedBench).2.write secondPath []) =
        some (.isADirectory secondPath.toText) ∧
      blockedBench.content? firstPlace = none ∧
      (run storage .bundled besideRequest blockedBench).2.content? firstPlace ≠ none := by
    decide +kernel
  generalize run storage .bundled besideRequest blockedBench = result at checked ⊢
  obtain ⟨outcome, after⟩ := result
  exact ⟨after, outcome_eq.mpr ⟨failure_of_eq_some.mp checked.1, rfl⟩, checked.2⟩

theorem failed_run_leaves_first_part : ∃ after job prepared print plan output part fault,
    run storage .bundled besideRequest blockedBench = (.error (.storage fault), after) ∧
    gather storage .bundled besideRequest blockedBench = (.ok job, blockedBench) ∧
    job.Prepares print plan output prepared ∧ 0 < part ∧
    (∀ content, after.write (job.partPath output part) content = .error fault) ∧
    job.Leaves output prepared.documents part part blockedBench after := by
  obtain ⟨after, failed, -, absent, present⟩ := second_part_blocked
  have changed : ¬ GainsFolders blockedBench after := by
    intro gains
    rw [gains.files, absent] at present
    exact present rfl
  rcases failed_run_leaves failed with
    ⟨same, -⟩ | ⟨job, prepared, print, plan, output, read, -, prepares, stops⟩
  · exact absurd (same ▸ GainsFolders.refl _) changed
  rcases stops with ⟨-, -, -, gains⟩ | ⟨part, document, -, ⟨run, unwritable, -⟩ | blocked⟩
  · exact absurd gains changed
  · cases unwritable
  · obtain ⟨fault, isFault, unopened, leaves, kept⟩ := blocked
    have later : 0 < part := by
      refine Nat.pos_of_ne_zero fun none => changed (kept.mpr ?_)
      exact fun earlier below => absurd (none ▸ below) (Nat.not_lt_zero earlier)
    exact ⟨after, job, prepared, print, plan, output, part, fault, isFault ▸ failed, read, prepares, later,
      unopened, leaves⟩

/-- A run writes its first part and fails at the second one, whose path is that of a folder. -/
theorem first_part_outlives_blocked_second : ∃ after fault,
    run storage .bundled besideRequest blockedBench = (.error (.storage fault), after) ∧
    (∀ content, after.write secondPath content = .error fault) ∧
    blockedBench.content? firstPlace = none ∧ after.content? firstPlace ≠ none := by
  obtain ⟨after, failed, blocked, changed⟩ := second_part_blocked
  exact ⟨after, _, failed, write_eq_error (failure_of_eq_some.mp blocked), changed⟩

end Job

end PrintParts
