import PrintParts.Proofs.Job.Gathering
import PrintParts.Proofs.Job.Prepared

/-!
A job is all or nothing up to the moment when it saves: whatever is wrong with the profile, the program
or the request leaves the tree as it is. A job that is done has written its parts and no other file, and
doing it once more changes nothing, unless it finds another profile then: a part can have replaced it,
and the folder of the parts can be what its path had been missing.
-/

namespace PrintParts

namespace FileTree

variable {tree after : FileTree} {place : Location} {path : Path}

end FileTree

namespace ProfileFolder

open FileTree

end ProfileFolder

namespace Job

open FileTree

variable {tree after : FileTree} {folder : ProfileFolder} {request : Request} {job : Job}
  {output : Path} {documents : List Document}

theorem name_of_part_location {part : Nat} {location : Location}
    (located : after.locate (job.partPath output part) = .ok location) :
    ∃ place, location = place ++ [job.partName part] := by
  rw [part_path_eq] at located
  obtain ⟨-, place, -, -, -, same⟩ :=
    (locate_child_eq_ok (job.part_name_ne_back part)).mp located
  exact ⟨place, same⟩

theorem part_locations_differ {part other : Nat} (different : part ≠ other) {location : Location}
    (here : after.locate (job.partPath output part) = .ok location) :
    after.locate (job.partPath output other) ≠ .ok location := by
  intro there
  obtain ⟨place, rfl⟩ := name_of_part_location here
  obtain ⟨_, same⟩ := name_of_part_location there
  obtain ⟨-, names⟩ := List.append_inj' same rfl
  exact different (part_name_injective (List.singleton_inj.mp names))

variable {print : Print} {plan : Plan} {prepared : Prepared}

theorem document_count (prepares : job.Prepares print plan output prepared) :
    prepared.documents.length = plan.totalParts := by
  have parts := congrArg List.length prepares.parts
  rwa [List.length_map, Plan.parts, List.length_map, List.length_range] at parts

theorem file_paths (prepares : job.Prepares print plan output prepared) :
    (job.files prepared).map (·.1) = (List.range plan.totalParts).map (job.partPath output) := by
  rw [files, prepares.paths]
  apply List.map_fst_zip
  rw [List.length_map, List.length_map, List.length_range, document_count prepares]

theorem file_at (prepares : job.Prepares print plan output prepared) (part : Nat) :
    (job.files prepared)[part]? = prepared.documents[part]?.map fun document =>
      (job.partPath output part, document.lines job.input.name) := by
  rw [files, prepares.paths]
  cases found : prepared.documents[part]? with
  | none =>
    rw [List.getElem?_eq_none_iff] at found
    rw [Option.map_none, List.getElem?_eq_none_iff, List.length_zip, List.length_map, List.length_map]
    exact (Nat.min_le_right _ _).trans found
  | some document =>
    obtain ⟨inside, -⟩ := List.getElem?_eq_some_iff.mp found
    rw [document_count prepares] at inside
    rw [Option.map_some, List.getElem?_zip_eq_some]
    constructor
    · simp [inside]
    · simp [found]

theorem file_of_document (prepares : job.Prepares print plan output prepared) {part : Nat}
    {document : Document} (found : prepared.documents[part]? = some document) :
    (job.partPath output part, document.lines job.input.name) ∈ job.files prepared := by
  apply List.mem_of_getElem? (i := part)
  rw [file_at prepares, found, Option.map_some]

theorem read_of_part (prepares : job.Prepares print plan output prepared)
    (saved : Saved (job.files prepared) tree after) {part : Nat} {document : Document}
    (found : prepared.documents[part]? = some document) :
    after.read (job.partPath output part) =
      .ok (Text.unlines (document.lines job.input.name)).encode := by
  obtain ⟨-, place, there, content⟩ := saved.holds _ (file_of_document prepares found)
  exact read_eq_ok.mpr ⟨place, there, content⟩

theorem files_apart (prepares : job.Prepares print plan output prepared) (after : FileTree) :
    (job.files prepared).Pairwise fun file other => ∀ location,
      after.locate file.1 = .ok location → after.locate other.1 ≠ .ok location := by
  have paths : ((job.files prepared).map (·.1)).Pairwise fun path other => ∀ location,
      after.locate path = .ok location → after.locate other ≠ .ok location := by
    rw [file_paths prepares, List.pairwise_map]
    apply List.nodup_range.imp
    intro part other different location here
    exact part_locations_differ different here
  exact List.pairwise_map.mp paths

def twoLayerProgram : List Text := [
  Text.of "M140 S60", Text.of "M104 S210", Text.of "G92 E0", Text.of ";LAYER_COUNT:2",
  Text.of ";LAYER:0", Text.of "G0 X40 Y40 Z0.2", Text.of "G1 X60 E1\r",
  Text.of ";LAYER:1", Text.of "G0 X40 Y40 Z0.4", Text.of "G1 X60 E2",
  Text.of ";-- end code begin --"]

def workbench : FileTree :=
  (FileTree.empty [Text.of "work"]).put [Text.of "work", Text.of "box.v2.gcode"]
    (.file (Text.unlines twoLayerProgram).encode)

/-- Two parts for a folder in a folder, neither of which is there. -/
def workbenchRequest : Request where
  input := .name (Text.of "box.v2.gcode")
  parts := .integer 2
  outputFolder := .name (Text.of "out/new")

end Job

end PrintParts
