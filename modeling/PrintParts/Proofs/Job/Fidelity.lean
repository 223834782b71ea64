import PrintParts.Proofs.Document.Origins
import PrintParts.Proofs.Job.Transaction
import PrintParts.Proofs.Recording.Whole
import PrintParts.Proofs.Text.ByteLines

/-!
A job hands the lines of its program on byte for byte. The lines of the parts that come from the program
are, over all parts, the bytes of the input between its line ends, from the layer on at which the
division starts.
-/

namespace PrintParts

theorem encode_chomp_decode {line : List UInt8} (free : IsLineFree line) :
    (Text.decode line).chomp.encode = line := by
  rw [Text.chomp_line_free (Text.decode_line_free free), Text.encode_decode]

theorem Print.byte_bodies_of_layers {policy : OverridePolicy} {bytes : List UInt8} {print : Print}
    (recorded : ofBytes policy bytes = .ok print) :
    print.layers.toList.map (fun layer => layer.lines.toList.map Text.encode) =
      layerBodies Text.decode (byteLines bytes) := by
  have bodies := congrArg (List.map (List.map Text.encode)) (bodies_of_layers recorded)
  rw [Text.lines_of_decode, layer_bodies_map Text.decode Text.decode fun _ => rfl, List.map_map,
    List.map_map, List.map_map] at bodies
  refine bodies.trans (Eq.trans ?_ (List.map_id _))
  apply List.map_congr_left
  intro body member
  rw [Function.comp_apply, Function.comp_apply, List.map_map, List.map_map, id]
  refine Eq.trans ?_ (List.map_id _)
  apply List.map_congr_left
  intro line inside
  have recorded : line ∈ layerBody Text.decode (byteLines bytes) ++
      (layerBodies Text.decode (byteLines bytes)).flatten :=
    List.mem_append_right _ (List.mem_flatten.mpr ⟨body, member, inside⟩)
  exact encode_chomp_decode (line_free_of_mem_byte_lines line
    ((layer_bodies_sublist Text.decode _).subset recorded))

theorem Text.encode_unlines (lines : List Text) :
    (unlines lines).encode = lines.flatMap fun line => line.encode ++ [10] := by
  induction lines with
  | nil => rfl
  | cons line lines induction =>
    rw [List.flatMap_cons, ← induction, unlines, List.flatMap_cons, encode_append, encode_append]
    rfl

namespace Job

open FileTree

variable {tree after : FileTree} {folder : ProfileFolder} {request : Request} {job : Job}
  {print : Print} {plan : Plan} {output : Path} {prepared : Prepared}

theorem program_lines_of_prepared (prepares : job.Prepares print plan output prepared) :
    (prepared.documents.flatMap fun document =>
      Origin.programLines (document.origins job.input.name)).map Text.encode =
        ((layerBodies Text.decode (byteLines job.program)).drop plan.startLayer).flatten := by
  rw [Document.program_lines_of_documents (plan_of_division prepares.divided).1
      (documents_of_prepared prepares.recorded prepares.divided prepares.rendered),
    ← Print.byte_bodies_of_layers prepares.recorded, ← List.map_drop, List.map_flatMap,
    List.flatMap_def]

theorem files_of_origins (prepares : job.Prepares print plan output prepared)
    (saved : Saved (job.files prepared) tree after) :
    List.Forall₂ (fun path document => after.read path =
      .ok ((Document.origins document job.input.name).flatMap fun line => line.2.encode ++ [10]))
      prepared.report.paths prepared.documents := by
  apply List.forall₂_iff_get.mpr
  constructor
  · rw [prepares.paths, List.length_map, List.length_range, document_count prepares]
  · intro part inside other
    have reads := read_of_part prepares saved (List.getElem?_eq_getElem other)
    have path : prepared.report.paths.get ⟨part, inside⟩ = job.partPath output part := by
      simp [prepares.paths]
    rw [path, reads, Text.encode_unlines, ← Document.origins_lines, List.flatMap_map]
    rfl

/-- The files of the parts consist of lines that are marked by where they come from. Those that come
from the program are the lines of the bodies of its layers, byte for byte, from the layer on that is
asked for as the start. -/
theorem bodies_pass_through {report : Report}
    (done : run storage folder request tree = (.ok report, after)) :
    ∃ job prepared print, ∃ start : Nat, gather storage folder request tree = (.ok job, tree) ∧
      tree.read job.input = .ok job.program ∧ job.prepare = .ok prepared ∧
      prepared.report = report ∧ Print.ofBytes job.policy job.program = .ok print ∧
      print.layers.toList.map (fun layer => layer.lines.toList.map Text.encode) =
        layerBodies Text.decode (byteLines job.program) ∧
      request.startLayer.isInteger start = true ∧
      List.Forall₂ (fun path document => after.read path =
        .ok ((Document.origins document job.input.name).flatMap fun line => line.2.encode ++ [10]))
        report.paths prepared.documents ∧
      (prepared.documents.flatMap fun document =>
        Origin.programLines (document.origins job.input.name)).map (fun line => line.encode ++ [10]) =
        ((layerBodies Text.decode (byteLines job.program)).drop start).flatten.map (· ++ [10]) := by
  obtain ⟨job, prepared, read, ready, save, same⟩ := run_eq_ok.mp done
  obtain ⟨print, plan, output, prepares⟩ := prepares_of_prepare ready
  obtain ⟨asked, -, -, -, -, reads⟩ := gathered_eq_ok.mp read
  have saved := saved_of_save save (files_apart prepares after)
  refine ⟨job, prepared, print, plan.startLayer, by rw [gather_apply, read], reads, ready, same,
    prepares.recorded, Print.byte_bodies_of_layers prepares.recorded, ?_, ?_, ?_⟩
  · rw [← asked]
    exact (plan_of_division prepares.divided).2
  · exact same ▸ files_of_origins prepares saved
  · rw [← program_lines_of_prepared prepares, List.map_map]
    rfl

/-- A character cut short in front of a carriage return, a newline in two bytes in front of a proper line
end, and half of a pair; the last line does not end. -/
def strayBytes : List UInt8 :=
  (Text.unlines [Text.of "M140 S60", Text.of "M104 S210", Text.of "G92 E0",
    Text.of ";LAYER_COUNT:2", Text.of ";LAYER:0", Text.of "G0 X40 Y40 Z0.2"]).encode ++
  (Text.of "G1 X60 E1 ;").encode ++ [0xE2, 0x82, 13] ++
  (Text.of "G1 X70 E2 ;").encode ++ [0xC0, 0x8A, 13, 10] ++
  (Text.unlines [Text.of ";LAYER:1", Text.of "G0 X40 Y40 Z0.4"]).encode ++
  (Text.of "G1 X60 E3 ;").encode ++ [0xED, 0xA0, 0x80, 10] ++
  (Text.of ";-- end code begin --").encode

def strayTree : FileTree :=
  (FileTree.empty []).put [Text.of "stray.gcode"] (.file strayBytes)

def strayRequest : Request where
  input := .name (Text.of "stray.gcode")
  parts := .integer 2

theorem bodies_pass_through_stray_bytes : ∃ report after job prepared,
    run storage .bundled strayRequest strayTree = (.ok report, after) ∧
    List.Forall₂ (fun path document => after.read path =
      .ok ((Document.origins document (Job.input job).name).flatMap fun line =>
        line.2.encode ++ [10])) report.paths (Prepared.documents prepared) ∧
    (prepared.documents.flatMap fun document =>
      Origin.programLines (document.origins job.input.name)).map (fun line => line.encode ++ [10]) =
      [(Text.of "G0 X40 Y40 Z0.2").encode ++ [10],
        (Text.of "G1 X60 E1 ;").encode ++ [0xE2, 0x82, 10],
        (Text.of "G1 X70 E2 ;").encode ++ [0xC0, 0x8A, 10],
        (Text.of "G0 X40 Y40 Z0.4").encode ++ [10],
        (Text.of "G1 X60 E3 ;").encode ++ [0xED, 0xA0, 0x80, 10]] := by
  have checked : succeedsWith (fun _ => true) (run storage .bundled strayRequest strayTree).1 = true := by
    decide +kernel
  obtain ⟨report, after, done⟩ := exists_of_run checked
  obtain ⟨job, prepared, print, start, read, reads, -, -, -, -, asked, files, bodies⟩ :=
    bodies_pass_through done
  rw [gather_apply] at read
  obtain ⟨-, -, text, given, input, -⟩ := gathered_eq_ok.mp (outcome_eq.mp read).1
  cases given
  have program : job.program = strayBytes := by
    have found : strayTree.read (Path.ofText (Text.of "stray.gcode")) = .ok strayBytes := by
      decide +kernel
    rw [input, found] at reads
    exact (Except.ok.inj reads).symm
  have fromStart : start = 0 := (Int.natCast_eq_zero.mp (eq_of_beq asked).symm)
  refine ⟨report, after, job, prepared, done, files, bodies.trans ?_⟩
  rw [program, fromStart]
  decide +kernel

end Job

end PrintParts
