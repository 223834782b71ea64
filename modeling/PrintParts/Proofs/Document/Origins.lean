import PrintParts.Proofs.Document.Rangewise

/-!
Where the lines of a document come from: the program, or the scaffold around it. Nothing but the layers
comes from the program, so the lines that do are the bodies of the layers of the part.
-/

namespace PrintParts

inductive Origin where
  | program
  | scaffold
  deriving DecidableEq

namespace Origin

/-- The lines that come from the program. -/
def programLines (lines : List (Origin × Text)) : List Text :=
  (lines.filter fun line => line.1 = .program).map (·.2)

theorem program_lines_append (first second : List (Origin × Text)) :
    programLines (first ++ second) = programLines first ++ programLines second := by
  rw [programLines, List.filter_append, List.map_append]
  rfl

theorem program_lines_of_program (lines : List Text) :
    programLines (lines.map (Prod.mk Origin.program)) = lines := by
  rw [programLines, List.filter_map, List.map_map, List.filter_eq_self.mpr]
  · exact List.map_id lines
  · exact fun _ _ => rfl

theorem program_lines_of_scaffold (lines : List Text) :
    programLines (lines.map (Prod.mk Origin.scaffold)) = [] := by
  rw [programLines, List.filter_map, List.filter_eq_nil_iff.mpr]
  · rfl
  · exact fun _ _ => Bool.false_ne_true

theorem program_lines_flat_map {Value : Type} (values : List Value)
    (lines : Value → List (Origin × Text)) :
    programLines (values.flatMap lines) = values.flatMap fun value => programLines (lines value) := by
  induction values with
  | nil => rfl
  | cons value values induction =>
    rw [List.flatMap_cons, program_lines_append, induction, List.flatMap_cons]

theorem lines_of_origin (origin : Origin) (lines : List Text) :
    (lines.map (Prod.mk origin)).map (·.2) = lines := by
  rw [List.map_map]
  exact List.map_id lines

end Origin

namespace Document

open Origin

/-- The lines of a layer: its own between a banner and what may follow the first layer. -/
def layerOrigins (document : Document) (position : Nat) (layer : Layer) : List (Origin × Text) :=
  let written := document.layerLines position layer
  (written.take 1).map (Prod.mk .scaffold) ++ layer.lines.toList.map (Prod.mk .program) ++
    (written.drop (1 + layer.lines.size)).map (Prod.mk .scaffold)

/-- The lines of a document, each with its origin. Nothing but the layers comes from the program. -/
def origins (document : Document) (sourceName : Text) : List (Origin × Text) :=
  let written := document.lines sourceName
  let layers := document.layers.zipIdx.flatMap fun (layer, position) =>
    document.layerOrigins position layer
  let front := document.opening.length + 2
  (written.take front).map (Prod.mk .scaffold) ++ layers ++
    (written.drop (front + layers.length)).map (Prod.mk .scaffold)

theorem splice_eq (front middle behind : List Text) :
    (front ++ (middle ++ behind)).take front.length ++ middle ++
      (front ++ (middle ++ behind)).drop (front.length + middle.length) =
        front ++ (middle ++ behind) := by
  rw [List.take_left, ← List.drop_drop, List.drop_left, List.drop_left, List.append_assoc]

variable (document : Document)

theorem layer_origins_lines (position : Nat) (layer : Layer) :
    (document.layerOrigins position layer).map (·.2) = document.layerLines position layer := by
  simp only [layerOrigins, List.map_append, lines_of_origin]
  exact splice_eq [_] layer.lines.toList _

theorem layer_program_lines (position : Nat) (layer : Layer) :
    programLines (document.layerOrigins position layer) = layer.lines.toList := by
  simp only [layerOrigins, program_lines_append, program_lines_of_scaffold, program_lines_of_program,
    List.nil_append, List.append_nil]

theorem origins_lines (sourceName : Text) :
    (document.origins sourceName).map (·.2) = document.lines sourceName := by
  have layers : (document.layers.zipIdx.flatMap fun (layer, position) =>
      document.layerOrigins position layer).map (·.2) =
      document.layers.zipIdx.flatMap fun (layer, position) =>
        document.layerLines position layer := by
    rw [List.map_flatMap]
    simp only [layer_origins_lines]
  have length := congrArg List.length layers
  rw [List.length_map] at length
  obtain ⟨front, behind, size, written⟩ : ∃ front behind,
      front.length = document.opening.length + 2 ∧ document.lines sourceName =
        front ++ ((document.layers.zipIdx.flatMap fun (layer, position) =>
          document.layerLines position layer) ++ behind) :=
    ⟨_ :: (document.opening ++ [_]), _ :: document.closing, by simp,
      by rw [lines, List.cons_append, List.append_assoc document.opening, List.singleton_append]⟩
  simp only [origins, List.map_append, lines_of_origin, layers, length, ← size]
  rw [written]
  exact splice_eq front _ behind

theorem program_lines_eq (sourceName : Text) :
    programLines (document.origins sourceName) = document.bodyLines := by
  have layers : (document.layers.zipIdx.flatMap fun entry => entry.1.lines.toList) =
      document.layers.flatMap fun layer => layer.lines.toList := by
    calc document.layers.zipIdx.flatMap (fun entry => entry.1.lines.toList)
        _ = (document.layers.zipIdx.map Prod.fst).flatMap fun layer => layer.lines.toList :=
          (List.flatMap_map Prod.fst (fun layer : Layer => layer.lines.toList) _).symm
        _ = document.layers.flatMap fun layer => layer.lines.toList := by rw [List.zipIdx_map_fst]
  simp only [origins, program_lines_append, program_lines_of_scaffold, program_lines_flat_map,
    layer_program_lines, List.nil_append, List.append_nil, layers, bodyLines]

/-- What the documents of a print take from the program are the bodies of the layers from the start on. -/
theorem program_lines_of_documents {generator : Generator} {print : Print} {plan : Plan}
    {documents : List Document} (complete : plan.layerCount = print.layers.size)
    (related : List.Forall₂ (IsOfRange generator print) plan.parts documents) (sourceName : Text) :
    (documents.flatMap fun document => programLines (document.origins sourceName)) =
      (print.layers.toList.drop plan.startLayer).flatMap fun layer => layer.lines.toList := by
  rw [← layers_of_documents complete related, List.flatMap_assoc]
  simp only [program_lines_eq]
  rfl

end Document

end PrintParts
