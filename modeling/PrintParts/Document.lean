import PrintParts.Plan
import PrintParts.Print.Recorder
import PrintParts.Scaffold.Check
import PrintParts.Scaffold.Closing
import PrintParts.Scaffold.Opening

/-!
The documents of a print, one for each part: the layers of the part as they were recorded, between an
opening and a closing scaffold. The layers are walked through once. A part is begun at its first layer
and closed when the next part begins or the print ends, and every scaffold is checked as soon as it is
made, so the first fault is the one that comes first in the finished files.
-/

namespace PrintParts

/-- One part as it will be written. -/
structure Document where
  part : PartRange
  opening : List Text
  layers : List Layer
  afterFirstLayer : List Text
  closing : List Text
  warnings : List Text

/-- Where the scaffolds come from, and the height that they must not exceed. -/
structure Generator where
  maxZ : Binary64
  opening : Print → Layer → Int → Except Failure (List Text)
  afterFirstLayer : Layer → Except Failure (List Text)
  closing : Layer → Int → Int → Except Failure (List Text)

abbrev Checker := Scaffold.CheckContext → List Text → Except Failure (List Issue)

def Generator.ofSettings (settings : Scaffold.Settings) : Generator where
  maxZ := settings.maxZ
  opening print layer part :=
    (settings.opening print layer part).map fun lines => lines.map Scaffold.Line.toText
  afterFirstLayer layer :=
    ((Scaffold.afterFirstLayer layer).map fun lines => lines.map Scaffold.Line.toText).mapError
      Fault.raise
  closing layer part totalParts :=
    ((settings.closing layer part totalParts).map fun lines =>
      lines.map Scaffold.Line.toText).mapError Fault.raise

def warningText (part : Nat) (kind : Scaffold.Kind) (issue : Issue) : Text :=
  Text.of "part " ++ Text.ofNat part ++ Text.of " " ++ Text.of kind.label ++ Text.of " " ++
    issue.report

/-- Checks a scaffold. It comes back with its warnings, unless it has errors. -/
def checkedScaffold (check : Checker) (maxZ : Binary64) (part : Nat) (kind : Scaffold.Kind)
    (lines : List Text) : Except Failure (List Text × List Text) := do
  let issues ← check ⟨kind, part, maxZ⟩ lines
  let errors := Issue.errors issues
  if errors = [] then .ok (lines, (Issue.warnings issues).map (warningText part kind))
  else .error (Fault.scaffoldRejected part kind errors).raise

/-- A part whose closing is still to come. -/
structure OpenPart where
  part : PartRange
  opening : List Text
  afterFirstLayer : List Text
  layers : Array Layer
  last : Layer
  warnings : List Text

namespace OpenPart

def start (generator : Generator) (check : Checker) (print : Print) (part : PartRange)
    (layer : Layer) : Except Failure OpenPart := do
  let made ← generator.opening print layer part.index
  let (opening, openingWarnings) ← checkedScaffold check generator.maxZ part.index .opening made
  let made ← generator.afterFirstLayer layer
  let (after, afterWarnings) ← checkedScaffold check generator.maxZ part.index .afterFirstLayer made
  .ok {
    part := part
    opening := opening
    afterFirstLayer := after
    layers := #[layer]
    last := layer
    warnings := openingWarnings ++ afterWarnings }

def add (current : OpenPart) (layer : Layer) : OpenPart :=
  { current with layers := current.layers.push layer, last := layer }

def close (generator : Generator) (check : Checker) (current : OpenPart) :
    Except Failure Document := do
  let made ← generator.closing current.last current.part.index current.part.totalParts
  let (closing, closingWarnings) ←
    checkedScaffold check generator.maxZ current.part.index .closing made
  .ok {
    part := current.part
    opening := current.opening
    layers := current.layers.toList
    afterFirstLayer := current.afterFirstLayer
    closing := closing
    warnings := current.warnings ++ closingWarnings }

end OpenPart

namespace Document

/-- Walks through the layers from the next one on; `current` is the part that is open. -/
def walk (generator : Generator) (check : Checker) (print : Print) (plan : Plan) :
    Option OpenPart → List Layer → Except Failure (List Document)
  | none, [] => .ok []
  | some current, [] => (current.close generator check).map fun document => [document]
  | current?, layer :: layers => do
    match ← plan.partForLayer layer.number with
    | none => walk generator check print plan current? layers
    | some index =>
      match current? with
      | none => do
        let current ← OpenPart.start generator check print (plan.part index) layer
        walk generator check print plan (some current) layers
      | some current =>
        if index = current.part.index then
          walk generator check print plan (some (current.add layer)) layers
        else do
          let document ← current.close generator check
          let next ← OpenPart.start generator check print (plan.part index) layer
          let documents ← walk generator check print plan (some next) layers
          .ok (document :: documents)

def render (generator : Generator) (check : Checker) (print : Print) (plan : Plan) :
    Except Failure (List Document) :=
  walk generator check print plan none print.layers.toList

def bodyLines (document : Document) : List Text :=
  document.layers.flatMap fun layer => layer.lines.toList

/-- The lines of the layer at a position in the part, under a banner. The first one is followed by
the scaffold that belongs there. -/
def layerLines (document : Document) (position : Nat) (layer : Layer) : List Text :=
  (Text.of "; LAYER " ++ Text.ofNat position ++ Text.of " (in part) " ++ Text.ofInt layer.number ++
      Text.of " (globally)") ::
    (layer.lines.toList ++
      if position = 0 then
        Text.of "; =========== after 1st layer code ===========" ::
          (document.afterFirstLayer ++
            [Text.of "; =========== after 1st layer code ends ==========="])
      else [])

def lines (document : Document) (sourceName : Text) : List Text :=
  (Text.of "; =========== begin " ++ sourceName ++ Text.of " part " ++
      Text.ofNat document.part.index ++ Text.of " =============") ::
    (document.opening ++
      Text.of "; =========== start code ends ================" ::
        ((document.layers.zipIdx.flatMap fun (layer, position) =>
            document.layerLines position layer) ++
          Text.of "; ========== end code ========" :: document.closing))

end Document

end PrintParts
