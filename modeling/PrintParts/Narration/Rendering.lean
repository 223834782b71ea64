import PrintParts.Document
import PrintParts.Narration.Event

/-!
What is told while the documents of a print are made: where each part begins and ends, which scaffold is
made, and what is doubtful about it. The telling stops where the making does.
-/

namespace PrintParts

namespace Narration

variable (settings : Scaffold.Settings) (print : Print)

def checkEvents (part : Nat) (kind : Scaffold.Kind) (made : Except Failure (List Text)) :
    List Event :=
  match made with
  | .error _ => []
  | .ok lines =>
    match Scaffold.check ⟨kind, part, settings.maxZ⟩ lines with
    | .error _ => []
    | .ok issues => (Issue.warnings issues).map fun issue =>
        .scaffoldWarning (warningText part kind issue)

def ironingEvents (layer : Layer) : List Event :=
  match settings.ironingBelow print layer with
  | .ok [] => [.notIroned (layer.number - 1)]
  | _ => []

/-- What is told about an opening, which is announced as soon as its beginning is known. -/
def openingEvents (part : Nat) (layer : Layer) : List Event :=
  match settings.resumePoint print layer part with
  | .error _ => []
  | .ok _ =>
    .openingMade part layer.number ::
      ((if 0 < part ∧ settings.iron then ironingEvents settings print layer else []) ++
        checkEvents settings part .opening
          ((Generator.ofSettings settings).opening print layer part))

def liftEvents (z : Binary64) (part totalParts : Nat) : List Event :=
  match settings.liftedZ z part totalParts with
  | .error _ => []
  | .ok _ => if settings.maxZ < z + settings.hop then [.liftCapped settings.maxZ] else []

def closingEvents (layer : Layer) (part totalParts : Nat) : List Event :=
  match Scaffold.Settings.finalZ layer with
  | .error _ => []
  | .ok z =>
    .closingMade part layer.number z ::
      (liftEvents settings z part totalParts ++
        checkEvents settings part .closing
          ((Generator.ofSettings settings).closing layer part totalParts))

def startPart (part : PartRange) (layer : Layer) : List Event × Option OpenPart :=
  let generator := Generator.ofSettings settings
  let begun := .partStarted part.index part.totalParts ::
    openingEvents settings print part.index layer
  match OpenPart.start generator Scaffold.check print part layer with
  | .error _ => (begun, none)
  | .ok current =>
    (begun ++ checkEvents settings part.index .afterFirstLayer (generator.afterFirstLayer layer),
      some current)

def closePart (current : OpenPart) : List Event :=
  .partEnded current.part.index current.layers.size ::
    closingEvents settings current.last current.part.index current.part.totalParts

def closes (current : OpenPart) : Bool :=
  (current.close (Generator.ofSettings settings) Scaffold.check).isOk

def walk (plan : Plan) : Option OpenPart → List Layer → List Event
  | none, [] => []
  | some current, [] => closePart settings current
  | current?, layer :: layers =>
    match plan.partForLayer layer.number with
    | .error _ => []
    | .ok none => walk plan current? layers
    | .ok (some index) =>
      match current? with
      | none =>
        match startPart settings print (plan.part index) layer with
        | (events, none) => events
        | (events, some next) => events ++ walk plan (some next) layers
      | some current =>
        if index = current.part.index then walk plan (some (current.add layer)) layers
        else
          closePart settings current ++
            (if closes settings current then
              match startPart settings print (plan.part index) layer with
              | (events, none) => events
              | (events, some next) => events ++ walk plan (some next) layers
            else [])

def rendering (plan : Plan) : List Event := walk settings print plan none print.layers.toList

end Narration

end PrintParts
