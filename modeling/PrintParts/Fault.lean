import PrintParts.Amount
import PrintParts.Scaffold.Issue
import PrintParts.Text.Quoted

/-!
Faults: what can be wrong with a print or with the way it is to be cut. Each constructor is a cause
with the data that its wording needs, and `Fault.message` holds every wording. A `Place` says where
in the input a fault was met; what is known first stays.
-/

namespace PrintParts

inductive Rate where
  | feed
  | flow
  deriving DecidableEq

def Rate.label : Rate → String
  | .feed => "Feedrate"
  | .flow => "Flowrate"

inductive Fault where
  /-- A field of a command whose text is no number. -/
  | malformedField (letter text : Text)
  | malformedLayerHeight (text : Text)
  | unknownCommand (mnemonic : Text)
  /-- A temperature or fan command without its value. -/
  | valueMissing (mnemonic : Text)
  /-- Every coordinate is to be redefined. -/
  | bareSetPosition
  /-- X, Y or Z is to be redefined. -/
  | setPositionOf (letter : Text)
  /-- A speed is overridden inside a layer. -/
  | rateOverride (rate : Rate) (mnemonic : Text)
  | layerOutOfOrder (expected found : Nat)
  | layerCountMissing
  | layerCountMismatch (declared found : Nat)
  | endCodeMissing
  | noLayers
  | tooFewParts (parts : Amount)
  | tooSmallCap (cap : Amount)
  | startOutside (start : Amount) (lastLayer : Int)
  | positionUnknown (what : Text)
  | positionRelative (what : Text)
  | bedTemperatureUnknown (layer : Int)
  | nozzleTemperatureUnknown (layer : Int)
  | retractionUnknown (layer : Int)
  | layerHeightUnknown
  | ironingMismatch
  /-- The height at which a continuation finds the nozzle is beyond the limit. -/
  | inheritedTooHigh (z limit : Binary64)
  /-- The approach from above is beyond the limit. -/
  | approachTooHigh (z limit : Binary64)
  /-- The part itself is beyond the limit. -/
  | partTooHigh (z limit : Binary64)
  /-- There is no room to lift the nozzle off a part that is continued. -/
  | hopTooHigh (part : Int) (z limit : Binary64)
  | tooCloseToPrime (x clearance : Binary64)
  | scaffoldRejected (part : Int) (kind : Scaffold.Kind) (issues : List Issue)
  deriving DecidableEq

inductive FaultClass where
  | parse
  | unknownCommand
  | logicalCoordinate
  | rateOverride
  | layerSequence
  | layerCount
  | missingEndCode
  | plan
  | synthesis
  | heightLimit
  | primeClearance
  | scaffoldCheck
  deriving DecidableEq

/-- A number inside a message: up to six significant digits. -/
def shortNumber (value : Binary64) : Text := Text.ofChars (value.significant 6)

namespace Fault

def faultClass : Fault → FaultClass
  | .malformedField .. | .malformedLayerHeight _ | .valueMissing _ => .parse
  | .unknownCommand _ => .unknownCommand
  | .bareSetPosition | .setPositionOf _ => .logicalCoordinate
  | .rateOverride .. => .rateOverride
  | .layerOutOfOrder .. => .layerSequence
  | .layerCountMissing | .layerCountMismatch .. => .layerCount
  | .endCodeMissing => .missingEndCode
  | .noLayers | .tooFewParts _ | .tooSmallCap _ | .startOutside .. => .plan
  | .positionUnknown _ | .positionRelative _ | .bedTemperatureUnknown _
  | .nozzleTemperatureUnknown _ | .retractionUnknown _ | .layerHeightUnknown
  | .ironingMismatch => .synthesis
  | .inheritedTooHigh .. | .approachTooHigh .. | .partTooHigh .. | .hopTooHigh .. => .heightLimit
  | .tooCloseToPrime .. => .primeClearance
  | .scaffoldRejected .. => .scaffoldCheck

def message : Fault → Text
  | .malformedField letter text =>
    Text.of "Malformed numeric field " ++ letter ++ text.quoted
  | .malformedLayerHeight text => Text.of "Malformed layer height " ++ text.quoted
  | .unknownCommand mnemonic => Text.of "Unknown command [" ++ mnemonic ++ Text.of "]"
  | .valueMissing mnemonic => mnemonic ++ Text.of " without S argument is not supported"
  | .bareSetPosition =>
    Text.of "Logical coordinate systems are unsupported (bare G92 resets XYZ)"
  | .setPositionOf letter =>
    Text.of "Logical coordinate systems are unsupported (G92 " ++ letter ++ Text.of ")"
  | .rateOverride rate mnemonic =>
    Text.of rate.label ++ Text.of " (" ++ mnemonic ++
      Text.of ") in main gcode - resume would be incorrect"
  | .layerOutOfOrder expected found =>
    Text.of "Layer number not consecutive: expected " ++ Text.ofNat expected ++
      Text.of ", got " ++ Text.ofNat found
  | .layerCountMissing => Text.of "Overall layer count not found"
  | .layerCountMismatch declared found =>
    Text.of "Overall layer count mismatch: declared " ++ Text.ofNat declared ++
      Text.of ", found " ++ Text.ofNat found
  | .endCodeMissing => Text.of "End gcode block has not been found"
  | .noLayers => Text.of "Layer count is empty — nothing to split."
  | .tooFewParts parts =>
    Text.of "Part count must be at least 1, got " ++ parts.toText ++ Text.of "."
  | .tooSmallCap cap =>
    Text.of "Max layers per part must be at least 1, got " ++ cap.toText ++ Text.of "."
  | .startOutside start lastLayer =>
    Text.of "Start layer " ++ start.toText ++ Text.of " outside valid range 0–" ++
      Text.ofInt lastLayer ++ Text.of "."
  | .positionUnknown what => Text.of "No position known for " ++ what
  | .positionRelative what => Text.of "Only relative positions known for " ++ what
  | .bedTemperatureUnknown layer => Text.of "No bed temp found at layer " ++ Text.ofInt layer
  | .nozzleTemperatureUnknown layer =>
    Text.of "No nozzle temp found at layer " ++ Text.ofInt layer
  | .retractionUnknown layer =>
    Text.of "No retraction state found at layer " ++ Text.ofInt layer
  | .layerHeightUnknown => Text.of "Could not find layer height"
  | .ironingMismatch => Text.of "layer num mismatch for ironing"
  | .inheritedTooHigh z limit =>
    Text.of "Inherited Z (" ++ z.toText ++ Text.of ") exceeds maximum (" ++ limit.toText ++
      Text.of ")"
  | .approachTooHigh z limit =>
    Text.of "Z coord (" ++ z.toText ++ Text.of ") exceeds maximum (" ++ limit.toText ++
      Text.of ")"
  | .partTooHigh z limit =>
    Text.of "Z pos (" ++ z.toText ++ Text.of ") already higher than maximum (" ++ limit.toText ++
      Text.of ")"
  | .hopTooHigh part z limit =>
    Text.of "Cannot achieve hop for part " ++ Text.ofInt part ++ Text.of ": Z " ++ z.toText ++
      Text.of " exceeds maximum (" ++ limit.toText ++ Text.of ")"
  | .tooCloseToPrime x clearance =>
    Text.of "The minimum X coordinate of the print (" ++ shortNumber x ++
      Text.of ") is too small to let the print head prep the nozzle on the bed (clearance " ++
      shortNumber clearance ++ Text.of ")"
  | .scaffoldRejected part kind issues =>
    Text.of "Part " ++ Text.ofInt part ++ Text.of " " ++ Text.of kind.label ++
      Text.of " scaffold failed validation: " ++ Text.join (Text.of "; ") (issues.map Issue.report)

end Fault

structure Place where
  lineNumber : Option Int
  line : Option Text
  layer : Option Int
  deriving DecidableEq

namespace Place

def unknown : Place := ⟨none, none, none⟩

/-- Adds what is not known yet; a line and its number belong together. -/
def add (place : Place) (lineNumber : Int) (line : Text) (layer : Option Int) : Place where
  lineNumber := some (place.lineNumber.getD lineNumber)
  line := if place.lineNumber.isNone then some line else place.line
  layer := place.layer <|> layer

def describe (place : Place) (message : Text) : Text :=
  let layer := match place.layer with
    | some layer => Text.of " | layer " ++ Text.ofInt layer
    | none => []
  let line := match place.lineNumber with
    | some number =>
      Text.of " | line " ++ Text.ofInt number ++ Text.of ": " ++
        ((place.line.map Text.quoted).getD (Text.of "None"))
    | none => []
  message ++ layer ++ line

end Place

end PrintParts
