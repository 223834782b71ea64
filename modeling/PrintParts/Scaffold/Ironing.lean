import PrintParts.Print.Layer
import PrintParts.Scaffold.Line
import PrintParts.Scaffold.Settings

/-!
Ironing: the last layer of the part below is traced once more without printing, so that the next layer
bonds to it. A layer with relative moves or unknown places cannot be traced.
-/

namespace PrintParts

namespace Scaffold

def ironingLine (point : Position) : Line :=
  noted "G0" [field 'X' point.x.toText, field 'Y' point.y.toText, field 'Z' point.z.toText,
    fixedField 'F' "600"] " ironing"

/-- The trace of a layer; no lines at all if it cannot be traced. -/
def Settings.ironingLines (settings : Settings) (layer : Layer) : Except Fault (List Line) :=
  if layer.canIron then do
    let nozzle ← settings.nozzleTarget layer.entry layer.number
    .ok ([remark " Ironing starts",
        noted "M107" [] " fan off",
        noted "M109" [numberField 'S' nozzle] " wait nozzle temp",
        remark " Ironing layer starts"] ++
      layer.ironingPath.toList.map ironingLine ++
      [remark " Ironing ends"])
  else .ok []

end Scaffold

/-- The layer at an index; indices below zero count from the end. -/
def Print.layerAt? (print : Print) (index : Int) : Option Layer :=
  if 0 ≤ index then print.layers[index.toNat]?
  else if -index ≤ print.layers.size then print.layers[(print.layers.size + index).toNat]?
  else none

def Print.layerBelow (print : Print) (layer : Layer) : Except Failure Layer :=
  match print.layerAt? (layer.number - 1) with
  | none => .error .noEarlierLayer
  | some below =>
    if below.number = layer.number - 1 then .ok below else .error Fault.ironingMismatch.raise

namespace Scaffold

def Settings.ironingBelow (settings : Settings) (print : Print) (layer : Layer) :
    Except Failure (List Line) := do
  let below ← print.layerBelow layer
  (settings.ironingLines below).mapError Fault.raise

end Scaffold

end PrintParts
