import PrintParts.Print.Layer
import PrintParts.Scaffold.Line
import PrintParts.Scaffold.Settings

/-!
The two scaffolds that follow layers of a part. Behind its first layer the speeds and the nozzle
temperature of the program return; behind its last one the filament is pulled back, the nozzle lifted,
the print shown and everything switched off.
-/

namespace PrintParts

namespace Scaffold

/-- Undoes what an opening has set for the first layer only. -/
def afterFirstLayer (layer : Layer) : Except Fault (List Line) :=
  match layer.exitState.nozzle.current with
  | none => .error (.nozzleTemperatureUnknown layer.number)
  | some nozzle => .ok [
      noted "M220" [fixedField 'S' "100"] " Reset Feedrate",
      noted "M221" [fixedField 'S' "100"] " Reset Flowrate",
      noted "M104" [numberField 'S' nozzle] " nozzle temp"]

namespace Settings

/-- The height to which the nozzle is lifted off a part that ends at `z`. Only the last part may be
lifted less than the hop, when the limit leaves no room for it. -/
def liftedZ (settings : Settings) (z : Binary64) (part totalParts : Int) : Except Fault Binary64 :=
  if settings.maxZ < z then .error (.partTooHigh z settings.maxZ)
  else if settings.maxZ < z + settings.hop then
    if part ≠ totalParts - 1 then .error (.hopTooHigh part (z + settings.hop) settings.maxZ)
    else .ok settings.maxZ
  else .ok (z + settings.hop)

def closingAt (settings : Settings) (lifted : Binary64) : List Line := [
  noted "G91" [] " relative XYZ",
  noted "M83" [] " relative E",
  remark " retract filament, move Z slightly upwards",
  bare "G1" [negatedField 'E' settings.retract, fixedField 'F' "4500"],
  noted "M82" [] " absolute E",
  noted "G90" [] " absolute XYZ",
  bare "G0" [numberField 'Z' lifted, fixedField 'F' "4500"],
  remark " move to a safe rest position",
  bare "G0" [fixedField 'X' "0", numberField 'Y' settings.presentY],
  noted "M106" [fixedField 'S' "0"] " Turn-off fan",
  noted "M104" [fixedField 'S' "0"] " Turn-off hotend",
  noted "M140" [fixedField 'S' "0"] " Turn-off bed",
  noted "M18" [fixedField 'S' "60"] " disable all steppers after 1min",
  noted "M300" [fixedField 'S' "440", fixedField 'P' "200"] " beep"]

def finalZ (layer : Layer) : Except Fault Binary64 :=
  layer.exitState.position.z.require (Text.of "final Z at layer " ++ Text.ofInt layer.number)

def closing (settings : Settings) (layer : Layer) (part totalParts : Int) :
    Except Fault (List Line) := do
  let z ← finalZ layer
  let lifted ← settings.liftedZ z part totalParts
  .ok (settings.closingAt lifted)

end Settings

end Scaffold

end PrintParts
