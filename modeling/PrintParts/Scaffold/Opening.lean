import PrintParts.Scaffold.Ironing
import PrintParts.Scaffold.Priming

/-!
The opening scaffold of a part. It brings a printer from power-on to the beginning of a layer: heat,
home, prime, approach the place from above, and restore the filament, the extruder and the fan. The
first part homes every axis; a continuation declares its height instead and homes X and Y above the
print.
-/

namespace PrintParts

namespace Scaffold

inductive Homing where
  /-- Every axis is homed. -/
  | full
  /-- The height is declared, and only X and Y are homed. -/
  | declared (z : Binary64)
  deriving DecidableEq

/-- Everything that an opening needs to know of the layer that it leads to. -/
structure ResumePoint where
  bed : Binary64
  nozzle : Binary64
  e : Binary64
  /-- Extruder position of the retracted filament, with the tip of the nozzle at zero. -/
  retracted : Binary64
  x : Binary64
  y : Binary64
  z : Binary64
  /-- Height from which the place is approached. -/
  approachZ : Binary64
  homing : Homing
  fan : Option Fan
  deriving DecidableEq

namespace Settings

/-- What a continuation is lowered by: a share of a layer height for each part below. -/
def compression (settings : Settings) (print : Print) (part : Int) : Except Failure Binary64 :=
  match print.layerHeight with
  | none => .error Fault.layerHeightUnknown.raise
  | some height => do
    let ratio ← settings.zCompression.toBinary64
    let parts ← roundInteger part
    .ok (ratio * height * parts)

/-- The height at which the part below left the nozzle over a layer. -/
def inheritedZ (settings : Settings) (print : Print) (layer : Layer) (part : Int) :
    Except Failure Binary64 := do
  let entryZ ← (layer.entry.position.z.require
    (Text.of "Z at layer " ++ Text.ofInt layer.number)).mapError Fault.raise
  let lifted := entryZ + settings.hop
  let z ← if settings.zCompression.isZero then pure lifted
    else (settings.compression print part).map (lifted + ·)
  if settings.maxZ < z then .error (Fault.inheritedTooHigh z settings.maxZ).raise else .ok z

def resumePoint (settings : Settings) (print : Print) (layer : Layer) (part : Int) :
    Except Failure ResumePoint := do
  let entry := layer.entry
  let placed (what : String) : Text := Text.of what ++ Text.of " at layer " ++ Text.ofInt layer.number
  let bed ← match entry.bed.current with
    | some bed => pure bed
    | none => .error (Fault.bedTemperatureUnknown layer.number).raise
  let nozzle ← (settings.nozzleTarget entry layer.number).mapError Fault.raise
  let e ← (entry.e.require (placed "E")).mapError Fault.raise
  let retraction ← match entry.retraction? with
    | some retraction => pure retraction
    | none => .error (Fault.retractionUnknown layer.number).raise
  let start := layer.startPosition
  let x ← (start.x.require (placed "X")).mapError Fault.raise
  let y ← (start.y.require (placed "Y")).mapError Fault.raise
  let z ← (start.z.require (placed "Z")).mapError Fault.raise
  let inherited ← if 0 < part then (settings.inheritedZ print layer part).map some else pure none
  let approachZ := z + settings.hop
  if settings.maxZ ≤ approachZ then .error (Fault.approachTooHigh approachZ settings.maxZ).raise
  else do
    let homing ← match inherited with
      | some declared => pure (.declared declared)
      | none => if part = 0 then pure .full else .error .noInheritedHeight
    .ok {
      bed := bed
      nozzle := nozzle
      e := e
      retracted := 0 - retraction
      x := x
      y := y
      z := z
      approachZ := approachZ
      homing := homing
      fan := entry.fan }

end Settings

namespace Homing

def lines : Homing → List Line
  | .full => [noted "G28" [] " homing"]
  | .declared z => [
    noted "G92" [numberField 'Z' z] " set Z without homing",
    noted "M211" [fixedField 'S' "0"] " Deactivate software endstops",
    noted "G90" [] " absolute pos",
    noted "G28" [fixedField 'X' "0", fixedField 'Y' "0"] " homing"]

/-- A height at which nothing is in the way of the nozzle; it is never lowered beside a print. -/
def clearZ : Homing → Binary64
  | .full => parkZ
  | .declared z => parkZ.greater z

end Homing

def fanLine (fan : Fan) (note : Option Text) : Line :=
  match fan with
  | .off => .code (Text.of "M107") [] note
  | .duty value => .code (Text.of "M106") [numberField 'S' value] note

namespace ResumePoint

def headerLines (point : ResumePoint) (layer part : Int) : List Line :=
  let inherited := match point.homing with
    | .full => Text.of "n/a"
    | .declared z => z.toText
  let fan := match point.fan with
    | some fan => fan.toText
    | none => Text.of "unknown"
  [.remark (Text.of " Rendering begin script for block #" ++ Text.ofInt part ++
      Text.of " at layer #" ++ Text.ofInt layer ++ Text.of " Inherited Z: " ++ inherited),
    .remark (Text.of " Layer starts with Bed:" ++ point.bed.toText ++ Text.of " Nozzle:" ++
      point.nozzle.toText ++ Text.of " Fan:" ++ fan),
    .remark (Text.of " Layer starts at X:" ++ point.x.toText ++ Text.of " Y:" ++ point.y.toText ++
      Text.of " Z:" ++ point.z.toText ++ Text.of " E:" ++ point.e.toText ++ Text.of " Retract:" ++
      point.retracted.toText)]

def heatBedLines (point : ResumePoint) : List Line := [
  noted "M140" [numberField 'S' point.bed] " bed temp",
  noted "M105" [] " report temp",
  noted "M190" [numberField 'S' point.bed] " wait bed temp",
  .blank]

/-- From above to the place where the layer starts, without lowering yet. -/
def approachLines (point : ResumePoint) : List Line := [
  .blank,
  remark " move to desired place from above",
  noted "M220" [fixedField 'S' "100"] " Reset Feedrate",
  bare "G0" [numberField 'Z' point.approachZ, fixedField 'F' "5000"],
  bare "G0" [numberField 'X' point.x, numberField 'Y' point.y, numberField 'Z' point.approachZ,
    fixedField 'F' "5000"],
  .blank]

def restoreLines (point : ResumePoint) : List Line := [
  bare "G0" [numberField 'X' point.x, numberField 'Y' point.y, numberField 'Z' point.z,
    fixedField 'F' "5000"],
  noted "M220" [fixedField 'S' "100"] " Reset Feedrate",
  .blank,
  remark " Restore E and retraction",
  bare "G1" [numberField 'E' point.retracted, fixedField 'F' "1500"],
  bare "G92" [numberField 'E' point.e],
  bare "G1" [numberField 'E' point.e, fixedField 'F' "1800"],
  .blank]

/-- The fan as the layer expects it; nothing if that is not known. -/
def fanLines (point : ResumePoint) : List Line :=
  match point.fan with
  | none => []
  | some fan => [fanLine fan (some (Text.of " restore fan"))]

end ResumePoint

namespace Settings

/-- The speeds of the first layer of a continuation. It is printed slowly to bond to the cold part
below. -/
def firstLayerRates (settings : Settings) : List Line :=
  (if settings.continuationFlow.isInteger 100 then []
    else [noted "M221" [field 'S' settings.continuationFlow.toText]
      " continuation flow rate"]) ++
  [noted "M220" [field 'S' settings.continuationFeed.toText]
    " Slow Feedrate for first layer"]

def openingAt (settings : Settings) (point : ResumePoint) (layer part : Int)
    (prime ironing : List Line) : List Line :=
  point.headerLines layer part ++
  [.blank,
    noted "M413" [fixedField 'S' "0"] " Power loss off",
    noted "M220" [fixedField 'S' "100"] " Reset Feedrate",
    noted "M221" [fixedField 'S' "100"] " Reset Flowrate",
    .blank] ++
  (if part = 0 ∨ settings.reheatBed then point.heatBedLines else []) ++
  point.homing.lines ++
  [.blank,
    noted "M420" [fixedField 'S' "1"] " Enable mesh leveling",
    .blank,
    noted "G90" [] " absolute pos",
    noted "M82" [] " absolute E",
    noted "G92" [negatedField 'E' settings.retract] " Reset Extruder pos",
    .blank,
    noted "G0" [fixedField 'X' "0", fixedField 'Y' "0"]
      " avoid bumping into the model (if homing didn't move us back)",
    bare "G0" [numberField 'Z' point.homing.clearZ],
    .blank] ++
  prime ++
  point.approachLines ++
  ironing ++
  point.restoreLines ++
  point.fanLines ++
  (if 0 < part then settings.firstLayerRates else [])

def opening (settings : Settings) (print : Print) (layer : Layer) (part : Int) :
    Except Failure (List Line) := do
  let point ← settings.resumePoint print layer part
  let prime ← settings.primeLines part point.nozzle
  let ironing ← if 0 < part ∧ settings.iron then settings.ironingBelow print layer else pure []
  .ok (settings.openingAt point layer.number part prime ironing)

end Settings

end Scaffold

end PrintParts
