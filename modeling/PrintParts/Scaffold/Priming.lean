import PrintParts.Scaffold.Line
import PrintParts.Scaffold.Settings

/-!
Priming the nozzle. On the bed it draws two lines next to each other and wipes across them; in the air
it extrudes where it stands, and the user takes the thread away. Both heat the nozzle first and end
with the filament pulled back a little behind a fresh zero.
-/

namespace PrintParts

namespace Scaffold

/-- The height to which the nozzle is lifted before anything else. -/
def parkZ : Binary64 := 10

def bedX (x : Binary64) : Field := field 'X' (Text.ofChars (x.fixed 1))

def heatNozzle (nozzle : Binary64) : List Line := [
  noted "M104" [numberField 'S' nozzle] " nozzle temp",
  noted "M105" [] " report temp",
  noted "M109" [numberField 'S' nozzle] " wait nozzle temp"]

namespace Settings

def bedPrimeX (settings : Settings) (part : Int) : Except Failure Binary64 :=
  if settings.shiftBedPrime then
    (roundInteger part).map (· * settings.bedPrimeShift)
  else .ok 0

def bedPrimeLines (settings : Settings) (x nozzle : Binary64) : List Line :=
  let start := x + .ofDecimal false 2 (-1)
  let back := x + .ofDecimal false 4 (-1)
  let wipe := x + .ofDecimal false 5 (-1)
  [remark " Wiping on bed",
    noted "G0" [bedX start, fixedField 'Y' "10", numberField 'Z' parkZ, fixedField 'F' "5000.0"]
      " Move to start position allow space to extrude",
    .blank] ++
  heatNozzle nozzle ++
  [.blank,
    noted "G1" [bedX start, fixedField 'Y' "20", fixedField 'Z' "0.28", fixedField 'F' "1500",
      fixedField 'E' "0"] " diagonal down; undo end code retract",
    noted "G1" [bedX start, fixedField 'Y' "160.0", fixedField 'Z' "0.28", fixedField 'F' "1500.0",
      fixedField 'E' "15"] "Draw the first line",
    noted "G1" [bedX back, fixedField 'Y' "160.0", fixedField 'Z' "0.28", fixedField 'F' "5000.0"]
      "Move to side a little",
    noted "G1" [bedX back, fixedField 'Y' "40", fixedField 'Z' "0.28", fixedField 'F' "1500.0",
      fixedField 'E' "30"] "Draw the second line",
    .blank,
    noted "G92" [fixedField 'E' "0"] " Reset Extruder pos",
    noted "G1" [negatedField 'E' settings.primeRetract, fixedField 'F' "600"] " Retract a bit",
    noted "G0" [bedX x, fixedField 'Y' "40", fixedField 'Z' "0.28", fixedField 'F' "1000"]
      " wipe across",
    noted "G0" [bedX wipe, fixedField 'Y' "60", fixedField 'Z' "0.28", fixedField 'F' "1000"]
      " more wipe",
    noted "G0" [bedX x, fixedField 'Y' "80", fixedField 'Z' "0.28", fixedField 'F' "1000"]
      " more wipe"]

/-- The lines of a prime in the air, away from the bed so that a wide print is never hit. -/
def airPrimeLines (settings : Settings) (nozzle : Binary64) : List Line :=
  [remark " Wiping / extruding in air",
    noted "G0" [fixedField 'X' "0", fixedField 'Y' "0", fixedField 'F' "5000"]
      " Move to front corner",
    .blank] ++
  heatNozzle nozzle ++
  [.blank,
    noted "G1" [fixedField 'E' "30", fixedField 'F' "500"]
      " undo end code retract and extrude more",
    noted "M106" [] " full fan speed",
    noted "G4" [fixedField 'S' "2"] " dwell 2s",
    noted "M300" [fixedField 'S' "440", fixedField 'P' "200"] " beep",
    noted "M0" [fixedField 'C' "LEANME"] " pause, wait for user (may only pause octoprint)",
    noted "M107" [] " fan off",
    noted "G92" [fixedField 'E' "0"] " Reset Extruder pos",
    noted "G1" [negatedField 'E' settings.primeRetract, fixedField 'F' "600"] " Retract a bit"]

/-- The first part always primes on the bed, as nothing stands there yet. -/
def primeLines (settings : Settings) (part : Int) (nozzle : Binary64) :
    Except Failure (List Line) :=
  if part = 0 ∨ settings.primeMode = .bed then
    (settings.bedPrimeX part).map fun x => settings.bedPrimeLines x nozzle
  else .ok (settings.airPrimeLines nozzle)

end Settings

end Scaffold

end PrintParts
