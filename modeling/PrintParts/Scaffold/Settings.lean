import PrintParts.Amount.Number
import PrintParts.Machine.State

/-!
What a printer and a job lay down for the scaffolds: distances in millimetres, the height of the
build volume, and which of the optional steps are wanted.
-/

namespace PrintParts

inductive PrimeMode where
  /-- It extrudes where it stands and waits for the user. -/
  | air
  /-- It draws a line at the edge of the bed. -/
  | bed
  deriving DecidableEq

def PrimeMode.label : PrimeMode → String
  | .air => "air"
  | .bed => "bed"

namespace Scaffold

structure Settings where
  /-- Filament pulled back at the end of a part. -/
  retract : Binary64 := 3
  /-- Height between the nozzle and the print when it leaves or approaches. -/
  hop : Binary64 := 10
  /-- Where the bed shows the finished part. -/
  presentY : Binary64 := 220
  maxZ : Binary64 := 250
  /-- Width that the print head needs beside the nozzle while it primes on the bed. -/
  headClearance : Binary64 := 30
  primeMode : PrimeMode := .air
  /-- Whether each part primes a little further along X. -/
  shiftBedPrime : Bool := false
  bedPrimeShift : Binary64 := 5
  primeRetract : Binary64 := 1
  /-- Whether a continuation uses the first nozzle temperature instead of the current one. -/
  useInitialNozzle : Bool := false
  reheatBed : Bool := false
  iron : Bool := false
  /-- Share of a layer height by which a continuation is lowered. -/
  zCompression : Amount := .number 0
  /-- Flow in percent during the first layer of a continuation, written as it was asked for. -/
  continuationFlow : Amount := .integer 100
  /-- Speed in percent during the first layer of a continuation, written as it was asked for. -/
  continuationFeed : Amount := .integer 35
  deriving DecidableEq

namespace Settings

def nozzleTarget (settings : Settings) (state : MachineState) (layer : Int) :
    Except Fault Binary64 :=
  let target := if settings.useInitialNozzle then state.nozzle.initial else state.nozzle.current
  match target with
  | some target => .ok target
  | none => .error (.nozzleTemperatureUnknown layer)

/-- The X below which the prime line of a part may reach, for the last of `totalParts` parts. -/
def bedPrimeClearance (settings : Settings) (totalParts : Int) : Except Failure Binary64 :=
  if settings.shiftBedPrime then
    (roundInteger (totalParts - 1)).map fun shifts =>
      settings.headClearance + settings.bedPrimeShift * shifts
  else .ok settings.headClearance

end Settings

end Scaffold

end PrintParts
