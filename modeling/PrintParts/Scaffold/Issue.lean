import PrintParts.Text.Number

/-!
What the check of a scaffold can find, by cause. The cause decides how severe the issue is, the
short code under which it is reported, and its wording.
-/

namespace PrintParts

namespace Scaffold

/-- The three texts that surround the layers of a part. -/
inductive Kind where
  | opening
  | afterFirstLayer
  | closing
  deriving DecidableEq

def Kind.label : Kind → String
  | .opening => "begin"
  | .afterFirstLayer => "after"
  | .closing => "end"

end Scaffold

inductive Severity where
  | warning
  | error
  deriving DecidableEq

def Severity.label : Severity → String
  | .warning => "warning"
  | .error => "error"

inductive IssueCause where
  /-- A G command that scaffolds are not expected to use. -/
  | unusualG (code : Nat)
  /-- An M command that scaffolds are not expected to use. -/
  | unusualM (code : Nat)
  /-- Z is homed although a print stands on the bed. -/
  | homesZ
  /-- X or Y moves before Z has been declared. -/
  | movesBeforeZ
  /-- A Z target above the limit. -/
  | aboveLimit (z limit : Binary64)
  | noBedTemperature
  | noNozzleTemperature
  deriving DecidableEq

namespace IssueCause

def severity : IssueCause → Severity
  | .unusualG _ => .warning
  | .unusualM _ => .warning
  | _ => .error

def code : IssueCause → String
  | .unusualG _ => "UNUSUAL_G"
  | .unusualM _ => "UNUSUAL_M"
  | .homesZ => "Z_HOME"
  | .movesBeforeZ => "XY_BEFORE_Z"
  | .aboveLimit .. => "Z_LIMIT"
  | .noBedTemperature => "MISSING_BED_TEMP"
  | .noNozzleTemperature => "MISSING_NOZZLE_TEMP"

def message : IssueCause → Text
  | .unusualG code => Text.of "Unusual G-code: G" ++ Text.ofNat code
  | .unusualM code => Text.of "Unusual M-code: M" ++ Text.ofNat code
  | .homesZ => Text.of "Homing Z is forbidden when continuing a print."
  | .movesBeforeZ => Text.of "XY movement before Z is declared — risk of collision."
  | .aboveLimit z limit =>
    Text.of "Z target " ++ Text.ofChars (z.fixed 3) ++ Text.of " mm exceeds maximum " ++
      Text.ofChars (limit.fixed 3) ++ Text.of " mm."
  | .noBedTemperature => Text.of "No bed temperature command found."
  | .noNozzleTemperature => Text.of "No nozzle temperature command found."

end IssueCause

/-- A finding, with its line counted from one, or zero if it is about the whole scaffold. -/
structure Issue where
  lineNumber : Nat
  cause : IssueCause
  deriving DecidableEq

def Issue.report (issue : Issue) : Text :=
  Text.of "[" ++ Text.of issue.cause.code ++ Text.of "] line " ++ Text.ofNat issue.lineNumber ++
    Text.of ": " ++ issue.cause.message

end PrintParts
