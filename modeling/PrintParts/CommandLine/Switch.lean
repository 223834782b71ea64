import PrintParts.Text.Quoted

/-!
The switches of the command line: how each is spelled, and what it takes. A long spelling may be cut
short as long as it stays the beginning of one switch only.
-/

namespace PrintParts

inductive Switch where
  | help
  | parts
  | maxLayers
  | startLayer
  | output
  | profile
  | prime
  | shiftBedPrime
  | initialTemp
  | reheatBed
  | iron
  | zCompression
  | flowRate
  | allowOverrides
  | verbose
  deriving DecidableEq

inductive Operand where
  | none
  | text
  | integer
  | number
  | primeMode
  deriving DecidableEq

namespace Switch

def all : List Switch := [
  .help, .parts, .maxLayers, .startLayer, .output, .profile, .prime, .shiftBedPrime, .initialTemp,
  .reheatBed, .iron, .zCompression, .flowRate, .allowOverrides, .verbose]

def short? : Switch → Option Char
  | .help => some 'h'
  | .verbose => some 'v'
  | _ => none

def long : Switch → String
  | .help => "help"
  | .parts => "parts"
  | .maxLayers => "max-layers"
  | .startLayer => "start-layer"
  | .output => "output"
  | .profile => "profile"
  | .prime => "prime"
  | .shiftBedPrime => "shift-bed-prime"
  | .initialTemp => "initial-temp"
  | .reheatBed => "reheat-bed"
  | .iron => "iron"
  | .zCompression => "z-compression"
  | .flowRate => "flow-rate"
  | .allowOverrides => "allow-overrides"
  | .verbose => "verbose"

def operand : Switch → Operand
  | .parts | .maxLayers | .startLayer | .flowRate => .integer
  | .zCompression => .number
  | .output | .profile => .text
  | .prime => .primeMode
  | _ => .none

def longText (switch : Switch) : Text := Text.of "--" ++ Text.of switch.long

def title (switch : Switch) : Text :=
  match switch.short? with
  | some letter => [.char '-', .char letter] ++ Text.of "/" ++ switch.longText
  | none => switch.longText

def ofShort? (symbol : Symbol) : Option Switch :=
  all.find? fun switch => switch.short?.map Symbol.char == some symbol

def ofLong? (word : Text) : Option Switch := all.find? fun switch => switch.longText == word

def beginning (word : Text) : List Switch :=
  all.filter fun switch => word.isPrefixOf switch.longText

end Switch

inductive UsageFault where
  | inputMissing
  | operandMissing (switch : Switch)
  | malformedOperand (switch : Switch) (operand : Text)
  /-- Something is attached to a switch that takes nothing. -/
  | operandIgnored (switch : Switch) (operand : Text)
  | ambiguous (word : Text) (candidates : List Switch)
  | unrecognized (words : List Text)
  deriving DecidableEq

namespace UsageFault

def operandText (operand : Text) : Operand → Text
  | .integer => Text.of "invalid int value: " ++ operand.quoted
  | .number => Text.of "invalid float value: " ++ operand.quoted
  | .primeMode =>
    Text.of "invalid choice: " ++ operand.quoted ++ Text.of " (choose from 'air', 'bed')"
  | .none | .text => Text.of "invalid value: " ++ operand.quoted

def message : UsageFault → Text
  | .inputMissing => Text.of "the following arguments are required: gcode_file"
  | .operandMissing switch =>
    Text.of "argument " ++ switch.title ++ Text.of ": expected one argument"
  | .malformedOperand switch operand =>
    Text.of "argument " ++ switch.title ++ Text.of ": " ++ operandText operand switch.operand
  | .operandIgnored switch operand =>
    Text.of "argument " ++ switch.title ++ Text.of ": ignored explicit argument " ++
      operand.quoted
  | .ambiguous word candidates =>
    Text.of "ambiguous option: " ++ word ++ Text.of " could match " ++
      Text.join (Text.of ", ") (candidates.map Switch.longText)
  | .unrecognized words =>
    Text.of "unrecognized arguments: " ++ Text.join (Text.of " ") words

end UsageFault

end PrintParts
