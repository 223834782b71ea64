import PrintParts.Fault
import PrintParts.Text.Utf8

/-!
Failures: everything that can end a job early. Besides the faults of a print these are values of a
profile that cannot be read, files that cannot be reached, and arithmetic that leaves its range.
-/

namespace PrintParts

inductive ValueFault where
  | notANumber (text : Text)
  | notAnInteger (text : Text)
  /-- An integer text with more digits than are accepted. -/
  | tooManyDigits (digits : Nat)
  | nanIsNoInteger
  | infinityIsNoInteger
  /-- A way to prime that there is not, as it is shown. -/
  | unknownPrimeMode (shown : Text)
  /-- A policy that there is not, as it is shown. -/
  | unknownPolicy (shown : Text)
  /-- A kind of data that has no number in it. -/
  | wrongKind
  /-- Data in place of a name. -/
  | notAName
  /-- Data other than an object of named values. -/
  | notARecord
  | malformedJson
  /-- Data inside data, more often than is followed. -/
  | tooDeep
  | malformedUtf8
  | noParts
  /-- A named option that does not exist, one given twice, or one that is missing. -/
  | unknownOption
  deriving DecidableEq

/-- Why a file or directory cannot be used; the path is the one that was asked for. -/
inductive StorageFault where
  | missing (path : Text)
  | alreadyExists (path : Text)
  | notADirectory (path : Text)
  | isADirectory (path : Text)
  | profileMissing (name folder : Text)
  | nameTooLong (path : Text)
  /-- A path with a character that ends it for the system. -/
  | nullInPath
  /-- More folders to be made around each other than is done at once. -/
  | tooManyFolders
  /-- A text with symbols that have no bytes. -/
  | unwritable (run : UnwritableRun)
  /-- Any other fault, in the words of the system. -/
  | other (reason : Text)
  deriving DecidableEq

inductive Failure where
  | fault (cause : Fault) (place : Place)
  | value (cause : ValueFault)
  | storage (cause : StorageFault)
  | unknownLayer (layer lastLayer : Int)
  /-- A number beyond the range of binary64. -/
  | tooLarge
  | divisionByZero
  /-- A part before the first one has no height to declare. -/
  | noInheritedHeight
  /-- No layer stands before the one to be ironed. -/
  | noEarlierLayer
  deriving DecidableEq

/-- How much of a quoted integer text is shown. -/
def shownLimit : Nat := 200

namespace ValueFault

def message : ValueFault → Text
  | .notANumber text => Text.of "could not convert string to float: " ++ text.quoted
  | .notAnInteger text =>
    Text.of "invalid literal for int() with base 10: " ++ text.quoted.take shownLimit
  | .tooManyDigits digits =>
    Text.of "Exceeds the limit (4300 digits) for integer string conversion: value has " ++
      Text.ofNat digits ++ Text.of " digits; use sys.set_int_max_str_digits() to increase the limit"
  | .nanIsNoInteger => Text.of "cannot convert float NaN to integer"
  | .infinityIsNoInteger => Text.of "cannot convert float infinity to integer"
  | .unknownPrimeMode shown => shown ++ Text.of " is not a valid PrimeMode"
  | .unknownPolicy shown => shown ++ Text.of " is not a valid OverridePolicy"
  | .wrongKind => Text.of "a number is expected"
  | .notAName => Text.of "a name is expected"
  | .notARecord => Text.of "an object is expected"
  | .malformedJson => Text.of "malformed JSON"
  | .tooDeep => Text.of "the data is nested too deeply"
  | .malformedUtf8 => Text.of "malformed UTF-8"
  | .noParts => Text.of "At least one part is required."
  | .unknownOption => Text.of "unknown option"

end ValueFault

namespace StorageFault

def numbered (number : Nat) (name : String) (path : Text) : Text :=
  Text.of "[Errno " ++ Text.ofNat number ++ Text.of "] " ++ Text.of name ++ Text.of ": " ++
    path.quoted

def unwritableText (run : UnwritableRun) : Text :=
  Text.of "'utf-8' codec can't encode " ++
    (if run.stop = run.start + 1 then
      Text.of "character '" ++ Text.ofChars (escapedPoint run.unit.toNat) ++
        Text.of "' in position " ++ Text.ofNat run.start
    else Text.of "characters in position " ++ Text.ofNat run.start ++ Text.of "-" ++
      Text.ofNat (run.stop - 1)) ++
    Text.of ": surrogates not allowed"

def message : StorageFault → Text
  | .missing path => numbered 2 "No such file or directory" path
  | .alreadyExists path => numbered 17 "File exists" path
  | .notADirectory path => numbered 20 "Not a directory" path
  | .isADirectory path => numbered 21 "Is a directory" path
  | .profileMissing name folder =>
    Text.of "Printer profile " ++ name.quoted ++ Text.of " not found in " ++ folder
  | .nameTooLong path => numbered 36 "File name too long" path
  | .nullInPath => Text.of "embedded null byte"
  | .tooManyFolders => Text.of "too many folders are missing"
  | .unwritable run => unwritableText run
  | .other reason => reason

end StorageFault

namespace Failure

def locate (lineNumber : Int) (line : Text) (layer : Option Int) : Failure → Failure
  | .fault cause place => .fault cause (place.add lineNumber line layer)
  | other => other

def message : Failure → Text
  | .fault cause place => place.describe cause.message
  | .value cause => cause.message
  | .storage cause => cause.message
  | .unknownLayer layer lastLayer =>
    Text.of "Layer " ++ Text.ofInt layer ++ Text.of " not found. Valid range: 0–" ++
      Text.ofInt lastLayer
  | .tooLarge => Text.of "number too large"
  | .divisionByZero => Text.of "division by zero"
  | .noInheritedHeight => Text.of "no inherited height"
  | .noEarlierLayer => Text.of "no earlier layer"

end Failure

def Fault.raise (fault : Fault) : Failure := .fault fault .unknown

end PrintParts
