import PrintParts.Amount.Number
import PrintParts.Json

/-!
JSON values where a number is expected. A truth value counts as one or zero, and a string is read as a
number text. A number with a fraction becomes an integer by dropping it.
-/

namespace PrintParts

namespace Json

def toBinary64 : Json → Except Failure Binary64
  | .bool value => roundInteger (Amount.countOf value)
  | .integer value => roundInteger value
  | .number value => .ok value
  | .string text =>
    match Binary64.ofText? text with
    | some value => .ok value
    | none => .error (.value (.notANumber text))
  | .null | .array _ | .object _ => .error (.value .wrongKind)

def toInteger : Json → Except Failure Int
  | .bool value => .ok (Amount.countOf value)
  | .integer value => .ok value
  | .number value =>
    match value.truncate? with
    | some whole => .ok whole
    | none => .error (.value (if value.isNan then .nanIsNoInteger else .infinityIsNoInteger))
  | .string text =>
    match readInteger text with
    | .value value => .ok value
    | .tooLong digits => .error (.value (.tooManyDigits digits))
    | .malformed => .error (.value (.notAnInteger text))
  | .null | .array _ | .object _ => .error (.value .wrongKind)

end Json

end PrintParts
