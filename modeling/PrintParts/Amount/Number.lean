import PrintParts.Failure

/-!
Amounts where a number is needed. What is no number fails here, and so does an integer that is too
large to be rounded.
-/

namespace PrintParts

def roundInteger (value : Int) : Except Failure Binary64 :=
  match Binary64.ofInt? value with
  | some nearest => .ok nearest
  | none => .error .tooLarge

namespace Amount

def toBinary64 : Amount → Except Failure Binary64
  | .integer value => roundInteger value
  | .number value => .ok value
  | .truth value => roundInteger (countOf value)
  | .other _ => .error (.value .wrongKind)

def isBelow (amount : Amount) (bound : Int) : Except Failure Bool :=
  match amount with
  | .integer value => .ok (value < bound)
  | .number value => .ok (value.ltInt bound)
  | .truth value => .ok (countOf value < bound)
  | .other _ => .error (.value .wrongKind)

end Amount

end PrintParts
