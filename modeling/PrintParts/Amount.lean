import PrintParts.Number.DecimalText
import PrintParts.Text.Basic

/-!
Amounts: numbers as they are asked for. A count may be given as an integer or as any other number, and
a truth value counts as one or zero. Whatever else is given is kept as it is shown, because some
settings are only written down again; it is a failure where it has to be counted with.
-/

namespace PrintParts

inductive Amount where
  | integer (value : Int)
  | number (value : Binary64)
  | truth (value : Bool)
  | other (shown : Text)
  deriving DecidableEq

namespace Amount

def countOf (value : Bool) : Int := if value then 1 else 0

def toText : Amount → Text
  | .integer value => Text.ofInt value
  | .number value => Text.ofChars value.shortest
  | .truth true => Text.of "True"
  | .truth false => Text.of "False"
  | .other shown => shown

def isInteger (amount : Amount) (value : Int) : Bool :=
  match amount with
  | .integer given => given == value
  | .number given => given.eqInt value
  | .truth given => countOf given == value
  | .other _ => false

def isZero : Amount → Bool
  | .integer value => value == 0
  | .number value => value.isZero
  | .truth value => !value
  | .other _ => false

/-- Whether an exact comparison finds a number above the amount. -/
def isExceededBy (amount : Amount) (value : Binary64) : Bool :=
  match amount with
  | .integer given => value.gtInt given
  | .number given => decide (given < value)
  | .truth given => value.gtInt (countOf given)
  | .other _ => false

end Amount

end PrintParts
