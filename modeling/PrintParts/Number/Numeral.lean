import PrintParts.Number.Binary64

/-!
Numbers as people write them, over ASCII characters: an optional sign, digits with an optional point
and exponent, or one of the words for infinity and NaN. A single underscore may stand between two
digits. Reading keeps the exact decimal; only `Numeral.toBinary64` rounds.
-/

namespace PrintParts

/-- Removes the underscores of a numeral; each has to stand between two digits. -/
def joinDigits (afterDigit : Bool) : List Char → Option (List Char)
  | [] => some []
  | '_' :: rest =>
    if afterDigit ∧ rest.head?.any Char.isDigit then joinDigits false rest else none
  | char :: rest => (joinDigits char.isDigit rest).map (char :: ·)

def takeSign : List Char → Bool × List Char
  | '-' :: rest => (true, rest)
  | '+' :: rest => (false, rest)
  | rest => (false, rest)

def readDigits? (digits : List Char) : Option Nat :=
  if digits ≠ [] ∧ digits.all Char.isDigit then some (Nat.ofDigitChars 10 digits 0) else none

inductive Numeral where
  | nan
  | infinite (negative : Bool)
  | decimal (negative : Bool) (mantissa : Nat) (exponent : Int)
  deriving DecidableEq

namespace Numeral

/-- The exponent part after the digits: nothing, or the mark, an optional sign and digits. -/
def readExponent? : List Char → Option Int
  | [] => some 0
  | mark :: rest =>
    if mark = 'e' ∨ mark = 'E' then
      let (negative, digits) := takeSign rest
      (readDigits? digits).map fun value => if negative then -(value : Int) else value
    else none

def readDecimal? (text : List Char) : Option (Nat × Int) :=
  let whole := text.takeWhile Char.isDigit
  let afterWhole := text.dropWhile Char.isDigit
  let (fraction, rest) :=
    match afterWhole with
    | '.' :: afterPoint => (afterPoint.takeWhile Char.isDigit, afterPoint.dropWhile Char.isDigit)
    | _ => ([], afterWhole)
  if whole ++ fraction = [] then none
  else (readExponent? rest).map fun exponent =>
    (Nat.ofDigitChars 10 (whole ++ fraction) 0, exponent - fraction.length)

def read? (text : List Char) : Option Numeral := do
  let joined ← joinDigits false text
  let (negative, unsigned) := takeSign joined
  let lower := unsigned.map Char.toLower
  if lower = ['n', 'a', 'n'] then some .nan
  else if lower = ['i', 'n', 'f'] ∨ lower = ['i', 'n', 'f', 'i', 'n', 'i', 't', 'y'] then
    some (.infinite negative)
  else
    let (mantissa, exponent) ← readDecimal? unsigned
    some (.decimal negative mantissa exponent)

def toBinary64 : Numeral → Binary64
  | .nan => .nan
  | .infinite negative => .infinite negative
  | .decimal negative mantissa exponent => .ofDecimal negative mantissa exponent

end Numeral

/-- The digits at the beginning of a text, and what follows them. A single underscore may stand
between two digits; one that stands elsewhere in the run spoils it. -/
def takeDigitRun? (text : List Char) : Option (List Char × List Char) :=
  let belongs (char : Char) : Bool := char.isDigit || char == '_'
  match joinDigits false (text.takeWhile belongs) with
  | none | some [] => none
  | some digits => some (digits, text.dropWhile belongs)

def takeInteger? (text : List Char) : Option (Bool × List Char × List Char) :=
  let (negative, unsigned) := takeSign text
  (takeDigitRun? unsigned).map fun (digits, rest) => (negative, digits, rest)

end PrintParts
