import PrintParts.Number.DecimalText
import PrintParts.Number.Numeral
import PrintParts.Text.Class

/-!
Numbers in texts. Digits of every script count with their value, blanks around a number are ignored,
and an integer may have only so many digits.
-/

namespace PrintParts

/-- The ASCII character that a symbol of a number text stands for: any digit stands for its value,
and any whitespace beyond ASCII for a blank. -/
def Symbol.asciiForm? : Symbol → Option Char
  | .raw _ | .half _ => none
  | .char character =>
    if character.toNat < 128 then some character
    else if Symbol.isSpace (.char character) then some ' '
    else (Symbol.digit? (.char character)).map fun value => Char.ofNat (48 + value)

/-- A number text in ASCII; it ends in a question mark where it stops being one. -/
def Text.asciiForm : Text → List Char
  | [] => []
  | symbol :: rest =>
    match symbol.asciiForm? with
    | some character => character :: asciiForm rest
    | none => ['?']

def isNumberBlank (character : Char) : Bool :=
  character == ' ' || (9 ≤ character.toNat && character.toNat ≤ 13)

/-- Reads a whole text as a machine number; blanks around it do not count. -/
def Binary64.ofText? (text : Text) : Option Binary64 := do
  let chars := text.asciiForm.dropWhile isNumberBlank
  let numeral ← Numeral.read? (chars.reverse.dropWhile isNumberBlank).reverse
  some numeral.toBinary64

def integerDigitLimit : Nat := 4300

inductive IntegerReading where
  | value (value : Int)
  | tooLong (digits : Nat)
  | malformed
  deriving DecidableEq

/-- Reads a whole text as an integer. The digits are counted before anything behind them is looked
at, so a text can have too many digits whatever it ends with. -/
def readInteger (text : Text) : IntegerReading :=
  match takeInteger? (text.asciiForm.dropWhile isNumberBlank) with
  | none => .malformed
  | some (negative, digits, rest) =>
    if integerDigitLimit < digits.length then .tooLong digits.length
    else if rest.all isNumberBlank then
      let value : Int := Nat.ofDigitChars 10 digits 0
      .value (if negative then -value else value)
    else .malformed

/-- The number as every program line and message shows it: up to 15 significant digits. -/
def Binary64.toText (value : Binary64) : Text := Text.ofChars (value.significant 15)

end PrintParts
