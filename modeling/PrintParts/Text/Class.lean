import PrintParts.Text.Basic
import PrintParts.Text.Class.Digit
import PrintParts.Text.Class.Word

/-!
Character classes: whitespace, decimal digits and word characters. Only characters are in any of them.
For ASCII each class is stated directly; the tables are consulted for the rest.
-/

namespace PrintParts

def inRanges (ranges : List (Nat × Nat)) (point : Nat) : Bool :=
  ranges.any fun range => range.1 ≤ point && point ≤ range.2

namespace Symbol

/-- Whitespace beyond ASCII, as closed ranges. -/
def spaceRanges : List (Nat × Nat) := [
  (0x85, 0x85), (0xA0, 0xA0), (0x1680, 0x1680), (0x2000, 0x200A), (0x2028, 0x2029),
  (0x202F, 0x202F), (0x205F, 0x205F), (0x3000, 0x3000)]

/-- Whitespace separates words: blanks, line ends of every kind, and the separators of ASCII. -/
def isSpace : Symbol → Bool
  | .raw _ | .half _ => false
  | .char character =>
    let point := character.toNat
    if point < 128 then (9 ≤ point && point ≤ 13) || (28 ≤ point && point ≤ 32)
    else inRanges spaceRanges point

/-- The value of a decimal digit of any script. -/
def digit? : Symbol → Option Nat
  | .raw _ | .half _ => none
  | .char character =>
    let point := character.toNat
    if point < 128 then if character.isDigit then some (point - 48) else none
    else (digitZeros.find? fun start => start ≤ point && point < start + 10).map (point - ·)

def isDigit (symbol : Symbol) : Bool := symbol.digit?.isSome

/-- Letters, digits and other numerals, and the underscore: what a word is made of. -/
def isWord : Symbol → Bool
  | .raw _ | .half _ => false
  | .char character =>
    let point := character.toNat
    if point < 128 then character.isAlphanum || character == '_' else inRanges wordRanges point

def isAsciiDigit : Symbol → Bool
  | .raw _ | .half _ => false
  | .char character => character.isDigit

end Symbol

namespace Text

/-- The first word, if the text starts inside one, and the words behind it. -/
def splitWords : Text → Text × List Text
  | [] => ([], [])
  | symbol :: rest =>
    let (word, words) := splitWords rest
    if symbol.isSpace then ([], if word = [] then words else word :: words)
    else (symbol :: word, words)

def words (text : Text) : List Text :=
  let (word, words) := splitWords text
  if word = [] then words else word :: words

def trim (text : Text) : Text := trimEnd Symbol.isSpace (text.dropWhile Symbol.isSpace)

end Text

end PrintParts
