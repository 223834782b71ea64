import PrintParts.Text.Class
import PrintParts.Text.Class.Printable

/-!
Quoted texts, as messages show lines and names: between quotes, with a backslash in front of what
would end or disturb them, and everything that cannot be seen written as its number.
-/

namespace PrintParts

def hexDigits (width value : Nat) : List Char :=
  let digits := Nat.toDigits 16 value
  List.replicate (width - digits.length) '0' ++ digits

/-- A backslash, a letter that tells the width, and the number. -/
def escapedPoint (point : Nat) : List Char :=
  if point ≤ 0xFF then '\\' :: 'x' :: hexDigits 2 point
  else if point ≤ 0xFFFF then '\\' :: 'u' :: hexDigits 4 point
  else '\\' :: 'U' :: hexDigits 8 point

def quotedChar (quote character : Char) : List Char :=
  if character = quote ∨ character = '\\' then ['\\', character]
  else if character = '\t' then ['\\', 't']
  else if character = '\n' then ['\\', 'n']
  else if character = '\r' then ['\\', 'r']
  else
    let point := character.toNat
    let visible :=
      if point < 128 then decide (32 ≤ point ∧ point ≠ 127) else inRanges printableRanges point
    if visible then [character] else escapedPoint point

def quotedSymbol (quote : Char) : Symbol → List Char
  | .char character => quotedChar quote character
  | other => escapedPoint other.point

/-- The text between single quotes, or between double ones if it holds a single and no double
quote. -/
def Text.quoted (text : Text) : Text :=
  let quote := if .char '\'' ∈ text ∧ .char '"' ∉ text then '"' else '\''
  .char quote :: (Text.ofChars (text.flatMap (quotedSymbol quote)) ++ [.char quote])

end PrintParts
