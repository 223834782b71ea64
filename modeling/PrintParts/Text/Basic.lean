/-!
Text of program files. A file need not be well-formed UTF-8, and its lines have to be written back
byte for byte, so a text is a list of symbols: characters, and single bytes that no character claims.
Data can also name one half of a pair of code units without the other; no file can hold that.
-/

namespace PrintParts

/-- A character, or what stands where no character can be formed. -/
inductive Symbol where
  | char (character : Char)
  /-- A byte that is not part of a well-formed character. -/
  | raw (byte : UInt8)
  /-- A code unit of a pair whose other half is missing. -/
  | half (unit : UInt16)
  deriving DecidableEq

instance : Inhabited Symbol := ⟨.raw 0⟩

def Symbol.isRaw : Symbol → Bool
  | .raw _ => true
  | _ => false

def Symbol.isHalf : Symbol → Bool
  | .half _ => true
  | _ => false

/-- The number of a symbol. A raw byte and a half have numbers that no character has. -/
def Symbol.point : Symbol → Nat
  | .char character => character.toNat
  | .raw byte => 0xDC00 + byte.toNat
  | .half unit => unit.toNat

abbrev Text := List Symbol

namespace Text

def ofChars (chars : List Char) : Text := chars.map .char

def of (literal : String) : Text := ofChars literal.toList

def ofNat (value : Nat) : Text := ofChars (Nat.toDigits 10 value)

def ofInt : Int → Text
  | .ofNat value => ofNat value
  | .negSucc below => .char '-' :: ofNat (below + 1)

def join (separator : Text) : List Text → Text
  | [] => []
  | [text] => text
  | text :: rest => text ++ separator ++ join separator rest

def before (separator : Char) : Text → Text
  | [] => []
  | symbol :: rest => if symbol = .char separator then [] else symbol :: before separator rest

def after? (separator : Char) : Text → Option Text
  | [] => none
  | symbol :: rest => if symbol = .char separator then some rest else after? separator rest

theorem before_eq_self {separator : Char} {text : Text} (free : .char separator ∉ text) :
    before separator text = text := by
  induction text with
  | nil => rfl
  | cons symbol text induction =>
    simp only [List.mem_cons, not_or] at free
    simp [before, Ne.symm free.1, induction free.2]

def dropStart? : Text → Text → Option Text
  | text, [] => some text
  | [], _ :: _ => none
  | head :: text, symbol :: opening => if head = symbol then dropStart? text opening else none

/-- A list without its longest ending of members that `drop` accepts. -/
def trimEnd (drop : Symbol → Bool) : Text → Text
  | [] => []
  | symbol :: rest =>
    match trimEnd drop rest with
    | [] => if drop symbol then [] else [symbol]
    | kept => symbol :: kept

theorem trimEnd_append_singleton {drop : Symbol → Bool} (text : Text) {last : Symbol}
    (kept : drop last = false) : trimEnd drop (text ++ [last]) = text ++ [last] := by
  induction text with
  | nil => simp [trimEnd, kept]
  | cons symbol text induction => simp [trimEnd, induction]

end Text

end PrintParts
