import PrintParts.Amount
import PrintParts.Naming
import PrintParts.Text.Number
import PrintParts.Text.Quoted

/-!
JSON values and how they are read. The dialect also accepts `NaN`, `Infinity` and `-Infinity`; of
two members with one name the later value counts, at the place of the earlier one. An integer is told
apart from a number with a point or an exponent. Values inside values are followed to a limit only.
-/

namespace PrintParts

inductive Json where
  | null
  | bool (value : Bool)
  | integer (value : Int)
  | number (value : Binary64)
  | string (value : Text)
  | array (items : List Json)
  | object (members : List (Text × Json))
  deriving Inhabited

namespace Json

inductive ReadError where
  | malformed
  /-- An integer in it has too many digits. -/
  | tooManyDigits (digits : Nat)
  /-- There are too many values around another one. -/
  | tooDeep

/-- How many arrays and objects may stand around each other. -/
def nestingLimit : Nat := 986

def find? (members : List (Text × Json)) (name : Text) : Option Json :=
  (members.find? fun member => member.1 == name).map (·.2)

/-- Sets a member: a new one goes to the end, an old one keeps its place. -/
def setMember (name : Text) (value : Json) : List (Text × Json) → List (Text × Json)
  | [] => [(name, value)]
  | member :: rest =>
    if member.1 = name then (name, value) :: rest else member :: setMember name value rest

def skipBlanks (text : Text) : Text :=
  text.dropWhile fun symbol =>
    symbol == .char ' ' || symbol == .char '\t' || symbol == .char '\n' || symbol == .char '\r'

def hexDigit? (symbol : Symbol) : Option Nat :=
  match symbol with
  | .raw _ | .half _ => none
  | .char digit =>
    if digit.isDigit then some (digit.toNat - 48)
    else if 'a' ≤ digit ∧ digit ≤ 'f' then some (digit.toNat - 87)
    else if 'A' ≤ digit ∧ digit ≤ 'F' then some (digit.toNat - 55)
    else none

/-- The symbol of a code unit. Half of a pair that stands alone is a raw byte if it stands for one. -/
def symbolOfUnit (unit : Nat) : Symbol :=
  if 0xDC80 ≤ unit ∧ unit ≤ 0xDCFF then .raw (UInt8.ofNat (unit - 0xDC00))
  else if 0xD800 ≤ unit ∧ unit ≤ 0xDFFF then .half (UInt16.ofNat unit)
  else .char (Char.ofNat unit)

/-- What a string shows behind a backslash: the code units written so far, to be paired up. -/
inductive Piece where
  | symbol (symbol : Symbol)
  | unit (unit : Nat)

def joinPieces : List Piece → Text
  | [] => []
  | .symbol symbol :: rest => symbol :: joinPieces rest
  | .unit high :: .unit low :: rest =>
    if 0xD800 ≤ high ∧ high ≤ 0xDBFF ∧ 0xDC00 ≤ low ∧ low ≤ 0xDFFF then
      .char (Char.ofNat (0x10000 + (high - 0xD800) * 0x400 + (low - 0xDC00))) :: joinPieces rest
    else symbolOfUnit high :: joinPieces (.unit low :: rest)
  | .unit unit :: rest => symbolOfUnit unit :: joinPieces rest

def escapeLetter? : Symbol → Option Symbol
  | .char '"' => some (.char '"')
  | .char '\\' => some (.char '\\')
  | .char '/' => some (.char '/')
  | .char 'b' => some (.char '\x08')
  | .char 'f' => some (.char '\x0c')
  | .char 'n' => some (.char '\n')
  | .char 'r' => some (.char '\r')
  | .char 't' => some (.char '\t')
  | _ => none

def readPieces : Text → Option (List Piece × Text)
  | [] => none
  | .char '"' :: rest => some ([], rest)
  | .char '\\' :: .char 'u' :: first :: second :: third :: fourth :: rest => do
    let first ← hexDigit? first
    let second ← hexDigit? second
    let third ← hexDigit? third
    let fourth ← hexDigit? fourth
    let (pieces, after) ← readPieces rest
    some (.unit (((first * 16 + second) * 16 + third) * 16 + fourth) :: pieces, after)
  | .char '\\' :: escape :: rest => do
    let symbol ← escapeLetter? escape
    let (pieces, after) ← readPieces rest
    some (.symbol symbol :: pieces, after)
  | symbol :: rest =>
    match symbol with
    | .char character =>
      if character.toNat < 32 ∨ character = '\\' then none
      else do
        let (pieces, after) ← readPieces rest
        some (.symbol symbol :: pieces, after)
    | .raw _ | .half _ => do
      let (pieces, after) ← readPieces rest
      some (.symbol symbol :: pieces, after)

def readString (text : Text) : Except ReadError (Text × Text) :=
  match readPieces text with
  | some (pieces, rest) => .ok (joinPieces pieces, rest)
  | none => .error .malformed

def spanDigits (text : Text) : List Char × Text :=
  ((text.takeWhile Symbol.isAsciiDigit).filterMap fun symbol =>
      match symbol with
      | .char digit => some digit
      | .raw _ | .half _ => none,
    text.dropWhile Symbol.isAsciiDigit)

def takeFraction (text : Text) : Option (List Char × Text) :=
  match text with
  | .char '.' :: rest =>
    let (digits, after) := spanDigits rest
    if digits = [] then none else some (digits, after)
  | _ => none

def takeExponent (text : Text) : Option (Int × Text) :=
  match text with
  | .char mark :: rest =>
    if mark = 'e' ∨ mark = 'E' then
      let (negative, unsigned) := match rest with
        | .char '-' :: unsigned => (true, unsigned)
        | .char '+' :: unsigned => (false, unsigned)
        | unsigned => (false, unsigned)
      let (digits, after) := spanDigits unsigned
      if digits = [] then none
      else
        let value : Int := Nat.ofDigitChars 10 digits 0
        some (if negative then -value else value, after)
    else none
  | _ => none

/-- A number behind its sign. A zero in front stands alone. -/
def readNumber (negative : Bool) (text : Text) : Except ReadError (Json × Text) :=
  let (run, _) := spanDigits text
  let whole := match run with
    | '0' :: _ => ['0']
    | digits => digits
  if whole = [] then .error .malformed
  else
    let afterWhole := text.drop whole.length
    let fraction := takeFraction afterWhole
    let afterFraction := (fraction.map (·.2)).getD afterWhole
    let exponent := takeExponent afterFraction
    let rest := (exponent.map (·.2)).getD afterFraction
    if fraction.isNone ∧ exponent.isNone then
      if integerDigitLimit < whole.length then .error (.tooManyDigits whole.length)
      else
        let value : Int := Nat.ofDigitChars 10 whole 0
        .ok (.integer (if negative then -value else value), rest)
    else
      let places := (fraction.map (·.1)).getD []
      let shift := (exponent.map (·.1)).getD 0
      .ok (.number (.ofDecimal negative (Nat.ofDigitChars 10 (whole ++ places) 0)
        (shift - places.length)), rest)

def words : List (String × Json) := [
  ("null", .null), ("true", .bool true), ("false", .bool false), ("NaN", .number .nan),
  ("Infinity", .number (.infinite false)), ("-Infinity", .number (.infinite true))]

def readWord? (text : Text) : Option (Json × Text) :=
  words.findSome? fun (word, value) =>
    (Text.dropStart? text (Text.of word)).map fun rest => (value, rest)

mutual

/-- A value at the beginning of a text without blanks in front, and what follows it. Each step into
the text takes one unit of fuel, and each value around another one takes one of `depth`. -/
def readValue : Nat → Nat → Text → Except ReadError (Json × Text)
  | 0, _, _ => .error .malformed
  | fuel + 1, depth, text =>
    match readWord? text with
    | some found => .ok found
    | none =>
      match text with
      | .char '"' :: rest => do
        let (value, after) ← readString rest
        .ok (.string value, after)
      | .char '[' :: rest =>
        match depth, skipBlanks rest with
        | 0, _ => .error .tooDeep
        | _, .char ']' :: after => .ok (.array [], after)
        | depth + 1, inside => do
          let (items, after) ← readItems fuel depth inside
          .ok (.array items, after)
      | .char '\x7b' :: rest =>
        match depth, skipBlanks rest with
        | 0, _ => .error .tooDeep
        | _, .char '\x7d' :: after => .ok (.object [], after)
        | depth + 1, inside => do
          let (members, after) ← readMembers fuel depth [] inside
          .ok (.object members, after)
      | .char '-' :: rest => readNumber true rest
      | _ => readNumber false text

def readItems : Nat → Nat → Text → Except ReadError (List Json × Text)
  | 0, _, _ => .error .malformed
  | fuel + 1, depth, text => do
    let (item, after) ← readValue fuel depth text
    match skipBlanks after with
    | .char ',' :: rest => do
      let (items, behind) ← readItems fuel depth (skipBlanks rest)
      .ok (item :: items, behind)
    | .char ']' :: rest => .ok ([item], rest)
    | _ => .error .malformed

def readMembers : Nat → Nat → List (Text × Json) → Text →
    Except ReadError (List (Text × Json) × Text)
  | 0, _, _, _ => .error .malformed
  | fuel + 1, depth, earlier, text =>
    match text with
    | .char '"' :: rest => do
      let (name, afterName) ← readString rest
      match skipBlanks afterName with
      | .char ':' :: afterColon => do
        let (value, after) ← readValue fuel depth (skipBlanks afterColon)
        let members := setMember name value earlier
        match skipBlanks after with
        | .char ',' :: rest => readMembers fuel depth members (skipBlanks rest)
        | .char '\x7d' :: rest => .ok (members, rest)
        | _ => .error .malformed
      | _ => .error .malformed
    | _ => .error .malformed

end

def readWithin (depth : Nat) (text : Text) : Except ReadError Json := do
  let (value, rest) ← readValue (text.length + 1) depth (skipBlanks text)
  if skipBlanks rest = [] then .ok value else .error .malformed

def read (text : Text) : Except ReadError Json := readWithin nestingLimit text

mutual

/-- A value where a text is expected, inside brackets: strings are quoted there. -/
def displayInside : Json → Text
  | .null => Text.of "None"
  | .bool true => Text.of "True"
  | .bool false => Text.of "False"
  | .integer value => Text.ofInt value
  | .number value => Text.ofChars value.shortest
  | .string value => value.quoted
  | .array items => Text.of "[" ++ Text.join (Text.of ", ") (displayItems items) ++ Text.of "]"
  | .object members =>
    Text.of "\x7b" ++ Text.join (Text.of ", ") (displayMembers members) ++ Text.of "\x7d"

def displayItems : List Json → List Text
  | [] => []
  | item :: items => displayInside item :: displayItems items

def displayMembers : List (Text × Json) → List Text
  | [] => []
  | (name, value) :: members =>
    (name.quoted ++ Text.of ": " ++ displayInside value) :: displayMembers members

end

/-- A value where a text is expected; a string is its own text. -/
def display : Json → Text
  | .string value => value
  | other => displayInside other

def isYes : Json → Bool
  | .null => false
  | .bool value => value
  | .integer value => value ≠ 0
  | .number value => !value.isZero
  | .string text => text ≠ []
  | .array items => !items.isEmpty
  | .object members => !members.isEmpty

def isText (value : Json) (text : Text) : Bool :=
  match value with
  | .string own => own == text
  | _ => false

def toNaming : Json → Naming
  | .null => .nothing
  | .string text => .name text
  | _ => .unusable

def toAmount : Json → Amount
  | .integer value => .integer value
  | .number value => .number value
  | .bool value => .truth value
  | other => .other other.display

/-- A value where a ratio is asked for. What is no number and counts as a no is no ratio at all. -/
def toRatio : Json → Amount
  | .null | .string [] | .array [] | .object [] => .integer 0
  | value => value.toAmount

end Json

end PrintParts
