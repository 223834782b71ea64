import PrintParts.Failure
import PrintParts.Text.Upper

/-!
The check of a scaffold. It reads the finished text, so it also sees what a generator other than the
one here has put in: the number of a G or M command at the beginning of a line, and parameters, which
are a letter at the beginning of a word with a number behind it. Nothing follows from a line that it
cannot read.
-/

namespace PrintParts

def takeDigits (text : Text) : Text := text.takeWhile Symbol.isDigit

def digitsValue (digits : Text) : Nat :=
  digits.foldl (fun value symbol => 10 * value + symbol.digit?.getD 0) 0

/-- Reads a parameter with the first match from the left: a symbol that `named` accepts, not behind
a word symbol, with something behind it that `read` accepts. -/
def findParameter? {α : Type} (named : Symbol → Bool) (read : Text → Option α) :
    Bool → Text → Option α
  | _, [] => none
  | behindWord, symbol :: rest =>
    if !behindWord && named symbol then
      match read rest with
      | some found => some found
      | none => findParameter? named read symbol.isWord rest
    else findParameter? named read symbol.isWord rest

/-- A number without a sign at the beginning: digits, and a point with more digits if one follows. -/
def readPlainNumber? (text : Text) : Option Text :=
  let whole := takeDigits text
  if whole = [] then none
  else
    match text.dropWhile Symbol.isDigit with
    | .char '.' :: rest => some (whole ++ .char '.' :: takeDigits rest)
    | _ => some whole

def readSignedNumber? (text : Text) : Option Text :=
  match text with
  | .char '+' :: rest => (readPlainNumber? rest).map (.char '+' :: ·)
  | .char '-' :: rest => (readPlainNumber? rest).map (.char '-' :: ·)
  | _ => readPlainNumber? text

def zParameter? (code : Text) : Option Text :=
  findParameter? (· == .char 'Z') (fun rest => readSignedNumber? (rest.dropWhile Symbol.isSpace))
    false code

def hasXYParameter (code : Text) : Bool :=
  (findParameter? (fun symbol => symbol == .char 'X' || symbol == .char 'Y')
    (fun rest => readSignedNumber? (rest.dropWhile Symbol.isSpace)) false code).isSome

def sParameter? (code : Text) : Option Text :=
  findParameter? (· == .char 'S') (fun rest => readPlainNumber? (rest.dropWhile Symbol.isSpace))
    false code

/-- The number of a command that begins with `letter`, if digits follow it and no other word symbol
follows them. -/
def commandNumber? (letter : Char) (code : Text) : Option Text :=
  match code with
  | [] => none
  | head :: rest =>
    let digits := takeDigits rest
    let ended : Bool := match rest.dropWhile Symbol.isDigit with
      | [] => true
      | next :: _ => !next.isWord
    if head = .char letter ∧ digits ≠ [] ∧ ended then some digits else none

def readCommandNumber (digits : Text) : Except Failure Nat :=
  if integerDigitLimit < digits.length then .error (.value (.tooManyDigits digits.length))
  else .ok (digitsValue digits)

def readCommandNumber? (letter : Char) (code : Text) : Except Failure (Option Nat) :=
  match commandNumber? letter code with
  | none => .ok none
  | some digits => (readCommandNumber digits).map some

def parameterValue (number : Text) : Binary64 := (Binary64.ofText? number).getD .nan

namespace Scaffold

def knownG : List Nat := [0, 1, 4, 28, 90, 91, 92]

def knownM : List Nat :=
  [0, 18, 82, 83, 104, 105, 106, 107, 109, 140, 190, 211, 220, 221, 300, 413, 420]

/-- What the lines read so far have established. -/
structure CheckState where
  relative : Bool
  zDeclared : Bool
  bedHeated : Bool
  nozzleHeated : Bool
  deriving DecidableEq

/-- What a scaffold is checked against. -/
structure CheckContext where
  kind : Kind
  part : Int
  maxZ : Binary64

/-- What one line says to the check. -/
structure CheckedLine where
  g : Option Nat
  m : Option Nat
  /-- The number text of its Z parameter. -/
  z : Option Text
  hasXY : Bool
  /-- Whether it has a positive S parameter. -/
  heats : Bool

/-- The part of a line that is checked: in front of the comment, without blanks, in upper case. -/
def checkedCode (line : Text) : Text := (Text.trim (line.before ';')).upper

def CheckedLine.ofCode (code : Text) : Except Failure CheckedLine := do
  let g ← readCommandNumber? 'G' code
  let m ← readCommandNumber? 'M' code
  .ok {
    g := g
    m := m
    z := zParameter? code
    hasXY := hasXYParameter code
    heats := (sParameter? code).any fun number => (0 : Binary64) < parameterValue number }

namespace CheckState

/-- Continuations have to declare Z in their opening. -/
def start (context : CheckContext) : CheckState where
  relative := false
  zDeclared := decide (context.part = 0 ∨ context.kind ≠ .opening)
  bedHeated := false
  nozzleHeated := false

end CheckState

namespace CheckedLine

def declaresZ (line : CheckedLine) : Bool := line.g == some 92 && line.z.isSome

def movesXY (line : CheckedLine) : Bool :=
  line.hasXY && (line.g == some 0 || line.g == some 1 || line.g == some 28)

/-- Whether the line homes Z, by name or by homing every axis. -/
def homesZ (line : CheckedLine) : Bool := line.g == some 28 && (line.z.isSome || !line.hasXY)

def zTarget? (line : CheckedLine) : Option Binary64 :=
  if line.g = some 0 ∨ line.g = some 1 ∨ line.g = some 92 then line.z.map parameterValue else none

def relativeAfter (line : CheckedLine) (relative : Bool) : Bool :=
  if line.g = some 90 then false else if line.g = some 91 then true else relative

/-- The state behind the line. A motion in front of the declaration is reported once only. -/
def next (line : CheckedLine) (state : CheckState) : CheckState where
  relative := line.relativeAfter state.relative
  zDeclared := state.zDeclared || line.declaresZ || line.movesXY
  bedHeated := state.bedHeated || (line.heats && (line.m == some 140 || line.m == some 190))
  nozzleHeated := state.nozzleHeated || (line.heats && (line.m == some 104 || line.m == some 109))

def causes (line : CheckedLine) (context : CheckContext) (state : CheckState) : List IssueCause :=
  (match line.g with
    | some code => if code ∈ knownG then [] else [.unusualG code]
    | none => []) ++
  (match line.m with
    | some code => if code ∈ knownM then [] else [.unusualM code]
    | none => []) ++
  (if 0 < context.part ∧ line.homesZ then [.homesZ] else []) ++
  (if line.movesXY ∧ ¬ (state.zDeclared ∨ line.declaresZ) then [.movesBeforeZ] else []) ++
  (match line.zTarget? with
    | some z =>
      if ¬ line.relativeAfter state.relative ∧ context.maxZ < z then [.aboveLimit z context.maxZ]
      else []
    | none => [])

end CheckedLine

/-- Goes through the lines, the first one having the number `lineNumber`, and reports what is wrong
with each; the state behind the last line comes with the report. -/
def checkLines (context : CheckContext) (state : CheckState) (lineNumber : Nat) :
    List Text → Except Failure (List Issue × CheckState)
  | [] => .ok ([], state)
  | line :: lines =>
    let code := checkedCode line
    if code = [] then checkLines context state (lineNumber + 1) lines
    else do
      let checked ← CheckedLine.ofCode code
      let (issues, final) ← checkLines context (checked.next state) (lineNumber + 1) lines
      .ok ((checked.causes context state).map (⟨lineNumber, ·⟩) ++ issues, final)

def missing (context : CheckContext) (state : CheckState) : List Issue :=
  if context.kind = .opening then
    (if context.part = 0 ∧ ¬ state.bedHeated then [⟨0, .noBedTemperature⟩] else []) ++
    (if state.nozzleHeated then [] else [⟨0, .noNozzleTemperature⟩])
  else []

/-- Everything that is wrong with a scaffold, line by line, then as a whole. -/
def check (context : CheckContext) (lines : List Text) : Except Failure (List Issue) := do
  let (issues, state) ← checkLines context (.start context) 1 lines
  .ok (issues ++ missing context state)

end Scaffold

def Issue.errors (issues : List Issue) : List Issue :=
  issues.filter fun issue => issue.cause.severity = .error

def Issue.warnings (issues : List Issue) : List Issue :=
  issues.filter fun issue => issue.cause.severity = .warning

def Issue.summary (issues : List Issue) : Text :=
  let errors := Issue.errors issues
  let warnings := Issue.warnings issues
  if errors = [] ∧ warnings = [] then Text.of "Validation passed with no issues."
  else
    let counts :=
      (if errors = [] then [] else [Text.ofNat errors.length ++ Text.of " error(s)"]) ++
      (if warnings = [] then [] else [Text.ofNat warnings.length ++ Text.of " warning(s)"])
    Text.of "Validation: " ++ Text.join (Text.of ", ") counts ++ Text.of "."

end PrintParts
