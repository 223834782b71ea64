import PrintParts.Amount
import PrintParts.CommandLine.Switch
import PrintParts.Naming
import PrintParts.Text.Number

/-!
Reading a command line. Each word is first told apart: a switch, something that only looks like one, or
an operand; behind the divider `--` everything is an operand. Then the words are consumed in order. A
switch takes the operand right behind it, and the first operand that no switch takes is the input. A
divider attached to a switch takes the place of its operand, and leaves nothing behind.
-/

namespace PrintParts

/-- What the words of a command line say. -/
structure Arguments where
  input : Option Text := none
  parts : Amount := .integer 3
  maxLayers : Option Amount := none
  startLayer : Amount := .integer 0
  output : Naming := .nothing
  profile : Naming := .nothing
  prime : Option Text := none
  shiftBedPrime : Bool := false
  initialTemp : Bool := false
  reheatBed : Bool := false
  iron : Bool := false
  zCompression : Amount := .number 0
  flowRate : Amount := .integer 100
  allowOverrides : Bool := false
  verbose : Bool := false
  deriving DecidableEq

inductive Word where
  | operand (text : Text)
  | divider
  | long (named : Switch) (attached : Option Text)
  /-- A switch in its short spelling, and what is attached to it, with or without an equals sign. -/
  | short (named : Switch) (attached : Option Text)
  | unknown (text : Text)
  deriving DecidableEq

namespace Word

/-- Digits, or digits around a point with at least one behind it; one newline may follow. -/
def isNumber (text : Text) : Bool :=
  let text := if text.getLast? = some (.char '\n') then text.dropLast else text
  match text.dropWhile Symbol.isDigit with
  | [] => !text.isEmpty
  | .char '.' :: places => !places.isEmpty && places.all Symbol.isDigit
  | _ => false

/-- A word with two dashes in front, if a switch is spelled that way or begins that way. -/
def ofLong (word : Text) : Except UsageFault (Option Word) :=
  let spelling := Text.before '=' word
  let attached := Text.after? '=' word
  match Switch.ofLong? spelling, Switch.beginning spelling with
  | some named, _ => .ok (some (.long named attached))
  | none, [] => .ok none
  | none, [named] => .ok (some (.long named attached))
  | none, candidates => .error (.ambiguous word candidates)

def ofShort (letter : Symbol) (rest : Text) : Option Word :=
  (Switch.ofShort? letter).map fun named => .short named <| match rest with
    | [] => none
    | .char '=' :: attached => some attached
    | letters => some letters

/-- A word that is no switch. Negative numbers and words with blanks in them are operands. -/
def ofRest (word : Text) (unsigned : Text) : Word :=
  if isNumber unsigned ∨ .char ' ' ∈ word then .operand word else .unknown word

def ofText (word : Text) : Except UsageFault Word :=
  match word with
  | .char '-' :: .char '-' :: rest =>
    (ofLong word).map fun found => found.getD (ofRest word (.char '-' :: rest))
  | .char '-' :: letter :: rest => .ok ((ofShort letter rest).getD (ofRest word (letter :: rest)))
  | _ => .ok (.operand word)

def ofTexts : List Text → Except UsageFault (List Word)
  | [] => .ok []
  | text :: texts =>
    if text = Text.of "--" then .ok (.divider :: texts.map .operand)
    else do
      let word ← ofText text
      let words ← ofTexts texts
      .ok (word :: words)

end Word

inductive Refusal where
  | usage (fault : UsageFault)
  | help
  deriving DecidableEq

namespace Arguments

def raise (arguments : Arguments) : Switch → Arguments
  | .shiftBedPrime => { arguments with shiftBedPrime := true }
  | .initialTemp => { arguments with initialTemp := true }
  | .reheatBed => { arguments with reheatBed := true }
  | .iron => { arguments with iron := true }
  | .allowOverrides => { arguments with allowOverrides := true }
  | .verbose => { arguments with verbose := true }
  | _ => arguments

def integerOf (switch : Switch) (operand : Text) : Except Refusal Amount :=
  match readInteger operand with
  | .value value => .ok (.integer value)
  | _ => .error (.usage (.malformedOperand switch operand))

def set (arguments : Arguments) (switch : Switch) (operand : Text) :
    Except Refusal Arguments :=
  match switch with
  | .parts => (integerOf switch operand).map fun value => { arguments with parts := value }
  | .maxLayers =>
    (integerOf switch operand).map fun value => { arguments with maxLayers := some value }
  | .startLayer =>
    (integerOf switch operand).map fun value => { arguments with startLayer := value }
  | .flowRate => (integerOf switch operand).map fun value => { arguments with flowRate := value }
  | .zCompression =>
    match Binary64.ofText? operand with
    | some value => .ok { arguments with zCompression := .number value }
    | none => .error (.usage (.malformedOperand switch operand))
  | .output => .ok { arguments with output := .name operand }
  | .profile => .ok { arguments with profile := .name operand }
  | .prime =>
    if operand = Text.of "air" ∨ operand = Text.of "bed" then
      .ok { arguments with prime := some operand }
    else .error (.usage (.malformedOperand switch operand))
  | _ => .ok (arguments.raise switch)

/-- What is left of an operand that the divider has taken the place of: no number, and no name. -/
def leftover : Amount := .other (Text.of "[]")

/-- Sets a switch whose operand the divider has taken the place of. Where nothing is as good as no
answer, the switch is as if it had not been given. -/
def setLeftover (arguments : Arguments) : Switch → Arguments
  | .parts => { arguments with parts := leftover }
  | .maxLayers => { arguments with maxLayers := some leftover }
  | .startLayer => { arguments with startLayer := leftover }
  | .flowRate => { arguments with flowRate := leftover }
  | .zCompression => { arguments with zCompression := .number 0 }
  | .output => { arguments with output := .unusable }
  | .profile => { arguments with profile := .nothing }
  | .prime => { arguments with prime := none }
  | _ => arguments

def signal (arguments : Arguments) (switch : Switch) : Except Refusal Arguments :=
  if switch = .help then .error .help else .ok (arguments.raise switch)

/-- The short switches that are attached to another one, letter by letter. A letter that is none of
them is too much for the switch in front of it, together with all that follows. -/
def cluster (switch : Switch) : Text → Except Refusal (List Switch)
  | [] => .ok [switch]
  | letter :: rest =>
    match Switch.ofShort? letter with
    | some next => (cluster next rest).map (switch :: ·)
    | none => .error (.usage (.operandIgnored switch (letter :: rest)))

/-- A switch in its short spelling with those attached to it. An equals sign has to be followed by
something. -/
def spread (switch : Switch) : Option Text → Except Refusal (List Switch)
  | none => .ok [switch]
  | some [] => .error (.usage (.operandIgnored switch []))
  | some letters => cluster switch letters

def attach (arguments : Arguments) (switch : Switch) (attached : Text) :
    Except Refusal Arguments :=
  if switch.operand = .none then .error (.usage (.operandIgnored switch attached))
  else if attached = Text.of "--" then .ok (arguments.setLeftover switch)
  else arguments.set switch attached

def operandTexts (words : List Word) : List Text := words.filterMap fun word =>
  match word with
  | .operand text => some text
  | _ => none

/-- The words behind the divider. Its neighbour is the input, if there is none yet. -/
def takeBehind (arguments : Arguments) (extras : List Text) : List Word → Arguments × List Text
  | .operand text :: rest =>
    if arguments.input.isNone then
      ({ arguments with input := some text }, extras ++ operandTexts rest)
    else (arguments, extras ++ Text.of "--" :: text :: operandTexts rest)
  | rest => (arguments, extras ++ Text.of "--" :: operandTexts rest)

def consume (arguments : Arguments) (extras : List Text) :
    List Word → Except Refusal (Arguments × List Text)
  | [] => .ok (arguments, extras)
  | .divider :: rest => .ok (arguments.takeBehind extras rest)
  | .operand text :: rest =>
    if arguments.input.isSome then consume arguments (extras ++ [text]) rest
    else
      let arguments := { arguments with input := some text }
      match rest with
      | .divider :: rest => .ok (arguments, extras ++ operandTexts rest)
      | rest => consume arguments extras rest
  | .unknown text :: rest => consume arguments (extras ++ [text]) rest
  | .short named attached :: rest => do
    let switches ← spread named attached
    let arguments ← switches.foldlM signal arguments
    consume arguments extras rest
  | .long named (some attached) :: rest => do
    let arguments ← arguments.attach named attached
    consume arguments extras rest
  | .long named none :: rest =>
    if named.operand = .none then do
      let arguments ← arguments.signal named
      consume arguments extras rest
    else
      match rest with
      | .operand text :: rest => do
        let arguments ← arguments.set named text
        consume arguments extras rest
      | _ => .error (.usage (.operandMissing named))

/-- What the words of a command line say. They are told apart before any is consumed, and a missing
input is noticed before words that are not recognized. -/
def ofTexts (texts : List Text) : Except Refusal Arguments := do
  let words ← (Word.ofTexts texts).mapError .usage
  let (arguments, extras) ← consume {} [] words
  if arguments.input.isNone then .error (.usage .inputMissing)
  else if extras ≠ [] then .error (.usage (.unrecognized extras))
  else .ok arguments

end Arguments

end PrintParts
