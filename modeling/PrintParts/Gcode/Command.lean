import PrintParts.Failure
import PrintParts.Text.Lines
import PrintParts.Text.Upper

/-!
Commands and the other tokens of a sliced program, and how a line is read as one. The first word of a
command line is its mnemonic; each further word is a field, a letter with a number text behind it.
-/

namespace PrintParts

/-- An argument of a command: its letter in upper case, and its number as written. The letter is a
text because the capital form of a character can be longer than one character. -/
structure Field where
  letter : Text
  text : Text
  deriving DecidableEq

/-- A command line with its comment split off; comments and blank lines have an empty mnemonic. -/
structure Command where
  mnemonic : Text
  fields : List Field
  comment : Text
  deriving DecidableEq

/-- What a line of a program is. -/
inductive Token where
  | layerHeight (value : Binary64)
  | layerCount (count : Nat)
  | layerMarker (index : Nat)
  | endMarker
  | command (command : Command)
  deriving DecidableEq

namespace Field

def isNamed (field : Field) (letter : Char) : Bool := field.letter == [.char letter]

def value (field : Field) : Except Fault Binary64 :=
  match Binary64.ofText? field.text with
  | some value => .ok value
  | none => .error (.malformedField field.letter field.text)

theorem value_eq_ok_iff {field : Field} {number : Binary64} :
    field.value = .ok number ↔ Binary64.ofText? field.text = some number := by
  unfold value
  split <;> simp_all

def ofWord : Text → Field
  | [] => ⟨[], []⟩
  | letter :: text => ⟨letter.upper, text⟩

end Field

namespace Command

def field? (command : Command) (letter : Char) : Option Field :=
  command.fields.find? (·.isNamed letter)

def hasField (command : Command) (letter : Char) : Bool := (command.field? letter).isSome

/-- Reads the part of a line in front of its comment. -/
def ofWords (comment : Text) : List Text → Command
  | [] => ⟨[], [], comment⟩
  | mnemonic :: fields => ⟨mnemonic.upper, fields.map Field.ofWord, comment⟩

def ofLine (line : Text) : Command :=
  ofWords ((line.after? ';').getD []) (line.before ';').words

end Command

/-- What a line gives behind `opening`: blanks, a run of `accepted` symbols, blanks and nothing
else; the answer is the run. -/
def Text.soleArgument? (opening : String) (accepted : Symbol → Bool) (line : Text) : Option Text :=
  match line.dropStart? (Text.of opening) with
  | none => none
  | some rest =>
    let argument := rest.dropWhile Symbol.isSpace
    let run := argument.takeWhile accepted
    if run ≠ [] ∧ (argument.dropWhile accepted).all Symbol.isSpace then some run else none

/-- The end of the print is marked by a comment that begins with blanks or dashes, at least one of
them, and these words. -/
def Text.isEndMarker (line : Text) : Bool :=
  match line with
  | .char ';' :: first :: rest =>
    let isDash (symbol : Symbol) : Bool := symbol == .char ' ' || symbol == .char '-'
    isDash first && (Text.dropStart? (rest.dropWhile isDash) (Text.of "end code begin")).isSome
  | _ => false

def readMarkerNumber (digits : Text) : Except Failure Nat :=
  match readInteger digits with
  | .value value => .ok value.toNat
  | .tooLong count => .error (.value (.tooManyDigits count))
  | .malformed => .error (.value (.notAnInteger digits))

def Token.ofLine (line : Text) : Except Failure Token :=
  let line := line.chomp
  match line.soleArgument? ";LAYER:" Symbol.isAsciiDigit with
  | some digits => (readMarkerNumber digits).map .layerMarker
  | none =>
    match line.soleArgument? ";LAYER_COUNT:" Symbol.isAsciiDigit with
    | some digits => (readMarkerNumber digits).map .layerCount
    | none =>
      match line.soleArgument? ";Layer height:"
          fun symbol => symbol.isAsciiDigit || symbol == .char '.' with
      | some number =>
        match Binary64.ofText? number with
        | some value => .ok (.layerHeight value)
        | none => .error (Fault.malformedLayerHeight number).raise
      | none => if line.isEndMarker then .ok .endMarker else .ok (.command (.ofLine line))

end PrintParts
