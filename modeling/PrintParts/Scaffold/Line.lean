import PrintParts.Gcode.Command

/-!
The lines of a scaffold: commands with their fields, remarks, and blank lines. A line is kept in this
form, so that what it commands can be said without reading its text.
-/

namespace PrintParts

namespace Scaffold

inductive Line where
  | blank
  | remark (text : Text)
  /-- A command with its fields, and a note behind it. -/
  | code (mnemonic : Text) (fields : List Field) (note : Option Text)
  deriving DecidableEq

namespace Line

def toText : Line → Text
  | .blank => []
  | .remark text => .char ';' :: text
  | .code mnemonic fields note =>
    let commanded := mnemonic ++ fields.flatMap fun field => .char ' ' :: (field.letter ++ field.text)
    match note with
    | some note => commanded ++ .char ' ' :: .char ';' :: note
    | none => commanded

def command : Line → Command
  | .blank => ⟨[], [], []⟩
  | .remark text => ⟨[], [], text⟩
  | .code mnemonic fields note => ⟨mnemonic, fields, note.getD []⟩

end Line

def field (letter : Char) (text : Text) : Field := ⟨[.char letter], text⟩

def fixedField (letter : Char) (text : String) : Field := field letter (Text.of text)

def numberField (letter : Char) (value : Binary64) : Field := field letter value.toText

def negatedField (letter : Char) (value : Binary64) : Field :=
  field letter (.char '-' :: value.toText)

def noted (mnemonic : String) (fields : List Field) (note : String) : Line :=
  .code (Text.of mnemonic) fields (some (Text.of note))

def bare (mnemonic : String) (fields : List Field) : Line := .code (Text.of mnemonic) fields none

def remark (text : String) : Line := .remark (Text.of text)

end Scaffold

end PrintParts
