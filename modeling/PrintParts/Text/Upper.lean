import PrintParts.Text.Class.Capital
import PrintParts.Text.Basic

/-!
Upper case. A character can have a capital form of several characters, so upper-casing acts on texts.
-/

namespace PrintParts

def capitalPoints (point : Nat) : List Nat :=
  match longCapitals.find? fun entry => entry.1 == point with
  | some entry => entry.2
  | none =>
    match capitalRuns.find? fun run =>
        run.first ≤ point && point ≤ run.last && (point - run.first) % run.step == 0 with
    | some run => [((point : Int) + run.offset).toNat]
    | none => [point]

/-- The capital form of one symbol; only characters have case. -/
def Symbol.upper : Symbol → Text
  | .raw byte => [.raw byte]
  | .half unit => [.half unit]
  | .char character =>
    if character.toNat < 128 then [.char character.toUpper]
    else (capitalPoints character.toNat).map fun point => .char (Char.ofNat point)

def Text.upper (text : Text) : Text := text.flatMap Symbol.upper

theorem Text.upper_append (left right : Text) :
    Text.upper (left ++ right) = Text.upper left ++ Text.upper right := by
  simp [Text.upper]

end PrintParts
