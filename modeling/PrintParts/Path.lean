import PrintParts.Text.Lines

/-!
Paths of files and folders. A path is a list of steps from some start; writing it out leaves no step
that stands for the folder itself, so `./a` and `a/` are one path. A step back is kept, because it can
only be resolved where the folders are known. The name of a file has a suffix if a dot divides it and
leaves something on either side.
-/

namespace PrintParts

inductive Anchor where
  /-- Where one stands. -/
  | here
  /-- At the root of all folders. -/
  | root
  /-- At the root again; two slashes, and no other number of them, are kept as they are. -/
  | doubleRoot
  deriving DecidableEq

structure Path where
  anchor : Anchor
  steps : List Text
  deriving DecidableEq

namespace Path

def pieces : Text → List Text
  | [] => [[]]
  | symbol :: rest =>
    if symbol = .char '/' then [] :: pieces rest else consToFirst symbol (pieces rest)

def isStep (piece : Text) : Bool := piece ≠ [] ∧ piece ≠ [.char '.']

def anchorOf (text : Text) : Anchor :=
  match (text.takeWhile (· == .char '/')).length with
  | 0 => .here
  | 2 => .doubleRoot
  | _ => .root

def ofText (text : Text) : Path where
  anchor := anchorOf text
  steps := (pieces text).filter isStep

/-- The step to the folder around. -/
def back : Text := Text.of ".."

def toText (path : Path) : Text :=
  let inside := Text.join (Text.of "/") path.steps
  match path.anchor with
  | .here => if path.steps = [] then Text.of "." else inside
  | .root => .char '/' :: inside
  | .doubleRoot => .char '/' :: .char '/' :: inside

def append (folder other : Path) : Path :=
  if other.anchor = .here then ⟨folder.anchor, folder.steps ++ other.steps⟩ else other

def child (folder : Path) (name : Text) : Path := ⟨folder.anchor, folder.steps ++ [name]⟩

def parent (path : Path) : Path := ⟨path.anchor, path.steps.dropLast⟩

/-- The last step; empty for a folder that is where one stands. -/
def name (path : Path) : Text := path.steps.getLast?.getD []

theorem parent_child (folder : Path) (name : Text) : (folder.child name).parent = folder := by
  simp [parent, child]

/-- A text cut at its last dot, which belongs to neither half. -/
def cutAtLastDot? : Text → Option (Text × Text)
  | [] => none
  | symbol :: rest =>
    match cutAtLastDot? rest with
    | some (before, after) => some (symbol :: before, after)
    | none => if symbol = .char '.' then some ([], rest) else none

def splitName (path : Path) : Text × Text :=
  match cutAtLastDot? path.name with
  | some (before, after) =>
    if before = [] ∨ after = [] then (path.name, []) else (before, .char '.' :: after)
  | none => (path.name, [])

def stem (path : Path) : Text := path.splitName.1

def suffix (path : Path) : Text := path.splitName.2

end Path

end PrintParts
