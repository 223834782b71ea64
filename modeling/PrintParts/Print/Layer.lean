import PrintParts.Machine.Step

/-!
A recorded layer: the printer at its two ends, its lines as they were written, and what its moves tell
about how it begins and whether it can be traced again without printing.
-/

namespace PrintParts

inductive FirstMove where
  | unmade
  | extruding
  | travel (endpoint : Position)
  deriving DecidableEq

structure Layer where
  number : Int
  /-- The printer before the first command of the layer. -/
  entry : MachineState
  /-- The printer behind the last command, once the layer is closed. -/
  exit : Option MachineState
  lines : Array Text
  firstMove : FirstMove
  /-- Where the moves ended, one point for each, up to the first that cannot be traced. -/
  ironingPath : Array Position
  canIron : Bool
  deriving DecidableEq

structure LeastX where
  x : Binary64
  layer : Int
  line : Text
  deriving DecidableEq

/-- A recorded print. -/
structure Print where
  layers : Array Layer
  layerHeight : Option Binary64
  layerCount : Nat
  /-- The printer behind the last line. -/
  state : MachineState
  leastX : Option LeastX
  lineCount : Nat
  deriving DecidableEq

namespace Layer

def opened (number : Int) (entry : MachineState) : Layer where
  number := number
  entry := entry
  exit := none
  lines := #[]
  firstMove := .unmade
  ironingPath := #[]
  canIron := true

instance : Inhabited Layer := ⟨opened 0 .fresh⟩

def travelEndpoint? (layer : Layer) : Option Position :=
  match layer.firstMove with
  | .travel endpoint => some endpoint
  | _ => none

def startPosition (layer : Layer) : Position := layer.travelEndpoint?.getD layer.entry.position

def exitState (layer : Layer) : MachineState := layer.exit.getD layer.entry

def close (layer : Layer) (state : MachineState) : Layer := { layer with exit := some state }

/-- Only the first move decides how the layer begins. -/
def noteFirstMove (layer : Layer) (extrudes : Bool) (endpoint : Position) : Layer :=
  match layer.firstMove with
  | .unmade => { layer with firstMove := if extrudes then .extruding else .travel endpoint }
  | _ => layer

/-- A move can be traced again if it is absolute and ends at a known point. -/
def noteIroning (layer : Layer) (after : MachineState) : Layer :=
  if after.xyzMode = .relative then { layer with canIron := false }
  else if layer.canIron then
    if after.position.isAbsolute then
      { layer with ironingPath := layer.ironingPath.push after.position }
    else { layer with canIron := false }
  else layer

def note (layer : Layer) (code : Code) (command : Command) (after : MachineState) : Layer :=
  if code = .relativePositioning then { layer with canIron := false }
  else if code.isMove then
    (layer.noteFirstMove (command.hasField 'E') after.position).noteIroning after
  else layer

/-- The layer with one more line, whose command led to the state `after`. -/
def addLine (layer : Layer) (code : Code) (command : Command) (after : MachineState)
    (line : Text) : Layer :=
  let noted := layer.note code command after
  { noted with lines := noted.lines.push line }

end Layer

/-- The least X after a command of a layer. Only absolute moves that name X count, and an equal X
leaves the earlier one. -/
def LeastX.update (least : Option LeastX) (layer : Int) (code : Code) (command : Command)
    (after : MachineState) (line : Text) : Option LeastX :=
  if code.isMove ∧ after.xyzMode = .absolute ∧ command.hasField 'X' then
    match after.position.x, least with
    | .absolute x, none => some ⟨x, layer, line⟩
    | .absolute x, some known => if x < known.x then some ⟨x, layer, line⟩ else some known
    | _, known => known
  else least

end PrintParts
