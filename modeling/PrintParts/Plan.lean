import PrintParts.Amount.Number

/-!
How the layers of a print are shared out. Parts are runs of equally many layers, only the last may be
shorter. The wanted number of parts gives the size of a run; a cap on that size raises the number of
parts. The size is the ceiling of a quotient in binary64, like every other number here. A start that is
not given as an integer still yields a number of parts, but no layer belongs to any of them.
-/

namespace PrintParts

/-- One part: the layers from `first` to `last`, both included. -/
structure PartRange where
  index : Nat
  first : Nat
  last : Nat
  totalParts : Nat
  deriving DecidableEq

namespace PartRange

def layerCount (range : PartRange) : Int := (range.last : Int) - range.first + 1

def isLast (range : PartRange) : Bool := range.index + 1 == range.totalParts

def Contains (range : PartRange) (layer : Nat) : Prop := range.first ≤ layer ∧ layer ≤ range.last

instance (range : PartRange) (layer : Nat) : Decidable (range.Contains layer) :=
  inferInstanceAs (Decidable (_ ∧ _))

end PartRange

/-- A division of the layers from `startLayer` up to `layerCount` into runs of `chunk` layers. -/
structure Plan where
  layerCount : Nat
  startLayer : Nat
  /-- The quotient of which `chunk` is the ceiling. -/
  layersPerPart : Binary64
  chunk : Nat
  startLayer_lt : startLayer < layerCount
  chunk_pos : 0 < chunk

namespace Plan

def span (plan : Plan) : Nat := plan.layerCount - plan.startLayer

theorem span_pos (plan : Plan) : 0 < plan.span := Nat.sub_pos_of_lt plan.startLayer_lt

/-- One more than the part of the last layer. -/
def totalParts (plan : Plan) : Nat := (plan.span - 1) / plan.chunk + 1

/-- The part of the end of the print, which counts as one more layer behind the last. -/
def endOfPrintPart (plan : Plan) : Nat := plan.totalParts

def part (plan : Plan) (index : Nat) : PartRange where
  index := index
  first := plan.startLayer + index * plan.chunk
  last := min (plan.startLayer + index * plan.chunk + plan.chunk) plan.layerCount - 1
  totalParts := plan.totalParts

def parts (plan : Plan) : List PartRange := (List.range plan.totalParts).map plan.part

/-- The part of a layer; none for a layer in front of the start, and a failure for a layer that
does not exist. -/
def partForLayer (plan : Plan) (layer : Int) : Except Failure (Option Nat) :=
  if layer < 0 ∨ (plan.layerCount : Int) ≤ layer then
    .error (.unknownLayer layer (plan.layerCount - 1))
  else if layer.toNat < plan.startLayer then .ok none
  else .ok (some (min ((layer.toNat - plan.startLayer) / plan.chunk) (plan.totalParts - 1)))

def quotient (numerator denominator : Nat) : Except Failure Binary64 :=
  if denominator = 0 then .error .divisionByZero
  else match Binary64.ofQuotient? numerator denominator with
    | some value => .ok value
    | none => .error .tooLarge

def share (span : Nat) : Amount → Except Failure Binary64
  | .integer count => quotient span count.toNat
  | .truth value => quotient span (Amount.countOf value).toNat
  | .number value => (roundInteger span).map (· / value)
  | .other _ => .error (.value .wrongKind)

def wholeNumber (value : Binary64) : Except Failure Nat :=
  match value.ceil? with
  | some whole => .ok whole.toNat
  | none => .error (.value (if value.isNan then .nanIsNoInteger else .infinityIsNoInteger))

/-- The number of layers in a part before it is made whole, where `share` divides the layers by an
amount. A cap that would be exceeded is met by as few parts as it allows, kept as equal as possible. -/
def nominalLayers (share : Amount → Except Failure Binary64) (parts : Amount)
    (cap : Option Amount) : Except Failure Binary64 := do
  let wanted ← share parts
  match cap with
  | none => .ok wanted
  | some cap =>
    if cap.isExceededBy wanted then do
      let enough ← share cap
      let needed ← wholeNumber enough
      share (.integer needed)
    else .ok wanted

def checkAtLeastOne (amount : Amount) (fault : Amount → Fault) : Except Failure Unit := do
  let low ← amount.isBelow 1
  if low then .error (fault amount).raise else .ok ()

def divided (layerCount start : Nat) (parts : Amount) (cap : Option Amount) :
    Except Failure Plan := do
  let perPart ← nominalLayers (share (layerCount - start)) parts cap
  let chunk ← wholeNumber perPart
  if valid : start < layerCount ∧ 0 < chunk then
    .ok {
      layerCount := layerCount
      startLayer := start
      layersPerPart := perPart
      chunk := chunk
      startLayer_lt := valid.1
      chunk_pos := valid.2 }
  else .error .divisionByZero

/-- The number of parts behind a start that is given as a binary64 number. -/
def partsBehind (layerCount : Int) (start : Binary64) (parts : Amount) (cap : Option Amount) :
    Except Failure Int := do
  let count ← roundInteger layerCount
  let span := count - start
  let perPart ← nominalLayers (fun amount => amount.toBinary64.map (span / ·)) parts cap
  let chunk ← wholeNumber perPart
  if chunk = 0 then .error .divisionByZero
  else .ok (((span - 1).floorDiv? chunk).getD 0 + 1)

end Plan

inductive Start where
  | layer (index : Nat)
  /-- A binary64 number, which need not lie on a layer. -/
  | place (number : Binary64)
  deriving DecidableEq

/-- The start that is asked for, which has to lie inside the print. -/
def Start.ofAmount (layerCount : Int) (start : Amount) : Except Failure Start :=
  let outside : Failure := (Fault.startOutside start (layerCount - 1)).raise
  let inside (index : Int) : Except Failure Start :=
    if index < 0 ∨ layerCount ≤ index then .error outside else .ok (.layer index.toNat)
  match start with
  | .integer index => inside index
  | .truth value => inside (Amount.countOf value)
  | .number value =>
    if ¬ value.ltInt 0 ∧ value.ltInt layerCount then .ok (.place value) else .error outside
  | .other _ => .error (.value .wrongKind)

inductive Division where
  | whole (plan : Plan)
  /-- It starts at a binary64 number: only the number of its parts is known. -/
  | broken (totalParts : Int)

namespace Division

def totalParts : Division → Int
  | .whole plan => plan.totalParts
  | .broken totalParts => totalParts

def plan : Division → Except Failure Plan
  | .whole plan => .ok plan
  | .broken _ => .error (.value .wrongKind)

/-- The division into `parts` parts of the layers from `start` on, with at most `cap` layers each if
there is a cap. What is asked for is looked at in this order, and the first thing wrong is the
failure. -/
def make (layerCount : Int) (parts : Amount) (cap : Option Amount) (start : Amount) :
    Except Failure Division :=
  if layerCount < 1 then .error Fault.noLayers.raise
  else do
    Plan.checkAtLeastOne parts .tooFewParts
    match cap with
    | some cap => Plan.checkAtLeastOne cap .tooSmallCap
    | none => .ok ()
    match ← Start.ofAmount layerCount start with
    | .layer index => (Plan.divided layerCount.toNat index parts cap).map .whole
    | .place number => (Plan.partsBehind layerCount number parts cap).map .broken

end Division

def Plan.make (layerCount : Int) (parts : Amount) (cap : Option Amount) (start : Amount) :
    Except Failure Plan := do
  let division ← Division.make layerCount parts cap start
  division.plan

end PrintParts
