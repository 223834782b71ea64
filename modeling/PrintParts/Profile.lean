import PrintParts.Json.Number
import PrintParts.Machine.Step
import PrintParts.Scaffold.Settings
import PrintParts.Text.Utf8

/-!
Printer profiles: the geometry of a printer and the habits of its firmware, under a name. A profile is
kept as a JSON object; a member that is missing has its default, and one that is not known is ignored.
-/

namespace PrintParts

structure Profile where
  name : Text := Text.of "default_cura"
  /-- Filament pulled back at the end of a part. -/
  retract : Binary64 := 3
  hop : Binary64 := 10
  presentY : Binary64 := 220
  maxZ : Binary64 := 250
  headClearance : Binary64 := 30
  primeMode : PrimeMode := .air
  bedPrimeShift : Binary64 := 5
  continuationFeed : Int := 35
  policy : OverridePolicy := .reject
  deriving DecidableEq

namespace Profile

def primeModeOf (value : Json) : Except Failure PrimeMode :=
  if value.isText (Text.of "air") then .ok .air
  else if value.isText (Text.of "bed") then .ok .bed
  else .error (.value (.unknownPrimeMode value.displayInside))

def policyOf (value : Json) : Except Failure OverridePolicy :=
  if value.isText (Text.of "reject") then .ok .reject
  else if value.isText (Text.of "ignore") then .ok .ignore
  else .error (.value (.unknownPolicy value.displayInside))

/-- A member of an object, read in a certain way, or its default. -/
def member {α : Type} (members : List (Text × Json)) (name : String)
    (read : Json → Except Failure α) (fallback : α) : Except Failure α :=
  match Json.find? members (Text.of name) with
  | some value => read value
  | none => .ok fallback

/-- The profile of an object. Its members are read in a fixed order, and the first that cannot be
read is the failure. -/
def ofMembers (members : List (Text × Json)) : Except Failure Profile := do
  let base : Profile := {}
  let name ← member members "name" (fun value => .ok value.display) base.name
  let retract ← member members "retract_mm" Json.toBinary64 base.retract
  let hop ← member members "hop_mm" Json.toBinary64 base.hop
  let presentY ← member members "present_y" Json.toBinary64 base.presentY
  let maxZ ← member members "max_z" Json.toBinary64 base.maxZ
  let headClearance ←
    member members "print_head_x_clearance" Json.toBinary64 base.headClearance
  let primeMode ←
    member members "prime_mode" (fun value => primeModeOf (.string value.display)) base.primeMode
  let bedPrimeShift ← member members "bed_prime_shift_mm" Json.toBinary64 base.bedPrimeShift
  let continuationFeed ←
    member members "continuation_feed_rate" Json.toInteger base.continuationFeed
  let policy ←
    member members "override_policy" (fun value => policyOf (.string value.display)) base.policy
  .ok {
    name := name
    retract := retract
    hop := hop
    presentY := presentY
    maxZ := maxZ
    headClearance := headClearance
    primeMode := primeMode
    bedPrimeShift := bedPrimeShift
    continuationFeed := continuationFeed
    policy := policy }

def ofJson : Json → Except Failure Profile
  | .object members => ofMembers members
  | _ => .error (.value .notARecord)

/-- Reads the content of a profile file, which has to be well-formed UTF-8. -/
def ofBytes (content : List UInt8) : Except Failure Profile :=
  let text := Text.decode content
  if text.any Symbol.isRaw then .error (.value .malformedUtf8)
  else
    match Json.read text with
    | .ok json => ofJson json
    | .error .malformed => .error (.value .malformedJson)
    | .error .tooDeep => .error (.value .tooDeep)
    | .error (.tooManyDigits digits) => .error (.value (.tooManyDigits digits))

end Profile

end PrintParts
