import PrintParts.Job

/-!
Forms: a request as a user fills it in, with data of any kind in its fields. Words stand for choices, a
cap that counts as a no means no cap, and the less common settings are given by name. A field is looked
at when it is needed, so the first one that cannot be used is the failure.
-/

namespace PrintParts

structure Form where
  input : Json
  parts : Json := .integer 3
  /-- The most layers of a part; a no for as many as there are. -/
  maxLayers : Json := .null
  startLayer : Json := .integer 0
  /-- A way to prime, or the word for what the profile says. -/
  primeMode : Json := .string (Text.of "profile")
  profileName : Json := .string (Text.of "default_cura")
  outputFolder : Json := .null
  /-- The less common settings, by name. -/
  options : List (Text × Json) := []

namespace Form

def fieldNames : List Text :=
  ["gcode_path", "parts", "max_layers_per_part", "start_layer", "prime_mode", "profile",
    "output_dir"].map Text.of

/-- The name under which a form goes itself, so that no setting may have it. -/
def ownName : Text := Text.of "self"

def ofMembers (members : List (Text × Json)) : Except Failure Form :=
  let field (name : String) (fallback : Json) : Json :=
    (Json.find? members (Text.of name)).getD fallback
  match Json.find? members ownName, Json.find? members (Text.of "gcode_path") with
  | some _, _ | none, none => .error (.value .unknownOption)
  | none, some input =>
    let base : Form := { input := input }
    .ok {
      input := input
      parts := field "parts" base.parts
      maxLayers := field "max_layers_per_part" base.maxLayers
      startLayer := field "start_layer" base.startLayer
      primeMode := field "prime_mode" base.primeMode
      profileName := field "profile" base.profileName
      outputFolder := field "output_dir" base.outputFolder
      options := members.filter fun (name, _) => !fieldNames.contains name }

/-- A request with one more setting. Only settings that have no field of their own can be named. A
policy that is named at all lets speed overrides pass. -/
def withOption (request : Request) : Text × Json → Except Failure Request
  | (name, value) =>
    if name = Text.of "shift_bed_prime" then .ok { request with shiftBedPrime := value.isYes }
    else if name = Text.of "use_initial_nozzle_temp" then
      .ok { request with useInitialNozzle := value.isYes }
    else if name = Text.of "reheat_bed" then .ok { request with reheatBed := value.isYes }
    else if name = Text.of "iron" then .ok { request with iron := value.isYes }
    else if name = Text.of "z_compression" then .ok { request with zCompression := value.toRatio }
    else if name = Text.of "continuation_flow_rate" then
      .ok { request with continuationFlow := value.toAmount }
    else if name = Text.of "override_policy" then
      .ok { request with policy := if value.isYes then some .ignore else none }
    else .error (.value .unknownOption)

/-- What the form asks for. The number of parts is looked at first, then the layer to start from and the
way to prime. -/
def request (form : Form) : Except Failure Request := do
  let low ← form.parts.toAmount.isBelow 1
  if low then .error (.value .noParts)
  else do
    let parts ← form.parts.toInteger
    let startLayer ← form.startLayer.toInteger
    let primeMode ← if form.primeMode.isText (Text.of "profile") then pure none
      else (Profile.primeModeOf form.primeMode).map some
    form.options.foldlM withOption {
      input := form.input.toNaming
      parts := .integer parts
      maxLayers := if form.maxLayers.isYes then some form.maxLayers.toAmount else none
      startLayer := .integer startLayer
      outputFolder := form.outputFolder.toNaming
      profileName := if form.profileName.isYes then form.profileName.toNaming else .nothing
      primeMode := primeMode }

def run {m : Type → Type} [Monad m] (disk : Storage m) (folder : ProfileFolder) (form : Form) :
    m (Except Failure Report) := do
  match form.request with
  | .error failure => pure (.error failure)
  | .ok request => Job.run disk folder request

end Form

end PrintParts
