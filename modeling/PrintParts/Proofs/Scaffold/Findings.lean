import PrintParts.Gcode.Command
import PrintParts.Proofs.Number.Order
import PrintParts.Scaffold.Check

/-!
What is wrong with the commands of a scaffold. Each finding depends on the command that it is about, and on
what was commanded in front of it; the state that the check keeps from line to line stands for just that.
-/

namespace PrintParts

namespace Command

/-- The number of a command with this letter. -/
def number? (command : Command) (letter : Char) : Option Nat :=
  match command.mnemonic with
  | [] => none
  | head :: digits => if head = .char letter then some (digitsValue digits) else none

def isAny (command : Command) (letter : Char) (numbers : List Nat) : Bool :=
  (command.number? letter).any (· ∈ numbers)

def value? (command : Command) (letter : Char) : Option Binary64 :=
  (command.field? letter).bind fun field => Binary64.ofText? field.text

def declaresHeight (command : Command) : Bool := command.isAny 'G' [92] && command.hasField 'Z'

def movesAcross (command : Command) : Bool :=
  command.isAny 'G' [0, 1, 28] && (command.hasField 'X' || command.hasField 'Y')

def homesHeight (command : Command) : Bool :=
  command.isAny 'G' [28] &&
    (command.hasField 'Z' || !(command.hasField 'X' || command.hasField 'Y' || command.hasField 'Z'))

def height? (command : Command) : Option Binary64 :=
  if command.isAny 'G' [0, 1, 92] then command.value? 'Z' else none

/-- Whether the command makes positions relative, if it says how they are meant. -/
def turns? (command : Command) : Option Bool :=
  if command.isAny 'G' [90] then some false else if command.isAny 'G' [91] then some true else none

def heatsAny (command : Command) (numbers : List Nat) : Bool :=
  command.isAny 'M' numbers && (command.value? 'S').any fun target => (0 : Binary64) < target

/-- How many digits the number of a command has, if they are too many to be read. -/
def excess? (command : Command) : Option Nat :=
  if integerDigitLimit < command.mnemonic.tail.length then some command.mnemonic.tail.length else none

end Command

namespace Scaffold

/-- Whether positions are relative behind commands. -/
def relativeBehind (earlier : List Command) : Bool :=
  ((earlier.filterMap Command.turns?).getLast?).getD false

/-- What is wrong with a command, given those in front of it. -/
def findings (context : CheckContext) (earlier : List Command) (command : Command) : List IssueCause :=
  (((command.number? 'G').toList.filter (· ∉ knownG)).map .unusualG) ++
  (((command.number? 'M').toList.filter (· ∉ knownM)).map .unusualM) ++
  (if 0 < context.part ∧ command.homesHeight then [.homesZ] else []) ++
  (if context.kind = .opening ∧ context.part ≠ 0 ∧ command.movesAcross ∧
      ∀ other ∈ earlier, other.declaresHeight = false ∧ other.movesAcross = false then
    [.movesBeforeZ] else []) ++
  (if relativeBehind earlier then [] else
    ((command.height?.toList.filter fun z => context.maxZ < z).map (.aboveLimit · context.maxZ)))

def findingsFrom (context : CheckContext) (earlier : List Command) : List Command → List Issue
  | [] => []
  | command :: rest =>
    (findings context earlier command).map (⟨earlier.length + 1, ·⟩) ++
      findingsFrom context (earlier ++ [command]) rest

/-- What an opening has to command somewhere. -/
def findingsBehind (context : CheckContext) (commands : List Command) : List Issue :=
  if context.kind = .opening then
    (if context.part = 0 ∧ ∀ command ∈ commands, command.heatsAny [140, 190] = false then
      [⟨0, .noBedTemperature⟩] else []) ++
    (if ∀ command ∈ commands, command.heatsAny [104, 109] = false then
      [⟨0, .noNozzleTemperature⟩] else [])
  else []

/-- What the check has noticed in commands. -/
def CheckState.behind (context : CheckContext) (earlier : List Command) : CheckState where
  relative := relativeBehind earlier
  zDeclared := decide (context.part = 0 ∨ context.kind ≠ .opening) ||
    earlier.any fun command => command.declaresHeight || command.movesAcross
  bedHeated := earlier.any (·.heatsAny [140, 190])
  nozzleHeated := earlier.any (·.heatsAny [104, 109])

end Scaffold

def Command.checked (command : Command) : Scaffold.CheckedLine where
  g := command.number? 'G'
  m := command.number? 'M'
  z := (command.field? 'Z').map (·.text)
  hasXY := command.hasField 'X' || command.hasField 'Y'
  heats := (command.field? 'S').any fun field => (0 : Binary64) < parameterValue field.text

namespace Scaffold

section

variable {context : CheckContext} {earlier : List Command} {command : Command}

theorem start_eq_behind (context : CheckContext) : CheckState.start context = .behind context [] := by
  simp [CheckState.start, CheckState.behind, relativeBehind]

theorem relative_behind_append (earlier : List Command) (command : Command) :
    relativeBehind (earlier ++ [command]) = command.turns?.getD (relativeBehind earlier) := by
  rw [relativeBehind, List.filterMap_append]
  cases turned : command.turns? with
  | none => simp [relativeBehind, turned]
  | some relative => simp [turned]

/-- A comparison that fails for what is no number can be made with the text of a field. -/
theorem value_above (command : Command) (letter : Char) (bound : Binary64) :
    ((command.field? letter).any fun field => bound < parameterValue field.text) =
      (command.value? letter).any (bound < ·) := by
  unfold Command.value?
  cases command.field? letter with
  | none => rfl
  | some field =>
    cases read : Binary64.ofText? field.text <;> simp [parameterValue, read, Binary64.not_lt_nan]

theorem is_any_nil (command : Command) (letter : Char) : command.isAny letter [] = false := by
  cases found : command.number? letter <;> simp [Command.isAny, found]

theorem is_any_cons (command : Command) (letter : Char) (number : Nat) (numbers : List Nat) :
    command.isAny letter (number :: numbers) =
      (command.number? letter == some number || command.isAny letter numbers) := by
  cases found : command.number? letter with
  | none => simp [Command.isAny, found]
  | some other =>
    by_cases same : other = number <;> simp [Command.isAny, found, same]

theorem turns_eq (command : Command) (relative : Bool) :
    command.checked.relativeAfter relative = command.turns?.getD relative := by
  simp only [CheckedLine.relativeAfter, Command.checked, Command.turns?, is_any_cons, is_any_nil,
    Bool.or_false, beq_iff_eq]
  by_cases ninety : command.number? 'G' = some 90
  · simp [ninety]
  · by_cases ninetyOne : command.number? 'G' = some 91 <;> simp [ninety, ninetyOne]

theorem moves_eq (command : Command) : command.checked.movesXY = command.movesAcross := by
  simp only [CheckedLine.movesXY, Command.checked, Command.movesAcross, is_any_cons, is_any_nil,
    Bool.or_false, Bool.and_comm, Bool.or_assoc]

theorem declares_eq (command : Command) : command.checked.declaresZ = command.declaresHeight := by
  simp only [CheckedLine.declaresZ, Command.checked, Command.declaresHeight, is_any_cons, is_any_nil,
    Bool.or_false, Option.isSome_map, Command.hasField]

theorem next_eq_behind (context : CheckContext) (earlier : List Command) (command : Command) :
    command.checked.next (.behind context earlier) = .behind context (earlier ++ [command]) := by
  have heats : command.checked.heats = (command.value? 'S').any ((0 : Binary64) < ·) :=
    value_above command 'S' 0
  simp only [CheckedLine.next, CheckState.behind, turns_eq, relative_behind_append, moves_eq, declares_eq,
    heats, List.any_append, List.any_cons, List.any_nil, Bool.or_false, Bool.or_assoc,
    Command.heatsAny, is_any_cons, is_any_nil]
  simp only [Bool.and_comm, Command.checked]

theorem unusual_eq (number : Option Nat) (known : List Nat) (cause : Nat → IssueCause) :
    (match number with
      | some code => if code ∈ known then [] else [cause code]
      | none => []) = (number.toList.filter (· ∉ known)).map cause := by
  cases number with
  | none => rfl
  | some code => by_cases isKnown : code ∈ known <;> simp [isKnown]

theorem homes_eq (command : Command) : command.checked.homesZ = command.homesHeight := by
  simp only [CheckedLine.homesZ, Command.checked, Command.homesHeight, is_any_cons, is_any_nil,
    Bool.or_false, Option.isSome_map, Command.hasField]
  cases (command.field? 'Z').isSome <;> simp

theorem turns_of_height {command : Command} (takes : command.isAny 'G' [0, 1, 92] = true) :
    command.turns? = none := by
  simp only [is_any_cons, is_any_nil, Bool.or_false, Bool.or_eq_true, beq_iff_eq] at takes
  rcases takes with number | number | number <;>
    simp [Command.turns?, is_any_cons, is_any_nil, number]

theorem target_eq (command : Command) : command.checked.zTarget? =
    if command.isAny 'G' [0, 1, 92] then
      (command.field? 'Z').map fun field => parameterValue field.text else none := by
  simp only [CheckedLine.zTarget?, Command.checked, Option.map_map, is_any_cons, is_any_nil,
    Bool.or_false, Bool.or_eq_true, beq_iff_eq]
  rfl

theorem causes_eq_findings (context : CheckContext) (earlier : List Command) (command : Command) :
    command.checked.causes context (.behind context earlier) = findings context earlier command := by
  have across : (CheckState.behind context earlier).zDeclared = false ↔ context.kind = .opening ∧
      context.part ≠ 0 ∧ ∀ other ∈ earlier, other.declaresHeight = false ∧ other.movesAcross = false := by
    simp only [CheckState.behind, Bool.or_eq_false_iff, decide_eq_false_iff_not, List.any_eq_false,
      Bool.or_eq_true, not_or, Bool.not_eq_true, not_not]
    tauto
  refine congrArg₂ (· ++ ·) (congrArg₂ (· ++ ·) (congrArg₂ (· ++ ·) (congrArg₂ (· ++ ·)
    (unusual_eq (command.number? 'G') knownG .unusualG)
    (unusual_eq (command.number? 'M') knownM .unusualM)) ?homes) ?across) ?height
  case homes => rw [homes_eq]
  case across =>
    rw [moves_eq, declares_eq]
    have still : command.movesAcross = true → command.declaresHeight = false := by
      simp only [Command.movesAcross, Command.declaresHeight, is_any_cons, is_any_nil, Bool.or_false,
        Bool.and_eq_true, Bool.or_eq_true, beq_iff_eq]
      rintro ⟨number | number | number, -⟩ <;> simp [number]
    have same : (command.movesAcross = true ∧
          ¬ ((CheckState.behind context earlier).zDeclared = true ∨ command.declaresHeight = true)) ↔
        context.kind = .opening ∧ context.part ≠ 0 ∧ command.movesAcross = true ∧
          ∀ other ∈ earlier, other.declaresHeight = false ∧ other.movesAcross = false := by
      rw [not_or, Bool.not_eq_true, Bool.not_eq_true, across]
      tauto
    simp only [same]
  case height =>
    rw [target_eq, turns_eq]
    by_cases takes : command.isAny 'G' [0, 1, 92] = true
    · rw [turns_of_height takes, if_pos takes, Command.height?, if_pos takes, Command.value?]
      cases command.field? 'Z' with
      | none => simp
      | some field =>
        cases read : Binary64.ofText? field.text with
        | none => simp [parameterValue, read, Binary64.not_lt_nan]
        | some z =>
          by_cases above : context.maxZ < z <;> cases relative : relativeBehind earlier <;>
            simp [parameterValue, read, above, CheckState.behind, relative]
    · rw [if_neg takes, Command.height?, if_neg takes]
      simp

theorem missing_eq_findings_behind (context : CheckContext) (commands : List Command) :
    missing context (.behind context commands) = findingsBehind context commands := by
  have cold : ∀ numbers, (commands.any (·.heatsAny numbers) = true) ↔
      ¬ ∀ command ∈ commands, command.heatsAny numbers = false := by
    intro numbers
    simp
  unfold missing findingsBehind CheckState.behind
  simp only [cold, not_not, ite_not]

end

end Scaffold

end PrintParts
