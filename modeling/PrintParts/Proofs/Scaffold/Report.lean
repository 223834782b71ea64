import PrintParts.Proofs.Outcome
import PrintParts.Scaffold.Check

/-!
What the check reports, from what it reads in each line. It stops at a line that it cannot read; otherwise
whether it reports an issue can be said of what it reads, without the state that it keeps.
-/

namespace PrintParts

namespace Scaffold

def reading? (line : Text) : Option CheckedLine :=
  if checkedCode line = [] then none else (CheckedLine.ofCode (checkedCode line)).toOption

/-- A line that the check goes through without a failure. -/
def Legible (line : Text) : Prop :=
  checkedCode line = [] ∨ ∃ checked, CheckedLine.ofCode (checkedCode line) = .ok checked

def stateBehind (state : CheckState) (readings : List CheckedLine) : CheckState :=
  readings.foldl (fun state line => line.next state) state

def causesFrom (context : CheckContext) : CheckState → List CheckedLine → List IssueCause
  | _, [] => []
  | state, line :: readings => line.causes context state ++ causesFrom context (line.next state) readings

namespace CheckedLine

/-- Whether a line says where Z is, or moves as if that had been said. -/
def settlesZ (line : CheckedLine) : Bool := line.declaresZ || line.movesXY

/-- Whether a line heats with one of these M commands. -/
def heatsAny (line : CheckedLine) (numbers : List Nat) : Bool := line.heats && line.m.any (· ∈ numbers)

/-- What makes a line the place of an issue. -/
def Gives (line : CheckedLine) (context : CheckContext) (state : CheckState) : IssueCause → Prop
  | .unusualG code => line.g = some code ∧ code ∉ knownG
  | .unusualM code => line.m = some code ∧ code ∉ knownM
  | .homesZ => 0 < context.part ∧ line.homesZ = true
  | .movesBeforeZ => line.movesXY = true ∧ state.zDeclared = false ∧ line.declaresZ = false
  | .aboveLimit z limit => limit = context.maxZ ∧ line.zTarget? = some z ∧
      line.relativeAfter state.relative = false ∧ context.maxZ < z
  | .noBedTemperature | .noNozzleTemperature => False

end CheckedLine

/-- When the check reports an issue. -/
def Reported (context : CheckContext) (readings : List CheckedLine) : IssueCause → Prop
  | .unusualG code => ∃ line ∈ readings, line.g = some code ∧ code ∉ knownG
  | .unusualM code => ∃ line ∈ readings, line.m = some code ∧ code ∉ knownM
  | .homesZ => 0 < context.part ∧ ∃ line ∈ readings, line.homesZ = true
  | .movesBeforeZ => context.kind = .opening ∧ context.part ≠ 0 ∧
      ∃ line, readings.find? (·.settlesZ) = some line ∧ line.declaresZ = false
  | .aboveLimit z limit => ∃ before line after, readings = before ++ line :: after ∧
      limit = context.maxZ ∧ line.zTarget? = some z ∧
      line.relativeAfter (stateBehind (.start context) before).relative = false ∧ context.maxZ < z
  | .noBedTemperature => context.kind = .opening ∧ context.part = 0 ∧
      ∀ line ∈ readings, line.heatsAny [140, 190] = false
  | .noNozzleTemperature => context.kind = .opening ∧
      ∀ line ∈ readings, line.heatsAny [104, 109] = false

section

variable {context : CheckContext} {lines : List Text} {readings : List CheckedLine} {cause : IssueCause}

theorem check_lines_of_legible (legible : ∀ line ∈ lines, Legible line) (state : CheckState) (number : Nat) :
    ∃ issues, checkLines context state number lines =
        .ok (issues, stateBehind state (lines.filterMap reading?)) ∧
      issues.map (·.cause) = causesFrom context state (lines.filterMap reading?) := by
  induction lines generalizing state number with
  | nil => exact ⟨[], rfl, rfl⟩
  | cons line lines induction =>
    obtain ⟨here, later⟩ := List.forall_mem_cons.mp legible
    rw [checkLines]
    by_cases empty : checkedCode line = []
    · obtain ⟨issues, checks, causes⟩ := induction later state (number + 1)
      have silent : reading? line = none := if_pos empty
      rw [List.filterMap_cons_none silent]
      exact ⟨issues, by simpa only [empty, if_true] using checks, causes⟩
    · obtain ⟨checked, read⟩ := here.resolve_left empty
      obtain ⟨issues, checks, causes⟩ := induction later (checked.next state) (number + 1)
      have spoken : reading? line = some checked := by
        rw [reading?, if_neg empty, read]
        rfl
      rw [List.filterMap_cons_some spoken]
      refine ⟨(checked.causes context state).map (⟨number, ·⟩) ++ issues, ?_, ?_⟩
      · simp only [if_neg empty, read, ok_bind, checks]
        rfl
      · rw [List.map_append, List.map_map, causes, causesFrom]
        exact congrArg (· ++ _) (List.map_id _)

theorem causes_eq (line : CheckedLine) (state : CheckState) : line.causes context state =
    (line.g.elim [] fun code => if code ∈ knownG then [] else [.unusualG code]) ++
    (line.m.elim [] fun code => if code ∈ knownM then [] else [.unusualM code]) ++
    (if 0 < context.part ∧ line.homesZ then [.homesZ] else []) ++
    (if line.movesXY ∧ ¬ (state.zDeclared ∨ line.declaresZ) then [.movesBeforeZ] else []) ++
    (line.zTarget?.elim [] fun z =>
      if ¬ line.relativeAfter state.relative ∧ context.maxZ < z then [.aboveLimit z context.maxZ] else []) := by
  unfold CheckedLine.causes
  cases line.g <;> cases line.m <;> cases line.zTarget? <;> rfl

theorem mem_causes {line : CheckedLine} {state : CheckState} :
    cause ∈ line.causes context state ↔ line.Gives context state cause := by
  have g : cause ∈ (line.g.elim [] fun code => if code ∈ knownG then [] else [IssueCause.unusualG code]) ↔
      ∃ code, line.g = some code ∧ code ∉ knownG ∧ cause = .unusualG code := by
    cases line.g <;> simp
  have m : cause ∈ (line.m.elim [] fun code => if code ∈ knownM then [] else [IssueCause.unusualM code]) ↔
      ∃ code, line.m = some code ∧ code ∉ knownM ∧ cause = .unusualM code := by
    cases line.m <;> simp
  have height : cause ∈ (line.zTarget?.elim [] fun z =>
      if ¬ line.relativeAfter state.relative ∧ context.maxZ < z then
        [IssueCause.aboveLimit z context.maxZ]
      else []) ↔ ∃ z, line.zTarget? = some z ∧ line.relativeAfter state.relative = false ∧
        context.maxZ < z ∧ cause = .aboveLimit z context.maxZ := by
    cases line.zTarget? <;> simp [and_assoc]
  simp only [causes_eq, List.mem_append]
  refine (or_congr (or_congr (or_congr (or_congr g m) Iff.rfl) Iff.rfl) height).trans ?_
  cases cause <;> simp [CheckedLine.Gives]
  case aboveLimit z limit => tauto

theorem mem_causes_from {state : CheckState} : cause ∈ causesFrom context state readings ↔
    ∃ before line after, readings = before ++ line :: after ∧
      line.Gives context (stateBehind state before) cause := by
  induction readings generalizing state with
  | nil => simp [causesFrom]
  | cons first readings induction =>
    rw [causesFrom, List.mem_append, mem_causes, induction]
    constructor
    · rintro (here | ⟨before, line, after, rfl, later⟩)
      · exact ⟨[], first, readings, rfl, here⟩
      · exact ⟨first :: before, line, after, rfl, later⟩
    · rintro ⟨_ | ⟨_, before⟩, line, after, split, gives⟩
      · cases split
        exact .inl gives
      · cases split
        exact .inr ⟨before, line, after, rfl, gives⟩

theorem mem_causes_anywhere {state : CheckState} {gives : CheckedLine → Prop}
    (each : ∀ line state, line.Gives context state cause ↔ gives line) :
    cause ∈ causesFrom context state readings ↔ ∃ line ∈ readings, gives line := by
  simp only [mem_causes_from, each]
  constructor
  · rintro ⟨before, line, after, rfl, gives⟩
    exact ⟨line, by simp, gives⟩
  · rintro ⟨line, member, gives⟩
    obtain ⟨before, after, rfl⟩ := List.append_of_mem member
    exact ⟨before, line, after, rfl, gives⟩

theorem state_behind_eq (state : CheckState) (readings : List CheckedLine) :
    (stateBehind state readings).zDeclared = (state.zDeclared || readings.any (·.settlesZ)) ∧
    (stateBehind state readings).bedHeated = (state.bedHeated || readings.any (·.heatsAny [140, 190])) ∧
    (stateBehind state readings).nozzleHeated =
      (state.nozzleHeated || readings.any (·.heatsAny [104, 109])) := by
  have either : ∀ (number : Option Nat) (first second : Nat),
      number.any (· ∈ [first, second]) = (number == some first || number == some second) := by
    intro number first second
    rw [Bool.eq_iff_iff]
    cases number <;> simp
  induction readings generalizing state with
  | nil => simp [stateBehind]
  | cons line readings induction =>
    obtain ⟨declared, bed, nozzle⟩ := induction (line.next state)
    refine ⟨declared.trans ?_, bed.trans ?_, nozzle.trans ?_⟩
    · simp only [CheckedLine.next, CheckedLine.settlesZ, List.any_cons, Bool.or_assoc]
    · simp only [CheckedLine.next, CheckedLine.heatsAny, either, List.any_cons, Bool.or_assoc]
    · simp only [CheckedLine.next, CheckedLine.heatsAny, either, List.any_cons, Bool.or_assoc]

/-- Only the first line that settles where Z is can move before that was said. -/
theorem moving_reported {state : CheckState} : .movesBeforeZ ∈ causesFrom context state readings ↔
    state.zDeclared = false ∧
      ∃ line, readings.find? (·.settlesZ) = some line ∧ line.declaresZ = false := by
  simp only [mem_causes_from, CheckedLine.Gives, (state_behind_eq state _).1, List.find?_eq_some_iff_append,
    Bool.or_eq_false_iff, List.any_eq_false]
  constructor
  · rintro ⟨before, line, after, rfl, moves, ⟨undeclared, unsettled⟩, silent⟩
    exact ⟨undeclared, line, ⟨by simp [CheckedLine.settlesZ, moves], before, after, rfl, by simpa using unsettled⟩,
      silent⟩
  · rintro ⟨undeclared, line, ⟨settles, before, after, rfl, unsettled⟩, silent⟩
    refine ⟨before, line, after, rfl, ?_, ⟨undeclared, by simpa using unsettled⟩, silent⟩
    simpa [CheckedLine.settlesZ, silent] using settles

theorem mem_missing {state : CheckState} : cause ∈ (missing context state).map (·.cause) ↔
    context.kind = .opening ∧
      (context.part = 0 ∧ state.bedHeated = false ∧ cause = .noBedTemperature ∨
        state.nozzleHeated = false ∧ cause = .noNozzleTemperature) := by
  unfold missing
  by_cases opens : context.kind = .opening
  · cases bed : state.bedHeated <;> cases nozzle : state.nozzleHeated <;>
      by_cases first : context.part = 0 <;> simp [opens, first]
  · simp [opens]

/-- The check of lines that it can read. -/
theorem report_of_legible (legible : ∀ line ∈ lines, Legible line) (context : CheckContext) :
    ∃ issues, check context lines = .ok issues ∧
      ∀ cause, cause ∈ issues.map (·.cause) ↔ Reported context (lines.filterMap reading?) cause := by
  obtain ⟨issues, checks, causes⟩ := @check_lines_of_legible context lines legible (.start context) 1
  refine ⟨issues ++ missing context (stateBehind (.start context) (lines.filterMap reading?)), ?_, ?_⟩
  · simp only [check, checks, ok_bind]
  obtain ⟨-, bed, nozzle⟩ := state_behind_eq (.start context) (lines.filterMap reading?)
  intro cause
  rw [List.map_append, List.mem_append, causes, mem_missing, bed, nozzle]
  generalize lines.filterMap reading? = readings
  cases cause with
  | unusualG code =>
    rw [mem_causes_anywhere fun line _ => Iff.rfl]
    simp [Reported]
  | unusualM code =>
    rw [mem_causes_anywhere fun line _ => Iff.rfl]
    simp [Reported]
  | homesZ =>
    rw [mem_causes_anywhere fun line _ => Iff.rfl]
    simp only [reduceCtorEq, and_false, or_self, or_false, Reported]
    exact ⟨fun ⟨line, member, later, homes⟩ => ⟨later, line, member, homes⟩,
      fun ⟨later, line, member, homes⟩ => ⟨line, member, later, homes⟩⟩
  | movesBeforeZ =>
    rw [moving_reported]
    simp [CheckState.start, Reported, and_assoc, and_left_comm]
  | aboveLimit z limit =>
    rw [mem_causes_from]
    simp [CheckedLine.Gives, Reported]
  | noBedTemperature =>
    rw [mem_causes_anywhere fun line _ => Iff.rfl]
    simp [CheckState.start, Reported]
  | noNozzleTemperature =>
    rw [mem_causes_anywhere fun line _ => Iff.rfl]
    simp [CheckState.start, Reported]

end

end Scaffold

end PrintParts
