import PrintParts.Proofs.Scaffold.Execution

/-!
The way of the nozzle through commands. Each command that moves it makes a leg, from the place in front of the
command to the place behind it. What the filament does makes no difference, so the fields for it are left out
before the reference printer executes a command.
-/

namespace PrintParts

/-- A field that is for the filament, or whose number can be read. -/
def Field.Clear (field : Field) : Prop := field.isNamed 'E' = false → field.Readable

theorem Axis.other_than_filament {field : Field} {axis : Axis}
    (named : Axis.ofLetter? field.letter = some axis) : field.isNamed 'E' = false := by
  rw [Field.isNamed, beq_eq_false_iff_ne]
  intro filament
  rw [filament] at named
  exact absurd named (by cases axis <;> decide)

/-- A motion of the nozzle, from one place to another. -/
structure Leg where
  start : Axis → ℚ
  target : Axis → ℚ

def Leg.IsVertical (leg : Leg) : Prop :=
  leg.target .x = leg.start .x ∧ leg.target .y = leg.start .y

namespace Command

/-- What a command says besides the filament. -/
def withoutFilament (command : Command) : Command :=
  { command with fields := command.fields.filter fun field => !field.isNamed 'E' }

def isMotion (command : Command) : Bool :=
  (Code.ofMnemonic? command.mnemonic).any fun code => code.isMove || code == .home

/-- A command that moves the nozzle to places, or declares its place. -/
def places (command : Command) : Bool :=
  (Code.ofMnemonic? command.mnemonic).any fun code => code.isMove || code == .setPosition

/-- A command after which coordinates are absolute if they were so before; it does not home. -/
def isDirect (command : Command) : Bool :=
  (Code.ofMnemonic? command.mnemonic).all fun code => code != .home && code != .relativePositioning

/-- A field of the command is for an axis. -/
def NamesAxis (command : Command) (axis : Axis) : Prop :=
  ∃ field ∈ command.fields, Axis.ofLetter? field.letter = some axis

end Command

namespace Printer

/-- The legs that commands make, and the printer behind them. -/
def travel (printer : Printer) : List Command → Option (List Leg × Printer)
  | [] => some ([], printer)
  | command :: commands =>
    (printer.execute command.withoutFilament).bind fun next =>
      (next.travel commands).map fun (legs, last) =>
        (if command.isMotion then ⟨printer.position, next.position⟩ :: legs else legs, last)

def follow (printer : Printer) (lines : List Text) : Option (List Leg × Printer) :=
  printer.travel (lines.map Command.ofLine)

variable {printer next middle last : Printer} {command : Command} {commands : List Command}
  {legs : List Leg}

theorem travel_motion (motion : command.isMotion = true)
    (executed : printer.execute command.withoutFilament = some next)
    (rest : next.travel commands = some (legs, last)) :
    printer.travel (command :: commands) = some (⟨printer.position, next.position⟩ :: legs, last) := by
  rw [travel, executed, Option.bind_some, rest, Option.map_some]
  simp only [motion, if_true]

theorem travel_other (still : command.isMotion = false)
    (executed : printer.execute command.withoutFilament = some next)
    (rest : next.travel commands = some (legs, last)) :
    printer.travel (command :: commands) = some (legs, last) := by
  rw [travel, executed, Option.bind_some, rest, Option.map_some]
  simp only [still, Bool.false_eq_true, if_false]

theorem travel_append {first : List Command} {more : List Leg}
    (start : printer.travel first = some (legs, middle))
    (rest : middle.travel commands = some (more, last)) :
    printer.travel (first ++ commands) = some (legs ++ more, last) := by
  induction first generalizing printer legs with
  | nil =>
    cases start
    exact rest
  | cons command first induction =>
    rw [travel] at start
    obtain ⟨next, executed, start⟩ := Option.bind_eq_some_iff.mp start
    obtain ⟨⟨later, end'⟩, further, same⟩ := Option.map_eq_some_iff.mp start
    cases same
    have behind := induction further
    cases motion : command.isMotion with
    | true => simpa [motion] using travel_motion motion executed behind
    | false => simpa [motion] using travel_other motion executed behind

theorem travel_preserves (invariant : Printer → Prop)
    (keeps : ∀ command ∈ commands, ∀ printer next, invariant printer →
      printer.execute command.withoutFilament = some next → invariant next)
    (start : invariant printer) (travels : printer.travel commands = some (legs, last)) :
    invariant last ∧ ∀ leg ∈ legs, ∃ before behind, invariant before ∧ invariant behind ∧
      leg = ⟨before.position, behind.position⟩ := by
  induction commands generalizing printer legs with
  | nil =>
    cases travels
    exact ⟨start, fun _ member => nomatch member⟩
  | cons command commands induction =>
    rw [travel] at travels
    obtain ⟨next, executed, travels⟩ := Option.bind_eq_some_iff.mp travels
    obtain ⟨⟨later, end'⟩, further, same⟩ := Option.map_eq_some_iff.mp travels
    cases same
    have here := keeps command List.mem_cons_self printer next start executed
    obtain ⟨ends, behind⟩ := induction
      (fun other member => keeps other (List.mem_cons_of_mem _ member)) here further
    refine ⟨ends, ?_⟩
    cases motion : command.isMotion with
    | true =>
      simp only [if_true]
      exact List.forall_mem_cons.mpr ⟨⟨printer, next, start, here, rfl⟩, behind⟩
    | false => simpa using behind

theorem put_same {axis : Axis} {number : ℚ} : (printer.put axis number).position axis = number :=
  Function.update_self ..

theorem put_other {axis other : Axis} (differs : other ≠ axis) {number : ℚ} :
    (printer.put axis number).position other = printer.position other :=
  Function.update_of_ne differs ..

/-- What one field does to the places of a printer: it puts the axis that it names to its number. -/
def Puts (field : Field) (before behind : Printer) : Prop :=
  behind.modes = before.modes ∧ ∀ axis,
    (Axis.ofLetter? field.letter = some axis ∧ field.text.rational? = some (behind.position axis)) ∨
    (Axis.ofLetter? field.letter ≠ some axis ∧ behind.position axis = before.position axis)

theorem puts_of_put {field : Field} {axis : Axis} {number : ℚ}
    (named : Axis.ofLetter? field.letter = some axis) (reads : field.text.rational? = some number) :
    Puts field printer (printer.put axis number) := by
  refine ⟨rfl, fun other => ?_⟩
  by_cases same : axis = other
  · subst same
    exact .inl ⟨named, by rw [put_same, reads]⟩
  · refine .inr ⟨fun also => same (Option.some.inj (named.symm.trans also)), ?_⟩
    exact put_other (Ne.symm same)

theorem move_field_puts {field : Field} (other : field.isNamed 'E' = false)
    (absolute : printer.modes.xyz = .absolute) (moved : printer.moveField field = some next) :
    Puts field printer next := by
  unfold moveField at moved
  rw [if_neg (by rw [other]; decide)] at moved
  split at moved
  · rename_i unnamed
    cases moved
    refine ⟨rfl, fun axis => .inr ⟨fun named => ?_, rfl⟩⟩
    rw [unnamed] at named
    cases named
  · rename_i axis named
    obtain ⟨number, reads, rfl⟩ := Option.map_eq_some_iff.mp moved
    rw [absolute]
    exact puts_of_put named reads

theorem declare_field_puts {field : Field} (other : field.isNamed 'E' = false)
    (declared : printer.declareField field = some next) : Puts field printer next := by
  unfold declareField at declared
  rw [if_neg (by rw [other]; decide)] at declared
  split at declared
  · rename_i unnamed
    cases declared
    refine ⟨rfl, fun axis => .inr ⟨fun named => ?_, rfl⟩⟩
    rw [unnamed] at named
    cases named
  · rename_i axis named
    obtain ⟨number, reads, rfl⟩ := Option.map_eq_some_iff.mp declared
    exact puts_of_put named reads

theorem fold_puts {step : Printer → Field → Option Printer} {fields : List Field}
    (puts : ∀ field ∈ fields, ∀ printer next, printer.modes.xyz = .absolute →
      step printer field = some next → Puts field printer next)
    (absolute : printer.modes.xyz = .absolute) (folded : fields.foldlM step printer = some next)
    (axis : Axis) :
    (∃ field ∈ fields, Axis.ofLetter? field.letter = some axis ∧
      field.text.rational? = some (next.position axis)) ∨
    ((∀ field ∈ fields, Axis.ofLetter? field.letter ≠ some axis) ∧
      next.position axis = printer.position axis) := by
  induction fields generalizing printer with
  | nil =>
    cases folded
    exact .inr ⟨fun _ member => (nomatch member), rfl⟩
  | cons field fields induction =>
    rw [List.foldlM_cons] at folded
    obtain ⟨middle, first, rest⟩ := Option.bind_eq_some_iff.mp folded
    obtain ⟨modes, here⟩ := puts field List.mem_cons_self printer middle absolute first
    have later := induction (fun other member => puts other (List.mem_cons_of_mem _ member))
      (by rw [modes, absolute]) rest
    rcases later with ⟨other, member, named, reads⟩ | ⟨unnamed, same⟩
    · exact .inl ⟨other, List.mem_cons_of_mem _ member, named, reads⟩
    · rcases here axis with ⟨named, reads⟩ | ⟨otherwise, still⟩
      · exact .inl ⟨field, List.mem_cons_self, named, by rw [same, reads]⟩
      · exact .inr ⟨List.forall_mem_cons.mpr ⟨otherwise, unnamed⟩, same.trans still⟩

/-- What a command does to one axis: a field of it puts the axis to its number, or the axis stays, and then
the command is not one that places the nozzle along it. -/
def PutsAxis (command : Command) (axis : Axis) (before behind : Printer) : Prop :=
  (∃ field ∈ command.fields, Axis.ofLetter? field.letter = some axis ∧
    field.text.rational? = some (behind.position axis)) ∨
  ((command.places = true → ¬ command.NamesAxis axis) ∧ behind.position axis = before.position axis)

theorem fold_puts_axis {step : Printer → Field → Option Printer}
    (puts : ∀ field : Field, field.isNamed 'E' = false → ∀ printer next,
      printer.modes.xyz = .absolute → step printer field = some next → Puts field printer next)
    (absolute : printer.modes.xyz = .absolute)
    (folded : command.withoutFilament.fields.foldlM step printer = some next) (axis : Axis) :
    PutsAxis command axis printer next := by
  have kept : ∀ {field}, field ∈ command.withoutFilament.fields ↔
      field ∈ command.fields ∧ field.isNamed 'E' = false := by
    intro field
    rw [Command.withoutFilament, List.mem_filter, Bool.not_eq_true']
  rcases fold_puts (fun field member => puts field (kept.mp member).2) absolute folded axis with
    ⟨field, member, named, reads⟩ | ⟨unnamed, same⟩
  · exact .inl ⟨field, (kept.mp member).1, named, reads⟩
  · refine .inr ⟨fun _ ⟨field, member, named⟩ => ?_, same⟩
    exact unnamed field (kept.mpr ⟨member, Axis.other_than_filament named⟩) named

theorem execute_puts (direct : command.isDirect = true) (absolute : printer.modes.xyz = .absolute)
    (executed : printer.execute command.withoutFilament = some next) :
    next.modes.xyz = .absolute ∧ ∀ axis, PutsAxis command axis printer next := by
  have meaning : command.withoutFilament.mnemonic = command.mnemonic := rfl
  have modes := execute_modes executed
  unfold Command.isDirect at direct
  unfold execute at executed
  rw [meaning] at modes executed
  have idle : next.position = printer.position → command.places = false →
      ∀ axis, PutsAxis command axis printer next := by
    intro same other axis
    refine .inr ⟨fun places => ?_, congrFun same axis⟩
    rw [other] at places
    cases places
  cases meant : Code.ofMnemonic? command.mnemonic with
  | none =>
    rw [meant] at modes executed
    cases executed
    exact ⟨absolute, idle rfl (by rw [Command.places, meant]; rfl)⟩
  | some code =>
    rw [meant] at modes executed direct
    refine ⟨?_, ?_⟩
    · rw [modes]
      cases code <;> first | exact absolute | rfl | cases direct
    · have other : code.isMove = false → code ≠ .setPosition → command.places = false := by
        intro still undeclared
        rw [Command.places, meant, Option.any_some, still, Bool.false_or, beq_eq_false_iff_ne]
        exact undeclared
      cases code with
      | rapidMove | linearMove =>
        exact fold_puts_axis (fun _ spares _ _ => move_field_puts spares) absolute executed
      | setPosition =>
        exact fold_puts_axis (fun _ spares _ _ _ => declare_field_puts spares) absolute executed
      | home => cases direct
      | fanOn =>
        obtain ⟨fan, rfl⟩ := blow_frame executed
        exact idle rfl (other rfl (by decide))
      | _ =>
        cases executed
        exact idle rfl (other rfl (by decide))

theorem travel_succeeds (clear : ∀ command ∈ commands, command.Reads Field.Clear) (printer : Printer) :
    ∃ legs last, printer.travel commands = some (legs, last) := by
  induction commands generalizing printer with
  | nil => exact ⟨[], printer, rfl⟩
  | cons command commands induction =>
    have readable : command.withoutFilament.Reads Field.Readable := by
      intro looked field member
      obtain ⟨inCommand, spares⟩ := List.mem_filter.mp member
      exact clear command List.mem_cons_self looked field inCommand (by simpa using spares)
    obtain ⟨next, executed⟩ := execute_succeeds readable printer
    obtain ⟨legs, last, rest⟩ := induction
      (fun other member => clear other (List.mem_cons_of_mem _ member)) next
    cases motion : command.isMotion with
    | true => exact ⟨_, _, travel_motion motion executed rest⟩
    | false => exact ⟨_, _, travel_other motion executed rest⟩

end Printer

namespace Scaffold

variable {line : Line} {lines : List Line} {holds : Field → Prop}

theorem Line.execute_besides_filament (reads : line.Reads holds) (printer : Printer) :
    printer.execute (Command.ofLine line.toText).withoutFilament =
      printer.execute line.command.withoutFilament := by
  cases looked : line.command.readsFields with
  | false =>
    have blind : line.command.withoutFilament.readsFields = false := looked
    exact Printer.execute_congr (mnemonic_of_line_to_text (named_of_reads reads)) blind
  | true => rw [command_of_line reads looked]

theorem follow_lines (reads : ∀ line ∈ lines, line.Reads holds) (printer : Printer) :
    printer.follow (lines.map Line.toText) = printer.travel (lines.map Line.command) := by
  rw [Printer.follow, List.map_map]
  induction lines generalizing printer with
  | nil => rfl
  | cons line lines induction =>
    have here := reads line List.mem_cons_self
    have motion : (Command.ofLine line.toText).isMotion = line.command.isMotion := by
      rw [Command.isMotion, Command.isMotion, Line.mnemonic_of_line_to_text (Line.named_of_reads here)]
    rw [List.map_cons, List.map_cons, Printer.travel, Printer.travel]
    simp only [Function.comp_apply, Line.execute_besides_filament here, motion,
      induction fun other member => reads other (List.mem_cons_of_mem _ member)]

end Scaffold

end PrintParts
