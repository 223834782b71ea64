import Mathlib.Logic.Function.Basic
import PrintParts.Proofs.Number.Reading
import PrintParts.Proofs.Scaffold.Modes

/-!
A reference printer. It reads the numbers of a line exactly, moves its axes and its filament as the
modes say, and knows how far the filament was pushed by moves, which declaring a position does not
change. A move whose numbers cannot be read stops it.
-/

namespace PrintParts

inductive Blower where
  | off
  | full
  | duty (value : ℚ)

structure Printer where
  position : Axis → ℚ
  e : ℚ
  /-- Filament pushed by all moves together. -/
  filament : ℚ
  modes : Modes
  fan : Blower

def Mode.target (mode : Mode) (place number : ℚ) : ℚ :=
  match mode with
  | .absolute => number
  | .relative => place + number

namespace Printer

def pushTo (printer : Printer) (target : ℚ) : Printer :=
  { printer with e := target, filament := printer.filament + (target - printer.e) }

def put (printer : Printer) (axis : Axis) (place : ℚ) : Printer :=
  { printer with position := Function.update printer.position axis place }

def moveField (printer : Printer) (field : Field) : Option Printer :=
  if field.isNamed 'E' then
    field.text.rational?.map fun number =>
      printer.pushTo (printer.modes.extruder.target printer.e number)
  else
    match Axis.ofLetter? field.letter with
    | none => some printer
    | some axis => field.text.rational?.map fun number =>
        printer.put axis (printer.modes.xyz.target (printer.position axis) number)

def declareField (printer : Printer) (field : Field) : Option Printer :=
  if field.isNamed 'E' then field.text.rational?.map fun number => { printer with e := number }
  else
    match Axis.ofLetter? field.letter with
    | none => some printer
    | some axis => field.text.rational?.map fun number => printer.put axis number

/-- The named axes go to their zero; all of them if none is named. -/
def home (printer : Printer) (fields : List Field) : Printer :=
  let named := fields.filterMap fun field => Axis.ofLetter? field.letter
  { printer with position := fun axis =>
      if named = [] ∨ axis ∈ named then 0 else printer.position axis }

/-- The fan goes to the duty that is asked for, and to its full speed if none is. -/
def blow (printer : Printer) (command : Command) : Option Printer :=
  match command.field? 'S' with
  | none => some { printer with fan := .full }
  | some field => field.text.rational?.map fun value => { printer with fan := .duty value }

/-- The printer behind a command. Commands that change neither place, filament, modes nor fan are
passed over. -/
def execute (printer : Printer) (command : Command) : Option Printer :=
  match Code.ofMnemonic? command.mnemonic with
  | some .rapidMove | some .linearMove => command.fields.foldlM moveField printer
  | some .setPosition => command.fields.foldlM declareField printer
  | some .home => some (printer.home command.fields)
  | some .fanOff => some { printer with fan := .off }
  | some .fanOn => printer.blow command
  | some code => some { printer with modes := printer.modes.follow code }
  | none => some printer

def run (printer : Printer) (lines : List Text) : Option Printer :=
  lines.foldlM (fun printer line => printer.execute (Command.ofLine line)) printer

theorem run_cons (printer : Printer) (line : Text) (lines : List Text) :
    printer.run (line :: lines) =
      (printer.execute (Command.ofLine line)).bind fun next => next.run lines := rfl

theorem run_append (printer : Printer) (first second : List Text) :
    printer.run (first ++ second) = (printer.run first).bind fun middle => middle.run second := by
  rw [run, List.foldlM_append]
  rfl

end Printer

def Code.readsFields : Code → Bool
  | .rapidMove | .linearMove | .setPosition | .home | .fanOn => true
  | _ => false

namespace Command

def readsFields (command : Command) : Bool :=
  (Code.ofMnemonic? command.mnemonic).any Code.readsFields

/-- A command of which every field that a printer looks at has a property. -/
def Reads (holds : Field → Prop) (command : Command) : Prop :=
  command.readsFields = true → ∀ field ∈ command.fields, holds field

end Command

def Field.Readable (field : Field) : Prop := ∃ number, field.text.rational? = some number

def Field.SparesFilament (field : Field) : Prop := field.isNamed 'E' = false

namespace Printer

variable {printer after : Printer} {command : Command}

theorem execute_congr {other : Command} (same : other.mnemonic = command.mnemonic)
    (blind : command.readsFields = false) : printer.execute other = printer.execute command := by
  unfold Command.readsFields at blind
  unfold execute
  rw [same]
  cases meant : Code.ofMnemonic? command.mnemonic with
  | none => rfl
  | some code =>
    rw [meant] at blind
    cases code <;> first | rfl | cases blind

theorem fold_succeeds {step : Printer → Field → Option Printer} {fields : List Field}
    (succeeds : ∀ field ∈ fields, ∀ printer, ∃ next, step printer field = some next)
    (printer : Printer) : ∃ after, fields.foldlM step printer = some after := by
  induction fields generalizing printer with
  | nil => exact ⟨printer, rfl⟩
  | cons field fields induction =>
    obtain ⟨next, first⟩ := succeeds field List.mem_cons_self printer
    obtain ⟨after, rest⟩ := induction
      (fun other member => succeeds other (List.mem_cons_of_mem _ member)) next
    exact ⟨after, by rw [List.foldlM_cons, first]; exact rest⟩

theorem move_field_succeeds {field : Field} (readable : field.Readable) (printer : Printer) :
    ∃ next, printer.moveField field = some next := by
  obtain ⟨number, reads⟩ := readable
  unfold moveField
  split
  · exact ⟨_, by rw [reads, Option.map_some]⟩
  · split
    · exact ⟨printer, rfl⟩
    · exact ⟨_, by rw [reads, Option.map_some]⟩

theorem declare_field_succeeds {field : Field} (readable : field.Readable) (printer : Printer) :
    ∃ next, printer.declareField field = some next := by
  obtain ⟨number, reads⟩ := readable
  unfold declareField
  split
  · exact ⟨_, by rw [reads, Option.map_some]⟩
  · split
    · exact ⟨printer, rfl⟩
    · exact ⟨_, by rw [reads, Option.map_some]⟩

theorem execute_succeeds (readable : command.Reads Field.Readable) (printer : Printer) :
    ∃ after, printer.execute command = some after := by
  unfold Command.Reads Command.readsFields at readable
  unfold execute
  split
  · rename_i meant
    exact fold_succeeds (fun field member =>
      move_field_succeeds (readable (by rw [meant]; rfl) field member)) printer
  · rename_i meant
    exact fold_succeeds (fun field member =>
      move_field_succeeds (readable (by rw [meant]; rfl) field member)) printer
  · rename_i meant
    exact fold_succeeds (fun field member =>
      declare_field_succeeds (readable (by rw [meant]; rfl) field member)) printer
  · exact ⟨_, rfl⟩
  · exact ⟨_, rfl⟩
  · rename_i meant
    unfold blow
    split
    · exact ⟨_, rfl⟩
    · rename_i field found
      obtain ⟨number, reads⟩ :=
        readable (by rw [meant]; rfl) field (List.mem_of_find?_eq_some found)
      exact ⟨_, by rw [reads, Option.map_some]⟩
  · exact ⟨_, rfl⟩
  · exact ⟨_, rfl⟩

theorem fold_preserves {step : Printer → Field → Option Printer} {fields : List Field}
    (invariant : Printer → Prop)
    (keeps : ∀ field ∈ fields, ∀ printer next, invariant printer → step printer field = some next →
      invariant next)
    (start : invariant printer) (folded : fields.foldlM step printer = some after) :
    invariant after := by
  induction fields generalizing printer with
  | nil =>
    cases folded
    exact start
  | cons field fields induction =>
    rw [List.foldlM_cons] at folded
    obtain ⟨next, first, rest⟩ := Option.bind_eq_some_iff.mp folded
    exact induction (fun other member => keeps other (List.mem_cons_of_mem _ member))
      (keeps field List.mem_cons_self printer next start first) rest

theorem move_field_modes {field : Field} (moved : printer.moveField field = some after) :
    after.modes = printer.modes := by
  unfold moveField at moved
  split at moved
  · obtain ⟨number, -, rfl⟩ := Option.map_eq_some_iff.mp moved
    rfl
  · split at moved
    · cases moved
      rfl
    · obtain ⟨number, -, rfl⟩ := Option.map_eq_some_iff.mp moved
      rfl

theorem declare_field_modes {field : Field} (declared : printer.declareField field = some after) :
    after.modes = printer.modes := by
  unfold declareField at declared
  split at declared
  · obtain ⟨number, -, rfl⟩ := Option.map_eq_some_iff.mp declared
    rfl
  · split at declared
    · cases declared
      rfl
    · obtain ⟨number, -, rfl⟩ := Option.map_eq_some_iff.mp declared
      rfl

theorem blow_frame (blown : printer.blow command = some after) :
    ∃ fan, after = { printer with fan := fan } := by
  unfold blow at blown
  split at blown
  · cases blown
    exact ⟨.full, rfl⟩
  · obtain ⟨value, -, rfl⟩ := Option.map_eq_some_iff.mp blown
    exact ⟨.duty value, rfl⟩

theorem execute_modes (executed : printer.execute command = some after) :
    after.modes =
      (Code.ofMnemonic? command.mnemonic).elim printer.modes printer.modes.follow := by
  have moved : ∀ next, command.fields.foldlM moveField printer = some next →
      next.modes = printer.modes := fun next =>
    fold_preserves (·.modes = printer.modes)
      (fun _ _ _ _ same stepped => (move_field_modes stepped).trans same) rfl
  have declared : ∀ next, command.fields.foldlM declareField printer = some next →
      next.modes = printer.modes := fun next =>
    fold_preserves (·.modes = printer.modes)
      (fun _ _ _ _ same stepped => (declare_field_modes stepped).trans same) rfl
  unfold execute at executed
  split at executed
  · rename_i meant
    rw [meant]
    exact moved after executed
  · rename_i meant
    rw [meant]
    exact moved after executed
  · rename_i meant
    rw [meant]
    exact declared after executed
  · rename_i meant
    cases executed
    rw [meant]
    rfl
  · rename_i meant
    cases executed
    rw [meant]
    rfl
  · rename_i meant
    obtain ⟨fan, rfl⟩ := blow_frame executed
    rw [meant]
    rfl
  · rename_i meant
    cases executed
    rw [meant]
    rfl
  · rename_i meant
    cases executed
    rw [meant]
    rfl

theorem run_modes {lines : List Text} (ran : printer.run lines = some after) :
    after.modes = printer.modes.afterLines lines := by
  induction lines generalizing printer with
  | nil =>
    cases ran
    rfl
  | cons line lines induction =>
    rw [run_cons] at ran
    obtain ⟨next, first, rest⟩ := Option.bind_eq_some_iff.mp ran
    have one : next.modes = printer.modes.afterLine line := by
      rw [execute_modes first, Modes.afterLine]
      cases Code.ofMnemonic? (Command.ofLine line).mnemonic <;> rfl
    rw [induction rest, one]
    rfl

def extruded (printer : Printer) : ℚ × ℚ := (printer.e, printer.filament)

theorem move_field_spares {field : Field} (spares : field.SparesFilament)
    (moved : printer.moveField field = some after) : after.extruded = printer.extruded := by
  unfold moveField at moved
  rw [if_neg (by rw [spares]; decide)] at moved
  split at moved
  · cases moved
    rfl
  · obtain ⟨number, -, rfl⟩ := Option.map_eq_some_iff.mp moved
    rfl

theorem declare_field_spares {field : Field} (spares : field.SparesFilament)
    (declared : printer.declareField field = some after) : after.extruded = printer.extruded := by
  unfold declareField at declared
  rw [if_neg (by rw [spares]; decide)] at declared
  split at declared
  · cases declared
    rfl
  · obtain ⟨number, -, rfl⟩ := Option.map_eq_some_iff.mp declared
    rfl

theorem execute_spares (spares : command.Reads Field.SparesFilament)
    (executed : printer.execute command = some after) : after.extruded = printer.extruded := by
  unfold Command.Reads Command.readsFields at spares
  unfold execute at executed
  split at executed
  · rename_i meant
    exact fold_preserves (·.extruded = printer.extruded) (fun field member _ _ same stepped =>
      (move_field_spares (spares (by rw [meant]; rfl) field member) stepped).trans same) rfl executed
  · rename_i meant
    exact fold_preserves (·.extruded = printer.extruded) (fun field member _ _ same stepped =>
      (move_field_spares (spares (by rw [meant]; rfl) field member) stepped).trans same) rfl executed
  · rename_i meant
    exact fold_preserves (·.extruded = printer.extruded) (fun field member _ _ same stepped =>
      (declare_field_spares (spares (by rw [meant]; rfl) field member) stepped).trans same) rfl
      executed
  · cases executed
    rfl
  · cases executed
    rfl
  · obtain ⟨fan, rfl⟩ := blow_frame executed
    rfl
  · cases executed
    rfl
  · cases executed
    rfl

end Printer

end PrintParts
