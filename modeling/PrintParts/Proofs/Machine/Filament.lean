import Mathlib.Data.List.Induction
import Mathlib.Order.Bounds.Basic
import PrintParts.Proofs.Machine.Extrusion
import PrintParts.Proofs.Number.Exact

/-!
The filament behind the E of a program. A move pushes it on from one E to the next, or pulls it back. A
declaration moves nothing, it only calls the place where the filament is by another number. The state of
a printer keeps no places: it keeps E and the furthest E, both in the numbers of the last declaration, and
how far the filament has been pulled back is their difference.
-/

namespace PrintParts

/-- What a command tells of the filament: a move brings it to an E, a declaration calls its place so. -/
inductive Feed where
  | move (e : ℚ)
  | declare (e : ℚ)

namespace Command

/-- The E of a command as a rational number. -/
def e? (command : Command) : Option ℚ :=
  (command.field? 'E').bind fun field => field.value.toOption.bind Binary64.rational?

def feed? (command : Command) : Option Feed :=
  if command.movesE then command.e?.map .move
  else if command.declaresE then command.e?.map .declare
  else none

end Command

/-- The filament of a printer: its E, the place where it is, and the places where it was before. Places
are counted from where it was when E was named first. -/
structure Filament where
  e : ℚ
  place : ℚ
  earlier : List ℚ
  deriving DecidableEq

namespace Filament

def places (filament : Filament) : List ℚ := filament.place :: filament.earlier

/-- However E is named first, the filament has not gone anywhere yet. -/
def start : Feed → Filament
  | .move e => ⟨e, 0, []⟩
  | .declare e => ⟨e, 0, []⟩

/-- A move goes as far as E does, and a declaration goes nowhere. -/
def feed (filament : Filament) : Feed → Filament
  | .move e => ⟨e, filament.place + (e - filament.e), filament.places⟩
  | .declare e => { filament with e := e }

def ofFeeds? : List Feed → Option Filament
  | [] => none
  | first :: rest => some (rest.foldl feed (start first))

def behind? (commands : List Command) : Option Filament := ofFeeds? (commands.filterMap Command.feed?)

theorem of_feeds_append (feeds : List Feed) (next : Feed) :
    ofFeeds? (feeds ++ [next]) = some ((ofFeeds? feeds).elim (start next) (·.feed next)) := by
  cases feeds with
  | nil => rfl
  | cons first rest => simp only [List.cons_append, ofFeeds?, List.foldl_append, List.foldl_cons,
      List.foldl_nil, Option.elim_some]

theorem behind_append (before : List Command) (command : Command) :
    behind? (before ++ [command]) = match command.feed? with
      | none => behind? before
      | some feed => some ((behind? before).elim (start feed) (·.feed feed)) := by
  rw [behind?, List.filterMap_append, List.filterMap_cons, List.filterMap_nil]
  cases command.feed? with
  | none => rw [List.append_nil]; rfl
  | some feed => exact of_feeds_append _ feed

end Filament

namespace MachineState

variable {state after : MachineState} {field : Field} {command : Command} {inLayer : Bool}
  {policy : OverridePolicy}

/-- The state behind some commands. What is let pass inside a layer passes outside as well and has the same
effect there, so a run through layers is also one outside of them. -/
def execute (inLayer : Bool) (policy : OverridePolicy) (state : MachineState)
    (commands : List Command) : Except Fault MachineState :=
  commands.foldlM (fun state command => state.step command inLayer policy) state

theorem execute_append (first second : List Command) :
    state.execute inLayer policy (first ++ second) =
      state.execute inLayer policy first >>= fun middle => middle.execute inLayer policy second :=
  List.foldlM_append

theorem step_of_execute {rest : List Command} {final : MachineState}
    (executed : state.execute inLayer policy (command :: rest) = .ok final) :
    ∃ after, state.step command inLayer policy = .ok after ∧
      after.execute inLayer policy rest = .ok final :=
  bind_eq_ok.mp executed

theorem feed_of_silent (silent : command.namesE = false) : command.feed? = none := by
  obtain ⟨still, undeclared⟩ := Bool.or_eq_false_iff.mp silent
  rw [Command.feed?, still, undeclared]
  rfl

/-- A step in which the filament can be followed: E is named once at most, no move that names it is
relative, and neither the furthest E behind a declaration nor the depth behind the step is rounded. -/
structure StepsExactly (state : MachineState) (command : Command) (after : MachineState) : Prop where
  once : command.fields.countP (·.isNamed 'E') ≤ 1
  absolute : command.movesE = true → state.extruderMode = .absolute
  sum : command.declaresE = true → ∀ field ∈ command.field? 'E', ∀ e ∈ field.value.toOption,
    e.AddExact state.retractionDepth
  difference : ∀ e ∈ after.e.number?, ∀ eMax ∈ after.eMax.number?, eMax.SubExact e

instance (state : MachineState) (command : Command) (after : MachineState) :
    Decidable (StepsExactly state command after) :=
  decidable_of_iff (_ ∧ _ ∧ _ ∧ _)
    ⟨fun ⟨once, absolute, sum, difference⟩ => ⟨once, absolute, sum, difference⟩,
      fun exact => ⟨exact.once, exact.absolute, exact.sum, exact.difference⟩⟩

/-- Some commands of which each is such a step. -/
def RunsExactly (inLayer : Bool) (policy : OverridePolicy) (state : MachineState) :
    List Command → Prop
  | [] => True
  | command :: rest => ∀ after ∈ (state.step command inLayer policy).toOption,
    StepsExactly state command after ∧ after.RunsExactly inLayer policy rest

instance decidableRunsExactly (inLayer : Bool) (policy : OverridePolicy) (state : MachineState) :
    (commands : List Command) → Decidable (state.RunsExactly inLayer policy commands)
  | [] => isTrue trivial
  | command :: rest =>
    have (after : MachineState) := decidableRunsExactly inLayer policy after rest
    inferInstanceAs (Decidable (∀ after ∈ (state.step command inLayer policy).toOption,
      StepsExactly state command after ∧ after.RunsExactly inLayer policy rest))

theorem RunsExactly.of_step {rest : List Command}
    (exact : state.RunsExactly inLayer policy (command :: rest))
    (stepped : state.step command inLayer policy = .ok after) :
    StepsExactly state command after ∧ after.RunsExactly inLayer policy rest :=
  exact after (by rw [stepped]; rfl)

theorem RunsExactly.of_append {first second : List Command}
    (exact : state.RunsExactly inLayer policy (first ++ second)) :
    state.RunsExactly inLayer policy first := by
  induction first generalizing state with
  | nil => trivial
  | cons command rest induction =>
    exact fun after stepped => ⟨(exact after stepped).1, induction (exact after stepped).2⟩

inductive Feeds (state : MachineState) (command : Command) (after : MachineState) (e : Binary64)
    (number : ℚ) : Prop
  | move (told : command.feed? = some (.move number))
    (furthest : after.eMax = (state.extrudeTo e).eMax)
  | declare (told : command.feed? = some (.declare number))
    (furthest : after.eMax = .absolute (e + state.retractionDepth))
    (sum : e.AddExact state.retractionDepth)

theorem difference_of_step (exact : StepsExactly state command after) {e eMax : Binary64}
    (isE : after.e = .absolute e) (isMax : after.eMax = .absolute eMax) : eMax.SubExact e :=
  exact.difference e (by rw [isE]; rfl) eMax (by rw [isMax]; rfl)

theorem e_of_field {e : Binary64} {number : ℚ} (found : command.field? 'E' = some field)
    (read : field.value = .ok e) (isNumber : e.rational? = some number) :
    command.e? = some number := by
  rw [Command.e?, found, Option.bind_some, read]
  exact isNumber

theorem feeds_of_step (names : command.namesE = true)
    (stepped : state.step command inLayer policy = .ok after) (exact : StepsExactly state command after) :
    ∃ e number, after.e = .absolute e ∧ e.rational? = some number ∧
      Feeds state command after e number := by
  obtain ⟨code, known, applied⟩ := bind_eq_ok.mp stepped
  by_cases movesE : command.movesE = true
  · obtain ⟨moves, has⟩ := Bool.and_eq_true_iff.mp movesE
    obtain ⟨field, found⟩ := Option.isSome_iff_exists.mp has
    rw [Command.is_move_eq known] at moves
    obtain ⟨e, read, isE, isMax⟩ :=
      e_of_move (exact.absolute movesE) found exact.once (move_of_apply moves applied)
    obtain ⟨eMax, absolute⟩ := e_max_of_extrude state e
    obtain ⟨-, number, -, isNumber, -⟩ := difference_of_step exact isE (isMax.trans absolute)
    refine ⟨e, number, isE, isNumber, .move ?_ isMax⟩
    rw [Command.feed?, if_pos movesE, e_of_field found read isNumber]
    rfl
  · have declaresE : command.declaresE = true :=
      (Bool.or_eq_true_iff.mp names).resolve_left movesE
    obtain ⟨declares, has⟩ := Bool.and_eq_true_iff.mp declaresE
    obtain ⟨field, found⟩ := Option.isSome_iff_exists.mp has
    rw [known] at declares
    obtain rfl : code = .setPosition := Option.some.inj (eq_of_beq declares)
    obtain ⟨e, read, isE, isMax⟩ := e_of_set_position found exact.once applied
    have sum := exact.sum declaresE field found e (by rw [read]; rfl)
    obtain ⟨number, -, isNumber, -⟩ := id sum
    refine ⟨e, number, isE, isNumber, .declare ?_ isMax sum⟩
    rw [Command.feed?, if_neg movesE, if_pos declaresE, e_of_field found read isNumber]
    rfl

/-- What a state keeps of a filament: its E, and the furthest place it has been to in the same numbers. -/
structure Tracks (filament : Filament) (state : MachineState) (e eMax : Binary64)
    (furthest : ℚ) : Prop where
  knownE : state.e = .absolute e
  knownMax : state.eMax = .absolute eMax
  isE : e.rational? = some filament.e
  isMax : eMax.rational? = some (filament.e + (furthest - filament.place))
  greatest : IsGreatest {place | place ∈ filament.places} furthest
  difference : eMax.SubExact e

/-- What a state keeps of the filament before and after E is named first. -/
def Knows (state : MachineState) : Option Filament → Prop
  | none => state.e = .unknown ∧ state.eMax = .unknown
  | some filament => ∃ e eMax furthest, Tracks filament state e eMax furthest

variable {filament : Filament} {e eMax : Binary64} {furthest number : ℚ}

theorem depth_of_tracks (tracks : Tracks filament state e eMax furthest) :
    ∃ depth, state.retraction? = some depth ∧ depth.rational? = some (furthest - filament.place) := by
  refine ⟨eMax - e, by rw [retraction?, tracks.knownE, tracks.knownMax], ?_⟩
  rw [tracks.difference.of_terms tracks.isMax tracks.isE, add_sub_cancel_left]

theorem retraction_depth_exact {depth : Binary64} (known : state.retraction? = some depth)
    (isNumber : depth.rational? = some number) : state.retractionDepth.rational? = some number := by
  rw [retractionDepth, known]
  dsimp only
  split
  · rename_i zero
    rw [← isNumber, Binary64.rational_of_is_zero zero]
    exact Binary64.exact_of_zero_units false _
  · exact isNumber

theorem places_of_start : IsGreatest {place | place ∈ [(0 : ℚ)]} 0 :=
  ⟨List.mem_singleton_self 0, fun _ member => (List.mem_singleton.mp member).le⟩

theorem tracks_first_move (unknown : state.eMax = .unknown) (isE : after.e = .absolute e)
    (isMax : after.eMax = (state.extrudeTo e).eMax) (isNumber : e.rational? = some number)
    (exact : StepsExactly state command after) :
    Tracks (Filament.start (.move number)) after e e 0 := by
  have same : after.eMax = .absolute e := by
    rw [isMax]
    simp only [extrudeTo, unknown]
  refine ⟨isE, same, isNumber, ?_, places_of_start, difference_of_step exact isE same⟩
  rw [isNumber, Filament.start, sub_zero, add_zero]

theorem tracks_first_declaration (unknown : state.e = .unknown) (isE : after.e = .absolute e)
    (isMax : after.eMax = .absolute (e + state.retractionDepth)) (isNumber : e.rational? = some number)
    (sum : e.AddExact state.retractionDepth)
    (exact : StepsExactly state command after) :
    Tracks (Filament.start (.declare number)) after e (e + state.retractionDepth) 0 := by
  have none : state.retractionDepth.rational? = some 0 := by
    simp only [retractionDepth, retraction?, unknown]
    exact Binary64.exact_of_zero_units false _
  refine ⟨isE, isMax, isNumber, ?_, places_of_start, difference_of_step exact isE isMax⟩
  rw [sum.of_terms isNumber none, Filament.start, sub_zero]

/-- A move that goes past the furthest place makes it the new one, and the furthest E goes with it. -/
theorem tracks_move (tracks : Tracks filament state e eMax furthest) {next : Binary64}
    (isE : after.e = .absolute next) (isMax : after.eMax = (state.extrudeTo next).eMax)
    (isNumber : next.rational? = some number)
    (exact : StepsExactly state command after) :
    ∃ eMax furthest, Tracks (filament.feed (.move number)) after next eMax furthest := by
  have greatest : IsGreatest {place | place ∈ (filament.feed (.move number)).places}
      (max (filament.place + (number - filament.e)) furthest) := by
    have members : {place | place ∈ (filament.feed (.move number)).places} =
        insert (filament.place + (number - filament.e)) {place | place ∈ filament.places} := by
      ext place
      exact List.mem_cons
    rw [members]
    exact tracks.greatest.insert _
  simp only [extrudeTo, tracks.knownMax] at isMax
  have past := Binary64.lt_iff_rationals tracks.isMax isNumber
  by_cases further : eMax < next
  · rw [if_pos further] at isMax
    have beyond := past.mp further
    refine ⟨next, _, isE, isMax, isNumber, ?_, greatest, difference_of_step exact isE isMax⟩
    rw [isNumber, max_eq_left (by linarith), Filament.feed, sub_self, add_zero]
  · rw [if_neg further] at isMax
    have within := not_lt.mp (mt past.mpr further)
    refine ⟨eMax, _, isE, isMax, isNumber, ?_, greatest, difference_of_step exact isE isMax⟩
    rw [tracks.isMax, max_eq_right (by linarith), Filament.feed]
    congr 1
    ring

theorem tracks_declaration (tracks : Tracks filament state e eMax furthest) {next : Binary64}
    (isE : after.e = .absolute next) (isMax : after.eMax = .absolute (next + state.retractionDepth))
    (isNumber : next.rational? = some number) (sum : next.AddExact state.retractionDepth)
    (exact : StepsExactly state command after) :
    Tracks (filament.feed (.declare number)) after next (next + state.retractionDepth) furthest := by
  obtain ⟨depth, known, isDepth⟩ := depth_of_tracks tracks
  refine ⟨isE, isMax, isNumber, ?_, tracks.greatest, difference_of_step exact isE isMax⟩
  exact sum.of_terms isNumber (retraction_depth_exact known isDepth)

theorem knows_of_step {before : List Command} (knows : state.Knows (Filament.behind? before))
    (stepped : state.step command inLayer policy = .ok after) (exact : StepsExactly state command after) :
    after.Knows (Filament.behind? (before ++ [command])) := by
  rw [Filament.behind_append]
  by_cases names : command.namesE = true
  · obtain ⟨e, number, isE, isNumber, feeds⟩ := feeds_of_step names stepped exact
    cases feeds with
    | move told isMax =>
      rw [told]
      cases kept : Filament.behind? before with
      | none =>
        rw [kept] at knows
        exact ⟨e, e, 0, tracks_first_move knows.2 isE isMax isNumber exact⟩
      | some filament =>
        rw [kept] at knows
        obtain ⟨_, _, _, tracks⟩ := knows
        exact ⟨e, tracks_move tracks isE isMax isNumber exact⟩
    | declare told isMax sum =>
      rw [told]
      cases kept : Filament.behind? before with
      | none =>
        rw [kept] at knows
        exact ⟨_, _, _, tracks_first_declaration knows.1 isE isMax isNumber sum exact⟩
      | some filament =>
        rw [kept] at knows
        obtain ⟨_, _, _, tracks⟩ := knows
        exact ⟨_, _, _, tracks_declaration tracks isE isMax isNumber sum exact⟩
  · have silent := Bool.eq_false_iff.mpr names
    obtain ⟨sameE, sameMax⟩ := keeps_of_step silent stepped
    rw [feed_of_silent silent]
    cases kept : Filament.behind? before with
    | none =>
      rw [kept] at knows
      exact ⟨sameE.trans knows.1, sameMax.trans knows.2⟩
    | some filament =>
      rw [kept] at knows
      obtain ⟨e, eMax, furthest, tracks⟩ := knows
      exact ⟨e, eMax, furthest, sameE.trans tracks.knownE, sameMax.trans tracks.knownMax,
        tracks.isE, tracks.isMax, tracks.greatest, tracks.difference⟩

theorem knows_of_execute {commands before : List Command} {final : MachineState}
    (knows : state.Knows (Filament.behind? before)) (exact : state.RunsExactly inLayer policy commands)
    (executed : state.execute inLayer policy commands = .ok final) :
    final.Knows (Filament.behind? (before ++ commands)) := by
  induction commands generalizing state before with
  | nil =>
    cases executed
    rwa [List.append_nil]
  | cons command rest induction =>
    obtain ⟨after, stepped, executed⟩ := step_of_execute executed
    obtain ⟨here, later⟩ := exact.of_step stepped
    have whole := induction (knows_of_step knows stepped here) later executed
    rwa [List.append_assoc, List.singleton_append] at whole

theorem told_of_execute {commands : List Command} {final : MachineState}
    (exact : state.RunsExactly inLayer policy commands)
    (executed : state.execute inLayer policy commands = .ok final) :
    ∀ command ∈ commands, command.namesE = true → command.feed?.isSome = true := by
  induction commands generalizing state with
  | nil => exact fun _ member => nomatch member
  | cons command rest induction =>
    obtain ⟨after, stepped, executed⟩ := step_of_execute executed
    obtain ⟨here, later⟩ := exact.of_step stepped
    refine List.forall_mem_cons.mpr ⟨fun names => ?_, induction later executed⟩
    obtain ⟨_, _, -, -, feeds⟩ := feeds_of_step names stepped here
    cases feeds with
    | move told => rw [told]; rfl
    | declare told => rw [told]; rfl

end MachineState

namespace Filament

theorem exists_of_told {commands : List Command} {command : Command} (member : command ∈ commands)
    (told : command.feed?.isSome = true) : ∃ filament, behind? commands = some filament := by
  obtain ⟨feed, found⟩ := Option.isSome_iff_exists.mp told
  have inFeeds := List.mem_filterMap.mpr ⟨command, member, found⟩
  rw [behind?]
  cases listed : commands.filterMap Command.feed? with
  | nil =>
    rw [listed] at inFeeds
    cases inFeeds
  | cons first rest => exact ⟨_, rfl⟩

theorem behind_resets {before resets : List Command} {filament : Filament}
    (behind : behind? before = some filament)
    (still : ∀ command ∈ resets, command.movesE = false) :
    ∃ later, behind? (before ++ resets) = some later ∧ later.places = filament.places ∧
      later.place = filament.place := by
  induction resets using List.reverseRecOn with
  | nil => exact ⟨filament, by rw [List.append_nil, behind], rfl, rfl⟩
  | append_singleton earlier last induction =>
    obtain ⟨later, isLater, places, place⟩ :=
      induction fun command member => still command (List.mem_append_left _ member)
    rw [← List.append_assoc, behind_append, isLater, Command.feed?,
      still last (List.mem_append_right _ List.mem_cons_self)]
    by_cases declares : last.declaresE = true
    · cases known : last.e? with
      | none =>
        rw [if_pos declares]
        exact ⟨later, rfl, places, place⟩
      | some e =>
        rw [if_pos declares]
        exact ⟨_, rfl, places, place⟩
    · rw [if_neg declares]
      exact ⟨later, rfl, places, place⟩

end Filament

namespace MachineState

variable {commands : List Command} {inLayer : Bool} {policy : OverridePolicy} {final : MachineState}

theorem depth_of_execute (exact : fresh.RunsExactly inLayer policy commands)
    (executed : fresh.execute inLayer policy commands = .ok final) {filament : Filament}
    (behind : Filament.behind? commands = some filament) :
    ∃ depth furthest, final.retraction? = some depth ∧
      IsGreatest {place | place ∈ filament.places} furthest ∧
      depth.rational? = some (furthest - filament.place) := by
  have start : fresh.Knows (Filament.behind? []) := ⟨rfl, rfl⟩
  have knows := knows_of_execute start exact executed
  rw [List.nil_append, behind] at knows
  obtain ⟨e, eMax, furthest, tracks⟩ := knows
  obtain ⟨depth, known, isDepth⟩ := depth_of_tracks tracks
  exact ⟨depth, furthest, known, tracks.greatest, isDepth⟩

/-- Wherever a run stands behind the first command that names E, the retraction that its state tells is how
far the filament is behind the furthest place it has been to. Commands that do not move the filament leave
it as it is, however often they declare E. -/
theorem retraction_is_depth (executed : fresh.execute inLayer policy commands = .ok final)
    (exact : fresh.RunsExactly inLayer policy commands) :
    (∀ before behind, commands = before ++ behind →
      (∃ command ∈ before, command.namesE = true) →
      ∃ state filament depth furthest, fresh.execute inLayer policy before = .ok state ∧
        Filament.behind? before = some filament ∧ state.retraction? = some depth ∧
        IsGreatest {place | place ∈ filament.places} furthest ∧
        depth.rational? = some (furthest - filament.place)) ∧
    ∀ before resets behind, commands = before ++ resets ++ behind →
      (∃ command ∈ before, command.namesE = true) →
      (∀ command ∈ resets, command.movesE = false) →
      ∃ state later depth laterDepth number, fresh.execute inLayer policy before = .ok state ∧
        fresh.execute inLayer policy (before ++ resets) = .ok later ∧
        state.retraction? = some depth ∧ later.retraction? = some laterDepth ∧
        depth.rational? = some number ∧ laterDepth.rational? = some number := by
  have upTo : ∀ before behind, commands = before ++ behind →
      fresh.RunsExactly inLayer policy before ∧
        ∃ state, fresh.execute inLayer policy before = .ok state := by
    rintro before behind rfl
    rw [execute_append] at executed
    obtain ⟨state, first, -⟩ := bind_eq_ok.mp executed
    exact ⟨exact.of_append, state, first⟩
  constructor
  · rintro before behind whole ⟨command, member, names⟩
    obtain ⟨exactHere, state, reached⟩ := upTo before behind whole
    obtain ⟨filament, isBehind⟩ :=
      Filament.exists_of_told member (told_of_execute exactHere reached command member names)
    obtain ⟨depth, furthest, known, greatest, isDepth⟩ := depth_of_execute exactHere reached isBehind
    exact ⟨state, filament, depth, furthest, reached, isBehind, known, greatest, isDepth⟩
  · rintro before resets behind whole ⟨command, member, names⟩ still
    obtain ⟨exactLater, later, reachedLater⟩ := upTo _ behind whole
    obtain ⟨exactHere, state, reached⟩ :=
      upTo before (resets ++ behind) (whole.trans (List.append_assoc _ _ _))
    obtain ⟨filament, isBehind⟩ :=
      Filament.exists_of_told member (told_of_execute exactHere reached command member names)
    obtain ⟨after, isAfter, places, place⟩ := Filament.behind_resets isBehind still
    obtain ⟨depth, furthest, known, greatest, isDepth⟩ := depth_of_execute exactHere reached isBehind
    obtain ⟨laterDepth, _, knownLater, greatestLater, isDepthLater⟩ :=
      depth_of_execute exactLater reachedLater isAfter
    rw [places] at greatestLater
    rw [place, greatestLater.unique greatest] at isDepthLater
    exact ⟨state, later, depth, laterDepth, _, reached, reachedLater, known, knownLater, isDepth,
      isDepthLater⟩

def retracting : List Command := ["G1 X5 E10", "G1 F2400 E6.5"].map fun line => .ofLine (Text.of line)

def resets : List Command :=
  ["G92 E100", "M83", "G92 E0", "G1 X9", "M82"].map fun line => .ofLine (Text.of line)

def retractingMore : List Command := ["G1 E-1.5", "G92 E7"].map fun line => .ofLine (Text.of line)

theorem retraction_survives_resets :
    fresh.RunsExactly true .reject (retracting ++ resets ++ retractingMore) ∧
      ∃ state later final depth laterDepth, fresh.execute true .reject retracting = .ok state ∧
        fresh.execute true .reject (retracting ++ resets) = .ok later ∧
        fresh.execute true .reject (retracting ++ resets ++ retractingMore) = .ok final ∧
        state.retraction? = some depth ∧ depth.rational? = some (7 / 2) ∧
        later.retraction? = some laterDepth ∧ laterDepth.rational? = some (7 / 2) ∧
        final.retraction?.bind Binary64.rational? = some 5 := by
  have exact : fresh.RunsExactly true .reject (retracting ++ resets ++ retractingMore) := by
    decide +kernel
  have retracted : succeedsWith (fun state => state.retraction?.bind Binary64.rational? == some (7 / 2))
      (fresh.execute true .reject retracting) = true := by
    decide +kernel
  have further : succeedsWith (fun final => final.retraction?.bind Binary64.rational? == some 5)
      (fresh.execute true .reject (retracting ++ resets ++ retractingMore)) = true := by
    decide +kernel
  obtain ⟨state, reached, half⟩ := exists_of_succeeds_with retracted
  obtain ⟨final, executed, five⟩ := exists_of_succeeds_with further
  obtain ⟨_, later, depth, laterDepth, number, same, reachedLater, known, knownLater, isDepth,
    isDepthLater⟩ := (retraction_is_depth executed exact).2 retracting resets retractingMore rfl
      (by decide +kernel) (by decide +kernel)
  obtain rfl := Except.ok.inj (reached.symm.trans same)
  rw [known, Option.bind_some, isDepth] at half
  obtain rfl : number = 7 / 2 := Option.some.inj (eq_of_beq half)
  exact ⟨exact, state, later, final, depth, laterDepth, reached, reachedLater, executed, known, isDepth,
    knownLater, isDepthLater, eq_of_beq five⟩

end MachineState

end PrintParts
