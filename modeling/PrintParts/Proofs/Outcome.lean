import Mathlib.Data.List.Forall2

/-!
Results of steps that can fail, taken apart into the results of their parts. What a sequence of steps
failed with is the failure of the first step that failed.
-/

namespace PrintParts

variable {Error Value Other : Type}

theorem ok_bind (value : Value) (next : Value → Except Error Other) :
    (Except.ok value >>= next) = next value := rfl

theorem error_bind (failure : Error) (next : Value → Except Error Other) :
    (Except.error failure >>= next) = .error failure := rfl

theorem bind_eq_ok {first : Except Error Value} {next : Value → Except Error Other}
    {result : Other} :
    (first >>= next) = .ok result ↔ ∃ value, first = .ok value ∧ next value = .ok result := by
  cases first with
  | error failure => simp [bind, Except.bind]
  | ok value => simp [bind, Except.bind]

theorem map_eq_ok {first : Except Error Value} {change : Value → Other} {result : Other} :
    first.map change = .ok result ↔ ∃ value, first = .ok value ∧ change value = result := by
  cases first with
  | error failure => simp [Except.map]
  | ok value => simp [Except.map]

theorem map_error_eq_ok {Renamed : Type} {first : Except Error Value} {rename : Error → Renamed}
    {result : Value} : first.mapError rename = .ok result ↔ first = .ok result := by
  cases first with
  | error failure => simp [Except.mapError]
  | ok value => simp [Except.mapError]

theorem to_option_eq_some {result : Except Error Value} {value : Value} :
    result.toOption = some value ↔ result = .ok value := by
  cases result <;> simp [Except.toOption]

/-- What a step failed with, if it did. -/
def failureOf? : Except Error Value → Option Error
  | .error failure => some failure
  | .ok _ => none

theorem failure_of_eq_some {result : Except Error Value} {failure : Error} :
    failureOf? result = some failure ↔ result = .error failure := by
  cases result <;> simp [failureOf?]

/-- Results in order, the first failure being the failure of all. -/
theorem failure_of_map_m (step : Value → Except Error Other) (values : List Value) :
    failureOf? (values.mapM step) = values.findSome? fun value => failureOf? (step value) := by
  induction values with
  | nil => rfl
  | cons value values induction =>
    rw [List.mapM_cons, List.findSome?_cons, ← induction]
    cases step value with
    | error failure => rfl
    | ok result =>
      cases values.mapM step with
      | error failure => rfl
      | ok results => rfl

theorem find_some_flat_map {Result : Type} (members : Value → List Other)
    (choose : Other → Option Result) (values : List Value) :
    (values.flatMap members).findSome? choose =
      values.findSome? fun value => (members value).findSome? choose := by
  induction values with
  | nil => rfl
  | cons value values induction =>
    rw [List.flatMap_cons, List.findSome?_append, induction, List.findSome?_cons]
    cases (members value).findSome? choose <;> rfl

theorem map_m_eq_ok_iff {step : Value → Except Error Other} {values : List Value}
    {results : List Other} :
    values.mapM step = .ok results ↔
      List.Forall₂ (fun value result => step value = .ok result) values results := by
  induction values generalizing results with
  | nil => cases results <;> simp [pure, Except.pure]
  | cons value values induction =>
    rw [List.mapM_cons, bind_eq_ok]
    constructor
    · rintro ⟨result, done, rest⟩
      obtain ⟨later, doneLater, same⟩ := bind_eq_ok.mp rest
      cases same
      exact .cons done (induction.mp doneLater)
    · intro related
      cases related with
      | cons done doneLater =>
        exact ⟨_, done, bind_eq_ok.mpr ⟨_, induction.mpr doneLater, rfl⟩⟩

theorem exists_of_map_m {step : Value → Except Error Other} {values : List Value}
    {results : List Other} (done : values.mapM step = .ok results) {result : Other}
    (member : result ∈ results) : ∃ value ∈ values, step value = .ok result := by
  have related := map_m_eq_ok_iff.mp done
  clear done
  induction related with
  | nil => cases member
  | cons first _ induction =>
    rcases List.mem_cons.mp member with rfl | later
    · exact ⟨_, List.mem_cons_self, first⟩
    · obtain ⟨value, inValues, same⟩ := induction later
      exact ⟨value, List.mem_cons_of_mem _ inValues, same⟩

/-- What every step hands on, together with the inputs behind it, holds at the end. -/
theorem fold_m_preserves {State : Type} {step : State → Value → Except Error State}
    (invariant : State → List Value → Prop)
    (keeps : ∀ state value rest next, invariant state (value :: rest) →
      step state value = .ok next → invariant next rest)
    {values : List Value} {state final : State} (start : invariant state values)
    (folded : values.foldlM step state = .ok final) : invariant final [] := by
  induction values generalizing state with
  | nil =>
    cases folded
    exact start
  | cons value rest induction =>
    rw [List.foldlM_cons] at folded
    obtain ⟨next, first, remaining⟩ := bind_eq_ok.mp folded
    exact induction (keeps state value rest next start first) remaining

/-- A second run goes along with a first one, if it can follow each step of the first with the steps that are
left of it when values are left out or changed. -/
theorem fold_m_simulates {State : Type} {step other : State → Value → Except Error State}
    (related : State → State → Prop) (edit : Value → Option Value)
    (follows : ∀ first second value next, related first second → step first value = .ok next →
      ∃ goes, (edit value).elim (.ok second) (other second) = .ok goes ∧ related next goes)
    {values : List Value} {first second final : State} (start : related first second)
    (folded : values.foldlM step first = .ok final) :
    ∃ last, (values.filterMap edit).foldlM other second = .ok last ∧ related final last := by
  induction values generalizing first second with
  | nil =>
    cases folded
    exact ⟨second, rfl, start⟩
  | cons value rest induction =>
    rw [List.foldlM_cons] at folded
    obtain ⟨next, stepped, folded⟩ := bind_eq_ok.mp folded
    obtain ⟨middle, followed, together⟩ := follows first second value next start stepped
    obtain ⟨last, later, ends⟩ := induction together folded
    refine ⟨last, ?_, ends⟩
    cases edited : edit value with
    | none =>
      rw [edited] at followed
      cases followed
      rw [List.filterMap_cons_none edited, later]
    | some kept =>
      rw [edited] at followed
      rw [List.filterMap_cons_some edited, List.foldlM_cons]
      exact bind_eq_ok.mpr ⟨middle, followed, later⟩

def Avoids (bad : Error → Prop) (result : Except Error Value) : Prop :=
  ∀ failure, result = .error failure → ¬ bad failure

section

variable {bad : Error → Prop} {result : Except Error Value}

theorem avoids_ok (value : Value) : Avoids bad (.ok value : Except Error Value) :=
  fun _ failed => nomatch failed

theorem avoids_error {failure : Error} (good : ¬ bad failure) :
    Avoids bad (.error failure : Except Error Value) :=
  fun _ failed => Except.error.inj failed ▸ good

theorem avoids_bind {step : Value → Except Error Other} (first : Avoids bad result)
    (next : ∀ value, result = .ok value → Avoids bad (step value)) : Avoids bad (result >>= step) := by
  cases result with
  | error failure => exact avoids_error (first failure rfl)
  | ok value => exact next value rfl

theorem avoids_either {condition : Prop} [Decidable condition] {second : Except Error Value}
    {step : Value → Except Error Other} (yes : condition → Avoids bad result)
    (no : ¬ condition → Avoids bad second) (next : ∀ value, Avoids bad (step value)) :
    Avoids bad (if condition then result >>= step else second >>= step) := by
  split
  · rename_i holds
    exact avoids_bind (yes holds) fun value _ => next value
  · rename_i fails
    exact avoids_bind (no fails) fun value _ => next value

theorem avoids_map {change : Value → Other} (avoids : Avoids bad result) :
    Avoids bad (result.map change) := by
  cases result with
  | error failure => exact avoids_error (avoids failure rfl)
  | ok value => exact avoids_ok (change value)

theorem avoids_map_error {Cause : Type} {rename : Cause → Error} {result : Except Cause Value}
    (avoids : Avoids (fun cause => bad (rename cause)) result) : Avoids bad (result.mapError rename) := by
  cases result with
  | error cause => exact avoids_error (avoids cause rfl)
  | ok value => exact avoids_ok value

end

/-- Two results that are alike: related values, or related failures. -/
inductive Agree (failures : Error → Error → Prop) (values : Value → Value → Prop) :
    Except Error Value → Except Error Value → Prop
  | ok {first second : Value} (related : values first second) : Agree failures values (.ok first) (.ok second)
  | error {first second : Error} (related : failures first second) :
    Agree failures values (.error first) (.error second)

namespace Agree

variable {failures : Error → Error → Prop} {values : Value → Value → Prop}
  {others : Other → Other → Prop} {first second : Except Error Value}

theorem refl (failsAlike : ∀ failure, failures failure failure) (isAlike : ∀ value, values value value)
    (result : Except Error Value) : Agree failures values result result := by
  cases result with
  | ok value => exact .ok (isAlike value)
  | error failure => exact .error (failsAlike failure)

theorem bind {step other : Value → Except Error Other} (agree : Agree failures values first second)
    (next : ∀ left right, values left right → Agree failures others (step left) (other right)) :
    Agree failures others (first >>= step) (second >>= other) := by
  cases agree with
  | ok related => exact next _ _ related
  | error related => exact .error related

theorem map {change other : Value → Other} (agree : Agree failures values first second)
    (next : ∀ left right, values left right → others (change left) (other right)) :
    Agree failures others (first.map change) (second.map other) := by
  cases agree with
  | ok related => exact .ok (next _ _ related)
  | error related => exact .error related

theorem map_eq (agree : Agree failures Eq first second) (change : Value → Other) :
    Agree failures Eq (first.map change) (second.map change) :=
  agree.map fun _ _ same => congrArg change same

theorem map_error {Cause : Type} {causes : Cause → Cause → Prop} {rename : Cause → Error}
    {first second : Except Cause Value} (agree : Agree causes values first second)
    (next : ∀ left right, causes left right → failures (rename left) (rename right)) :
    Agree failures values (first.mapError rename) (second.mapError rename) := by
  cases agree with
  | ok related => exact .ok related
  | error related => exact .error (next _ _ related)

theorem of_map {keep : Value → Other} (agree : Agree failures Eq (first.map keep) (second.map keep)) :
    Agree failures (fun left right => keep left = keep right) first second := by
  cases first with
  | ok value =>
    cases second with
    | ok other =>
      cases agree with
      | ok same => exact .ok same
    | error failure => cases agree
  | error failure =>
    cases second with
    | ok other => cases agree
    | error cause =>
      cases agree with
      | error related => exact .error related

theorem fold_m {State : Type} {states : State → State → Prop}
    {step other : State → Value → Except Error State}
    (next : ∀ left right value, states left right →
      Agree failures states (step left value) (other right value)) {left right : State}
    (start : states left right) (list : List Value) :
    Agree failures states (list.foldlM step left) (list.foldlM other right) := by
  induction list generalizing left right with
  | nil => exact .ok start
  | cons value list induction =>
    rw [List.foldlM_cons, List.foldlM_cons]
    exact (next left right value start).bind fun _ _ related => induction related

end Agree

def succeedsWith (test : Value → Bool) : Except Error Value → Bool
  | .ok value => test value
  | .error _ => false

theorem exists_of_succeeds_with {test : Value → Bool} {result : Except Error Value}
    (checked : succeedsWith test result = true) :
    ∃ value, result = .ok value ∧ test value = true := by
  cases result with
  | error failure => cases checked
  | ok value => exact ⟨value, rfl, checked⟩

end PrintParts
