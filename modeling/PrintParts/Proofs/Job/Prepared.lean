import PrintParts.Job
import PrintParts.Proofs.Document.Rangewise
import PrintParts.Proofs.Plan.Making

/-!
What a job prepares: the documents of a print and its plan, and a path for each of them. The names of
the parts differ from each other, from the name of the input and from that of the default profile.
-/

namespace PrintParts

namespace Job

variable {job : Job}

def partSuffix (job : Job) : Text :=
  if job.input.suffix = [] then Text.of ".gcode" else job.input.suffix

def partName (job : Job) (part : Nat) : Text :=
  job.input.stem ++ Text.of "." ++ Text.ofNat part ++ job.partSuffix

theorem part_path_eq (job : Job) (folder : Path) (part : Nat) :
    job.partPath folder part = folder.child (job.partName part) := rfl

theorem suffix_begins_with_dot {path : Path} (some : path.suffix ≠ []) :
    ∃ rest, path.suffix = .char '.' :: rest := by
  unfold Path.suffix Path.splitName at some ⊢
  cases cut : Path.cutAtLastDot? path.name with
  | none =>
    rw [cut] at some
    exact absurd rfl some
  | some halves =>
    rw [cut] at some
    dsimp only at some ⊢
    by_cases bare : halves.1 = [] ∨ halves.2 = []
    · rw [if_pos bare] at some
      exact absurd rfl some
    · rw [if_neg bare]
      exact ⟨halves.2, rfl⟩

theorem part_suffix_begins_with_dot (job : Job) : ∃ rest, job.partSuffix = .char '.' :: rest := by
  unfold partSuffix
  by_cases none : job.input.suffix = []
  · rw [if_pos none]
    exact ⟨Text.of "gcode", rfl⟩
  · rw [if_neg none]
    exact suffix_begins_with_dot none

theorem of_nat_injective {first second : Nat} (same : Text.ofNat first = Text.ofNat second) :
    first = second := by
  have digits : Nat.toDigits 10 first = Nat.toDigits 10 second :=
    List.map_injective_iff.mpr (fun _ _ => Symbol.char.inj) same
  calc first = Nat.ofDigitChars 10 (Nat.toDigits 10 first) 0 := Nat.ofDigitChars_ten_toDigits.symm
    _ = Nat.ofDigitChars 10 (Nat.toDigits 10 second) 0 := by rw [digits]
    _ = second := Nat.ofDigitChars_ten_toDigits

theorem part_name_injective {first second : Nat} (same : job.partName first = job.partName second) :
    first = second := by
  apply of_nat_injective
  have prefixes := List.append_cancel_right same
  rwa [List.append_assoc, List.append_assoc, List.append_cancel_left_eq,
    List.append_cancel_left_eq] at prefixes

theorem length_of_nat_pos (part : Nat) : 0 < (Text.ofNat part).length := by
  rw [Text.ofNat, Text.ofChars, List.length_map]
  exact Nat.length_toDigits_pos

theorem part_name_length (job : Job) (part : Nat) :
    (job.partName part).length =
      job.input.stem.length + 1 + (Text.ofNat part).length + job.partSuffix.length := by
  simp only [partName, List.length_append]
  rfl

theorem part_name_ne_back (job : Job) (part : Nat) : job.partName part ≠ Path.back := by
  intro same
  have short := congrArg List.length same
  rw [part_name_length, show Path.back.length = 2 from rfl] at short
  have digits := length_of_nat_pos part
  obtain ⟨rest, suffix⟩ := job.part_suffix_begins_with_dot
  rw [suffix, List.length_cons] at short
  omega

theorem plan_of_division {print : Print} {plan : Plan}
    (divided : job.division print = .ok (.whole plan)) :
    plan.layerCount = print.layers.size ∧ job.request.startLayer.isInteger plan.startLayer = true := by
  obtain ⟨layers, start⟩ := Plan.of_division divided
  exact ⟨Int.ofNat_inj.mp layers, start⟩

/-- What stands behind the documents of a job. -/
structure Prepares (job : Job) (print : Print) (plan : Plan) (folder : Path)
    (prepared : Prepared) : Prop where
  recorded : Print.ofBytes job.policy job.program = .ok print
  divided : job.division print = .ok (.whole plan)
  rendered : Document.render (.ofSettings job.settings) Scaffold.check print plan =
    .ok prepared.documents
  outputFolder : job.outputFolder = .ok folder
  parts : prepared.documents.map (·.part) = plan.parts
  paths : prepared.report.paths = (List.range plan.totalParts).map fun part =>
    job.partPath folder part

theorem documents_of_prepared {print : Print} {plan : Plan} {documents : List Document}
    (recorded : Print.ofBytes job.policy job.program = .ok print)
    (divided : job.division print = .ok (.whole plan))
    (rendered : Document.render (.ofSettings job.settings) Scaffold.check print plan =
      .ok documents) :
    List.Forall₂ (Document.IsOfRange (.ofSettings job.settings) print) plan.parts documents :=
  Document.documents_of_ranges (Print.layers_numbered recorded) (plan_of_division divided).1 rendered

theorem parts_of_prepared {print : Print} {plan : Plan} {documents : List Document}
    (described : List.Forall₂ (Document.IsOfRange (.ofSettings job.settings) print) plan.parts
      documents) : documents.map (·.part) = plan.parts := by
  generalize plan.parts = ranges at described
  induction described with
  | nil => rfl
  | cons first _ induction => rw [List.map_cons, first.part, induction]

theorem prepares_of_prepare {prepared : Prepared} (done : job.prepare = .ok prepared) :
    ∃ print plan folder, Prepares job print plan folder prepared := by
  unfold prepare at done
  obtain ⟨print, recorded, done⟩ := bind_eq_ok.mp done
  obtain ⟨division, divided, done⟩ := bind_eq_ok.mp done
  obtain ⟨clearance, -, done⟩ := bind_eq_ok.mp done
  obtain ⟨plan, planned, done⟩ := bind_eq_ok.mp done
  obtain ⟨documents, rendered, done⟩ := bind_eq_ok.mp done
  obtain ⟨folder, output, same⟩ := bind_eq_ok.mp done
  have whole : division = .whole plan := by
    cases division <;> cases planned
    rfl
  subst whole
  cases same
  have parts := parts_of_prepared (documents_of_prepared recorded divided rendered)
  refine ⟨print, plan, folder, recorded, divided, rendered, output, parts, ?_⟩
  have paths := congrArg (List.map fun range : PartRange => job.partPath folder range.index) parts
  rw [Plan.parts, List.map_map, List.map_map] at paths
  exact paths

end Job

end PrintParts
