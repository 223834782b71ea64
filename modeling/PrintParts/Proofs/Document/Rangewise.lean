import PrintParts.Document
import PrintParts.Proofs.Outcome
import PrintParts.Proofs.Plan.Ranges
import PrintParts.Proofs.Recording.Layers

/-!
The documents of a print, range by range. The walk over the layers carries an open part along and sees
where a part ends only when the next one begins; here every document is made on its own from the range
of its part, and the two agree: in the documents, in what the check found in their scaffolds, and in the
first scaffold that cannot be made or is refused.
-/

namespace PrintParts

def Print.layersOf (print : Print) (range : PartRange) : List Layer :=
  (print.layers.toList.drop range.first).take (range.last + 1 - range.first)

/-- The check finds these issues in the lines, and none of them is an error. -/
def Passes (check : Checker) (context : Scaffold.CheckContext) (lines : List Text)
    (issues : List Issue) : Prop :=
  check context lines = .ok issues ∧ ∀ issue ∈ issues, issue.cause.severity = .warning

/-- What comes of a scaffold that is checked as soon as it is made. It is refused for all errors that the
check finds in it; without errors its lines are kept, and there is a text for every issue. -/
def validated (check : Checker) (maxZ : Binary64) (part : Nat) (kind : Scaffold.Kind)
    (made : Except Failure (List Text)) : Except Failure (List Text × List Text) :=
  match made with
  | .error failure => .error failure
  | .ok lines =>
    match check ⟨kind, part, maxZ⟩ lines with
    | .error failure => .error failure
    | .ok issues =>
      if ∀ issue ∈ issues, issue.cause.severity = .warning then
        .ok (lines, issues.map (warningText part kind))
      else
        .error (Fault.scaffoldRejected part kind
          (issues.filter fun issue => issue.cause.severity = .error)).raise

section

variable {check : Checker} {maxZ : Binary64} {part : Nat} {kind : Scaffold.Kind}

theorem Issue.errors_eq_nil {issues : List Issue} :
    Issue.errors issues = [] ↔ ∀ issue ∈ issues, issue.cause.severity = .warning := by
  rw [Issue.errors, List.filter_eq_nil_iff]
  refine forall₂_congr fun issue _ => ?_
  cases issue.cause.severity <;> decide

theorem Issue.warnings_eq_self {issues : List Issue}
    (clean : ∀ issue ∈ issues, issue.cause.severity = .warning) : Issue.warnings issues = issues :=
  List.filter_eq_self.mpr fun issue member => decide_eq_true (clean issue member)

theorem Passes.errors {context : Scaffold.CheckContext} {lines : List Text} {issues : List Issue}
    (passes : Passes check context lines issues) : Issue.errors issues = [] :=
  Issue.errors_eq_nil.mpr passes.2

theorem bind_checked_scaffold (made : Except Failure (List Text)) :
    (made >>= fun lines => checkedScaffold check maxZ part kind lines) =
      validated check maxZ part kind made := by
  cases made with
  | error failure => rfl
  | ok lines =>
    rw [ok_bind, checkedScaffold, validated]
    cases check ⟨kind, part, maxZ⟩ lines with
    | error failure => rfl
    | ok issues =>
      by_cases clean : ∀ issue ∈ issues, issue.cause.severity = .warning
      · simp only [ok_bind, Issue.errors_eq_nil.mpr clean, Issue.warnings_eq_self clean, if_pos clean,
          if_true]
      · simp only [ok_bind, if_neg (mt Issue.errors_eq_nil.mp clean), if_neg clean]
        rfl

theorem passes_of_validated {made : Except Failure (List Text)} {kept : List Text × List Text}
    (accepted : validated check maxZ part kind made = .ok kept) : made = .ok kept.1 ∧
      ∃ issues, Passes check ⟨kind, part, maxZ⟩ kept.1 issues ∧
        kept.2 = issues.map (warningText part kind) := by
  cases made with
  | error failure => cases accepted
  | ok lines =>
    unfold validated at accepted
    cases checks : check ⟨kind, part, maxZ⟩ lines with
    | error failure =>
      simp only [checks] at accepted
      cases accepted
    | ok issues =>
      simp only [checks] at accepted
      split at accepted
      · rename_i clean
        cases accepted
        exact ⟨rfl, issues, ⟨checks, clean⟩, rfl⟩
      · cases accepted

end

section

variable (generator : Generator) (check : Checker) (print : Print) (range : PartRange)

def openingOf : Except Failure (List Text × List Text) :=
  validated check generator.maxZ range.index .opening
    (generator.opening print print.layers[range.first]! range.index)

def afterFirstLayerOf : Except Failure (List Text × List Text) :=
  validated check generator.maxZ range.index .afterFirstLayer
    (generator.afterFirstLayer print.layers[range.first]!)

def closingOf : Except Failure (List Text × List Text) :=
  validated check generator.maxZ range.index .closing
    (generator.closing print.layers[range.last]! range.index range.totalParts)

/-- The scaffolds of the part in the order in which they are made. -/
def scaffoldsOf : List (Except Failure (List Text × List Text)) :=
  [openingOf generator check print range, afterFirstLayerOf generator check print range,
    closingOf generator check print range]

def Document.ofRange : Except Failure Document := do
  let (opening, openingWarnings) ← openingOf generator check print range
  let (after, afterWarnings) ← afterFirstLayerOf generator check print range
  let (closing, closingWarnings) ← closingOf generator check print range
  .ok {
    part := range
    opening := opening
    layers := print.layersOf range
    afterFirstLayer := after
    closing := closing
    warnings := openingWarnings ++ afterWarnings ++ closingWarnings }

theorem failure_of_of_range :
    failureOf? (Document.ofRange generator check print range) =
      (scaffoldsOf generator check print range).findSome? failureOf? := by
  unfold Document.ofRange scaffoldsOf
  cases openingOf generator check print range with
  | error failure => rfl
  | ok opening =>
    cases afterFirstLayerOf generator check print range with
    | error failure => rfl
    | ok after =>
      cases closingOf generator check print range with
      | error failure => rfl
      | ok closing => rfl

end

namespace OpenPart

theorem fold_add (current : OpenPart) (layers : List Layer) :
    layers.foldl add current =
      { current with
        layers := current.layers ++ layers.toArray
        last := layers.getLastD current.last } := by
  induction layers generalizing current with
  | nil => simp
  | cons layer layers induction =>
    rw [List.foldl_cons, induction, List.getLastD_cons]
    simp [add]

theorem start_part {generator : Generator} {check : Checker} {print : Print} {part : PartRange}
    {layer : Layer} {current : OpenPart}
    (started : start generator check print part layer = .ok current) : current.part = part := by
  unfold start at started
  obtain ⟨_, -, started⟩ := bind_eq_ok.mp started
  obtain ⟨⟨_, _⟩, -, started⟩ := bind_eq_ok.mp started
  obtain ⟨_, -, started⟩ := bind_eq_ok.mp started
  obtain ⟨⟨_, _⟩, -, started⟩ := bind_eq_ok.mp started
  cases started
  rfl

/-- A part that is begun, filled and closed gives the document of its range. -/
theorem close_of_start {generator : Generator} {check : Checker} {print : Print} {range : PartRange}
    {first : Layer} {more : List Layer} (layers : print.layersOf range = first :: more)
    (isFirst : print.layers[range.first]! = first)
    (isLast : print.layers[range.last]! = more.getLastD first) :
    (start generator check print range first >>= fun current =>
      (more.foldl add current).close generator check) =
    Document.ofRange generator check print range := by
  unfold start Document.ofRange openingOf afterFirstLayerOf closingOf
  simp only [layers, isFirst, isLast, fold_add, close, ← bind_checked_scaffold, bind_assoc, ok_bind,
    Array.toList_append, List.singleton_append]

end OpenPart

section

variable {generator : Generator} {check : Checker} {print : Print} {plan : Plan}

theorem Print.get_layer {index : Nat} (inside : index < print.layers.size) :
    print.layers.toList[index]? = some print.layers[index]! := by
  rw [Array.getElem?_toList, Array.getElem?_eq_getElem inside, getElem!_pos print.layers index inside]

theorem Print.layers_of_append (complete : plan.layerCount = print.layers.size) {index : Nat}
    (inside : index < plan.totalParts) :
    print.layersOf (plan.part index) ++ print.layers.toList.drop (plan.part (index + 1)).first =
      print.layers.toList.drop (plan.part index).first := by
  have last := plan.part_last_succ inside
  have ordered := plan.part_first_le_last inside
  have rest : print.layers.toList.drop (plan.part (index + 1)).first =
      (print.layers.toList.drop (plan.part index).first).drop
        ((plan.part index).last + 1 - (plan.part index).first) := by
    rw [List.drop_drop, Plan.part_succ_first]
    rcases Nat.le_total ((plan.part index).first + plan.chunk) plan.layerCount with short | long
    · congr 1
      omega
    · rw [List.drop_of_length_le, List.drop_of_length_le]
      · rw [Array.length_toList]
        omega
      · rw [Array.length_toList]
        omega
  rw [rest, Print.layersOf, List.take_append_drop]

theorem Print.layers_of_part (complete : plan.layerCount = print.layers.size) {index : Nat}
    (inside : index < plan.totalParts) :
    ∃ more, print.layersOf (plan.part index) = print.layers[(plan.part index).first]! :: more ∧
      print.layers[(plan.part index).last]! = more.getLastD print.layers[(plan.part index).first]! := by
  have ordered := plan.part_first_le_last inside
  have bounded := plan.part_last_lt inside
  have length : (print.layersOf (plan.part index)).length =
      (plan.part index).last + 1 - (plan.part index).first := by
    simp only [Print.layersOf, List.length_take, List.length_drop, Array.length_toList]
    omega
  have get : ∀ offset, offset < (plan.part index).last + 1 - (plan.part index).first →
      (print.layersOf (plan.part index))[offset]? =
        some print.layers[(plan.part index).first + offset]! := by
    intro offset below
    rw [Print.layersOf, List.getElem?_take_of_lt below, List.getElem?_drop]
    exact Print.get_layer (by omega)
  cases layers : print.layersOf (plan.part index) with
  | nil =>
    rw [layers] at length
    simp at length
    omega
  | cons first more =>
    rw [layers] at get length
    have isFirst := get 0 (by omega)
    simp only [List.getElem?_cons_zero, Nat.add_zero, Option.some.injEq] at isFirst
    refine ⟨more, by rw [isFirst], ?_⟩
    have isLast := get ((plan.part index).last - (plan.part index).first) (by omega)
    rw [Nat.add_sub_cancel' ordered] at isLast
    have whole : (first :: more).getLast? = some print.layers[(plan.part index).last]! := by
      rw [List.getLast?_eq_getElem?, length,
        show (plan.part index).last + 1 - (plan.part index).first - 1 =
          (plan.part index).last - (plan.part index).first by omega, isLast]
    rw [List.getLast?_cons, ← List.getLastD_eq_getLast?] at whole
    rw [← isFirst]
    exact (Option.some.inj whole).symm

theorem part_of_layer_in_range (numbered : Numbered print.layers.toList) {index : Nat}
    (inside : index < plan.totalParts) {layer : Layer} (member : layer ∈ print.layersOf (plan.part index)) :
    plan.partForLayer layer.number = .ok (some index) := by
  obtain ⟨offset, found⟩ := List.getElem?_of_mem member
  have below : offset < (plan.part index).last + 1 - (plan.part index).first := by
    have bound := (List.getElem?_eq_some_iff.mp found).1
    simp only [Print.layersOf, List.length_take] at bound
    omega
  rw [Print.layersOf, List.getElem?_take_of_lt below, List.getElem?_drop] at found
  rw [numbered _ layer found]
  exact plan.part_for_layer_of_contains inside ⟨Nat.le_add_right _ _, by omega⟩

namespace Document

theorem walk_excluded {current : Option OpenPart} {excluded rest : List Layer}
    (outside : ∀ layer ∈ excluded, plan.partForLayer layer.number = .ok none) :
    walk generator check print plan current (excluded ++ rest) =
      walk generator check print plan current rest := by
  induction excluded with
  | nil => rfl
  | cons layer excluded induction =>
    have first := outside layer List.mem_cons_self
    have later := induction fun other member => outside other (List.mem_cons_of_mem _ member)
    rw [List.cons_append, walk, first, ok_bind]
    exact later

theorem walk_same_part {current : OpenPart} {same rest : List Layer}
    (inPart : ∀ layer ∈ same, plan.partForLayer layer.number = .ok (some current.part.index)) :
    walk generator check print plan (some current) (same ++ rest) =
      walk generator check print plan (some (same.foldl OpenPart.add current)) rest := by
  induction same generalizing current with
  | nil => rfl
  | cons layer same induction =>
    have first := inPart layer List.mem_cons_self
    have later := @induction (current.add layer) fun other member =>
      inPart other (List.mem_cons_of_mem _ member)
    simp only [List.cons_append, walk, first, ok_bind, if_true]
    exact later

def WalksOn (generator : Generator) (check : Checker) (print : Print) (plan : Plan)
    (index : Nat) : Prop :=
  ∀ current : OpenPart, current.part = plan.part index →
    walk generator check print plan (some current)
        (print.layers.toList.drop (plan.part (index + 1)).first) = do
      let document ← current.close generator check
      let documents ← (plan.laterParts index).mapM (ofRange generator check print)
      .ok (document :: documents)

theorem walk_part (numbered : Numbered print.layers.toList)
    (complete : plan.layerCount = print.layers.size) {index : Nat} (inside : index < plan.totalParts)
    (walksOn : WalksOn generator check print plan index) {first : Layer} {more : List Layer}
    (layers : print.layersOf (plan.part index) = first :: more) :
    (OpenPart.start generator check print (plan.part index) first >>= fun current =>
      walk generator check print plan (some current)
        (more ++ print.layers.toList.drop (plan.part (index + 1)).first)) =
    (plan.part index :: plan.laterParts index).mapM (ofRange generator check print) := by
  obtain ⟨others, shape, isLast⟩ := Print.layers_of_part complete inside
  rw [shape] at layers
  obtain ⟨isFirst, rfl⟩ := List.cons.inj layers
  rw [isFirst] at shape isLast
  rw [List.mapM_cons, ← OpenPart.close_of_start shape isFirst isLast, bind_assoc]
  cases started : OpenPart.start generator check print (plan.part index) first with
  | error failure => rfl
  | ok current =>
    have part := OpenPart.start_part started
    have inPart : ∀ layer ∈ others,
        plan.partForLayer layer.number = .ok (some current.part.index) := by
      intro layer member
      rw [part]
      exact part_of_layer_in_range numbered inside (shape ▸ List.mem_cons_of_mem _ member)
    rw [ok_bind, ok_bind, walk_same_part inPart]
    apply walksOn
    rw [OpenPart.fold_add]
    exact part

theorem walks_on (numbered : Numbered print.layers.toList)
    (complete : plan.layerCount = print.layers.size) {index : Nat}
    (inside : index < plan.totalParts) : WalksOn generator check print plan index := by
  -- Down from the last part, since a document is made only when the next part begins.
  refine plan.part_induction (motive := WalksOn generator check print plan) ?_ ?_ inside
  · intro index isLast current part
    have beyond : plan.layerCount ≤ (plan.part (index + 1)).first :=
      plan.layer_count_le_of_last (by omega)
    have none : print.layers.toList.drop (plan.part (index + 1)).first = [] := by
      apply List.drop_of_length_le
      rw [Array.length_toList]
      omega
    rw [none, Plan.later_parts_of_last isLast, walk]
    cases current.close generator check <;> rfl
  · intro index inside induction current part
    obtain ⟨more, layers, -⟩ := Print.layers_of_part complete inside
    have first := part_of_layer_in_range numbered inside
      (layers ▸ List.mem_cons_self : print.layers[(plan.part (index + 1)).first]! ∈ _)
    have other : index + 1 ≠ current.part.index := by
      rw [part]
      exact Nat.succ_ne_self index
    have entered := walk_part numbered complete inside induction layers
    rw [← Print.layers_of_append complete inside, layers, List.cons_append, walk, first, ok_bind]
    simp only [other, if_false]
    rw [Plan.later_parts_eq_cons inside, ← entered]
    simp only [bind_assoc]

theorem render_eq_of_ranges (numbered : Numbered print.layers.toList)
    (complete : plan.layerCount = print.layers.size) :
    render generator check print plan =
      plan.parts.mapM (ofRange generator check print) := by
  have inside := plan.total_parts_pos
  obtain ⟨more, layers, -⟩ := Print.layers_of_part complete inside
  have outside : ∀ layer ∈ print.layers.toList.take plan.startLayer,
      plan.partForLayer layer.number = .ok none := by
    intro layer member
    obtain ⟨index, found⟩ := List.getElem?_of_mem member
    have below : index < plan.startLayer := by
      have bound := (List.getElem?_eq_some_iff.mp found).1
      rw [List.length_take] at bound
      omega
    rw [List.getElem?_take_of_lt below] at found
    rw [numbered index layer found]
    exact plan.part_for_layer_excluded below
  have first := part_of_layer_in_range numbered inside
    (layers ▸ List.mem_cons_self : print.layers[(plan.part 0).first]! ∈ _)
  have walksOn : WalksOn generator check print plan 0 := walks_on numbered complete inside
  have entered := walk_part numbered complete inside walksOn layers
  unfold render
  rw [← List.take_append_drop plan.startLayer print.layers.toList, walk_excluded outside,
    ← plan.part_zero_first, ← Print.layers_of_append complete inside, layers, List.cons_append, walk,
    first, ok_bind, Plan.parts_eq_cons_later, ← entered]

theorem layers_of_parts (complete : plan.layerCount = print.layers.size) :
    plan.parts.flatMap print.layersOf = print.layers.toList.drop plan.startLayer := by
  have later : ∀ index, index < plan.totalParts →
      (plan.laterParts index).flatMap print.layersOf =
        print.layers.toList.drop (plan.part (index + 1)).first := by
    intro index inside
    refine plan.part_induction (motive := fun index => (plan.laterParts index).flatMap
      print.layersOf = print.layers.toList.drop (plan.part (index + 1)).first) ?_ ?_ inside
    · intro index isLast
      have beyond : plan.layerCount ≤ (plan.part (index + 1)).first :=
        plan.layer_count_le_of_last (by omega)
      rw [Plan.later_parts_of_last isLast, List.flatMap_nil, List.drop_of_length_le]
      rw [Array.length_toList]
      omega
    · intro index inside induction
      rw [Plan.later_parts_eq_cons inside, List.flatMap_cons, induction,
        Print.layers_of_append complete inside]
  have positive := plan.total_parts_pos
  rw [Plan.parts_eq_cons_later, List.flatMap_cons, later 0 positive,
    Print.layers_of_append complete positive, Plan.part_zero_first]

/-- What the document of a range holds: the layers of the range, an opening for its first one, what
follows that, and a closing for its last one. -/
structure IsOfRange (generator : Generator) (print : Print) (range : PartRange)
    (document : Document) : Prop where
  part : document.part = range
  layers : document.layers = print.layersOf range
  opening : generator.opening print print.layers[range.first]! range.index = .ok document.opening
  afterFirstLayer :
    generator.afterFirstLayer print.layers[range.first]! = .ok document.afterFirstLayer
  closing : generator.closing print.layers[range.last]! range.index range.totalParts =
    .ok document.closing

/-- What the check found in the scaffolds of a document is no error, and the document tells of it, in the
order of the scaffolds. -/
def IsChecked (check : Checker) (maxZ : Binary64) (document : Document) : Prop :=
  let part := document.part.index
  ∃ opening afterFirstLayer closing,
    Passes check ⟨.opening, part, maxZ⟩ document.opening opening ∧
    Passes check ⟨.afterFirstLayer, part, maxZ⟩ document.afterFirstLayer afterFirstLayer ∧
    Passes check ⟨.closing, part, maxZ⟩ document.closing closing ∧
    document.warnings = opening.map (warningText part .opening) ++
      afterFirstLayer.map (warningText part .afterFirstLayer) ++
      closing.map (warningText part .closing)

theorem is_of_range {range : PartRange} {document : Document}
    (made : ofRange generator check print range = .ok document) :
    IsOfRange generator print range document ∧ IsChecked check generator.maxZ document := by
  obtain ⟨opening, opened, made⟩ := bind_eq_ok.mp made
  obtain ⟨after, followed, made⟩ := bind_eq_ok.mp made
  obtain ⟨closing, closed, made⟩ := bind_eq_ok.mp made
  cases made
  obtain ⟨opens, openingIssues, openingPasses, opensWith⟩ := passes_of_validated opened
  obtain ⟨follows, afterIssues, afterPasses, followsWith⟩ := passes_of_validated followed
  obtain ⟨closes, closingIssues, closingPasses, closesWith⟩ := passes_of_validated closed
  refine ⟨⟨rfl, rfl, opens, follows, closes⟩, openingIssues, afterIssues, closingIssues, openingPasses,
    afterPasses, closingPasses, ?_⟩
  show opening.2 ++ after.2 ++ closing.2 = _
  rw [opensWith, followsWith, closesWith]

theorem documents_of_ranges (numbered : Numbered print.layers.toList)
    (complete : plan.layerCount = print.layers.size) {documents : List Document}
    (rendered : render generator check print plan = .ok documents) :
    List.Forall₂ (IsOfRange generator print) plan.parts documents := by
  rw [render_eq_of_ranges numbered complete] at rendered
  exact (map_m_eq_ok_iff.mp rendered).imp fun _ _ made => (is_of_range made).1

theorem checked_of_rendered (numbered : Numbered print.layers.toList)
    (complete : plan.layerCount = print.layers.size) {documents : List Document}
    (rendered : render generator check print plan = .ok documents) :
    ∀ document ∈ documents, document.IsChecked check generator.maxZ := by
  intro document member
  rw [render_eq_of_ranges numbered complete] at rendered
  obtain ⟨range, -, made⟩ := exists_of_map_m rendered member
  exact (is_of_range made).2

theorem layers_of_documents (complete : plan.layerCount = print.layers.size)
    {documents : List Document}
    (related : List.Forall₂ (IsOfRange generator print) plan.parts documents) :
    documents.flatMap (·.layers) = print.layers.toList.drop plan.startLayer := by
  rw [← layers_of_parts complete]
  generalize plan.parts = ranges at related
  induction related with
  | nil => rfl
  | cons described _ induction =>
    rw [List.flatMap_cons, List.flatMap_cons, described.layers, induction]

theorem document_of_part (numbered : Numbered print.layers.toList)
    (complete : plan.layerCount = print.layers.size) {documents : List Document}
    (rendered : render generator check print plan = .ok documents) {index : Nat}
    (inside : index < plan.totalParts) :
    ∃ document, documents[index]? = some document ∧
      IsOfRange generator print (plan.part index) document := by
  have related := documents_of_ranges numbered complete rendered
  have bound : index < plan.parts.length := by
    rw [Plan.parts, List.length_map, List.length_range]
    exact inside
  have other : index < documents.length := related.length_eq ▸ bound
  have range : plan.parts.get ⟨index, bound⟩ = plan.part index := by
    simp [Plan.parts]
  refine ⟨documents[index], List.getElem?_eq_getElem other, ?_⟩
  have described := related.get bound other
  rw [range] at described
  exact described

/-- The documents of a recorded print are those of the ranges of its plan, each made on its own. They
hold the layers from the start on, in order and once each, and the check found no errors in their
scaffolds. Rendering fails with the first scaffold that cannot be made or is refused, where the opening,
what follows the first layer and the closing of a part come in this order, and all of them before those
of the next part. -/
theorem render_is_rangewise {policy : OverridePolicy} {lines : List Text} {print : Print}
    (recorded : Print.ofLines policy lines = .ok print) {plan : Plan}
    (complete : plan.layerCount = print.layers.size) (generator : Generator) (check : Checker) :
    render generator check print plan = plan.parts.mapM (ofRange generator check print) ∧
    (∀ range ∈ plan.parts, range.first ≤ range.last ∧ range.last < print.layers.size) ∧
    (∀ documents, render generator check print plan = .ok documents →
      documents.length = plan.totalParts ∧
      List.Forall₂ (IsOfRange generator print) plan.parts documents ∧
      (∀ document ∈ documents, document.IsChecked check generator.maxZ) ∧
      documents.flatMap bodyLines =
        (print.layers.toList.drop plan.startLayer).flatMap fun layer => layer.lines.toList) ∧
    ∀ failure, render generator check print plan = .error failure ↔
      (plan.parts.flatMap (scaffoldsOf generator check print)).findSome? failureOf? =
        some failure := by
  have rangewise : render generator check print plan =
      plan.parts.mapM (ofRange generator check print) :=
    render_eq_of_ranges (Print.layers_numbered recorded) complete
  refine ⟨rangewise, ?_, ?_, ?_⟩
  · intro range member
    obtain ⟨index, bound, rfl⟩ := List.mem_map.mp member
    have inside := List.mem_range.mp bound
    exact ⟨plan.part_first_le_last inside, complete ▸ plan.part_last_lt inside⟩
  · intro documents rendered
    have related := documents_of_ranges (Print.layers_numbered recorded) complete rendered
    have layers : documents.flatMap (·.layers) = plan.parts.flatMap print.layersOf := by
      clear rendered
      generalize plan.parts = ranges at related
      induction related with
      | nil => rfl
      | cons described _ induction =>
        rw [List.flatMap_cons, List.flatMap_cons, described.layers, induction]
    refine ⟨?_, related, checked_of_rendered (Print.layers_numbered recorded) complete rendered, ?_⟩
    · rw [← related.length_eq, Plan.parts, List.length_map, List.length_range]
    · rw [← layers_of_parts complete, ← layers, List.flatMap_assoc]
      rfl
  · intro failure
    rw [rangewise, ← failure_of_eq_some, failure_of_map_m, find_some_flat_map]
    simp only [failure_of_of_range]

end Document

end

def fourLayerProgram : List Text := [
  Text.of "M140 S60", Text.of "M104 S210", Text.of "G92 E0", Text.of ";LAYER_COUNT:4",
  Text.of ";LAYER:0", Text.of "G0 X40 Y40 Z0.2", Text.of "G1 X60 E1",
  Text.of ";LAYER:1", Text.of "G0 X40 Y40 Z0.4", Text.of "G1 X60 E2",
  Text.of ";LAYER:2", Text.of "G0 X40 Y40 Z0.6", Text.of "G1 X60 E3",
  Text.of ";LAYER:3", Text.of "G0 X40 Y40 Z0.8", Text.of "G1 X60 E4",
  Text.of ";-- end code begin --", Text.of "M107"]

def threeLayerPlan : Plan where
  layerCount := 4
  startLayer := 1
  layersPerPart := 3 / 2
  chunk := 2
  startLayer_lt := by decide
  chunk_pos := Nat.two_pos

namespace Document

theorem render_is_rangewise_behind_first_layer : ∃ print,
    Print.ofLines .reject fourLayerProgram = .ok print ∧
    threeLayerPlan.layerCount = print.layers.size ∧
    render (.ofSettings {}) Scaffold.check print threeLayerPlan =
      threeLayerPlan.parts.mapM (ofRange (.ofSettings {}) Scaffold.check print) := by
  have checked : succeedsWith (fun print => print.layers.size == 4)
      (Print.ofLines .reject fourLayerProgram) = true := by decide +kernel
  obtain ⟨print, recorded, size⟩ := exists_of_succeeds_with checked
  have complete : threeLayerPlan.layerCount = print.layers.size := (eq_of_beq size).symm
  exact ⟨print, recorded, complete,
    (render_is_rangewise recorded complete (.ofSettings {}) Scaffold.check).1⟩

end Document

end PrintParts
