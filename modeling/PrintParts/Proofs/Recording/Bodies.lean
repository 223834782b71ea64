import PrintParts.Proofs.Recording.Layers

/-!
What a recording keeps of a program. The lines between the marker of a layer and the next marker, the
end marker or the end of the program become the body of that layer, without the declarations among them.
The state in which a layer begins is what all commands in front of its marker lead to, and the state in
which it ends is what its own lines lead to from there.
-/

namespace PrintParts

/-- What a line is read as, if it can be read. -/
def tokenOf? (line : Text) : Option Token := (Token.ofLine line).toOption

theorem token_of_eq_some {line : Text} {token : Token} :
    tokenOf? line = some token ↔ Token.ofLine line = .ok token := to_option_eq_some

namespace Token

def isMarker : Token → Bool
  | .layerMarker _ => true
  | _ => false

/-- Whether an open layer ends at the token. -/
def endsLayer : Token → Bool
  | .layerMarker _ | .endMarker => true
  | _ => false

/-- Whether the token tells something of the whole print, so that it belongs to no layer. -/
def isDeclaration : Token → Bool
  | .layerHeight _ | .layerCount _ => true
  | _ => false

def layerCount? : Token → Option Nat
  | .layerCount count => some count
  | _ => none

def command? : Token → Option Command
  | .command given => some given
  | _ => none

end Token

section

/-! Lines may be kept in any form from which their text can be told. -/

variable {Line : Type} (text : Line → Text)

def lineIs (test : Token → Bool) (line : Line) : Bool := (tokenOf? (text line)).any test

/-- What a layer records if the lines follow its marker. -/
def layerBody (lines : List Line) : List Line :=
  (lines.takeWhile fun line => !lineIs text Token.endsLayer line).filter fun line =>
    !lineIs text Token.isDeclaration line

/-- The bodies of all layers in the order of their markers. -/
def layerBodies : List Line → List (List Line)
  | [] => []
  | line :: rest =>
    if lineIs text Token.isMarker line then layerBody text rest :: layerBodies rest
    else layerBodies rest

end

def declaredCounts (lines : List Text) : List Nat :=
  lines.filterMap fun line => (tokenOf? line).bind Token.layerCount?

def commandsOf (lines : List Text) : List Command :=
  lines.filterMap fun line => (tokenOf? line).bind Token.command?

def MachineState.follow (inLayer : Bool) (policy : OverridePolicy) (state : MachineState)
    (lines : List Text) : Except Fault MachineState :=
  (commandsOf lines).foldlM (fun state command => state.step command inLayer policy) state

section

variable {Line : Type} (text : Line → Text) {line : Line} {token : Token}

theorem line_is_eq (read : Token.ofLine (text line) = .ok token) (test : Token → Bool) :
    lineIs text test line = test token := by
  rw [lineIs, tokenOf?, read]
  rfl

theorem layer_body_of_end (read : Token.ofLine (text line) = .ok token)
    (ends : token.endsLayer = true) (rest : List Line) : layerBody text (line :: rest) = [] := by
  rw [layerBody, List.takeWhile_cons_of_neg, List.filter_nil]
  simp [line_is_eq text read, ends]

theorem layer_body_of_declaration (read : Token.ofLine (text line) = .ok token)
    (declares : token.isDeclaration = true) (rest : List Line) :
    layerBody text (line :: rest) = layerBody text rest := by
  have goesOn : token.endsLayer = false := by
    cases token <;> first | rfl | cases declares
  rw [layerBody, List.takeWhile_cons_of_pos, List.filter_cons_of_neg]
  · rfl
  · simp [line_is_eq text read, declares]
  · simp [line_is_eq text read, goesOn]

theorem layer_body_of_command {command : Command}
    (read : Token.ofLine (text line) = .ok (.command command)) (rest : List Line) :
    layerBody text (line :: rest) = line :: layerBody text rest := by
  rw [layerBody, List.takeWhile_cons_of_pos, List.filter_cons_of_pos]
  · rfl
  · simp [line_is_eq text read, Token.isDeclaration]
  · simp [line_is_eq text read, Token.endsLayer]

theorem layer_bodies_of_marker {index : Nat}
    (read : Token.ofLine (text line) = .ok (.layerMarker index)) (rest : List Line) :
    layerBodies text (line :: rest) = layerBody text rest :: layerBodies text rest := by
  have marks : lineIs text Token.isMarker line = true := line_is_eq text read Token.isMarker
  rw [layerBodies, if_pos marks]

theorem layer_bodies_of_other (read : Token.ofLine (text line) = .ok token)
    (other : token.isMarker = false) (rest : List Line) :
    layerBodies text (line :: rest) = layerBodies text rest := by
  rw [layerBodies, if_neg (by simp [line_is_eq text read, other])]

/-- Each body has a marker in front of it, and one for each body below it stands before that. -/
theorem exists_marker {lines : List Line} {index : Nat}
    (inside : index < (layerBodies text lines).length) :
    ∃ before marker behind, lines = before ++ marker :: behind ∧
      lineIs text Token.isMarker marker = true ∧ (layerBodies text before).length = index := by
  induction lines generalizing index with
  | nil => cases inside
  | cons line rest induction =>
    by_cases marks : lineIs text Token.isMarker line
    · rw [layerBodies, if_pos marks, List.length_cons] at inside
      cases index with
      | zero => exact ⟨[], line, rest, rfl, marks, rfl⟩
      | succ index =>
        obtain ⟨before, marker, behind, rfl, isMarker, count⟩ :=
          induction (Nat.lt_of_succ_lt_succ inside)
        refine ⟨line :: before, marker, behind, rfl, isMarker, ?_⟩
        rw [layerBodies, if_pos marks, List.length_cons, count]
    · rw [layerBodies, if_neg marks] at inside
      obtain ⟨before, marker, behind, rfl, isMarker, count⟩ := induction inside
      refine ⟨line :: before, marker, behind, rfl, isMarker, ?_⟩
      rw [layerBodies, if_neg marks, count]

theorem layer_body_sublist (line : Line) (rest : List Line) :
    (layerBody text (line :: rest)).Sublist (line :: layerBody text rest) := by
  rw [layerBody, List.takeWhile_cons]
  split
  · rw [List.filter_cons]
    split
    · exact List.Sublist.refl _
    · exact List.sublist_cons_self _ _
  · exact List.nil_sublist _

theorem layer_body_of_marker {line : Line} (marks : lineIs text Token.isMarker line = true)
    (rest : List Line) : layerBody text (line :: rest) = [] := by
  have ends : lineIs text Token.endsLayer line = true := by
    rw [lineIs, Option.any_eq_true] at marks ⊢
    obtain ⟨token, found, isMarker⟩ := marks
    exact ⟨token, found, by cases token <;> first | rfl | cases isMarker⟩
  rw [layerBody, List.takeWhile_cons_of_neg, List.filter_nil]
  simp [ends]

/-- The bodies are taken from the lines in their order, and no line twice. The layer that is open in
front of the lines comes first. -/
theorem layer_bodies_sublist (lines : List Line) :
    (layerBody text lines ++ (layerBodies text lines).flatten).Sublist lines := by
  induction lines with
  | nil => exact List.Sublist.refl _
  | cons line rest induction =>
    by_cases marks : lineIs text Token.isMarker line
    · rw [layerBodies, if_pos marks, layer_body_of_marker text marks, List.nil_append,
        List.flatten_cons]
      exact induction.cons line
    · rw [layerBodies, if_neg marks]
      exact ((layer_body_sublist text line rest).append_right _).trans (induction.cons_cons line)

theorem layer_bodies_eq_nil {lines : List Line} :
    layerBodies text lines = [] ↔ ∀ line ∈ lines, lineIs text Token.isMarker line = false := by
  induction lines with
  | nil => exact ⟨fun _ => (fun _ member => nomatch member), fun _ => rfl⟩
  | cons line rest induction =>
    rw [List.forall_mem_cons, ← induction, layerBodies]
    by_cases marks : lineIs text Token.isMarker line
    · simp [marks]
    · simp [marks]

theorem layer_body_map {Other : Type} (change : Line → Other) {textOf : Other → Text}
    (same : ∀ line, tokenOf? (textOf (change line)) = tokenOf? (text line)) (lines : List Line) :
    layerBody textOf (lines.map change) = (layerBody text lines).map change := by
  simp only [layerBody, List.takeWhile_map, List.filter_map]
  simp only [Function.comp_def, lineIs, same]

theorem layer_bodies_map {Other : Type} (change : Line → Other) {textOf : Other → Text}
    (same : ∀ line, tokenOf? (textOf (change line)) = tokenOf? (text line)) (lines : List Line) :
    layerBodies textOf (lines.map change) = (layerBodies text lines).map (List.map change) := by
  induction lines with
  | nil => rfl
  | cons line rest induction =>
    have marks : lineIs textOf Token.isMarker (change line) = lineIs text Token.isMarker line := by
      rw [lineIs, lineIs, same]
    rw [List.map_cons, layerBodies, layerBodies, marks, induction, layer_body_map text change same]
    by_cases marker : lineIs text Token.isMarker line
    · rw [if_pos marker, if_pos marker, List.map_cons]
    · rw [if_neg marker, if_neg marker]

end

theorem commands_of_append (first second : List Text) :
    commandsOf (first ++ second) = commandsOf first ++ commandsOf second := List.filterMap_append

theorem commands_of_command {line : Text} {command : Command}
    (read : Token.ofLine line = .ok (.command command)) (rest : List Text) :
    commandsOf (line :: rest) = command :: commandsOf rest := by
  simp only [commandsOf, List.filterMap_cons, token_of_eq_some.mpr read, Option.bind_some, Token.command?]

theorem token_of_chomp (line : Text) : tokenOf? line.chomp = tokenOf? line := by
  rw [tokenOf?, tokenOf?, Token.of_line_chomp]

namespace MachineState

variable {state after : MachineState} {policy : OverridePolicy} {inLayer : Bool}

theorem step_outside {command : Command} (stepped : state.step command inLayer policy = .ok after)
    (inside : Bool) (harder : inside = true → inLayer = true) :
    state.step command inside policy = .ok after := by
  obtain ⟨code, known, applied⟩ := bind_eq_ok.mp stepped
  refine bind_eq_ok.mpr ⟨code, known, ?_⟩
  have rate : ∀ rate mnemonic, state.overrideRate rate mnemonic inLayer policy = .ok after →
      state.overrideRate rate mnemonic inside policy = .ok after := by
    intro rate mnemonic passed
    unfold overrideRate at passed ⊢
    split at passed
    · cases passed
    · rename_i lets
      rw [if_neg fun refused => lets ⟨harder refused.1, refused.2⟩]
      exact passed
  cases code with
  | feedRate => exact rate _ _ applied
  | flowRate => exact rate _ _ applied
  | _ => exact applied

theorem follow_of_command {line : Text} {command : Command}
    (read : Token.ofLine line = .ok (.command command)) (rest : List Text) :
    state.follow inLayer policy (line :: rest) =
      state.step command inLayer policy >>= fun next => next.follow inLayer policy rest := by
  rw [follow, commands_of_command read, List.foldlM_cons]
  rfl

theorem follow_of_other {line : Text} {token : Token} (read : Token.ofLine line = .ok token)
    (other : token.command? = none) (rest : List Text) :
    state.follow inLayer policy (line :: rest) = state.follow inLayer policy rest := by
  have first : (tokenOf? line).bind Token.command? = none := by
    rw [tokenOf?, read]
    exact other
  simp only [follow, commandsOf, List.filterMap_cons, first]

theorem follow_append (first second : List Text) :
    state.follow inLayer policy (first ++ second) =
      state.follow inLayer policy first >>= fun middle => middle.follow inLayer policy second := by
  rw [follow, commands_of_append, List.foldlM_append]
  rfl

theorem follow_outside {lines : List Text} (followed : state.follow inLayer policy lines = .ok after)
    (inside : Bool) (harder : inside = true → inLayer = true) :
    state.follow inside policy lines = .ok after := by
  unfold follow at followed ⊢
  generalize commandsOf lines = commands at followed ⊢
  induction commands generalizing state with
  | nil => exact followed
  | cons command rest induction =>
    rw [List.foldlM_cons] at followed ⊢
    obtain ⟨next, stepped, followed⟩ := bind_eq_ok.mp followed
    exact bind_eq_ok.mpr ⟨next, step_outside stepped inside harder, induction followed⟩

end MachineState

theorem declared_counts_chomp (lines : List Text) :
    declaredCounts (lines.map Text.chomp) = declaredCounts lines := by
  rw [declaredCounts, declaredCounts, List.filterMap_map]
  simp only [Function.comp_def, token_of_chomp]

theorem follow_chomp {state : MachineState} {inLayer : Bool} {policy : OverridePolicy}
    (lines : List Text) : state.follow inLayer policy (lines.map Text.chomp) =
      state.follow inLayer policy lines := by
  rw [MachineState.follow, MachineState.follow, commandsOf, commandsOf, List.filterMap_map]
  simp only [Function.comp_def, token_of_chomp]

end PrintParts
