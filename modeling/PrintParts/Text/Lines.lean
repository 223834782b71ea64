import PrintParts.Text.Basic

/-!
Lines of a text. Every line end closes a line, so nothing follows the last one. The other Unicode
line separators end no line.
-/

namespace PrintParts

def consToFirst (symbol : Symbol) : List Text → List Text
  | [] => [[symbol]]
  | line :: lines => (symbol :: line) :: lines

namespace Text

def lines : Text → List Text
  | [] => []
  | symbol :: rest =>
    if symbol = .char '\n' then [] :: lines rest else consToFirst symbol (lines rest)

/-- Each carriage return, together with a newline right behind it, becomes one newline. -/
def unifyLineEnds : Text → Text
  | .char '\r' :: .char '\n' :: rest => .char '\n' :: unifyLineEnds rest
  | .char '\r' :: rest => .char '\n' :: unifyLineEnds rest
  | symbol :: rest => symbol :: unifyLineEnds rest
  | [] => []

def isLineEnd (symbol : Symbol) : Bool := symbol = .char '\r' ∨ symbol = .char '\n'

def chomp (line : Text) : Text := trimEnd isLineEnd line

def unlines (lines : List Text) : Text := lines.flatMap fun line => line ++ [.char '\n']

theorem lines_append_newline {line : Text} (free : .char '\n' ∉ line) (rest : Text) :
    lines (line ++ .char '\n' :: rest) = line :: lines rest := by
  induction line with
  | nil => simp [lines]
  | cons symbol line induction =>
    simp only [List.mem_cons, not_or] at free
    simp [lines, Ne.symm free.1, induction free.2, consToFirst]

theorem lines_unlines {all : List Text} (free : ∀ line ∈ all, .char '\n' ∉ line) :
    lines (unlines all) = all := by
  induction all with
  | nil => rfl
  | cons line all induction =>
    have tail := induction fun other member => free other (List.mem_cons_of_mem _ member)
    have first := free line List.mem_cons_self
    simp only [unlines, List.flatMap_cons, List.append_assoc, List.singleton_append] at tail ⊢
    rw [lines_append_newline first, tail]

theorem newline_free_of_mem_lines (text : Text) : ∀ line ∈ text.lines, .char '\n' ∉ line := by
  induction text with
  | nil => exact fun _ member => nomatch member
  | cons symbol text induction =>
    by_cases ends : symbol = .char '\n'
    · rw [lines, if_pos ends]
      exact List.forall_mem_cons.mpr ⟨List.not_mem_nil, induction⟩
    · rw [lines, if_neg ends]
      cases others : lines text with
      | nil => exact List.forall_mem_singleton.mpr (mt List.mem_singleton.mp (Ne.symm ends))
      | cons line rest =>
        rw [others] at induction
        obtain ⟨first, later⟩ := List.forall_mem_cons.mp induction
        exact List.forall_mem_cons.mpr ⟨List.not_mem_cons_of_ne_of_not_mem (Ne.symm ends) first, later⟩

end Text

end PrintParts
