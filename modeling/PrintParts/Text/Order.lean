import PrintParts.Text.Basic

/-!
The order of texts, by the numbers of their symbols from the first one on.
-/

namespace PrintParts

namespace Text

/-- Whether a text stands before another one or is the same: it ends first, or the first symbol in which
they differ ranks lower. -/
def precedes : Text → Text → Bool
  | [], _ => true
  | _ :: _, [] => false
  | symbol :: text, other :: rest =>
    decide (symbol.point < other.point) || (symbol.point == other.point && precedes text rest)

theorem precedes_total (text other : Text) :
    (precedes text other || precedes other text) = true := by
  induction text generalizing other with
  | nil => simp [precedes]
  | cons symbol text induction =>
    cases other with
    | nil => simp [precedes]
    | cons head rest =>
      rcases Nat.lt_trichotomy symbol.point head.point with lower | same | higher
      · simp [precedes, lower]
      · simpa [precedes, same] using induction rest
      · simp [precedes, higher]

theorem precedes_trans (first second third : Text) (left : precedes first second = true)
    (right : precedes second third = true) : precedes first third = true := by
  induction first generalizing second third with
  | nil => rfl
  | cons symbol first induction =>
    cases second with
    | nil => simp [precedes] at left
    | cons middle second =>
      cases third with
      | nil => simp [precedes] at right
      | cons last third =>
        simp only [precedes, Bool.or_eq_true, decide_eq_true_eq, Bool.and_eq_true,
          beq_iff_eq] at left right ⊢
        rcases left with lower | ⟨same, left⟩
        · left
          rcases right with next | ⟨next, _⟩ <;> omega
        · rcases right with next | ⟨next, right⟩
          · left
            omega
          · exact .inr ⟨same.trans next, induction second third left right⟩

def sorted (texts : List Text) : List Text := texts.mergeSort precedes

theorem sorted_pairwise (texts : List Text) :
    (sorted texts).Pairwise fun text other => precedes text other = true :=
  List.pairwise_mergeSort precedes_trans precedes_total texts

theorem mem_sorted {texts : List Text} {text : Text} : text ∈ sorted texts ↔ text ∈ texts :=
  List.mem_mergeSort

end Text

end PrintParts
