import PrintParts.Proofs.Scaffold.Checked

/-!
What the check reads in a line whose words each have one letter in front. A parameter is found at the
beginning of a word only, and its number ends where the word ends, so the line is read word by word.
-/

namespace PrintParts

namespace Scaffold

open Text

variable {α : Type} {named : Symbol → Bool} {read : Text → Option α}

/-- What one word gives for a parameter. -/
def parameterOf? (named : Symbol → Bool) (read : Text → Option α) : Text → Option α
  | [] => none
  | letter :: tail => if named letter then read tail else none

/-- Reading that does not go beyond a word. -/
def ReadsWord (read : Text → Option α) : Prop :=
  ∀ tail rest : Text, tail ≠ [] → EndsWord rest → read (tail ++ rest) = read tail

theorem read_plain_ends {tail rest : Text} (ends : EndsWord rest) :
    readPlainNumber? (tail ++ rest) = readPlainNumber? tail := by
  obtain ⟨taken, dropped⟩ := @take_digits_ends tail rest ends
  rw [readPlainNumber?, readPlainNumber?]
  simp only [taken, dropped]
  congr 1
  cases tail.dropWhile Symbol.isDigit with
  | nil =>
    cases rest with
    | nil => rfl
    | cons symbol more =>
      split
      · rename_i point
        exact absurd (List.cons.inj point).1 (Symbol.ne_of_blank (ends symbol rfl) (by decide))
      · rfl
  | cons symbol others =>
    by_cases point : symbol = .char '.'
    · subst point
      simp only [List.cons_append, (@take_digits_ends others rest ends).1]
    · simp [point]

theorem read_signed_ends {tail rest : Text} (nonempty : tail ≠ []) (ends : EndsWord rest) :
    readSignedNumber? (tail ++ rest) = readSignedNumber? tail := by
  obtain ⟨first, others, rfl⟩ := List.exists_cons_of_ne_nil nonempty
  by_cases plus : first = .char '+'
  · subst plus
    simp only [List.cons_append, readSignedNumber?, read_plain_ends ends]
  · by_cases minus : first = .char '-'
    · subst minus
      simp only [List.cons_append, readSignedNumber?, read_plain_ends ends]
    · have unsigned : ∀ text : Text, readSignedNumber? (first :: text) = readPlainNumber? (first :: text) := by
        intro text
        simp [readSignedNumber?, plus, minus]
      rw [List.cons_append, unsigned, unsigned, ← List.cons_append, read_plain_ends ends]

/-- The first word that gives a parameter gives what the check finds in the line. -/
theorem find_parameter_words {text : Text} {words : List Text} (separates : Separates text words)
    (readsWord : ReadsWord read)
    (blank : ∀ symbol : Symbol, symbol.isSpace = true → named symbol = false)
    (lettered : ∀ word ∈ words, ∃ letter tail, word = letter :: tail ∧ tail ≠ [] ∧
      ∀ symbol ∈ tail, named symbol = false) :
    findParameter? named (fun rest => read (rest.dropWhile Symbol.isSpace)) false text =
      words.findSome? (parameterOf? named read) := by
  induction separates with
  | nil => rfl
  | blank isBlank _ induction => rw [find_parameter_blank isBlank (blank _ isBlank), induction lettered]
  | @word word rest words nonempty solid ends behind induction =>
    obtain ⟨here, later⟩ := List.forall_mem_cons.mp lettered
    obtain ⟨letter, tail, rfl, something, free⟩ := here
    have number : read ((tail ++ rest).dropWhile Symbol.isSpace) = read tail := by
      obtain ⟨first, others, rfl⟩ := List.exists_cons_of_ne_nil something
      have opens := solid first (List.mem_cons_of_mem _ List.mem_cons_self)
      rw [List.cons_append, List.dropWhile_cons_of_neg (by simp [opens]), ← List.cons_append]
      exact readsWord _ _ something ends
    have passes := @find_parameter_passes _ named (fun rest => read (rest.dropWhile Symbol.isSpace))
      tail rest free ends (fun symbol first => blank symbol (ends symbol first)) letter.isWord
    rw [List.findSome?_cons, ← induction later, List.cons_append, findParameter?, number, passes]
    cases isNamed : named letter with
    | false => simp [parameterOf?, isNamed]
    | true => cases found : read tail <;> simp [parameterOf?, isNamed, found]

def parameterLetters : Text := [.char 'X', .char 'Y', .char 'Z', .char 'S']

/-- A letter with something behind it, in which no other parameter begins. -/
def IsLettered (word : Text) : Prop :=
  ∃ letter tail, word = letter :: tail ∧ tail ≠ [] ∧ ∀ symbol ∈ tail, symbol ∉ parameterLetters

theorem parameters_of_words {code : Text} {words : List Text} (separates : Separates code words)
    (lettered : ∀ word ∈ words, IsLettered word) :
    zParameter? code = words.findSome? (parameterOf? (· == .char 'Z') readSignedNumber?) ∧
    hasXYParameter code = (words.findSome? (parameterOf?
      (fun symbol => symbol == .char 'X' || symbol == .char 'Y') readSignedNumber?)).isSome ∧
    sParameter? code = words.findSome? (parameterOf? (· == .char 'S') readPlainNumber?) := by
  have free : ∀ named : Symbol → Bool, (∀ symbol, named symbol = true → symbol ∈ parameterLetters) →
      ∀ word ∈ words, ∃ letter tail, word = letter :: tail ∧ tail ≠ [] ∧
        ∀ symbol ∈ tail, named symbol = false := by
    intro named names word member
    obtain ⟨letter, tail, rfl, something, free⟩ := lettered word member
    exact ⟨letter, tail, rfl, something, fun symbol inTail =>
      Bool.eq_false_iff.mpr fun isNamed => free symbol inTail (names symbol isNamed)⟩
  have blank : ∀ named : Symbol → Bool, (∀ symbol, named symbol = true → symbol ∈ parameterLetters) →
      ∀ symbol : Symbol, symbol.isSpace = true → named symbol = false := by
    intro named names symbol isBlank
    have letters : ∀ symbol ∈ parameterLetters, symbol.isSpace = false := by decide
    refine Bool.eq_false_iff.mpr fun isNamed => ?_
    rw [letters symbol (names symbol isNamed)] at isBlank
    cases isBlank
  have isZ : ∀ symbol : Symbol, (symbol == .char 'Z') = true → symbol ∈ parameterLetters := by
    simp [parameterLetters]
  have isXY : ∀ symbol : Symbol, (symbol == .char 'X' || symbol == .char 'Y') = true →
      symbol ∈ parameterLetters := by
    simp only [Bool.or_eq_true, beq_iff_eq, parameterLetters, List.mem_cons]
    tauto
  have isS : ∀ symbol : Symbol, (symbol == .char 'S') = true → symbol ∈ parameterLetters := by
    simp [parameterLetters]
  have signed : ReadsWord readSignedNumber? := fun _ _ => read_signed_ends
  have unsigned : ReadsWord readPlainNumber? := fun _ _ _ => read_plain_ends
  exact ⟨find_parameter_words separates signed (blank _ isZ) (free _ isZ),
    congrArg Option.isSome (find_parameter_words separates signed (blank _ isXY) (free _ isXY)),
    find_parameter_words separates unsigned (blank _ isS) (free _ isS)⟩

end Scaffold

end PrintParts
