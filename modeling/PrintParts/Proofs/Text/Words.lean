import Mathlib.Data.List.TakeWhile
import PrintParts.Text.Class
import PrintParts.Text.Upper

/-!
Texts as words with blanks between them. Where the blanks stand and what kind they are makes no difference
to the words, and neither do blanks at the two ends.
-/

namespace PrintParts

def blankPoints : List Nat := [
  9, 10, 11, 12, 13, 28, 29, 30, 31, 32, 0x85, 0xA0, 0x1680, 0x2000, 0x2001, 0x2002, 0x2003, 0x2004,
  0x2005, 0x2006, 0x2007, 0x2008, 0x2009, 0x200A, 0x2028, 0x2029, 0x202F, 0x205F, 0x3000]

namespace Symbol

theorem is_space_cases {symbol : Symbol} (blank : symbol.isSpace = true) :
    ∃ point ∈ blankPoints, symbol = .char (Char.ofNat point) := by
  cases symbol with
  | raw byte => cases blank
  | half unit => cases blank
  | char character =>
    refine ⟨character.toNat, ?_, by rw [Char.ofNat_toNat]⟩
    simp only [isSpace, inRanges, spaceRanges, List.any_cons, List.any_nil] at blank
    generalize character.toNat = point at blank
    simp only [blankPoints, List.mem_cons, List.not_mem_nil, or_false]
    split at blank
    · simp only [Bool.or_eq_true, Bool.and_eq_true, decide_eq_true_eq] at blank
      omega
    · simp only [Bool.or_eq_true, Bool.and_eq_true, decide_eq_true_eq, Bool.false_eq_true, or_false]
        at blank
      omega

theorem of_blank {symbol : Symbol} (blank : symbol.isSpace = true) :
    symbol.isDigit = false ∧ symbol.isWord = false ∧ symbol.upper = [symbol] := by
  have all : ∀ point ∈ blankPoints, (char (Char.ofNat point)).isDigit = false ∧
      (char (Char.ofNat point)).isWord = false ∧
      (char (Char.ofNat point)).upper = [.char (Char.ofNat point)] := by
    decide +kernel
  obtain ⟨point, member, rfl⟩ := is_space_cases blank
  exact all point member

theorem ne_of_blank {symbol : Symbol} (blank : symbol.isSpace = true) {char : Char}
    (solid : Symbol.isSpace (.char char) = false) : symbol ≠ .char char := by
  rintro rfl
  rw [solid] at blank
  cases blank

end Symbol

namespace Text

theorem trim_end_cons {drop : Symbol → Bool} {symbol : Symbol} (kept : drop symbol = false)
    (rest : Text) : trimEnd drop (symbol :: rest) = symbol :: trimEnd drop rest := by
  cases trimmed : trimEnd drop rest <;> simp [trimEnd, trimmed, kept]

theorem trim_end_append {drop : Symbol → Bool} {text : Text} (whole : trimEnd drop text = text)
    (rest : Text) : trimEnd drop (text ++ rest) = text ++ trimEnd drop rest := by
  induction text with
  | nil => rfl
  | cons symbol text induction =>
    cases trimmed : trimEnd drop text with
    | nil =>
      -- The text is this symbol only, and the symbol is not dropped.
      simp only [trimEnd, trimmed] at whole
      split at whole
      · cases whole
      · rename_i kept
        cases whole
        exact trim_end_cons (Bool.eq_false_iff.mpr kept) rest
    | cons first others =>
      simp only [trimEnd, trimmed] at whole
      have same : trimEnd drop text = text := trimmed.trans (List.cons.inj whole).2
      rw [List.cons_append, trimEnd, induction same]
      cases text with
      | nil => cases whole
      | cons next text => rfl

theorem trim_end_solid {text : Text} (solid : ∀ symbol ∈ text, symbol.isSpace = false) :
    trimEnd Symbol.isSpace text = text := by
  induction text with
  | nil => rfl
  | cons symbol text induction =>
    have later := induction fun other member => solid other (List.mem_cons_of_mem _ member)
    rw [trim_end_cons (solid symbol List.mem_cons_self), later]

theorem before_append {separator : Char} {text : Text} (free : .char separator ∉ text)
    (rest : Text) : before separator (text ++ rest) = text ++ before separator rest := by
  induction text with
  | nil => rfl
  | cons symbol text induction =>
    simp only [List.mem_cons, not_or] at free
    rw [List.cons_append, before, if_neg (Ne.symm free.1), induction free.2, List.cons_append]

theorem after_append {separator : Char} {text : Text} (free : .char separator ∉ text)
    (rest : Text) : after? separator (text ++ rest) = after? separator rest := by
  induction text with
  | nil => rfl
  | cons symbol text induction =>
    simp only [List.mem_cons, not_or] at free
    rw [List.cons_append, after?, if_neg (Ne.symm free.1), induction free.2]

/-- A word of a command line: neither blanks nor the beginning of a comment are in it. -/
structure IsWord (word : Text) : Prop where
  solid : ∀ symbol ∈ word, symbol.isSpace = false
  uncommented : .char ';' ∉ word

theorem split_words_solid {word : Text} (solid : ∀ symbol ∈ word, symbol.isSpace = false)
    (rest : Text) :
    splitWords (word ++ rest) = (word ++ (splitWords rest).1, (splitWords rest).2) := by
  induction word with
  | nil => rfl
  | cons symbol word induction =>
    have later := induction fun other member => solid other (List.mem_cons_of_mem _ member)
    have first := solid symbol List.mem_cons_self
    simp [splitWords, later, first]

theorem words_of_solid {word : Text} (nonempty : word ≠ [])
    (solid : ∀ symbol ∈ word, symbol.isSpace = false) : words word = [word] := by
  have whole := split_words_solid solid []
  rw [List.append_nil] at whole
  simp [words, whole, splitWords, nonempty]

theorem split_words_blank (rest : Text) : splitWords (.char ' ' :: rest) = ([], rest.words) := by
  have blank : Symbol.isSpace (.char ' ') = true := by decide
  simp [splitWords, blank, words]

def spaced (list : List Text) : Text := list.flatMap fun word => .char ' ' :: word

theorem spaced_cons (word : Text) (list : List Text) :
    spaced (word :: list) = .char ' ' :: (word ++ spaced list) := rfl

theorem split_words_spaced {list : List Text} {tail : Text} (empty : splitWords tail = ([], []))
    (solid : ∀ word ∈ list, word ≠ [] ∧ word.IsWord) :
    splitWords (spaced list ++ tail) = ([], list) := by
  induction list with
  | nil => exact empty
  | cons word list induction =>
    have later := induction fun other member => solid other (List.mem_cons_of_mem _ member)
    obtain ⟨nonempty, isWord⟩ := solid word List.mem_cons_self
    rw [spaced_cons, List.cons_append, List.append_assoc, split_words_blank, words,
      split_words_solid isWord.solid, later]
    simp [nonempty]

theorem words_of_spaced {word tail : Text} {list : List Text} (nonempty : word ≠ [])
    (isWord : word.IsWord) (empty : splitWords tail = ([], []))
    (solid : ∀ other ∈ list, other ≠ [] ∧ other.IsWord) :
    words (word ++ (spaced list ++ tail)) = word :: list := by
  rw [words, split_words_solid isWord.solid, split_words_spaced empty solid]
  simp [nonempty]

theorem words_of_first {word rest : Text} (nonempty : word ≠ []) (isWord : word.IsWord)
    (ends : (splitWords rest).1 = []) : ∃ more, words (word ++ rest) = word :: more := by
  rw [words, split_words_solid isWord.solid, ends]
  simp [nonempty]

/-- What can stand behind a word: nothing, or a blank and more. -/
def EndsWord (rest : Text) : Prop := ∀ symbol ∈ rest.head?, symbol.isSpace = true

theorem ends_word_nil : EndsWord [] := fun _ first => nomatch first

theorem ends_word_of_blank {symbol : Symbol} (blank : symbol.isSpace = true) (more : Text) :
    EndsWord (symbol :: more) := by
  rintro _ ⟨⟩
  exact blank

theorem ends_word_trim_end {rest : Text} (ends : EndsWord rest) :
    EndsWord (trimEnd Symbol.isSpace rest) := by
  cases rest with
  | nil => exact ends_word_nil
  | cons symbol more =>
    have blank := ends symbol rfl
    cases trimmed : trimEnd Symbol.isSpace more with
    | nil => simp [trimEnd, trimmed, blank, ends_word_nil]
    | cons first others => simp [trimEnd, trimmed, ends_word_of_blank blank]

theorem upper_of_blank {symbol : Symbol} (blank : symbol.isSpace = true) (rest : Text) :
    upper (symbol :: rest) = symbol :: rest.upper := by
  rw [upper, List.flatMap_cons, (Symbol.of_blank blank).2.2]
  rfl

theorem ends_word_upper {rest : Text} (ends : EndsWord rest) : EndsWord rest.upper := by
  cases rest with
  | nil => exact ends_word_nil
  | cons symbol more =>
    rw [upper_of_blank (ends symbol rfl)]
    exact ends_word_of_blank (ends symbol rfl) _

inductive Separates : Text → List Text → Prop
  | nil : Separates [] []
  | blank {symbol : Symbol} {text : Text} {words : List Text} (blank : symbol.isSpace = true)
    (behind : Separates text words) : Separates (symbol :: text) words
  | word {word rest : Text} {words : List Text} (nonempty : word ≠ [])
    (solid : ∀ symbol ∈ word, symbol.isSpace = false) (ends : EndsWord rest)
    (behind : Separates rest words) : Separates (word ++ rest) (word :: words)

/-- Where a text begins inside a word, its words are the rest of that word and those behind it. -/
theorem separates_split_words (text : Text) :
    ∃ rest, text = (splitWords text).1 ++ rest ∧
      (∀ symbol ∈ (splitWords text).1, symbol.isSpace = false) ∧ EndsWord rest ∧
      Separates rest (splitWords text).2 := by
  induction text with
  | nil => exact ⟨[], rfl, fun _ member => (nomatch member), ends_word_nil, .nil⟩
  | cons symbol text induction =>
    obtain ⟨rest, whole, solid, ends, behind⟩ := induction
    cases blank : symbol.isSpace with
    | true =>
      simp only [splitWords, blank, if_true]
      refine ⟨symbol :: text, rfl, fun _ member => (nomatch member), ends_word_of_blank blank text,
        .blank blank ?_⟩
      split
      · rename_i none
        rw [none, List.nil_append] at whole
        exact whole ▸ behind
      · rename_i some
        have word := Separates.word some solid ends behind
        rwa [← whole] at word
    | false =>
      simp only [splitWords, blank, Bool.false_eq_true, if_false]
      exact ⟨rest, congrArg (symbol :: ·) whole, List.forall_mem_cons.mpr ⟨blank, solid⟩, ends, behind⟩

theorem separates_words (text : Text) : Separates text text.words := by
  obtain ⟨rest, whole, solid, ends, behind⟩ := separates_split_words text
  change Separates text (if (splitWords text).1 = [] then _ else (splitWords text).1 :: _)
  split
  · rename_i none
    rw [none, List.nil_append] at whole
    exact whole ▸ behind
  · rename_i some
    have word := Separates.word some solid ends behind
    rwa [← whole] at word

namespace Separates

variable {text : Text} {words : List Text}

theorem of_nil (separates : Separates [] words) : words = [] := by
  generalize empty : ([] : Text) = text at separates
  cases separates with
  | nil => rfl
  | blank => cases empty
  | word nonempty => exact absurd (List.append_eq_nil_iff.mp empty.symm).1 nonempty

theorem drop_blanks (separates : Separates text words) :
    Separates (text.dropWhile Symbol.isSpace) words := by
  induction separates with
  | nil => exact .nil
  | blank blank _ induction => rwa [List.dropWhile_cons_of_pos blank]
  | @word word rest words nonempty solid ends behind _ =>
    obtain ⟨first, others, rfl⟩ := List.exists_cons_of_ne_nil nonempty
    have opens := solid first List.mem_cons_self
    rw [List.cons_append, List.dropWhile_cons_of_neg (by simp [opens]), ← List.cons_append]
    exact .word nonempty solid ends behind

theorem trim_end (separates : Separates text words) :
    Separates (trimEnd Symbol.isSpace text) words := by
  induction separates with
  | nil => exact .nil
  | @blank symbol text words blank behind induction =>
    cases trimmed : trimEnd Symbol.isSpace text with
    | nil =>
      rw [trimmed] at induction
      rw [trimEnd, trimmed, of_nil induction]
      simp only [blank, if_true]
      exact .nil
    | cons first others =>
      rw [trimmed] at induction
      rw [trimEnd, trimmed]
      exact .blank blank induction
  | @word word rest words nonempty solid ends behind induction =>
    rw [trim_end_append (trim_end_solid solid)]
    exact .word nonempty solid (ends_word_trim_end ends) induction

theorem trim_nil (separates : Separates text []) : Text.trim text = [] := by
  generalize none : ([] : List Text) = words at separates
  induction separates with
  | nil => rfl
  | @blank symbol text words blank behind induction =>
    rw [Text.trim, List.dropWhile_cons_of_pos blank]
    exact induction none
  | word => cases none

theorem trim_opens {first : Text} (separates : Separates text (first :: words)) :
    ∃ rest, Text.trim text = first ++ rest ∧ EndsWord rest := by
  generalize some : first :: words = all at separates
  induction separates with
  | nil => cases some
  | @blank symbol text words blank behind induction =>
    rw [Text.trim, List.dropWhile_cons_of_pos blank]
    exact induction some
  | @word word rest words nonempty solid ends behind _ =>
    cases some
    obtain ⟨symbol, others, rfl⟩ := List.exists_cons_of_ne_nil nonempty
    have opens := solid symbol List.mem_cons_self
    refine ⟨trimEnd Symbol.isSpace rest, ?_, ends_word_trim_end ends⟩
    rw [Text.trim, List.cons_append, List.dropWhile_cons_of_neg (by simp [opens]), ← List.cons_append,
      trim_end_append (trim_end_solid solid)]

theorem trim (separates : Separates text words) : Separates (Text.trim text) words :=
  separates.drop_blanks.trim_end

theorem upper (separates : Separates text words)
    (solid : ∀ word ∈ words, word.upper ≠ [] ∧ ∀ symbol ∈ word.upper, symbol.isSpace = false) :
    Separates text.upper (words.map Text.upper) := by
  induction separates with
  | nil => exact .nil
  | @blank symbol text words blank behind induction =>
    rw [upper_of_blank blank]
    exact .blank blank (induction solid)
  | @word word rest words nonempty _ ends behind induction =>
    obtain ⟨here, later⟩ := List.forall_mem_cons.mp solid
    rw [upper_append]
    exact .word here.1 here.2 (ends_word_upper ends) (induction later)

end Separates

end Text

end PrintParts
