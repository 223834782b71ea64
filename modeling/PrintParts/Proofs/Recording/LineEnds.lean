import PrintParts.Print.Recorder
import PrintParts.Proofs.Outcome
import PrintParts.Proofs.Text.ByteLines
import PrintParts.Proofs.Text.Words

/-!
The ends of lines are not part of a program. A text without carriage returns is recorded in the same way
whether its lines end at newlines, at pairs or, in a file, at single carriage returns. No other symbol ends
a line, and no byte of another character is taken for an end.
-/

namespace PrintParts

def replaceEach {Member : Type} [DecidableEq Member] (old : Member) (new list : List Member) :
    List Member :=
  list.flatMap fun member => if member = old then new else [member]

section

variable {Member : Type} [DecidableEq Member] {old member : Member} {new list : List Member}

theorem replace_each_old : replaceEach old new (old :: list) = new ++ replaceEach old new list := by
  rw [replaceEach, List.flatMap_cons, if_pos rfl, replaceEach]

theorem replace_each_other (other : member ≠ old) :
    replaceEach old new (member :: list) = member :: replaceEach old new list := by
  rw [replaceEach, List.flatMap_cons, if_neg other, replaceEach, List.singleton_append]

theorem replace_each_append (front back : List Member) :
    replaceEach old new (front ++ back) = replaceEach old new front ++ replaceEach old new back :=
  List.flatMap_append

theorem replace_each_free (free : old ∉ list) : replaceEach old new list = list := by
  induction list with
  | nil => rfl
  | cons member list induction =>
    obtain ⟨first, others⟩ := not_or.mp (mt List.mem_cons.mpr free)
    rw [replace_each_other (Ne.symm first), induction others]

end

namespace Text

theorem chomp_cons {first second : Text} (same : first.chomp = second.chomp) (symbol : Symbol) :
    chomp (symbol :: first) = chomp (symbol :: second) := by
  rw [chomp, chomp, trimEnd, trimEnd, show trimEnd isLineEnd first = _ from same]
  rfl

theorem chomp_cons_to_first {first second : List Text} (same : first.map chomp = second.map chomp)
    (symbol : Symbol) : (consToFirst symbol first).map chomp = (consToFirst symbol second).map chomp := by
  cases first with
  | nil =>
    rw [List.map_eq_nil_iff.mp same.symm]
  | cons line lines =>
    cases second with
    | nil => cases same
    | cons other others =>
      obtain ⟨here, later⟩ := List.cons.inj same
      exact congrArg₂ List.cons (chomp_cons here symbol) later

theorem lines_of_pairs (text : Text) :
    (lines (replaceEach (.char '\n') [.char '\r', .char '\n'] text)).map chomp =
      (lines text).map chomp := by
  induction text with
  | nil => rfl
  | cons symbol text induction =>
    by_cases ends : symbol = .char '\n'
    · subst ends
      rw [replace_each_old]
      exact congrArg ([] :: ·) induction
    · rw [replace_each_other ends, lines, if_neg ends, lines, if_neg ends]
      exact chomp_cons_to_first induction symbol

theorem unify_symbol {symbol : Symbol} (other : symbol ≠ .char '\r') (text : Text) :
    unifyLineEnds (symbol :: text) = symbol :: text.unifyLineEnds := by
  rw [unifyLineEnds]
  · rintro _ same -
    exact other same
  · exact other

section

variable {text : Text}

theorem unify_newlines (free : .char '\r' ∉ text) : text.unifyLineEnds = text := by
  induction text with
  | nil => rfl
  | cons symbol text induction =>
    obtain ⟨first, others⟩ := not_or.mp (mt List.mem_cons.mpr free)
    rw [unify_symbol (Ne.symm first), induction others]

theorem unify_pairs (free : .char '\r' ∉ text) :
    unifyLineEnds (replaceEach (.char '\n') [.char '\r', .char '\n'] text) = text := by
  induction text with
  | nil => rfl
  | cons symbol text induction =>
    obtain ⟨first, others⟩ := not_or.mp (mt List.mem_cons.mpr free)
    by_cases ends : symbol = .char '\n'
    · subst ends
      rw [replace_each_old, List.cons_append, List.cons_append, unifyLineEnds]
      exact congrArg (.char '\n' :: ·) (induction others)
    · rw [replace_each_other ends, unify_symbol (Ne.symm first), induction others]

theorem unify_returns (free : .char '\r' ∉ text) :
    unifyLineEnds (replaceEach (.char '\n') [.char '\r'] text) = text := by
  induction text with
  | nil => rfl
  | cons symbol text induction =>
    obtain ⟨first, others⟩ := not_or.mp (mt List.mem_cons.mpr free)
    by_cases ends : symbol = .char '\n'
    · subst ends
      have noNewline : ∀ rest, replaceEach (.char '\n') [.char '\r'] text ≠ .char '\n' :: rest := by
        intro rest same
        have member : .char '\n' ∈ replaceEach (.char '\n') [.char '\r'] text := by simp [same]
        obtain ⟨origin, -, made⟩ := List.mem_flatMap.mp member
        split at made <;> simp_all
      rw [replace_each_old, List.singleton_append, unify_return noNewline, induction others]
    · rw [replace_each_other ends, unify_symbol (Ne.symm first), induction others]

end

/-- A newline is no part of another character. -/
theorem newline_of_mem_encoding {character : Char} (member : 10 ∈ String.utf8EncodeChar character) :
    character = '\n' := by
  have newline : String.utf8EncodeChar '\n' = [10] := by decide
  obtain ⟨front, rest, whole⟩ := List.append_of_mem member
  by_cases first : front = []
  · have leads := leadingChar?_encode_append '\n' rest
    have same := leadingChar?_encode_append character []
    rw [List.append_nil, whole, first, List.nil_append] at same
    rw [newline, List.singleton_append, same] at leads
    exact Option.some.inj leads
  · have inside := encoding_in_front newline (whole ▸ List.prefix_refl _ :
      String.utf8EncodeChar character <+: front ++ 10 :: rest) first
    have short := inside.length_le
    rw [whole, List.length_append, List.length_cons] at short
    omega

theorem replace_newline_bytes (new : Text) (chars : List Char) :
    replaceEach 10 new.encode (encode (ofChars chars)) =
      encode (replaceEach (.char '\n') new (ofChars chars)) := by
  induction chars with
  | nil => rfl
  | cons character chars induction =>
    have whole : encode (ofChars (character :: chars)) =
        String.utf8EncodeChar character ++ encode (ofChars chars) := rfl
    have split : ofChars (character :: chars) = .char character :: ofChars chars := rfl
    rw [whole, split, replace_each_append, induction]
    by_cases ends : character = '\n'
    · subst ends
      rw [replace_each_old, encode_append, show String.utf8EncodeChar '\n' = [10] by decide,
        replace_each_old]
      simp [replaceEach]
    · have free : 10 ∉ String.utf8EncodeChar character := fun member =>
        ends (newline_of_mem_encoding member)
      have other : Symbol.char character ≠ .char '\n' := fun same => ends (Symbol.char.inj same)
      rw [replace_each_free free, replace_each_other other]
      rfl

end Text

namespace Print

/-- A text without carriage returns is recorded in the same way with pairs for its newlines, and so is
a file that holds it with newlines, pairs or carriage returns. -/
theorem recorded_with_any_line_ends (policy : OverridePolicy) {chars : List Char}
    (noReturn : '\r' ∉ chars) :
    let text := Text.ofChars chars
    ofText policy (replaceEach (.char '\n') [.char '\r', .char '\n'] text) = ofText policy text ∧
    ofBytes policy text.encode = ofText policy text ∧
    ofBytes policy (replaceEach 10 [13, 10] text.encode) = ofText policy text ∧
    ofBytes policy (replaceEach 10 [13] text.encode) = ofText policy text := by
  intro text
  have free : .char '\r' ∉ text := by
    intro member
    obtain ⟨character, listed, same⟩ := List.mem_map.mp member
    exact noReturn (Symbol.char.inj same ▸ listed)
  have read : ∀ written : List Char, Text.unifyLineEnds (Text.ofChars written) = text →
      ofBytes policy (Text.ofChars written).encode = ofText policy text := by
    intro written unified
    rw [ofBytes, Text.decode_encode_ofChars, unified, ofText]
  have chars_of_replaced : ∀ new : List Char, replaceEach (.char '\n') (Text.ofChars new) text =
      Text.ofChars (replaceEach '\n' new chars) := by
    intro new
    simp only [replaceEach, text, Text.ofChars, List.flatMap_map, List.map_flatMap]
    congr 1
    funext character
    by_cases ends : character = '\n' <;> simp [ends]
  refine ⟨?_, read chars (Text.unify_newlines free), ?_, ?_⟩
  · rw [ofText, ofLines, Text.lines_of_pairs, ofText, ofLines]
  · rw [show [13, 10] = Text.encode (Text.ofChars ['\r', '\n']) by decide, Text.replace_newline_bytes,
      chars_of_replaced]
    exact read _ (by rw [← chars_of_replaced]; exact Text.unify_pairs free)
  · rw [show [13] = Text.encode (Text.ofChars ['\r']) by decide, Text.replace_newline_bytes,
      chars_of_replaced]
    exact read _ (by rw [← chars_of_replaced]; exact Text.unify_returns free)

def separatorProgram : List Char :=
  (";LAYER_COUNT:1\nM104 S210 ;\u2028 G7\u0085 \x0b\x0c\nG92 E0\n\nG0 X40 Y40 Z0.2\u2029\n" ++
    ";LAYER:0\nG1\x1cX60 E1\n;-- end code begin --").toList

theorem separators_recorded_with_any_line_ends :
    ∃ print, ofText .reject (Text.ofChars separatorProgram) = .ok print ∧ print.lineCount = 8 ∧
      ofBytes .reject (replaceEach 10 [13, 10] (Text.ofChars separatorProgram).encode) = .ok print ∧
      ofBytes .reject (replaceEach 10 [13] (Text.ofChars separatorProgram).encode) = .ok print := by
  have records : succeedsWith (fun print : Print => decide (print.lineCount = 8))
      (ofText .reject (Text.ofChars separatorProgram)) = true := by decide +kernel
  obtain ⟨print, recorded, counted⟩ := exists_of_succeeds_with records
  obtain ⟨-, -, pairs, returns⟩ :=
    recorded_with_any_line_ends .reject (show '\r' ∉ separatorProgram by decide +kernel)
  exact ⟨print, recorded, of_decide_eq_true counted, pairs.trans recorded, returns.trans recorded⟩

end Print

end PrintParts
