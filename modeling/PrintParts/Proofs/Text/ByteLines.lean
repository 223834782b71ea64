import PrintParts.Text.Lines
import PrintParts.Text.Utf8

/-!
The lines of a file, byte by byte. A line end cuts the bytes of a file where it cuts the text that they
are read as, because no byte of a line end is part of a longer character, however malformed the bytes
around it are.
-/

namespace PrintParts

def byteToFirst (byte : UInt8) : List (List UInt8) → List (List UInt8)
  | [] => [[byte]]
  | line :: lines => (byte :: line) :: lines

/-- The lines of some bytes. A newline, a carriage return, and both in this order end a line. -/
def byteLines : List UInt8 → List (List UInt8)
  | [] => []
  | 13 :: 10 :: rest => [] :: byteLines rest
  | byte :: rest => if byte = 13 ∨ byte = 10 then [] :: byteLines rest else byteToFirst byte (byteLines rest)

def IsLineFree (bytes : List UInt8) : Prop := ∀ byte ∈ bytes, byte ≠ 13 ∧ byte ≠ 10

section

variable {front rest : List UInt8} {byte : UInt8} {character : Char}

theorem encoding_in_front {other : Char} (single : String.utf8EncodeChar character = [byte])
    (begins : String.utf8EncodeChar other <+: front ++ byte :: rest) (some : front ≠ []) :
    String.utf8EncodeChar other <+: front := by
  by_cases short : (String.utf8EncodeChar other).length ≤ front.length
  · exact List.prefix_of_prefix_length_le begins (List.prefix_append front _) short
  · have inside := Nat.not_le.mp short
    have there : (String.utf8EncodeChar other)[front.length] = byte := by
      rw [begins.getElem inside, List.getElem_append_right (Nat.le_refl _)]
      simp
    have first : byte.IsUTF8FirstByte := by
      have bound : 0 < (String.utf8EncodeChar character).length := by simp [single]
      have leads : (String.utf8EncodeChar character)[0].IsUTF8FirstByte :=
        UInt8.isUTF8FirstByte_getElem_utf8EncodeChar.mpr rfl
      simpa [single] using leads
    rw [← there, UInt8.isUTF8FirstByte_getElem_utf8EncodeChar] at first
    exact absurd (List.length_eq_zero_iff.mp first) some

theorem decode_around (single : String.utf8EncodeChar character = [byte]) (front : List UInt8)
    (rest : List UInt8) :
    Text.decode (front ++ byte :: rest) = Text.decode front ++ .char character :: Text.decode rest := by
  induction front using decode_induction with
  | nil =>
    rw [List.nil_append, show byte :: rest = String.utf8EncodeChar character ++ rest by rw [single]; rfl,
      Text.decode_char_append]
    rfl
  | char other front induction =>
    rw [List.append_assoc, Text.decode_char_append, induction, Text.decode_char_append]
    rfl
  | raw first front none induction =>
    have still : leadingChar? (first :: (front ++ byte :: rest)) = Option.none := by
      apply Option.eq_none_iff_forall_ne_some.mpr
      intro other found
      have begins : String.utf8EncodeChar other <+: first :: front ++ byte :: rest :=
        ⟨_, (eq_encode_append_of_leadingChar? found).symm⟩
      obtain ⟨behind, whole⟩ := encoding_in_front single begins (List.cons_ne_nil first front)
      rw [← whole, leadingChar?_encode_append] at none
      cases none
    rw [List.cons_append, Text.decode_raw_cons still, induction, Text.decode_raw_cons none]
    rfl

theorem decode_newline (front rest : List UInt8) :
    Text.decode (front ++ 10 :: rest) = Text.decode front ++ .char '\n' :: Text.decode rest :=
  decode_around (show String.utf8EncodeChar '\n' = [10] by decide) front rest

theorem decode_return (front rest : List UInt8) :
    Text.decode (front ++ 13 :: rest) = Text.decode front ++ .char '\r' :: Text.decode rest :=
  decode_around (show String.utf8EncodeChar '\r' = [13] by decide) front rest

end

section

variable {line rest : List UInt8}

theorem first_line (bytes : List UInt8) : IsLineFree bytes ∨ ∃ line byte rest,
    IsLineFree line ∧ (byte = 13 ∨ byte = 10) ∧ bytes = line ++ byte :: rest := by
  induction bytes with
  | nil => exact .inl fun _ member => nomatch member
  | cons byte bytes induction =>
    by_cases ends : byte = 13 ∨ byte = 10
    · exact .inr ⟨[], byte, bytes, (fun _ member => nomatch member), ends, rfl⟩
    · have inLine : byte ≠ 13 ∧ byte ≠ 10 := not_or.mp ends
      rcases induction with free | ⟨line, other, rest, free, ends, rfl⟩
      · exact .inl (List.forall_mem_cons.mpr ⟨inLine, free⟩)
      · exact .inr ⟨byte :: line, other, rest, List.forall_mem_cons.mpr ⟨inLine, free⟩, ends, rfl⟩

/-- Bytes consist of lines, each with one of the three line ends behind it, and a last line without. -/
theorem line_induction {motive : List UInt8 → Prop} (last : ∀ line, IsLineFree line → motive line)
    (newline : ∀ line rest, IsLineFree line → motive rest → motive (line ++ 10 :: rest))
    (pair : ∀ line rest, IsLineFree line → motive rest → motive (line ++ 13 :: 10 :: rest))
    (alone : ∀ line rest, IsLineFree line → rest.head? ≠ some 10 → motive rest →
      motive (line ++ 13 :: rest))
    (bytes : List UInt8) : motive bytes := by
  induction length : bytes.length using Nat.strongRecOn generalizing bytes with
  | ind size induction =>
    subst length
    rcases first_line bytes with free | ⟨line, byte, rest, free, ends, rfl⟩
    · exact last bytes free
    · rw [List.length_append, List.length_cons] at induction
      rcases ends with rfl | rfl
      · by_cases pairs : rest.head? = some 10
        · obtain ⟨behind, rfl⟩ := List.head?_eq_some_iff.mp pairs
          rw [List.length_cons] at induction
          exact pair line behind free (induction behind.length (by omega) behind rfl)
        · exact alone line rest free pairs (induction rest.length (by omega) rest rfl)
      · exact newline line rest free (induction rest.length (by omega) rest rfl)

theorem byte_lines_append {tail : List UInt8} {others : List (List UInt8)} (free : IsLineFree line)
    (ends : byteLines tail = [] :: others) : byteLines (line ++ tail) = line :: others := by
  induction line with
  | nil => exact ends
  | cons byte line induction =>
    obtain ⟨⟨noReturn, noNewline⟩, freeRest⟩ := List.forall_mem_cons.mp free
    have step : byteLines (byte :: (line ++ tail)) = byteToFirst byte (byteLines (line ++ tail)) := by
      simp [byteLines, noReturn, noNewline]
    rw [List.cons_append, step, induction freeRest]
    rfl

theorem byte_lines_last (free : IsLineFree line) :
    byteLines line = if line = [] then [] else [line] := by
  induction line with
  | nil => rfl
  | cons byte line induction =>
    obtain ⟨⟨noReturn, noNewline⟩, freeRest⟩ := List.forall_mem_cons.mp free
    have step : byteLines (byte :: line) = byteToFirst byte (byteLines line) := by
      simp [byteLines, noReturn, noNewline]
    rw [step, induction freeRest, if_neg (List.cons_ne_nil byte line)]
    by_cases empty : line = []
    · rw [if_pos empty, empty]
      rfl
    · rw [if_neg empty]
      rfl

theorem byte_lines_newline (rest : List UInt8) : byteLines (10 :: rest) = [] :: byteLines rest := by
  simp [byteLines]

theorem byte_lines_pair (rest : List UInt8) : byteLines (13 :: 10 :: rest) = [] :: byteLines rest := by
  rw [byteLines]

theorem byte_lines_alone (other : rest.head? ≠ some 10) :
    byteLines (13 :: rest) = [] :: byteLines rest := by
  cases rest with
  | nil => rfl
  | cons byte rest =>
    have noNewline : byte ≠ 10 := fun same => other (congrArg some same)
    rw [byteLines]
    · rw [if_pos (.inl rfl)]
    · intro _ _ same
      cases same
      exact noNewline rfl

theorem line_free_of_mem_byte_lines {bytes : List UInt8} :
    ∀ line ∈ byteLines bytes, IsLineFree line := by
  induction bytes using line_induction with
  | last line free =>
    rw [byte_lines_last free]
    by_cases empty : line = []
    · rw [if_pos empty]
      exact fun _ member => nomatch member
    · rw [if_neg empty]
      exact List.forall_mem_singleton.mpr free
  | newline line rest free induction =>
    rw [byte_lines_append free (byte_lines_newline rest)]
    exact List.forall_mem_cons.mpr ⟨free, induction⟩
  | pair line rest free induction =>
    rw [byte_lines_append free (byte_lines_pair rest)]
    exact List.forall_mem_cons.mpr ⟨free, induction⟩
  | alone line rest free other induction =>
    rw [byte_lines_append free (byte_lines_alone other)]
    exact List.forall_mem_cons.mpr ⟨free, induction⟩

end

namespace Text

theorem encoding_of_mem {symbol : Symbol} {bytes : List UInt8} (member : symbol ∈ decode bytes) :
    ∀ byte ∈ symbol.encode, byte ∈ bytes := by
  intro byte part
  rw [← encode_decode bytes]
  exact List.mem_flatMap.mpr ⟨symbol, member, part⟩

theorem decode_line_free {line : List UInt8} (free : IsLineFree line) :
    ∀ symbol ∈ decode line, isLineEnd symbol = false := by
  intro symbol member
  have parts := encoding_of_mem member
  apply decide_eq_false
  rintro (rfl | rfl)
  · exact (free 13 (parts 13 (by decide))).1 rfl
  · exact (free 10 (parts 10 (by decide))).2 rfl

theorem decode_eq_nil {bytes : List UInt8} : decode bytes = [] ↔ bytes = [] := by
  constructor
  · intro empty
    rw [← encode_decode bytes, empty]
    rfl
  · rintro rfl
    rfl

theorem chomp_line_free {text : Text} (free : ∀ symbol ∈ text, isLineEnd symbol = false) :
    text.chomp = text := by
  rcases List.eq_nil_or_concat text with rfl | ⟨front, last, rfl⟩
  · rfl
  · rw [List.concat_eq_append] at free ⊢
    exact trimEnd_append_singleton front (free last (by simp))

theorem no_newline {text : Text} (free : ∀ symbol ∈ text, isLineEnd symbol = false) :
    .char '\n' ∉ text := fun member => Bool.noConfusion (free (.char '\n') member)

theorem unify_append {text : Text} (free : ∀ symbol ∈ text, isLineEnd symbol = false) (rest : Text) :
    (text ++ rest).unifyLineEnds = text ++ rest.unifyLineEnds := by
  induction text with
  | nil => rfl
  | cons symbol text induction =>
    obtain ⟨first, others⟩ := List.forall_mem_cons.mp free
    have noReturn : symbol ≠ .char '\r' := by
      rintro rfl
      cases first
    rw [List.cons_append, unifyLineEnds, induction others, List.cons_append]
    · rintro _ same -
      exact noReturn same
    · exact noReturn

theorem unify_return {text : Text} (other : ∀ rest, text ≠ .char '\n' :: rest) :
    unifyLineEnds (.char '\r' :: text) = .char '\n' :: text.unifyLineEnds := by
  rw [unifyLineEnds]
  intro rest same
  exact other rest same

theorem lines_of_line {text : Text} (free : .char '\n' ∉ text) :
    text.lines = if text = [] then [] else [text] := by
  induction text with
  | nil => rfl
  | cons symbol text induction =>
    obtain ⟨first, others⟩ := not_or.mp (mt List.mem_cons.mpr free)
    rw [lines, if_neg (Ne.symm first), induction others, if_neg (List.cons_ne_nil symbol text)]
    by_cases empty : text = []
    · rw [if_pos empty, empty]
      rfl
    · rw [if_neg empty]
      rfl

theorem lines_of_decode (bytes : List UInt8) :
    (decode bytes).unifyLineEnds.lines = (byteLines bytes).map decode := by
  induction bytes using line_induction with
  | last line free =>
    have textFree := decode_line_free free
    have whole := unify_append textFree []
    rw [List.append_nil] at whole
    rw [whole, show unifyLineEnds [] = [] from rfl, List.append_nil, lines_of_line (no_newline textFree),
      byte_lines_last free]
    by_cases empty : line = []
    · rw [if_pos empty, if_pos (decode_eq_nil.mpr empty)]
      rfl
    · rw [if_neg empty, if_neg (mt decode_eq_nil.mp empty)]
      rfl
  | newline line rest free induction =>
    have textFree := decode_line_free free
    rw [decode_newline, unify_append textFree]
    rw [show unifyLineEnds (.char '\n' :: decode rest) = .char '\n' :: (decode rest).unifyLineEnds by
        rw [unifyLineEnds] <;> simp,
      lines_append_newline (no_newline textFree), induction,
      byte_lines_append free (byte_lines_newline rest)]
    rfl
  | pair line rest free induction =>
    have textFree := decode_line_free free
    rw [decode_return, unify_append textFree]
    have next := decode_newline [] rest
    rw [List.nil_append] at next
    rw [next, show decode [] = [] from rfl, List.nil_append, unifyLineEnds,
      lines_append_newline (no_newline textFree), induction,
      byte_lines_append free (byte_lines_pair rest)]
    rfl
  | alone line rest free other induction =>
    have textFree := decode_line_free free
    have different : ∀ behind, decode rest ≠ .char '\n' :: behind := by
      intro behind same
      apply other
      rw [← encode_decode rest, same]
      rfl
    rw [decode_return, unify_append textFree, unify_return different,
      lines_append_newline (no_newline textFree), induction,
      byte_lines_append free (byte_lines_alone other)]
    rfl

end Text

end PrintParts
