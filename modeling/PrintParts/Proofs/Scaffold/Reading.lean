import PrintParts.Gcode.Command
import PrintParts.Proofs.Text.Words
import PrintParts.Scaffold.Line

/-!
Scaffold lines read back. The line of a command with plain fields is read as that command; what stands
in the fields makes no difference to the mnemonic.
-/

namespace PrintParts

/-- A mnemonic or a letter that is kept as it is when it is read. -/
structure IsMnemonic (mnemonic : Text) : Prop where
  nonempty : mnemonic ≠ []
  isWord : mnemonic.IsWord
  capital : mnemonic.upper = mnemonic

/-- A field that is read back: one capital letter, and a text that is one word. -/
structure Field.Plain (field : Field) : Prop where
  single : ∃ letter, field.letter = [letter]
  letter : IsMnemonic field.letter
  text : field.text.IsWord

namespace Field

def word (field : Field) : Text := field.letter ++ field.text

theorem word_of_plain {field : Field} (plain : field.Plain) :
    field.word ≠ [] ∧ field.word.IsWord ∧ ofWord field.word = field := by
  obtain ⟨letters, text⟩ := field
  obtain ⟨letter, single⟩ := plain.single
  cases single
  have mnemonic : IsMnemonic [letter] := plain.letter
  refine ⟨by simp [word], ⟨?_, ?_⟩, ?_⟩
  · intro symbol member
    rcases List.mem_append.mp member with first | later
    · exact mnemonic.isWord.solid symbol first
    · exact plain.text.solid symbol later
  · intro member
    rcases List.mem_append.mp member with first | later
    · exact mnemonic.isWord.uncommented first
    · exact plain.text.uncommented later
  · have capital : Symbol.upper letter = [letter] := by
      simpa [Text.upper] using mnemonic.capital
    simp [word, ofWord, capital]

end Field

namespace Scaffold

namespace Line

/-- A line that is read back as the command that it stands for. -/
def Plain : Line → Prop
  | .code mnemonic fields _ => IsMnemonic mnemonic ∧ ∀ field ∈ fields, field.Plain
  | _ => True

def Named : Line → Prop
  | .code mnemonic _ _ => IsMnemonic mnemonic
  | _ => True

def noteText : Option Text → Text
  | some note => .char ' ' :: .char ';' :: note
  | none => []

theorem to_text_code (mnemonic : Text) (fields : List Field) (note : Option Text) :
    (code mnemonic fields note).toText =
      mnemonic ++ (Text.spaced (fields.map Field.word) ++ noteText note) := by
  have fieldText : Text.spaced (fields.map Field.word) =
      fields.flatMap fun field => .char ' ' :: (field.letter ++ field.text) := by
    rw [Text.spaced, List.flatMap_map]
    rfl
  rw [fieldText]
  cases note with
  | none => simp [toText, noteText]
  | some note => simp [toText, noteText]

theorem before_note (note : Option Text) :
    Text.splitWords ((noteText note).before ';') = ([], []) := by
  cases note with
  | none => rfl
  | some note =>
    rw [show (noteText (some note)).before ';' = [.char ' '] by simp [noteText, Text.before],
      Text.split_words_blank]
    rfl

theorem after_note (note : Option Text) : (noteText note).after? ';' = note := by
  cases note with
  | none => rfl
  | some note => simp [noteText, Text.after?]

theorem spaced_uncommented {list : List Text} (words : ∀ word ∈ list, word.IsWord) :
    .char ';' ∉ Text.spaced list := by
  intro member
  obtain ⟨word, inList, inWord⟩ := List.mem_flatMap.mp member
  rcases List.mem_cons.mp inWord with blank | inside
  · exact absurd blank (by decide)
  · exact (words word inList).uncommented inside

theorem of_line_to_text {line : Line} (plain : line.Plain) :
    Command.ofLine line.toText = line.command := by
  cases line with
  | blank => rfl
  | remark text =>
    simp [Command.ofLine, toText, command, Text.after?, Text.before, Text.words, Text.splitWords,
      Command.ofWords]
  | code mnemonic fields note =>
    obtain ⟨isMnemonic, plainFields⟩ := plain
    have words : ∀ word ∈ fields.map Field.word, word ≠ [] ∧ word.IsWord := by
      intro word member
      obtain ⟨field, inFields, rfl⟩ := List.mem_map.mp member
      exact ⟨(Field.word_of_plain (plainFields field inFields)).1,
        (Field.word_of_plain (plainFields field inFields)).2.1⟩
    have uncommented := spaced_uncommented fun word member => (words word member).2
    have read : fields.map (Field.ofWord ∘ Field.word) = fields :=
      (List.map_congr_left fun field member =>
        (Field.word_of_plain (plainFields field member)).2.2).trans (List.map_id _)
    rw [to_text_code, Command.ofLine, Text.after_append isMnemonic.isWord.uncommented,
      Text.after_append uncommented, after_note, Text.before_append isMnemonic.isWord.uncommented,
      Text.before_append uncommented,
      Text.words_of_spaced isMnemonic.nonempty isMnemonic.isWord (before_note note) words]
    simp only [Command.ofWords, isMnemonic.capital, List.map_map, read, command]

theorem mnemonic_of_line_to_text {line : Line} (named : line.Named) :
    (Command.ofLine line.toText).mnemonic = line.command.mnemonic := by
  cases line with
  | blank => rfl
  | remark text => rfl
  | code mnemonic fields note =>
    obtain ⟨rest, same, blank⟩ : ∃ rest, (code mnemonic fields note).toText = mnemonic ++ rest ∧
        (rest = [] ∨ ∃ more, rest = .char ' ' :: more) := by
      refine ⟨_, to_text_code mnemonic fields note, ?_⟩
      cases fields with
      | cons field fields => exact .inr ⟨_, rfl⟩
      | nil =>
        cases note with
        | none => exact .inl rfl
        | some note => exact .inr ⟨_, rfl⟩
    have ends : (Text.splitWords (rest.before ';')).1 = [] := by
      rcases blank with rfl | ⟨more, rfl⟩
      · rfl
      · rw [Text.before, if_neg (by decide), Text.split_words_blank]
    obtain ⟨more, words⟩ := Text.words_of_first named.nonempty named.isWord ends
    rw [same, Command.ofLine, Text.before_append named.isWord.uncommented, words]
    exact named.capital

end Line

end Scaffold

end PrintParts
