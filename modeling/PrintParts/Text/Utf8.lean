import PrintParts.Text.Basic

/-!
Text as bytes. Reading takes a well-formed UTF-8 character wherever one stands and a single raw byte
everywhere else, so every byte string is some text; writing gives back exactly the bytes that were
read. A half of a pair has no bytes, so a text that holds one cannot be written as a whole.
-/

namespace PrintParts

/-- The well-formed UTF-8 character at the beginning, if there is one. -/
def leadingChar? (bytes : List UInt8) : Option Char := (bytes.take 4).toByteArray.utf8DecodeChar? 0

/-- Reads the bytes behind the first `skipped` ones. -/
def decodeFrom : Nat → List UInt8 → Text
  | _, [] => []
  | skipped + 1, _ :: rest => decodeFrom skipped rest
  | 0, byte :: rest =>
    match leadingChar? (byte :: rest) with
    | some character => .char character :: decodeFrom (character.utf8Size - 1) rest
    | none => .raw byte :: decodeFrom 0 rest

def Text.decode (bytes : List UInt8) : Text := decodeFrom 0 bytes

def Symbol.encode : Symbol → List UInt8
  | .char character => String.utf8EncodeChar character
  | .raw byte => [byte]
  | .half _ => []

def Text.encode (text : Text) : List UInt8 := text.flatMap Symbol.encode

/-- Symbols that cannot be written: where they begin and end in a text, and the first of them. -/
structure UnwritableRun where
  start : Nat
  stop : Nat
  unit : UInt16
  deriving DecidableEq

/-- The first half of a pair in a text, together with what follows it up to the next character;
the text stands behind `before` other symbols. -/
def unwritableFrom? (before : Nat) : Text → Option UnwritableRun
  | [] => none
  | .half unit :: rest =>
    let run := rest.takeWhile fun symbol => symbol.isRaw || symbol.isHalf
    some ⟨before, before + 1 + run.length, unit⟩
  | _ :: rest => unwritableFrom? (before + 1) rest

def Text.unwritable? (text : Text) : Option UnwritableRun := unwritableFrom? 0 text

def Text.isWritable (text : Text) : Bool := text.unwritable?.isNone

theorem unwritableFrom?_eq_none_iff {before : Nat} {text : Text} :
    unwritableFrom? before text = none ↔ ∀ unit, .half unit ∉ text := by
  induction text generalizing before with
  | nil => simp [unwritableFrom?]
  | cons symbol text induction =>
    cases symbol with
    | half unit =>
      simp only [unwritableFrom?, reduceCtorEq, false_iff]
      intro free
      exact free unit List.mem_cons_self
    | char character => simp [unwritableFrom?, induction]
    | raw byte => simp [unwritableFrom?, induction]

theorem Text.encode_append (left right : Text) :
    Text.encode (left ++ right) = Text.encode left ++ Text.encode right := by
  simp [Text.encode]

theorem eq_encode_append_of_leadingChar? {bytes : List UInt8} {character : Char}
    (found : leadingChar? bytes = some character) :
    bytes = String.utf8EncodeChar character ++ bytes.drop character.utf8Size := by
  have whole := congrArg (fun array => array.data.toList)
    (ByteArray.eq_of_utf8DecodeChar?_eq_some found)
  simp only [List.data_toByteArray, ByteArray.data_append, Array.toList_append] at whole
  generalize (ByteArray.extract _ _ _).data.toList = rest at whole
  have split : bytes = String.utf8EncodeChar character ++ (rest ++ bytes.drop 4) := by
    rw [← List.append_assoc, ← whole, List.take_append_drop]
  have size := String.length_utf8EncodeChar character
  calc bytes = String.utf8EncodeChar character ++ (rest ++ bytes.drop 4) := split
    _ = String.utf8EncodeChar character ++ bytes.drop character.utf8Size := by
      congr 1
      rw [← size]
      conv => rhs; rw [split]
      rw [List.drop_left]

theorem leadingChar?_encode_append (character : Char) (rest : List UInt8) :
    leadingChar? (String.utf8EncodeChar character ++ rest) = some character := by
  have size : (String.utf8EncodeChar character).length ≤ 4 := by
    rw [String.length_utf8EncodeChar]
    exact Char.utf8Size_le_four character
  rw [leadingChar?, List.take_append, List.take_of_length_le size, List.toByteArray_append]
  exact ByteArray.utf8DecodeChar?_utf8EncodeChar_append

theorem decodeFrom_eq_drop (skipped : Nat) (bytes : List UInt8) :
    decodeFrom skipped bytes = Text.decode (bytes.drop skipped) := by
  induction bytes generalizing skipped with
  | nil => cases skipped <;> simp [decodeFrom, Text.decode]
  | cons byte rest induction =>
    cases skipped with
    | zero => rfl
    | succ skipped => simpa [decodeFrom] using induction skipped

theorem Text.decode_char_append (character : Char) (bytes : List UInt8) :
    Text.decode (String.utf8EncodeChar character ++ bytes) = .char character :: Text.decode bytes := by
  have size := String.length_utf8EncodeChar character
  have positive := Char.utf8Size_pos character
  cases whole : String.utf8EncodeChar character ++ bytes with
  | nil =>
    have := congrArg List.length whole
    simp only [List.length_append, List.length_nil] at this
    omega
  | cons byte rest =>
    have found := leadingChar?_encode_append character bytes
    rw [whole] at found
    have skip : rest.drop (character.utf8Size - 1) = bytes := by
      have dropped := congrArg (List.drop character.utf8Size) whole
      rw [← size, List.drop_left, size] at dropped
      rw [dropped]
      conv => rhs; rw [← Nat.sub_add_cancel positive]
      rfl
    simp only [Text.decode, decodeFrom, found]
    rw [decodeFrom_eq_drop, skip]
    rfl

theorem Text.decode_raw_cons {byte : UInt8} {rest : List UInt8}
    (none : leadingChar? (byte :: rest) = none) :
    Text.decode (byte :: rest) = .raw byte :: Text.decode rest := by
  simp only [Text.decode, decodeFrom, none]

/-- Bytes are read character by character, or a single byte at a time. -/
theorem decode_induction {motive : List UInt8 → Prop} (nil : motive [])
    (char : ∀ character rest, motive rest → motive (String.utf8EncodeChar character ++ rest))
    (raw : ∀ byte rest, leadingChar? (byte :: rest) = none → motive rest → motive (byte :: rest))
    (bytes : List UInt8) : motive bytes := by
  induction length : bytes.length using Nat.strongRecOn generalizing bytes with
  | ind size induction =>
    subst length
    cases bytes with
    | nil => exact nil
    | cons byte rest =>
      cases found : leadingChar? (byte :: rest) with
      | none => exact raw byte rest found (induction rest.length (by simp) rest rfl)
      | some character =>
        have positive := Char.utf8Size_pos character
        have shorter : ((byte :: rest).drop character.utf8Size).length < (byte :: rest).length := by
          simp only [List.length_drop, List.length_cons]
          omega
        rw [eq_encode_append_of_leadingChar? found]
        exact char character _ (induction _ shorter _ rfl)

theorem Text.encode_decode (bytes : List UInt8) : Text.encode (Text.decode bytes) = bytes := by
  induction bytes using decode_induction with
  | nil => rfl
  | char character rest induction =>
    rw [decode_char_append]
    calc Text.encode (.char character :: Text.decode rest)
        _ = String.utf8EncodeChar character ++ Text.encode (Text.decode rest) := rfl
        _ = String.utf8EncodeChar character ++ rest := by rw [induction]
  | raw byte rest none induction =>
    rw [decode_raw_cons none]
    calc Text.encode (.raw byte :: Text.decode rest)
        _ = byte :: Text.encode (Text.decode rest) := rfl
        _ = byte :: rest := by rw [induction]

theorem Text.decode_encode_ofChars (chars : List Char) :
    Text.decode (Text.encode (Text.ofChars chars)) = Text.ofChars chars := by
  induction chars with
  | nil => rfl
  | cons character chars induction =>
    calc Text.decode (Text.encode (Text.ofChars (character :: chars)))
        _ = Text.decode (String.utf8EncodeChar character ++ Text.encode (Text.ofChars chars)) := rfl
        _ = .char character :: Text.ofChars chars := by rw [decode_char_append, induction]

end PrintParts
