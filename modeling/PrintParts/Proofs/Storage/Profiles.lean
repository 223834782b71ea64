import PrintParts.Proofs.Job.Gathering
import PrintParts.Proofs.Number.Monotone

/-!
Listing the profiles of a folder and loading one of them by its name. The names that are listed are those of the
entries with the extension, whatever the entries are, while a profile is only loaded from a file. A name that is
too long is no reason for a profile to be missing, even where it is not listed.
-/

namespace PrintParts

namespace Text

/-- A text that can stand in a path. -/
def IsPassable (text : Text) : Prop := (∀ unit, .half unit ∉ text) ∧ .char '\x00' ∉ text

theorem passable_append {left right : Text} :
    (left ++ right).IsPassable ↔ left.IsPassable ∧ right.IsPassable := by
  simp only [IsPassable, List.mem_append, not_or, forall_and]
  tauto

/-- A name that an entry of a folder can have. -/
def IsStorable (name : Text) : Prop := name.IsPassable ∧ name.encode.length < stepLimit

theorem join_concat (separator : Text) (texts : List Text) (last : Text) :
    join separator (texts ++ [last]) =
      if texts = [] then last else join separator texts ++ separator ++ last := by
  induction texts with
  | nil => rfl
  | cons text texts induction =>
    cases texts with
    | nil => rfl
    | cons next texts =>
      rw [if_neg (List.cons_ne_nil _ _)] at induction ⊢
      show text ++ separator ++ join separator (next :: texts ++ [last]) = _
      rw [induction]
      simp only [join, List.append_assoc]

end Text

namespace Path

theorem pieces_of_slashless {text : Text} (slashless : .char '/' ∉ text) : pieces text = [text] := by
  induction text with
  | nil => rfl
  | cons symbol text induction =>
    rw [List.mem_cons, not_or] at slashless
    rw [pieces, if_neg (Ne.symm slashless.1), induction slashless.2]
    rfl

theorem defect_eq_none {path : Path} : path.defect? = none ↔
    path.toText.IsPassable ∧ path.toText.encode.length < pathLimit := by
  have free : path.toText.unwritable? = none ↔ ∀ unit, .half unit ∉ path.toText := unwritableFrom?_eq_none_iff
  rw [defect?, Text.IsPassable, ← free]
  cases path.toText.unwritable? with
  | some run => simp
  | none =>
    by_cases null : .char '\x00' ∈ path.toText
    · simp [null]
    · by_cases long : pathLimit ≤ path.toText.encode.length
      · simp [null, long, Nat.not_lt.mpr long]
      · simp [null, long, Nat.lt_of_not_le long]

theorem to_text_child (folder : Path) (name : Text) :
    folder.toText = Text.of "." ∧ (folder.child name).toText = name ∨
      ∃ between, (between = [] ∨ between = [.char '/']) ∧
        (folder.child name).toText = folder.toText ++ between ++ name := by
  obtain ⟨anchor, steps⟩ := folder
  by_cases none : steps = []
  · subst none
    cases anchor with
    | here => exact .inl ⟨rfl, rfl⟩
    | root => exact .inr ⟨[], .inl rfl, rfl⟩
    | doubleRoot => exact .inr ⟨[], .inl rfl, rfl⟩
  · refine .inr ⟨[.char '/'], .inr rfl, ?_⟩
    have joined := Text.join_concat (Text.of "/") steps name
    rw [if_neg none, show Text.of "/" = [.char '/'] from rfl] at joined
    cases anchor <;> simp [toText, child, joined, none, show Text.of "/" = [.char '/'] from rfl]

theorem sound_of_child {folder : Path} {name : Text} (sound : (folder.child name).defect? = none) :
    folder.defect? = none := by
  rw [defect_eq_none] at sound ⊢
  rcases to_text_child folder name with ⟨dot, -⟩ | ⟨between, -, longer⟩
  · rw [dot]
    exact ⟨by simp [Text.IsPassable, Text.of, Text.ofChars], by decide⟩
  · rw [longer, Text.passable_append, Text.passable_append, Text.encode_append, Text.encode_append,
      List.length_append, List.length_append] at sound
    exact ⟨sound.1.1.1, by omega⟩

theorem child_sound {folder : Path} {name : Text} (sound : folder.defect? = none) (storable : name.IsStorable) :
    (folder.child name).defect? = none ∨
      (folder.child name).defect? = some (.nameTooLong (folder.child name).toText) := by
  have passable : (folder.child name).toText.IsPassable := by
    rcases to_text_child folder name with ⟨-, same⟩ | ⟨between, slash, longer⟩
    · rw [same]
      exact storable.1
    · rw [longer, Text.passable_append, Text.passable_append]
      refine ⟨⟨(defect_eq_none.mp sound).1, ?_⟩, storable.1⟩
      rcases slash with rfl | rfl
      · simp [Text.IsPassable]
      · simp [Text.IsPassable]
  by_cases short : (folder.child name).toText.encode.length < pathLimit
  · exact .inl (defect_eq_none.mpr ⟨passable, short⟩)
  · right
    have free : (folder.child name).toText.unwritable? = none := unwritableFrom?_eq_none_iff.mpr passable.1
    rw [defect?, free]
    simp only [if_neg passable.2, if_pos (Nat.not_lt.mp short)]

end Path

namespace FileTree

variable {tree : FileTree} {path : Path} {name : Text}

theorem named_is_some {inside : List (Text × Entry)} :
    (∃ entry, Entry.named? name inside = some entry) ↔ name ∈ inside.map (·.1) := by
  induction inside with
  | nil => simp [Entry.named?]
  | cons head rest induction =>
    obtain ⟨other, entry⟩ := head
    by_cases same : other = name
    · simp [Entry.named?, same]
    · simp [Entry.named?, same, Ne.symm same, induction]

theorem names_eq {location : Location} {inside : List (Text × Entry)} (located : tree.locate path = .ok location)
    (folder : tree.at? location = some (.folder inside)) : tree.names path = inside.map (·.1) := by
  simp only [names, located, folder]

theorem at_child {location : Location} {inside : List (Text × Entry)}
    (folder : tree.at? location = some (.folder inside)) :
    tree.at? (location ++ [name]) = Entry.named? name inside := by
  rw [at?, Entry.at?_append, ← at?, folder, Option.bind_some, Entry.at?]
  cases Entry.named? name inside <;> rfl

theorem mem_names : name ∈ tree.names path ↔
    ∃ location entry, tree.locate path = .ok location ∧ tree.at? (location ++ [name]) = some entry := by
  constructor
  · intro member
    rw [names] at member
    split at member
    · cases member
    · rename_i location located
      split at member
      · rename_i inside folder
        obtain ⟨entry, found⟩ := named_is_some.mpr member
        exact ⟨location, entry, located, (at_child folder).trans found⟩
      · cases member
  · rintro ⟨location, entry, located, found⟩
    obtain ⟨inside, folder⟩ := folder_of_at_inside found
    rw [names_eq located folder, ← named_is_some]
    exact ⟨entry, (at_child folder).symm.trans found⟩

theorem has_eq_error {kind : Entry → Bool} {fault : StorageFault} (failed : tree.has kind path = .error fault) :
    ∃ text, fault = .nameTooLong text := by
  rw [has] at failed
  cases located : tree.locate path with
  | ok location =>
    rw [located] at failed
    cases failed
  | error obstacle =>
    rw [located] at failed
    dsimp only at failed
    split at failed
    · cases failed
      exact ⟨_, rfl⟩
    · cases failed

theorem mem_names_of_has {kind : Entry → Bool} (forward : name ≠ Path.back)
    (has : tree.has kind (path.child name) = .ok true) : name ∈ tree.names path := by
  obtain ⟨location, entry, located, found, -⟩ := has_eq_true.mp has
  obtain ⟨sound, place, walked, -, -, rfl⟩ := (locate_child_eq_ok forward).mp located
  exact mem_names.mpr ⟨place, entry, locate_eq_ok.mpr ⟨Path.sound_of_child sound, walked⟩, found⟩

theorem has_of_mem_names (forward : name ≠ Path.back) (storable : name.IsStorable)
    (member : name ∈ tree.names path) :
    (∃ entry : Entry, ∀ kind, tree.has kind (path.child name) = .ok (kind entry)) ∨
      ∃ fault, ∀ kind, tree.has kind (path.child name) = .error fault := by
  obtain ⟨location, entry, located, found⟩ := mem_names.mp member
  obtain ⟨sound, walked⟩ := locate_eq_ok.mp located
  rcases Path.child_sound sound storable with short | long
  · have leads := (locate_child_eq_ok forward).mpr
      ⟨short, location, walked, folder_of_at_inside found, storable.2, rfl⟩
    refine .inl ⟨entry, fun kind => ?_⟩
    simp only [has, leads, found, Option.any_some]
  · refine .inr ⟨.nameTooLong (path.child name).toText, fun kind => ?_⟩
    rw [has, locate_eq, long]
    rfl

end FileTree

def Failure.IsOfStorage : Failure → Prop
  | .storage _ => True
  | _ => False

namespace Profile

theorem round_integer_avoids (value : Int) : Avoids Failure.IsOfStorage (roundInteger value) := by
  intro failure failed
  rw [round_integer_eq_error failed]
  exact id

theorem to_binary64_avoids (value : Json) : Avoids Failure.IsOfStorage value.toBinary64 := by
  unfold Json.toBinary64
  split
  · exact round_integer_avoids _
  · exact round_integer_avoids _
  · exact avoids_ok _
  · split
    · exact avoids_ok _
    · exact avoids_error id
  all_goals exact avoids_error id

theorem to_integer_avoids (value : Json) : Avoids Failure.IsOfStorage value.toInteger := by
  unfold Json.toInteger
  split
  · exact avoids_ok _
  · exact avoids_ok _
  · split
    · exact avoids_ok _
    · exact avoids_error id
  · split
    · exact avoids_ok _
    · exact avoids_error id
    · exact avoids_error id
  all_goals exact avoids_error id

theorem choice_avoids {Choice : Type} {first second : Prop} [Decidable first] [Decidable second]
    (one other : Choice) (fault : ValueFault) :
    Avoids Failure.IsOfStorage
      (if first then .ok one else if second then .ok other else .error (.value fault) :
        Except Failure Choice) := by
  split
  · exact avoids_ok _
  · split
    · exact avoids_ok _
    · exact avoids_error id

theorem member_avoids {Value : Type} {members : List (Text × Json)} {name : String}
    {read : Json → Except Failure Value} {fallback : Value}
    (reads : ∀ value, Avoids Failure.IsOfStorage (read value)) :
    Avoids Failure.IsOfStorage (member members name read fallback) := by
  unfold member
  split
  · exact reads _
  · exact avoids_ok _

theorem of_members_avoids (members : List (Text × Json)) : Avoids Failure.IsOfStorage (ofMembers members) := by
  unfold ofMembers
  refine avoids_bind (member_avoids fun _ => avoids_ok _) fun _ _ => ?_
  refine avoids_bind (member_avoids to_binary64_avoids) fun _ _ => ?_
  refine avoids_bind (member_avoids to_binary64_avoids) fun _ _ => ?_
  refine avoids_bind (member_avoids to_binary64_avoids) fun _ _ => ?_
  refine avoids_bind (member_avoids to_binary64_avoids) fun _ _ => ?_
  refine avoids_bind (member_avoids to_binary64_avoids) fun _ _ => ?_
  refine avoids_bind (member_avoids fun _ => choice_avoids _ _ _) fun _ _ => ?_
  refine avoids_bind (member_avoids to_binary64_avoids) fun _ _ => ?_
  refine avoids_bind (member_avoids to_integer_avoids) fun _ _ => ?_
  exact avoids_bind (member_avoids fun _ => choice_avoids _ _ _) fun _ _ => avoids_ok _

theorem of_bytes_avoids (content : List UInt8) : Avoids Failure.IsOfStorage (ofBytes content) := by
  unfold ofBytes
  dsimp only
  split
  · exact avoids_error id
  · split
    · rename_i json _
      cases json with
      | object members => exact of_members_avoids members
      | _ => exact avoids_error id
    · exact avoids_error id
    · exact avoids_error id
    · exact avoids_error id

end Profile

namespace ProfileFolder

open FileTree

variable {tree : FileTree} {path : Path} {folder : ProfileFolder} {name : Text}

theorem list_apply (path : Path) (tree : FileTree) :
    (list storage (.folder path) tree).1 =
      match tree.has Entry.isFolder path with
      | .error fault => .error (.storage fault)
      | .ok false => .ok []
      | .ok true => .ok (Text.sorted ((tree.names path).filter extension.isSuffixOf)) := by
  have asks : storage.isFolder path tree = (tree.has Entry.isFolder path, tree) := rfl
  rw [list, bind_apply, asks]
  cases tree.has Entry.isFolder path with
  | error fault => rfl
  | ok found => cases found <;> rfl

theorem list_in_order {names : List Text} (listed : (list storage (.folder path) tree).1 = .ok names) :
    names.Pairwise fun name other => name.precedes other = true := by
  rw [list_apply] at listed
  split at listed
  · cases listed
  · cases listed
    exact .nil
  · cases listed
    exact Text.sorted_pairwise _

/-- The name is among those that are listed. -/
def Lists (tree : FileTree) (folder : ProfileFolder) (name : Text) : Prop :=
  ∃ names, (list storage folder tree).1 = .ok names ∧ name ∈ names

/-- By the name nothing is loaded, because there is no such profile. -/
def Misses (tree : FileTree) (folder : ProfileFolder) (name : Text) : Prop :=
  (load storage folder (.name name) tree).1 = .error (.storage (.profileMissing name folder.shown))

theorem lists_iff (ends : extension.isSuffixOf name = true) :
    Lists tree (.folder path) name ↔ name ∈ tree.names path := by
  rw [Lists, list_apply]
  constructor
  · rintro ⟨names, listed, member⟩
    split at listed
    · cases listed
    · cases listed
      cases member
    · cases listed
      exact (List.mem_filter.mp (Text.mem_sorted.mp member)).1
  · intro member
    obtain ⟨location, entry, located, found⟩ := mem_names.mp member
    rw [has_folder_eq_true.mpr ⟨location, located, folder_of_at_inside found⟩]
    exact ⟨_, rfl, Text.mem_sorted.mpr (List.mem_filter.mpr ⟨member, ends⟩)⟩

theorem path_of_name (ends : extension.isSuffixOf name = true) (slashless : .char '/' ∉ name) :
    name ≠ [] ∧ name ≠ Path.back ∧ Path.ofText name = ⟨.here, [name]⟩ := by
  have long : extension.length ≤ name.length := (List.isSuffixOf_iff_suffix.mp ends).length_le
  have forward : name ≠ Path.back ∧ name ≠ [.char '.'] ∧ name ≠ [] := by
    refine ⟨?_, ?_, ?_⟩ <;> rintro rfl <;> exact absurd long (by decide)
  have pieces : Path.pieces name = [name] := Path.pieces_of_slashless slashless
  have anchor : Path.anchorOf name = .here := by
    cases name with
    | nil => rfl
    | cons first rest =>
      have other : (first == .char '/') = false := by
        rw [beq_eq_false_iff_ne]
        rintro rfl
        exact slashless List.mem_cons_self
      simp only [Path.anchorOf, List.takeWhile_cons, other]
      rfl
  refine ⟨forward.2.2, forward.1, ?_⟩
  simp [Path.ofText, pieces, anchor, Path.isStep, forward.2]

theorem profile_at_cases (path : Path) (tree : FileTree) :
    profileAt tree path = .ok none ∧ tree.has Entry.isFile path = .ok false ∨
      tree.has Entry.isFile path ≠ .ok false ∧ profileAt tree path ≠ .ok none ∧
        ∀ name shown, profileAt tree path ≠ .error (.storage (.profileMissing name shown)) := by
  rw [profileAt]
  cases found : tree.has Entry.isFile path with
  | error fault =>
    obtain ⟨text, rfl⟩ := has_eq_error found
    simp
  | ok isThere =>
    cases isThere with
    | false => simp
    | true =>
      obtain ⟨location, content, located, holds⟩ := has_file_eq_true.mp found
      have reads := Profile.of_bytes_avoids content
      rw [read_eq_ok.mpr ⟨location, located, holds⟩]
      dsimp only
      generalize Profile.ofBytes content = made at reads
      cases made with
      | ok profile => simp [Except.map]
      | error failure =>
        refine .inr ⟨by simp, by simp [Except.map], fun name shown same => ?_⟩
        cases same
        exact reads _ rfl trivial

theorem misses_iff (ends : extension.isSuffixOf name = true) (slashless : .char '/' ∉ name) :
    Misses tree (.folder path) name ↔ tree.has Entry.isFile (path.child name) = .ok false := by
  obtain ⟨some, -, single⟩ := path_of_name ends slashless
  have file : fileOf (.some name) = ⟨.here, [name]⟩ := by
    rw [fileOf, Option.getD_some, fileName_of_extension ends, single]
  have sought : profileIn tree (.folder path) (fileOf (.some name)) = profileAt tree (path.child name) := by
    rw [file]
    rfl
  have asked : asked? (.name name) = .ok (.some name) := by rw [asked?, if_neg some]
  rw [Misses, load_apply]
  dsimp only
  rw [loaded, asked, ok_bind, sought, Option.getD_some, fileName_of_extension ends]
  rcases profile_at_cases (path.child name) tree with ⟨missing, absent⟩ | ⟨there, found, other⟩
  · rw [missing, absent]
    simp [ok_bind]
  · refine iff_of_false ?_ there
    cases made : profileAt tree (path.child name) with
    | error failure =>
      rw [error_bind]
      intro same
      cases same
      exact other name path.toText made
    | ok profile =>
      cases profile with
      | none => exact absurd made found
      | some profile => simp only [ok_bind, reduceCtorEq, not_false_eq_true]

theorem load_extension {m : Type → Type} [Monad m] (disk : Storage m) (folder : ProfileFolder) (some : name ≠ [])
    (bare : extension.isSuffixOf name = false) :
    load disk folder (.name name) = load disk folder (.name (name ++ extension)) := by
  have longer : name ++ extension ≠ [] := fun none => some (List.append_eq_nil_iff.mp none).1
  have ends : extension.isSuffixOf (name ++ extension) = true :=
    List.isSuffixOf_iff_suffix.mpr (List.suffix_append _ _)
  have file : fileName name = name ++ extension := by
    rw [fileName, bare]
    rfl
  simp only [load, asked?, if_neg some, if_neg longer, Option.getD_some, file, fileName_of_extension ends,
    reduceCtorEq, if_false]

theorem agrees_iff (storable : ∀ name ∈ tree.names path, name.IsStorable)
    (ends : extension.isSuffixOf name = true) (slashless : .char '/' ∉ name) :
    ((Lists tree (.folder path) name ↔ ¬ Misses tree (.folder path) name) ↔
      tree.has Entry.isFolder (path.child name) ≠ .ok true ∧
        ∀ fault, tree.has Entry.isFile (path.child name) = .error fault → Lists tree (.folder path) name) := by
  have forward := (path_of_name ends slashless).2.1
  rw [lists_iff ends, misses_iff ends slashless]
  by_cases member : name ∈ tree.names path
  · rcases has_of_mem_names forward (storable name member) member with ⟨entry, leads⟩ | ⟨fault, fails⟩
    · rw [leads, leads]
      cases entry <;> simp [member, Entry.isFile, Entry.isFolder]
    · rw [fails, fails]
      simp [member]
  · have noFile := mt (@mem_names_of_has tree path name Entry.isFile forward) member
    have noFolder := mt (@mem_names_of_has tree path name Entry.isFolder forward) member
    simp only [member, noFolder, false_iff, not_not, ne_eq, not_false_eq_true, true_and, imp_false]
    cases found : tree.has Entry.isFile (path.child name) with
    | error fault => simp
    | ok isThere =>
      cases isThere with
      | false => simp
      | true => exact absurd found noFile

/-- Names of profiles are listed in order. Listing agrees with loading on each name of a file, unless a folder has
the name, or it is too long and not listed. The extension makes no difference to loading. -/
theorem listing_and_loading {tree : FileTree} {path : Path}
    (storable : ∀ name ∈ tree.names path, name.IsStorable) :
    (∀ names, (list storage (.folder path) tree).1 = .ok names →
      names.Pairwise fun name other => name.precedes other = true) ∧
    (∀ name, extension.isSuffixOf name = true → .char '/' ∉ name →
      ((Lists tree (.folder path) name ↔ ¬ Misses tree (.folder path) name) ↔
        tree.has Entry.isFolder (path.child name) ≠ .ok true ∧
          ∀ fault, tree.has Entry.isFile (path.child name) = .error fault → Lists tree (.folder path) name)) ∧
    ∀ {m : Type → Type} [Monad m] (disk : Storage m) (folder : ProfileFolder) (name : Text),
      name ≠ [] → extension.isSuffixOf name = false →
        load disk folder (.name name) = load disk folder (.name (name ++ extension)) :=
  ⟨fun _ listed => list_in_order listed, fun _ ends slashless => agrees_iff storable ends slashless,
    fun disk folder _ some bare => load_extension disk folder some bare⟩

theorem listing_and_loading_of_files :
    let tree : FileTree := ⟨[], .folder [(Text.of "p", .folder [(Text.of "b.json", .file []),
      (Text.of "a.json", .file []), (Text.of "notes", .file [])])]⟩
    let profiles : ProfileFolder := .folder ⟨.here, [Text.of "p"]⟩
    Lists tree profiles (Text.of "a.json") ∧ ¬ Misses tree profiles (Text.of "a.json") ∧
      load storage profiles (.name (Text.of "a")) = load storage profiles (.name (Text.of "a.json")) := by
  intro tree profiles
  have names : tree.names ⟨.here, [Text.of "p"]⟩ =
      [Text.of "b.json", Text.of "a.json", Text.of "notes"] := by decide
  have storable : ∀ name ∈ tree.names ⟨.here, [Text.of "p"]⟩, name.IsStorable := by
    rw [names]
    simp [Text.IsStorable, Text.IsPassable, Text.of, Text.ofChars]
    decide
  obtain ⟨-, agree, bare⟩ := listing_and_loading storable
  have listed : Lists tree profiles (Text.of "a.json") :=
    (lists_iff (by decide)).mpr (by rw [names]; decide)
  have agrees := (agree (Text.of "a.json") (by decide) (by decide)).mpr ⟨by decide, fun _ _ => listed⟩
  exact ⟨listed, agrees.mp listed, bare storage profiles (Text.of "a") (by decide) (by decide)⟩

/-- A folder whose name has the extension is listed like a profile, but it is none. -/
theorem lists_what_it_misses :
    let tree : FileTree := ⟨[], .folder [(Text.of "p", .folder [(Text.of "sub.json", .folder [])])]⟩
    let profiles : ProfileFolder := .folder ⟨.here, [Text.of "p"]⟩
    Lists tree profiles (Text.of "sub.json") ∧ Misses tree profiles (Text.of "sub.json") := by
  intro tree profiles
  exact ⟨(lists_iff (by decide)).mpr (by decide), (misses_iff (by decide) (by decide)).mpr (by decide)⟩

end ProfileFolder

end PrintParts
