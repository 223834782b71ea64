import PrintParts.FileTree
import PrintParts.Proofs.Outcome

/-!
Where paths lead in a tree of files. A tree grows as long as none of its folders goes: then a path that
led to a place leads to the same place. Setting a file, or an empty folder, in a folder that is there
makes a tree grow and leaves the content of all other files alone.
-/

namespace PrintParts

theorem Entry.at?_append (entry : Entry) (upper lower : Location) :
    entry.at? (upper ++ lower) = (entry.at? upper).bind fun inner => inner.at? lower := by
  induction upper generalizing entry with
  | nil => rfl
  | cons name names induction =>
    match entry with
    | .file _ => rfl
    | .folder inside =>
      rw [List.cons_append, at?, at?]
      cases named? name inside with
      | none => rfl
      | some next => exact induction next

namespace FileTree

def IsFolderAt (tree : FileTree) (location : Location) : Prop :=
  ∃ inside, tree.at? location = some (.folder inside)

/-- What the file at a location holds. -/
def content? (tree : FileTree) (location : Location) : Option (List UInt8) :=
  match tree.at? location with
  | some (.file content) => some content
  | _ => none

/-- The steps of a path from the root on. -/
def stepsOf (tree : FileTree) (path : Path) : List Text :=
  if path.anchor = .here then tree.home ++ path.steps else path.steps

/-- A walk that remembers no more than the location to which it has come. -/
def walkFrom (tree : FileTree) : Location → List Text → Except Obstacle Location
  | place, [] => .ok place
  | place, step :: steps =>
    match tree.at? place with
    | none => .error .nothing
    | some (.file _) => .error .file
    | some (.folder _) =>
      if stepLimit ≤ (Text.encode step).length then .error .longStep
      else if step = Path.back then walkFrom tree place.dropLast steps
      else walkFrom tree (place ++ [step]) steps

/-- Nothing that was a folder is anything else now. -/
structure Grows (tree after : FileTree) : Prop where
  home : after.home = tree.home
  folders : ∀ {location}, tree.IsFolderAt location → after.IsFolderAt location

variable {tree after : FileTree} {place location other : Location} {path : Path} {name : Text}

theorem content_eq_some {content : List UInt8} :
    tree.content? location = some content ↔ tree.at? location = some (.file content) := by
  unfold content?
  cases tree.at? location with
  | none => simp
  | some entry => cases entry <;> simp

theorem content_of_folder (folder : tree.IsFolderAt location) : tree.content? location = none := by
  obtain ⟨inside, found⟩ := folder
  rw [content?, found]

theorem folder_of_at_inside {name : Text} {names : Location} {entry : Entry}
    (found : tree.at? (location ++ name :: names) = some entry) : tree.IsFolderAt location := by
  rw [at?, Entry.at?_append] at found
  obtain ⟨inner, here, below⟩ := Option.bind_eq_some_iff.mp found
  cases inner with
  | file content => cases below
  | folder inside => exact ⟨inside, here⟩

theorem Grows.refl (tree : FileTree) : Grows tree tree := ⟨rfl, id⟩

theorem Grows.trans {middle : FileTree} (first : Grows tree middle) (second : Grows middle after) :
    Grows tree after :=
  ⟨second.home.trans first.home, fun folder => second.folders (first.folders folder)⟩

section

/-! The walk of a path comes to the same location as the walk with a trail. -/

inductive Trail.Stands (root : Entry) : Trail → Prop where
  | root : Stands root []
  | inside {trail : Trail} {inside : List (Text × Entry)} (above : Stands root trail)
      (leads : trail.end? root = some (.folder inside)) (name : Text) :
      Stands root ((name, Entry.named? name inside) :: trail)

def Trail.names (trail : Trail) : Location := trail.reverse.map (·.1)

theorem Trail.at_names {root : Entry} {trail : Trail} (stands : trail.Stands root) :
    root.at? trail.names = trail.end? root := by
  induction stands with
  | root => rfl
  | @inside trail inside above leads name induction =>
    have longer : Trail.names ((name, Entry.named? name inside) :: trail) =
        trail.names ++ [name] := by
      rw [names, names, List.reverse_cons, List.map_append]
      rfl
    rw [longer, Entry.at?_append, induction, leads, Option.bind_some, Entry.at?, Trail.end?]
    cases Entry.named? name inside <;> rfl

theorem Trail.stands_tail {root : Entry} {trail : Trail} (stands : trail.Stands root) :
    Trail.Stands root trail.tail := by
  cases stands with
  | root => exact .root
  | inside above leads name => exact above

theorem walk_eq {trail : Trail} (stands : trail.Stands tree.root) (steps : List Text) :
    (walk tree.root trail steps).map Trail.names = tree.walkFrom trail.names steps := by
  induction steps generalizing trail with
  | nil => rfl
  | cons step steps induction =>
    rw [walk, walkFrom, at?, Trail.at_names stands]
    cases leads : trail.end? tree.root with
    | none => rfl
    | some entry =>
      cases entry with
      | file content => rfl
      | folder inside =>
        by_cases long : stepLimit ≤ (Text.encode step).length
        · simp only [long, if_true]
          rfl
        · by_cases goesBack : step = Path.back
          · have shorter : Trail.names trail.tail = trail.names.dropLast := by
              cases trail <;> simp [Trail.names]
            subst goesBack
            simp only [long, if_true, if_false]
            rw [← shorter]
            exact induction (Trail.stands_tail stands)
          · have longer : Trail.names ((step, Entry.named? step inside) :: trail) =
                trail.names ++ [step] := by
              simp [Trail.names]
            simp only [long, goesBack, if_false]
            rw [← longer]
            exact induction (.inside stands leads step)

theorem locate_eq (tree : FileTree) (path : Path) :
    tree.locate path = match path.defect? with
      | some fault => .error (.defect fault)
      | none => tree.walkFrom [] (tree.stepsOf path) := by
  rw [locate]
  cases path.defect? with
  | some fault => rfl
  | none => exact walk_eq .root (tree.stepsOf path)

end

theorem locate_eq_ok : tree.locate path = .ok location ↔
    path.defect? = none ∧ tree.walkFrom [] (tree.stepsOf path) = .ok location := by
  rw [locate_eq]
  cases path.defect? <;> simp

theorem walk_append (tree : FileTree) (place : Location) (first second : List Text) :
    tree.walkFrom place (first ++ second) =
      tree.walkFrom place first >>= fun next => tree.walkFrom next second := by
  induction first generalizing place with
  | nil => rfl
  | cons step first induction =>
    rw [List.cons_append, walkFrom, walkFrom]
    split
    · rfl
    · rfl
    · split
      · rfl
      · split
        · exact induction _
        · exact induction _

theorem walk_step_eq_ok {name : Text} (forward : name ≠ Path.back) :
    tree.walkFrom place [name] = .ok location ↔
      tree.IsFolderAt place ∧ (Text.encode name).length < stepLimit ∧ location = place ++ [name] := by
  rw [walkFrom]
  cases found : tree.at? place with
  | none => simp [IsFolderAt, found]
  | some entry =>
    cases entry with
    | file content => simp [IsFolderAt, found]
    | folder inside =>
      by_cases long : stepLimit ≤ (Text.encode name).length
      · simp [long, Nat.not_lt.mpr long]
      · simp [IsFolderAt, found, long, forward, walkFrom, Nat.lt_of_not_le long, eq_comm]

theorem folder_of_walk {steps : List Text} (walked : tree.walkFrom place steps = .ok location)
    (start : ∀ above name, place = above ++ [name] → tree.IsFolderAt above) :
    ∀ above name, location = above ++ [name] → tree.IsFolderAt above := by
  induction steps generalizing place with
  | nil =>
    cases walked
    exact start
  | cons step steps induction =>
    rw [walkFrom] at walked
    cases found : tree.at? place with
    | none =>
      rw [found] at walked
      cases walked
    | some entry =>
      rw [found] at walked
      cases entry with
      | file content => cases walked
      | folder inside =>
        simp only at walked
        split at walked
        · cases walked
        · split at walked
          · refine induction walked fun above name shorter => ?_
            have whole : place = above ++ name :: place.drop (above.length + 1) := by
              have front := List.dropLast_prefix place
              rw [shorter] at front
              obtain ⟨behind, same⟩ := front
              rw [← same]
              simp
            exact folder_of_at_inside (whole ▸ found)
          · refine induction walked fun above name longer => ?_
            obtain ⟨same, -⟩ := List.append_inj' longer rfl
            exact same ▸ ⟨inside, found⟩

theorem folder_of_locate (located : tree.locate path = .ok location) :
    ∀ above name, location = above ++ [name] → tree.IsFolderAt above :=
  folder_of_walk (locate_eq_ok.mp located).2 fun above name none => by simp at none

theorem steps_of_child (tree : FileTree) (path : Path) (name : Text) :
    tree.stepsOf (path.child name) = tree.stepsOf path ++ [name] := by
  unfold stepsOf Path.child
  split <;> simp

theorem locate_child_eq_ok (forward : name ≠ Path.back) :
    tree.locate (path.child name) = .ok location ↔ (path.child name).defect? = none ∧
      ∃ place, tree.walkFrom [] (tree.stepsOf path) = .ok place ∧ tree.IsFolderAt place ∧
        (Text.encode name).length < stepLimit ∧ location = place ++ [name] := by
  rw [locate_eq_ok, steps_of_child, walk_append, bind_eq_ok]
  simp only [walk_step_eq_ok forward]

theorem Grows.walk (grows : Grows tree after) {steps : List Text}
    (walked : tree.walkFrom place steps = .ok location) :
    after.walkFrom place steps = .ok location := by
  induction steps generalizing place with
  | nil => exact walked
  | cons step steps induction =>
    rw [walkFrom] at walked ⊢
    cases found : tree.at? place with
    | none =>
      rw [found] at walked
      cases walked
    | some entry =>
      rw [found] at walked
      cases entry with
      | file content => cases walked
      | folder inside =>
        obtain ⟨later, foundLater⟩ := grows.folders ⟨inside, found⟩
        rw [foundLater]
        simp only at walked ⊢
        split at walked
        · cases walked
        · rename_i short
          rw [if_neg short]
          split at walked
          · rename_i goesBack
            rw [if_pos goesBack]
            exact induction walked
          · rename_i forward
            rw [if_neg forward]
            exact induction walked

theorem Grows.locate (grows : Grows tree after) (located : tree.locate path = .ok location) :
    after.locate path = .ok location := by
  obtain ⟨sound, walked⟩ := locate_eq_ok.mp located
  refine locate_eq_ok.mpr ⟨sound, ?_⟩
  rw [stepsOf, grows.home]
  exact grows.walk walked

section

variable {entry : Entry} (leaf : ∀ name names, entry.at? (name :: names) = none)
  (free : ¬ tree.IsFolderAt location)
  (inFolder : ∀ above name, location = above ++ [name] → tree.IsFolderAt above)

include leaf free inFolder

theorem at_put_other (different : other ≠ location) :
    (tree.put location entry).at? other = tree.at? other ∨
      (tree.put location entry).IsFolderAt other ∧ tree.IsFolderAt other := by
  by_cases below : location <+: other
  · left
    obtain ⟨inner, rfl⟩ := below
    cases inner with
    | nil => exact absurd (List.append_nil location) different
    | cons name names =>
      have nothing : tree.at? (location ++ name :: names) = none := by
        refine Option.eq_none_iff_forall_ne_some.mpr fun found there => ?_
        exact free (folder_of_at_inside there)
      rw [nothing, at?, Entry.at?_append, ← at?, at?_put_self, Option.bind_some, leaf]
  · by_cases above : other <+: location
    · right
      obtain ⟨inner, whole⟩ := above
      cases inner with
      | nil => exact absurd (by rw [← whole, List.append_nil]) different
      | cons name names =>
        have set := tree.at?_put_self location entry
        rw [← whole] at set ⊢
        refine ⟨folder_of_at_inside set, ?_⟩
        have upper := inFolder location.dropLast (location.getLast (by simp [← whole]))
          (List.dropLast_append_getLast _).symm
        cases names with
        | nil => simpa [← whole] using upper
        | cons next names =>
          obtain ⟨inside, found⟩ := upper
          have longer : location.dropLast = other ++ name :: (next :: names).dropLast := by
            rw [← whole, List.dropLast_append_cons, List.dropLast_cons_cons]
          exact folder_of_at_inside (longer ▸ found)
    · exact .inl (tree.at?_put_beside entry below above)

theorem content_put_other (different : other ≠ location) :
    (tree.put location entry).content? other = tree.content? other := by
  cases at_put_other leaf free inFolder different with
  | inl same => rw [content?, content?, same]
  | inr folders => rw [content_of_folder folders.1, content_of_folder folders.2]

theorem grows_put : Grows tree (tree.put location entry) := by
  refine ⟨rfl, fun {other} folder => ?_⟩
  have different : other ≠ location := fun same => free (same ▸ folder)
  cases at_put_other leaf free inFolder different with
  | inl same =>
    obtain ⟨inside, found⟩ := folder
    exact ⟨inside, same.trans found⟩
  | inr folders => exact folders.1

end

end FileTree

end PrintParts
