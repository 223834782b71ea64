import PrintParts.Storage

/-!
A tree of files and folders. A folder holds entries by their names, and a location is the list of names
that lead from the root to an entry. Setting an entry shows at its own location, and nowhere beside it.

Paths start at the root or at the home of the tree, the folder where one stands, and are walked through
step by step: only a folder leads on, and a step back leads to the folder around it. Around the root
there is only the root again.
-/

namespace PrintParts

/-- Names from the root of a tree down to one of its entries. -/
abbrev Location := List Text

inductive Entry where
  | file (content : List UInt8)
  | folder (inside : List (Text × Entry))
  deriving Inhabited

namespace Entry

def named? (name : Text) : List (Text × Entry) → Option Entry
  | [] => none
  | (other, entry) :: rest => if other = name then some entry else named? name rest

/-- The entries of a folder with one set; a new one goes to the end. -/
def setNamed (name : Text) (entry : Entry) : List (Text × Entry) → List (Text × Entry)
  | [] => [(name, entry)]
  | head :: rest =>
    if head.1 = name then (name, entry) :: rest else head :: setNamed name entry rest

def at? : Entry → Location → Option Entry
  | entry, [] => some entry
  | .file _, _ :: _ => none
  | .folder inside, name :: names =>
    match named? name inside with
    | some entry => entry.at? names
    | none => none

/-- Sets what stands at a location below an entry that may be there. Whatever does not lead on becomes a
folder. -/
def put (entry : Entry) : Location → Option Entry → Entry
  | [], _ => entry
  | name :: names, some (.folder inside) =>
    .folder (setNamed name (put entry names (named? name inside)) inside)
  | name :: names, _ => .folder [(name, put entry names none)]

theorem named?_setNamed (name other : Text) (entry : Entry) (inside : List (Text × Entry)) :
    named? other (setNamed name entry inside) =
      if name = other then some entry else named? other inside := by
  induction inside with
  | nil => simp [setNamed, named?]
  | cons head rest induction =>
    by_cases here : head.1 = name
    · by_cases same : name = other <;> simp [setNamed, named?, here, same]
    · by_cases there : head.1 = other
      · have different : ¬ name = other := fun same => here (there.trans same.symm)
        simp [setNamed, named?, there, different, Ne.symm different]
      · simp [setNamed, named?, here, there, induction]

theorem setNamed_of_named? {name : Text} {entry : Entry} {inside : List (Text × Entry)}
    (found : named? name inside = some entry) : setNamed name entry inside = inside := by
  induction inside with
  | nil => simp [named?] at found
  | cons head rest induction =>
    obtain ⟨other, first⟩ := head
    by_cases here : other = name
    · simp only [named?, here, if_true, Option.some.injEq] at found
      simp [setNamed, here, found]
    · simp only [named?, here, if_false] at found
      simp [setNamed, here, induction found]

theorem at?_put_self (entry : Entry) (location : Location) (old : Option Entry) :
    (put entry location old).at? location = some entry := by
  induction location generalizing old with
  | nil => simp [put, at?]
  | cons name names induction =>
    match old with
    | none => simp [put, at?, named?, induction]
    | some (.file _) => simp [put, at?, named?, induction]
    | some (.folder inside) => simp [put, at?, named?_setNamed, induction]

theorem at?_put_beside (entry : Entry) {location other : Location} (old : Option Entry)
    (below : ¬ location <+: other) (above : ¬ other <+: location) :
    (put entry location old).at? other = old.bind (·.at? other) := by
  induction location generalizing other old with
  | nil => simp at below
  | cons name names induction =>
    match other with
    | [] => simp at above
    | first :: others =>
      by_cases same : name = first
      · subst same
        have inner := fun old => @induction others old
          (fun within => below (List.cons_prefix_cons.2 ⟨rfl, within⟩))
          (fun within => above (List.cons_prefix_cons.2 ⟨rfl, within⟩))
        match old with
        | none => simp [put, at?, named?, inner]
        | some (.file _) => simp [put, at?, named?, inner]
        | some (.folder inside) =>
          cases found : named? name inside <;> simp [put, at?, named?_setNamed, inner, found]
      · match old with
        | none => simp [put, at?, named?, same]
        | some (.file _) => simp [put, at?, named?, same]
        | some (.folder inside) => simp [put, at?, named?_setNamed, same]

/-- Setting what stands there already changes nothing. -/
theorem put_of_at? {entry old : Entry} {location : Location} (found : old.at? location = some entry) :
    put entry location (some old) = old := by
  induction location generalizing old with
  | nil => simpa [put, at?] using found.symm
  | cons name names induction =>
    match old with
    | .file _ => simp [at?] at found
    | .folder inside =>
      cases there : named? name inside with
      | none => simp [at?, there] at found
      | some next =>
        simp only [at?, there] at found
        simp [put, there, induction found, setNamed_of_named? there]

def isFile : Entry → Bool
  | .file _ => true
  | .folder _ => false

def isFolder : Entry → Bool
  | .file _ => false
  | .folder _ => true

mutual

def files : Entry → List Location
  | .file _ => [[]]
  | .folder inside => filesInside inside

def filesInside : List (Text × Entry) → List Location
  | [] => []
  | (name, entry) :: rest => entry.files.map (name :: ·) ++ filesInside rest

end

end Entry

structure FileTree where
  home : Location
  root : Entry

namespace FileTree

def empty (home : Location) : FileTree := ⟨home, .put (.folder []) home none⟩

def at? (tree : FileTree) (location : Location) : Option Entry := tree.root.at? location

def put (tree : FileTree) (location : Location) (entry : Entry) : FileTree :=
  { tree with root := entry.put location (some tree.root) }

theorem at?_put_self (tree : FileTree) (location : Location) (entry : Entry) :
    (tree.put location entry).at? location = some entry :=
  entry.at?_put_self location _

theorem at?_put_beside (tree : FileTree) {location other : Location} (entry : Entry)
    (below : ¬ location <+: other) (above : ¬ other <+: location) :
    (tree.put location entry).at? other = tree.at? other :=
  entry.at?_put_beside _ below above

inductive Obstacle where
  /-- A folder on the way is not there. -/
  | nothing
  /-- A file is on the way. -/
  | file
  /-- A step has more bytes than a name may have. -/
  | longStep
  /-- The path as a whole is unusable. -/
  | defect (fault : StorageFault)
  deriving DecidableEq

/-- How a walk has come down from the root: each name with what stands there, the last one first. -/
abbrev Trail := List (Text × Option Entry)

def Trail.end? (root : Entry) : Trail → Option Entry
  | [] => some root
  | (_, entry) :: _ => entry

def walk (root : Entry) : Trail → List Text → Except Obstacle Trail
  | trail, [] => .ok trail
  | trail, step :: steps =>
    match trail.end? root with
    | none => .error .nothing
    | some (.file _) => .error .file
    | some (.folder inside) =>
      if stepLimit ≤ (Text.encode step).length then .error .longStep
      else if step = Path.back then walk root trail.tail steps
      else walk root ((step, Entry.named? step inside) :: trail) steps

/-- The location that a path leads to, whether or not something stands there. -/
def locate (tree : FileTree) (path : Path) : Except Obstacle Location :=
  match path.defect? with
  | some fault => .error (.defect fault)
  | none =>
    let steps := if path.anchor = .here then tree.home ++ path.steps else path.steps
    (walk tree.root [] steps).map fun trail => trail.reverse.map (·.1)

def Obstacle.fault (path : Path) : Obstacle → StorageFault
  | .nothing => .missing path.toText
  | .file => .notADirectory path.toText
  | .longStep => .nameTooLong path.toText
  | .defect fault => fault

/-- Whether an entry of some kind is at the end of a path. Only a name that is too long is a fault. -/
def has (tree : FileTree) (kind : Entry → Bool) (path : Path) : Except StorageFault Bool :=
  match tree.locate path with
  | .ok location => .ok ((tree.at? location).any kind)
  | .error obstacle =>
    match obstacle.fault path with
    | .nameTooLong path => .error (.nameTooLong path)
    | _ => .ok false

def names (tree : FileTree) (path : Path) : List Text :=
  match tree.locate path with
  | .error _ => []
  | .ok location =>
    match tree.at? location with
    | some (.folder inside) => inside.map (·.1)
    | _ => []

def read (tree : FileTree) (path : Path) : Except StorageFault (List UInt8) :=
  match tree.locate path with
  | .error obstacle => .error (obstacle.fault path)
  | .ok location =>
    match tree.at? location with
    | none => .error (.missing path.toText)
    | some (.folder _) => .error (.isADirectory path.toText)
    | some (.file content) => .ok content

def write (tree : FileTree) (path : Path) (content : List UInt8) : Except StorageFault FileTree :=
  match tree.locate path with
  | .error obstacle => .error (obstacle.fault path)
  | .ok location =>
    match tree.at? location with
    | some (.folder _) => .error (.isADirectory path.toText)
    | _ => .ok (tree.put location (.file content))

def makeFolder (tree : FileTree) (path : Path) : Except StorageFault FileTree :=
  match tree.locate path with
  | .error obstacle => .error (obstacle.fault path)
  | .ok location =>
    match tree.at? location with
    | none => .ok (tree.put location (.folder []))
    | some (.folder _) => .ok tree
    | some (.file _) => .error (.alreadyExists path.toText)

def change (step : FileTree → Except StorageFault FileTree) :
    StateM FileTree (Except StorageFault Unit) := fun tree =>
  match step tree with
  | .ok next => (.ok (), next)
  | .error fault => (.error fault, tree)

def storage : Storage (StateM FileTree) where
  isFile path := fun tree => (tree.has Entry.isFile path, tree)
  isFolder path := fun tree => (tree.has Entry.isFolder path, tree)
  names path := fun tree => (tree.names path, tree)
  read path := fun tree => (tree.read path, tree)
  makeFolder path := change fun tree => tree.makeFolder path
  write path content := change fun tree => tree.write path content

end FileTree

end PrintParts
