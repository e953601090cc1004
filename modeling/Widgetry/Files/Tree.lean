/-!
A tree of directories and files, seen through paths. Places are lists of names from the root. A path
is followed name by name, and every name but the last one has to be that of a directory. Main
statement: a text that was written is what is read.

## Sections

1. Places and paths.
2. Trees.
3. Reading and writing.
-/

namespace Widgetry

/-- What can go wrong with a file or directory. -/
inductive FileError where
  | missing
  | occupied
  | notDirectory
  | isDirectory
  | nameTooLong
  | noName
  | notText
  deriving Repr, DecidableEq

/-- The message of an error. -/
def FileError.message : FileError → String
  | .missing => "No such file or directory (os error 2)"
  | .occupied => "File exists (os error 17)"
  | .notDirectory => "Not a directory (os error 20)"
  | .isDirectory => "Is a directory (os error 21)"
  | .nameTooLong => "File name too long (os error 36)"
  | .noName => "file name contained an unexpected NUL byte"
  | .notText => "stream did not contain valid UTF-8"

/-! ## 1. Places and paths -/

/-- A place in a tree: the names that lead to it from the root. -/
abbrev Place := List String

/-- The greatest length of a name in bytes. -/
def longestName : Nat := 255

/-- The greatest length of a path in bytes. -/
def longestPath : Nat := 4095

namespace Path

/-- The pieces between the slashes of a text. -/
def pieces : List Char → List (List Char)
  | [] => [[]]
  | c :: cs => if c == '/' then [] :: pieces cs else (pieces cs).modifyHead (c :: ·)

/-- The names between the slashes of a path. -/
def names (path : String) : List String := (pieces path.toList).map String.ofList

/-- Whether a path starts at the root. -/
def isAbsolute (path : String) : Bool := path.toList.head? == some '/'

/-- The place where a path starts. -/
def start (current : Place) (path : String) : Place := if isAbsolute path then [] else current

/-- Whether a path has the character that ends names in the system, so that it names nothing. -/
def hasNul (path : String) : Bool := path.toList.contains '\x00'

/-- A path seen from a directory. -/
def join (directory path : String) : String :=
  if isAbsolute path || directory.isEmpty then path
  else if directory.toList.getLast? == some '/' then directory ++ path
  else directory ++ "/" ++ path

end Path

/-! ## 2. Trees -/

/-- What a file holds: text, or bytes that are no text. -/
inductive Content where
  | text (s : String)
  | bytes
  deriving Repr, DecidableEq

/-- What is at a place. -/
inductive Node where
  | directory
  | file (content : Content)
  deriving Repr, DecidableEq

/-- A tree by what is at its places, the latest entry first. The root is a directory. -/
structure FileTree where
  nodes : List (Place × Node)
  deriving Repr, DecidableEq

namespace FileTree

/-- The tree with nothing but its root. -/
def empty : FileTree := ⟨[]⟩

/-- What is at a place. -/
def node? (t : FileTree) (place : Place) : Option Node :=
  if place.isEmpty then some .directory
  else (t.nodes.find? fun e => e.1 == place).map Prod.snd

/-- Puts something at a place. -/
def put (t : FileTree) (place : Place) (node : Node) : FileTree := ⟨(place, node) :: t.nodes⟩

theorem node?_put_self (t : FileTree) {place : Place} (h : place ≠ []) (node : Node) :
    (t.put place node).node? place = some node := by
  simp [node?, put, h]

theorem node?_put_of_ne (t : FileTree) {place other : Place} (h : place ≠ other) (node : Node) :
    (t.put place node).node? other = t.node? other := by
  simp [node?, put, h]

/-- Follows one name from a directory. -/
def step (t : FileTree) (place : Place) (name : String) : Except FileError Place :=
  match t.node? place with
  | none => .error .missing
  | some (.file _) => .error .notDirectory
  | some .directory =>
    if name == "" || name == "." then .ok place
    else if name == ".." then .ok place.dropLast
    else if longestName < name.utf8ByteSize then .error .nameTooLong
    else .ok (place ++ [name])

theorem step_put_of_ne (t : FileTree) {place target : Place} (h : target ≠ place) (node : Node)
    (name : String) : (t.put target node).step place name = t.step place name := by
  rw [step, step, node?_put_of_ne t h]

theorem node?_of_step {t : FileTree} {place next : Place} {name : String}
    (h : t.step place name = .ok next) : t.node? place = some .directory := by
  rw [step] at h
  split at h
  · simp at h
  · simp at h
  · assumption

/-- Follows names from a place. -/
def follow (t : FileTree) : Place → List String → Except FileError Place
  | place, [] => .ok place
  | place, name :: names =>
    match t.step place name with
    | .ok next => t.follow next names
    | .error e => .error e

/-- Putting something where no directory was changes no way. -/
theorem follow_put {t : FileTree} {target : Place} (ht : t.node? target ≠ some .directory)
    (node : Node) {place stop : Place} {names : List String}
    (h : t.follow place names = .ok stop) : (t.put target node).follow place names = .ok stop := by
  induction names generalizing place with
  | nil => simpa [follow] using h
  | cons name names ih =>
    rw [follow] at h ⊢
    cases hs : t.step place name with
    | error e => simp [hs] at h
    | ok next =>
      have hne : target ≠ place := fun he => ht (he ▸ node?_of_step hs)
      rw [hs] at h
      rw [step_put_of_ne t hne, hs]
      exact ih h

/-- The place of a path, at which there may be nothing yet. -/
def resolve (t : FileTree) (current : Place) (path : String) : Except FileError Place :=
  if path.isEmpty then .error .missing
  else if Path.hasNul path then .error .noName
  else if longestPath < path.utf8ByteSize then .error .nameTooLong
  else t.follow (Path.start current path) (Path.names path)

theorem resolve_put {t : FileTree} {current target stop : Place} {path : String}
    (ht : t.node? target ≠ some .directory) (node : Node)
    (h : t.resolve current path = .ok stop) :
    (t.put target node).resolve current path = .ok stop := by
  rw [resolve] at h ⊢
  split at h
  · simp at h
  · rename_i hempty
    split at h
    · simp at h
    · rename_i hnul
      split at h
      · simp at h
      · rename_i hlong
        rw [if_neg hempty, if_neg hnul, if_neg hlong]
        exact follow_put ht node h

/-! ## 3. Reading and writing -/

/-- Whether a path leads to a file. -/
def isFile (t : FileTree) (current : Place) (path : String) : Bool :=
  match t.resolve current path with
  | .ok place => match t.node? place with
    | some (.file _) => true
    | _ => false
  | .error _ => false

/-- The text of the file that a path leads to. -/
def read (t : FileTree) (current : Place) (path : String) : Except FileError String :=
  match t.resolve current path with
  | .error e => .error e
  | .ok place =>
    match t.node? place with
    | none => .error .missing
    | some .directory => .error .isDirectory
    | some (.file .bytes) => .error .notText
    | some (.file (.text s)) => .ok s

/-- Writes a text to the file that a path leads to, which is made unless it is there. -/
def write (t : FileTree) (current : Place) (path text : String) : Except FileError FileTree :=
  match t.resolve current path with
  | .error e => .error e
  | .ok place =>
    match t.node? place with
    | some .directory => .error .isDirectory
    | _ => .ok (t.put place (.file (.text text)))

/-- A text that was written is what is read. -/
theorem read_of_write {t t' : FileTree} {current : Place} {path text : String}
    (h : t.write current path text = .ok t') : t'.read current path = .ok text := by
  rw [write] at h
  split at h
  · simp at h
  · rename_i place hplace
    split at h
    · simp at h
    · rename_i hnode
      have hdir : t.node? place ≠ some .directory := hnode
      have hroot : place ≠ [] := fun he => hdir (by simp [he, node?])
      obtain rfl := Except.ok.inj h
      rw [read, resolve_put hdir _ hplace]
      simp [node?_put_self t hroot]

/-- Makes the directories that names lead through. A file at the last name is in the way, and one
before it is no directory. -/
def makeAll (t : FileTree) : Place → List String → Except FileError FileTree
  | _, [] => .ok t
  | place, name :: names =>
    match t.step place name with
    | .error e => .error e
    | .ok next =>
      match t.node? next with
      | some .directory => t.makeAll next names
      | some (.file _) => .error (if names.all (·.isEmpty) then .occupied else .notDirectory)
      | none => (t.put next .directory).makeAll next names

/-- Makes the directory of a path with all directories above it; the empty path needs none. -/
def makeDirectories (t : FileTree) (current : Place) (path : String) : Except FileError FileTree :=
  if path.isEmpty then .ok t
  else if Path.hasNul path then .error .noName
  else if longestPath < path.utf8ByteSize then .error .nameTooLong
  else t.makeAll (Path.start current path) (Path.names path)

end FileTree

end Widgetry
